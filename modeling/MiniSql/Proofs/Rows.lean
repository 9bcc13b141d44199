import Mathlib.Data.List.Nodup
import MiniSql.Row

/-!
# Rows as ordered maps

A row holds one value for a name, and its names stand in the order in which they were first
written. One write either changes the value of the field with the name, in its place, or puts a new
field at the end; this needs that names are distinct, and keeps them so. The rest follows for any
number of writes, and a row that is made of fields is the empty row after their writes.

**Results.**
* `fields_set`: what one write does to the fields of a row.
* `names_setAll`, `get?_setAll`: names and values after several writes.
* `ofFields_of_nodup`: fields of different names make a row as they are.
* `insertion_ordered`: rows are maps in the order of insertion.
-/

namespace MiniSql

namespace Row

/-! ## Reading fields -/

theorem getField?_eq_find? (name : String) (fields : List Field) :
    getField? name fields = (fields.find? (·.1 = name)).map Prod.snd := by
  induction fields with
  | nil => rfl
  | cons f fs ih =>
      rw [getField?, List.find?_cons, ih]
      by_cases hf : f.1 = name <;> simp [hf]

theorem getField?_append (name : String) (fields others : List Field) :
    getField? name (fields ++ others) = (getField? name fields).or (getField? name others) := by
  simp only [getField?_eq_find?, List.find?_append, Option.map_or]

theorem isSome_getField?_iff (name : String) (fields : List Field) :
    (getField? name fields).isSome = true ↔ name ∈ fields.map Prod.fst := by
  simp [getField?_eq_find?, List.find?_isSome]

theorem getField?_eq_none {name : String} {fields : List Field}
    (h : name ∉ fields.map Prod.fst) : getField? name fields = none := by
  rwa [← isSome_getField?_iff, Option.not_isSome_iff_eq_none] at h

/-- Fields of another name do not matter. -/
theorem getField?_filter_ne {fields : List Field} {name other : String} (h : name ≠ other) :
    getField? name (fields.filter (·.1 ≠ other)) = getField? name fields := by
  induction fields with
  | nil => rfl
  | cons f fs ih =>
      by_cases hf : f.1 = other
      · have hname : f.1 ≠ name := fun hfn => h (hfn.symm.trans hf)
        rw [List.filter_cons_of_neg (by simpa using hf), getField?, if_neg hname, ih]
      · rw [List.filter_cons_of_pos (by simpa using hf), getField?, getField?, ih]

/-- A name that occurs at most once is found from either end. -/
theorem getField?_reverse {fields : List Field} {name : String}
    (h : (fields.map Prod.fst).count name ≤ 1) :
    getField? name fields.reverse = getField? name fields := by
  induction fields with
  | nil => rfl
  | cons f fs ih =>
      rw [List.reverse_cons, getField?_append]
      by_cases hf : f.1 = name
      · have hrest : (fs.map Prod.fst).count name = 0 := by
          simp only [List.map_cons, hf, List.count_cons_self] at h
          omega
        have hnone : getField? name fs.reverse = none := by
          rw [ih (by omega)]
          exact getField?_eq_none (List.count_eq_zero.mp hrest)
        simp [hnone, getField?, hf]
      · simp only [List.map_cons, List.count_cons_of_ne hf] at h
        simp [getField?, hf, ih h]

/-- The last of the values given for a name. -/
theorem getField?_reverse_eq_getLast? (name : String) (fields : List Field) :
    getField? name fields.reverse =
      ((fields.filter (·.1 = name)).map Prod.snd).getLast? := by
  rw [getField?_eq_find?, ← List.head?_filter, List.filter_reverse, List.head?_reverse,
    List.getLast?_map]

/-- Where names are distinct, every field is found by its name. -/
theorem getField?_of_mem {fields : List Field} (h : (fields.map Prod.fst).Nodup) {f : Field}
    (hf : f ∈ fields) : getField? f.1 fields = some f.2 := by
  induction fields with
  | nil => cases hf
  | cons g gs ih =>
      obtain ⟨hnew, hrest⟩ := List.nodup_cons.mp h
      rcases List.mem_cons.mp hf with rfl | hf
      · rw [getField?, if_pos rfl]
      · have hne : g.1 ≠ f.1 := fun heq => hnew (heq ▸ List.mem_map_of_mem hf)
        rw [getField?, if_neg hne, ih hrest hf]

/-! ## One write -/

/-- A field that exists keeps its place, and a new one goes to the end. -/
theorem map_fst_setField (name : String) (value : Value) (fields : List Field) :
    (setField name value fields).map Prod.fst =
      if name ∈ fields.map Prod.fst then fields.map Prod.fst
      else fields.map Prod.fst ++ [name] := by
  induction fields with
  | nil => rfl
  | cons f fs ih =>
      by_cases hf : f.1 = name
      · subst hf
        simp [setField]
      · have hname : ¬ name = f.1 := fun h => hf h.symm
        simp only [setField, if_neg hf, List.map_cons, ih, List.mem_cons, hname, false_or]
        split <;> rfl

theorem names_set (row : Row) (name : String) (value : Value) :
    (row.set name value).names =
      if name ∈ row.names then row.names else row.names ++ [name] :=
  map_fst_setField name value row.fields

theorem nodup_names_set {row : Row} (h : row.names.Nodup) (name : String) (value : Value) :
    (row.set name value).names.Nodup := by
  rw [names_set]
  split
  · exact h
  · next hnew =>
      rw [← List.concat_eq_append]
      exact (List.nodup_concat _ _).mpr ⟨hnew, h⟩

theorem setField_of_not_mem {name : String} {value : Value} {fields : List Field}
    (h : name ∉ fields.map Prod.fst) : setField name value fields = fields ++ [(name, value)] := by
  induction fields with
  | nil => rfl
  | cons f fs ih =>
      obtain ⟨hne, hrest⟩ := not_or.mp (mt List.mem_cons.mpr h)
      rw [setField, if_neg (Ne.symm hne), ih hrest, List.cons_append]

/-- Only the first field of the name is changed, and there is no second one. -/
theorem setField_of_mem {name : String} (value : Value) {fields : List Field}
    (hdistinct : (fields.map Prod.fst).Nodup) (h : name ∈ fields.map Prod.fst) :
    setField name value fields =
      fields.map fun f => if f.1 = name then (name, value) else f := by
  induction fields with
  | nil => cases h
  | cons f fs ih =>
      obtain ⟨hnew, hrest⟩ := List.nodup_cons.mp hdistinct
      rw [setField, List.map_cons]
      by_cases hf : f.1 = name
      · have hsame : ∀ g ∈ fs, (if g.1 = name then (name, value) else g) = g := by
          intro g hg
          have hne : g.1 ≠ name := fun hname =>
            hnew (List.mem_map.mpr ⟨g, hg, hname.trans hf.symm⟩)
          exact if_neg hne
        rw [if_pos hf, if_pos hf, List.map_congr_left hsame, List.map_id']
      · have hmem := (List.mem_cons.mp h).resolve_left (Ne.symm hf)
        rw [if_neg hf, if_neg hf, ih hrest hmem]

/-- A write changes a field in its place or puts a new one at the end. -/
theorem fields_set {row : Row} (h : row.names.Nodup) (name : String) (value : Value) :
    (row.set name value).fields =
      if name ∈ row.names then row.fields.map fun f => if f.1 = name then (name, value) else f
      else row.fields ++ [(name, value)] := by
  split
  · next hmem => exact setField_of_mem value h hmem
  · next hnew => exact setField_of_not_mem hnew

/-- A field stays where it is, and a write of another name does not change it. -/
theorem getElem?_fields_set {row : Row} (h : row.names.Nodup) {i : Nat} {f : Field}
    (hf : row.fields[i]? = some f) (name : String) (value : Value) :
    (row.set name value).fields[i]? = some (f.1, if f.1 = name then value else f.2) := by
  rw [fields_set h]
  split
  · rw [List.getElem?_map, hf, Option.map_some]
    split
    · next hname => rw [hname]
    · rfl
  · next hnew =>
      have hne : f.1 ≠ name := fun hname =>
        hnew (List.mem_map.mpr ⟨f, List.mem_of_getElem? hf, hname⟩)
      obtain ⟨hi, -⟩ := List.getElem?_eq_some_iff.mp hf
      rw [if_neg hne, List.getElem?_append_left hi, hf]

/-! ## Several writes -/

theorem setAll_cons (row : Row) (f : Field) (fs : List Field) :
    row.setAll (f :: fs) = (row.set f.1 f.2).setAll fs := rfl

/-- Fields that exist keep their places, and new ones go to the end in the order in which they
are first set. -/
theorem names_setAll (row : Row) (fields : List Field) :
    (row.setAll fields).names =
      row.names ++ ((fields.map Prod.fst).filter (· ∉ row.names)).eraseDups := by
  induction fields generalizing row with
  | nil => simp [setAll]
  | cons f fs ih =>
      rw [setAll_cons, ih, names_set, List.map_cons]
      by_cases hf : f.1 ∈ row.names
      · rw [if_pos hf, List.filter_cons_of_neg (by simpa using hf)]
      · rw [if_neg hf, List.filter_cons_of_pos (by simpa using hf), List.eraseDups_cons,
          List.filter_filter, List.append_assoc, List.singleton_append]
        congr 3
        apply List.filter_congr
        intro name _
        by_cases hname : name = f.1 <;> simp [hname]

theorem nodup_names_setAll {row : Row} (h : row.names.Nodup) (fields : List Field) :
    (row.setAll fields).names.Nodup := by
  induction fields generalizing row with
  | nil => exact h
  | cons f fs ih => exact ih (nodup_names_set h f.1 f.2)

/-- Of the values set for a field the last one counts. -/
theorem get?_setAll (row : Row) (fields : List Field) (name : String) :
    (row.setAll fields).get? name = (getField? name fields.reverse).or (row.get? name) := by
  induction fields generalizing row with
  | nil => rfl
  | cons f fs ih =>
      rw [setAll_cons, ih, get?_set, List.reverse_cons, getField?_append, Option.or_assoc]
      congr 1
      by_cases hname : name = f.1
      · simp [getField?, hname]
      · simp [getField?, hname, Ne.symm hname]

/-- Setting fields of other names keeps the value of a field. -/
theorem get?_setAll_of_ne {row : Row} {fields : List Field} {name : String}
    (hfields : ∀ f ∈ fields, f.1 ≠ name) :
    (row.setAll fields).get? name = row.get? name := by
  have hother : name ∉ fields.reverse.map Prod.fst := by
    intro hmem
    obtain ⟨f, hf, hname⟩ := List.mem_map.mp hmem
    exact hfields f (List.mem_reverse.mp hf) hname
  rw [get?_setAll, getField?_eq_none hother, Option.none_or]

/-- Every field stays where it is, with the last value that is set for its name. -/
theorem getElem?_fields_setAll {row : Row} (h : row.names.Nodup) {i : Nat} {f : Field}
    (hf : row.fields[i]? = some f) (fields : List Field) :
    (row.setAll fields).fields[i]? =
      some (f.1, (getField? f.1 fields.reverse).getD f.2) := by
  induction fields generalizing row f with
  | nil => exact hf
  | cons g gs ih =>
      rw [setAll_cons, ih (nodup_names_set h g.1 g.2) (getElem?_fields_set h hf g.1 g.2),
        List.reverse_cons, getField?_append]
      cases getField? f.1 gs.reverse with
      | some value => rfl
      | none => by_cases hname : f.1 = g.1 <;> simp [getField?, hname, Ne.symm]

theorem setAll_of_nodup {front fields : List Field}
    (h : ((front ++ fields).map Prod.fst).Nodup) :
    (Row.mk front).setAll fields = ⟨front ++ fields⟩ := by
  induction fields generalizing front with
  | nil => rw [List.append_nil]; rfl
  | cons f fs ih =>
      have happend : front ++ f :: fs = front ++ [f] ++ fs := by simp
      have hnew : f.1 ∉ front.map Prod.fst := by
        rw [List.map_append, List.map_cons, List.nodup_append] at h
        exact fun hmem => h.2.2 _ hmem _ List.mem_cons_self rfl
      have hset : (Row.mk front).set f.1 f.2 = ⟨front ++ [f]⟩ :=
        congrArg Row.mk (setField_of_not_mem hnew)
      rw [setAll_cons, hset, ih (happend ▸ h), happend]

/-! ## Rows made of fields -/

/-- Fields of different names make a row as they are. -/
theorem ofFields_of_nodup {row : Row} (h : row.names.Nodup) : ofFields row.fields = row := by
  have hnodup : (([] ++ row.fields).map Prod.fst).Nodup := h
  exact setAll_of_nodup hnodup

theorem nodup_names_ofFields (fields : List Field) : (ofFields fields).names.Nodup := by
  have hempty : empty.names.Nodup := List.nodup_nil
  exact nodup_names_setAll hempty fields

/-- The names are those of the fields, each at its first occurrence. -/
theorem names_ofFields (fields : List Field) :
    (ofFields fields).names = (fields.map Prod.fst).eraseDups := by
  rw [ofFields, names_setAll]
  simp [names, empty]

/-- The last of the values that fields give for a name. -/
def lastGiven? (name : String) (fields : List Field) : Option Value :=
  ((fields.filter (·.1 = name)).map Prod.snd).getLast?

theorem get?_ofFields (fields : List Field) (name : String) :
    (ofFields fields).get? name = lastGiven? name fields := by
  rw [ofFields, get?_setAll, get?_empty, Option.or_none, getField?_reverse_eq_getLast?, lastGiven?]

/-! ## Projections -/

theorem names_project (row : Row) (columns : List String) :
    (row.project columns).names = columns.filter (· ∈ row.names) := by
  rw [names, project, List.map_filterMap, ← List.filterMap_eq_filter]
  congr 1
  funext name
  have hmem : (row.get? name).isSome = true ↔ name ∈ row.names :=
    isSome_getField?_iff name row.fields
  cases hget : row.get? name with
  | none =>
      rw [hget] at hmem
      simp [Option.guard, ← hmem]
  | some value =>
      rw [hget] at hmem
      simp [Option.guard, ← hmem]

theorem get?_of_mem_project {row : Row} {columns : List String} {f : Field}
    (hf : f ∈ (row.project columns).fields) : row.get? f.1 = some f.2 := by
  obtain ⟨name, -, hname⟩ := List.mem_filterMap.mp hf
  obtain ⟨value, hvalue, rfl⟩ := Option.map_eq_some_iff.mp hname
  exact hvalue

/-- Rows are maps in the order of insertion. A row made of fields has their names, each at its first
occurrence, with the value of its last. Whatever fields are set on it one after the other, its names
stay distinct, its fields stay where they are, and only those that are set change their values; new
names follow in the order in which they are first set. A further write changes the field of its
name, or puts it at the end, and is then read back; and the row is made of its own fields again. The
projection of any row has the listed columns that the row has, in the order of the list and as often
as they are listed, with the values of the row. -/
theorem insertion_ordered :
    (∀ fields : List Field,
      let row := ofFields fields
      row.names = (fields.map Prod.fst).eraseDups ∧
      (∀ name, row.get? name = lastGiven? name fields) ∧
      (∀ f ∈ row.fields, lastGiven? f.1 fields = some f.2) ∧
      ∀ written : List Field,
        let later := row.setAll written
        later.names.Nodup ∧
        later.names = row.names ++ ((written.map Prod.fst).filter (· ∉ row.names)).eraseDups ∧
        (∀ (i : Nat) (f : Field), row.fields[i]? = some f →
          later.fields[i]? = some (f.1, (lastGiven? f.1 written).getD f.2)) ∧
        (∀ name value, (later.set name value).fields =
          if name ∈ later.names then
            later.fields.map fun f => if f.1 = name then (name, value) else f
          else later.fields ++ [(name, value)]) ∧
        (∀ name value, (later.set name value).get? name = some value) ∧
        ofFields later.fields = later) ∧
    ∀ (row : Row) (columns : List String),
      (row.project columns).names = columns.filter (· ∈ row.names) ∧
      ∀ f ∈ (row.project columns).fields, row.get? f.1 = some f.2 := by
  refine ⟨fun fields => ⟨names_ofFields fields, get?_ofFields fields, ?_, fun written => ?_⟩,
    fun row columns => ⟨names_project row columns, fun f => get?_of_mem_project⟩⟩
  · intro f hf
    rw [← get?_ofFields]
    exact getField?_of_mem (nodup_names_ofFields fields) hf
  · have hrow := nodup_names_ofFields fields
    have hlater := nodup_names_setAll hrow written
    refine ⟨hlater, names_setAll _ written, fun i f hf => ?_, fields_set hlater,
      fun name value => ?_, ofFields_of_nodup hlater⟩
    · rw [getElem?_fields_setAll hrow hf, getField?_reverse_eq_getLast?, lastGiven?]
    · rw [get?_set, if_pos rfl]

/-- A row made of fields of which two have one name, and what writes and a projection make of it. -/
theorem insertion_ordered_of_repeated :
    let fields : List Field := [("b", .integer 1), ("a", .null), ("b", .integer 2)]
    let written : List Field := [("c", .integer 3), ("a", .integer 4), ("c", .integer 5)]
    let row := ofFields fields
    let later := row.setAll written
    row.names = ["b", "a"] ∧ row.fields[1]? = some ("a", .null) ∧
      lastGiven? "a" written = some (.integer 4) ∧
      later.fields[1]? = some ("a", .integer 4) ∧ later.names = ["b", "a", "c"] ∧
      ("c", .integer 5) ∈ (later.project ["c", "d", "c"]).fields ∧
      later.get? "c" = some (.integer 5) := by
  intro fields written row later
  obtain ⟨hrows, hprojections⟩ := insertion_ordered
  obtain ⟨hnames, -, -, hwritten⟩ := hrows fields
  obtain ⟨-, hadded, hplaces, -⟩ := hwritten written
  have hfield : row.fields[1]? = some ("a", .null) := by decide
  have hprojected : ("c", .integer 5) ∈ (later.project ["c", "d", "c"]).fields :=
    List.mem_cons_self
  exact ⟨hnames, hfield, by decide, hplaces 1 _ hfield, hadded, hprojected,
    (hprojections later _).2 _ hprojected⟩

end Row

end MiniSql
