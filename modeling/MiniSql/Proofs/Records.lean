import MiniSql.Output.Rows

/-!
# Reading comma-separated values

A reader goes through a text character by character and knows where it stands: before a field, in
a field without quotes, within quotes, or behind a quote, which ends the field unless a second one
follows. A comma ends a field, and a line feed ends a record with its last field; a line without
characters is a record of one empty field. Quotes and carriage returns stand in quoted fields only.

Every list of records that have fields is read back from its text, and so are rows: first the
columns, then a record for each row.

**Results.**
* `Csv.read_fieldText`: a field is read as its content, whatever characters it has.
* `Csv.decode_records`: records are read back.
* `Output.columns_eq`: the columns are the names of the rows without their repetitions.
* `Output.decode_csv`: rows as comma-separated values.
-/

namespace MiniSql

namespace Csv

/-! ## A reader -/

/-- Where a reader stands. -/
inductive Mode where
  /-- A field is about to begin. -/
  | before
  /-- In a field without quotes. -/
  | plain
  /-- Within the quotes of a field. -/
  | quoted
  /-- Behind a quote that was met within quotes. -/
  | behind
deriving DecidableEq, Repr

/-- What was read: the characters of the current field, the fields before it in its record, and
the records before this one. -/
structure Progress where
  mode : Mode
  field : List Char
  fields : List String
  records : List (List String)
deriving DecidableEq, Repr

namespace Progress

/-- Nothing was read. -/
def start : Progress := ⟨.before, [], [], []⟩

/-- One more character of the field. -/
def add (p : Progress) (mode : Mode) (c : Char) : Progress :=
  { p with mode := mode, field := p.field ++ [c] }

/-- The end of the field. -/
def endField (p : Progress) : Progress :=
  ⟨.before, [], p.fields ++ [String.ofList p.field], p.records⟩

/-- The end of the field and of its record. -/
def endRecord (p : Progress) : Progress :=
  ⟨.before, [], [], p.records ++ [p.fields ++ [String.ofList p.field]]⟩

/-- Reads a character. -/
def step (p : Progress) (c : Char) : Option Progress :=
  match p.mode with
  | .quoted => if c = '\x22' then some { p with mode := .behind } else some (p.add .quoted c)
  | mode =>
    if c = ',' then some p.endField
    else if c = '\n' then some p.endRecord
    else if c = '\x22' then
      match mode with
      | .before => some { p with mode := .quoted }
      | .behind => some (p.add .quoted c)
      | _ => none
    else if mode = .behind ∨ c = '\r' then none
    else some (p.add .plain c)

/-- Reads characters one after the other. -/
def read (p : Progress) (cs : List Char) : Option Progress :=
  cs.foldlM step p

end Progress

/-- The records of a text. Each of them ends with its line. -/
def decode (text : String) : Option (List (List String)) :=
  (Progress.start.read text.toList).bind fun p =>
    if p.mode = .before ∧ p.fields = [] then some p.records else none

namespace Progress

@[simp] theorem read_nil (p : Progress) : p.read [] = some p := rfl

@[simp] theorem read_cons (p : Progress) (c : Char) (cs : List Char) :
    p.read (c :: cs) = (p.step c).bind fun p => p.read cs := rfl

theorem read_append (p : Progress) (cs ds : List Char) :
    p.read (cs ++ ds) = (p.read cs).bind fun p => p.read ds :=
  List.foldlM_append

theorem read_append_of_eq {p q : Progress} {cs : List Char} (h : p.read cs = some q)
    (ds : List Char) : p.read (cs ++ ds) = q.read ds := by
  rw [read_append, h, Option.bind_some]

/-! ## Fields -/

section Fields

variable {mode : Mode} (field : List Char) (fields : List String) (records : List (List String))

theorem isSpecial_eq_false {c : Char} :
    isSpecial c = false ↔ c ≠ ',' ∧ c ≠ '\x22' ∧ c ≠ '\n' ∧ c ≠ '\r' := by
  simp [isSpecial, and_assoc]

/-- A character that needs no quotes belongs to the field. -/
theorem step_of_plain (hmode : mode = .before ∨ mode = .plain) {c : Char}
    (hc : isSpecial c = false) :
    step ⟨mode, field, fields, records⟩ c = some ⟨.plain, field ++ [c], fields, records⟩ := by
  obtain ⟨hcomma, hquote, hline, hreturn⟩ := isSpecial_eq_false.mp hc
  rcases hmode with rfl | rfl
  · simp [step, add, hcomma, hquote, hline, hreturn]
  · simp [step, add, hcomma, hquote, hline, hreturn]

theorem read_plain (hmode : mode = .before ∨ mode = .plain) {cs : List Char}
    (hcs : cs.any isSpecial = false) :
    ∃ mode', (mode' = .before ∨ mode' = .plain) ∧
      read ⟨mode, field, fields, records⟩ cs = some ⟨mode', field ++ cs, fields, records⟩ := by
  induction cs generalizing mode field with
  | nil => exact ⟨mode, hmode, by simp⟩
  | cons c cs ih =>
      rw [List.any_cons, Bool.or_eq_false_iff] at hcs
      obtain ⟨mode', hmode', hread⟩ := ih (field ++ [c]) (.inr rfl) hcs.2
      refine ⟨mode', hmode', ?_⟩
      rw [read_cons, step_of_plain field fields records hmode hcs.1, Option.bind_some, hread]
      simp

/-- Within quotes each character is read as itself, and a doubled quote as one. -/
theorem read_doubled (cs : List Char) :
    read ⟨.quoted, field, fields, records⟩ (doubled cs) =
      some ⟨.quoted, field ++ cs, fields, records⟩ := by
  induction cs generalizing field with
  | nil => simp [doubled]
  | cons c cs ih =>
      by_cases hc : c = '\x22'
      · subst hc
        have hstep : read ⟨.quoted, field, fields, records⟩ ['\x22', '\x22'] =
            some ⟨.quoted, field ++ ['\x22'], fields, records⟩ := rfl
        rw [doubled, if_pos rfl]
        have hread := read_append_of_eq hstep (doubled cs)
        rw [ih] at hread
        simpa using hread
      · have hstep : step ⟨.quoted, field, fields, records⟩ c =
            some ⟨.quoted, field ++ [c], fields, records⟩ := by
          simp [step, add, hc]
        rw [doubled, if_neg hc, read_cons, hstep, Option.bind_some, ih]
        simp

/-- A field is read as its content, and is then ended by what ends a field. -/
theorem read_fieldText (cs : List Char) :
    ∃ mode, mode ≠ .quoted ∧
      read ⟨.before, [], fields, records⟩ (fieldText cs) = some ⟨mode, cs, fields, records⟩ := by
  by_cases hcs : cs.any isSpecial = true
  · have hopen : read ⟨.before, [], fields, records⟩ ['\x22'] =
        some ⟨.quoted, [], fields, records⟩ := rfl
    have hbody := read_append_of_eq hopen (doubled cs)
    rw [read_doubled, List.nil_append] at hbody
    refine ⟨.behind, Mode.noConfusion, ?_⟩
    have htext : fieldText cs = ['\x22'] ++ doubled cs ++ ['\x22'] := by
      simp [fieldText, hcs]
    rw [htext, read_append_of_eq hbody]
    rfl
  · rw [Bool.not_eq_true] at hcs
    obtain ⟨mode, hmode, hread⟩ := read_plain [] fields records (.inl rfl) hcs
    refine ⟨mode, ?_, ?_⟩
    · rcases hmode with rfl | rfl
      · exact Mode.noConfusion
      · exact Mode.noConfusion
    · rw [fieldText_of_plain hcs, hread, List.nil_append]

theorem step_comma (hmode : mode ≠ .quoted) :
    step ⟨mode, field, fields, records⟩ ',' =
      some ⟨.before, [], fields ++ [String.ofList field], records⟩ := by
  cases mode with
  | quoted => exact absurd rfl hmode
  | _ => rfl

theorem step_lineFeed (hmode : mode ≠ .quoted) :
    step ⟨mode, field, fields, records⟩ '\n' =
      some ⟨.before, [], [], records ++ [fields ++ [String.ofList field]]⟩ := by
  cases mode with
  | quoted => exact absurd rfl hmode
  | _ => rfl

end Fields

/-! ## Records -/

/-- The characters of a record. -/
theorem toList_record (fields : List String) :
    (record fields).toList =
      [','].intercalate (fields.map fun f => fieldText f.toList) ++ ['\n'] := by
  simp [record, Csv.field, String.toList_append, String.toList_intercalate, Function.comp_def]

/-- The fields of a record are read one after the other, and its line feed ends it. -/
theorem read_record {fields : List String} (hne : fields ≠ []) (done : List String)
    (records : List (List String)) :
    read ⟨.before, [], done, records⟩ (record fields).toList =
      some ⟨.before, [], [], records ++ [done ++ fields]⟩ := by
  rw [toList_record]
  induction fields generalizing done with
  | nil => exact absurd rfl hne
  | cons f rest ih =>
      obtain ⟨mode, hmode, hfield⟩ := read_fieldText done records f.toList
      cases rest with
      | nil =>
          have hend := step_lineFeed f.toList done records hmode
          have hread := read_append_of_eq hfield ['\n']
          rw [read_cons, hend, String.ofList_toList] at hread
          simpa using hread
      | cons g rest =>
          have hend := step_comma f.toList done records hmode
          rw [List.map_cons, List.map_cons, List.intercalate_cons_cons, List.append_assoc,
            List.append_assoc, read_append_of_eq hfield, List.singleton_append, read_cons, hend,
            Option.bind_some, String.ofList_toList]
          have hrest := ih (by simp) (done ++ [f])
          rw [List.map_cons] at hrest
          rw [hrest]
          simp

theorem read_records {rows : List (List String)} (hne : ∀ row ∈ rows, row ≠ [])
    (records : List (List String)) :
    read ⟨.before, [], [], records⟩ (rows.flatMap fun row => (record row).toList) =
      some ⟨.before, [], [], records ++ rows⟩ := by
  induction rows generalizing records with
  | nil => simp
  | cons row rows ih =>
      have hrow := read_record (hne row List.mem_cons_self) [] records
      rw [List.flatMap_cons, read_append_of_eq hrow,
        ih fun row hrow => hne row (List.mem_cons_of_mem _ hrow)]
      simp

end Progress

/-- Records that have fields are read back from their text. -/
theorem decode_records {rows : List (List String)} (hne : ∀ row ∈ rows, row ≠ []) :
    decode (String.join (rows.map record)) = some rows := by
  have htext : (String.join (rows.map record)).toList =
      rows.flatMap fun row => (record row).toList := by
    rw [String.toList_join, List.flatMap_map]
  rw [decode, htext, Progress.start, Progress.read_records hne]
  simp

end Csv

namespace Output

/-! ## Rows -/

/-- Names are added without those that were seen and without repetitions. -/
theorem addNames_eq (seen names : List String) :
    addNames seen names = seen ++ (names.removeAll seen).eraseDups := by
  induction names generalizing seen with
  | nil => simp [addNames, List.removeAll]
  | cons n names ih =>
      have hstep : addNames seen (n :: names) =
          addNames (if n ∈ seen then seen else seen ++ [n]) names := rfl
      rw [hstep, ih]
      by_cases hn : n ∈ seen
      · rw [if_pos hn, List.cons_removeAll]
        simp [hn]
      · have hremove : (names.removeAll seen).filter (fun m => !m == n) =
            names.removeAll (seen ++ [n]) := by
          simp only [List.removeAll, List.filter_filter]
          refine List.filter_congr fun m _ => ?_
          by_cases hm : m = n
          · simp [hm]
          · simp [hm, beq_eq_false_iff_ne.mpr hm]
        rw [if_neg hn, List.cons_removeAll]
        simp [hn, List.eraseDups_cons, hremove]

/-- The columns are the names of the rows' fields, each where it first appears. -/
theorem columns_eq (rows : List Row) :
    columns rows = (rows.flatMap Row.names).eraseDups := by
  have hfold : ∀ seen : List String,
      rows.foldl (fun seen row => addNames seen row.names) seen =
        addNames seen (rows.flatMap Row.names) := by
    induction rows with
    | nil => exact fun _ => rfl
    | cons row rows ih =>
        intro seen
        rw [List.foldl_cons, ih, List.flatMap_cons]
        exact (List.foldl_append ..).symm
  have hall : (rows.flatMap Row.names).removeAll [] = rows.flatMap Row.names := by
    rw [List.removeAll, List.filter_eq_self]
    exact fun _ _ => rfl
  rw [columns, hfold, addNames_eq, hall, List.nil_append]

theorem columns_ne_nil {rows : List Row} (h : ∃ row ∈ rows, row.fields ≠ []) :
    columns rows ≠ [] := by
  obtain ⟨row, hrow, hfields⟩ := h
  obtain ⟨f, fs, hcons⟩ := List.exists_cons_of_ne_nil hfields
  have hname : f.1 ∈ columns rows := by
    refine mem_columns.mpr ⟨row, hrow, ?_⟩
    simp [Row.names, hcons]
  exact List.ne_nil_of_mem hname

/-- The fields of the record of a row. -/
def cells (rows : List Row) (row : Row) : List String :=
  (columns rows).map (plainCell row)

theorem records_eq {rows : List Row} (h : ∃ row ∈ rows, row.fields ≠ []) :
    records rows = columns rows :: rows.map (cells rows) := by
  rw [records, if_neg (columns_ne_nil h)]
  rfl

theorem ne_nil_of_mem_records {rows : List Row} (h : ∃ row ∈ rows, row.fields ≠ [])
    {record : List String} (hrecord : record ∈ records rows) : record ≠ [] := by
  have hcolumns := columns_ne_nil h
  rw [records_eq h, List.mem_cons, List.mem_map] at hrecord
  rcases hrecord with rfl | ⟨row, -, rfl⟩
  · exact hcolumns
  · simpa [cells] using hcolumns

/-- Rows of which one has a field are read back from their comma-separated text: first the names
of their fields, each where it first appears, and then for each row a record with a field for
each of the names. It holds the text of the value, and nothing for a `NULL` or a field that the
row does not have. -/
theorem decode_csv (rows : List Row) (h : ∃ row ∈ rows, row.fields ≠ []) :
    let names := (rows.flatMap Row.names).eraseDups
    Csv.decode (csv rows) = some (names :: rows.map fun row => names.map (plainCell row)) ∧
      ∀ (row : Row) (name : String),
        (∀ value, row.get? name = some value → value ≠ .null →
          plainCell row name = value.display) ∧
        (row.get? name = some .null ∨ row.get? name = none → plainCell row name = "") := by
  intro names
  have hread := Csv.decode_records fun record hrecord => ne_nil_of_mem_records h hrecord
  have hnames : columns rows = names := columns_eq rows
  refine ⟨?_, fun row name => ⟨?_, ?_⟩⟩
  · rw [csv, hread, records_eq h, ← hnames]
    rfl
  · intro value hvalue hnull
    cases value with
    | null => exact absurd rfl hnull
    | _ => simp only [plainCell, hvalue]
  · rintro (hnull | hnone)
    · simp only [plainCell, hnull]
    · simp only [plainCell, hnone]

/-- Rows with different fields, a repeated name, a `NULL`, and quotes, commas and line feeds in
names and values. -/
theorem decode_csv_of_quotes :
    let rows : List Row :=
      [⟨[("a", .text "x\ny"), ("b,\x22", .text "\x22"), ("a", .text "x\ny")]⟩,
        ⟨[("c", .text ""), ("a", .null)]⟩]
    (∃ row ∈ rows, row.fields ≠ []) ∧
      Csv.decode (csv rows) =
        some [["a", "b,\x22", "c"], ["x\ny", "\x22", ""], ["", "", ""]] := by
  intro rows
  have hfields : ∃ row ∈ rows, row.fields ≠ [] := ⟨_, List.mem_cons_self, List.cons_ne_nil _ _⟩
  exact ⟨hfields, (decode_csv rows hfields).1⟩

end Output

end MiniSql
