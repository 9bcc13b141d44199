import MiniSql.Proofs.Piping
import MiniSql.Proofs.Records

/-!
# Rows shown by a shell

In the formats that are read by programs the text of rows is a line for the columns and one for
each row. A shell trims the end of the text before it puts the number of rows behind it. If the
last line ends with a character that is not blank, its line feed is all that is trimmed, and the
rows are shown in full. If the last cell is empty, or its text ends with a blank, more is lost: a
tab, the blank, or whole lines.

**Results.**
* `Output.Tabular.exists_lines`: the lines of a raw text, and the cells between their tabs.
* `Shell.shown_in_full_iff`: when the rows are shown in full, and what is lost otherwise.
* `Shell.last_cell_cut_off`: rows of which less is shown.
-/

namespace MiniSql

namespace Text

/-- The last character is not trimmed. -/
def endsVisibly (cs : List Char) : Bool :=
  cs.getLast?.any (!isBlank ·)

theorem endsVisibly_append_cons (c : Char) (hc : isBlank c = true) (cs ds : List Char) :
    endsVisibly (cs ++ c :: ds) = endsVisibly ds := by
  cases ds using List.reverseRecOn with
  | nil => simp [endsVisibly, hc]
  | append_singleton ds d =>
      have hassoc : cs ++ c :: (ds ++ [d]) = (cs ++ c :: ds) ++ [d] := by simp
      rw [endsVisibly, hassoc, List.getLast?_concat, endsVisibly, List.getLast?_concat]

/-- What is trimmed from the end of a text, which is nothing if the text ends visibly. -/
theorem exists_trimmed {cs : List Char} (hne : cs ≠ []) :
    ∃ lost, trimEnd cs ++ lost = cs ∧ (∀ b ∈ lost, isBlank b = true) ∧
      (lost = [] ↔ endsVisibly cs = true) := by
  obtain ⟨lost, hlost, hblank⟩ := exists_trimEnd_append cs
  refine ⟨lost, hlost, hblank, ?_⟩
  cases cs using List.reverseRecOn with
  | nil => exact absurd rfl hne
  | append_singleton cs c =>
      by_cases hc : isBlank c = true
      · have htrim : trimEnd (cs ++ [c]) = trimEnd cs :=
          trimEnd_append_blanks (List.forall_mem_singleton.mpr hc) cs
        have hsome : lost ≠ [] := by
          rintro rfl
          obtain ⟨blanks, hblanks, -⟩ := exists_trimEnd_append cs
          rw [List.append_nil, htrim] at hlost
          have hlength := congrArg List.length hblanks
          rw [hlost, List.length_append, List.length_append, List.length_singleton] at hlength
          omega
        simp [hsome, endsVisibly, hc]
      · rw [Bool.not_eq_true] at hc
        rw [trimEnd_concat_of_not_blank hc] at hlost
        simp [List.append_right_eq_self.mp hlost, endsVisibly, hc]

/-- Lines are read back from a text, and so is what stands behind the last of them. -/
theorem splitOn_lines {lines : List (List Char)} {rest : List Char}
    (hlines : ∀ line ∈ lines, '\n' ∉ line) (hrest : '\n' ∉ rest) :
    (lines.flatMap (· ++ ['\n']) ++ rest).splitOn '\n' = lines ++ [rest] := by
  induction lines with
  | nil => exact List.splitOn_eq_singleton hrest
  | cons line lines ih =>
      rw [List.flatMap_cons, List.append_assoc, List.append_assoc, List.singleton_append,
        List.splitOn_append_cons_self_of_not_mem (hlines line List.mem_cons_self),
        ih fun line hline => hlines line (List.mem_cons_of_mem _ hline)]
      rfl

theorem not_mem_intercalate {c : Char} {separator : List Char} {parts : List (List Char)}
    (hseparator : c ∉ separator) (hparts : ∀ part ∈ parts, c ∉ part) :
    c ∉ separator.intercalate parts := by
  induction parts with
  | nil => exact List.not_mem_nil
  | cons part rest ih =>
      have hpart := hparts part List.mem_cons_self
      cases rest with
      | nil => rwa [List.intercalate_singleton]
      | cons next rest =>
          have hrest := ih fun part hmem => hparts part (List.mem_cons_of_mem _ hmem)
          rw [List.intercalate_cons_cons, List.mem_append, List.mem_append, not_or, not_or]
          exact ⟨⟨hpart, hseparator⟩, hrest⟩

/-- A separator stands between two parts each. -/
theorem count_intercalate {c : Char} {parts : List (List Char)} (hne : parts ≠ [])
    (hparts : ∀ part ∈ parts, c ∉ part) :
    ([c].intercalate parts).count c + 1 = parts.length := by
  induction parts with
  | nil => exact absurd rfl hne
  | cons part rest ih =>
      have hpart : part.count c = 0 := List.count_eq_zero.mpr (hparts part List.mem_cons_self)
      cases rest with
      | nil => simp [hpart]
      | cons next rest =>
          have hrest := ih (List.cons_ne_nil _ _) fun part hmem =>
            hparts part (List.mem_cons_of_mem _ hmem)
          rw [List.intercalate_cons_cons, List.count_append, List.count_append, hpart,
            List.length_cons, ← hrest, List.count_singleton_self]
          omega

end Text

namespace Output

/-! ## Lines -/

/-- The line of a record in a format that is read by programs. -/
def recordLine (format : OutputFormat) (fields : List String) : String :=
  match format with
  | .csv => ",".intercalate (fields.map Csv.field)
  | _ => "\t".intercalate fields

section Lines

variable {format : OutputFormat} {rows : List Row}

theorem toList_render (hformat : format = .csv ∨ format = .raw) (rows : List Row) :
    (render format rows).toList =
      ((records rows).map fun fields => (recordLine format fields).toList).flatMap
        (· ++ ['\n']) := by
  rcases hformat with rfl | rfl
  · simp [render, csv, recordLine, Csv.record, String.toList_join, List.flatMap_map]
  · simp [render, raw, recordLine, String.toList_join, List.flatMap_map]

/-- The text of rows ends with the line of the last one. -/
theorem exists_toList_render (hformat : format = .csv ∨ format = .raw) {front : List Row}
    {last : Row} (hfields : ∃ row ∈ front ++ [last], row.fields ≠ []) :
    ∃ before : List Char, (render format (front ++ [last])).toList =
      before ++ '\n' :: (recordLine format (cells (front ++ [last]) last)).toList ++ ['\n'] := by
  rw [toList_render hformat, records_eq hfields]
  generalize hcolumns : columns (front ++ [last]) = names
  generalize cells (front ++ [last]) = cells
  have hends : ∃ before, ((names :: front.map cells).map fun fields =>
      (recordLine format fields).toList).flatMap (· ++ ['\n']) = before ++ ['\n'] := by
    cases front using List.reverseRecOn with
    | nil => exact ⟨(recordLine format names).toList, by simp⟩
    | append_singleton front row =>
        exact ⟨_, by
          rw [List.map_append, ← List.cons_append, List.map_append, List.flatMap_append,
            List.map_singleton, List.map_singleton, List.flatMap_singleton, ← List.append_assoc]⟩
  obtain ⟨before, hbefore⟩ := hends
  refine ⟨before, ?_⟩
  rw [List.map_append, ← List.cons_append, List.map_append, List.flatMap_append, hbefore]
  simp

/-- No name and no text of a value has a tab or a line feed. -/
def Tabular (rows : List Row) : Prop :=
  ∀ row ∈ rows, ∀ f ∈ row.fields, ∀ c ∈ ['\t', '\n'],
    c ∉ f.1.toList ∧ c ∉ f.2.display.toList

theorem mem_fields_of_getField? {name : String} {value : Value} {fields : List Field}
    (h : Row.getField? name fields = some value) : (name, value) ∈ fields := by
  induction fields with
  | nil => cases h
  | cons f fs ih =>
      rw [Row.getField?] at h
      split at h
      · next hname =>
          obtain rfl := Option.some.inj h
          rw [← hname]
          exact List.mem_cons_self
      · exact List.mem_cons_of_mem _ (ih h)

/-- A cell is empty or the text of a field. -/
theorem plainCell_eq (row : Row) (name : String) :
    plainCell row name = "" ∨ ∃ f ∈ row.fields, plainCell row name = f.2.display := by
  cases hget : row.get? name with
  | none => simp [plainCell, hget]
  | some value =>
      have hmem : (name, value) ∈ row.fields := mem_fields_of_getField? hget
      cases value with
      | null => simp [plainCell, hget]
      | _ => exact .inr ⟨_, hmem, by simp only [plainCell, hget]⟩

theorem Tabular.not_mem (h : Tabular rows) (hfields : ∃ row ∈ rows, row.fields ≠ [])
    {c : Char} (hc : c ∈ ['\t', '\n']) :
    ∀ record ∈ records rows, ∀ cell ∈ record, c ∉ cell.toList := by
  intro record hrecord cell hcell
  rw [records_eq hfields, List.mem_cons, List.mem_map] at hrecord
  rcases hrecord with rfl | ⟨row, hrow, rfl⟩
  · obtain ⟨row, hrow, hname⟩ := mem_columns.mp hcell
    obtain ⟨f, hf, rfl⟩ := List.mem_map.mp hname
    exact (h row hrow f hf c hc).1
  · obtain ⟨name, -, rfl⟩ := List.mem_map.mp hcell
    rcases plainCell_eq row name with hempty | ⟨f, hf, htext⟩
    · simp [hempty]
    · rw [htext]
      exact (h row hrow f hf c hc).2

theorem length_of_mem_records (hfields : ∃ row ∈ rows, row.fields ≠ []) :
    ∀ record ∈ records rows, record.length = (columns rows).length := by
  intro record hrecord
  rw [records_eq hfields, List.mem_cons, List.mem_map] at hrecord
  rcases hrecord with rfl | ⟨row, -, rfl⟩
  · rfl
  · exact List.length_map _

/-- The raw text of rows has a line for the columns and one for each row, and the cells stand
between its tabs. -/
theorem Tabular.exists_lines (h : Tabular rows) (hfields : ∃ row ∈ rows, row.fields ≠ [])
    {rest : List Char} (hrest : '\n' ∉ rest) :
    ∃ lines : List (List Char),
      ((raw rows).toList ++ rest).splitOn '\n' = lines ++ [rest] ∧
      lines.map (·.splitOn '\t') =
        (columns rows :: rows.map (cells rows)).map (·.map String.toList) ∧
      ∀ line ∈ lines, line.count '\t' + 1 = (columns rows).length := by
  have hline : ∀ record : List String, (recordLine .raw record).toList =
      ['\t'].intercalate (record.map String.toList) :=
    fun record => String.toList_intercalate
  have htab : ∀ record ∈ records rows, ∀ cell ∈ record.map String.toList, '\t' ∉ cell := by
    intro record hrecord cell hcell
    obtain ⟨text, htext, rfl⟩ := List.mem_map.mp hcell
    exact h.not_mem hfields (by simp) record hrecord text htext
  have hne : ∀ record ∈ records rows, record.map String.toList ≠ [] := by
    intro record hrecord hnil
    exact ne_nil_of_mem_records hfields hrecord (List.map_eq_nil_iff.mp hnil)
  refine ⟨(records rows).map fun record => (recordLine .raw record).toList, ?_, ?_, ?_⟩
  · have htext := toList_render (.inr rfl : OutputFormat.raw = .csv ∨ _) rows
    rw [render] at htext
    rw [htext]
    refine Text.splitOn_lines (fun text htext => ?_) hrest
    obtain ⟨record, hrecord, rfl⟩ := List.mem_map.mp htext
    rw [hline]
    refine Text.not_mem_intercalate (by decide) fun cell hcell => ?_
    obtain ⟨text, htext, rfl⟩ := List.mem_map.mp hcell
    exact h.not_mem hfields (by simp) record hrecord text htext
  · rw [← records_eq hfields, List.map_map]
    refine List.map_congr_left fun record hrecord => ?_
    rw [Function.comp_apply, hline]
    exact List.splitOn_intercalate '\t' (htab record hrecord) (hne record hrecord)
  · intro text htext
    obtain ⟨record, hrecord, rfl⟩ := List.mem_map.mp htext
    rw [hline, Text.count_intercalate (hne record hrecord) (htab record hrecord),
      List.length_map, length_of_mem_records hfields record hrecord]

end Lines

/-- A text shows rows in full: it is their text, with the number of rows behind it. From a raw
text the columns and the cells are read back line by line, and from comma-separated values as
records. -/
structure ShowsInFull (format : OutputFormat) (rows : List Row) (text : String) : Prop where
  text_eq : text = render format rows ++ Shell.countLine rows.length
  raw : format = .raw → Tabular rows → ∃ lines : List (List Char),
    text.toList.splitOn '\n' = lines ++ [(Shell.countLine rows.length).toList] ∧
    lines.map (·.splitOn '\t') =
      (columns rows :: rows.map (cells rows)).map (·.map String.toList) ∧
    ∀ line ∈ lines, line.count '\t' + 1 = (columns rows).length
  csv : format = .csv → ∃ values : String, text = values ++ Shell.countLine rows.length ∧
    Csv.decode values = some (columns rows :: rows.map (cells rows))

end Output

namespace Shell

open Output

theorem not_mem_countLine (n : Nat) : '\n' ∉ (countLine n).toList := by
  have hdigits : '\n' ∉ n.repr.toList := by
    rw [Nat.toList_repr]
    intro hmem
    have hdigit := Nat.isDigit_of_mem_toDigits (by decide) (by decide) hmem
    cases hdigit
  have hplural : '\n' ∉ (plural n).toList := by
    unfold plural
    split <;> decide
  simp only [countLine, String.toList_append, List.mem_append, hdigits, hplural, or_false]
  decide

/-- The columns and cells are read back from the text of rows. -/
theorem showsInFull_iff {format : OutputFormat} {rows : List Row}
    (hfields : ∃ row ∈ rows, row.fields ≠ []) {text : String} :
    ShowsInFull format rows text ↔ text = render format rows ++ countLine rows.length := by
  constructor
  · exact ShowsInFull.text_eq
  · intro htext
    refine ⟨htext, ?_, ?_⟩
    · rintro rfl htabular
      rw [htext, String.toList_append]
      exact htabular.exists_lines hfields (not_mem_countLine _)
    · rintro rfl
      refine ⟨_, htext, ?_⟩
      rw [← records_eq hfields]
      exact Csv.decode_records fun record => ne_nil_of_mem_records hfields

section Trimmed

variable {format : OutputFormat} (hformat : format = .csv ∨ format = .raw)
  {front : List Row} {last : Row} (hfields : ∃ row ∈ front ++ [last], row.fields ≠ [])

include hformat hfields

/-- What is kept of the text of rows, and what is lost before its line feed. -/
theorem exists_kept :
    ∃ kept lost : List Char,
      (render format (front ++ [last])).toList = kept ++ lost ++ ['\n'] ∧
      (resultText format (.rows (front ++ [last]))).toList =
        kept ++ '\n' :: (countLine (front ++ [last]).length).toList ∧
      (∀ c ∈ lost, Text.isBlank c = true) ∧
      (lost = [] ↔
        Text.endsVisibly (recordLine format (cells (front ++ [last]) last)).toList = true) := by
  have hnewline : Text.isBlank '\n' = true := by decide +kernel
  obtain ⟨before, hbefore⟩ := exists_toList_render hformat hfields
  generalize (recordLine format (cells (front ++ [last]) last)).toList = lastLine at hbefore ⊢
  have hne : before ++ '\n' :: lastLine ≠ [] := by simp
  obtain ⟨lost, hlost, hblank, hnil⟩ := Text.exists_trimmed hne
  rw [Text.endsVisibly_append_cons '\n' hnewline] at hnil
  generalize hkept : Text.trimEnd (before ++ '\n' :: lastLine) = kept at hlost
  have htrimmed : Text.trimEnd (render format (front ++ [last])).toList = kept := by
    rw [hbefore, Text.trimEnd_append_blanks (List.forall_mem_singleton.mpr hnewline), hkept]
  refine ⟨kept, lost, ?_, ?_, hblank, hnil⟩
  · rw [hlost, hbefore]
  · have hrows : front ++ [last] ≠ [] := by simp
    simp only [resultText, if_neg hrows, trimEnd, String.toList_append, String.toList_ofList,
      htrimmed]
    simp

end Trimmed

/-- Rows are shown in full exactly if the line of the last one ends with a character that is not
blank. Otherwise the blanks at the end of their text are lost, and nothing else. -/
theorem shown_in_full_iff (format : OutputFormat) (hformat : format = .csv ∨ format = .raw)
    (front : List Row) (last : Row) (hfields : ∃ row ∈ front ++ [last], row.fields ≠ []) :
    let rows := front ++ [last]
    let text := resultText format (.rows rows)
    (∀ (s : Shell) (sql : String), s.format = format → s.timing = false →
        (s.answer sql).result = .ok (.rows rows) → s.statementText sql = .ok text) ∧
      (ShowsInFull format rows text ↔
        Text.endsVisibly (recordLine format (cells rows last)).toList = true) ∧
      ∃ kept lost : List Char,
        (render format rows).toList = kept ++ lost ++ ['\n'] ∧
        text.toList = kept ++ '\n' :: (countLine rows.length).toList ∧
        (∀ c ∈ lost, Text.isBlank c = true) ∧
        (lost = [] ↔ Text.endsVisibly (recordLine format (cells rows last)).toList = true) := by
  intro rows text
  obtain ⟨kept, lost, hrender, htext, hblank, hnil⟩ := exists_kept hformat hfields
  refine ⟨?_, ?_, kept, lost, hrender, htext, hblank, hnil⟩
  · intro s sql hshell htiming hanswer
    rw [statementText, hanswer, hshell, htiming]
    simp [Except.map, timeNote, text]
  · rw [← hnil, showsInFull_iff hfields, ← String.toList_inj, htext, String.toList_append, hrender]
    simp

/-- Two rows, of which the first has a `NULL` at its end, and the second does not. -/
theorem shown_in_full_of_two_rows :
    let front : Row := ⟨[("id", .integer 1), ("a", .null)]⟩
    let last : Row := ⟨[("id", .integer 2), ("a", .text "x y")]⟩
    let s : Shell := ⟨⟨.strict, ⟨[("t", ⟨"t", [front, last], 3, []⟩)]⟩, none, 0⟩, .raw, false, []⟩
    (∃ row ∈ [front] ++ [last], row.fields ≠ []) ∧
      (s.answer "SELECT * FROM t").result = .ok (.rows ([front] ++ [last])) ∧
      s.statementText "SELECT * FROM t" = .ok "id\ta\n1\t\n2\tx y\n(2 rows)" ∧
      ShowsInFull .raw [front, last] "id\ta\n1\t\n2\tx y\n(2 rows)" := by
  intro front last s
  have hfields : ∃ row ∈ [front] ++ [last], row.fields ≠ [] :=
    ⟨front, List.mem_cons_self, List.cons_ne_nil _ _⟩
  have hanswer : (s.answer "SELECT * FROM t").result = .ok (.rows ([front] ++ [last])) := by
    decide +kernel
  obtain ⟨hshown, hfull, -⟩ := shown_in_full_iff .raw (.inr rfl) [front] last hfields
  have htext : resultText .raw (.rows ([front] ++ [last])) =
      "id\ta\n1\t\n2\tx y\n(2 rows)" := by
    decide +kernel
  rw [htext] at hshown hfull
  exact ⟨hfields, hanswer, hshown s _ rfl rfl hanswer, hfull.mpr (by decide +kernel)⟩

/-- A last cell that is empty loses the tab before it, and one that ends with a blank loses the
blank. -/
theorem last_cell_cut_off :
    let empty : Row := ⟨[("id", .integer 1), ("a", .null)]⟩
    let spaced : Row := ⟨[("id", .integer 1), ("a", .text "x ")]⟩
    let shell (format : OutputFormat) (row : Row) : Shell :=
      ⟨⟨.strict, ⟨[("t", ⟨"t", [row], 2, []⟩)]⟩, none, 0⟩, format, false, []⟩
    (((shell .raw empty).answer "SELECT * FROM t").result = .ok (.rows [empty]) ∧
      render .raw [empty] ++ countLine 1 = "id\ta\n1\t\n(1 row)" ∧
      (shell .raw empty).statementText "SELECT * FROM t" = .ok "id\ta\n1\n(1 row)") ∧
    ((shell .csv spaced).answer "SELECT * FROM t").result = .ok (.rows [spaced]) ∧
      render .csv [spaced] ++ countLine 1 = "id,a\n1,x \n(1 row)" ∧
      (shell .csv spaced).statementText "SELECT * FROM t" = .ok "id,a\n1,x\n(1 row)" := by
  decide +kernel

end Shell

end MiniSql
