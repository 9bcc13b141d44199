import MiniSql.Proofs.JsonValues
import MiniSql.Proofs.Rows
import MiniSql.Shell.Session

/-!
# JSON text that is shown

The shell shows values as JSON text in two places: the parameters that are bound to the next
statement, which it also reads, and the rows of a result, for which this module has a reader. Both
texts say everything about what they show, so that what is read from them is what was shown.

**Results.**
* `Json.readRows?_json`: the members of each row read back, in order.
* `Command.parse_bind`: the text after the name of the command reaches it unchanged.
* `Shell.json_reads_back`: values that are shown as JSON text read back.
-/

namespace MiniSql

namespace Json

/-! ## Reading rows -/

/-- The member of an object in front: a name, a colon and a scalar. -/
def member? : List Char → Option (Field × List Char)
  | '\x22' :: cs =>
    (stringBody cs).bind fun (name, rest) =>
      match skipSpace rest with
      | ':' :: rest =>
        (scalar? (skipSpace rest)).map fun (value, rest) => ((String.ofList name, value), rest)
      | _ => none
  | _ => none

/-- The object in front: its members in order. -/
def object? (cs : List Char) : Option (List Field × List Char) :=
  bracketed? member? '\x7b' '\x7d' cs

/-- The members of each object of a text that is an array of objects. -/
def readObjects? (s : String) : Option (List (List Field)) :=
  match bracketed? object? '[' ']' s.toList with
  | some (objects, rest) => if skipSpace rest = [] then some objects else none
  | none => none

/-- The rows of a text that is an array of objects. -/
def readRows? (s : String) : Option (List Row) :=
  (readObjects? s).map (List.map Row.ofFields)

section Rows

/-- A member with white space before it and behind its colon. -/
theorem reads_member {f : Field} (hf : f.2.isFinite = true) :
    Reads member? ("    " ++ string f.1 ++ ": " ++ f.2.toJson).toList f := by
  obtain ⟨name, value⟩ := f
  have htext : ("    " ++ string name ++ ": " ++ value.toJson).toList =
      "    ".toList ++ '\x22' ::
        (name.toList.flatMap escapeChar ++ '\x22' :: ':' :: ' ' :: value.toJson.toList) := by
    simp [toList_string]
  have hcolon : ∀ cs, skipSpace (':' :: cs) = ':' :: cs := skipSpace_cons (by decide)
  have hblank : ∀ cs, skipSpace (' ' :: cs) = skipSpace cs := fun cs => by
    rw [← List.singleton_append, skipSpace_append (isSpace_of_all rfl)]
  rw [htext]
  refine .of_space (isSpace_of_all rfl) (by decide) (by decide) fun rest hrest => ?_
  have hvalue := (reads_toJson hf).read rest hrest
  rw [member?, List.append_assoc, List.cons_append, stringBody_string]
  simp only [Option.bind_some, List.cons_append, hcolon, hblank, hvalue, Option.map_some,
    String.ofList_toList]

/-- An object on lines of its own. -/
theorem reads_object {row : Row} (hrow : ∀ f ∈ row.fields, f.2.isFinite = true) :
    Reads object? (Output.jsonObject row).toList row.fields := by
  by_cases hempty : row.fields = []
  · have htext : (Output.jsonObject row).toList = "  ".toList ++ '\x7b' :: ['\x7d'] := by
      rw [Output.jsonObject, if_pos hempty]
      rfl
    rw [htext, hempty]
    exact .of_space (isSpace_of_all rfl) (by decide) (by decide) fun rest hrest =>
      bracketed?_nil (.inr rfl) (by decide)
  · generalize htexts : (row.fields.map fun f =>
      "    " ++ string f.1 ++ ": " ++ f.2.toJson).map String.toList = texts
    have hreads : List.Forall₂ (Reads member?) texts row.fields := by
      rw [← htexts, List.map_map, List.forall₂_map_left_iff, List.forall₂_same]
      exact fun f hf => reads_member (hrow f hf)
    have hne : texts ≠ [] := by
      rw [← htexts]
      simpa using hempty
    have htext : (Output.jsonObject row).toList =
        "  ".toList ++ '\x7b' :: ("\n".toList ++
          ((',' :: "\n".toList).intercalate texts ++ ("\n  ".toList ++ ['\x7d']))) := by
      rw [Output.jsonObject, if_neg hempty, ← htexts]
      simp
    have hspaced : Spaced "\n".toList "\n".toList "\n  ".toList :=
      ⟨isSpace_of_all rfl, isSpace_of_all rfl, isSpace_of_all rfl⟩
    have hopening : isSpace '\x7b' = false := by decide
    rw [htext]
    refine .of_space (isSpace_of_all rfl) (by decide) (by decide) fun rest hrest => ?_
    simp only [List.append_assoc, List.singleton_append]
    exact bracketed?_intercalate hreads hne hspaced (.inr rfl) hopening

/-- The members of each row read back, in order. -/
theorem readObjects?_json {rows : List Row}
    (hrows : ∀ row ∈ rows, ∀ f ∈ row.fields, f.2.isFinite = true) :
    readObjects? (Output.json rows) = some (rows.map Row.fields) := by
  have hopening : isSpace '[' = false := by decide
  by_cases hempty : rows = []
  · subst hempty
    rw [readObjects?]
    have hnil : bracketed? object? '[' ']' (Output.json []).toList = some ([], []) :=
      bracketed?_nil (.inl rfl) hopening
    rw [hnil]
    rfl
  · generalize htexts : (rows.map Output.jsonObject).map String.toList = texts
    have hreads : List.Forall₂ (Reads object?) texts (rows.map Row.fields) := by
      rw [← htexts, List.map_map, List.forall₂_map_left_iff, List.forall₂_map_right_iff,
        List.forall₂_same]
      exact fun row hrow => reads_object (hrows row hrow)
    have hne : texts ≠ [] := by
      rw [← htexts]
      simpa using hempty
    have htext : (Output.json rows).toList =
        '[' :: ("\n".toList ++
          ((',' :: "\n".toList).intercalate texts ++ ("\n".toList ++ [']']))) := by
      rw [Output.json, if_neg hempty, ← htexts]
      simp
    have hspaced : Spaced "\n".toList "\n".toList "\n".toList :=
      ⟨isSpace_of_all rfl, isSpace_of_all rfl, isSpace_of_all rfl⟩
    have harray : bracketed? object? '[' ']' (Output.json rows).toList =
        some (rows.map Row.fields, []) := by
      rw [htext]
      exact bracketed?_intercalate hreads hne hspaced (.inl rfl) hopening
    rw [readObjects?, harray]
    rfl

/-- Rows whose fields have different names read back. -/
theorem readRows?_json {rows : List Row}
    (hrows : ∀ row ∈ rows, ∀ f ∈ row.fields, f.2.isFinite = true)
    (hdistinct : ∀ row ∈ rows, row.names.Nodup) :
    readRows? (Output.json rows) = some rows := by
  have hsame : (rows.map Row.fields).map Row.ofFields = rows := by
    rw [List.map_map]
    calc rows.map (Row.ofFields ∘ Row.fields)
        = rows.map id :=
          List.map_congr_left fun row hrow => Row.ofFields_of_nodup (hdistinct row hrow)
      _ = rows := List.map_id rows
  rw [readRows?, readObjects?_json hrows, Option.map_some, hsame]

end Rows

end Json

namespace Command

/-- The text after the name of a command reaches it unchanged, unless it begins or ends with a
blank. -/
theorem parse_argument {name : List Char} {first last : Char}
    (hname : name.all (!Text.isBlank ·) = true) (hfirst : Text.isBlank first = false)
    (hlast : Text.isBlank last = false) (cs : List Char) :
    parse (String.ofList ('\\' :: (name ++ ' ' :: first :: (cs ++ [last])))) =
      ofName (Text.lowercase (String.ofList name))
        (some (String.ofList (first :: (cs ++ [last])))) := by
  have hblank : Text.isBlank ' ' = true := by decide +kernel
  have hslash : Text.isBlank '\\' = false := by decide +kernel
  have hline : Text.trim (String.ofList ('\\' :: (name ++ ' ' :: first :: (cs ++ [last])))) =
      String.ofList ('\\' :: (name ++ ' ' :: first :: (cs ++ [last]))) := by
    have hends : '\\' :: (name ++ ' ' :: first :: (cs ++ [last])) =
        '\\' :: (name ++ ' ' :: first :: cs) ++ [last] := by simp
    rw [Text.trim, String.toList_ofList, Text.trimStart_cons_of_not_blank hslash, hends,
      Text.trimEnd_concat_of_not_blank hlast]
  have hargument : Text.trim (String.ofList (' ' :: first :: (cs ++ [last]))) =
      String.ofList (first :: (cs ++ [last])) := by
    have hstart : Text.trimStart (' ' :: first :: (cs ++ [last])) = first :: cs ++ [last] := by
      simp [Text.trimStart, hblank, hfirst]
    rw [Text.trim, String.toList_ofList, hstart, Text.trimEnd_concat_of_not_blank hlast,
      List.cons_append]
  have hspan : (name ++ ' ' :: first :: (cs ++ [last])).takeWhile (!Text.isBlank ·) = name ∧
      (name ++ ' ' :: first :: (cs ++ [last])).dropWhile (!Text.isBlank ·) =
        ' ' :: first :: (cs ++ [last]) := by
    refine span_of_ends (List.all_eq_true.mp hname) ?_
    rintro _ ⟨⟩
    simp [hblank]
  obtain ⟨htake, hdrop⟩ := hspan
  have hne : String.ofList (first :: (cs ++ [last])) ≠ "" := by
    simp [String.ext_iff]
  rw [parse, hline, String.toList_ofList, dropBackslash, splitName, htake, hdrop, hargument,
    if_neg hne]

end Command

namespace Shell

section Bound

variable (read : String → Except FileError String) (s : Shell)

theorem process_bind : s.process read "\\bind" = s.say (pendingText s.pending) := by
  have hcommand : Command.isCommand "\\bind" = true := by decide
  have hparse : Command.parse "\\bind" = .bind none := by decide +kernel
  rw [process, if_pos hcommand, hparse, obey]

/-- An array that is given to the command reaches its reader unchanged. -/
theorem process_bind_array (texts : List String) :
    s.process read ("\\bind " ++ Json.array texts) = s.bindText (Json.array texts) := by
  have harray : Json.array texts =
      String.ofList ('[' :: ([','].intercalate (texts.map String.toList) ++ [']'])) := by
    rw [← Json.toList_array, String.ofList_toList]
  have hline : "\\bind " ++ Json.array texts =
      String.ofList ('\\' :: ("bind".toList ++
        ' ' :: '[' :: ([','].intercalate (texts.map String.toList) ++ [']']))) := by
    rw [harray, String.ext_iff]
    simp
  have hcommand : Command.isCommand ("\\bind " ++ Json.array texts) = true := by
    rw [hline]
    simp [Command.isCommand]
  have hname : Text.lowercase (String.ofList "bind".toList) = "bind" := by decide +kernel
  have hparse : Command.parse ("\\bind " ++ Json.array texts) =
      .bind (some (Json.array texts)) := by
    rw [hline, Command.parse_argument (by decide +kernel) (by decide +kernel) (by decide +kernel),
      hname, harray]
    rfl
  rw [process, if_pos hcommand, hparse, obey]

end Bound

/-- Values that are shown as JSON text read back. Parameters that are bound are shown as a text
which binds the same parameters when it is given to the command again, in any shell; and rows
are shown as a text which reads as the same rows. -/
theorem json_reads_back (values : List Value) (hne : values ≠ [])
    (hvalues : ∀ v ∈ values, v.isFinite = true) (rows : List Row)
    (hrows : ∀ row ∈ rows, ∀ f ∈ row.fields, f.2.isFinite = true)
    (hdistinct : ∀ row ∈ rows, row.names.Nodup)
    (read : String → Except FileError String) (s : Shell) :
    { s with pending := values }.process read "\\bind" =
      { s with pending := values }.say
        ("Next statement binds " ++ Json.array (values.map Value.toJson)) ∧
    (s.process read ("\\bind " ++ Json.array (values.map Value.toJson))).shell =
      { s with pending := values } ∧
    (s.process read ("\\bind " ++ Json.array (values.map Value.toJson))).fault = none ∧
    Json.readObjects? (Output.json rows) = some (rows.map Row.fields) ∧
    Json.readRows? (Output.json rows) = some rows := by
  have hread := Json.readValues?_array hne hvalues
  have hbind : s.bindText (Json.array (values.map Value.toJson)) =
      { s with pending := values }.say
        ("Bound " ++ values.length.repr ++ " parameter" ++ plural values.length ++
          " to the next statement.") := by
    rw [bindText, hread]
  refine ⟨?_, ?_, ?_, Json.readObjects?_json hrows, Json.readRows?_json hrows hdistinct⟩
  · rw [process_bind, pendingText, if_neg hne]
  · rw [process_bind_array, hbind]
    rfl
  · rw [process_bind_array, hbind]
    rfl

/-- One as an integer and as a number of double precision, the negative zero, and a text with a
quote, a backslash, and a control before what looks like the rest of an escape. -/
theorem json_reads_back_of_mixed :
    let one : Binary64 := .finite ⟨false, 1 <<< 52, 1022, by decide⟩
    let values : List Value :=
      [.null, .integer 1, .real one, .real (.zero true), .text "a\"\\\x01u0041"]
    let rows : List Row := [⟨[("n\n", .integer (-7)), ("m", .real one)]⟩, ⟨[]⟩]
    let shown := "[null,1,1.0,-0.0,\"a\\\"\\\\\\u0001u0041\"]"
    let s := create .default .table
    ({ s with pending := values }.process (fun _ => .error .notFound) "\\bind").emissions =
      [.out ("Next statement binds " ++ shown ++ "\n")] ∧
    (s.process (fun _ => .error .notFound) ("\\bind " ++ shown)).shell.pending = values ∧
    Json.readRows? (Output.json rows) = some rows := by
  intro one values rows shown s
  have hshown : Json.array (values.map Value.toJson) = shown := by decide +kernel
  obtain ⟨hshow, hbind, -, -, hrows⟩ := json_reads_back values (by decide) (by decide) rows
    (by decide) (by decide) (fun _ => .error .notFound) s
  rw [hshown] at hshow hbind
  exact ⟨by rw [hshow]; rfl, by rw [hbind], hrows⟩

end Shell

end MiniSql
