import MiniSql.Proofs.JsonNumbers

/-!
# Values in JSON text

The text of a value is told by its first character, and it ends where the next one begins: a string
at its closing quote, a number before a comma, a bracket or white space. Values between commas
are therefore read one after the other, whatever white space stands around them.

An escape of four digits is looked at together with the escape behind it, which may be the second
half of a pair. The controls that are written in this way are no halves, so what follows them does
not matter.

**Results.**
* `Json.stringBody_string`: a string reads back.
* `Json.scalar?_toJson`: a value reads back.
* `Json.list?_intercalate`, `Json.bracketed?_intercalate`: texts between commas are read one by one.
* `Json.readValues?_array`: an array of values reads back.
-/

namespace MiniSql

/-- A value that is no infinity and not undefined. -/
def Value.isFinite : Value → Bool
  | .real x => x.isFinite
  | _ => true

namespace Json

/-! ## Strings -/

theorem stringBody_letter {letter c : Char} (hletter : letter ≠ 'u')
    (hread : unescape? letter = some c) (rest : List Char) :
    stringBody ('\\' :: letter :: rest) = (stringBody rest).map fun p => (c :: p.1, p.2) := by
  rw [stringBody, hread]
  · exact fun _ _ _ _ _ _ _ _ _ heq => absurd heq hletter
  · exact fun _ _ _ _ _ heq => absurd heq hletter

/-- An escape that is no half of a pair stands for itself, whatever is behind it. -/
theorem stringBody_unit {a b c d : Char} {u : Nat} (hunit : unit? a b c d = some u)
    (hhigh : isHighSurrogate u = false) (hlow : isLowSurrogate u = false) (rest : List Char) :
    stringBody ('\\' :: 'u' :: a :: b :: c :: d :: rest) =
      (stringBody rest).map fun p => (Char.ofNat u :: p.1, p.2) := by
  rw [stringBody.eq_def]
  split
  · next heq => cases heq
  · next heq => cases heq
  · next heq =>
      cases heq
      simp [hunit, hhigh, hlow]
  · next heq =>
      cases heq
      simp [hunit, hhigh, hlow]
  · next hne heq =>
      cases heq
      exact (hne _ _ _ _ _ rfl rfl).elim
  · next hne heq =>
      cases heq
      exact (hne _ _ rfl rfl).elim

theorem stringBody_plain {c : Char} (hquote : c ≠ '\x22') (hbackslash : c ≠ '\\')
    (hcontrol : ¬ c.toNat < 0x20) (rest : List Char) :
    stringBody (c :: rest) = (stringBody rest).map fun p => (c :: p.1, p.2) := by
  have hplain : ¬ (c.toNat < 0x20 ∨ c = '\\') := by simp [hcontrol, hbackslash]
  rw [stringBody, if_neg hplain]
  · exact hquote
  · exact fun _ _ _ _ _ _ _ _ _ heq => absurd heq hbackslash
  · exact fun _ _ _ _ _ heq => absurd heq hbackslash
  · exact fun _ _ heq => absurd heq hbackslash

/-- The digits of a control are read back. -/
theorem unit?_control : ∀ n < 0x20,
    unit? '0' '0' (Nat.digitChar (n / 16)) (Nat.digitChar (n % 16)) = some n ∧
      isHighSurrogate n = false ∧ isLowSurrogate n = false := by
  decide

/-- A character inside a string reads back. -/
theorem stringBody_escapeChar (c : Char) (rest : List Char) :
    stringBody (escapeChar c ++ rest) = (stringBody rest).map fun p => (c :: p.1, p.2) := by
  unfold escapeChar
  -- The characters with a letter of their own.
  iterate 7
    split
    · next heq =>
        subst heq
        exact stringBody_letter (by decide) (by decide) rest
  split
  · next hcontrol =>
      obtain ⟨hunit, hhigh, hlow⟩ := unit?_control c.toNat hcontrol
      have hread := stringBody_unit hunit hhigh hlow rest
      rwa [Char.ofNat_toNat] at hread
  · next hquote hbackslash _ _ _ _ _ hcontrol =>
      exact stringBody_plain hquote hbackslash hcontrol rest

/-- A string reads back up to its closing quote. -/
theorem stringBody_string (cs rest : List Char) :
    stringBody (cs.flatMap escapeChar ++ '\x22' :: rest) = some (cs, rest) := by
  induction cs with
  | nil => rw [List.flatMap_nil, List.nil_append, stringBody]
  | cons c cs ih =>
      rw [List.flatMap_cons, List.append_assoc, stringBody_escapeChar, ih]
      rfl

theorem toList_string (s : String) :
    (string s).toList = '\x22' :: (s.toList.flatMap escapeChar ++ ['\x22']) := by
  rw [string, String.toList_ofList]
  rfl

/-! ## Scalars -/

section Scalars

variable {cs rest : List Char} {v : Value}

/-- What is read as a number begins with a minus or a digit. -/
theorem head_of_number? {n : NumberText} (h : number? cs = some (n, rest)) :
    ∃ c ds, cs = c :: ds ∧ (c = '-' ∨ c.isDigit = true) := by
  cases cs with
  | nil => simp [number?_eq, splitMinus, wholePart] at h
  | cons c ds =>
      refine ⟨c, ds, rfl, ?_⟩
      by_contra hnone
      obtain ⟨hminus, hdigit⟩ := not_or.mp hnone
      have hsplit : splitMinus (c :: ds) = (false, c :: ds) := by
        unfold splitMinus
        split
        · next heq => exact absurd (List.cons.inj heq).1 hminus
        · rfl
      have hwhole : wholePart (c :: ds) = [] := by
        unfold wholePart
        split
        · next heq =>
            obtain rfl := (List.cons.inj heq).1
            exact absurd rfl hdigit
        · exact List.takeWhile_cons_of_neg (by simpa using hdigit)
      simp [number?_eq, hsplit, hwhole] at h

theorem scalar?_of_number? {n : NumberText} (h : number? cs = some (n, rest))
    (hvalue : n.value? = some v) : scalar? cs = some (v, rest) := by
  obtain ⟨c, ds, rfl, hc⟩ := head_of_number? h
  unfold scalar?
  split
  · next heq =>
      cases heq
      exact absurd hc (by decide)
  · next heq =>
      cases heq
      exact absurd hc (by decide)
  · next heq =>
      cases heq
      exact absurd hc (by decide)
  · next heq =>
      cases heq
      exact absurd hc (by decide)
  · simp [h, hvalue]

/-- A scalar does not begin with white space, nor with the end of a list. -/
theorem head_of_scalar? (h : scalar? cs = some (v, rest)) :
    ∃ c ds, cs = c :: ds ∧ isSpace c = false ∧ c ≠ ']' ∧ c ≠ '\x7d' := by
  unfold scalar? at h
  split at h
  · exact ⟨_, _, rfl, by decide⟩
  · exact ⟨_, _, rfl, by decide⟩
  · exact ⟨_, _, rfl, by decide⟩
  · exact ⟨_, _, rfl, by decide⟩
  · obtain ⟨⟨n, rest'⟩, hnumber, -⟩ := Option.bind_eq_some_iff.mp h
    obtain ⟨c, ds, rfl, rfl | hdigit⟩ := head_of_number? hnumber
    · exact ⟨_, _, rfl, by decide⟩
    · have hne : ∀ k : Char, k.isDigit = false → c ≠ k := by
        rintro k hk rfl
        exact absurd hdigit (by simp [hk])
      refine ⟨c, ds, rfl, ?_, hne _ (by decide), hne _ (by decide)⟩
      simp [isSpace, hne ' ' (by decide), hne '\t' (by decide), hne '\n' (by decide),
        hne '\r' (by decide)]

/-- The text of a value reads back as the value. -/
theorem scalar?_toJson (hv : v.isFinite = true) (hrest : Ends rest) :
    scalar? (v.toJson.toList ++ rest) = some (v, rest) := by
  cases v with
  | null => rfl
  | integer i =>
      obtain ⟨n, hnumber, hvalue⟩ := number?_integer i hrest
      exact scalar?_of_number? hnumber hvalue
  | real x =>
      cases x with
      | finite x =>
          obtain ⟨n, hnumber, hvalue⟩ := number?_real x hrest
          exact scalar?_of_number? hnumber hvalue
      | infinite => cases hv
      | notANumber => cases hv
  | text s =>
      have htext : (string s).toList ++ rest =
          '\x22' :: (s.toList.flatMap escapeChar ++ '\x22' :: rest) := by
        rw [toList_string, List.cons_append, List.append_assoc]
        rfl
      rw [Value.toJson, htext, scalar?, stringBody_string]
      simp

end Scalars

/-! ## Lists -/

section Lists

variable {α : Type} {item : List Char → Option (α × List Char)} {opening close : Char}

/-- The items of a list up to its closing bracket, and the text after it. -/
def list? (item : List Char → Option (α × List Char)) (close : Char) :
    Nat → List Char → Option (List α × List Char)
  | 0, _ => none
  | fuel + 1, cs =>
    (item (skipSpace cs)).bind fun (value, rest) =>
      match skipSpace rest with
      | [] => none
      | c :: rest =>
        if c = ',' then
          (list? item close fuel rest).map fun (values, rest) => (value :: values, rest)
        else if c = close then some ([value], rest)
        else none

/-- A list in brackets, which may be empty, and the text after it. -/
def bracketed? (item : List Char → Option (α × List Char)) (opening close : Char)
    (cs : List Char) : Option (List α × List Char) :=
  match skipSpace cs with
  | [] => none
  | c :: rest =>
    if c = opening then
      if (skipSpace rest).head? = some close then some ([], (skipSpace rest).tail)
      else list? item close rest.length rest
    else none

/-- The items of an array are such a list of scalars. -/
theorem items?_eq_list? (fuel : Nat) (cs : List Char) :
    items? fuel cs = list? scalar? ']' fuel cs := by
  induction fuel generalizing cs with
  | zero => rfl
  | succ fuel ih =>
      rw [items?, list?]
      cases scalar? (skipSpace cs) with
      | none => rfl
      | some p =>
          obtain ⟨value, rest⟩ := p
          simp only [Option.bind_eq_bind, Option.bind_some]
          split
          · next tail heq =>
              rw [heq, ih]
              simp only [if_true]
              cases list? scalar? ']' fuel tail <;> rfl
          · next heq => simp [heq]
          · next hcomma hbracket =>
              cases hrest : skipSpace rest with
              | nil => rfl
              | cons c tail =>
                  have hne : c ≠ ',' := fun heq => hcomma tail (heq ▸ hrest)
                  have hopen : c ≠ ']' := fun heq => hbracket tail (heq ▸ hrest)
                  simp only [if_neg hne, if_neg hopen]

/-- An array is a list of scalars in brackets. -/
theorem array?_eq_bracketed? (cs : List Char) : array? cs = bracketed? scalar? '[' ']' cs := by
  unfold array? bracketed?
  cases skipSpace cs with
  | nil => rfl
  | cons c rest =>
      by_cases hopening : c = '['
      · subst hopening
        simp only [if_true, items?_eq_list?]
        split
        · next heq => simp [heq]
        · next hclose =>
            have hhead : (skipSpace rest).head? ≠ some ']' := fun heq => by
              obtain ⟨tail, htail⟩ := List.head?_eq_some_iff.mp heq
              exact hclose tail htail
            rw [if_neg hhead]
      · simp [hopening]

/-- A text is read as an item, whatever stands behind it. -/
structure Reads (item : List Char → Option (α × List Char)) (text : List Char) (value : α) :
    Prop where
  read : ∀ rest, Ends rest → item (skipSpace (text ++ rest)) = some (value, rest)
  /-- It does not begin like the end of a list. -/
  opens : ∃ c ds, skipSpace text = c :: ds ∧ c ≠ ']' ∧ c ≠ '\x7d'

theorem skipSpace_append {space : List Char} (h : ∀ c ∈ space, isSpace c = true)
    (rest : List Char) : skipSpace (space ++ rest) = skipSpace rest :=
  List.dropWhile_append_of_pos h

theorem isSpace_of_all {space : List Char} (h : space.all isSpace = true) :
    ∀ c ∈ space, isSpace c = true :=
  List.all_eq_true.mp h

theorem skipSpace_cons {c : Char} (h : isSpace c = false) (rest : List Char) :
    skipSpace (c :: rest) = c :: rest :=
  List.dropWhile_cons_of_neg (by simp [h])

/-- An item that begins behind white space. -/
theorem Reads.of_space {space cs : List Char} {c : Char} {value : α}
    (hspace : ∀ c ∈ space, isSpace c = true) (hc : isSpace c = false)
    (hclose : c ≠ ']' ∧ c ≠ '\x7d')
    (hread : ∀ rest, Ends rest → item (c :: (cs ++ rest)) = some (value, rest)) :
    Reads item (space ++ c :: cs) value := by
  refine ⟨fun rest hrest => ?_, c, cs, ?_, hclose⟩
  · rw [List.append_assoc, skipSpace_append hspace, List.cons_append, skipSpace_cons hc]
    exact hread rest hrest
  · rw [skipSpace_append hspace, skipSpace_cons hc]

/-- White space ends a number, and so does a mark behind it. -/
theorem ends_space {space rest : List Char} (h : ∀ c ∈ space, isSpace c = true)
    (hrest : Ends rest) : Ends (space ++ rest) := by
  cases space with
  | nil => exact hrest
  | cons c cs =>
      rintro _ ⟨⟩
      have hc := h c List.mem_cons_self
      simp only [isSpace, Bool.or_eq_true, decide_eq_true_eq] at hc
      rcases hc with ((rfl | rfl) | rfl) | rfl <;> decide

theorem intercalate_cons_append (sep text tail : List Char) {texts : List (List Char)}
    (hne : texts ≠ []) :
    sep.intercalate (text :: texts) ++ tail = text ++ (sep ++ (sep.intercalate texts ++ tail)) := by
  obtain ⟨next, rest, rfl⟩ := List.exists_cons_of_ne_nil hne
  rw [List.intercalate_cons_cons]
  simp only [List.append_assoc]

/-- White space around the parts of a list: in front of the first, behind each comma, and behind
the last. -/
structure Spaced (front gap after : List Char) : Prop where
  front : ∀ c ∈ front, isSpace c = true
  gap : ∀ c ∈ gap, isSpace c = true
  after : ∀ c ∈ after, isSpace c = true

theorem Spaced.none : Spaced [] [] [] :=
  ⟨by simp, by simp, by simp⟩

/-- A bracket that ends a list. -/
def Closes (close : Char) : Prop :=
  close = ']' ∨ close = '\x7d'

section Texts

variable {texts : List (List Char)} {values : List α} {front gap after rest : List Char}

theorem Closes.isSpace (h : Closes close) : isSpace close = false := by
  obtain rfl | rfl := h <;> decide

theorem Closes.ends (h : Closes close) (rest : List Char) : Ends (close :: rest) := by
  obtain rfl | rfl := h <;> (rintro _ ⟨⟩; decide)

/-- Texts between commas are read one by one. -/
theorem list?_intercalate (hreads : List.Forall₂ (Reads item) texts values) (hne : texts ≠ [])
    (hspaced : Spaced front gap after) (hclose : Closes close) {fuel : Nat}
    (hfuel : values.length ≤ fuel) :
    list? item close fuel
        (front ++ ((',' :: gap).intercalate texts ++ (after ++ close :: rest))) =
      some (values, rest) := by
  induction hreads generalizing front fuel with
  | nil => exact absurd rfl hne
  | @cons text value texts values hread hreads ih =>
      obtain ⟨fuel, rfl⟩ : ∃ n, fuel = n + 1 :=
        Nat.exists_eq_succ_of_ne_zero (Nat.ne_of_gt (Nat.lt_of_lt_of_le (Nat.succ_pos _) hfuel))
      by_cases hlast : texts = []
      · subst hlast
        obtain rfl : values = [] := List.forall₂_nil_left_iff.mp hreads
        have htail : Ends (after ++ close :: rest) := ends_space hspaced.after (hclose.ends rest)
        have hcomma : close ≠ ',' := by obtain rfl | rfl := hclose <;> decide
        rw [list?, List.intercalate_singleton, skipSpace_append hspaced.front, hread.read _ htail]
        simp only [Option.bind_some, skipSpace_append hspaced.after, skipSpace_cons hclose.isSpace,
          if_neg hcomma, if_true]
      · have hcomma : isSpace ',' = false := by decide
        rw [intercalate_cons_append _ _ _ hlast, list?, skipSpace_append hspaced.front,
          List.cons_append, hread.read _ (by rintro _ ⟨⟩; decide)]
        simp only [Option.bind_some, skipSpace_cons hcomma, if_true]
        rw [ih hlast ⟨hspaced.gap, hspaced.gap, hspaced.after⟩ (Nat.le_of_succ_le_succ hfuel)]
        rfl

theorem length_le_intercalate (hafter : after ≠ []) :
    texts.length ≤ ((',' :: gap).intercalate texts ++ after).length := by
  induction texts with
  | nil => exact Nat.zero_le _
  | cons text texts ih =>
      by_cases hlast : texts = []
      · subst hlast
        have hpos := List.length_pos_of_ne_nil hafter
        simp
        omega
      · rw [intercalate_cons_append _ _ _ hlast]
        simp only [List.length_append, List.length_cons] at ih ⊢
        omega

/-- What follows a text does not change how it begins. -/
theorem Reads.head {text : List Char} {value : α} (h : Reads item text value) (rest : List Char) :
    ∃ c ds, skipSpace (text ++ rest) = c :: ds ∧ c ≠ ']' ∧ c ≠ '\x7d' := by
  obtain ⟨c, ds, hskip, hc⟩ := h.opens
  refine ⟨c, ds ++ rest, ?_, hc⟩
  have hdrop : text.dropWhile isSpace = c :: ds := hskip
  rw [skipSpace, List.dropWhile_append, hdrop]
  rfl

/-- A list in brackets is read item by item. -/
theorem bracketed?_intercalate (hreads : List.Forall₂ (Reads item) texts values)
    (hne : texts ≠ []) (hspaced : Spaced front gap after) (hclose : Closes close)
    (hopening : isSpace opening = false) :
    bracketed? item opening close
        (opening :: (front ++ ((',' :: gap).intercalate texts ++ (after ++ close :: rest)))) =
      some (values, rest) := by
  have hhead : (skipSpace (front ++ ((',' :: gap).intercalate texts ++
      (after ++ close :: rest)))).head? ≠ some close := by
    cases hreads with
    | nil => exact absurd rfl hne
    | @cons text value texts values hread hreads =>
        obtain ⟨c, ds, hskip, hbracket, hbrace⟩ :
            ∃ c ds, skipSpace ((',' :: gap).intercalate (text :: texts) ++
              (after ++ close :: rest)) = c :: ds ∧ c ≠ ']' ∧ c ≠ '\x7d' := by
          by_cases hlast : texts = []
          · rw [hlast, List.intercalate_singleton]
            exact hread.head _
          · rw [intercalate_cons_append _ _ _ hlast]
            exact hread.head _
        rw [skipSpace_append hspaced.front, hskip, List.head?_cons, Ne, Option.some.injEq]
        obtain rfl | rfl := hclose
        · exact hbracket
        · exact hbrace
  have hlength : values.length ≤ (front ++ ((',' :: gap).intercalate texts ++
      (after ++ close :: rest))).length := by
    have hle : texts.length ≤ ((',' :: gap).intercalate texts ++ (after ++ close :: rest)).length :=
      length_le_intercalate (List.append_ne_nil_of_right_ne_nil after (List.cons_ne_nil close rest))
    rw [← hreads.length_eq, List.length_append]
    omega
  rw [bracketed?, skipSpace_cons hopening]
  simp only [if_true, if_neg hhead]
  exact list?_intercalate hreads hne hspaced hclose hlength

theorem bracketed?_nil (hclose : Closes close) (hopening : isSpace opening = false) :
    bracketed? item opening close (opening :: close :: rest) = some ([], rest) := by
  rw [bracketed?, skipSpace_cons hopening]
  simp [skipSpace_cons hclose.isSpace]

end Texts

end Lists

/-! ## Arrays -/

theorem toList_array (texts : List String) :
    (array texts).toList = '[' :: ([','].intercalate (texts.map String.toList) ++ [']']) := by
  simp [array]

theorem reads_toJson {v : Value} (hv : v.isFinite = true) :
    Reads scalar? v.toJson.toList v := by
  have hread : ∀ rest, Ends rest → scalar? (v.toJson.toList ++ rest) = some (v, rest) :=
    fun _ hrest => scalar?_toJson hv hrest
  obtain ⟨c, ds, hcons, hspace, hclose⟩ := head_of_scalar? (hread [] nofun)
  rw [List.append_nil] at hcons
  rw [hcons] at hread ⊢
  exact Reads.of_space (List.forall_mem_nil _) hspace hclose hread

/-- An array of values reads back. -/
theorem readValues?_array {values : List Value} (hne : values ≠ [])
    (hfinite : ∀ v ∈ values, v.isFinite = true) :
    readValues? (array (values.map Value.toJson)) = some values := by
  have hreads :
      List.Forall₂ (Reads scalar?) ((values.map Value.toJson).map String.toList) values := by
    rw [List.map_map, List.forall₂_map_left_iff, List.forall₂_same]
    exact fun v hv => reads_toJson (hfinite v hv)
  have harray : array? (array (values.map Value.toJson)).toList = some (values, []) := by
    rw [array?_eq_bracketed?, toList_array]
    have hopening : isSpace '[' = false := by decide
    exact bracketed?_intercalate hreads (by simpa using hne) .none (.inl rfl) hopening
  rw [readValues?, harray]
  rfl

end Json

end MiniSql
