import MiniSql.Proofs.RoundTrip
import MiniSql.Proofs.Trimming

/-!
# Numerals

The scanner cuts a number token out of a text by its own rule: digits around an optional point,
at least one of them, and an exponent if a digit follows. The text of such a token is read
again, as an integer if it is one that fits and as a number of double precision otherwise, and
every text of this shape is readable in the second way.

A minus is a token of its own. What is negated is the magnitude behind it, which has no sign and
is never the least integer, so its negation is exact; a magnitude beyond the greatest integer is
no integer at all, and with it the least integer is out of reach.

**Results.**
* `Token.numerals_of_scan`: the number tokens of a text are numerals.
* `Literal.exists_readNumber`: a numeral is read as a literal, with and without a minus, and
  never as the least integer.
-/

namespace MiniSql

/-! ## The shape of a numeral -/

/-- A point with digits after it, or nothing. -/
def IsFraction (cs : List Char) : Prop :=
  cs = [] ∨ ∃ digits, cs = '.' :: digits ∧ ∀ c ∈ digits, c.isDigit = true

/-- A letter, an optional sign and at least one digit, or nothing. -/
def IsExponent (cs : List Char) : Prop :=
  cs = [] ∨ ∃ e sign digits, cs = e :: (sign ++ digits) ∧ (e = 'e' ∨ e = 'E') ∧
    (sign = [] ∨ sign = ['+'] ∨ sign = ['-']) ∧ digits ≠ [] ∧ ∀ c ∈ digits, c.isDigit = true

/-- Digits, a fraction and an exponent, with a digit before the exponent. -/
def IsNumeral (cs : List Char) : Prop :=
  ∃ whole fraction exponent, cs = whole ++ (fraction ++ exponent) ∧
    (∀ c ∈ whole, c.isDigit = true) ∧ IsFraction fraction ∧ IsExponent exponent ∧
    ∃ c ∈ whole ++ fraction, c.isDigit = true

namespace Lexer

theorem isDigit_of_mem_takeWhile {c : Char} {cs : List Char} (h : c ∈ cs.takeWhile Char.isDigit) :
    c.isDigit = true :=
  List.mem_takeWhile_imp h

theorem take_takeWhile_length (p : Char → Bool) (cs : List Char) :
    cs.take (cs.takeWhile p).length = cs.takeWhile p :=
  (List.prefix_iff_eq_take.mp (List.takeWhile_prefix p)).symm

/-- What is taken for an exponent is one. -/
theorem isExponent_take (cs : List Char) : IsExponent (cs.take (exponentLength cs)) := by
  cases cs with
  | nil => exact Or.inl rfl
  | cons e cs =>
      by_cases he : e = 'e' ∨ e = 'E'
      · rw [exponentLength_cons he]
        split
        · exact Or.inl rfl
        · next hdigits =>
            refine Or.inr ⟨e, cs.take (signLength cs),
              (cs.drop (signLength cs)).takeWhile Char.isDigit, ?_, he, ?_, ?_, ?_⟩
            · rw [Nat.add_assoc, Nat.add_comm 1, List.take_succ_cons, List.take_add,
                take_takeWhile_length]
            · unfold signLength
              split
              · next hsign =>
                  rcases hsign with hsign | hsign
                  all_goals
                    obtain ⟨ds, rfl⟩ := List.head?_eq_some_iff.mp hsign
                    simp
              · exact Or.inl rfl
            · exact fun hnil => hdigits (by rw [hnil, List.length_nil])
            · exact fun c hc => isDigit_of_mem_takeWhile hc
      · rw [exponentLength, if_neg he]
        exact Or.inl rfl

/-- A point and the digits behind it, where the digits before it have ended. -/
theorem isFraction_take {cs : List Char} (hcs : ∀ c ∈ cs.head?, c.isDigit = false) :
    let digits := (cs.drop (pointLength cs)).takeWhile Char.isDigit
    IsFraction (cs.take (pointLength cs + digits.length)) ∧
      (digits ≠ [] → ∃ c ∈ cs.take (pointLength cs + digits.length), c.isDigit = true) := by
  intro digits
  have hdigits : ∀ c ∈ digits, c.isDigit = true := fun c hc => isDigit_of_mem_takeWhile hc
  have htake : cs.take (pointLength cs + digits.length) = cs.take (pointLength cs) ++ digits := by
    rw [List.take_add, take_takeWhile_length]
  rw [htake]
  by_cases hpoint : cs.head? = some '.'
  · obtain ⟨ds, rfl⟩ := List.head?_eq_some_iff.mp hpoint
    have hone : pointLength ('.' :: ds) = 1 := if_pos rfl
    rw [hone]
    refine ⟨Or.inr ⟨digits, rfl, hdigits⟩, fun hne => ?_⟩
    obtain ⟨d, hd⟩ := List.exists_mem_of_ne_nil digits hne
    exact ⟨d, List.mem_append_right _ hd, hdigits d hd⟩
  · have hzero : pointLength cs = 0 := if_neg hpoint
    have hnone : digits = [] := by
      show (cs.drop (pointLength cs)).takeWhile Char.isDigit = []
      rw [hzero, List.drop_zero]
      exact takeWhile_eq_nil_of_ends hcs
    rw [hzero, hnone]
    exact ⟨Or.inl rfl, fun hne => (hne rfl).elim⟩

/-- Up to its exponent a numeral is digits and a fraction. -/
theorem take_plainLength (cs : List Char) :
    let rest := cs.dropWhile Char.isDigit
    let digits := (rest.drop (pointLength rest)).takeWhile Char.isDigit
    cs.take (plainLength cs) =
        cs.takeWhile Char.isDigit ++ rest.take (pointLength rest + digits.length) ∧
      (plainLength cs ≠ pointLength cs → cs.takeWhile Char.isDigit ≠ [] ∨ digits ≠ []) := by
  intro rest digits
  have hrest : cs.drop (cs.takeWhile Char.isDigit).length = rest := by
    have hleft : (cs.takeWhile Char.isDigit ++ rest).drop (cs.takeWhile Char.isDigit).length =
        rest := List.drop_left
    rwa [List.takeWhile_append_dropWhile] at hleft
  have hplain : plainLength cs =
      (cs.takeWhile Char.isDigit).length + (pointLength rest + digits.length) := by
    simp only [plainLength, ← List.drop_drop, hrest, Nat.add_assoc]
    rfl
  refine ⟨by rw [hplain, List.take_add, take_takeWhile_length, hrest], fun hne => ?_⟩
  by_contra hnone
  push Not at hnone
  obtain ⟨hwhole, hdigits⟩ := hnone
  have hall : rest = cs := by rw [← hrest, hwhole]; rfl
  rw [hplain, hwhole, hdigits, hall] at hne
  exact hne (by simp)

/-- The digits of a number token are a numeral. -/
theorem isNumeral_of_numeral {cs : List Char} {digits : String} {long : Bool}
    (h : (numeral cs).1 = .number digits long) : IsNumeral digits.toList := by
  rw [numeral_eq] at h
  split at h
  · cases h
  · split at h
    · cases h
    · next hplain =>
        obtain ⟨rfl, -⟩ := Token.number.inj h
        obtain ⟨htake, hdigit⟩ := take_plainLength cs
        have hhead : ∀ c ∈ (cs.dropWhile Char.isDigit).head?, c.isDigit = false := by
          intro c hc
          have hnot := List.head?_dropWhile_not Char.isDigit cs
          rwa [Option.mem_def.mp hc] at hnot
        obtain ⟨hfraction, hsome⟩ := isFraction_take hhead
        rw [String.toList_ofList, List.take_add, htake, List.append_assoc]
        refine ⟨_, _, _, rfl, fun c hc => isDigit_of_mem_takeWhile hc, hfraction,
          isExponent_take _, ?_⟩
        rcases hdigit hplain with hwhole | hfraction
        · obtain ⟨d, hd⟩ := List.exists_mem_of_ne_nil _ hwhole
          exact ⟨d, List.mem_append_left _ hd, isDigit_of_mem_takeWhile hd⟩
        · obtain ⟨d, hd, hdigit⟩ := hsome hfraction
          exact ⟨d, List.mem_append_right _ hd, hdigit⟩

theorem lexeme_eq_number {c : Char} {cs : List Char} {digits : String} {long : Bool} {n : Nat}
    (h : lexeme c cs = .ok (some (.number digits long), n)) : IsNumeral digits.toList := by
  rw [lexeme_eq_read] at h
  have hmakes := Reader.makes_of_read h
  generalize Reader.choose c cs.head? = r at h hmakes
  cases r with
  | numeral =>
      obtain ⟨hnumeral, -⟩ := Prod.mk.inj (Except.ok.inj h)
      exact isNumeral_of_numeral (Option.some.inj hnumeral)
  | _ => cases hmakes

/-- Every number token is a numeral. -/
theorem Scanned.isNumeral {cs : List Char} {tokens : List Token} (h : Scanned cs tokens)
    {digits : String} {long : Bool} (hmem : .number digits long ∈ tokens) :
    IsNumeral digits.toList := by
  induction h with
  | nil => cases hmem
  | cons hlexeme hrest ih =>
      rcases List.mem_append.mp hmem with hfirst | hlater
      · obtain rfl := Option.mem_toList.mp hfirst
        exact lexeme_eq_number hlexeme
      · exact ih hlater

end Lexer

/-- The number tokens of a list are numerals. -/
def Token.Numerals (tokens : List Token) : Prop :=
  ∀ digits long, .number digits long ∈ tokens → IsNumeral digits.toList

theorem Token.numerals_of_scan {sql : String} {tokens : List Token} (h : scan sql = .ok tokens) :
    Numerals tokens :=
  fun _ _ hmem => (scan_eq_ok_iff.mp h).isNumeral hmem

theorem Token.Numerals.subset {ts us : List Token} (h : Numerals us) (hsubset : ts ⊆ us) :
    Numerals ts :=
  fun digits long hmem => h digits long (hsubset hmem)

/-! ## Reading a numeral -/

section Reading

variable {cs : List Char}

theorem exists_readExponent? (h : IsExponent cs) : ∃ i, readExponent? cs = some i := by
  rcases h with rfl | ⟨e, sign, digits, rfl, he, hsign, hne, hdigits⟩
  · exact ⟨0, rfl⟩
  · obtain ⟨negative, hsplit⟩ : ∃ negative, splitSign (sign ++ digits) = (negative, digits) := by
      rcases hsign with rfl | rfl | rfl
      · exact ⟨false, splitSign_of_digits hdigits⟩
      · exact ⟨false, rfl⟩
      · exact ⟨true, rfl⟩
    have hread : readDigits? digits = some (Nat.ofDigitChars 10 digits 0) :=
      if_pos ⟨hne, List.all_eq_true.mpr hdigits⟩
    rw [readExponent?, if_pos he, hsplit]
    simp only [hread]
    exact ⟨_, rfl⟩

theorem IsExponent.head (h : IsExponent cs) :
    ∀ c ∈ cs.head?, c.isDigit = false ∧ c ≠ '.' := by
  rcases h with rfl | ⟨e, sign, digits, rfl, rfl | rfl, -, -, -⟩
  · rintro _ ⟨⟩
  · rintro _ ⟨⟩
    decide
  · rintro _ ⟨⟩
    decide

theorem span_of_ends {p : Char → Bool} {rest : List Char} (hcs : ∀ c ∈ cs, p c = true)
    (hrest : ∀ c ∈ rest.head?, p c = false) :
    (cs ++ rest).takeWhile p = cs ∧ (cs ++ rest).dropWhile p = rest := by
  refine ⟨Lexer.takeWhile_append_of_ends hcs hrest, ?_⟩
  rw [List.dropWhile_append_of_pos hcs]
  cases rest with
  | nil => rfl
  | cons d rest => exact List.dropWhile_cons_of_neg (by simp [hrest d rfl])

/-- A numeral denotes a number. -/
theorem exists_readDecimal? (h : IsNumeral cs) : ∃ d, readDecimal? cs = some d := by
  obtain ⟨whole, fraction, exponent, rfl, hwhole, hfraction, hexponent, hdigit⟩ := h
  obtain ⟨i, hread⟩ := exists_readExponent? hexponent
  have hends : ∀ c ∈ exponent.head?, c.isDigit = false := fun c hc => (hexponent.head c hc).1
  rcases hfraction with rfl | ⟨digits, rfl, hdigits⟩
  · obtain ⟨htake, hdrop⟩ := span_of_ends hwhole hends
    have hsplit : splitFraction exponent = ([], exponent) := by
      unfold splitFraction
      split
      · exact absurd rfl (hexponent.head '.' rfl).2
      · rfl
    have hne : whole ≠ [] := by
      rintro rfl
      simp at hdigit
    refine ⟨⟨whole, [], i⟩, ?_⟩
    rw [readDecimal?, List.nil_append, htake, hdrop, hsplit]
    simp only [hne, false_and, if_false, hread, Option.map_some]
  · have hpoint : ∀ c ∈ ('.' :: (digits ++ exponent)).head?, c.isDigit = false := by
      rintro _ ⟨⟩
      rfl
    obtain ⟨htake, hdrop⟩ := span_of_ends hwhole hpoint
    have hsplit : splitFraction ('.' :: (digits ++ exponent)) = (digits, exponent) :=
      Prod.ext (span_of_ends hdigits hends).1 (span_of_ends hdigits hends).2
    have hne : ¬ (whole = [] ∧ digits = []) := by
      rintro ⟨rfl, rfl⟩
      obtain ⟨c, hc, hisDigit⟩ := hdigit
      obtain rfl : c = '.' := by simpa using hc
      cases hisDigit
    refine ⟨⟨whole, digits, i⟩, ?_⟩
    rw [readDecimal?, List.cons_append, htake, hdrop, hsplit]
    simp only [if_neg hne, hread, Option.map_some]

/-- A numeral has no sign. -/
theorem IsNumeral.splitSign_eq (h : IsNumeral cs) : splitSign cs = (false, cs) := by
  obtain ⟨whole, fraction, exponent, rfl, hwhole, hfraction, -, hdigit⟩ := h
  have hsign : ∀ c ds, whole ++ (fraction ++ exponent) = c :: ds → c ≠ '-' ∧ c ≠ '+' := by
    intro c ds heq
    cases whole with
    | cons d whole =>
        obtain rfl := (List.cons.inj heq).1
        have hfirst := hwhole d List.mem_cons_self
        constructor <;> rintro rfl <;> cases hfirst
    | nil =>
        rcases hfraction with rfl | ⟨digits, rfl, -⟩
        · simp at hdigit
        · obtain rfl := (List.cons.inj heq).1
          decide
  unfold splitSign
  split
  · next heq => exact absurd rfl (hsign _ _ heq).1
  · next heq => exact absurd rfl (hsign _ _ heq).2
  · rfl

/-- The integer of a numeral is not negative. -/
theorem IsNumeral.nonneg_of_readInteger? (h : IsNumeral cs) {i : Int64}
    (hread : readInteger? cs = some i) : 0 ≤ i.toInt := by
  rw [readInteger?, h.splitSign_eq] at hread
  obtain ⟨n, -, hn⟩ := Option.bind_eq_some_iff.mp hread
  simp only [Bool.false_eq_true, if_false] at hn
  split at hn
  · next hrange =>
      obtain rfl := Option.some.inj hn
      have hlow := hrange.1
      have hhigh := hrange.2
      rw [Int64.toInt_minValue] at hlow
      rw [Int64.toInt_maxValue] at hhigh
      rw [Int64.toInt_ofInt_of_le hlow (by omega)]
      exact Int.natCast_nonneg n
  · cases hn

end Reading

namespace Literal

/-- The magnitude of a numeral is negated exactly, and the least integer is not among the
outcomes. -/
theorem toInt_neg_of_nonneg {i : Int64} (h : 0 ≤ i.toInt) :
    (-i).toInt = -i.toInt ∧ -i ≠ Int64.minValue := by
  have hhigh := Int64.toInt_lt i
  have hneg : (-i).toInt = -i.toInt := by
    rw [Int64.toInt_neg, Int.bmod_eq_of_le] <;> omega
  refine ⟨hneg, fun heq => ?_⟩
  rw [heq, Int64.toInt_minValue] at hneg
  omega

/-- A numeral is read as a literal, which is not the least integer. -/
theorem exists_readNumber {numeral : String} (h : IsNumeral numeral.toList) (negative : Bool) :
    ∃ l, readNumber numeral negative = .ok l ∧ l ≠ .integer Int64.minValue := by
  rw [readNumber]
  cases hinteger : readInteger? numeral.toList with
  | some i =>
      have hnonneg := h.nonneg_of_readInteger? hinteger
      refine ⟨_, rfl, fun heq => ?_⟩
      have hmin : (if negative then -i else i) = Int64.minValue := Literal.integer.inj heq
      cases negative with
      | true => exact (toInt_neg_of_nonneg hnonneg).2 hmin
      | false =>
          rw [show i = Int64.minValue from hmin] at hnonneg
          exact absurd hnonneg (by decide)
  | none =>
      obtain ⟨d, hd⟩ := exists_readDecimal? h
      have hread : Binary64.read? numeral.toList = some (d.toBinary64 false) := by
        rw [Binary64.read?, h.splitSign_eq]
        simp only [hd]
      simp only [hread]
      refine ⟨_, rfl, fun heq => ?_⟩
      cases heq

end Literal

end MiniSql
