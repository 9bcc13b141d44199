import MiniSql.Json.Reader
import MiniSql.Proofs.Numerals
import MiniSql.Proofs.Shortest

/-!
# Numbers in JSON text

Integers and numbers of double precision share one syntax. A number of double precision is written
with a point or an exponent, an integer with neither, so the reader tells them apart. The point
may stand anywhere in the digits: where it stands is made up for by the exponent, and zeros
before the digits or after them do not count.

**Results.**
* `Json.number?_numeral`: a numeral in front of a text is read as its parts.
* `Binary64.Scientific.exists_isWritten`: the text of a decimal is a numeral of the same value.
* `Json.number?_real`, `Json.number?_integer`: a written number reads back as itself.
-/

namespace MiniSql

namespace Json

/-! ## Numerals -/

/-- A text that a number before it does not run into. -/
def Ends (rest : List Char) : Prop :=
  ∀ c ∈ rest.head?, c.isDigit = false ∧ c ≠ '.' ∧ c ≠ 'e' ∧ c ≠ 'E'

/-- Digits before the point: no zero leads others. -/
structure IsWhole (whole : List Char) : Prop where
  digits : ∀ c ∈ whole, c.isDigit = true
  leads : whole = ['0'] ∨ ∃ c cs, whole = c :: cs ∧ c ≠ '0'

theorem isWhole_zero : IsWhole ['0'] :=
  ⟨List.forall_mem_singleton.mpr rfl, .inl rfl⟩

/-- A minus, if there is one. -/
def signText (negative : Bool) : List Char :=
  if negative then ['-'] else []

/-- The digits after a point, with the point unless there are none. -/
def fractionText : List Char → List Char
  | [] => []
  | digits => '.' :: digits

/-- An exponent with its mark, if there is one. -/
def exponentPart : Option Int → List Char
  | none => []
  | some e => 'e' :: (if e < 0 then '-' else '+') :: Nat.toDigits 10 e.natAbs

/-- A numeral without its sign. -/
def numeral (whole fraction : List Char) (exponent : Option Int) : List Char :=
  whole ++ (fractionText fraction ++ exponentPart exponent)

theorem numeral_point {fraction : List Char} (h : fraction ≠ []) (whole : List Char) :
    numeral whole fraction none = whole ++ '.' :: fraction := by
  obtain ⟨c, cs, rfl⟩ := List.exists_cons_of_ne_nil h
  rw [numeral, fractionText, exponentPart, List.append_nil]
  simp

/-- A minus in front, and the text after it. -/
def splitMinus : List Char → Bool × List Char
  | '-' :: cs => (true, cs)
  | cs => (false, cs)

/-- The digits in front that stand before a point. -/
def wholePart : List Char → List Char
  | '0' :: _ => ['0']
  | cs => cs.takeWhile Char.isDigit

theorem number?_eq (cs : List Char) :
    number? cs =
      let unsigned := (splitMinus cs).2
      let whole := wholePart unsigned
      if whole = [] then none
      else
        (fraction? (unsigned.drop whole.length)).bind fun f =>
          (exponent? f.2).bind fun e =>
            some (⟨(splitMinus cs).1, ⟨whole, f.1.getD [], e.1.getD 0⟩, f.1.isSome || e.1.isSome⟩,
              e.2) := rfl

section Numerals

variable {whole fraction rest : List Char} {exponent : Option Int}

theorem isDigit_toDigits (n : Nat) : ∀ c ∈ Nat.toDigits 10 n, c.isDigit = true :=
  fun _ hc => Nat.isDigit_of_mem_toDigits (by decide) (by decide) hc

theorem exponent?_exponentPart (hrest : Ends rest) (exponent : Option Int) :
    exponent? (exponentPart exponent ++ rest) = some (exponent, rest) := by
  have hend : ∀ c ∈ rest.head?, c.isDigit = false := fun c hc => (hrest c hc).1
  cases exponent with
  | none =>
      cases rest with
      | nil => rfl
      | cons c cs =>
          obtain ⟨-, -, hlower, hupper⟩ := hrest c rfl
          have hmark : ¬ (c = 'e' ∨ c = 'E') := by simp [hlower, hupper]
          rw [exponentPart, List.nil_append, exponent?, if_neg hmark]
  | some e =>
      obtain ⟨htake, hdrop⟩ := span_of_ends (isDigit_toDigits e.natAbs) hend
      by_cases hnegative : e < 0
      · have hvalue : -(e.natAbs : Int) = e := by omega
        simp only [exponentPart, if_pos hnegative, List.cons_append, exponent?, true_or, if_true,
          splitSign, htake, hdrop, readDigits?_toDigits]
        exact congrArg (fun i : Int => some (some i, rest)) hvalue
      · have hvalue : (e.natAbs : Int) = e := by omega
        simp only [exponentPart, if_neg hnegative, List.cons_append, exponent?, true_or, if_true,
          splitSign, htake, hdrop, readDigits?_toDigits, Bool.false_eq_true, if_false]
        exact congrArg (fun i : Int => some (some i, rest)) hvalue

theorem exponentPart_head (exponent : Option Int) (hrest : Ends rest) :
    ∀ c ∈ (exponentPart exponent ++ rest).head?, c.isDigit = false ∧ c ≠ '.' := by
  cases exponent with
  | none => exact fun c hc => ⟨(hrest c hc).1, (hrest c hc).2.1⟩
  | some e =>
      rintro _ ⟨⟩
      decide

theorem fraction?_fractionText (hdigits : ∀ c ∈ fraction, c.isDigit = true)
    (hrest : ∀ c ∈ rest.head?, c.isDigit = false ∧ c ≠ '.') :
    ∃ found, fraction? (fractionText fraction ++ rest) = some (found, rest) ∧
      found.getD [] = fraction ∧ found.isSome = !fraction.isEmpty := by
  have hend : ∀ c ∈ rest.head?, c.isDigit = false := fun c hc => (hrest c hc).1
  cases fraction with
  | nil =>
      refine ⟨none, ?_, rfl, rfl⟩
      rw [fractionText, List.nil_append]
      unfold fraction?
      split
      · exact absurd rfl (hrest '.' rfl).2
      · rfl
  | cons d ds =>
      obtain ⟨htake, hdrop⟩ := span_of_ends hdigits hend
      refine ⟨some (d :: ds), ?_, rfl, rfl⟩
      rw [fractionText, List.cons_append, fraction?, htake, hdrop]
      · simp
      · simp

theorem IsWhole.exists_cons (h : IsWhole whole) : ∃ c cs, whole = c :: cs ∧ c.isDigit = true := by
  obtain ⟨hdigits, rfl | ⟨c, cs, rfl, -⟩⟩ := h
  · exact ⟨'0', [], rfl, rfl⟩
  · exact ⟨c, cs, rfl, hdigits c List.mem_cons_self⟩

/-- The digits before the point are found. -/
theorem IsWhole.found (h : IsWhole whole) (hrest : ∀ c ∈ rest.head?, c.isDigit = false) :
    wholePart (whole ++ rest) = whole := by
  have htake := (span_of_ends h.digits hrest).1
  obtain rfl | ⟨c, cs, rfl, hc⟩ := h.leads
  · rfl
  · unfold wholePart
    split
    · next heq => exact absurd (List.cons.inj heq).1 hc
    · exact htake

theorem IsWhole.splitMinus (h : IsWhole whole) (negative : Bool) (rest : List Char) :
    Json.splitMinus (signText negative ++ (whole ++ rest)) = (negative, whole ++ rest) := by
  obtain ⟨c, cs, rfl, hc⟩ := h.exists_cons
  cases negative with
  | true => rfl
  | false =>
      unfold Json.splitMinus
      split
      · next heq =>
          obtain rfl : c = '-' := (List.cons.inj heq).1
          cases hc
      · rfl

/-- A numeral in front of a text is read as its parts. -/
theorem number?_numeral (hwhole : IsWhole whole) (hfraction : ∀ c ∈ fraction, c.isDigit = true)
    (hrest : Ends rest) (negative : Bool) :
    number? (signText negative ++ (numeral whole fraction exponent ++ rest)) =
      some (⟨negative, ⟨whole, fraction, exponent.getD 0⟩, !fraction.isEmpty || exponent.isSome⟩,
        rest) := by
  obtain ⟨found, hread, hfound, hsome⟩ :=
    fraction?_fractionText hfraction (exponentPart_head exponent hrest)
  have hnumeral : numeral whole fraction exponent ++ rest =
      whole ++ (fractionText fraction ++ (exponentPart exponent ++ rest)) := by
    simp only [numeral, List.append_assoc]
  have hends : ∀ c ∈ (fractionText fraction ++ (exponentPart exponent ++ rest)).head?,
      c.isDigit = false := by
    cases fraction with
    | nil => exact fun c hc => (exponentPart_head exponent hrest c hc).1
    | cons d ds =>
        rintro _ ⟨⟩
        rfl
  have hne : whole ≠ [] := by
    obtain ⟨c, cs, rfl, -⟩ := hwhole.exists_cons
    exact List.cons_ne_nil c cs
  rw [number?_eq, hnumeral, hwhole.splitMinus]
  simp only [hwhole.found hends, if_neg hne, List.drop_left, hread, Option.bind_some,
    exponent?_exponentPart hrest, hfound, hsome]

end Numerals

end Json

namespace Binary64

/-! ## Digits of a decimal -/

/-- The digits of a decimal do not begin with a zero, unless it is zero. -/
structure Scientific.Normal (d : Scientific) : Prop where
  digits : ∀ c ∈ d.digits, c.isDigit = true
  leads : d = ⟨['0'], 0⟩ ∨ ∃ c cs, d.digits = c :: cs ∧ c ≠ '0'

/-- The number of double precision that is nearest to a decimal. -/
def Scientific.toBinary64 (d : Scientific) (negative : Bool) : Binary64 :=
  Binary64.ofDecimal negative (Nat.ofDigitChars 10 d.digits 0) (d.exponent + 1 - d.digits.length)

theorem digitChar_ne_zero : ∀ n < 10, n ≠ 0 → n.digitChar ≠ '0' := by
  decide

/-- The digits of a number that is not zero do not begin with a zero. -/
theorem toDigits_leads {n : Nat} (hn : n ≠ 0) :
    ∃ c cs, Nat.toDigits 10 n = c :: cs ∧ c ≠ '0' := by
  induction n using Nat.strongRecOn with
  | ind n ih =>
      by_cases hsmall : n < 10
      · exact ⟨n.digitChar, [], Nat.toDigits_of_lt_base hsmall, digitChar_ne_zero n hsmall hn⟩
      · obtain ⟨c, cs, hdigits, hc⟩ := ih (n / 10) (by omega) (by omega)
        rw [Nat.toDigits_of_base_le (by decide) (by omega), hdigits]
        exact ⟨c, cs ++ [(n % 10).digitChar], rfl, hc⟩

theorem ofDigitChars_zeros (ds : List Char) (k : Nat) :
    Nat.ofDigitChars 10 (ds ++ List.replicate k '0') 0 = Nat.ofDigitChars 10 ds 0 * tenTo k := by
  rw [Nat.ofDigitChars_append, Nat.ofDigitChars_replicate_zero, tenTo_eq, Nat.mul_comm]

theorem isDigit_zeros (k : Nat) : ∀ c ∈ List.replicate k '0', c.isDigit = true := by
  intro c hc
  rw [List.eq_of_mem_replicate hc]
  rfl

/-- The zeros that are dropped from digits that do not begin with one. -/
theorem exists_dropTrailingZeros {c : Char} (hc : c ≠ '0') (cs : List Char) :
    ∃ ds k, dropTrailingZeros (c :: cs) = c :: ds ∧
      c :: cs = c :: ds ++ List.replicate k '0' := by
  have hsplit : (c :: cs).reverse.takeWhile (· = '0') ++ (c :: cs).reverse.dropWhile (· = '0') =
      (c :: cs).reverse := List.takeWhile_append_dropWhile
  obtain ⟨k, hzeros⟩ : ∃ k, (c :: cs).reverse.takeWhile (· = '0') = List.replicate k '0' :=
    ⟨_, List.eq_replicate_of_mem fun d hd => by simpa using List.mem_takeWhile_imp hd⟩
  generalize hkept : (c :: cs).reverse.dropWhile (· = '0') = kept at hsplit
  have hall : kept.reverse ++ List.replicate k '0' = c :: cs := by
    rw [← List.reverse_reverse (c :: cs), ← hsplit, hzeros, List.reverse_append,
      List.reverse_replicate]
  cases hreverse : kept.reverse with
  | nil =>
      -- All digits would be zeros.
      rw [hreverse, List.nil_append] at hall
      have hmem : c ∈ List.replicate k '0' := hall ▸ List.mem_cons_self
      exact absurd (List.eq_of_mem_replicate hmem) hc
  | cons d ds =>
      rw [hreverse] at hall
      obtain rfl : d = c := (List.cons.inj hall).1
      refine ⟨ds, k, ?_, hall.symm⟩
      rw [dropTrailingZeros, hkept, hreverse]

/-- The decimal of a number's digits has the value of the number. -/
theorem Scientific.normal_ofDecimal {digits : Nat} {step : Int} (h : digits = 0 → step = 0) :
    (Scientific.ofDecimal digits step).Normal ∧
    ∀ negative, (Scientific.ofDecimal digits step).toBinary64 negative =
      Binary64.ofDecimal negative digits step := by
  by_cases hzero : digits = 0
  · have hstep := h hzero
    subst hzero hstep
    have hnormal : Scientific.ofDecimal 0 0 = ⟨['0'], 0⟩ := by decide
    rw [hnormal]
    exact ⟨⟨Json.isWhole_zero.digits, .inl rfl⟩, fun _ => rfl⟩
  · obtain ⟨c, cs, hdigits, hc⟩ := toDigits_leads hzero
    obtain ⟨ds, k, hdrop, hall⟩ := exists_dropTrailingZeros hc cs
    have hdecimal : Scientific.ofDecimal digits step =
        ⟨c :: ds, step + ((ds.length + k : Nat) : Int)⟩ := by
      have hlength : (c :: cs).length = ds.length + k + 1 := by
        rw [hall]
        simp
      rw [Scientific.ofDecimal, hdigits, hdrop, hlength]
      simp
    have hvalue : digits = Nat.ofDigitChars 10 (c :: ds) 0 * tenTo k := by
      have hread : Nat.ofDigitChars 10 (c :: cs) 0 = digits := by
        rw [← hdigits, Nat.ofDigitChars_ten_toDigits]
      rw [← hread, hall, ofDigitChars_zeros]
    rw [hdecimal]
    refine ⟨⟨fun d hd => ?_, .inr ⟨c, ds, rfl, hc⟩⟩, fun negative => ?_⟩
    · have hmem : d ∈ Nat.toDigits 10 digits := by
        rw [hdigits, hall]
        exact List.mem_append_left _ hd
      exact Json.isDigit_toDigits digits d hmem
    · have hexponent :
          step + ((ds.length + k : Nat) : Int) + 1 - ((c :: ds).length : Int) = step + k := by
        rw [List.length_cons]
        omega
      rw [Scientific.toBinary64, hexponent, hvalue, ofDecimal_mul_tenTo]

/-! ## Texts of decimals -/

namespace Scientific

section Texts

variable {d : Scientific}

/-- A numeral denotes a decimal. -/
structure IsWritten (d : Scientific) (whole fraction : List Char) (exponent : Option Int) :
    Prop where
  isWhole : Json.IsWhole whole
  digits : ∀ c ∈ fraction, c.isDigit = true
  isReal : (!fraction.isEmpty || exponent.isSome) = true
  value : ∀ negative,
    (DecimalText.mk whole fraction (exponent.getD 0)).toBinary64 negative = d.toBinary64 negative

/-- The digits of a numeral may have further zeros at their end. -/
theorem toBinary64_eq {whole fraction : List Char} {exponent : Int} (k : Nat)
    (hdigits : Nat.ofDigitChars 10 (whole ++ fraction) 0 = Nat.ofDigitChars 10 d.digits 0 * tenTo k)
    (hexponent : exponent - fraction.length + k = d.exponent + 1 - d.digits.length)
    (negative : Bool) :
    (DecimalText.mk whole fraction exponent).toBinary64 negative = d.toBinary64 negative := by
  rw [toBinary64, ← hexponent, ← ofDecimal_mul_tenTo, ← hdigits]
  rfl

theorem ofDigitChars_zeros_append (ds : List Char) (k : Nat) :
    Nat.ofDigitChars 10 ('0' :: (List.replicate k '0' ++ ds)) 0 = Nat.ofDigitChars 10 ds 0 := by
  have hzeros : '0' :: (List.replicate k '0' ++ ds) = List.replicate (k + 1) '0' ++ ds := rfl
  rw [hzeros, Nat.ofDigitChars_append, Nat.ofDigitChars_replicate_zero, Nat.mul_zero]

/-- A decimal less than one has zeros behind the point. -/
theorem isWritten_small (h : d.Normal) (hne : d.digits ≠ []) (hexponent : d.exponent < 0) :
    d.IsWritten ['0'] (List.replicate (-d.exponent - 1).toNat '0' ++ d.digits) none := by
  refine ⟨Json.isWhole_zero, List.forall_mem_append.mpr ⟨isDigit_zeros _, h.digits⟩, ?_,
    toBinary64_eq 0 ?_ ?_⟩
  · simp [hne]
  · rw [List.singleton_append, ofDigitChars_zeros_append, tenTo_eq, Nat.pow_zero, Nat.mul_one]
  · simp
    omega

/-- What begins like the digits of a decimal other than zero leads with no zero. -/
theorem Normal.isWhole (h : d.Normal) {whole : List Char} (hne : d ≠ ⟨['0'], 0⟩)
    (hdigits : ∀ c ∈ whole, c.isDigit = true) (hhead : whole.head? = d.digits.head?) :
    Json.IsWhole whole := by
  obtain ⟨c, cs, hcons, hc⟩ := h.leads.resolve_left hne
  rw [hcons, List.head?_cons, List.head?_eq_some_iff] at hhead
  obtain ⟨ds, rfl⟩ := hhead
  exact ⟨hdigits, .inr ⟨c, ds, rfl, hc⟩⟩

/-- A whole decimal has a zero behind the point. -/
theorem isWritten_whole (h : d.Normal) (hexponent : 0 ≤ d.exponent)
    (hlength : d.digits.length ≤ d.exponent.toNat + 1) :
    d.IsWritten
      (d.digits ++ List.replicate (d.exponent.toNat + 1 - d.digits.length) '0') ['0'] none := by
  generalize hk : d.exponent.toNat + 1 - d.digits.length = k
  refine ⟨?_, Json.isWhole_zero.digits, rfl, toBinary64_eq (k + 1) ?_ ?_⟩
  · by_cases hzero : d = ⟨['0'], 0⟩
    · subst hzero
      subst hk
      exact Json.isWhole_zero
    · refine h.isWhole hzero (List.forall_mem_append.mpr ⟨h.digits, isDigit_zeros k⟩) ?_
      obtain ⟨c, cs, hcons, -⟩ := h.leads.resolve_left hzero
      rw [hcons, List.cons_append, List.head?_cons, List.head?_cons]
  · have hzeros : List.replicate k '0' ++ ['0'] = List.replicate (k + 1) '0' :=
      List.replicate_succ'.symm
    rw [List.append_assoc, hzeros, ofDigitChars_zeros]
  · simp
    omega

/-- The point within the digits. -/
theorem isWritten_inner (h : d.Normal) (hexponent : 0 ≤ d.exponent)
    (hlength : d.exponent.toNat + 1 < d.digits.length) :
    d.IsWritten (d.digits.take (d.exponent.toNat + 1)) (d.digits.drop (d.exponent.toNat + 1))
      none := by
  have hzero : d ≠ ⟨['0'], 0⟩ := by
    rintro rfl
    exact absurd hlength (by decide)
  refine ⟨?_, fun c hc => h.digits c (List.mem_of_mem_drop hc), ?_, toBinary64_eq 0 ?_ ?_⟩
  · refine h.isWhole hzero (fun c hc => h.digits c (List.mem_of_mem_take hc)) ?_
    rw [List.head?_take, if_neg (Nat.succ_ne_zero _)]
  · simpa using hlength
  · rw [List.take_append_drop, tenTo_eq, Nat.pow_zero, Nat.mul_one]
  · simp
    omega

/-- The point behind the first digit, and an exponent. -/
theorem isWritten_exponent (h : d.Normal) {c : Char} {cs : List Char}
    (hdigits : d.digits = c :: cs) : d.IsWritten [c] cs (some d.exponent) := by
  have hmem : ∀ e ∈ c :: cs, e.isDigit = true := hdigits ▸ h.digits
  refine ⟨?_, fun e he => hmem e (List.mem_cons_of_mem c he), by simp,
    toBinary64_eq 0 ?_ ?_⟩
  · by_cases hzero : d = ⟨['0'], 0⟩
    · subst hzero
      obtain ⟨rfl, -⟩ := List.cons.inj hdigits
      exact Json.isWhole_zero
    · refine h.isWhole hzero (fun e he => ?_) (by rw [hdigits]; rfl)
      rw [List.mem_singleton.mp he]
      exact hmem c List.mem_cons_self
  · rw [hdigits, tenTo_eq, Nat.pow_zero, Nat.mul_one]
    rfl
  · rw [hdigits]
    simp

/-- The text of a decimal is a numeral that denotes it. -/
theorem exists_isWritten (h : d.Normal) :
    ∃ whole fraction exponent, Layout.json.text d = Json.numeral whole fraction exponent ∧
      d.IsWritten whole fraction exponent := by
  have hne : d.digits ≠ [] := by
    obtain rfl | ⟨c, cs, hcons, -⟩ := h.leads
    · decide
    · rw [hcons]
      exact List.cons_ne_nil c cs
  simp only [Layout.text, Layout.json]
  split
  · simp only [Layout.positionalText]
    split
    · next hexponent =>
        refine ⟨_, _, _, ?_, isWritten_small h hne hexponent⟩
        rw [Json.numeral_point (by simp [hne])]
        rfl
    · next hexponent =>
        have hpositive : 0 ≤ d.exponent := Int.not_lt.mp hexponent
        split
        · next hall =>
            have hlength : d.digits.length ≤ d.exponent.toNat + 1 :=
              List.drop_eq_nil_iff.mp hall
            refine ⟨_, _, _, ?_, isWritten_whole h hpositive hlength⟩
            rw [List.take_of_length_le hlength, Json.numeral_point (by decide)]
            rfl
        · next hfraction =>
            have hlength : d.exponent.toNat + 1 < d.digits.length :=
              Nat.lt_of_not_ge fun hle => hfraction (List.drop_eq_nil_iff.mpr hle)
            refine ⟨_, _, _, ?_, isWritten_inner h hpositive hlength⟩
            rw [Json.numeral_point hfraction, Nat.sub_eq_zero_of_le hlength.le, List.replicate_zero,
              List.append_nil]
  · obtain ⟨c, cs, hcons⟩ := List.exists_cons_of_ne_nil hne
    refine ⟨_, _, _, ?_, isWritten_exponent h hcons⟩
    rw [exponentText, hcons]
    cases cs with
    | nil => rfl
    | cons => simp [Json.numeral, Json.fractionText, Json.exponentPart]

end Texts

end Scientific

end Binary64

namespace Json

/-! ## Written numbers -/

/-- A number of double precision reads back as itself. -/
theorem number?_real (x : Binary64.Finite) {rest : List Char} (hrest : Ends rest) :
    ∃ n, number? ((real (.finite x)).toList ++ rest) = some (n, rest) ∧
      n.value? = some (.real (.finite x)) := by
  obtain ⟨digits, step, hshortest, hzero, hvalue⟩ := x.shortest_reads Binary64.Layout.json.tie
  obtain ⟨hnormal, hreads⟩ := Binary64.Scientific.normal_ofDecimal hzero
  obtain ⟨whole, fraction, exponent, htext, hwritten⟩ :=
    Binary64.Scientific.exists_isWritten hnormal
  have hsigned : (real (.finite x)).toList =
      signText x.negative ++ numeral whole fraction exponent := by
    rw [real, Binary64.Layout.finiteText, hshortest, htext, String.toList_ofList, signText]
    split <;> rfl
  refine ⟨⟨x.negative, ⟨whole, fraction, exponent.getD 0⟩, true⟩, ?_, ?_⟩
  · rw [hsigned, List.append_assoc, number?_numeral hwritten.isWhole hwritten.digits hrest,
      hwritten.isReal]
  · simp [NumberText.value?, hwritten.value, hreads, hvalue, Binary64.isFinite]

theorem isWhole_toDigits (n : Nat) : IsWhole (Nat.toDigits 10 n) := by
  refine ⟨isDigit_toDigits n, ?_⟩
  by_cases hzero : n = 0
  · exact .inl (by rw [hzero, Nat.toDigits_zero])
  · exact .inr (Binary64.toDigits_leads hzero)

theorem toList_integer (i : Int) :
    (integer i).toList =
      signText (decide (i < 0)) ++ numeral (Nat.toDigits 10 i.natAbs) [] none := by
  have hnumeral : numeral (Nat.toDigits 10 i.natAbs) [] none = Nat.toDigits 10 i.natAbs := by
    simp [numeral, fractionText, exponentPart]
  rw [integer, Int.repr_eq_if, hnumeral]
  by_cases hnegative : i < 0
  · have habs : (-i).toNat = i.natAbs := by omega
    simp [hnegative, Int.not_le.mpr hnegative, habs, signText, Nat.repr_eq_ofList_toDigits]
  · have habs : i.toNat = i.natAbs := by omega
    simp [hnegative, Int.not_lt.mp hnegative, habs, signText, Nat.repr_eq_ofList_toDigits]

/-- An integer reads back as itself. -/
theorem number?_integer (i : Int64) {rest : List Char} (hrest : Ends rest) :
    ∃ n, number? ((integer i.toInt).toList ++ rest) = some (n, rest) ∧
      n.value? = some (.integer i) := by
  refine ⟨⟨decide (i.toInt < 0), ⟨Nat.toDigits 10 i.toInt.natAbs, [], 0⟩, false⟩, ?_, ?_⟩
  · rw [toList_integer, List.append_assoc,
      number?_numeral (isWhole_toDigits _) (List.forall_mem_nil _) hrest]
    rfl
  · have hdigits :
        (DecimalText.mk (Nat.toDigits 10 i.toInt.natAbs) [] 0).digits = i.toInt.natAbs := by
      rw [DecimalText.digits, List.append_nil, Nat.ofDigitChars_ten_toDigits]
    have hsign : (if i.toInt < 0 then -(i.toInt.natAbs : Int) else i.toInt.natAbs) = i.toInt := by
      split <;> omega
    have hexact : ¬ (i.toInt < 0 ∧ i.toInt.natAbs = 0) := by omega
    have hvalue : Value.ofInt i.toInt = .integer i := by
      have hleast : Int64.minValue.toInt ≤ i.toInt := by
        rw [Int64.toInt_minValue]
        exact i.le_toInt
      have hgreatest : i.toInt ≤ Int64.maxValue.toInt := by
        rw [Int64.toInt_maxValue]
        exact Int.le_sub_one_of_lt i.toInt_lt
      rw [Value.ofInt, if_pos ⟨hleast, hgreatest⟩, Int64.ofInt_toInt]
    simp only [NumberText.value?, hdigits, decide_eq_true_eq, hexact, hsign, hvalue]
    simp

end Json

end MiniSql
