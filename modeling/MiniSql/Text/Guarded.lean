/-!
# Messages in log lines

A message stands in a log line as it is, save for the controls that a terminal would obey:
bell, backspace, form feed, escape, delete, and the controls of Latin-1. They are written by
their code points. Tabs and line ends stay.

**Results.** A guarded text holds none of these controls.
-/

namespace MiniSql.Text

/-- A control of ASCII that is written by its code point. -/
def isGuardedAscii (c : Char) : Bool :=
  c = '\x07' || c = '\x08' || c = '\x0c' || c = '\x1b' || c = '\x7f'

/-- A control of Latin-1. -/
def isGuardedLatin (c : Char) : Bool :=
  '\u0080' ≤ c && c ≤ '\u009f'

/-- A digit of base sixteen below sixteen. -/
def hexDigit (n : Nat) : Char :=
  Nat.digitChar (n % 16)

/-- One character of a message. -/
def guardedChar (c : Char) : List Char :=
  if isGuardedAscii c then ['\\', 'x', hexDigit (c.toNat / 16), hexDigit c.toNat]
  else if isGuardedLatin c then
    ['\\', 'u', '\x7b', hexDigit (c.toNat / 16), hexDigit c.toNat, '\x7d']
  else [c]

/-- A message without the controls that a terminal would obey. -/
def guarded (s : String) : String :=
  String.ofList (s.toList.flatMap guardedChar)

@[simp] theorem guarded_empty : guarded "" = "" := rfl

/-- A digit is no control. -/
theorem hexDigit_plain (n : Nat) :
    isGuardedAscii (hexDigit n) = false ∧ isGuardedLatin (hexDigit n) = false := by
  have digits : ∀ k, k < 16 → isGuardedAscii k.digitChar = false ∧
      isGuardedLatin k.digitChar = false := by decide
  exact digits (n % 16) (Nat.mod_lt n (by decide))

/-- A guarded text holds no guarded control. -/
theorem plain_of_mem_guarded {s : String} {c : Char} (h : c ∈ (guarded s).toList) :
    isGuardedAscii c = false ∧ isGuardedLatin c = false := by
  rw [guarded, String.toList_ofList, List.mem_flatMap] at h
  obtain ⟨d, -, h⟩ := h
  unfold guardedChar at h
  split at h
  · simp only [List.mem_cons, List.not_mem_nil, or_false] at h
    rcases h with rfl | rfl | rfl | rfl
    · decide
    · decide
    · exact hexDigit_plain _
    · exact hexDigit_plain _
  split at h
  · simp only [List.mem_cons, List.not_mem_nil, or_false] at h
    rcases h with rfl | rfl | rfl | rfl | rfl | rfl
    · decide
    · decide
    · decide
    · exact hexDigit_plain _
    · exact hexDigit_plain _
    · decide
  · next ha hl => simp_all

end MiniSql.Text
