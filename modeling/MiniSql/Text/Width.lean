import MiniSql.Text.Width.Ligature
import MiniSql.Text.Width.Sequence

/-!
# Display width

The number of terminal columns a text takes. What a character adds depends on how the text
after it begins: letters merge into ligatures, emoji are linked into one picture, a selector
chooses the form of the character before it, and a carriage return before a line feed takes
no column. So a text is measured from its end.

**Results.** No text has a negative width, and blanks on both sides of a text add a column
each.
-/

namespace MiniSql.Text

/-- A selector of the form of the character before it. -/
inductive FormSelector where
  /-- The form of a picture. -/
  | picture
  /-- The form of a letter or sign. -/
  | text
  /-- The wide form of a quotation mark. -/
  | wide
deriving DecidableEq, Repr

/-- The selector that a character is. -/
def FormSelector.ofChar? (c : Char) : Option FormSelector :=
  if c = '\ufe0f' then some picture
  else if c = '\ufe0e' then some text
  else if c = '\ufe01' then some wide
  else none

/-- How a text begins, as far as the character before it depends on that. -/
inductive Beginning where
  /-- In a way that changes nothing before it. -/
  | plain
  | lineFeed
  | ligature (l : Ligature)
  | emoji (s : EmojiSequence)
deriving DecidableEq, Repr

/-- What follows a character: perhaps a selector of its form, and the beginning of the text
after that. -/
structure Following where
  selector : Option FormSelector
  beginning : Beginning
deriving DecidableEq, Repr

namespace Following

/-- Nothing that changes the character before it. -/
def plain : Following := ⟨none, .plain⟩

/-- A waiting letter, if there is one. -/
def ofLigature? : Option Ligature → Following
  | some l => ⟨none, .ligature l⟩
  | none => plain

/-- The beginning is a sequence that a picture before it joins. -/
def joinsPicture (f : Following) : Bool :=
  match f.beginning with
  | .emoji .joined | .emoji .keycap => true
  | _ => false

/-- What follows a selector stays in sight behind it: a waiting letter does, and behind the
selector of a picture a sequence that it joins. -/
def select (f : Following) (s : FormSelector) : Following :=
  match f.beginning with
  | .ligature l => ⟨some s, .ligature l⟩
  | b => if s = .picture ∧ f.joinsPicture then ⟨some s, b⟩ else ⟨some s, .plain⟩

/-- What follows when the character before a selector does not have the form. -/
def unselect (f : Following) : Following :=
  match f.selector, f.beginning with
  | none, _ => f
  | some _, .ligature l => ⟨none, .ligature l⟩
  | some _, _ => plain

end Following

/-- The columns of a character when nothing follows that changes them, and what it is for
the character before it. -/
def measureAlone (c : Char) : Int × Following :=
  if isRegional c then (1, ⟨none, .emoji .indicator⟩)
  else if isTone c then (2, ⟨none, .emoji .tone⟩)
  else if isPicture c then (2, ⟨none, .emoji .picture⟩)
  else
    match Ligature.ofChar? c, FormSelector.ofChar? c with
    | some l, _ => (1, ⟨none, .ligature l⟩)
    | none, some s => (0, ⟨some s, .plain⟩)
    | none, none => (charWidth c, .plain)

/-- The columns that a character adds before a beginning. -/
def measureBefore (c : Char) : Beginning → Int × Following
  | .ligature l =>
    match l.take? c with
    | some (d, m) => (d, .ofLigature? m)
    | none => measureAlone c
  | .emoji s =>
    match s.take? c with
    | some (d, t) => (d, ⟨none, .emoji t⟩)
    | none => measureAlone c
  | _ => measureAlone c

/-- A picture that the selector of text turns into a letter or sign; square ideographs stay
pictures. -/
def hasTextForm (c : Char) : Bool :=
  isPicture c && hasTwoForms c && !CharRange.holds (0x1F200, 0x1F2FF) c

/-- A quotation mark with a wide form. -/
def hasWideForm (c : Char) : Bool :=
  c = '\u2018' || c = '\u2019' || c = '\u201c' || c = '\u201d'

/-- The columns that a character above the no-break space adds before what follows. -/
def measureLetter (c : Char) (f : Following) : Int × Following :=
  match FormSelector.ofChar? c with
  | some s => (0, f.unselect.select s)
  | none =>
    if f.selector = some .text ∧ hasTextForm c then (1, .plain)
    else if f.selector = some .wide ∧ hasWideForm c then (2, .plain)
    else measureBefore c f.unselect.beginning

/-- The columns that a character up to the no-break space adds before what follows. -/
def measureLatin (c : Char) (f : Following) : Int × Following :=
  if c = '\n' then (1, ⟨none, .lineFeed⟩)
  else if c = '\r' ∧ f = ⟨none, .lineFeed⟩ then (0, .plain)
  else (1, .plain)

/-- The columns that a character adds before what follows, and what it is for the character
before it. -/
def measureChar (c : Char) (f : Following) : Int × Following :=
  if f.selector = some .picture ∧ hasTwoForms c then
    (if f.joinsPicture then 0 else 2, ⟨none, .emoji .picture⟩)
  else if c.toNat ≤ 0xA0 then measureLatin c f
  else measureLetter c f

/-- The columns of a text, and what it is for a character before it. -/
def measure (cs : List Char) : Int × Following :=
  cs.foldr (fun c m => (m.1 + (measureChar c m.2).1, (measureChar c m.2).2)) (0, .plain)

/-- Columns taken by a text. -/
def width (cs : List Char) : Nat :=
  (measure cs).1.toNat

@[simp] theorem measure_nil : measure [] = (0, .plain) := rfl

@[simp] theorem measure_cons (c : Char) (cs : List Char) :
    measure (c :: cs) =
      ((measure cs).1 + (measureChar c (measure cs).2).1, (measureChar c (measure cs).2).2) := rfl

@[simp] theorem width_nil : width [] = 0 := rfl

/-- A text that begins in a plain way does not change the width of the text before it. -/
theorem measure_append {ds : List Char} (h : (measure ds).2 = .plain) (cs : List Char) :
    measure (cs ++ ds) = ((measure cs).1 + (measure ds).1, (measure cs).2) := by
  induction cs with
  | nil => simp [← h]
  | cons c cs ih => simp [ih, Int.add_right_comm]

/-- A blank has one form. -/
theorem hasTwoForms_blank : hasTwoForms ' ' = false := by
  decide +kernel

/-- A blank takes one column, whatever follows. -/
theorem measureChar_blank (f : Following) : measureChar ' ' f = (1, .plain) := by
  simp [measureChar, hasTwoForms_blank, measureLatin]

/-- Blanks take one column each. -/
theorem measure_blanks (n : Nat) : measure (List.replicate n ' ') = ((n : Int), .plain) := by
  induction n with
  | zero => rfl
  | succ n ih => simp [List.replicate_succ, ih, measureChar_blank]

/-! ## Widths are not negative -/

/-- Columns counted for what follows that a character may take back. -/
def Following.credit (f : Following) : Int :=
  match f.beginning with
  | .ligature l => Ligature.credit (some l)
  | .emoji s => s.credit
  | _ => 0

theorem Ligature.credit_nonneg (m : Option Ligature) : 0 ≤ Ligature.credit m := by
  unfold Ligature.credit
  split <;> decide

theorem EmojiSequence.credit_nonneg (s : EmojiSequence) : 0 ≤ s.credit := by
  unfold EmojiSequence.credit
  split <;> decide

theorem Following.credit_nonneg (f : Following) : 0 ≤ f.credit := by
  unfold Following.credit
  split
  · exact Ligature.credit_nonneg _
  · exact EmojiSequence.credit_nonneg _
  · decide

/-- A waiting letter is all the credit there is. -/
theorem Following.credit_ofLigature? (m : Option Ligature) :
    (Following.ofLigature? m).credit = Ligature.credit m := by
  cases m <;> rfl

/-- A selector takes nothing back. -/
theorem Following.credit_select_le (f : Following) (s : FormSelector) :
    (f.select s).credit ≤ f.credit := by
  have := f.credit_nonneg
  unfold Following.select
  split
  · next h => simp [Following.credit, h]
  · split
    · simp [Following.credit]
    · exact this

theorem Following.credit_unselect_le (f : Following) : f.unselect.credit ≤ f.credit := by
  have := f.credit_nonneg
  unfold Following.unselect
  split
  · exact Int.le_refl _
  · next h => simp [Following.credit, h]
  · exact this

/-- A character counts what it may have to give back. -/
theorem credit_measureAlone_le (c : Char) : (measureAlone c).2.credit ≤ (measureAlone c).1 := by
  unfold measureAlone
  split
  · decide
  split
  · decide
  split
  · decide
  split
  · next l _ => cases l <;> decide
  · exact Int.le_refl 0
  · exact Int.natCast_nonneg _

theorem credit_measureBefore_le (c : Char) (b : Beginning) :
    (measureBefore c b).2.credit ≤ (Following.mk none b).credit + (measureBefore c b).1 := by
  have alone := Int.le_trans (credit_measureAlone_le c)
    (Int.le_add_of_nonneg_left (Following.mk none b).credit_nonneg)
  unfold measureBefore
  split
  · split
    · next h =>
      rw [Following.credit_ofLigature?]
      exact Ligature.credit_le_of_take? h
    · exact alone
  · split
    · next h => exact EmojiSequence.credit_le_of_take? h
    · exact alone
  · exact alone

/-- Counting without a credit is always right. -/
theorem credit_le_add {f : Following} {d : Int} (hd : 0 ≤ d) : 0 ≤ f.credit + d :=
  Int.add_nonneg f.credit_nonneg hd

/-- No character takes back more than was counted for what follows it. -/
theorem credit_measureChar_le (c : Char) (f : Following) :
    (measureChar c f).2.credit ≤ f.credit + (measureChar c f).1 := by
  unfold measureChar
  split
  · exact credit_le_add (by split <;> decide)
  split
  · unfold measureLatin
    split
    · exact credit_le_add (by decide)
    split
    · exact credit_le_add (by decide)
    · exact credit_le_add (by decide)
  unfold measureLetter
  split
  · exact Int.le_trans (Following.credit_select_le _ _)
      (Int.le_trans f.credit_unselect_le (Int.le_of_eq (Int.add_zero _).symm))
  split
  · exact credit_le_add (by decide)
  split
  · exact credit_le_add (by decide)
  · exact Int.le_trans (credit_measureBefore_le _ _)
      (Int.add_le_add_right (f.credit_unselect_le) _)

/-- A text counts what it may have to give back. -/
theorem credit_measure_le (cs : List Char) : (measure cs).2.credit ≤ (measure cs).1 := by
  induction cs with
  | nil => decide
  | cons c cs ih =>
    rw [measure_cons]
    exact Int.le_trans (credit_measureChar_le c _) (Int.add_le_add_right ih _)

/-- No text has a negative width. -/
theorem measure_nonneg (cs : List Char) : 0 ≤ (measure cs).1 :=
  Int.le_trans (Following.credit_nonneg _) (credit_measure_le cs)

/-- Blanks on both sides of a text add a column each. -/
theorem width_between_blanks (cs : List Char) (n : Nat) :
    width (' ' :: (cs ++ List.replicate n ' ')) = width cs + n + 1 := by
  have h := measure_nonneg cs
  simp only [width, measure_cons, measure_append (congrArg Prod.snd (measure_blanks n)),
    measure_blanks, measureChar_blank]
  omega

end MiniSql.Text
