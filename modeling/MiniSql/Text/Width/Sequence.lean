import MiniSql.Text.Width.Char

/-!
# The width of emoji sequences

Pictures, flags, keycaps and tags that are linked by joiners are drawn as one picture of two
columns. The sequence is read from its end: its last picture counts for all of it, and what
is linked before it adds nothing.

Regional indicators are counted one column each. Before a joiner they make pairs, and only
an indicator that is left over takes columns of its own.
-/

namespace MiniSql.Text

/-- How a sequence of emoji begins. -/
inductive EmojiSequence where
  /-- A picture. -/
  | picture
  /-- A joiner before a sequence. -/
  | joined
  /-- The frame of a keycap before a joined sequence. -/
  | keycap
  /-- A skin tone. -/
  | tone
  /-- One regional indicator, or more. -/
  | indicator
  | indicators
  /-- One regional indicator before a joined sequence, an even number of them, or a greater
  odd one. -/
  | joinedIndicator
  | joinedPairs
  | joinedPairsAndOne
  /-- So many letters and then digits of a tag, and the end of the tag, before a joined
  sequence. -/
  | tag (letters digits : Nat)
deriving DecidableEq, Repr

namespace EmojiSequence

/-- The end of a tag. -/
def isTagEnd (c : Char) : Bool :=
  c.toNat = 0xE007F

/-- A letter of a tag. -/
def isTagLetter (c : Char) : Bool :=
  CharRange.holds (0xE0061, 0xE007A) c

/-- A digit of a tag. -/
def isTagDigit (c : Char) : Bool :=
  CharRange.holds (0xE0030, 0xE0039) c

/-- The flag that a tag follows. -/
def isFlag (c : Char) : Bool :=
  c.toNat = 0x1F3F4

/-- A tag names a region: it has three digits, or three to six letters. -/
def namesRegion (letters digits : Nat) : Bool :=
  digits = 3 || (digits = 0 && 3 ≤ letters && letters ≤ 6)

/-- The joiner before a joined sequence links one more emoji to it. -/
def link? (c : Char) : Option (Int × EmojiSequence) :=
  if c = '\u20e3' then some (0, keycap)
  else if isRegional c then some (1, joinedIndicator)
  else if isTone c then some (0, tone)
  else if isTagEnd c then some (0, tag 0 0)
  else if isPicture c then some (0, picture)
  else none

/-- A tag goes on with a letter or digit, or begins with its flag. A tag has at most six
letters; digits stand before at most four of them, and there are at most three. -/
def extendTag? (letters digits : Nat) (c : Char) : Option (Int × EmojiSequence) :=
  if isTagLetter c && digits = 0 && letters < 6 then some (0, tag (letters + 1) 0)
  else if isTagDigit c && digits = 0 && letters ≤ 4 then some (0, tag letters 1)
  else if isTagDigit c && 1 ≤ digits && digits < 3 then some (0, tag letters (digits + 1))
  else if isFlag c && namesRegion letters digits then some (0, picture)
  else none

/-- The columns that a character adds before a sequence that goes on with it, and how the
longer sequence begins; nothing if the sequence does not go on. -/
def take? (s : EmojiSequence) (c : Char) : Option (Int × EmojiSequence) :=
  match s with
  | picture => if c = '\u200d' then some (0, joined) else none
  | tone =>
    if isTonable c then some (0, picture)
    else if c = '\u200d' then some (0, joined) else none
  | indicator => if isRegional c then some (1, indicators) else none
  | indicators =>
    if isRegional c then some (1, indicators)
    else if c = '\u200d' then some (0, joined) else none
  | joined => link? c
  | keycap => none
  | joinedIndicator => if isRegional c then some (-1, joinedPairs) else none
  | joinedPairs =>
    if isRegional c then some (3, joinedPairsAndOne)
    else if c = '\u200d' then some (0, joined) else none
  | joinedPairsAndOne =>
    if isRegional c then some (-1, joinedPairs)
    else if c = '\u200d' then some (0, joined) else none
  | tag letters digits => extendTag? letters digits c

/-- Columns counted for a sequence that the next emoji may take back. -/
def credit : EmojiSequence → Int
  | joinedIndicator | joinedPairsAndOne => 1
  | _ => 0

/-- A sequence takes back no more than was counted. -/
theorem credit_le_of_take? {s t : EmojiSequence} {c : Char} {d : Int}
    (h : s.take? c = some (d, t)) : t.credit ≤ s.credit + d := by
  cases s <;> simp only [take?, link?, extendTag?] at h <;> (repeat' split at h) <;>
    simp_all only [reduceCtorEq, Option.some.injEq, Prod.mk.injEq] <;>
    (obtain ⟨rfl, rfl⟩ := h; simp [credit])

end EmojiSequence

end MiniSql.Text
