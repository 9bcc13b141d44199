import MiniSql.Text.Width.Char

/-!
# The width of ligatures

In some scripts two letters are drawn as one glyph, which takes the columns of one letter.
The second letter is known first when a text is read from its end: it waits for a letter
before it that it merges with. Between the two may stand characters that do not hinder the
merging, and in some scripts there must be a joiner.
-/

namespace MiniSql.Text

/-- A letter that merges with certain letters before it. -/
inductive Ligature where
  /-- An alef, which merges with a lam. -/
  | alef
  /-- A lamed, which merges with an alef by a joiner. -/
  | lamed
  | joinedLamed
  /-- A Khmer letter that is drawn below the letter before it by a coeng. -/
  | khmer
  /-- A Buginese ya, which merges with an a that has a vowel sign i by a joiner. -/
  | ya
  | joinedYa
  | signedYa
  /-- A consonant of Tifinagh, which merges with another by a joiner of either kind. -/
  | tifinagh
  | joinedTifinagh
  | boundTifinagh
  /-- A tone of Lisu that merges with one of four others. -/
  | lisu
  /-- An Old Turkic i, which merges with a letter by a joiner. -/
  | orkhon
  | joinedOrkhon
  /-- The parts of the vowel signs of Kirat Rai. -/
  | kiratE
  | kiratAi
deriving DecidableEq, Repr

namespace Ligature

/-- Ranges of the alefs. -/
def alefRanges : Array CharRange := #[
  (0x622, 0x623), (0x625, 0x625), (0x627, 0x627), (0x671, 0x673), (0x675, 0x675),
  (0x773, 0x774), (0x870, 0x882)]

/-- Ranges of the lams. -/
def lamRanges : Array CharRange := #[
  (0x644, 0x644), (0x6B5, 0x6B8), (0x76A, 0x76A), (0x8A6, 0x8A6), (0x8C7, 0x8C7)]

/-- Ranges of the Khmer letters that a coeng puts below another. -/
def khmerRanges : Array CharRange := #[
  (0x1780, 0x1782), (0x1784, 0x1787), (0x1789, 0x178C), (0x178E, 0x1793), (0x1795, 0x1798),
  (0x179B, 0x179D), (0x17A0, 0x17A0), (0x17A2, 0x17A2), (0x17A7, 0x17A7), (0x17AB, 0x17AC),
  (0x17AF, 0x17AF)]

/-- Ranges of the consonants of Tifinagh. -/
def tifinaghRanges : Array CharRange := #[(0x2D31, 0x2D65), (0x2D6F, 0x2D6F)]

/-- Ranges of the characters that do not hinder a merging, the joiner among them. -/
def transparentRanges : Array CharRange := #[
  (0x34F, 0x34F), (0x17B4, 0x17B5), (0x180B, 0x180D), (0x180F, 0x180F), (0x200D, 0x200D),
  (0xFE00, 0xFE0F), (0xE0100, 0xE01EF)]

/-- Ranges of the characters without a column that keep an alef from merging with a lam
before them, in increasing order. -/
def partingRanges : Array CharRange := #[
  (0x605, 0x605), (0x890, 0x891), (0x8E2, 0x8E2), (0x9BE, 0x9BE), (0x9D7, 0x9D7),
  (0xB3E, 0xB3E), (0xB57, 0xB57), (0xBBE, 0xBBE), (0xBD7, 0xBD7), (0xCC0, 0xCC0),
  (0xCC2, 0xCC2), (0xCC7, 0xCC8), (0xCCA, 0xCCB), (0xCD5, 0xCD6), (0xD3E, 0xD3E),
  (0xD4E, 0xD4E), (0xD57, 0xD57), (0xDCF, 0xDCF), (0xDDF, 0xDDF), (0x1160, 0x11FF),
  (0x1715, 0x1715), (0x1734, 0x1734), (0x180E, 0x180E), (0x1B35, 0x1B35), (0x1B3B, 0x1B3B),
  (0x1B3D, 0x1B3D), (0x1B43, 0x1B44), (0x1BAA, 0x1BAA), (0x1BF2, 0x1BF3), (0x200C, 0x200D),
  (0x2065, 0x2069), (0x302E, 0x302F), (0x3164, 0x3164), (0xA8FA, 0xA8FA), (0xA953, 0xA953),
  (0xA9C0, 0xA9C0), (0xD7B0, 0xD7C6), (0xD7CB, 0xD7FB), (0xFF9E, 0xFFA0), (0xFFF0, 0xFFF8),
  (0x111C0, 0x111C0), (0x111C2, 0x111C3), (0x11235, 0x11235), (0x1133E, 0x1133E),
  (0x1134D, 0x1134D), (0x11357, 0x11357), (0x113B8, 0x113B8), (0x113C2, 0x113C2),
  (0x113C5, 0x113C5), (0x113C7, 0x113C9), (0x113CF, 0x113CF), (0x113D1, 0x113D1),
  (0x114B0, 0x114B0), (0x114BD, 0x114BD), (0x115AF, 0x115AF), (0x116B6, 0x116B6),
  (0x11930, 0x11930), (0x1193D, 0x1193D), (0x1193F, 0x1193F), (0x11941, 0x11941),
  (0x11A84, 0x11A89), (0x11D46, 0x11D46), (0x11F02, 0x11F02), (0x11F41, 0x11F41),
  (0x16FF0, 0x16FF1), (0x1D165, 0x1D166), (0x1D16D, 0x1D172), (0xE0000, 0xE0000),
  (0xE0002, 0xE001F), (0xE0080, 0xE00FF), (0xE01F0, 0xE0FFF)]

/-- The joiner. -/
def joiner : Char := '\u200d'

/-- The letter that a character is. -/
def ofChar? (c : Char) : Option Ligature :=
  if within alefRanges c then some alef
  else if c = '\u05dc' then some lamed
  else if within khmerRanges c then some khmer
  else if c = '\u1a10' then some ya
  else if within tifinaghRanges c then some tifinagh
  else if c = '\ua4fc' ∨ c = '\ua4fd' then some lisu
  else if c.toNat = 0x10C03 then some orkhon
  else if c.toNat = 0x16D67 then some kiratE
  else if c.toNat = 0x16D68 then some kiratAi
  else none

/-- The letter with a joiner before it. -/
def join : Ligature → Ligature
  | lamed => joinedLamed
  | ya => joinedYa
  | tifinagh => joinedTifinagh
  | orkhon => joinedOrkhon
  | l => l

/-- An alef merges with a lam, also over characters without a column. -/
def mergeAlef? (c : Char) : Option (Int × Option Ligature) :=
  if within lamRanges c then some (0, none)
  else if isZeroWidth c && !within partingRanges c then some (0, some alef)
  else none

/-- The columns that a character adds before a letter that it merges with, and the letter
that waits from then on. A glyph that was counted already may take a column less. -/
def merge? (l : Ligature) (c : Char) : Option (Int × Option Ligature) :=
  match l with
  | alef => mergeAlef? c
  | lamed | ya | orkhon => none
  | joinedLamed => if c = '\u05d0' then some (0, none) else none
  | khmer => if c = '\u17d2' then some (-1, none) else none
  | joinedYa => if c = '\u1a17' then some (0, some signedYa) else none
  | signedYa => if c = '\u1a15' then some (0, none) else none
  | tifinagh => if c = '\u2d7f' then some (1, some boundTifinagh) else none
  | joinedTifinagh =>
    if c = '\u2d7f' then some (1, some boundTifinagh)
    else if within tifinaghRanges c then some (0, none) else none
  | boundTifinagh => if within tifinaghRanges c then some (-1, none) else none
  | lisu => if '\ua4f8' ≤ c ∧ c ≤ '\ua4fb' then some (0, none) else none
  | joinedOrkhon => if c.toNat = 0x10C32 then some (0, none) else none
  | kiratE =>
    if c.toNat = 0x16D63 ∨ c.toNat = 0x16D69 then some (0, none)
    else if c.toNat = 0x16D67 then some (0, some kiratAi)
    else if c.toNat = 0x16D68 then some (1, some kiratE)
    else none
  | kiratAi => if c.toNat = 0x16D63 then some (0, none) else none

/-- The columns that a character adds before a waiting letter, and the letter that waits
from then on; nothing if the character ends the waiting. -/
def take? (l : Ligature) (c : Char) : Option (Int × Option Ligature) :=
  if l = alef then l.merge? c
  else if c = joiner then some (0, some l.join)
  else if within transparentRanges c then some (0, some l)
  else l.merge? c

/-- Columns counted for a waiting letter that a merging may take back. -/
def credit : Option Ligature → Int
  | some khmer | some boundTifinagh => 1
  | _ => 0

/-- Merging takes back no more than was counted. -/
theorem credit_le_of_merge? {l : Ligature} {c : Char} {d : Int} {m : Option Ligature}
    (h : l.merge? c = some (d, m)) : credit m ≤ credit (some l) + d := by
  cases l <;> simp only [merge?, mergeAlef?] at h <;> (repeat' split at h) <;>
    simp_all only [reduceCtorEq, Option.some.injEq, Prod.mk.injEq] <;>
    (obtain ⟨rfl, rfl⟩ := h; decide)

/-- A joiner leaves the count as it is. -/
theorem credit_join (l : Ligature) : credit (some l.join) = credit (some l) := by
  cases l <;> rfl

/-- Before a waiting letter no more is taken back than was counted. -/
theorem credit_le_of_take? {l : Ligature} {c : Char} {d : Int} {m : Option Ligature}
    (h : l.take? c = some (d, m)) : credit m ≤ credit (some l) + d := by
  unfold take? at h
  split at h
  · exact credit_le_of_merge? h
  split at h
  · obtain ⟨rfl, rfl⟩ := Prod.mk.inj (Option.some.inj h)
    simp [credit_join]
  split at h
  · obtain ⟨rfl, rfl⟩ := Prod.mk.inj (Option.some.inj h)
    simp
  · exact credit_le_of_merge? h

end Ligature

end MiniSql.Text
