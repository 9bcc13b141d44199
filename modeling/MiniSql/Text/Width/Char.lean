import MiniSql.Text.Emoji
import MiniSql.Text.Mark

/-!
# The width of a character

The columns that a character takes in a terminal when nothing around it changes that.
Characters that are wide or full-width in East Asian typography and emoji that are pictures
take two columns, characters that join the one before them take none, and every other
character takes one.
-/

namespace MiniSql.Text

/-- Ranges of the wide and full-width characters, in increasing order. Emoji that are
pictures are not among them. -/
def wideRanges : Array CharRange := #[
  (0x1100, 0x115F), (0x2329, 0x232A), (0x2630, 0x2637), (0x268A, 0x268F), (0x2E80, 0x2E99),
  (0x2E9B, 0x2EF3), (0x2F00, 0x2FD5), (0x2FF0, 0x3029), (0x3030, 0x303E), (0x3041, 0x3096),
  (0x309B, 0x30FF), (0x3105, 0x312F), (0x3131, 0x3163), (0x3165, 0x318E), (0x3190, 0x31E5),
  (0x31EF, 0x321E), (0x3220, 0x3247), (0x3250, 0xA48C), (0xA490, 0xA4C6), (0xA960, 0xA97C),
  (0xAC00, 0xD7A3), (0xF900, 0xFAFF), (0xFE10, 0xFE19), (0xFE30, 0xFE52), (0xFE54, 0xFE66),
  (0xFE68, 0xFE6B), (0xFF01, 0xFF60), (0xFFE0, 0xFFE6), (0x16FE0, 0x16FE3), (0x16FF2, 0x16FF6),
  (0x17000, 0x18CD5), (0x18CFF, 0x18D1E), (0x18D80, 0x18DF2), (0x18E00, 0x19191),
  (0x191A0, 0x191D2), (0x1AFF0, 0x1AFF3), (0x1AFF5, 0x1AFFB), (0x1AFFD, 0x1AFFE),
  (0x1B000, 0x1B122), (0x1B132, 0x1B132), (0x1B150, 0x1B152), (0x1B155, 0x1B155),
  (0x1B164, 0x1B167), (0x1B170, 0x1B2FB), (0x1D300, 0x1D356), (0x1D360, 0x1D376),
  (0x1F1AE, 0x1F1AE), (0x1F200, 0x1F200), (0x1F202, 0x1F202), (0x1F210, 0x1F219),
  (0x1F21B, 0x1F22E), (0x1F230, 0x1F231), (0x1F237, 0x1F237), (0x1F23B, 0x1F23B),
  (0x1F240, 0x1F248), (0x1F260, 0x1F265), (0x1F7DA, 0x1F7DA), (0x20000, 0x2FFFD),
  (0x30000, 0x3FFFD)]

/-- Ranges of the characters that take no column although they are neither marks nor
invisible, in increasing order: the vowels and finals of Hangul, and signs drawn around or
below the characters after them. -/
def attachedRanges : Array CharRange := #[
  (0x605, 0x605), (0x70F, 0x70F), (0x890, 0x891), (0x8E2, 0x8E2), (0xD4E, 0xD4E),
  (0x1161, 0x11FF), (0xA8FA, 0xA8FA), (0xD7B0, 0xD7C6), (0xD7CB, 0xD7FB), (0x111C2, 0x111C3),
  (0x113D1, 0x113D1), (0x1193F, 0x1193F), (0x11941, 0x11941), (0x11A84, 0x11A89),
  (0x11D46, 0x11D46), (0x11F02, 0x11F02)]

/-- A character that takes no column: a mark, an invisible or an attached character. The
filler of a Hangul initial has the place of the initial, and the joiner of Tifinagh that of a
letter. -/
def isZeroWidth (c : Char) : Bool :=
  (isMark c || isInvisible c || within attachedRanges c) && c ≠ '\u115f' && c ≠ '\u2d7f'

/-- Columns taken by a character. The characters up to the no-break space, controls
included, take one; the Khmer vowel and sign that are written with several letters take as
many as these. -/
def charWidth (c : Char) : Nat :=
  if c.toNat ≤ 0xA0 then 1
  else if c = '\u17d8' then 3
  else if c = '\u17a4' then 2
  else if isZeroWidth c then 0
  else if within wideRanges c || isPicture c then 2
  else 1

/-- An ASCII character takes one column. -/
theorem charWidth_of_ascii {c : Char} (h : c.toNat < 0x80) : charWidth c = 1 := by
  have : c.toNat ≤ 0xA0 := by omega
  simp [charWidth, this]

end MiniSql.Text
