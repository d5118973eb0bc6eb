import SignedDifference.Text.Grapheme

/-!
# Characters without width

Most characters take one or two columns where they are shown.  A character that is drawn into the
one beside it, or not drawn at all, takes none.  Every ASCII character counts as one with a width
(`hasNoWidth_of_ascii`).
-/

set_option autoImplicit false

namespace SignedDifference.Text

/-- Characters with Default_Ignorable_Code_Point. -/
def defaultIgnorable : GraphemeTable.Ranges :=
  [(0xAD, 0xAD), (0x34F, 0x34F), (0x61C, 0x61C), (0x115F, 0x1160), (0x17B4, 0x17B5),
   (0x180B, 0x180F), (0x200B, 0x200F), (0x202A, 0x202E), (0x2060, 0x206F), (0x3164, 0x3164),
   (0xFE00, 0xFE0F), (0xFEFF, 0xFEFF), (0xFFA0, 0xFFA0), (0xFFF0, 0xFFF8), (0x1BCA0, 0x1BCA3),
   (0x1D173, 0x1D17A), (0xE0000, 0xE0FFF)]

/-- Characters that have a width although they are ignorable or of a class that is drawn into its
neighbour: signs set below or around a number, the filler for a missing Hangul consonant, the
Tifinagh joiner, the halfwidth sound marks, the Kirat Rai vowels and the skin tones. -/
def spaced : GraphemeTable.Ranges :=
  [(0x600, 0x604), (0x6DD, 0x6DD), (0x115F, 0x115F), (0x2D7F, 0x2D7F), (0xFF9E, 0xFF9F),
   (0x110BD, 0x110BD), (0x110CD, 0x110CD), (0x16D63, 0x16D63), (0x16D67, 0x16D6A),
   (0x1F3FB, 0x1F3FF)]

/-- Marks without width that do not extend a cluster: a caret between two letters, U+A8FA, and
marks of code points that the grapheme properties do not assign yet. -/
def separateMarks : GraphemeTable.Ranges :=
  [(0x5C8, 0x5C9), (0xB53, 0xB54), (0x1ADE, 0x1ADF), (0x1AEC, 0x1AF0), (0xA8FA, 0xA8FA),
   (0x10ECB, 0x10ECF), (0x10EF0, 0x10EF9), (0x11DF0, 0x11DF0), (0x1D127, 0x1D128),
   (0x1D250, 0x1D252), (0x1D25B, 0x1D25C), (0x1D25F, 0x1D25F), (0x1D280, 0x1D281)]

/-- Whether characters of a class are drawn into the character beside them. -/
def BreakClass.isDrawnInto : BreakClass → Bool
  | .extend | .prepend | .vowel | .trailing => true
  | _ => false

def hasNoWidth (c : Char) : Bool :=
  let n := c.toNat
  !spaced.has n &&
    (defaultIgnorable.has n || separateMarks.has n || (BreakClass.ofChar c).isDrawnInto)

theorem hasNoWidth_of_ascii (c : Char) (ascii : c.toNat < 0x80) : hasNoWidth c = false := by
  have small : ∀ n : Fin 0x80, hasNoWidth (Char.ofNat n) = false := by decide
  have same := small ⟨c.toNat, ascii⟩
  rwa [Char.ofNat_toNat] at same

end SignedDifference.Text
