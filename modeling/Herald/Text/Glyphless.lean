import Herald.Text.Mark
import Herald.Text.Unprintable

/-!
# Characters without a glyph of their own

The characters that a quoted text spells by number: the unprintable ones, the
marks that extend the character before them, and letters that only fill a place.
-/

namespace Herald.Text

/-- The fillers of Hangul syllables, which are letters but show nothing. -/
def fillers : List Char :=
  [Char.ofNat 0x115F, Char.ofNat 0x1160, Char.ofNat 0x3164, Char.ofNat 0xFFA0]

def isGlyphless (c : Char) : Bool :=
  isUnprintable c || isExtendingMark c || c ∈ fillers

end Herald.Text
