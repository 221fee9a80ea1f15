import Herald.Text.AsciiForm
import Herald.Text.Joiner
import Herald.Text.LowerCase
import Herald.Text.Unprintable

/-!
# Characters of host names

A host name is folded before it is used: case is dropped, characters that stand
for ASCII ones are replaced, and ignorable ones vanish. Characters that could be
taken for the punctuation of a URL are refused.
-/

namespace Herald.Net.HostChar

open Herald.Text

/-- The ASCII characters that a host name may hold. -/
def isPlain (c : Char) : Bool :=
  c.isAlphanum || c ∈ "!$&'()*+,-.;=_~".toList

/-- The characters that stand for a text with something that a host name may not
hold, or that are placeholders. -/
def refusedRuns : Runs := [
  (0xA8, 0xA8), (0xAF, 0xAF), (0xB4, 0xB4), (0xB8, 0xB8), (0x2D8, 0x2DD), (0x37A, 0x37A),
  (0x384, 0x385), (0x1FBD, 0x1FBD), (0x1FBF, 0x1FC1), (0x1FCD, 0x1FCF), (0x1FDD, 0x1FDF),
  (0x1FED, 0x1FEE), (0x1FFD, 0x1FFE), (0x2017, 0x2017), (0x2024, 0x2026), (0x203E, 0x203E),
  (0x2047, 0x2049), (0x2100, 0x2101), (0x2105, 0x2106), (0x2488, 0x249B), (0x2A74, 0x2A74),
  (0x2FF0, 0x2FFF), (0x309B, 0x309C), (0x31EF, 0x31EF), (0x33C2, 0x33C2), (0x33C7, 0x33C7),
  (0x33D8, 0x33D8), (0xFC5E, 0xFC63), (0xFDFA, 0xFDFB), (0xFE12, 0xFE12), (0xFE19, 0xFE19),
  (0xFE30, 0xFE30), (0xFE49, 0xFE4C), (0xFE52, 0xFE52), (0xFE70, 0xFE70), (0xFE72, 0xFE72),
  (0xFE74, 0xFE74), (0xFE76, 0xFE76), (0xFE78, 0xFE78), (0xFE7A, 0xFE7A), (0xFE7C, 0xFE7C),
  (0xFE7E, 0xFE7E), (0xFFE3, 0xFFE3), (0xFFFC, 0xFFFD), (0x1F100, 0x1F100)]

/-- The characters that do not count. -/
def ignorableRuns : Runs := [
  (0xAD, 0xAD), (0x34F, 0x34F), (0x115F, 0x1160), (0x17B4, 0x17B5), (0x180B, 0x180F),
  (0x200B, 0x200B), (0x2060, 0x2064), (0x206A, 0x206F), (0x3164, 0x3164), (0xFE00, 0xFE0F),
  (0xFEFF, 0xFEFF), (0xFFA0, 0xFFA0), (0x1BCA0, 0x1BCA3), (0x1D173, 0x1D17A), (0xE0100, 0xE01EF)]

/-- Characters that host names may hold although other texts do not print them
yet, for they are the latest ones to be assigned. -/
def latestRuns : Runs := [
  (0x20C2, 0x20C3), (0x1F6D9, 0x1F6D9), (0x1FA8B, 0x1FA8D), (0x1FACC, 0x1FACC),
  (0x1FADD, 0x1FADD), (0x1FAEB, 0x1FAEB), (0x1FAF9, 0x1FAFA), (0x3D000, 0x3FC3F)]

/-- The characters that stand for a text above ASCII other than their lower
case. -/
def variantRuns : Runs := [
  (0xA8, 0xA8), (0xAF, 0xAF), (0xB4, 0xB5), (0xB8, 0xB8), (0xBC, 0xBE), (0x133, 0x133),
  (0x140, 0x140), (0x149, 0x149), (0x1C6, 0x1CC), (0x1F3, 0x1F3), (0x2B1, 0x2B6), (0x2D8, 0x2DD),
  (0x2E0, 0x2E4), (0x340, 0x341), (0x343, 0x345), (0x374, 0x374), (0x37A, 0x37A), (0x384, 0x387),
  (0x3D0, 0x3D6), (0x3F0, 0x3F2), (0x3F5, 0x3F5), (0x587, 0x587), (0x675, 0x678), (0x958, 0x95F),
  (0x9DC, 0x9DF), (0xA33, 0xA33), (0xA36, 0xA36), (0xA59, 0xA5B), (0xA5E, 0xA5E), (0xB5C, 0xB5D),
  (0xE33, 0xE33), (0xEB3, 0xEB3), (0xEDC, 0xEDD), (0xF0C, 0xF0C), (0xF43, 0xF43), (0xF4D, 0xF4D),
  (0xF52, 0xF52), (0xF57, 0xF57), (0xF5C, 0xF5C), (0xF69, 0xF69), (0xF73, 0xF73), (0xF75, 0xF79),
  (0xF81, 0xF81), (0xF93, 0xF93), (0xF9D, 0xF9D), (0xFA2, 0xFA2), (0xFA7, 0xFA7), (0xFAC, 0xFAC),
  (0xFB9, 0xFB9), (0x10FC, 0x10FC), (0x13F8, 0x13FD), (0x1C80, 0x1C88), (0x1D2D, 0x1D2D),
  (0x1D32, 0x1D32), (0x1D3D, 0x1D4C), (0x1D51, 0x1D6A), (0x1D78, 0x1D78), (0x1D9B, 0x1DBF),
  (0x1E9A, 0x1E9B), (0x1F71, 0x1F71), (0x1F73, 0x1F73), (0x1F75, 0x1F75), (0x1F77, 0x1F77),
  (0x1F79, 0x1F79), (0x1F7B, 0x1F7B), (0x1F7D, 0x1FA7), (0x1FB2, 0x1FB4), (0x1FB7, 0x1FC4),
  (0x1FC7, 0x1FCF), (0x1FD3, 0x1FD3), (0x1FDD, 0x1FDF), (0x1FE3, 0x1FE3), (0x1FED, 0x1FF4),
  (0x1FF7, 0x1FFE), (0x2011, 0x2011), (0x2017, 0x2017), (0x2033, 0x2034), (0x2036, 0x2037),
  (0x203C, 0x203C), (0x203E, 0x203E), (0x2047, 0x2049), (0x2057, 0x2057), (0x207B, 0x2094),
  (0x20A8, 0x20A8), (0x2100, 0x2103), (0x2105, 0x2107), (0x2109, 0x210F), (0x2116, 0x2116),
  (0x2120, 0x2122), (0x2135, 0x2138), (0x213B, 0x2140), (0x2150, 0x217B), (0x2189, 0x2189),
  (0x222C, 0x222D), (0x222F, 0x2230), (0x2329, 0x232A), (0x2469, 0x24B5), (0x2A0C, 0x2A0C),
  (0x2A74, 0x2A76), (0x2ADC, 0x2ADC), (0x2D6F, 0x2D6F), (0x2E9F, 0x2E9F), (0x2EF3, 0x2FD5),
  (0x3036, 0x3036), (0x3038, 0x303A), (0x309B, 0x309C), (0x309F, 0x309F), (0x30FF, 0x30FF),
  (0x3131, 0x318E), (0x3192, 0x319F), (0x3200, 0x3247), (0x3250, 0x327E), (0x3280, 0x33FF),
  (0xA69C, 0xA69D), (0xA770, 0xA770), (0xA7F8, 0xA7F9), (0xAB5C, 0xAB5F), (0xAB69, 0xAB69),
  (0xAB70, 0xABBF), (0xF900, 0xFA0D), (0xFA10, 0xFA10), (0xFA12, 0xFA12), (0xFA15, 0xFA1E),
  (0xFA20, 0xFA20), (0xFA22, 0xFA22), (0xFA25, 0xFA26), (0xFA2A, 0xFB1D), (0xFB1F, 0xFBB1),
  (0xFBD3, 0xFD3D), (0xFD50, 0xFD8F), (0xFD92, 0xFDC7), (0xFDF0, 0xFDFC), (0xFE11, 0xFE18),
  (0xFE31, 0xFE44), (0xFE49, 0xFE72), (0xFE74, 0xFFEE), (0x10781, 0x107BA), (0x1D15E, 0x1D164),
  (0x1D1BB, 0x1D1C0), (0x1D6A4, 0x1D7CB), (0x1E030, 0x1E06D), (0x1EE00, 0x1EEBB),
  (0x1F101, 0x1F10A), (0x1F110, 0x1F12E), (0x1F14A, 0x1F14F), (0x1F16A, 0x1F16C),
  (0x1F190, 0x1F190), (0x1F200, 0x1F251), (0x2F800, 0x2FA1D)]

/-- The variants that stand for a text with a mark at its start. -/
def markVariantRuns : Runs := [
  (0xE33, 0xE33), (0xEB3, 0xEB3), (0xFF9E, 0xFF9F)]

/-- The Cherokee capitals, which stand for themselves. -/
def keptCapitalRuns : Runs := [(0x13A0, 0x13F5)]

/-- A character above ASCII that is not refused and counts. -/
def isAdmitted (c : Char) : Bool :=
  c ∈ [nonJoiner, joiner] ||
    (!ignorableRuns.has c && !refusedRuns.has c && (latestRuns.has c || !isUnprintable c))

/-- What a character of a host name comes to. -/
def fold? (c : Char) : Option (List Char) :=
  if c.toNat < 0x80 then some [c.toLower]
  else if ignorableRuns.has c then some []
  else
    match asciiForm? c with
    | some form => some form
    | none => if isAdmitted c then some (lowerChar c) else none

/-- Folding leaves the character as it is. -/
def isFolded (c : Char) : Bool :=
  if c.toNat < 0x80 then isPlain c && c.toLower == c && c != '.'
  else isAdmitted c && (asciiForm? c).isNone && !variantRuns.has c &&
    (lowerChar c == [c] || keptCapitalRuns.has c)

/-- The one mark that stands for a letter. -/
def letterMark : Char := Char.ofNat 0x345

/-- A label that starts with the character starts with a mark. -/
def startsWithMark (c : Char) : Bool :=
  (isMark c && c != letterMark) || markVariantRuns.has c

/-- Signs of comparison that a stroke crosses out, and the characters that they
become. -/
def struck? (c : Char) : Option Char :=
  match c with
  | '<' => some '≮'
  | '=' => some '≠'
  | '>' => some '≯'
  | _ => none

/-- The stroke that crosses a sign out. -/
def stroke : Char := Char.ofNat 0x338

/-- The text with crossed-out signs as single characters. -/
def strikeOut : List Char → List Char
  | c :: d :: rest =>
    match struck? c with
    | some struck => if d = stroke then struck :: strikeOut rest else c :: strikeOut (d :: rest)
    | none => c :: strikeOut (d :: rest)
  | text => text

end Herald.Net.HostChar
