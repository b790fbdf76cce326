import SiteModules.Text.CharClass

/-! White space of every script (Unicode 14), and the words between it. -/

namespace SiteModules.Text

def blankChars : CharClass := ⟨
  [0x9, 0xE, 0x1C, 0x21, 0x85, 0x86, 0xA0, 0xA1, 0x1680, 0x1681, 0x2000, 0x200B, 0x2028, 0x202A,
    0x202F, 0x2030, 0x205F, 0x2060, 0x3000, 0x3001]⟩

def isBlank (c : Char) : Bool := blankChars.contains c

def trimStart (cs : List Char) : List Char := cs.dropWhile isBlank

def firstWord? (cs : List Char) : Option (List Char) :=
  match (trimStart cs).takeWhile (!isBlank ·) with
  | [] => none
  | w => some w

end SiteModules.Text
