import SiteModules.Text.CharClass

namespace SiteModules.Text

def lineEnds : CharClass := ⟨[0xA, 0xE, 0x1C, 0x1F, 0x85, 0x86, 0x2028, 0x202A]⟩

def isLineEnd (c : Char) : Bool := lineEnds.contains c

/-- The lines of the text behind `held`, which is the present line's start, last character first. -/
def linesFrom (held : List Char) : List Char → List (List Char)
  | [] => if held = [] then [] else [held.reverse]
  | '\r' :: '\n' :: cs => held.reverse :: linesFrom [] cs
  | c :: cs => if isLineEnd c then held.reverse :: linesFrom [] cs else linesFrom (c :: held) cs

def lines (cs : List Char) : List (List Char) := linesFrom [] cs

end SiteModules.Text
