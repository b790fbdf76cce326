import SiteModules.Failure

namespace SiteModules

structure Table where
  title : Option String
  columns : List String
  rows : List (List String)
  deriving DecidableEq, Repr

structure Span where
  text : String
  style : Option String
  deriving DecidableEq, Repr

structure Panel where
  title : String
  border : String
  text : List Span
  deriving DecidableEq, Repr

inductive Printed
  | blank
  | line (markup : String)
  | table (t : Table)
  | panel (p : Panel)
  | trace (f : Failure)

namespace Span

def isShown (c : Char) : Bool :=
  !(['\x07', '\x08', '\x0b', '\x0c', '\x0d'].contains c)

def make (text : String) (style : Option String) : List Span :=
  if text = "" then [] else [⟨String.ofList (text.toList.filter isShown), style⟩]

def styled (style text : String) : List Span := make text (some style)

def bare (text : String) : List Span := make text none

end Span

namespace Panel

def plain (p : Panel) : String := String.join (p.text.map Span.text)

def parts (p : Panel) : List (String × String) :=
  p.text.filterMap fun s => s.style.map (s.text, ·)

end Panel

end SiteModules
