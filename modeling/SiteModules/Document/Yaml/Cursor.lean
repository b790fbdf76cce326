import SiteModules.Document.Fault

/-!
A place in a text: what follows it, and the line and column where it is. Behind the end of the
text stands the character NUL, which the text itself does not hold.
-/

namespace SiteModules.Yaml

structure Cursor where
  rest : List Char
  index : Nat
  line : Nat
  column : Nat

abbrev Reader (α : Type) := Cursor → Except DocumentFault (α × Cursor)

def isBreak (c : Char) : Bool := c = '\n' || c = '\x85' || c = '\u2028' || c = '\u2029'

def isBlank (c : Char) : Bool := c = ' ' || c = '\t'

def endsLine (c : Char) : Bool := c = '\x00' || isBreak c

def endsLineOrSpace (c : Char) : Bool := endsLine c || c = ' '

def endsWord (c : Char) : Bool := endsLine c || isBlank c

def isAllowed (c : Char) : Bool :=
  c = '\t' || c = '\n' || c = '\r' || c = '\x85' ||
    (' ' ≤ c && c ≤ '~') || ('\xa0' ≤ c && c ≤ '\ufffd') || 0x10000 ≤ c.toNat

def orderMark : Char := '\ufeff'

namespace Cursor

def atStart (cs : List Char) : Cursor := ⟨cs, 0, 0, 0⟩

def peek (c : Cursor) : Char := c.rest.headD '\x00'

def peekAt (c : Cursor) (n : Nat) : Char := c.rest.getD n '\x00'

def next (c : Cursor) : Cursor :=
  match c.rest with
  | [] => c
  | x :: rest =>
    if isBreak x then ⟨rest, c.index + 1, c.line + 1, 0⟩
    else if x = orderMark then ⟨rest, c.index + 1, c.line, c.column⟩
    else ⟨rest, c.index + 1, c.line, c.column + 1⟩

def forward : Nat → Cursor → Cursor
  | 0, c => c
  | n + 1, c => forward n c.next

def span (c : Cursor) (p : Char → Bool) : List Char × Cursor :=
  let run := c.rest.takeWhile p
  (run, forward run.length c)

def skipWhile (c : Cursor) (p : Char → Bool) : Cursor := (c.span p).2

def skipSpaces (c : Cursor) : Cursor := c.skipWhile (· = ' ')

/-- A line break as it reads in a value: the two separators stay, all else is a line feed. -/
def breakText (x : Char) : List Char := if x = '\u2028' ∨ x = '\u2029' then [x] else ['\n']

def lineBreak (c : Cursor) : List Char × Cursor :=
  if isBreak c.peek then (breakText c.peek, c.next) else ([], c)

def isMark (c : Cursor) (sign : Char) : Bool :=
  c.rest.take 3 = [sign, sign, sign] && endsWord (c.peekAt 3)

def isDocumentMark (c : Cursor) : Bool := c.isMark '-' || c.isMark '.'

def skipLineRest (c : Cursor) : Except DocumentFault Cursor :=
  let c := c.skipSpaces
  let c := if c.peek = '#' then c.skipWhile (!endsLine ·) else c
  if endsLine c.peek then .ok c.lineBreak.2 else .error .malformed

end Cursor

end SiteModules.Yaml
