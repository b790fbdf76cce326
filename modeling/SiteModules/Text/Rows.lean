namespace SiteModules.Text.Rows

inductive Mode
  | fieldStart
  | bare
  | quoted
  | afterQuote
  deriving DecidableEq

def fieldLimit : Nat := 131072

/-- The fields of the row so far, and the present one with its length; both last first. -/
structure Reading where
  mode : Mode
  field : List Char
  width : Nat
  fields : List (List Char)

namespace Reading

def start : Reading := ⟨.fieldStart, [], 0, []⟩

def add (r : Reading) (mode : Mode) (c : Char) : Option Reading :=
  if r.width < fieldLimit then
    some { r with mode := mode, field := c :: r.field, width := r.width + 1 }
  else none

def endField (r : Reading) : Reading := ⟨.fieldStart, [], 0, r.field.reverse :: r.fields⟩

def take (r : Reading) (c : Char) : Option Reading :=
  match r.mode with
  | .fieldStart =>
    if c = ',' then some r.endField
    else if c = '"' then some { r with mode := .quoted }
    else r.add .bare c
  | .bare => if c = ',' then some r.endField else r.add .bare c
  | .quoted => if c = '"' then some { r with mode := .afterQuote } else r.add .quoted c
  | .afterQuote =>
    if c = '"' then r.add .quoted c
    else if c = ',' then some r.endField
    else r.add .bare c

def takeLine : Reading → List Char → Option Reading
  | r, [] => some r
  | r, c :: rest => (r.take c).bind fun r => r.takeLine rest

def row (r : Reading) : List (List Char) := r.endField.fields.reverse

end Reading

/--
The rows of some lines, the first of which may continue a row; an empty line is an empty row. No
row is read from a field on that is too wide.
-/
def readFrom : Option Reading → List (List Char) → List (Option (List (List Char)))
  | none, [] => []
  | some r, [] => [some r.row]
  | none, [] :: rest => some [] :: readFrom none rest
  | open', line :: rest =>
    match (open'.getD .start).takeLine line with
    | none => [none]
    | some r =>
      if r.mode = .quoted then readFrom (some r) rest else some r.row :: readFrom none rest

def read (lines : List (List Char)) : List (Option (List (List Char))) := readFrom none lines

@[simp] theorem read_nil : read [] = [] := rfl

end SiteModules.Text.Rows
