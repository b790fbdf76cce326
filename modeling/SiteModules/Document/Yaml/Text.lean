import SiteModules.Document.Json
import SiteModules.Document.Yaml.Cursor

namespace SiteModules.Yaml

def readBreaks : Nat → Cursor → Except DocumentFault (List Char × Cursor)
  | 0, c => .ok ([], c)
  | fuel + 1, c =>
    if c.isDocumentMark then .error .malformed
    else
      let c := c.skipWhile isBlank
      if isBreak c.peek then do
        let (b, c) := c.lineBreak
        let (more, c) ← readBreaks fuel c
        return (b ++ more, c)
      else .ok ([], c)

def readAllBreaks : Reader (List Char) := fun c => readBreaks (c.rest.length + 1) c

/-- A single line feed reads as a space; more breaks stay, but for the first line feed. -/
def foldedBreak (first breaks : List Char) : List Char :=
  if first != ['\n'] then first ++ breaks
  else if breaks = [] then [' ']
  else breaks

def readQuotedSpace : Reader (List Char) := fun c => do
  let (blanks, c) := c.span isBlank
  if c.peek = '\x00' then throw .malformed
  else if isBreak c.peek then
    let (first, c) := c.lineBreak
    let (breaks, c) ← readAllBreaks c
    return (foldedBreak first breaks, c)
  else return (blanks, c)

def escaped? : Char → Option Char
  | '0' => some '\x00'
  | 'a' => some '\x07'
  | 'b' => some '\x08'
  | 't' => some '\t'
  | '\t' => some '\t'
  | 'n' => some '\n'
  | 'v' => some '\x0b'
  | 'f' => some '\x0c'
  | 'r' => some '\r'
  | 'e' => some '\x1b'
  | ' ' => some ' '
  | '"' => some '"'
  | '\\' => some '\\'
  | '/' => some '/'
  | 'N' => some '\x85'
  | '_' => some '\xa0'
  | 'L' => some '\u2028'
  | 'P' => some '\u2029'
  | _ => none

def escapeWidth? : Char → Option Nat
  | 'x' => some 2
  | 'u' => some 4
  | 'U' => some 8
  | _ => none

def readNumbered (width : Nat) : Reader (List Char) := fun c =>
  let digits := c.rest.take width
  match Json.hexNumber? digits with
  | none => .error .malformed
  | some n =>
    if digits.length < width then .error .malformed
    else if 0x80000000 ≤ n then .error .hugeCharacter
    else if 0x110000 ≤ n then .error .badCharacter
    else .ok ([Json.ofUnit n], Cursor.forward width c)

def readEscape : Reader (List Char) := fun c =>
  match escaped? c.peek, escapeWidth? c.peek with
  | some x, _ => .ok ([x], c.next)
  | none, some width => readNumbered width c.next
  | none, none => if isBreak c.peek then readAllBreaks c.lineBreak.2 else .error .malformed

def endsQuotedRun (c : Char) : Bool := endsWord c || c = '\'' || c = '"' || c = '\\'

def readQuoted (quote : Char) : Nat → Cursor → Except DocumentFault (List Char × Cursor)
  | 0, _ => .error .malformed
  | fuel + 1, c => do
    let (cs, c, closed) ← step c
    if closed then return (cs, c)
    let (more, c) ← readQuoted quote fuel c
    return (cs ++ more, c)
where
  step (c : Cursor) : Except DocumentFault (List Char × Cursor × Bool) := do
    let x := c.peek
    if !endsQuotedRun x then
      let (cs, c) := c.span (!endsQuotedRun ·)
      return (cs, c, false)
    else if x = quote then
      if x = '\'' ∧ c.peekAt 1 = '\'' then return ([x], Cursor.forward 2 c, false)
      return ([], c.next, true)
    else if x = '\\' ∧ quote = '"' then
      let (cs, c) ← readEscape c.next
      return (cs, c, false)
    else if endsWord x then
      let (cs, c) ← readQuotedSpace c
      return (cs, c, false)
    else return ([x], c.next, false)

def readQuotedText : Reader (List Char) := fun c => readQuoted c.peek (c.rest.length + 1) c.next

def isFlowSign (c : Char) : Bool := ",[]\x7b\x7d".toList.contains c

def plainRun (inFlow : Bool) : List Char → Nat
  | [] => 0
  | x :: rest =>
    let after := rest.headD '\x00'
    if endsWord x ∨ (x = ':' ∧ (endsWord after ∨ (inFlow ∧ isFlowSign after))) ∨
        (inFlow ∧ (isFlowSign x ∨ x = '?')) then 0
    else plainRun inFlow rest + 1

def plainBreaks : Nat → Cursor → Option (List Char) × Cursor
  | 0, c => (some [], c)
  | fuel + 1, c =>
    if c.isDocumentMark then (none, c)
    else
      let c := c.skipSpaces
      if isBreak c.peek then
        let (b, c) := c.lineBreak
        let (more, c) := plainBreaks fuel c
        (more.map (b ++ ·), c)
      else (some [], c)

structure PlainGap where
  text : List Char
  ended : Bool
  after : Cursor

def readPlainGap (c : Cursor) : PlainGap :=
  let (spaces, c) := c.span (· = ' ')
  if isBreak c.peek then
    let (first, c) := c.lineBreak
    let (breaks, c) := plainBreaks (c.rest.length + 1) c
    ⟨(breaks.map (foldedBreak first)).getD [], true, c⟩
  else ⟨spaces, false, c⟩

/--
Plain text, where in a block all its lines are indented by at least `indent`; and whether a line
ended after its last run.
-/
def readPlain (inFlow : Bool) (indent : Nat) (gap : List Char) :
    Nat → Cursor → List Char × Bool × Cursor
  | 0, c => ([], false, c)
  | fuel + 1, c =>
    let n := plainRun inFlow c.rest
    let run := c.rest.take n
    let g := readPlainGap (Cursor.forward n c)
    let goesOn := g.text != [] && g.after.peek != '#' && (inFlow || indent ≤ g.after.column) &&
      plainRun inFlow g.after.rest != 0
    if goesOn then
      let (more, ended, c) := readPlain inFlow indent g.text fuel g.after
      (gap ++ run ++ more, ended, c)
    else (gap ++ run, g.ended, g.after)

inductive Chomping
  | strip
  | clip
  | keep
  deriving DecidableEq

def chomping? : Char → Option Chomping
  | '-' => some .strip
  | '+' => some .keep
  | _ => none

def increment? (c : Char) : Option Nat := if c.isDigit then some (c.toNat - '0'.toNat) else none

def readBlockMarks : Reader (Chomping × Option Nat) := fun c => do
  let (chomp, increment, c) :=
    match chomping? c.peek, increment? c.peek with
    | some chomp, _ => match increment? c.next.peek with
      | some n => (chomp, some n, Cursor.forward 2 c)
      | none => (chomp, none, c.next)
    | none, some n => match chomping? c.next.peek with
      | some chomp => (chomp, some n, Cursor.forward 2 c)
      | none => (.clip, some n, c.next)
    | none, none => (.clip, none, c)
  if increment = some 0 then throw .malformed
  if endsLineOrSpace c.peek then return ((chomp, increment), c) else .error .malformed

def blockStart : Nat → Nat → Cursor → List Char × Nat × Cursor
  | 0, deepest, c => ([], deepest, c)
  | fuel + 1, deepest, c =>
    let c := c.skipSpaces
    let deepest := max deepest c.column
    if isBreak c.peek then
      let (b, c) := c.lineBreak
      let (more, deepest, c) := blockStart fuel deepest c
      (b ++ more, deepest, c)
    else ([], deepest, c)

def skipIndent (indent : Nat) (c : Cursor) : Cursor :=
  Cursor.forward ((c.rest.takeWhile (· = ' ')).take (indent - c.column)).length c

def blockBreaks (indent : Nat) : Nat → Cursor → List Char × Cursor
  | 0, c => ([], c)
  | fuel + 1, c =>
    let c := skipIndent indent c
    if isBreak c.peek then
      let (b, c) := c.lineBreak
      let (more, c) := blockBreaks indent fuel c
      (b ++ more, c)
    else ([], c)

def blockBreak (folded : Bool) (first next : Char) (b breaks : List Char) : List Char :=
  if folded ∧ b = ['\n'] ∧ !isBlank first ∧ !isBlank next then
    if breaks = [] then [' '] else []
  else b

def readBlockLines (folded : Bool) (indent : Nat) :
    Nat → Cursor → List Char × List Char × List Char × Cursor
  | 0, c => ([], [], [], c)
  | fuel + 1, c =>
    let first := c.peek
    let (line, c) := c.span (!endsLine ·)
    let (b, c) := c.lineBreak
    let (breaks, c) := blockBreaks indent (c.rest.length + 1) c
    if c.column = indent ∧ c.peek ≠ '\x00' then
      let (more, last, breaks', c') := readBlockLines folded indent fuel c
      (line ++ blockBreak folded first c.peek b breaks ++ breaks ++ more, last, breaks', c')
    else (line, b, breaks, c)

def readBlock (least : Nat) : Reader (List Char) := fun c => do
  let folded := c.peek = '>'
  let ((chomp, increment), c) ← readBlockMarks c.next
  let c ← c.skipLineRest
  let least := max least 1
  let (breaks, indent, c) :=
    match increment with
    | some n =>
      let indent := least + n - 1
      let (breaks, c) := blockBreaks indent (c.rest.length + 1) c
      (breaks, indent, c)
    | none =>
      let (breaks, deepest, c) := blockStart (c.rest.length + 1) 0 c
      (breaks, max least deepest, c)
  let (text, last, after, c) :=
    if c.column = indent ∧ c.peek ≠ '\x00' then
      let (lines, last, after, c) := readBlockLines folded indent (c.rest.length + 1) c
      (breaks ++ lines, last, after, c)
    else ([], [], breaks, c)
  let ending := match chomp with
    | .strip => []
    | .clip => last
    | .keep => last ++ after
  return (text ++ ending, c)

end SiteModules.Yaml
