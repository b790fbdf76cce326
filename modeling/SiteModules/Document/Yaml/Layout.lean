import SiteModules.Document.Yaml.Name
import SiteModules.Document.Yaml.Text

/-!
The tokens of a text. What is indented further than its surroundings opens a block, and what is
indented less closes it. A key is known only by the colon behind it, so every place where one may
have begun is remembered until then.
-/

namespace SiteModules.Yaml

/-- A place where a key may have begun: as deep within brackets as `level`, in front of a token. -/
structure PendingKey where
  level : Nat
  number : Nat
  required : Bool
  index : Nat
  line : Nat
  column : Nat

structure Layout where
  cursor : Cursor
  tokens : List Token
  count : Nat
  blocks : List Nat
  flow : Nat
  keyAllowed : Bool
  pending : List PendingKey

/-- A key and the colon behind it are on one line, and not further apart than this. -/
def keyLimit : Nat := 1024

namespace Layout

def start (cs : List Char) : Layout := ⟨.atStart cs, [], 0, [], 0, true, []⟩

def inFlow (l : Layout) : Bool := 0 < l.flow

def emit (l : Layout) (t : Token) : Layout :=
  { l with tokens := t :: l.tokens, count := l.count + 1 }

def insert (l : Layout) (number : Nat) (ts : List Token) : Layout :=
  let behind := l.count - number
  { l with
    tokens := l.tokens.take behind ++ ts.reverse ++ l.tokens.drop behind
    count := l.count + ts.length }

def isStale (l : Layout) (k : PendingKey) : Bool :=
  k.line != l.cursor.line || keyLimit < l.cursor.index - k.index

def dropStale (l : Layout) : Except DocumentFault Layout :=
  if l.pending.any fun k => l.isStale k && k.required then .error .malformed
  else .ok { l with pending := l.pending.filter (!l.isStale ·) }

def dropPending (l : Layout) : Except DocumentFault Layout :=
  if l.pending.any fun k => k.level == l.flow && k.required then .error .malformed
  else .ok { l with pending := l.pending.filter (·.level != l.flow) }

def savePending (l : Layout) : Except DocumentFault Layout := do
  if !l.keyAllowed then return l
  let c := l.cursor
  let required := !l.inFlow && l.blocks.head? == some c.column
  let l ← l.dropPending
  return { l with pending := ⟨l.flow, l.count, required, c.index, c.line, c.column⟩ :: l.pending }

def unwindTo (l : Layout) (columns : Nat) : Layout :=
  if l.inFlow then l
  else
    let closed := l.blocks.takeWhile (columns ≤ ·)
    { (closed.foldl (fun l _ => l.emit .blockEnd) l) with blocks := l.blocks.drop closed.length }

def isDeeper (l : Layout) (column : Nat) : Bool :=
  match l.blocks with
  | [] => true
  | b :: _ => b < column

def openBlock (l : Layout) (t : Token) : Layout :=
  if l.isDeeper l.cursor.column then
    { l.emit t with blocks := l.cursor.column :: l.blocks }
  else l

def skipGap (inFlow : Bool) : Nat → Bool → Cursor → Bool × Cursor
  | 0, ended, c => (ended, c)
  | fuel + 1, ended, c =>
    let c := c.skipSpaces
    let c := if c.peek = '#' then c.skipWhile (!endsLine ·) else c
    if isBreak c.peek then skipGap inFlow fuel (ended || !inFlow) c.next else (ended, c)

def toNext (l : Layout) : Layout :=
  let c := l.cursor
  let c := if c.index = 0 ∧ c.peek = orderMark then c.next else c
  let (keyAllowed, c) := skipGap l.inFlow (c.rest.length + 1) l.keyAllowed c
  { l with cursor := c, keyAllowed := keyAllowed }

def advance (l : Layout) (n : Nat) : Layout := { l with cursor := Cursor.forward n l.cursor }

def atMargin (l : Layout) : Except DocumentFault Layout := do
  let l ← (l.unwindTo 0).dropPending
  return { l with keyAllowed := false }

def directive (l : Layout) : Except DocumentFault Layout := do
  let l ← l.atMargin
  let (d, c) ← readDirective l.cursor
  return { l.emit (.directive d) with cursor := c }

def mark (l : Layout) (t : Token) : Except DocumentFault Layout := do
  let l ← l.atMargin
  return (l.emit t).advance 3

def openBracket (l : Layout) (t : Token) : Except DocumentFault Layout := do
  let l ← l.savePending
  return { (l.emit t).advance 1 with flow := l.flow + 1, keyAllowed := true }

def closeBracket (l : Layout) (t : Token) : Except DocumentFault Layout := do
  if !l.inFlow then throw .malformed
  let l ← l.dropPending
  return { (l.emit t).advance 1 with flow := l.flow - 1, keyAllowed := false }

def comma (l : Layout) : Except DocumentFault Layout := do
  let l ← l.dropPending
  return { (l.emit .flowEntry).advance 1 with keyAllowed := true }

def blockSign (l : Layout) (t : Token) : Except DocumentFault Layout :=
  if l.inFlow then .ok l
  else if !l.keyAllowed then .error .malformed
  else .ok (l.openBlock t)

def dash (l : Layout) : Except DocumentFault Layout := do
  let l ← (← l.blockSign .blockSequence).dropPending
  return { (l.emit .entry).advance 1 with keyAllowed := true }

def question (l : Layout) : Except DocumentFault Layout := do
  let l ← (← l.blockSign .blockMapping).dropPending
  return { (l.emit .key).advance 1 with keyAllowed := !l.inFlow }

def colon (l : Layout) : Except DocumentFault Layout := do
  match l.pending.find? (·.level == l.flow) with
  | some k =>
    let l := { l with pending := l.pending.filter (·.level != l.flow), keyAllowed := false }
    let opens := !l.inFlow && l.isDeeper k.column
    let l := l.insert k.number (if opens then [.blockMapping, .key] else [.key])
    let l := if opens then { l with blocks := k.column :: l.blocks } else l
    return (l.emit .value).advance 1
  | none =>
    let l ← (← l.blockSign .blockMapping).dropPending
    return { (l.emit .value).advance 1 with keyAllowed := !l.inFlow }

def word (l : Layout) (α : Type) (read : Reader α) (token : α → Token) :
    Except DocumentFault Layout := do
  let l ← l.savePending
  let (x, c) ← read l.cursor
  return { l.emit (token x) with cursor := c, keyAllowed := false }

def innerColumn (l : Layout) : Nat :=
  match l.blocks with
  | [] => 0
  | b :: _ => b + 1

def plain (l : Layout) : Except DocumentFault Layout := do
  let l ← l.savePending
  let c := l.cursor
  let (cs, ended, c) := readPlain l.inFlow l.innerColumn [] (c.rest.length + 1) c
  return { l.emit (.scalar cs true) with cursor := c, keyAllowed := ended }

def block (l : Layout) : Except DocumentFault Layout := do
  let l ← l.dropPending
  let (cs, c) ← readBlock l.innerColumn l.cursor
  return { l.emit (.scalar cs false) with cursor := c, keyAllowed := true }

def startsPlain (l : Layout) : Bool :=
  let c := l.cursor
  let x := c.peek
  !(endsWord x || "-?:,[]\x7b\x7d#&*!|>'\"%@`".toList.contains x) ||
    (!endsWord (c.peekAt 1) && (x = '-' || (!l.inFlow && (x = '?' || x = ':'))))

def step (l : Layout) : Except DocumentFault Layout := do
  let l ← l.toNext.dropStale
  let c := l.cursor
  let l := l.unwindTo (c.column + 1)
  let alone := endsWord (c.peekAt 1)
  match c.peek with
  | '[' => l.openBracket .flowSequence
  | '{' => l.openBracket .flowMapping
  | ']' => l.closeBracket .flowSequenceEnd
  | '}' => l.closeBracket .flowMappingEnd
  | ',' => l.comma
  | '*' => l.word String readAnchor .alias
  | '&' => l.word String readAnchor .anchor
  | '!' => l.word WrittenTag readTag .tag
  | '\'' => l.word (List Char) readQuotedText (.scalar · false)
  | '"' => l.word (List Char) readQuotedText (.scalar · false)
  | x =>
    if x = '%' ∧ c.column = 0 then l.directive
    else if c.column = 0 ∧ c.isMark '-' then l.mark .documentStart
    else if c.column = 0 ∧ c.isMark '.' then l.mark .documentEnd
    else if x = '-' ∧ alone then l.dash
    else if x = '?' ∧ (l.inFlow ∨ alone) then l.question
    else if x = ':' ∧ (l.inFlow ∨ alone) then l.colon
    else if (x = '|' ∨ x = '>') ∧ !l.inFlow then l.block
    else if l.startsPlain then l.plain
    else .error .malformed

def isAtEnd (l : Layout) : Bool := l.toNext.cursor.rest.isEmpty

def finish (l : Layout) : Except DocumentFault Layout := do
  let l ← l.toNext.dropStale
  let l ← l.atMargin
  return l.emit .streamEnd

end Layout

/-- The tokens up to the end of the text, or as many as are told before the fault that ends it. -/
structure Tokens where
  tokens : List Token
  fault : Option DocumentFault

namespace Layout

/--
The tokens that can be told by now. One in front of which a key may have begun cannot be told before
that is settled.
-/
def told (l : Layout) : List Token :=
  let unsettled := (l.pending.filter (!l.isStale ·)).map (·.number)
  l.tokens.reverse.take (unsettled.foldl min l.count)

def ends (l : Layout) (e : DocumentFault) : Tokens := ⟨l.told, some e⟩

end Layout

namespace Tokens

def readFrom : Nat → Layout → Tokens
  | 0, l => l.ends .malformed
  | fuel + 1, l =>
    if l.isAtEnd then
      match l.finish with
      | .ok l => ⟨l.tokens.reverse, none⟩
      | .error e => l.ends e
    else match l.step with
      | .ok l => readFrom fuel l
      | .error e => l.ends e

def ofChars (cs : List Char) : Tokens := readFrom (cs.length + 1) (.start cs)

end Tokens

end SiteModules.Yaml
