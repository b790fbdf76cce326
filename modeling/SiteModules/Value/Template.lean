import SiteModules.Value.Display

/-!
Text with slots for values. A slot is a percent sign, a name in parentheses, flags, a width and a
precision, each if wanted, and a letter that says in what form the value is written. Two percent
signs stand for one.
-/

namespace SiteModules.Template

structure Flags where
  left : Bool
  plus : Bool
  space : Bool
  alternate : Bool
  zero : Bool

def noFlags : Flags := ⟨false, false, false, false, false⟩

def Flags.with? (f : Flags) : Char → Option Flags
  | '-' => some { f with left := true }
  | '+' => some { f with plus := true }
  | ' ' => some { f with space := true }
  | '#' => some { f with alternate := true }
  | '0' => some { f with zero := true }
  | _ => none

inductive Extent
  | none
  | fixed (n : Nat)
  | ofValue

structure Slot where
  name : Option String
  flags : Flags
  width : Extent
  precision : Extent
  letter : Char

def readName : Nat → List Char → Option (List Char × List Char)
  | _, [] => none
  | 0, ')' :: rest => some ([], rest)
  | n + 1, ')' :: rest => (readName n rest).map fun (cs, rest) => (')' :: cs, rest)
  | n, '(' :: rest => (readName (n + 1) rest).map fun (cs, rest) => ('(' :: cs, rest)
  | n, c :: rest => (readName n rest).map fun (cs, rest) => (c :: cs, rest)

def readFlags (f : Flags) : List Char → Flags × List Char
  | [] => (f, [])
  | c :: rest => match f.with? c with
    | some f => readFlags f rest
    | none => (f, c :: rest)

def digitsValue (ds : List Char) : Nat := ds.foldl (fun n c => n * 10 + (c.toNat - '0'.toNat)) 0

def readExtent (missing : Extent) : List Char → Extent × List Char
  | '*' :: rest => (.ofValue, rest)
  | cs => match cs.span Char.isDigit with
    | ([], _) => (missing, cs)
    | (ds, rest) => (.fixed (digitsValue ds), rest)

def readPrecision : List Char → Extent × List Char
  | '.' :: rest => readExtent (.fixed 0) rest
  | cs => (.none, cs)

def dropSize : List Char → List Char
  | c :: rest => if c = 'h' ∨ c = 'l' ∨ c = 'L' then rest else c :: rest
  | [] => []

def readSlot (cs : List Char) : Option (Slot × List Char) := do
  let (name, rest) ← match cs with
    | '(' :: rest => (readName 0 rest).map fun (n, rest) => (some (String.ofList n), rest)
    | rest => some (none, rest)
  let (flags, rest) := readFlags noFlags rest
  let (width, rest) := readExtent .none rest
  let (precision, rest) := readPrecision rest
  match dropSize rest with
  | [] => none
  | letter :: rest => some (⟨name, flags, width, precision, letter⟩, rest)

structure Supply where
  names : Option (List (Key × Value))
  queue : List Value

namespace Supply

def ofList (vs : List Value) : Supply := ⟨none, vs⟩

def ofMapping (v : Value) (fields : List (Key × Value)) : Supply := ⟨some fields, [v]⟩

def take? (s : Supply) : Option (Value × Supply) :=
  match s.queue with
  | [] => none
  | v :: rest => some (v, { s with queue := rest })

def choose? (s : Supply) (name : String) : Option Supply := do
  let v ← Value.lookup? (.text name) (← s.names)
  return { s with queue := [v] }

def isUsed (s : Supply) : Bool := s.names.isSome || s.queue.isEmpty

end Supply

def asciiOnly (s : String) : List Char :=
  s.toList.flatMap fun c =>
    if c.toNat < 0x80 then [c]
    else if c.toNat < 0x100 then '\\' :: 'x' :: Text.hex 2 c.toNat
    else if c.toNat < 0x10000 then '\\' :: 'u' :: Text.hex 4 c.toNat
    else '\\' :: 'U' :: Text.hex 8 c.toNat

def whole? : Value → Option Int
  | .int n => some n
  | .bool b => some (if b then 1 else 0)
  | _ => none

def truncated? (x : Float) : Option Int :=
  match Text.Decimal.form x with
  | .finite b =>
    let n : Int := if b.exponent < 0 then ((b.mantissa / Nat.pow 2 b.exponent.natAbs : Nat) : Int)
      else ((b.mantissa * Nat.pow 2 b.exponent.natAbs : Nat) : Int)
    some (if b.negative then -n else n)
  | _ => none

def broken? : Value → Option Float
  | .float x => some x
  | v => (whole? v).map Float.ofInt

structure Written where
  signed : Bool
  negative : Bool
  mark : List Char
  body : List Char

def plainText (cs : List Char) (precision : Option Nat) : Written :=
  ⟨false, false, [], match precision with
    | some n => cs.take n
    | none => cs⟩

def baseOf : Char → Nat
  | 'o' => 8
  | 'x' => 16
  | 'X' => 16
  | _ => 10

def digitsIn (letter : Char) (n : Nat) : List Char :=
  let ds := Nat.toDigits (baseOf letter) n
  if letter = 'X' then ds.map Char.toUpper else ds

def wholeText (letter : Char) (alternate : Bool) (precision : Option Nat) (n : Int) : Written :=
  let ds := digitsIn letter n.natAbs
  let ds := List.replicate (precision.getD 0 - ds.length) '0' ++ ds
  ⟨true, n < 0, if alternate && baseOf letter != 10 then ['0', letter] else [], ds⟩

def brokenText (letter : Char) (alternate : Bool) (precision : Option Nat) (x : Float) : Written :=
  let places := precision.getD 6
  let (negative, body) := match Text.Decimal.form x with
    | .notNumber => (false, "nan".toList)
    | .infinite negative => (negative, "inf".toList)
    | .finite b =>
      (b.negative,
        if letter = 'f' ∨ letter = 'F' then Text.Decimal.fixedText b places alternate
        else if letter = 'e' ∨ letter = 'E' then Text.Decimal.exponentForm b places alternate
        else Text.Decimal.generalText b places alternate)
  ⟨true, negative, [], if letter.isUpper then body.map Char.toUpper else body⟩

def character? : Value → Option Char
  | .text s => match s.toList with
    | [c] => some c
    | _ => none
  | v => do
    let n ← whole? v
    if 0 ≤ n ∧ n < 0x110000 then some (Char.ofNat n.toNat) else none

def wholeFor (letter : Char) (v : Value) : Option Int :=
  match v with
  | .float x => if baseOf letter = 10 then truncated? x else none
  | v => whole? v

def write? (letter : Char) (alternate : Bool) (precision : Option Nat) (v : Value) :
    Option Written :=
  match letter with
  | 's' => some (plainText v.plain.toList precision)
  | 'r' => some (plainText v.shown.toList precision)
  | 'a' => some (plainText (asciiOnly v.shown) precision)
  | 'c' => (character? v).map fun c => plainText [c] none
  | l =>
    if "diuoxX".toList.contains l then (wholeFor l v).map (wholeText l alternate precision)
    else if "eEfFgG".toList.contains l then (broken? v).map (brokenText l alternate precision)
    else none

def padTo (width : Nat) (f : Flags) (w : Written) : List Char :=
  let sign :=
    if !w.signed then []
    else if w.negative then ['-']
    else if f.plus then ['+']
    else if f.space then [' ']
    else []
  let start := sign ++ w.mark
  let gap := width - (start.length + w.body.length)
  if f.left then start ++ w.body ++ List.replicate gap ' '
  else if f.zero && w.signed then start ++ List.replicate gap '0' ++ w.body
  else List.replicate gap ' ' ++ start ++ w.body

def resolve? (e : Extent) (s : Supply) : Option (Option Int × Supply) :=
  match e with
  | .none => some (none, s)
  | .fixed n => some (some n, s)
  | .ofValue => do
    let (v, s) ← s.take?
    let n ← whole? v
    return (some n, s)

def fillSlot? (slot : Slot) (s : Supply) : Option (List Char × Supply) := do
  let s ← match slot.name with
    | none => some s
    | some name => s.choose? name
  let (width, s) ← resolve? slot.width s
  let (precision, s) ← resolve? slot.precision s
  let width := width.getD 0
  let flags := if width < 0 then { slot.flags with left := true } else slot.flags
  let (v, s) ← s.take?
  let w ← write? slot.letter flags.alternate (precision.map Int.toNat) v
  return (padTo width.natAbs flags w, s)

/-- Each piece takes at least one character; fails where a slot and the values do not fit. -/
def fillFrom : Nat → List Char → Supply → Option (List Char)
  | 0, _, _ => none
  | fuel + 1, cs, s =>
    match cs with
    | [] => if s.isUsed then some [] else none
    | '%' :: '%' :: rest => (fillFrom fuel rest s).map ('%' :: ·)
    | '%' :: rest => do
      let (slot, rest) ← readSlot rest
      let (text, s) ← fillSlot? slot s
      return text ++ (← fillFrom fuel rest s)
    | c :: rest => (fillFrom fuel rest s).map (c :: ·)

def fill? (template : String) (s : Supply) : Option String :=
  let cs := template.toList
  (fillFrom (cs.length + 1) cs s).map String.ofList

end SiteModules.Template
