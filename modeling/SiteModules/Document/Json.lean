import SiteModules.Value
import SiteModules.Document.Fault

/-!
JSON text as a value. Beside the numbers of the format, `NaN` and `Infinity` are read. Of two
entries with one key the later counts, in the place of the earlier.
-/

namespace SiteModules.Json

abbrev Reader (α : Type) := List Char → Except DocumentFault (α × List Char)

def skipBlanks (cs : List Char) : List Char :=
  cs.dropWhile fun c => c = ' ' || c = '\t' || c = '\n' || c = '\r'

def hexValue? (c : Char) : Option Nat :=
  if '0' ≤ c ∧ c ≤ '9' then some (c.toNat - '0'.toNat)
  else if 'a' ≤ c ∧ c ≤ 'f' then some (c.toNat - 'a'.toNat + 10)
  else if 'A' ≤ c ∧ c ≤ 'F' then some (c.toNat - 'A'.toNat + 10)
  else none

def hexNumber? (cs : List Char) : Option Nat :=
  cs.foldlM (fun n c => (hexValue? c).map (n * 16 + ·)) 0

def unpaired : Char := '\ufffd'

def isHigh (n : Nat) : Bool := 0xD800 ≤ n && n < 0xDC00

def isLow (n : Nat) : Bool := 0xDC00 ≤ n && n < 0xE000

def paired (high low : Nat) : Char :=
  Char.ofNat (0x10000 + (high - 0xD800) * 0x400 + (low - 0xDC00))

def ofUnit (n : Nat) : Char := if isHigh n || isLow n then unpaired else Char.ofNat n

def ofUnit? (a b c d : Char) : Option Nat := hexNumber? [a, b, c, d]

def escaped? : Char → Option Char
  | '"' => some '"'
  | '\\' => some '\\'
  | '/' => some '/'
  | 'b' => some '\x08'
  | 'f' => some '\x0c'
  | 'n' => some '\n'
  | 'r' => some '\r'
  | 't' => some '\t'
  | _ => none

/-- The characters up to the closing quote; `held` is a half of a pair that waits for the other. -/
def readChars (held : Option Nat) : Reader (List Char)
  | '\\' :: 'u' :: a :: b :: c :: d :: rest =>
    match ofUnit? a b c d with
    | none => .error .malformed
    | some n => do
      match held with
      | some high =>
        if isLow n then
          let (cs, rest) ← readChars none rest
          return (paired high n :: cs, rest)
        else if isHigh n then
          let (cs, rest) ← readChars (some n) rest
          return (unpaired :: cs, rest)
        else
          let (cs, rest) ← readChars none rest
          return (unpaired :: ofUnit n :: cs, rest)
      | none =>
        if isHigh n then readChars (some n) rest
        else
          let (cs, rest) ← readChars none rest
          return (ofUnit n :: cs, rest)
  | '\\' :: c :: rest =>
    match escaped? c with
    | none => .error .malformed
    | some e => do
      let (cs, rest) ← readChars none rest
      return (held.toList.map ofUnit ++ e :: cs, rest)
  | '"' :: rest => .ok (held.toList.map ofUnit, rest)
  | c :: rest =>
    if c < ' ' then .error .malformed
    else do
      let (cs, rest) ← readChars none rest
      return (held.toList.map ofUnit ++ c :: cs, rest)
  | [] => .error .malformed

def readText : Reader String := fun cs => do
  let (text, rest) ← readChars none cs
  return (String.ofList text, rest)

def digits (cs : List Char) : List Char × List Char := cs.span Char.isDigit

def decimal (cs : List Char) : Nat := cs.foldl (fun n c => n * 10 + (c.toNat - '0'.toNat)) 0

def wholePart? : List Char → Option (List Char × List Char)
  | '0' :: rest => some (['0'], rest)
  | cs => match digits cs with
    | ([], _) => none
    | found => some found

def fraction (cs : List Char) : List Char × List Char :=
  match cs with
  | '.' :: rest => match digits rest with
    | ([], _) => ([], cs)
    | found => found
  | _ => ([], cs)

def exponent? (cs : List Char) : Option Int × List Char :=
  let ofDigits (negative : Bool) (rest : List Char) : Option Int × List Char :=
    match digits rest with
    | ([], _) => (none, cs)
    | (ds, rest) => (some (if negative then -(decimal ds : Int) else decimal ds), rest)
  match cs with
  | e :: rest =>
    if e = 'e' ∨ e = 'E' then
      match rest with
      | '-' :: rest => ofDigits true rest
      | '+' :: rest => ofDigits false rest
      | rest => ofDigits false rest
    else (none, cs)
  | [] => (none, cs)

def readNumber : Reader Value := fun cs =>
  let (negative, body) := match cs with
    | '-' :: rest => (true, rest)
    | _ => (false, cs)
  match wholePart? body with
  | none => .error .malformed
  | some (whole, rest) =>
    let (part, rest) := fraction rest
    let (e, rest) := exponent? rest
    if part = [] ∧ e = none then
      if digitLimit < whole.length then .error .longNumber
      else .ok (.int (if negative then -(decimal whole : Int) else decimal whole), rest)
    else
      let x := Text.Decimal.toFloat (decimal (whole ++ part)) (e.getD 0 - part.length)
      .ok (.float (if negative then -x else x), rest)

def words : List (List Char × Value) :=
  [("null".toList, .null), ("true".toList, .bool true), ("false".toList, .bool false),
    ("NaN".toList, .float (0.0 / 0.0)), ("Infinity".toList, .float (1.0 / 0.0)),
    ("-Infinity".toList, .float (-1.0 / 0.0))]

def readWord? (cs : List Char) : Option (Value × List Char) :=
  words.findSome? fun (w, v) => (w.isPrefixOf? cs).map (v, ·)

mutual

/-- Each reader takes at least one character, so `fuel` above the text's length is enough. -/
def readValue (fuel : Nat) : Reader Value := fun cs =>
  match fuel with
  | 0 => .error .malformed
  | fuel + 1 =>
    match cs with
    | '"' :: rest => do
      let (s, rest) ← readText rest
      return (.text s, rest)
    | '[' :: rest =>
      match skipBlanks rest with
      | ']' :: rest => .ok (.list [], rest)
      | rest => do
        let (xs, rest) ← readItems fuel rest
        return (.list xs, rest)
    | '{' :: rest =>
      match skipBlanks rest with
      | '}' :: rest => .ok (.mapping [], rest)
      | rest => do
        let (fields, rest) ← readFields fuel [] rest
        return (.mapping fields, rest)
    | cs =>
      match readWord? cs with
      | some found => .ok found
      | none => readNumber cs

def readItems (fuel : Nat) : Reader (List Value) := fun cs =>
  match fuel with
  | 0 => .error .malformed
  | fuel + 1 => do
    let (x, rest) ← readValue fuel cs
    match skipBlanks rest with
    | ']' :: rest => return ([x], rest)
    | ',' :: rest =>
      let (xs, rest) ← readItems fuel (skipBlanks rest)
      return (x :: xs, rest)
    | _ => .error .malformed

def readFields (fuel : Nat) (before : List (Key × Value)) : Reader (List (Key × Value)) :=
  fun cs =>
  match fuel with
  | 0 => .error .malformed
  | fuel + 1 =>
    match cs with
    | '"' :: rest => do
      let (k, rest) ← readText rest
      match skipBlanks rest with
      | ':' :: rest =>
        let (v, rest) ← readValue fuel (skipBlanks rest)
        let fields := Value.put (.text k) v before
        match skipBlanks rest with
        | '}' :: rest => return (fields, rest)
        | ',' :: rest => readFields fuel fields (skipBlanks rest)
        | _ => .error .malformed
      | _ => .error .malformed
    | _ => .error .malformed

end

def read (cs : List Char) : Except DocumentFault Value := do
  let (v, rest) ← readValue (2 * cs.length + 2) (skipBlanks cs)
  if skipBlanks rest = [] then return v else .error .malformed

end SiteModules.Json
