import SiteModules.Value.Display
import SiteModules.Document.Fault

namespace SiteModules.Json

def escapeControl (c : Char) : List Char := '\\' :: 'u' :: Text.hex 4 c.toNat

def escapeChar (c : Char) : List Char :=
  if c = '"' then ['\\', '"']
  else if c = '\\' then ['\\', '\\']
  else if c = '\n' then ['\\', 'n']
  else if c = '\r' then ['\\', 'r']
  else if c = '\t' then ['\\', 't']
  else if c = '\x08' then ['\\', 'b']
  else if c = '\x0c' then ['\\', 'f']
  else if c < ' ' then escapeControl c
  else [c]

def escapeWide (c : Char) : List Char :=
  let n := c.toNat
  if n < 0x80 then escapeChar c
  else if n < 0x10000 then escapeControl c
  else
    '\\' :: 'u' :: Text.hex 4 (0xD800 + (n - 0x10000) / 0x400) ++
      '\\' :: 'u' :: Text.hex 4 (0xDC00 + (n - 0x10000) % 0x400)

def quoteWith (escape : Char → List Char) (s : String) : String :=
  String.ofList ('"' :: (s.toList.flatMap escape ++ ['"']))

def quote (s : String) : String := quoteWith escapeChar s

def quoteAscii (s : String) : String := quoteWith escapeWide s

def number (x : Float) : String :=
  match Text.Decimal.form x with
  | .notNumber => "NaN"
  | .infinite true => "-Infinity"
  | .infinite false => "Infinity"
  | .finite _ => Text.Decimal.shortestText x

def whole? (n : Int) : Option String :=
  let s := toString n
  if digitLimit < (Nat.toDigits 10 n.natAbs).length then none else some s

def key? : Key → Option String
  | .null => some "null"
  | .bool b => some (if b then "true" else "false")
  | .int n => whole? n
  | .float x => some (number x)
  | .text s => some s
  | .bytes _ => none
  | .time _ => none

def bracketed (items : List String) : String := "[" ++ ", ".intercalate items ++ "]"

def braced (items : List String) : String := "\x7b" ++ ", ".intercalate items ++ "\x7d"

mutual

def line? : Value → Option String
  | .null => some "null"
  | .bool b => some (if b then "true" else "false")
  | .int n => whole? n
  | .float x => some (number x)
  | .text s => some (quote s)
  | .kind k => some (quote k.name)
  | .list xs => bracketed <$> items? xs
  | .tuple xs => bracketed <$> items? xs
  | .mapping fields => braced <$> fields? fields
  | v => some (quote v.plain)

def items? : List Value → Option (List String)
  | [] => some []
  | x :: xs => do return (← line? x) :: (← items? xs)

def fields? : List (Key × Value) → Option (List String)
  | [] => some []
  | (k, v) :: rest => do
    let k ← key? k
    return (quote k ++ ": " ++ (← line? v)) :: (← fields? rest)

end

end SiteModules.Json
