import SiteModules.Text.Printable

namespace SiteModules.Text

def hexDigit (n : Nat) : Char := (Nat.digitChar n)

def hex : Nat → Nat → List Char
  | 0, _ => []
  | width + 1, n => hex width (n / 16) ++ [hexDigit (n % 16)]

namespace Quoted

def quoteFor (cs : List Char) : Char := if '\'' ∈ cs ∧ '"' ∉ cs then '"' else '\''

def escape (quote c : Char) : List Char :=
  if c = quote ∨ c = '\\' then ['\\', c]
  else if c = '\t' then ['\\', 't']
  else if c = '\n' then ['\\', 'n']
  else if c = '\r' then ['\\', 'r']
  else if isPrintable c then [c]
  else if c.toNat < 0x100 then '\\' :: 'x' :: hex 2 c.toNat
  else if c.toNat < 0x10000 then '\\' :: 'u' :: hex 4 c.toNat
  else '\\' :: 'U' :: hex 8 c.toNat

def chars (cs : List Char) : List Char :=
  let q := quoteFor cs
  q :: (cs.flatMap (escape q) ++ [q])

def text (s : String) : String := String.ofList (chars s.toList)

def escapeByte (quote : Char) (b : UInt8) : List Char :=
  let c := Char.ofNat b.toNat
  if b < 0x80 then escape quote c else '\\' :: 'x' :: hex 2 b.toNat

def bytes (bs : List UInt8) : String :=
  let q := quoteFor (bs.map fun b => Char.ofNat b.toNat)
  String.ofList ('b' :: q :: (bs.flatMap (escapeByte q) ++ [q]))

end Quoted

end SiteModules.Text
