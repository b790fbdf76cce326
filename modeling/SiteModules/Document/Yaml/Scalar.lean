import SiteModules.Document.Yaml.Tag
import SiteModules.Text.Blank
import SiteModules.Text.Case
import SiteModules.Text.Split
import SiteModules.Value

namespace SiteModules.Yaml

def trim (cs : List Char) : List Char :=
  (Text.trimStart (Text.trimStart cs).reverse).reverse

def isNegative (cs : List Char) : Bool := cs.head? == some '-'

def digitIn? (base : Nat) (c : Char) : Option Nat :=
  match Json.hexValue? c with
  | some d => if d < base then some d else none
  | none => none

def baseMark : Nat → List Char
  | 2 => ['b', 'B']
  | 8 => ['o', 'O']
  | 16 => ['x', 'X']
  | _ => []

def dropBaseMark (base : Nat) : List Char → List Char
  | '0' :: c :: rest => if (baseMark base).contains c then rest else '0' :: c :: rest
  | cs => cs

def wholeIn (base : Nat) (cs : List Char) : Except DocumentFault Int :=
  let cs := trim cs
  let digits := dropBaseMark base (unsigned cs)
  match digits.mapM (digitIn? base) with
  | none => .error .badNumber
  | some ds =>
    if ds = [] then .error .badNumber
    else if base = 10 ∧ digitLimit < ds.length then .error .longNumber
    else
      let n : Int := (ds.foldl (fun n d => n * base + d) 0 : Nat)
      .ok (if isNegative cs then -n else n)

def inSixties (groups : List Int) : Int := groups.foldl (fun n d => n * 60 + d) 0

def withSign (negative : Bool) (n : Int) : Int := if negative then -n else n

def readWhole (text : List Char) : Except DocumentFault Int := do
  let cs := text.filter (· != '_')
  if cs = [] then throw .emptyNumber
  let body := unsigned cs
  let n ← match body with
    | [] => throw .emptyNumber
    | ['0'] => pure 0
    | '0' :: 'b' :: rest => wholeIn 2 rest
    | '0' :: 'x' :: rest => wholeIn 16 rest
    | '0' :: rest => wholeIn 8 ('0' :: rest)
    | body =>
      if body.contains ':' then inSixties <$> (Text.split ':' body).mapM (wholeIn 10)
      else wholeIn 10 body
  return withSign (isNegative cs) n

def pointed? (cs : List Char) : Option (List Char × Nat × List Char) :=
  let (whole, rest) := Json.digits cs
  let (part, rest) := match rest with
    | '.' :: rest => Json.digits rest
    | rest => ([], rest)
  if whole = [] ∧ part = [] then none else some (whole ++ part, part.length, rest)

def finite? (cs : List Char) : Option Float := do
  let (ds, places, rest) ← pointed? cs
  match rest with
  | [] => some (Text.Decimal.toFloat (Json.decimal ds) (-(places : Int)))
  | e :: rest =>
    if e = 'e' ∨ e = 'E' then
      match Json.digits (unsigned rest) with
      | (d :: ds', []) =>
        let n : Int := Json.decimal (d :: ds')
        let e := if isNegative rest then -n else n
        some (Text.Decimal.toFloat (Json.decimal ds) (e - places))
      | _ => none
    else none

def brokenOf (cs : List Char) : Except DocumentFault Float :=
  let cs := trim cs
  let body := unsigned cs
  let found :=
    if body = "inf".toList ∨ body = "infinity".toList then some (1.0 / 0.0)
    else if body = "nan".toList then some (0.0 / 0.0)
    else finite? body
  match found with
  | none => .error .badNumber
  | some x => .ok (if isNegative cs then -x else x)

/-- The sum of groups, each worth sixty of the next one; the last is added first. -/
def sumInSixties (groups : List Float) : Float :=
  (groups.reverse.foldl (fun (sum, worth) d => (sum + d * Float.ofNat worth, worth * 60))
    ((0.0 : Float), 1)).1

def readBroken (text : List Char) : Except DocumentFault Float := do
  let cs := Text.lower (text.filter (· != '_'))
  if cs = [] then throw .emptyNumber
  let body := unsigned cs
  let x ←
    if body = ".inf".toList then pure (1.0 / 0.0)
    else if body = ".nan".toList then return 0.0 / 0.0
    else if body.contains ':' then sumInSixties <$> (Text.split ':' body).mapM brokenOf
    else brokenOf body
  return if isNegative cs then -x else x

def readTruth (text : List Char) : Except DocumentFault Bool :=
  match truths.lookup (String.ofList (Text.lower text)) with
  | some b => .ok b
  | none => .error .badTruth

def isOffset (minutes : Int) : Bool := minutes.natAbs < 24 * 60

def readTime (text : List Char) : Except DocumentFault Timestamp := do
  match WrittenTime.ofChars? text with
  | none => throw .badTime
  | some t =>
    let (y, m, d) := (Json.decimal t.year, Json.decimal t.month, Json.decimal t.day)
    match t.clock with
    | none => if Timestamp.isDay y m d then return .date y m d else throw .noSuchTime
    | some (hour, minute, second, part) =>
      let (h, min, s) := (Json.decimal hour, Json.decimal minute, Json.decimal second)
      let kept := part.take 6
      let micro := Json.decimal (kept ++ List.replicate (6 - kept.length) '0')
      if Timestamp.isDay y m d && h < 24 && min < 60 && s < 60 && t.offset.all isOffset then
        return .moment ⟨y, m, d, h, min, s, micro, t.offset⟩
      else throw .noSuchTime

def sextet? (c : Char) : Option Nat :=
  if 'A' ≤ c ∧ c ≤ 'Z' then some (c.toNat - 'A'.toNat)
  else if 'a' ≤ c ∧ c ≤ 'z' then some (c.toNat - 'a'.toNat + 26)
  else if c.isDigit then some (c.toNat - '0'.toNat + 52)
  else if c = '+' then some 62
  else if c = '/' then some 63
  else none

/--
Bytes as groups of four characters. `seen` of the group have been read, `held` is what the last of
them left over, `pads` fill the group up; other characters do not count.
-/
def readSextets (seen held pads : Nat) : List Char → Option (List UInt8)
  | [] => if seen = 0 then some [] else none
  | c :: rest =>
    if c = '=' then
      if 2 ≤ seen ∧ 4 ≤ seen + pads + 1 then some []
      else readSextets seen held (if 2 ≤ seen then pads + 1 else pads) rest
    else match sextet? c with
      | none => readSextets seen held pads rest
      | some n =>
        match seen with
        | 0 => readSextets 1 n 0 rest
        | 1 => (readSextets 2 (n % 16) 0 rest).map (UInt8.ofNat (held * 4 + n / 16) :: ·)
        | 2 => (readSextets 3 (n % 4) 0 rest).map (UInt8.ofNat (held * 16 + n / 4) :: ·)
        | _ => (readSextets 0 0 0 rest).map (UInt8.ofNat (held * 64 + n) :: ·)

def readBinary (text : List Char) : Except DocumentFault (List UInt8) :=
  if text.all (·.toNat < 0x80) then
    match readSextets 0 0 0 text with
    | some bs => .ok bs
    | none => .error .malformed
  else .error .malformed

end SiteModules.Yaml
