import SiteModules.Document.Toml.Text

namespace SiteModules.Toml

def fixed? : Nat → List Char → Option (Nat × List Char)
  | width, cs =>
    let ds := cs.take width
    if ds.length = width ∧ ds.all Char.isDigit then some (Json.decimal ds, cs.drop width) else none

def expect? (c : Char) : List Char → Option (List Char)
  | d :: rest => if c = d then some rest else none
  | [] => none

def micro (ds : List Char) : Nat :=
  let kept := ds.take 6
  Json.decimal (kept ++ List.replicate (6 - kept.length) '0')

structure Clock where
  hour : Nat
  minute : Nat
  second : Nat
  micro : Nat

def clock? (cs : List Char) : Option (Clock × List Char) := do
  let (h, rest) ← fixed? 2 cs
  let (m, rest) ← fixed? 2 (← expect? ':' rest)
  let (s, rest) ← fixed? 2 (← expect? ':' rest)
  if 23 < h ∨ 59 < m ∨ 59 < s then none
  else
    let (part, rest) := Json.fraction rest
    return (⟨h, m, s, micro part⟩, rest)

def offset (cs : List Char) : Option Int × List Char :=
  let after (sign : Int) (rest : List Char) : Option (Option Int × List Char) := do
    let (h, rest) ← fixed? 2 rest
    let (m, rest) ← fixed? 2 (← expect? ':' rest)
    if 23 < h ∨ 59 < m then none else some (some (sign * (h * 60 + m)), rest)
  match cs with
  | 'Z' :: rest => (some 0, rest)
  | 'z' :: rest => (some 0, rest)
  | '+' :: rest => (after 1 rest).getD (none, cs)
  | '-' :: rest => (after (-1) rest).getD (none, cs)
  | _ => (none, cs)

def day? (cs : List Char) : Option ((Nat × Nat × Nat) × List Char) := do
  let (y, rest) ← fixed? 4 cs
  let (m, rest) ← fixed? 2 (← expect? '-' rest)
  let (d, rest) ← fixed? 2 (← expect? '-' rest)
  if 1 ≤ m ∧ m ≤ 12 ∧ 1 ≤ d ∧ d ≤ 31 then some ((y, m, d), rest) else none

def clockAfterDay? : List Char → Option (Clock × List Char)
  | c :: rest => if c = 'T' ∨ c = 't' ∨ c = ' ' then clock? rest else none
  | [] => none

def readDay? (cs : List Char) : Option (Except DocumentFault (Value × List Char)) := do
  let ((y, m, d), rest) ← day? cs
  if !Timestamp.isDay y m d then return .error .malformed
  else match clockAfterDay? rest with
    | none => return .ok (.time (.date y m d), rest)
    | some (t, rest) =>
      let (o, rest) := offset rest
      return .ok (.time (.moment ⟨y, m, d, t.hour, t.minute, t.second, t.micro, o⟩), rest)

def spacedDigits (isDigit : Char → Bool) : List Char → List Char × List Char
  | [] => ([], [])
  | c :: rest =>
    if isDigit c then
      match rest with
      | '_' :: d :: _ =>
        if isDigit d then
          let (ds, rest) := spacedDigits isDigit rest
          (c :: ds, rest)
        else ([c], rest)
      | _ =>
        let (ds, rest) := spacedDigits isDigit rest
        (c :: ds, rest)
    else if c = '_' then
      match rest with
      | d :: _ => if isDigit d then spacedDigits isDigit rest else ([], c :: rest)
      | [] => ([], [c])
    else ([], c :: rest)

def digitRun? (isDigit : Char → Bool) (cs : List Char) : Option (List Char × List Char) :=
  match cs with
  | c :: _ => if isDigit c then some (spacedDigits isDigit cs) else none
  | [] => none

def inBase (base : Nat) (ds : List Char) : Nat :=
  ds.foldl (fun n c => n * base + (Json.hexValue? c).getD 0) 0

def readBased? : List Char → Option (Value × List Char)
  | '0' :: 'x' :: rest => run 16 (fun c => (Json.hexValue? c).isSome) rest
  | '0' :: 'b' :: rest => run 2 (fun c => c = '0' || c = '1') rest
  | '0' :: 'o' :: rest => run 8 (fun c => '0' ≤ c && c ≤ '7') rest
  | _ => none
where
  run (base : Nat) (isDigit : Char → Bool) (cs : List Char) : Option (Value × List Char) :=
    (digitRun? isDigit cs).map fun (ds, rest) => (.int (inBase base ds), rest)

def whole? : List Char → Option (List Char × List Char)
  | '0' :: rest => some (['0'], rest)
  | cs => digitRun? Char.isDigit cs

def pointPart? : List Char → Option (List Char × List Char)
  | '.' :: rest => digitRun? Char.isDigit rest
  | _ => none

def exponentPart? : List Char → Option (Int × List Char)
  | e :: rest =>
    if e = 'e' ∨ e = 'E' then
      match rest with
      | '-' :: rest =>
        (digitRun? Char.isDigit rest).map fun (ds, r) => (-(Json.decimal ds : Int), r)
      | '+' :: rest => (digitRun? Char.isDigit rest).map fun (ds, r) => ((Json.decimal ds : Int), r)
      | rest => (digitRun? Char.isDigit rest).map fun (ds, r) => ((Json.decimal ds : Int), r)
    else none
  | [] => none

def sign : List Char → Bool × List Char
  | '-' :: rest => (true, rest)
  | '+' :: rest => (false, rest)
  | cs => (false, cs)

def readDecimal? (cs : List Char) : Option (Except DocumentFault (Value × List Char)) := do
  let (negative, rest) := sign cs
  let (ds, rest) ← whole? rest
  let (part, rest, pointed) := match pointPart? rest with
    | some (part, rest) => (part, rest, true)
    | none => ([], rest, false)
  let (e, rest) := match exponentPart? rest with
    | some (e, rest) => (some e, rest)
    | none => (none, rest)
  if pointed || e.isSome then
    let x := Text.Decimal.toFloat (Json.decimal (ds ++ part)) (e.getD 0 - part.length)
    return .ok (.float (if negative then -x else x), rest)
  else if digitLimit < ds.length then return .error .longNumber
  else
    let n : Int := Json.decimal ds
    return .ok (.int (if negative then -n else n), rest)

def readSpecial? (cs : List Char) : Option (Value × List Char) :=
  let (negative, rest) := sign cs
  match "inf".toList.isPrefixOf? rest, "nan".toList.isPrefixOf? rest with
  | some rest, _ => some (.float (if negative then -1.0 / 0.0 else 1.0 / 0.0), rest)
  | _, some rest => some (.float (0.0 / 0.0), rest)
  | _, _ => none

def readScalar : Reader Value := fun cs =>
  match readDay? cs with
  | some found => found
  | none => match clock? cs with
    | some (t, rest) => .ok (.time (.clock t.hour t.minute t.second t.micro), rest)
    | none => match readBased? cs with
      | some found => .ok found
      | none => match readDecimal? cs with
        | some found => found
        | none => match readSpecial? cs with
          | some found => .ok found
          | none => .error .malformed

end SiteModules.Toml
