import SiteModules.Document.Toml.Scalar
import SiteModules.Document.Toml.Table

namespace SiteModules.Toml

def skipSpace : Nat → List Char → Except DocumentFault (List Char)
  | 0, cs => .ok cs
  | fuel + 1, cs =>
    match cs.dropWhile isBlankOrLine with
    | '#' :: rest => do skipSpace fuel (← skipComment ('#' :: rest))
    | rest => .ok rest

def skipBetween (cs : List Char) : Except DocumentFault (List Char) := skipSpace (cs.length + 1) cs

def readPlain : Reader Value := fun cs =>
  match cs with
  | '"' :: '"' :: '"' :: rest => text (readLines '"' rest)
  | '"' :: rest => text (readQuotedLine rest)
  | '\'' :: '\'' :: '\'' :: rest => text (readLines '\'' rest)
  | '\'' :: rest => text (readLiteral rest)
  | cs =>
    match "true".toList.isPrefixOf? cs, "false".toList.isPrefixOf? cs with
    | some rest, _ => .ok (.bool true, rest)
    | _, some rest => .ok (.bool false, rest)
    | _, _ => readScalar cs
where
  text (found : Except DocumentFault (List Char × List Char)) :
      Except DocumentFault (Value × List Char) := do
    let (body, rest) ← found
    return (.text (String.ofList body), rest)

mutual

def readValue (fuel : Nat) : Reader Value := fun cs =>
  match fuel with
  | 0 => .error .malformed
  | fuel + 1 =>
    match cs with
    | '[' :: rest => do
      match ← skipBetween rest with
      | ']' :: rest => return (.list [], rest)
      | rest =>
        let (xs, rest) ← readElements fuel rest
        return (.list xs, rest)
    | '{' :: rest =>
      match skipBlanks rest with
      | '}' :: rest => .ok (.mapping [], rest)
      | rest => do
        let (items, rest) ← readPairs fuel [] rest
        return (.mapping (Item.toFields items), rest)
    | cs => readPlain cs

def readElements (fuel : Nat) : Reader (List Value) := fun cs =>
  match fuel with
  | 0 => .error .malformed
  | fuel + 1 => do
    let (x, rest) ← readValue fuel cs
    match ← skipBetween rest with
    | ']' :: rest => return ([x], rest)
    | ',' :: rest =>
      match ← skipBetween rest with
      | ']' :: rest => return ([x], rest)
      | rest =>
        let (xs, rest) ← readElements fuel rest
        return (x :: xs, rest)
    | _ => .error .malformed

def readPairs (fuel : Nat) (before : Items) : Reader Items := fun cs =>
  match fuel with
  | 0 => .error .malformed
  | fuel + 1 => do
    let (key, v, rest) ← readPair fuel cs
    let items ← setDotted 0 v key before
    match skipBlanks rest with
    | '}' :: rest => return (items, rest)
    | ',' :: rest => readPairs fuel items (skipBlanks rest)
    | _ => .error .malformed

def readPair (fuel : Nat) (cs : List Char) :
    Except DocumentFault (List String × Value × List Char) :=
  match fuel with
  | 0 => .error .malformed
  | fuel + 1 => do
    let (key, rest) ← readKey cs
    match rest with
    | '=' :: rest =>
      let (v, rest) ← readValue fuel (skipBlanks rest)
      return (key, v, rest)
    | _ => .error .malformed

end

structure Reading where
  items : Items
  header : List String
  part : Nat

namespace Reading

def start : Reading := ⟨[], [], 0⟩

def readHeader (r : Reading) (cs : List Char) : Except DocumentFault (Reading × List Char) := do
  let part := r.part + 1
  match cs with
  | '[' :: rest =>
    let (key, rest) ← readKey (skipBlanks rest)
    let items ← addTable part key r.items
    match rest with
    | ']' :: ']' :: rest => return (⟨items, key, part⟩, rest)
    | _ => .error .malformed
  | cs =>
    let (key, rest) ← readKey (skipBlanks cs)
    let items ← openTable part key r.items
    match rest with
    | ']' :: rest => return (⟨items, key, part⟩, rest)
    | _ => .error .malformed

def readEntry (r : Reading) (cs : List Char) : Except DocumentFault (Reading × List Char) := do
  let (key, v, rest) ← readPair (2 * cs.length + 4) cs
  return ({ r with items := ← setUnder r.part v key r.header r.items }, rest)

def endLine (cs : List Char) : Except DocumentFault (List Char) := do
  match ← skipComment (skipBlanks cs) with
  | [] => .ok []
  | '\n' :: rest => .ok rest
  | _ => .error .malformed

def readAll : Nat → Reading → List Char → Except DocumentFault Reading
  | 0, r, _ => .ok r
  | fuel + 1, r, cs =>
    match skipBlanks cs with
    | [] => .ok r
    | '\n' :: rest => readAll fuel r rest
    | '#' :: rest => do readAll fuel r (← endLine ('#' :: rest))
    | '[' :: rest => do
      let (r, rest) ← r.readHeader rest
      readAll fuel r (← endLine rest)
    | cs => do
      let (r, rest) ← r.readEntry cs
      readAll fuel r (← endLine rest)

end Reading

def joinLineEnds : List Char → List Char
  | [] => []
  | '\r' :: '\n' :: cs => '\n' :: joinLineEnds cs
  | c :: cs => c :: joinLineEnds cs

def read (cs : List Char) : Except DocumentFault Value := do
  let cs := joinLineEnds cs
  let r ← Reading.readAll (cs.length + 1) .start cs
  return .mapping (Item.toFields r.items)

end SiteModules.Toml
