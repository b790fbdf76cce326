import SiteModules.Document.Json

namespace SiteModules.Toml

abbrev Reader (α : Type) := List Char → Except DocumentFault (α × List Char)

def isBlank (c : Char) : Bool := c = ' ' || c = '\t'

def isBlankOrLine (c : Char) : Bool := isBlank c || c = '\n'

def skipBlanks (cs : List Char) : List Char := cs.dropWhile isBlank

def isBareKey (c : Char) : Bool :=
  ('a' ≤ c && c ≤ 'z') || ('A' ≤ c && c ≤ 'Z') || ('0' ≤ c && c ≤ '9') || c = '-' || c = '_'

def isControl (c : Char) : Bool := (c < ' ' && c != '\t') || c = '\x7f'

def isControlInLines (c : Char) : Bool := isControl c && c != '\n'

def startsWith (start : String) (cs : List Char) : Bool := start.toList.isPrefixOf cs

def skipComment : List Char → Except DocumentFault (List Char)
  | '#' :: rest =>
    let (body, rest) := rest.span (· != '\n')
    if body.any isControl then .error .malformed else .ok rest
  | cs => .ok cs

def scalar? (digits : List Char) : Option Char := do
  let n ← Json.hexNumber? digits
  if n < 0xD800 ∨ (0xE000 ≤ n ∧ n < 0x110000) then some (Char.ofNat n) else none

def escaped? : Char → Option Char
  | 'b' => some '\x08'
  | 't' => some '\t'
  | 'n' => some '\n'
  | 'f' => some '\x0c'
  | 'r' => some '\r'
  | '"' => some '"'
  | '\\' => some '\\'
  | _ => none

def readHex (width : Nat) : Reader Char := fun cs =>
  let digits := cs.take width
  if digits.length < width then .error .malformed
  else match scalar? digits with
    | some c => .ok (c, cs.drop width)
    | none => .error .malformed

def skipLineEnd (cs : List Char) : Except DocumentFault (List Char) :=
  match skipBlanks cs with
  | [] => .ok []
  | '\n' :: rest => .ok (rest.dropWhile isBlankOrLine)
  | _ => .error .malformed

def readQuoted (lines : Bool) : Nat → Reader (List Char)
  | 0, _ => .error .malformed
  | fuel + 1, cs =>
    match cs with
    | [] => .error .malformed
    | '"' :: rest =>
      if !lines then .ok ([], rest)
      else match rest with
        | '"' :: '"' :: rest => .ok ([], rest)
        | rest => do
          let (more, rest) ← readQuoted lines fuel rest
          return ('"' :: more, rest)
    | '\\' :: rest =>
      match rest with
      | 'u' :: rest => do
        let (c, rest) ← readHex 4 rest
        let (more, rest) ← readQuoted lines fuel rest
        return (c :: more, rest)
      | 'U' :: rest => do
        let (c, rest) ← readHex 8 rest
        let (more, rest) ← readQuoted lines fuel rest
        return (c :: more, rest)
      | c :: rest' =>
        if lines && isBlankOrLine c then do
          readQuoted lines fuel (← skipLineEnd rest)
        else match escaped? c with
          | some e => do
            let (more, rest) ← readQuoted lines fuel rest'
            return (e :: more, rest)
          | none => .error .malformed
      | [] => .error .malformed
    | c :: rest =>
      if (if lines then isControlInLines c else isControl c) then .error .malformed
      else do
        let (more, rest) ← readQuoted lines fuel rest
        return (c :: more, rest)

def cutAt? (stop : List Char) : List Char → Option (List Char × List Char)
  | [] => none
  | c :: cs =>
    match stop.isPrefixOf? (c :: cs) with
    | some rest => some ([], rest)
    | none => (cutAt? stop cs).map fun (a, b) => (c :: a, b)

def readLiteral : Reader (List Char) := fun cs =>
  match cutAt? ['\''] cs with
  | some (body, rest) => if body.any isControl then .error .malformed else .ok (body, rest)
  | none => .error .malformed

/-- Up to two quotes may stand directly before the three that close a text. -/
def extraQuotes (quote : Char) (cs : List Char) : List Char × List Char :=
  let n := min 2 (cs.takeWhile (· = quote)).length
  (cs.take n, cs.drop n)

def dropFirstLine : List Char → List Char
  | '\n' :: rest => rest
  | cs => cs

def readLines (quote : Char) : Reader (List Char) := fun cs => do
  let cs := dropFirstLine cs
  let (body, rest) ←
    if quote = '"' then readQuoted true (cs.length + 1) cs
    else match cutAt? ['\'', '\'', '\''] cs with
      | some (body, rest) =>
        if body.any isControlInLines then .error .malformed else .ok (body, rest)
      | none => .error .malformed
  let (more, rest) := extraQuotes quote rest
  return (body ++ more, rest)

def readQuotedLine : Reader (List Char) := fun cs => readQuoted false (cs.length + 1) cs

def readKeyPart : Reader String := fun cs =>
  match cs with
  | '\'' :: rest => do
    let (body, rest) ← readLiteral rest
    return (String.ofList body, rest)
  | '"' :: rest => do
    let (body, rest) ← readQuotedLine rest
    return (String.ofList body, rest)
  | cs =>
    match cs.span isBareKey with
    | ([], _) => .error .malformed
    | (body, rest) => .ok (String.ofList body, rest)

def readKeyParts : Nat → Reader (List String)
  | 0, _ => .error .malformed
  | fuel + 1, cs => do
    let (part, rest) ← readKeyPart cs
    match skipBlanks rest with
    | '.' :: rest =>
      let (parts, rest) ← readKeyParts fuel (skipBlanks rest)
      return (part :: parts, rest)
    | rest => return ([part], rest)

def readKey : Reader (List String) := fun cs => readKeyParts (cs.length + 1) cs

end SiteModules.Toml
