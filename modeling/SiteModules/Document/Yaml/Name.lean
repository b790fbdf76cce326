import SiteModules.Document.Json
import SiteModules.Document.Yaml.Cursor
import SiteModules.Document.Yaml.Token
import SiteModules.Text.Utf8

namespace SiteModules.Yaml

def isNameChar (c : Char) : Bool :=
  ('0' ≤ c && c ≤ '9') || ('A' ≤ c && c ≤ 'Z') || ('a' ≤ c && c ≤ 'z') || c = '-' || c = '_'

def isUriChar (c : Char) : Bool := isNameChar c || "-;/?:@&=+$,_.!~*'()[]%".toList.contains c

def readName : Reader (List Char) := fun c =>
  match c.span isNameChar with
  | ([], _) => .error .malformed
  | found => .ok found

def endsAnchor (c : Char) : Bool := endsWord c || "?:,]\x7d%@`".toList.contains c

def readAnchor : Reader String := fun c => do
  let (name, c) ← readName c.next
  if endsAnchor c.peek then return (String.ofList name, c) else .error .malformed

def readEscapedBytes : Nat → Cursor → Except DocumentFault (List UInt8 × Cursor)
  | 0, c => .ok ([], c)
  | fuel + 1, c =>
    if c.peek = '%' then do
      match Json.hexValue? (c.peekAt 1), Json.hexValue? (c.peekAt 2) with
      | some a, some b =>
        let (bs, c) ← readEscapedBytes fuel (Cursor.forward 3 c)
        return (UInt8.ofNat (a * 16 + b) :: bs, c)
      | _, _ => .error .malformed
    else .ok ([], c)

def readUriParts : Nat → Cursor → Except DocumentFault (List Char × Cursor)
  | 0, c => .ok ([], c)
  | fuel + 1, c =>
    if c.peek = '%' then do
      let (bs, c) ← readEscapedBytes (c.rest.length + 1) c
      match Text.Utf8.decode bs with
      | none => .error .malformed
      | some cs =>
        let (more, c) ← readUriParts fuel c
        return (cs ++ more, c)
    else
      match c.span fun x => isUriChar x && x != '%' with
      | ([], _) => .ok ([], c)
      | (cs, c) => do
        let (more, c) ← readUriParts fuel c
        return (cs ++ more, c)

def readUri : Reader String := fun c => do
  if isUriChar c.peek then
    let (cs, c) ← readUriParts (c.rest.length + 1) c
    return (String.ofList cs, c)
  else .error .malformed

def readHandle : Reader String := fun c =>
  if c.peek != '!' then .error .malformed
  else if c.peekAt 1 = ' ' then .ok ("!", c.next)
  else
    let (name, c) := c.next.span isNameChar
    if c.peek = '!' then .ok (String.ofList ('!' :: name ++ ['!']), c.next) else .error .malformed

def hasHandle (c : Cursor) : Bool := (c.next.rest.takeWhile (!endsLineOrSpace ·)).contains '!'

def readTag : Reader WrittenTag := fun c => do
  let (t, c) ←
    if c.peekAt 1 = '<' then
      let (suffix, c) ← readUri (Cursor.forward 2 c)
      if c.peek != '>' then throw .malformed
      pure (⟨none, suffix⟩, c.next)
    else if endsWord (c.peekAt 1) then pure (⟨none, "!"⟩, c.next)
    else
      let (handle, c) ← if hasHandle c then readHandle c else pure ("!", c.next)
      let (suffix, c) ← readUri c
      pure (⟨some handle, suffix⟩, c)
  if endsLineOrSpace c.peek then return (t, c) else .error .malformed

def readVersionNumber : Reader Nat := fun c =>
  match c.span Char.isDigit with
  | ([], _) => .error .malformed
  | (ds, c) => if digitLimit < ds.length then .error .longNumber else .ok (Json.decimal ds, c)

def readVersion : Reader Directive := fun c => do
  let (major, c) ← readVersionNumber c.skipSpaces
  if c.peek != '.' then throw .malformed
  let (minor, c) ← readVersionNumber c.next
  if endsLineOrSpace c.peek then return (.version major minor, c) else .error .malformed

def readTagDirective : Reader Directive := fun c => do
  let (handle, c) ← readHandle c.skipSpaces
  if c.peek != ' ' then throw .malformed
  let (start, c) ← readUri c.skipSpaces
  if endsLineOrSpace c.peek then return (.tag handle start, c) else .error .malformed

def readDirective : Reader Directive := fun c => do
  let (name, c) ← readName c.next
  if !endsLineOrSpace c.peek then throw .malformed
  let (d, c) ←
    if name = "YAML".toList then readVersion c
    else if name = "TAG".toList then readTagDirective c
    else pure (.other, c.skipWhile (!endsLine ·))
  return (d, ← c.skipLineRest)

end SiteModules.Yaml
