import SiteModules.Document.Yaml.Node
import SiteModules.Document.Yaml.Scalar

/-!
YAML text as a value. Of several faults in one document the outermost counts, and of those the
first. Of two entries with one key the later counts, in the place of the earlier.
-/

namespace SiteModules.Yaml

/-- A fault, and how many collections it lies within. -/
structure Placed where
  depth : Nat
  fault : DocumentFault

abbrev Reading (α : Type) := Except Placed α

namespace Reading

def fail {α : Type} (e : DocumentFault) : Reading α := .error ⟨0, e⟩

def ofExcept {α : Type} (x : Except DocumentFault α) : Reading α := x.mapError (⟨0, ·⟩)

def inside {α : Type} (x : Reading α) : Reading α := x.mapError fun p => ⟨p.depth + 1, p.fault⟩

/-- Both results, or the outermost of the faults. -/
def both {α β : Type} (a : Reading α) (b : Reading β) : Reading (α × β) :=
  match a, b with
  | .ok x, .ok y => .ok (x, y)
  | .error p, .error q => .error (if q.depth < p.depth then q else p)
  | .error p, .ok _ => .error p
  | .ok _, .error q => .error q

end Reading

mutual

/-- The entries of a mapping with those that it takes over from others in front of them. -/
def ownEntries : Node → Except DocumentFault (List (Node × Node))
  | .mapping _ entries => do
    let (merged, own) ← splitEntries entries
    return merged ++ own
  | _ => .error .malformed

def splitEntries :
    List (Node × Node) → Except DocumentFault (List (Node × Node) × List (Node × Node))
  | [] => .ok ([], [])
  | (k, v) :: rest =>
    if k.tag = .merge then do
      let taken ← takenEntries v
      let (merged, own) ← splitEntries rest
      return (taken ++ merged, own)
    else do
      let (merged, own) ← splitEntries rest
      return (merged, (k, v) :: own)

def takenEntries : Node → Except DocumentFault (List (Node × Node))
  | .mapping t entries => ownEntries (.mapping t entries)
  | .sequence _ items => do return (← listEntries items).reverse.flatten
  | .scalar _ _ => .error .malformed

def listEntries : List Node → Except DocumentFault (List (List (Node × Node)))
  | [] => .ok []
  | n :: rest => do
    let first ← ownEntries n
    return first :: (← listEntries rest)

end

def plainKey : Node → Node
  | .scalar .value text => .scalar .text text
  | n => n

mutual

def textOf : Node → Reading (List Char)
  | .scalar _ text => .ok text
  | .mapping _ entries => textUnder entries
  | .sequence _ _ => .fail .malformed

def textUnder : List (Node × Node) → Reading (List Char)
  | [] => .fail .malformed
  | (k, v) :: rest => if k.tag = .value then textOf v else textUnder rest

end

def scalarValue (tag : Tag) (text : List Char) : Except DocumentFault Value :=
  match tag with
  | .null => .ok .null
  | .bool => Value.bool <$> readTruth text
  | .int => Value.int <$> readWhole text
  | .float => Value.float <$> readBroken text
  | .binary => Value.bytes <$> readBinary text
  | .timestamp => Value.time <$> readTime text
  | .text => .ok (.text (String.ofList text))
  | _ => .error .malformed

def Key.ofValue? : Value → Option Key
  | .null => some .null
  | .bool b => some (.bool b)
  | .int n => some (.int n)
  | .float x => some (.float x)
  | .text s => some (.text s)
  | .bytes bs => some (.bytes bs)
  | .time t => some (.time t)
  | _ => none

def Key.toValue : Key → Value
  | .null => .null
  | .bool b => .bool b
  | .int n => .int n
  | .float x => .float x
  | .text s => .text s
  | .bytes bs => .bytes bs
  | .time t => .time t

def putAll (fields : List (Key × Value)) : List (Key × Value) :=
  fields.foldl (fun done (k, v) => Value.put k v done) []

inductive Shape
  | sequence
  | mapping
  | set
  | pairs

def shape? : Tag → Option Shape
  | .sequence => some .sequence
  | .mapping => some .mapping
  | .set => some .set
  | .omap => some .pairs
  | .pairs => some .pairs
  | _ => none

def keyOf (n : Node) : Reading Key := do
  if (shape? n.tag).isSome then Reading.fail .malformed
  let text ← textOf n
  match Key.ofValue? (← .ofExcept (scalarValue n.tag text)) with
  | some k => return k
  | none => Reading.fail .malformed

mutual

/-- The value of a node; `fuel` above the depth of the tree is enough. -/
def toValue (fuel : Nat) (n : Node) : Reading Value :=
  match fuel with
  | 0 => .fail .malformed
  | fuel + 1 =>
    match shape? n.tag with
    | some s => (collection fuel s n).inside
    | none => do
      let text ← textOf n
      .ofExcept (scalarValue n.tag text)

def collection (fuel : Nat) (s : Shape) (n : Node) : Reading Value :=
  match fuel with
  | 0 => .fail .malformed
  | fuel + 1 =>
    match s, n with
    | .sequence, .sequence _ items => Value.list <$> toValues fuel items
    | .mapping, n => do
      let entries ← .ofExcept (ownEntries n)
      return .mapping (putAll (← toFields fuel entries))
    | .set, n => do
      let entries ← .ofExcept (ownEntries n)
      return .set ((putAll (← toFields fuel entries)).map fun (k, _) => Key.toValue k)
    | .pairs, .sequence _ items => Value.list <$> toPairs fuel items
    | _, _ => .fail .malformed

def toValues (fuel : Nat) (items : List Node) : Reading (List Value) :=
  match fuel, items with
  | 0, _ => .fail .malformed
  | _, [] => .ok []
  | fuel + 1, n :: rest => do
    let (v, vs) ← Reading.both (toValue fuel n) (toValues fuel rest)
    return v :: vs

def toFields (fuel : Nat) (entries : List (Node × Node)) : Reading (List (Key × Value)) :=
  match fuel, entries with
  | 0, _ => .fail .malformed
  | _, [] => .ok []
  | fuel + 1, (k, v) :: rest => do
    let field := Reading.both (keyOf (plainKey k)) (toValue fuel v)
    let (f, fs) ← Reading.both field (toFields fuel rest)
    return f :: fs

def toPairs (fuel : Nat) (items : List Node) : Reading (List Value) :=
  match fuel, items with
  | 0, _ => .fail .malformed
  | _, [] => .ok []
  | fuel + 1, .mapping _ [(k, v)] :: rest => do
    let pair := Reading.both (toValue fuel k) (toValue fuel v)
    let ((x, y), more) ← Reading.both pair (toPairs fuel rest)
    return .tuple [x, y] :: more
  | _, _ => .fail .malformed

end

def readLined (cs : List Char) : Except DocumentFault Value := do
  if !cs.all isAllowed then throw .malformed
  match ← Node.ofTokens (Tokens.ofChars cs) with
  | none => return .null
  | some n =>
    match toValue (4 * cs.length + 8) n with
    | .ok v => return v
    | .error p => throw p.fault

def read (cs : List Char) : Except DocumentFault Value := readLined (Text.unixLines cs)

end SiteModules.Yaml
