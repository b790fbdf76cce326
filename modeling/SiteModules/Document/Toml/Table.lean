import SiteModules.Document.Fault
import SiteModules.Value

/-!
The tables of a TOML document while it is read, with what each may still be used for. A table
closed to headers was named by a header, or grew from a dotted key of an earlier section.
-/

namespace SiteModules.Toml

inductive Origin
  | passed
  | named
  | dotted (part : Nat)

namespace Origin

/-- Whether a header, or a dotted key of section `part`, may no longer enter the table. -/
def closed (part : Nat) : Origin → Bool
  | .passed => false
  | .named => true
  | .dotted p => p < part

end Origin

inductive Item
  | leaf (v : Value)
  | table (origin : Origin) (items : List (String × Item))
  | tables (before : List Value) (items : List (String × Item))

abbrev Items := List (String × Item)

namespace Item

mutual

def toValue : Item → Value
  | .leaf v => v
  | .table _ items => .mapping (toFields items)
  | .tables before items => .list (before ++ [.mapping (toFields items)])

def toFields : List (String × Item) → List (Key × Value)
  | [] => []
  | (k, i) :: rest => (.text k, i.toValue) :: toFields rest

end

def put (k : String) (i : Item) : Items → Items
  | [] => [(k, i)]
  | (k', i') :: rest => if k' = k then (k', i) :: rest else (k', i') :: put k i rest

end Item

open Item

def openTable (part : Nat) : List String → Items → Except DocumentFault Items
  | [], items => .ok items
  | [k], items =>
    match items.lookup k with
    | none => .ok (put k (.table .named []) items)
    | some (.table o inner) =>
      if o.closed part then .error .malformed else .ok (put k (.table .named inner) items)
    | some _ => .error .malformed
  | k :: path, items =>
    match items.lookup k with
    | none => return put k (.table .passed (← openTable part path [])) items
    | some (.table o inner) => return put k (.table o (← openTable part path inner)) items
    | some (.tables before inner) =>
      return put k (.tables before (← openTable part path inner)) items
    | some (.leaf _) => .error .malformed

def addTable (part : Nat) : List String → Items → Except DocumentFault Items
  | [], items => .ok items
  | [k], items =>
    match items.lookup k with
    | none => .ok (put k (.tables [] []) items)
    | some (.tables before inner) =>
      .ok (put k (.tables (before ++ [.mapping (toFields inner)]) []) items)
    | some _ => .error .malformed
  | k :: path, items =>
    match items.lookup k with
    | none => return put k (.table .passed (← addTable part path [])) items
    | some (.table o inner) => return put k (.table o (← addTable part path inner)) items
    | some (.tables before inner) =>
      return put k (.tables before (← addTable part path inner)) items
    | some (.leaf _) => .error .malformed

def setDotted (part : Nat) (v : Value) : List String → Items → Except DocumentFault Items
  | [], _ => .error .malformed
  | [k], items => if (items.lookup k).isSome then .error .malformed else .ok (put k (.leaf v) items)
  | k :: path, items =>
    match items.lookup k with
    | none => return put k (.table (.dotted part) (← setDotted part v path [])) items
    | some (.table o inner) =>
      if o.closed part then .error .malformed
      else
        let o := match o with
          | .passed => .dotted part
          | o => o
        return put k (.table o (← setDotted part v path inner)) items
    | some _ => .error .malformed

def setUnder (part : Nat) (v : Value) (key : List String) :
    List String → Items → Except DocumentFault Items
  | [], items => setDotted part v key items
  | k :: header, items =>
    match items.lookup k with
    | some (.table o inner) => return put k (.table o (← setUnder part v key header inner)) items
    | some (.tables before inner) =>
      return put k (.tables before (← setUnder part v key header inner)) items
    | _ => .error .malformed

end SiteModules.Toml
