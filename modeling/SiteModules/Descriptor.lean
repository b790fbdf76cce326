import SiteModules.Value.Display

namespace SiteModules

inductive Entry
  | place (text : String)
  | object (v : Value)
  | loaded (v : Value)

def Entry.text : Entry → String
  | .place s => s
  | .object v => v.text?.getD v.shown
  | .loaded v => v.text?.getD v.shown

structure Descriptor where
  entry : Option Entry
  name : Option String
  shortcut : Option String
  fromDependency : Option Bool

namespace Descriptor

def empty : Descriptor := ⟨none, none, none, none⟩

def ofEntry (e : Entry) : Descriptor := ⟨some e, none, none, none⟩

def isEmpty (d : Descriptor) : Bool :=
  d.entry.isNone && d.name.isNone && d.shortcut.isNone && d.fromDependency.isNone

def place? (d : Descriptor) : Option String :=
  match d.entry with
  | some (.place s) => some s
  | _ => none

def fields (d : Descriptor) : List (String × Value) :=
  let text (s : Option String) : Value := (s.map Value.text).getD .null
  [("entry", text (d.entry.map Entry.text)), ("name", text d.name), ("shortcut", text d.shortcut),
    ("from_dep", (d.fromDependency.map Value.bool).getD .null)]

end Descriptor

end SiteModules
