import SiteModules.Value

/-!
Merging settings. What a later scope says takes the place of what an earlier one said; only where
both hold mappings are these merged entry by entry. New entries follow those that were there.
-/

namespace SiteModules.Settings

abbrev Fields := List (Key × Value)

mutual

def laidOver (old : Option Value) : Value → Value
  | .mapping fields =>
    match old with
    | some (.mapping base) => .mapping (mergeFields base fields)
    | _ => .mapping fields
  | v => v

def mergeFields (base : Fields) : Fields → Fields
  | [] => base
  | (k, v) :: rest => mergeFields (Value.put k (laidOver (Value.lookup? k base) v) base) rest

end

def merge (base overlay : Fields) : Fields := mergeFields base overlay

def mergeAll (scopes : List Fields) : Fields := scopes.foldl merge []

@[simp] theorem merge_nil (base : Fields) : merge base [] = base := by
  simp [merge, mergeFields]

@[simp] theorem mergeAll_nil : mergeAll [] = [] := rfl

end SiteModules.Settings
