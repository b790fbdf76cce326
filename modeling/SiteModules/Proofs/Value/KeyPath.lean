import SiteModules.Value

/-!
Key paths into nested mappings. A later value covers a path where it says anything about it:
something stands at the path itself, or a value without entries stands on the way to it.
-/

namespace SiteModules

theorem Key.not_same_comm {j k : Key} : ¬j.same k = true ↔ ¬k.same j = true := by
  rw [Key.same_iff, Key.same_iff, eq_comm]

namespace Value

def isMapping : Value → Bool
  | .mapping _ => true
  | _ => false

/-- No mapping has two entries with one key, however deep it lies within others. -/
inductive DistinctKeys : Value → Prop
  | leaf {v : Value} : v.isMapping = false → DistinctKeys v
  | mapping {fields : List (Key × Value)} :
      fields.Pairwise (fun f g => ¬f.1.same g.1 = true) → (∀ f ∈ fields, DistinctKeys f.2) →
      DistinctKeys (.mapping fields)

def at? : List Key → Value → Option Value
  | [], v => some v
  | k :: path, .mapping fields => (lookup? k fields).bind (at? path)
  | _ :: _, _ => none

def Covers (later : Value) (path : List Key) : Prop :=
  ∃ above v, above <+: path ∧ later.at? above = some v ∧ (above = path ∨ v.isMapping = false)

variable {v w : Value} {k : Key} {path : List Key} {fields : List (Key × Value)}

theorem DistinctKeys.singleton (k : Key) (hv : v.DistinctKeys) :
    (Value.mapping [(k, v)]).DistinctKeys := by
  apply DistinctKeys.mapping (List.pairwise_singleton _ _)
  rw [List.forall_mem_singleton]
  exact hv

@[simp] theorem at?_nil (v : Value) : v.at? [] = some v := by simp [at?]

@[simp] theorem at?_mapping (k : Key) (path : List Key) (fields : List (Key × Value)) :
    (Value.mapping fields).at? (k :: path) = (lookup? k fields).bind (at? path) := by
  simp [at?]

theorem at?_of_leaf (hv : v.isMapping = false) (k : Key) (path : List Key) :
    v.at? (k :: path) = none := by
  cases v <;> first | rfl | cases hv

theorem exists_fields_of_isMapping (hv : v.isMapping = true) : ∃ fields, v = .mapping fields := by
  cases v with
  | mapping fields => exact ⟨fields, rfl⟩
  | _ => cases hv

@[simp] theorem covers_nil (later : Value) : later.Covers [] :=
  ⟨[], later, List.prefix_rfl, at?_nil later, .inl rfl⟩

theorem covers_of_leaf (hv : v.isMapping = false) (path : List Key) : v.Covers path :=
  ⟨[], v, List.nil_prefix, at?_nil v, .inr hv⟩

theorem covers_mapping_iff :
    (Value.mapping fields).Covers (k :: path) ↔
      ∃ w, lookup? k fields = some w ∧ w.Covers path := by
  constructor
  · rintro ⟨above, v, hprefix, hat, hend⟩
    cases above with
    | nil =>
      -- The mapping itself is neither at the end of the path nor without entries.
      cases hat
      obtain hend | hend := hend
      · cases hend
      · cases hend
    | cons k' above =>
      obtain ⟨rfl, hrest⟩ := List.cons_prefix_cons.1 hprefix
      rw [at?_mapping, Option.bind_eq_some_iff] at hat
      obtain ⟨w, hw, hat⟩ := hat
      refine ⟨w, hw, above, v, hrest, hat, ?_⟩
      simpa using hend
  · rintro ⟨w, hw, above, v, hprefix, hat, hend⟩
    refine ⟨k :: above, v, List.cons_prefix_cons.2 ⟨rfl, hprefix⟩, ?_, ?_⟩
    · rw [at?_mapping, hw]
      exact hat
    · simpa using hend

theorem lookup?_congr {j k : Key} (h : j.same k = true) (fields : List (Key × Value)) :
    lookup? j fields = lookup? k fields := by
  induction fields with
  | nil => rfl
  | cons f rest ih =>
    have hsame : f.1.same j = f.1.same k := by
      simp only [Key.same, Key.same_iff.1 h]
    simp only [lookup?, hsame, ih]

theorem lookup?_eq_none_of_forall (h : ∀ f ∈ fields, ¬f.1.same k = true) :
    lookup? k fields = none := by
  induction fields with
  | nil => rfl
  | cons f rest ih =>
    rw [lookup?, if_neg (h f List.mem_cons_self)]
    exact ih fun g hg => h g (List.mem_cons_of_mem f hg)

theorem mem_of_lookup? (h : lookup? k fields = some v) : ∃ f ∈ fields, f.2 = v := by
  induction fields with
  | nil => cases h
  | cons f rest ih =>
    rw [lookup?] at h
    split at h
    · cases h
      exact ⟨f, List.mem_cons_self, rfl⟩
    · obtain ⟨g, hg, hv⟩ := ih h
      exact ⟨g, List.mem_cons_of_mem f hg, hv⟩

end Value

end SiteModules
