import SiteModules.Proofs.Document.Keys
import SiteModules.Proofs.Settings.Merge

namespace SiteModules

namespace Value

variable {k : Key} {v : Value} {fields others : List (Key × Value)}

def keys (fields : List (Key × Value)) : List Key := fields.map Prod.fst

def lacks (fields : List (Key × Value)) (k : Key) : Bool := (lookup? k fields).isNone

theorem lacks_iff : lacks fields k = true ↔ ∀ j ∈ keys fields, ¬j.same k = true := by
  induction fields with
  | nil => simp [lacks, lookup?, keys]
  | cons f rest ih =>
    rw [keys, List.map_cons, List.forall_mem_cons, ← keys, ← ih, lacks, lookup?]
    by_cases hsame : f.1.same k = true
    · simp [hsame]
    · simp [hsame, lacks]

theorem lacks_of_keys_eq (hkeys : keys fields = keys others) (k : Key) :
    lacks fields k = lacks others k := by
  rw [Bool.eq_iff_iff, lacks_iff, lacks_iff, hkeys]

theorem keys_put (k : Key) (v : Value) (fields : List (Key × Value)) :
    keys (put k v fields) = if lacks fields k then keys fields ++ [k] else keys fields := by
  induction fields with
  | nil => rfl
  | cons f rest ih =>
    by_cases hsame : f.1.same k = true
    · simp [keys, put, lacks, lookup?, hsame]
    · have hlacks : lacks (f :: rest) k = lacks rest k := by simp [lacks, lookup?, hsame]
      rw [put, if_neg hsame, hlacks, keys, List.map_cons, ← keys, ih]
      split <;> rfl

theorem eq_of_keys (hpairs : fields.Pairwise fun f g => ¬f.1.same g.1 = true)
    (hkeys : keys fields = keys others) (hlookup : ∀ k, lookup? k fields = lookup? k others) :
    fields = others := by
  induction fields generalizing others with
  | nil =>
    cases others with
    | nil => rfl
    | cons g others => cases hkeys
  | cons f rest ih =>
    cases others with
    | nil => cases hkeys
    | cons g others =>
      obtain ⟨hkey, hkeys⟩ : f.1 = g.1 ∧ keys rest = keys others := List.cons.inj hkeys
      obtain ⟨hfirst, hrest⟩ := List.pairwise_cons.1 hpairs
      have hvalue : f.2 = g.2 := by simpa [lookup?, ← hkey] using hlookup f.1
      rw [Prod.ext hkey hvalue, ih hrest hkeys]
      intro k
      by_cases hsame : f.1.same k = true
      · -- The first key does not come back further on, in neither of the two.
        have hlacks : lacks rest k = true := by
          rw [lacks_iff]
          intro j hj hjk
          obtain ⟨e, he, rfl⟩ := List.mem_map.1 hj
          apply hfirst e he
          rw [Key.same_iff, Key.same_iff.1 hsame, Key.same_iff.1 hjk]
        have hlacks' : lacks others k = true := lacks_of_keys_eq hkeys k ▸ hlacks
        rw [Option.isNone_iff_eq_none.1 hlacks, Option.isNone_iff_eq_none.1 hlacks']
      · simpa [lookup?, ← hkey, hsame] using hlookup k

end Value

namespace Settings

open Value (keys lacks DistinctKeys)

variable {a b c base overlay : Fields}

theorem pairwise_merge (hbase : base.Pairwise fun f g => ¬f.1.same g.1 = true)
    (overlay : Fields) : (merge base overlay).Pairwise fun f g => ¬f.1.same g.1 = true := by
  rw [merge]
  induction overlay generalizing base with
  | nil => simpa [mergeFields] using hbase
  | cons f rest ih =>
    rw [mergeFields]
    exact ih (Value.pairwise_put hbase)

theorem keys_merge (hoverlay : overlay.Pairwise fun f g => ¬f.1.same g.1 = true) (base : Fields) :
    keys (merge base overlay) = keys base ++ (keys overlay).filter (lacks base) := by
  rw [merge]
  induction overlay generalizing base with
  | nil => simp [mergeFields, keys]
  | cons f rest ih =>
    obtain ⟨k, v⟩ := f
    obtain ⟨hfirst, hrest⟩ := List.pairwise_cons.1 hoverlay
    have hlacks (w : Value) :
        (keys rest).filter (lacks (Value.put k w base)) = (keys rest).filter (lacks base) := by
      apply List.filter_congr
      intro j hj
      obtain ⟨g, hg, rfl⟩ := List.mem_map.1 hj
      rw [lacks, lacks, Value.lookup?_put_of_not_same (hfirst g hg)]
    rw [mergeFields, ih hrest, hlacks, Value.keys_put]
    change _ = keys base ++ (k :: keys rest).filter (lacks base)
    rw [List.filter_cons]
    split
    · rw [List.append_assoc, List.singleton_append]
    · rfl

theorem lacks_merge (hoverlay : overlay.Pairwise fun f g => ¬f.1.same g.1 = true) (base : Fields)
    (k : Key) : lacks (merge base overlay) k = (lacks base k && lacks overlay k) := by
  rw [lacks, lookup?_merge hoverlay, lacks, lacks]
  cases Value.lookup? k overlay <;> simp

theorem keys_merge_merge (hb : b.Pairwise fun f g => ¬f.1.same g.1 = true)
    (hc : c.Pairwise fun f g => ¬f.1.same g.1 = true) :
    keys (merge (merge a b) c) = keys (merge a (merge b c)) := by
  have hfilter : (keys c).filter (lacks (merge a b)) =
      ((keys c).filter (lacks b)).filter (lacks a) := by
    rw [List.filter_filter]
    apply List.filter_congr
    intro k _
    exact lacks_merge hb a k
  calc
    keys (merge (merge a b) c)
      = keys a ++ (keys b).filter (lacks a) ++ (keys c).filter (lacks (merge a b)) := by
        rw [keys_merge hc, keys_merge hb]
    _ = keys a ++ (keys b ++ (keys c).filter (lacks b)).filter (lacks a) := by
        rw [hfilter, List.append_assoc, List.filter_append]
    _ = keys (merge a (merge b c)) := by
        rw [keys_merge (pairwise_merge hb c), keys_merge hc]

/-- At the end of some path a value without entries stands between two mappings. -/
def Interrupts (old : Option Value) (between later : Value) : Prop :=
  ∃ path v, between.at? path = some v ∧ v.isMapping = false ∧
    (∃ first fields, old = some first ∧ first.at? path = some (.mapping fields)) ∧
    ∃ fields, later.at? path = some (.mapping fields)

theorem Interrupts.below {k : Key} {v w : Value} (hb : Value.lookup? k b = some v)
    (hc : Value.lookup? k c = some w) (h : Interrupts (Value.lookup? k a) v w) :
    Interrupts (some (.mapping a)) (.mapping b) (.mapping c) := by
  obtain ⟨path, u, hu, hleaf, ⟨first, fields, hfirst, hat⟩, later, hlater⟩ := h
  refine ⟨k :: path, u, ?_, hleaf, ⟨.mapping a, fields, rfl, ?_⟩, later, ?_⟩
  · rw [Value.at?_mapping, hb]
    exact hu
  · rw [Value.at?_mapping, hfirst]
    exact hat
  · rw [Value.at?_mapping, hc]
    exact hlater

theorem laidOver_none (v : Value) : laidOver none v = v := by
  cases v with
  | mapping fields =>
    apply laidOver_mapping_of_leaf
    intro base h
    cases h
  | _ => rfl

theorem merge_merge_of_values (ha : a.Pairwise fun f g => ¬f.1.same g.1 = true)
    (hb : b.Pairwise fun f g => ¬f.1.same g.1 = true)
    (hc : c.Pairwise fun f g => ¬f.1.same g.1 = true)
    (h : ∀ k v w, Value.lookup? k b = some v → Value.lookup? k c = some w →
      laidOver (some (laidOver (Value.lookup? k a) v)) w =
        laidOver (Value.lookup? k a) (laidOver (some v) w)) :
    merge (merge a b) c = merge a (merge b c) := by
  apply Value.eq_of_keys (pairwise_merge (pairwise_merge ha b) c) (keys_merge_merge hb hc)
  intro k
  rw [lookup?_merge hc, lookup?_merge hb, lookup?_merge (pairwise_merge hb c), lookup?_merge hc]
  cases hk : Value.lookup? k c with
  | none => rfl
  | some w =>
    cases hk' : Value.lookup? k b with
    | none =>
      dsimp only
      rw [laidOver_none]
    | some v => exact congrArg some (h k v w hk' hk)

theorem laidOver_laidOver {old : Option Value} {between later : Value}
    (hold : ∀ v, old = some v → v.DistinctKeys) (hbetween : between.DistinctKeys)
    (hlater : later.DistinctKeys) (h : ¬Interrupts old between later) :
    laidOver (some (laidOver old between)) later =
      laidOver old (laidOver (some between) later) := by
  induction hlater generalizing old between with
  | leaf hleaf => rw [laidOver_of_leaf hleaf, laidOver_of_leaf hleaf, laidOver_of_leaf hleaf]
  | @mapping c hc hcvalues ih =>
    cases hbetween with
    | leaf hleaf =>
      have hnot : ∀ a, old ≠ some (.mapping a) := by
        intro a ha
        apply h
        exact ⟨[], between, Value.at?_nil _, hleaf, ⟨.mapping a, a, ha, Value.at?_nil _⟩, c,
          Value.at?_nil _⟩
      have hnot' : ∀ b, some between ≠ some (.mapping b) := by
        intro b hb
        cases hb
        cases hleaf
      rw [laidOver_of_leaf hleaf, laidOver_mapping_of_leaf hnot', laidOver_mapping_of_leaf hnot]
    | @mapping b hb hbvalues =>
      by_cases hmapping : ∃ a, old = some (.mapping a)
      · obtain ⟨a, rfl⟩ := hmapping
        cases hold _ rfl with
        | leaf hleaf => cases hleaf
        | mapping ha havalues =>
          rw [laidOver_mapping, laidOver_mapping, laidOver_mapping, laidOver_mapping]
          congr 1
          apply merge_merge_of_values ha hb hc
          intro k v w hv hw
          obtain ⟨g, hg, rfl⟩ := Value.mem_of_lookup? hv
          obtain ⟨f, hf, rfl⟩ := Value.mem_of_lookup? hw
          have hbelow : ∀ u, Value.lookup? k a = some u → u.DistinctKeys := by
            intro u hu
            obtain ⟨e, he, rfl⟩ := Value.mem_of_lookup? hu
            exact havalues e he
          -- What interrupts below a key interrupts here as well.
          exact ih f hf hbelow (hbvalues g hg) fun hinterrupts => h (hinterrupts.below hv hw)
      · have hnot : ∀ a, old ≠ some (.mapping a) := fun a ha => hmapping ⟨a, ha⟩
        rw [laidOver_mapping_of_leaf hnot, laidOver_mapping, laidOver_mapping_of_leaf hnot]

theorem merge_merge (ha : (Value.mapping a).DistinctKeys) (hb : (Value.mapping b).DistinctKeys)
    (hc : (Value.mapping c).DistinctKeys)
    (h : ¬Interrupts (some (.mapping a)) (.mapping b) (.mapping c)) :
    merge (merge a b) c = merge a (merge b c) := by
  have hvalue := laidOver_laidOver (fun v hv => Option.some.inj hv ▸ ha) hb hc h
  rw [laidOver_mapping, laidOver_mapping, laidOver_mapping, laidOver_mapping] at hvalue
  exact Value.mapping.inj hvalue

theorem laidOver_self {v : Value} (hv : v.DistinctKeys) : laidOver (some v) v = v := by
  induction hv with
  | leaf hleaf => rw [laidOver_of_leaf hleaf]
  | @mapping fields hpairs hvalues ih =>
    rw [laidOver_mapping]
    congr 1
    have hlacks : (keys fields).filter (lacks fields) = [] := by
      rw [List.filter_eq_nil_iff]
      intro k hk hlacks
      exact Value.lacks_iff.1 hlacks k hk (Key.same_self k)
    apply Value.eq_of_keys (pairwise_merge hpairs fields)
    · rw [keys_merge hpairs, hlacks, List.append_nil]
    · intro k
      rw [lookup?_merge hpairs]
      cases hk : Value.lookup? k fields with
      | none => rfl
      | some v =>
        obtain ⟨f, hf, rfl⟩ := Value.mem_of_lookup? hk
        exact congrArg some (ih f hf)

theorem not_interrupts_self (old : Option Value) (v : Value) : ¬Interrupts old v v := by
  intro h
  obtain ⟨path, leaf, hleaf, hnot, -, fields, hfields⟩ := h
  cases hleaf.symm.trans hfields
  cases hnot

/--
Scopes can be merged in either grouping, with the same entries in the same order, unless the middle
one has a value without entries where both others have a mapping. A scope that is merged twice in a
row counts once.
-/
theorem merge_regrouped :
    (∀ a b c : Fields, (Value.mapping a).DistinctKeys → (Value.mapping b).DistinctKeys →
      (Value.mapping c).DistinctKeys →
        ¬Interrupts (some (.mapping a)) (.mapping b) (.mapping c) →
          merge (merge a b) c = merge a (merge b c)) ∧
    ∀ a b : Fields, (Value.mapping a).DistinctKeys → (Value.mapping b).DistinctKeys →
      merge (merge a b) b = merge a b := by
  constructor
  · intro a b c ha hb hc h
    exact merge_merge ha hb hc h
  · intro a b ha hb
    have hself := laidOver_self hb
    rw [laidOver_mapping] at hself
    rw [merge_merge ha hb hb (not_interrupts_self _ _), Value.mapping.inj hself]

def userFields : Fields := [(.text "modules", .mapping [(.text "organization", .text "acme")])]

def projectFields : Fields :=
  [(.text "title", .text "site"),
    (.text "modules", .mapping [(.text "bundled_paths", .list [.text "vendor"])])]

def machineFields : Fields := [(.text "modules", .mapping [(.text "auto_load", .bool true)])]

theorem distinctKeys_userFields : (Value.mapping userFields).DistinctKeys :=
  DistinctKeys.singleton _ (DistinctKeys.singleton _ (.leaf rfl))

theorem distinctKeys_machineFields : (Value.mapping machineFields).DistinctKeys :=
  DistinctKeys.singleton _ (DistinctKeys.singleton _ (.leaf rfl))

theorem distinctKeys_projectFields : (Value.mapping projectFields).DistinctKeys := by
  have hsection : (Value.mapping [(.text "bundled_paths", .list [.text "vendor"])]).DistinctKeys :=
    DistinctKeys.singleton _ (.leaf rfl)
  have htitle : (Value.mapping [(.text "title", .text "site")]).DistinctKeys :=
    DistinctKeys.singleton _ (.leaf rfl)
  exact htitle.put (k := .text "modules") hsection

theorem not_interrupts_projectFields :
    ¬Interrupts (some (.mapping userFields)) (.mapping projectFields) (.mapping machineFields) := by
  intro h
  obtain ⟨path, v, hv, hleaf, -, fields, hfields⟩ := h
  cases path with
  | nil =>
    cases hv
    cases hleaf
  | cons k path =>
    by_cases hk : Key.same (.text "modules") k = true
    · cases path with
      | nil =>
        rw [Value.at?_mapping, ← Value.lookup?_congr hk] at hv
        cases hv
        cases hleaf
      | cons j path =>
        rw [Value.at?_mapping, ← Value.lookup?_congr hk] at hfields
        change (Value.mapping [(.text "auto_load", .bool true)]).at? (j :: path) = _ at hfields
        rw [Value.at?_mapping, Value.lookup?] at hfields
        split at hfields
        · cases path with
          | nil => cases hfields
          | cons i path => cases hfields
        · cases hfields
    · rw [Value.at?_mapping, machineFields, Value.lookup?, if_neg hk] at hfields
      cases hfields

theorem regrouped_scopes :
    (Value.mapping userFields).DistinctKeys ∧ (Value.mapping projectFields).DistinctKeys ∧
    (Value.mapping machineFields).DistinctKeys ∧
    ¬Interrupts (some (.mapping userFields)) (.mapping projectFields) (.mapping machineFields) ∧
    merge (merge userFields projectFields) machineFields =
      merge userFields (merge projectFields machineFields) ∧
    merge (merge userFields projectFields) projectFields = merge userFields projectFields ∧
    keys (merge userFields (merge projectFields machineFields)) =
      [.text "modules", .text "title"] :=
  ⟨distinctKeys_userFields, distinctKeys_projectFields, distinctKeys_machineFields,
    not_interrupts_projectFields,
    merge_regrouped.1 _ _ _ distinctKeys_userFields distinctKeys_projectFields
      distinctKeys_machineFields not_interrupts_projectFields,
    merge_regrouped.2 _ _ distinctKeys_userFields distinctKeys_projectFields, rfl⟩

example :
    (Value.mapping (merge (merge userFields [(.text "modules", .text "none")]) machineFields)).at?
      [.text "modules", .text "organization"] = none ∧
    (Value.mapping (merge userFields (merge [(.text "modules", .text "none")] machineFields))).at?
      [.text "modules", .text "organization"] = some (.text "acme") := ⟨rfl, rfl⟩

end Settings

end SiteModules
