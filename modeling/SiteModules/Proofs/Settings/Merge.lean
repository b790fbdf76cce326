import Mathlib.Data.List.Induction
import SiteModules.Proofs.Value.KeyPath
import SiteModules.Settings.Merge

namespace SiteModules.Settings

open Value (DistinctKeys Covers)

variable {base overlay : Fields} {old : Option Value} {later v : Value} {path : List Key}

theorem laidOver_of_leaf (h : later.isMapping = false) (old : Option Value) :
    laidOver old later = later := by
  unfold laidOver
  split
  · cases h
  · rfl

theorem laidOver_mapping (base overlay : Fields) :
    laidOver (some (.mapping base)) (.mapping overlay) = .mapping (merge base overlay) := by
  rw [laidOver, merge]

theorem laidOver_mapping_of_leaf (h : ∀ base, old ≠ some (.mapping base)) (overlay : Fields) :
    laidOver old (.mapping overlay) = .mapping overlay := by
  rw [laidOver]
  exact h

theorem isMapping_laidOver (old : Option Value) (later : Value) :
    (laidOver old later).isMapping = later.isMapping := by
  unfold laidOver
  split
  · split <;> rfl
  · rfl

theorem lookup?_merge (hkeys : overlay.Pairwise fun f g => ¬f.1.same g.1 = true) (base : Fields)
    (k : Key) :
    Value.lookup? k (merge base overlay) =
      match Value.lookup? k overlay with
      | none => Value.lookup? k base
      | some v => some (laidOver (Value.lookup? k base) v) := by
  rw [merge]
  induction overlay generalizing base with
  | nil => simp [mergeFields, Value.lookup?]
  | cons f rest ih =>
    obtain ⟨k', v⟩ := f
    obtain ⟨hfirst, hrest⟩ := List.pairwise_cons.1 hkeys
    rw [mergeFields, ih hrest, Value.lookup?]
    by_cases hsame : k'.same k = true
    · -- The key does not come back in the rest of the overlay.
      have hnone : Value.lookup? k rest = none := by
        rw [← Value.lookup?_congr hsame]
        apply Value.lookup?_eq_none_of_forall
        intro g hg
        exact Key.not_same_comm.1 (hfirst g hg)
      rw [hnone, if_pos hsame, ← Value.lookup?_congr hsame, Value.lookup?_put_self,
        Value.lookup?_congr hsame]
    · rw [if_neg hsame, Value.lookup?_put_of_not_same hsame]

theorem at?_laidOver_iff (hkeys : later.DistinctKeys) (hv : v.isMapping = false) :
    (laidOver old later).at? path = some v ↔
      later.at? path = some v ∨
        (∃ base, old = some base ∧ base.at? path = some v) ∧ ¬later.Covers path := by
  induction path generalizing old later with
  | nil =>
    cases hlater : later.isMapping with
    | false => simp [laidOver_of_leaf hlater]
    | true =>
      have hmerged := (isMapping_laidOver old later).trans hlater
      have hne : ∀ w : Value, w.isMapping = true → w ≠ v := by
        rintro w hw rfl
        rw [hv] at hw
        cases hw
      simp [hne _ hmerged, hne _ hlater]
  | cons k path ih =>
    cases hkeys with
    | leaf hlater =>
      rw [laidOver_of_leaf hlater, Value.at?_of_leaf hlater]
      simp [Value.covers_of_leaf hlater]
    | @mapping overlay hpairs hvalues =>
      -- Only two mappings are merged, and the induction goes on below a key that both have.
      by_cases hold : ∃ base, old = some (.mapping base)
      · obtain ⟨base, rfl⟩ := hold
        rw [laidOver_mapping, Value.at?_mapping, lookup?_merge hpairs, Value.at?_mapping,
          Value.covers_mapping_iff]
        cases hk : Value.lookup? k overlay with
        | none => simp
        | some w =>
          obtain ⟨f, hf, rfl⟩ := Value.mem_of_lookup? hk
          simpa [Option.bind_eq_some_iff] using ih (hvalues f hf)
      · have hnot : ∀ base, old ≠ some (.mapping base) := fun base h => hold ⟨base, h⟩
        rw [laidOver_mapping_of_leaf hnot]
        constructor
        · exact .inl
        · rintro (hat | ⟨⟨base, rfl, hat⟩, -⟩)
          · exact hat
          · cases hbase : base.isMapping with
            | false =>
              rw [Value.at?_of_leaf hbase] at hat
              cases hat
            | true =>
              obtain ⟨fields, rfl⟩ := Value.exists_fields_of_isMapping hbase
              exact absurd rfl (hnot fields)

theorem at?_merge_iff (hkeys : (Value.mapping overlay).DistinctKeys) (hv : v.isMapping = false) :
    (Value.mapping (merge base overlay)).at? path = some v ↔
      (Value.mapping overlay).at? path = some v ∨
        (Value.mapping base).at? path = some v ∧ ¬(Value.mapping overlay).Covers path := by
  rw [← laidOver_mapping, at?_laidOver_iff hkeys hv]
  simp

/-- A scope holds a value under a path, and no later scope covers the path. -/
def Prevails (scopes : List Fields) (path : List Key) (v : Value) : Prop :=
  ∃ before fields after, scopes = before ++ fields :: after ∧
    (Value.mapping fields).at? path = some v ∧
    ∀ later ∈ after, ¬(Value.mapping later).Covers path

theorem prevails_concat_iff {scopes : List Fields} {last : Fields} :
    Prevails (scopes ++ [last]) path v ↔
      (Value.mapping last).at? path = some v ∨
        Prevails scopes path v ∧ ¬(Value.mapping last).Covers path := by
  constructor
  · rintro ⟨before, fields, after, hscopes, hat, hafter⟩
    -- The scope that prevails is the last one, or the last one comes after it.
    obtain rfl | ⟨after, last', rfl⟩ := after.eq_nil_or_concat
    · obtain ⟨-, heq⟩ := List.append_inj' hscopes rfl
      cases heq
      exact .inl hat
    · rw [List.concat_eq_append, ← List.cons_append, ← List.append_assoc] at hscopes
      obtain ⟨rfl, heq⟩ := List.append_inj' hscopes rfl
      cases heq
      refine .inr ⟨⟨before, fields, after, rfl, hat, ?_⟩, hafter last (by simp)⟩
      intro later hlater
      exact hafter later (by simp [hlater])
  · rintro (hat | ⟨⟨before, fields, after, rfl, hat, hafter⟩, hlast⟩)
    · exact ⟨scopes, last, [], rfl, hat, by simp⟩
    · refine ⟨before, fields, after ++ [last], by simp, hat, ?_⟩
      intro later hlater
      obtain hlater | hlater := List.mem_append.1 hlater
      · exact hafter later hlater
      · obtain rfl := List.mem_singleton.1 hlater
        exact hlast

theorem at?_mergeAll_iff {scopes : List Fields}
    (hkeys : ∀ fields ∈ scopes, (Value.mapping fields).DistinctKeys) (hv : v.isMapping = false) :
    (Value.mapping (mergeAll scopes)).at? path = some v ↔ Prevails scopes path v := by
  induction scopes using List.reverseRecOn with
  | nil =>
    have hnone : (Value.mapping []).at? path ≠ some v := by
      cases path with
      | nil =>
        rintro h
        cases h
        cases hv
      | cons k path => simp [Value.lookup?]
    simp [hnone, Prevails]
  | append_singleton scopes last ih =>
    have hscopes : mergeAll (scopes ++ [last]) = merge (mergeAll scopes) last := by
      simp [mergeAll]
    rw [hscopes, at?_merge_iff (hkeys last (by simp)) hv, prevails_concat_iff,
      ih fun fields hfields => hkeys fields (by simp [hfields])]

theorem mergeAll_filter_isEmpty (scopes : List Fields) :
    mergeAll (scopes.filter (!·.isEmpty)) = mergeAll scopes := by
  rw [mergeAll, List.foldl_filter, mergeAll]
  congr 1
  funext fields scope
  cases scope <;> simp

end SiteModules.Settings
