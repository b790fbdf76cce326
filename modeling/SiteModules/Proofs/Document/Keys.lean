import SiteModules.Document.Yaml
import SiteModules.Proofs.Outcome
import SiteModules.Proofs.Value.KeyPath

namespace SiteModules

namespace Value

variable {k : Key} {v : Value} {fields : List (Key × Value)}

theorem mem_put {g : Key × Value} (hg : g ∈ put k v fields) :
    (g.1 = k ∨ ∃ f ∈ fields, f.1 = g.1) ∧ (g.2 = v ∨ ∃ f ∈ fields, f.2 = g.2) := by
  induction fields with
  | nil =>
    obtain rfl := List.mem_singleton.1 hg
    exact ⟨.inl rfl, .inl rfl⟩
  | cons f rest ih =>
    obtain ⟨k', v'⟩ := f
    rw [put] at hg
    split at hg
    · obtain rfl | hg := List.mem_cons.1 hg
      · exact ⟨.inr ⟨_, List.mem_cons_self, rfl⟩, .inl rfl⟩
      · exact ⟨.inr ⟨g, List.mem_cons_of_mem _ hg, rfl⟩, .inr ⟨g, List.mem_cons_of_mem _ hg, rfl⟩⟩
    · obtain rfl | hg := List.mem_cons.1 hg
      · exact ⟨.inr ⟨_, List.mem_cons_self, rfl⟩, .inr ⟨_, List.mem_cons_self, rfl⟩⟩
      · obtain ⟨hkey, hvalue⟩ := ih hg
        have hmore {P : Key × Value → Prop} (hex : ∃ f ∈ rest, P f) :
            ∃ f ∈ (k', v') :: rest, P f := by
          obtain ⟨f, hf, h⟩ := hex
          exact ⟨f, List.mem_cons_of_mem _ hf, h⟩
        exact ⟨hkey.imp_right hmore, hvalue.imp_right hmore⟩

theorem pairwise_put (h : fields.Pairwise fun f g => ¬f.1.same g.1 = true) :
    (put k v fields).Pairwise fun f g => ¬f.1.same g.1 = true := by
  induction fields with
  | nil => exact List.pairwise_singleton _ _
  | cons f rest ih =>
    obtain ⟨k', v'⟩ := f
    obtain ⟨hfirst, hrest⟩ := List.pairwise_cons.1 h
    rw [put]
    split
    · exact List.pairwise_cons.2 ⟨hfirst, hrest⟩
    · next hne =>
      refine List.pairwise_cons.2 ⟨?_, ih hrest⟩
      intro g hg
      obtain hkey | ⟨f, hf, hkey⟩ := (mem_put hg).1
      · rw [hkey]
        exact hne
      · rw [← hkey]
        exact hfirst f hf

theorem DistinctKeys.put (h : (Value.mapping fields).DistinctKeys) (hv : v.DistinctKeys) :
    (Value.mapping (put k v fields)).DistinctKeys := by
  cases h with
  | leaf h => cases h
  | mapping hpairs hvalues =>
    refine .mapping (pairwise_put hpairs) ?_
    intro g hg
    obtain heq | ⟨f, hf, heq⟩ := (mem_put hg).2
    · rwa [heq]
    · rw [← heq]
      exact hvalues f hf

end Value

namespace Yaml

open Value (DistinctKeys)

variable {fuel : Nat} {n : Node} {v : Value}

theorem distinctKeys_putAll {fields : List (Key × Value)}
    (h : ∀ f ∈ fields, f.2.DistinctKeys) : (Value.mapping (putAll fields)).DistinctKeys := by
  have hfold : ∀ done, (Value.mapping done).DistinctKeys → (Value.mapping
      (fields.foldl (fun done f => Value.put f.1 f.2 done) done)).DistinctKeys := by
    induction fields with
    | nil => exact fun done hdone => hdone
    | cons f rest ih =>
      intro done hdone
      apply ih fun g hg => h g (List.mem_cons_of_mem f hg)
      exact hdone.put (h f List.mem_cons_self)
  exact hfold [] (.mapping List.Pairwise.nil (by simp))

theorem both_eq_ok_iff {α β : Type} {a : Reading α} {b : Reading β} {x : α} {y : β} :
    Reading.both a b = .ok (x, y) ↔ a = .ok x ∧ b = .ok y := by
  cases a <;> cases b <;> simp [Reading.both]

theorem isMapping_scalarValue {tag : Tag} {text : List Char}
    (h : scalarValue tag text = .ok v) : v.isMapping = false := by
  have hmap {α : Type} {make : α → Value} {x : Except DocumentFault α}
      (hmake : ∀ z, (make z).isMapping = false) (h : make <$> x = .ok v) : v.isMapping = false := by
    obtain ⟨z, -, rfl⟩ := Except.map_eq_ok_iff.1 h
    exact hmake z
  cases tag with
  | null | text =>
    cases h
    rfl
  | bool | int | float | binary | timestamp => exact hmap (fun _ => rfl) h
  | _ => cases h

structure KeepsKeys (fuel : Nat) : Prop where
  value {n : Node} {v : Value} : toValue fuel n = .ok v → v.DistinctKeys
  collection {s : Shape} {n : Node} {v : Value} :
    Yaml.collection fuel s n = .ok v → v.DistinctKeys
  fields {entries : List (Node × Node)} {fields : List (Key × Value)} :
    toFields fuel entries = .ok fields → ∀ f ∈ fields, f.2.DistinctKeys

theorem keepsKeys_zero : KeepsKeys 0 where
  value h := by
    rw [toValue] at h
    cases h
  collection h := by
    rw [collection.eq_def] at h
    cases h
  fields h := by
    rw [toFields.eq_def] at h
    cases h

theorem KeepsKeys.value_succ (ih : KeepsKeys fuel) (h : toValue (fuel + 1) n = .ok v) :
    v.DistinctKeys := by
  rw [toValue] at h
  split at h
  · exact ih.collection (Except.mapError_eq_ok_iff.1 h)
  · obtain ⟨text, -, h⟩ := Except.bind_eq_ok_iff.1 h
    exact .leaf (isMapping_scalarValue (Except.mapError_eq_ok_iff.1 h))

theorem KeepsKeys.collection_succ {s : Shape} (ih : KeepsKeys fuel)
    (h : Yaml.collection (fuel + 1) s n = .ok v) : v.DistinctKeys := by
  rw [Yaml.collection.eq_def] at h
  dsimp only at h
  split at h
  · obtain ⟨xs, -, rfl⟩ := Except.map_eq_ok_iff.1 h
    exact .leaf rfl
  · obtain ⟨entries, -, h⟩ := Except.bind_eq_ok_iff.1 h
    obtain ⟨fields, hfields, h⟩ := Except.bind_eq_ok_iff.1 h
    cases h
    exact distinctKeys_putAll (ih.fields hfields)
  · obtain ⟨entries, -, h⟩ := Except.bind_eq_ok_iff.1 h
    obtain ⟨fields, -, h⟩ := Except.bind_eq_ok_iff.1 h
    cases h
    exact .leaf rfl
  · obtain ⟨xs, -, rfl⟩ := Except.map_eq_ok_iff.1 h
    exact .leaf rfl
  · cases h

theorem KeepsKeys.fields_succ {entries : List (Node × Node)} {fields : List (Key × Value)}
    (ih : KeepsKeys fuel) (h : toFields (fuel + 1) entries = .ok fields) :
    ∀ f ∈ fields, f.2.DistinctKeys := by
  cases entries with
  | nil =>
    cases h
    simp
  | cons entry rest =>
    rw [toFields] at h
    obtain ⟨⟨f, fs⟩, hboth, h⟩ := Except.bind_eq_ok_iff.1 h
    cases h
    obtain ⟨hf, hfs⟩ := both_eq_ok_iff.1 hboth
    have hvalue := (both_eq_ok_iff.1 hf).2
    intro g hg
    obtain rfl | hg := List.mem_cons.1 hg
    · exact ih.value hvalue
    · exact ih.fields hfs g hg

theorem keepsKeys (fuel : Nat) : KeepsKeys fuel := by
  induction fuel with
  | zero => exact keepsKeys_zero
  | succ fuel ih => exact ⟨ih.value_succ, ih.collection_succ, ih.fields_succ⟩

theorem distinctKeys_read {cs : List Char} (h : read cs = .ok v) : v.DistinctKeys := by
  rw [read, readLined] at h
  split at h
  · cases h
  · obtain ⟨node, -, h⟩ := Except.bind_eq_ok_iff.1 h
    cases node with
    | none =>
      cases h
      exact .leaf rfl
    | some n =>
      dsimp only at h
      split at h
      · next hv =>
        cases h
        exact (keepsKeys _).value hv
      · cases h

end Yaml

end SiteModules
