import SiteModules.Proofs.Naming.Scope

namespace SiteModules.Naming

structure Unscoped (n : Naming) : Prop where
  kind_ne : n.kind ≠ ""
  kind : n.kind.toList.head? ≠ some '@'
  organization : n.organization.toList.head? ≠ some '@'

theorem unscoped_make {kind : String} (organization : String) (hne : kind ≠ "")
    (hk : kind.toList.head? ≠ some '@') : (make kind organization).Unscoped where
  kind_ne := hne
  kind := hk
  organization := by
    have h := List.head?_dropWhile_not (fun c : Char => decide (c = '@')) organization.toList
    intro heq
    simp only [make, dropAts, String.toList_ofList] at heq
    simp [heq] at h

theorem head?_append_ne {s t : String} {c : Char} (hs : s ≠ "") (h : s.toList.head? ≠ some c) :
    (s ++ t).toList.head? ≠ some c := by
  obtain ⟨d, ds, hd⟩ := List.exists_cons_of_ne_nil (mt String.toList_eq_nil_iff.1 hs)
  rw [hd] at h
  rw [String.toList_append, hd]
  exact h

theorem head?_typePrefix_append {n : Naming} {short : String} (hn : n.Unscoped) :
    (n.typePrefix ++ short).toList.head? ≠ some '@' := by
  rw [typePrefix, String.append_assoc]
  exact head?_append_ne hn.kind_ne hn.kind

theorem head?_fullPrefix_append {n : Naming} {short : String} (hn : n.Unscoped) :
    (n.fullPrefix ++ short).toList.head? ≠ some '@' := by
  rw [fullPrefix]
  split
  · exact head?_typePrefix_append hn
  · next horganization =>
    rw [String.append_assoc, String.append_assoc, String.append_assoc]
    exact head?_append_ne horganization hn.organization

theorem canonical_eq (n : Naming) (request : String) :
    n.canonical request =
      if (ScopedName.ofName request).org = "" then
        ⟨n.fullPrefix ++ n.shortcutOf request, n.shortcutOf request⟩
      else
        ⟨n.underScope (ScopedName.ofName request).org (n.shortcutOf request),
          n.shortcutOf request⟩ := rfl

theorem name_canonical (n : Naming) (request : String) :
    (n.canonical request).name =
      if (ScopedName.ofName request).org = "" then n.fullPrefix ++ n.shortcutOf request
      else n.underScope (ScopedName.ofName request).org (n.shortcutOf request) := by
  rw [canonical_eq]
  split <;> rfl

theorem canonical_congr (n : Naming) {a b : String}
    (horg : (ScopedName.ofName a).org = (ScopedName.ofName b).org)
    (hshort : n.shortcutOf a = n.shortcutOf b) : n.canonical a = n.canonical b := by
  rw [canonical_eq, canonical_eq, horg, hshort]

theorem candidates_eq (n : Naming) (request : String) :
    n.candidates request =
      ((if (ScopedName.ofName request).org = "" then []
          else [n.underScope (ScopedName.ofName request).org (n.shortcutOf request)]) ++
        (if n.organization = "" then [] else [n.fullPrefix ++ n.shortcutOf request]) ++
        [n.typePrefix ++ n.shortcutOf request, n.shortcutOf request]).eraseDups := rfl

theorem mem_candidates {n : Naming} {request c : String} : c ∈ n.candidates request ↔
    ((ScopedName.ofName request).org ≠ "" ∧
      c = n.underScope (ScopedName.ofName request).org (n.shortcutOf request)) ∨
    (n.organization ≠ "" ∧ c = n.fullPrefix ++ n.shortcutOf request) ∨
    c = n.typePrefix ++ n.shortcutOf request ∨ c = n.shortcutOf request := by
  rw [candidates_eq, List.mem_eraseDups]
  by_cases hscope : (ScopedName.ofName request).org = "" <;>
    by_cases horg : n.organization = "" <;> simp [hscope, horg]

theorem ne_empty_of_mem_candidates {n : Naming} {request c : String} (hne : request ≠ "")
    (hc : c ∈ n.candidates request) : c ≠ "" := by
  have hshort : n.shortcutOf request ≠ "" :=
    n.shortcut_ne_empty (ScopedName.name_ofName_ne_empty hne)
  have happend (start : String) : start ++ n.shortcutOf request ≠ "" := by
    simp [hshort]
  obtain ⟨-, rfl⟩ | ⟨-, rfl⟩ | rfl | rfl := mem_candidates.1 hc
  · exact happend _
  · exact happend _
  · exact happend _
  · exact hshort

theorem head?_candidates (n : Naming) (request : String) :
    (n.candidates request).head? = some (n.canonical request).name := by
  rw [candidates_eq, name_canonical]
  split
  · split
    · next horg => simp [List.eraseDups_cons, fullPrefix, horg]
    · simp [List.eraseDups_cons]
  · simp [List.eraseDups_cons]

theorem underScope_injective (n : Naming) {o o' : List Char} {short short' : String}
    (ho : '/' ∉ o) (ho' : '/' ∉ o')
    (h : n.underScope (String.ofList ('@' :: o)) short =
      n.underScope (String.ofList ('@' :: o')) short') : o = o' ∧ short = short' := by
  have hchars := congrArg String.toList h
  simp only [underScope, String.toList_append, String.toList_ofList, List.append_assoc,
    List.cons_append] at hchars
  have hcut := congrArg (Text.cut? '/') (List.cons.inj hchars).2
  change Text.cut? '/' (o ++ '/' :: (n.typePrefix.toList ++ short.toList)) =
    Text.cut? '/' (o' ++ '/' :: (n.typePrefix.toList ++ short'.toList)) at hcut
  rw [Text.cut?_append _ ho, Text.cut?_append _ ho'] at hcut
  obtain ⟨rfl, hrest⟩ := Prod.mk.inj (Option.some.inj hcut)
  exact ⟨rfl, String.toList_inj.1 (List.append_cancel_left hrest)⟩

theorem underScope_ne_fullPrefix {n : Naming} (hn : n.Unscoped) (o : List Char)
    (short short' : String) :
    n.underScope (String.ofList ('@' :: o)) short ≠ n.fullPrefix ++ short' := by
  intro h
  have hhead : (n.fullPrefix ++ short').toList.head? ≠ some '@' := head?_fullPrefix_append hn
  rw [← h] at hhead
  simp [underScope] at hhead

theorem canonical_injective {n : Naming} (hn : n.Unscoped) {a b : String}
    (h : (n.canonical a).name = (n.canonical b).name) :
    (ScopedName.ofName a).org = (ScopedName.ofName b).org ∧
      n.shortcutOf a = n.shortcutOf b := by
  rw [name_canonical, name_canonical] at h
  obtain ha | ⟨o, ha, hslash⟩ := ScopedName.org_ofName a <;>
    obtain hb | ⟨o', hb, hslash'⟩ := ScopedName.org_ofName b
  · rw [if_pos ha, if_pos hb] at h
    exact ⟨ha.trans hb.symm, (String.append_right_inj _).1 h⟩
  · rw [if_pos ha, hb, if_neg (by simp)] at h
    exact absurd h.symm (underScope_ne_fullPrefix hn o' _ _)
  · rw [if_pos hb, ha, if_neg (by simp)] at h
    exact absurd h (underScope_ne_fullPrefix hn o _ _)
  · rw [ha, hb, if_neg (by simp), if_neg (by simp)] at h
    obtain ⟨rfl, hshort⟩ := underScope_injective n hslash hslash' h
    exact ⟨ha.trans hb.symm, hshort⟩

theorem candidates_congr (n : Naming) {a b : String}
    (horg : (ScopedName.ofName a).org = (ScopedName.ofName b).org)
    (hshort : n.shortcutOf a = n.shortcutOf b) : n.candidates a = n.candidates b := by
  rw [candidates_eq, candidates_eq, horg, hshort]

theorem canonical_eq_iff_candidates_eq {n : Naming} (hn : n.Unscoped) {a b : String} :
    (n.canonical a).name = (n.canonical b).name ↔ n.candidates a = n.candidates b := by
  constructor
  · intro h
    obtain ⟨horg, hshort⟩ := canonical_injective hn h
    exact candidates_congr n horg hshort
  · intro h
    have hhead := congrArg List.head? h
    rw [head?_candidates, head?_candidates] at hhead
    exact Option.some.inj hhead

theorem candidates_eq_iff {n : Naming} (hn : n.Unscoped) {a b : String} :
    n.candidates a = n.candidates b ↔
      (ScopedName.ofName a).org = (ScopedName.ofName b).org ∧
        n.shortcutOf a = n.shortcutOf b := by
  constructor
  · intro h
    exact canonical_injective hn ((canonical_eq_iff_candidates_eq hn).2 h)
  · rintro ⟨horg, hshort⟩
    exact candidates_congr n horg hshort

end SiteModules.Naming
