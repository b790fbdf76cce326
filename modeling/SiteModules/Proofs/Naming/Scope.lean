import Mathlib.Data.List.Basic
import SiteModules.Naming
import SiteModules.Proofs.Text.Split

namespace SiteModules

namespace ScopedName

theorem onlyLine?_eq_some_iff {cs line : List Char} :
    onlyLine? cs = some line ↔ '\n' ∉ line ∧ (cs = line ∨ cs = line ++ ['\n']) := by
  unfold onlyLine?
  split
  · next h =>
    rw [Text.cut?_eq_none_iff] at h
    constructor
    · intro heq
      cases heq
      exact ⟨h, .inl rfl⟩
    · rintro ⟨-, rfl | rfl⟩
      · rfl
      · simp at h
  · next first h =>
    obtain ⟨hfirst, rfl⟩ := Text.cut?_eq_some_iff.1 h
    constructor
    · intro heq
      cases heq
      exact ⟨hfirst, .inr rfl⟩
    · rintro ⟨hline, rfl | heq⟩
      · simp at hline
      · rw [List.append_cancel_right heq]
  · next first c rest h =>
    obtain ⟨-, rfl⟩ := Text.cut?_eq_some_iff.1 h
    constructor
    · intro heq
      cases heq
    · rintro ⟨hline, rfl | heq⟩
      · simp at hline
      · -- A second line would put a line feed into the first.
        have hdrop := congrArg List.dropLast heq
        rw [List.dropLast_append_of_ne_nil (by simp), List.dropLast_concat] at hdrop
        rw [← hdrop] at hline
        simp at hline

theorem split?_eq_some_iff {cs org name : List Char} :
    split? cs = some (org, name) ↔ ∃ o rest, cs = '@' :: (o ++ '/' :: rest) ∧ org = '@' :: o ∧
      o ≠ [] ∧ '/' ∉ o ∧ onlyLine? rest = some name ∧ name ≠ [] := by
  constructor
  · intro h
    unfold split? at h
    split at h
    · next cs =>
      simp only [Option.bind_eq_bind, Option.bind_eq_some_iff] at h
      obtain ⟨⟨o, rest⟩, hcut, line, hline, h⟩ := h
      obtain ⟨ho, rfl⟩ := Text.cut?_eq_some_iff.1 hcut
      split at h
      · cases h
      · next hne =>
        cases h
        obtain ⟨hne, hname⟩ := not_or.1 hne
        exact ⟨o, rest, rfl, rfl, hne, ho, hline, hname⟩
    · cases h
  · rintro ⟨o, rest, rfl, rfl, ho, hslash, hline, hname⟩
    simp [split?, Text.cut?_append rest hslash, hline, ho, hname]

theorem ofName_of_split?_eq_none {s : String} (h : split? s.toList = none) :
    ofName s = ⟨"", s⟩ := by
  simp [ofName, ofChars, h]

theorem ofName_of_split?_eq_some {s : String} {org name : List Char}
    (h : split? s.toList = some (org, name)) :
    ofName s = ⟨String.ofList org, String.ofList name⟩ := by
  simp [ofName, ofChars, h]

theorem org_ofName (s : String) :
    (ofName s).org = "" ∨ ∃ o, (ofName s).org = String.ofList ('@' :: o) ∧ '/' ∉ o := by
  cases h : split? s.toList with
  | none => exact .inl (by rw [ofName_of_split?_eq_none h])
  | some p =>
    obtain ⟨org, name⟩ := p
    rw [ofName_of_split?_eq_some h]
    obtain ⟨o, -, -, rfl, -, ho, -, -⟩ := split?_eq_some_iff.1 h
    exact .inr ⟨o, rfl, ho⟩

theorem ofName_of_head?_ne {s : String} (h : s.toList.head? ≠ some '@') : ofName s = ⟨"", s⟩ := by
  apply ofName_of_split?_eq_none
  cases hsplit : split? s.toList with
  | none => rfl
  | some p =>
    obtain ⟨org, name⟩ := p
    obtain ⟨o, rest, hchars, -⟩ := split?_eq_some_iff.1 hsplit
    rw [hchars] at h
    exact absurd rfl h

theorem ofName_of_org_eq {s : String} (h : (ofName s).org = "") : ofName s = ⟨"", s⟩ := by
  cases hsplit : split? s.toList with
  | none => exact ofName_of_split?_eq_none hsplit
  | some p =>
    obtain ⟨org, name⟩ := p
    obtain ⟨o, rest, -, rfl, -⟩ := split?_eq_some_iff.1 hsplit
    rw [ofName_of_split?_eq_some hsplit] at h
    simp at h

theorem name_ofName_ne_empty {s : String} (hne : s ≠ "") : (ofName s).name ≠ "" := by
  cases h : split? s.toList with
  | none =>
    rw [ofName_of_split?_eq_none h]
    exact hne
  | some p =>
    obtain ⟨org, name⟩ := p
    rw [ofName_of_split?_eq_some h]
    obtain ⟨-, -, -, -, -, -, -, hname⟩ := split?_eq_some_iff.1 h
    exact mt String.ofList_eq_empty_iff.1 hname

end ScopedName

namespace Naming

theorem notMem_typePrefix {n : Naming} {c : Char} (hdash : c ≠ '-') (hkind : c ∉ n.kind.toList) :
    c ∉ n.typePrefix.toList := by
  simp [typePrefix, hdash, hkind]

theorem notMem_fullPrefix {n : Naming} {c : Char} (hdash : c ≠ '-') (hkind : c ∉ n.kind.toList)
    (horganization : c ∉ n.organization.toList) : c ∉ n.fullPrefix.toList := by
  unfold fullPrefix
  split
  · exact notMem_typePrefix hdash hkind
  · simp [hdash, hkind, horganization]

theorem notMem_organization_make {kind organization : String} {c : Char}
    (h : c ∉ organization.toList) : c ∉ (make kind organization).organization.toList := by
  intro hmem
  simp only [make, dropAts, String.toList_ofList] at hmem
  exact h (List.dropWhile_subset _ hmem)

theorem dash_mem_typePrefix (n : Naming) : '-' ∈ n.typePrefix.toList := by simp [typePrefix]

theorem dash_mem_fullPrefix (n : Naming) : '-' ∈ n.fullPrefix.toList := by
  unfold fullPrefix
  split <;> simp [typePrefix]

theorem dash_mem_of_mem {n : Naming} {start : String} (h : start ∈ [n.fullPrefix, n.typePrefix]) :
    '-' ∈ start.toList := by
  obtain rfl | rfl : start = n.fullPrefix ∨ start = n.typePrefix := by simpa using h
  · exact n.dash_mem_fullPrefix
  · exact n.dash_mem_typePrefix

theorem after?_eq_some_iff {start cs rest : List Char} :
    after? start cs = some rest ↔ cs = start ++ rest ∧ rest ≠ [] := by
  unfold after?
  split
  · next c tail h =>
    obtain rfl := List.isPrefixOf?_eq_some_iff_append_eq.1 h
    constructor
    · intro heq
      cases heq
      simp
    · rintro ⟨heq, -⟩
      rw [List.append_cancel_left heq]
  · next hnone =>
    constructor
    · intro h
      cases h
    · rintro ⟨rfl, hne⟩
      obtain ⟨c, tail, rfl⟩ := List.exists_cons_of_ne_nil hne
      exact absurd (List.isPrefixOf?_eq_some_iff_append_eq.2 rfl) (hnone c tail)

theorem after?_eq_none_iff {start cs : List Char} :
    after? start cs = none ↔ ∀ rest, cs = start ++ rest → rest = [] := by
  simp only [Option.eq_none_iff_forall_ne_some, ne_eq, after?_eq_some_iff, not_and, not_not]

def cut? (n : Naming) (name : String) : Option (List Char) :=
  (after? n.fullPrefix.toList name.toList).orElse fun _ => after? n.typePrefix.toList name.toList

theorem shortcut_eq (n : Naming) (name : String) :
    n.shortcut name = String.ofList ((n.cut? name).getD name.toList) := rfl

theorem cut?_of_fullPrefix {n : Naming} {name : String} {rest : List Char}
    (h : after? n.fullPrefix.toList name.toList = some rest) : n.cut? name = some rest := by
  simp [cut?, h]

theorem cut?_of_typePrefix {n : Naming} {name : String}
    (h : after? n.fullPrefix.toList name.toList = none) :
    n.cut? name = after? n.typePrefix.toList name.toList := by
  simp [cut?, h]

theorem exists_after?_of_cut? {n : Naming} {name : String} {rest : List Char}
    (h : n.cut? name = some rest) :
    ∃ start ∈ [n.fullPrefix, n.typePrefix], after? start.toList name.toList = some rest := by
  cases hfull : after? n.fullPrefix.toList name.toList with
  | some rest' =>
    rw [cut?_of_fullPrefix hfull] at h
    exact ⟨n.fullPrefix, by simp, hfull.trans h⟩
  | none =>
    rw [cut?_of_typePrefix hfull] at h
    exact ⟨n.typePrefix, by simp, h⟩

theorem length_lt_of_cut? {n : Naming} {name : String} {rest : List Char}
    (h : n.cut? name = some rest) : rest.length < name.toList.length := by
  obtain ⟨start, hstart, hafter⟩ := exists_after?_of_cut? h
  have hpos := List.length_pos_of_mem (dash_mem_of_mem hstart)
  rw [(after?_eq_some_iff.1 hafter).1, List.length_append]
  omega

theorem shortcut_ne_empty (n : Naming) {name : String} (hne : name ≠ "") :
    n.shortcut name ≠ "" := by
  rw [shortcut_eq, Ne, String.ofList_eq_empty_iff]
  cases hcut : n.cut? name with
  | none => exact mt String.toList_eq_nil_iff.1 hne
  | some rest =>
    obtain ⟨start, -, hafter⟩ := exists_after?_of_cut? hcut
    exact (after?_eq_some_iff.1 hafter).2

theorem shortcut_isSuffix (n : Naming) (name : String) :
    (n.shortcut name).toList <:+ name.toList := by
  rw [shortcut_eq, String.toList_ofList]
  cases hcut : n.cut? name with
  | none => exact List.suffix_refl _
  | some rest =>
    obtain ⟨start, -, hstart⟩ := exists_after?_of_cut? hcut
    exact ⟨start.toList, (after?_eq_some_iff.1 hstart).1.symm⟩

end Naming

end SiteModules
