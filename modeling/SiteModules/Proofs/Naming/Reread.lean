import SiteModules.ModuleKind
import SiteModules.Proofs.Naming.Parts
import SiteModules.Proofs.Naming.Spelling

namespace SiteModules.Naming

variable {n : Naming} {request : String}

theorem shortcutOf_ne_empty (n : Naming) (h : (ScopedName.ofName request).org ≠ "") :
    n.shortcutOf request ≠ "" := by
  obtain ⟨o, rest, -, hline, -⟩ := ScopedName.exists_scoped h
  exact n.shortcut_ne_empty hline.ne

theorem notMem_shortcutOf (n : Naming) (h : (ScopedName.ofName request).org ≠ "") :
    '\n' ∉ (n.shortcutOf request).toList := by
  intro hmem
  exact ScopedName.notMem_name_ofName h ((n.shortcut_isSuffix _).subset hmem)

theorem name_canonical_of_scope (h : (ScopedName.ofName request).org ≠ "") :
    (n.canonical request).name =
      (ScopedName.ofName request).org ++ "/" ++ (n.typePrefix ++ n.shortcutOf request) := by
  rw [name_canonical, if_neg h, underScope, String.append_assoc]

theorem ofName_canonical_of_scope (hkind : '\n' ∉ n.kind.toList)
    (h : (ScopedName.ofName request).org ≠ "") :
    ScopedName.ofName (n.canonical request).name =
      ⟨(ScopedName.ofName request).org, n.typePrefix ++ n.shortcutOf request⟩ := by
  rw [name_canonical_of_scope h]
  refine ScopedName.ofName_append h ?_ ?_
  · simp [n.shortcutOf_ne_empty h]
  · have hbegins : '\n' ∉ n.typePrefix.toList := notMem_typePrefix (by decide) hkind
    simp [hbegins, n.notMem_shortcutOf h]

theorem canonical_canonical_of_unscoped (hn : n.Unscoped) (hne : request ≠ "")
    (h : (ScopedName.ofName request).org = "") :
    n.canonical (n.canonical request).name = n.canonical request := by
  have hshort : n.shortcutOf request ≠ "" :=
    n.shortcut_ne_empty (ScopedName.name_ofName_ne_empty hne)
  obtain ⟨horg, hagain⟩ := of_fullPrefix_append hn hshort
  rw [name_canonical, if_pos h]
  exact canonical_congr n (horg.trans h.symm) hagain

theorem canonical_canonical_of_scope_iff (hkind : '\n' ∉ n.kind.toList)
    (h : (ScopedName.ofName request).org ≠ "") :
    n.canonical (n.canonical request).name = n.canonical request ↔
      n.shortcut (n.typePrefix ++ n.shortcutOf request) = n.shortcutOf request := by
  have hparts := ofName_canonical_of_scope hkind h
  have hshort : n.shortcutOf (n.canonical request).name =
      n.shortcut (n.typePrefix ++ n.shortcutOf request) := by
    rw [shortcutOf, hparts]
  constructor
  · intro heq
    have hagain := congrArg Canonical.shortcut heq
    rwa [shortcut_canonical, shortcut_canonical, hshort] at hagain
  · intro heq
    have horg : (ScopedName.ofName (n.canonical request).name).org =
        (ScopedName.ofName request).org := by rw [hparts]
    exact canonical_congr n horg (hshort.trans heq)

theorem exists_shortcut_ne (horganization : n.organization ≠ "")
    (hbegins : n.typePrefix.toList <+: n.fullPrefix.toList) (hfeed : '\n' ∉ n.fullPrefix.toList) :
    ∃ name ≠ "", '\n' ∉ name.toList ∧
      n.shortcut (n.typePrefix ++ n.shortcut name) ≠ n.shortcut name := by
  obtain ⟨cs, hcs⟩ := hbegins
  have hover : n.typePrefix ++ String.ofList cs = n.fullPrefix :=
    String.toList_inj.1 (by simpa using hcs)
  have hne : String.ofList cs ≠ "" := by
    intro hempty
    rw [hempty, String.append_empty] at hover
    exact fullPrefix_ne_typePrefix horganization hover.symm
  have hrest : '\n' ∉ cs := by
    intro hmem
    exact hfeed (hcs ▸ List.mem_append_right _ hmem)
  have hshort : n.shortcut (n.fullPrefix ++ (String.ofList cs ++ "a")) = String.ofList cs ++ "a" :=
    shortcut_fullPrefix_append n (by simp)
  refine ⟨n.fullPrefix ++ (String.ofList cs ++ "a"), by simp, by simp [hfeed, hrest], ?_⟩
  -- With the prefix of the kind in front, what is left begins with the full prefix again.
  rw [hshort, ← String.append_assoc, hover, shortcut_fullPrefix_append n (by decide)]
  intro heq
  have happend : "" ++ "a" = String.ofList cs ++ "a" := heq
  exact hne ((String.append_left_inj "a").1 happend).symm

theorem exists_canonical_ne (horganization : n.organization ≠ "")
    (hbegins : n.typePrefix.toList <+: n.fullPrefix.toList)
    (hkind : '\n' ∉ n.kind.toList) (hfeed : '\n' ∉ n.organization.toList) :
    ∃ request ≠ "", n.canonical (n.canonical request).name ≠ n.canonical request := by
  obtain ⟨name, hname, hline, hne⟩ :=
    exists_shortcut_ne horganization hbegins (notMem_fullPrefix (by decide) hkind hfeed)
  have hparts := (ScopedName.scoped_acme name hname).ofName_eq (.refl hname hline)
  refine ⟨"@acme/" ++ name, by simp, ?_⟩
  rw [Ne, canonical_canonical_of_scope_iff hkind (by simp [hparts]), shortcutOf, hparts]
  exact hne

/-- Every canonical name is a canonical name again, with the same short name. -/
def FixesCanonical (n : Naming) : Prop :=
  ∀ request ≠ "", n.canonical (n.canonical request).name = n.canonical request

theorem fixesCanonical_iff {kind organization : String} (hne : kind ≠ "")
    (hat : kind.toList.head? ≠ some '@') (hkind : '\n' ∉ kind.toList)
    (horganization : '\n' ∉ organization.toList) :
    (make kind organization).FixesCanonical ↔
      (make kind organization).organization = "" ∨
        ¬(make kind organization).typePrefix.toList <+:
          (make kind organization).fullPrefix.toList := by
  have hn := unscoped_make organization hne hat
  constructor
  · intro hfixed
    by_contra hover
    obtain ⟨hsome, hbegins⟩ := not_or.1 hover
    obtain ⟨request, hrequest, hmoved⟩ := exists_canonical_ne hsome (not_not.1 hbegins) hkind
      (notMem_organization_make horganization)
    exact hmoved (hfixed request hrequest)
  · intro hapart request hrequest
    by_cases hscope : (ScopedName.ofName request).org = ""
    · exact canonical_canonical_of_unscoped hn hrequest hscope
    · rw [canonical_canonical_of_scope_iff hkind hscope]
      exact shortcut_typePrefix_append hapart ((make kind organization).shortcutOf_ne_empty hscope)

theorem fixesCanonical_docsite :
    "theme" ≠ "" ∧ "theme".toList.head? ≠ some '@' ∧ '\n' ∉ "theme".toList ∧
    ('\n' ∉ "@docsite".toList ∧ (make "theme" "@docsite").FixesCanonical) ∧
    '\n' ∉ "theme-park".toList ∧ ¬(make "theme" "theme-park").FixesCanonical := by
  have hne : "theme" ≠ "" := by decide
  have hat : "theme".toList.head? ≠ some '@' := by decide
  have hkind : '\n' ∉ "theme".toList := by decide
  have hdocsite : '\n' ∉ "@docsite".toList := by decide
  have hpark : '\n' ∉ "theme-park".toList := by decide
  have hfixed := (fixesCanonical_iff hne hat hkind hdocsite).2 (by decide)
  have hmoved := mt (fixesCanonical_iff hne hat hkind hpark).1 (by decide)
  exact ⟨hne, hat, hkind, ⟨hdocsite, hfixed⟩, hpark, hmoved⟩

def shortened (n : Naming) (request : String) : String :=
  if (ScopedName.ofName request).org = "" then (n.canonical request).shortcut
  else (ScopedName.ofName request).org ++ "/" ++ (n.canonical request).shortcut

theorem ofName_shortened
    (h : (ScopedName.ofName request).org = "" →
      (ScopedName.ofName (n.shortcutOf request)).org = "") :
    ScopedName.ofName (n.shortened request) =
      ⟨(ScopedName.ofName request).org, n.shortcutOf request⟩ := by
  rw [shortened, shortcut_canonical]
  split
  · next hscope => rw [ScopedName.ofName_of_org_eq (h hscope), hscope]
  · next hscope =>
    exact ScopedName.ofName_append hscope (n.shortcutOf_ne_empty hscope)
      (n.notMem_shortcutOf hscope)

theorem candidates_shortened_iff (k : ModuleKind) (organization request : String) :
    (make k.name organization).candidates ((make k.name organization).shortened request) =
        (make k.name organization).candidates request ↔
      ((ScopedName.ofName request).org = "" →
        (ScopedName.ofName ((make k.name organization).shortcutOf request)).org = "") ∧
      (make k.name organization).Whole ((make k.name organization).shortcutOf request) := by
  have hn := unscoped_make organization k.name_ne_empty k.head?_name_ne
  rw [candidates_eq_iff hn, ← shortcut_eq_self_iff]
  constructor
  · rintro ⟨horg, hshort⟩
    have hscope : (ScopedName.ofName request).org = "" →
        (ScopedName.ofName ((make k.name organization).shortcutOf request)).org = "" := by
      intro h
      rw [shortened, if_pos h, shortcut_canonical] at horg
      exact horg.trans h
    rw [shortcutOf, ofName_shortened hscope] at hshort
    exact ⟨hscope, hshort⟩
  · rintro ⟨hscope, hwhole⟩
    rw [shortcutOf, ofName_shortened hscope]
    exact ⟨rfl, hwhole⟩

/-- A second prefix is cut off too, and a scope behind the prefix becomes one. -/
theorem candidates_shortened_ne :
    (make "theme" "docsite").shortened "theme-theme-dark" = "theme-dark" ∧
    (make "theme" "docsite").candidates "theme-dark" ≠
      (make "theme" "docsite").candidates "theme-theme-dark" ∧
    (make "theme" "docsite").shortened "theme-@acme/dark" = "@acme/dark" ∧
    (make "theme" "docsite").candidates "@acme/dark" ≠
      (make "theme" "docsite").candidates "theme-@acme/dark" := by decide

end SiteModules.Naming
