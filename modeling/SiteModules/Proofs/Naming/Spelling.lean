import SiteModules.Proofs.Naming.Canonical

namespace SiteModules.Naming

variable {n : Naming} {short : String}

def spellings (n : Naming) (short : String) : List String :=
  [short, n.typePrefix ++ short, n.fullPrefix ++ short]

/-- The organization may stand in a name, and its prefix cannot be taken for that of the kind. -/
structure Separable (n : Naming) : Prop where
  organization : ∀ c ∈ n.organization.toList, c ≠ '/' ∧ c ≠ '\\' ∧ c ≠ '\x00'
  apart : n.organization = "" ∨ ¬n.typePrefix.toList <+: n.fullPrefix.toList

structure Bare (n : Naming) (short : String) : Prop where
  unscoped : (ScopedName.ofName short).org = ""
  whole : ∀ start ∈ [n.typePrefix, n.fullPrefix], ∀ rest,
    short.toList = start.toList ++ rest → rest = []

theorem fullPrefix_of_organization_eq (h : n.organization = "") : n.fullPrefix = n.typePrefix := by
  rw [fullPrefix, if_pos h]

theorem fullPrefix_ne_typePrefix (h : n.organization ≠ "") : n.fullPrefix ≠ n.typePrefix := by
  intro heq
  have hlength := congrArg String.length heq
  have hdash : "-".length = 1 := rfl
  simp only [fullPrefix, if_neg h, typePrefix, String.length_append, hdash] at hlength
  omega

theorem length_typePrefix_le (n : Naming) :
    n.typePrefix.toList.length ≤ n.fullPrefix.toList.length := by
  unfold fullPrefix
  split
  · exact Nat.le_refl _
  · simp only [typePrefix, String.toList_append, List.length_append]
    omega

theorem after?_append {start cs : List Char} (hne : cs ≠ []) :
    after? start (start ++ cs) = some cs :=
  after?_eq_some_iff.2 ⟨rfl, hne⟩

theorem bare_iff : n.Bare short ↔ (ScopedName.ofName short).org = "" ∧
    ∀ start ∈ [n.typePrefix, n.fullPrefix], after? start.toList short.toList = none := by
  simp only [after?_eq_none_iff]
  exact ⟨fun h => ⟨h.unscoped, h.whole⟩, fun h => ⟨h.1, h.2⟩⟩

instance (n : Naming) (short : String) : Decidable (n.Bare short) :=
  decidable_of_iff _ bare_iff.symm

theorem separable_iff : n.Separable ↔
    (n.organization.toList.all fun c => c != '/' && c != '\\' && c != '\x00') = true ∧
      (n.organization = "" ∨ ¬n.typePrefix.toList <+: n.fullPrefix.toList) := by
  have hall : (n.organization.toList.all fun c => c != '/' && c != '\\' && c != '\x00') = true ↔
      ∀ c ∈ n.organization.toList, c ≠ '/' ∧ c ≠ '\\' ∧ c ≠ '\x00' := by
    simp [and_assoc]
  rw [hall]
  exact ⟨fun h => ⟨h.organization, h.apart⟩, fun h => ⟨h.1, h.2⟩⟩

instance (n : Naming) : Decidable n.Separable := decidable_of_iff _ separable_iff.symm

def Whole (n : Naming) (name : String) : Prop :=
  ∀ start ∈ [n.typePrefix, n.fullPrefix], ∀ rest, name.toList = start.toList ++ rest → rest = []

theorem whole_iff : n.Whole short ↔ n.cut? short = none := by
  simp only [Whole, cut?, ← after?_eq_none_iff, List.forall_mem_cons, List.not_mem_nil,
    false_imp_iff, implies_true, and_true]
  cases after? n.fullPrefix.toList short.toList <;> simp

theorem shortcut_eq_self_iff : n.shortcut short = short ↔ n.Whole short := by
  rw [whole_iff, shortcut_eq]
  cases hcut : n.cut? short with
  | none => simp
  | some rest =>
    refine iff_of_false ?_ (by simp)
    intro heq
    have hlength := length_lt_of_cut? hcut
    rw [← congrArg String.toList heq] at hlength
    simp at hlength

theorem Bare.shortcut_eq (hbare : n.Bare short) : n.shortcut short = short :=
  shortcut_eq_self_iff.2 hbare.whole

theorem shortcut_fullPrefix_append (n : Naming) (hne : short ≠ "") :
    n.shortcut (n.fullPrefix ++ short) = short := by
  have hchars : short.toList ≠ [] := mt String.toList_eq_nil_iff.1 hne
  have hcut : n.cut? (n.fullPrefix ++ short) = some short.toList := by
    apply cut?_of_fullPrefix
    rw [String.toList_append]
    exact after?_append hchars
  rw [Naming.shortcut_eq, hcut]
  simp

theorem shortcut_typePrefix_append
    (h : n.organization = "" ∨ ¬n.typePrefix.toList <+: n.fullPrefix.toList) (hne : short ≠ "") :
    n.shortcut (n.typePrefix ++ short) = short := by
  have hchars : short.toList ≠ [] := mt String.toList_eq_nil_iff.1 hne
  obtain horganization | hapart := h
  · rw [← fullPrefix_of_organization_eq horganization]
    exact shortcut_fullPrefix_append n hne
  · have hfull : after? n.fullPrefix.toList (n.typePrefix ++ short).toList = none := by
      rw [Option.eq_none_iff_forall_ne_some]
      intro rest hrest
      obtain ⟨heq, -⟩ := after?_eq_some_iff.1 hrest
      -- The shorter of two beginnings of one text begins the longer.
      have htype : n.typePrefix.toList <+: (n.typePrefix ++ short).toList := by
        rw [String.toList_append]
        exact List.prefix_append _ _
      exact hapart (List.prefix_of_prefix_length_le htype ⟨rest, heq.symm⟩
        (length_typePrefix_le n))
    rw [Naming.shortcut_eq, cut?_of_typePrefix hfull, String.toList_append,
      after?_append hchars]
    simp

theorem of_fullPrefix_append (hn : n.Unscoped) (hne : short ≠ "") :
    (ScopedName.ofName (n.fullPrefix ++ short)).org = "" ∧
      n.shortcutOf (n.fullPrefix ++ short) = short := by
  rw [shortcutOf, ScopedName.ofName_of_head?_ne (head?_fullPrefix_append hn)]
  exact ⟨rfl, shortcut_fullPrefix_append n hne⟩

theorem of_mem_spellings (hscope : n.Unscoped) (hn : n.Separable) (hbare : n.Bare short)
    (hne : short ≠ "") {s : String} (hs : s ∈ n.spellings short) :
    (ScopedName.ofName s).org = "" ∧ n.shortcutOf s = short := by
  simp only [spellings, List.mem_cons, List.not_mem_nil, or_false] at hs
  obtain rfl | rfl | rfl := hs
  · rw [shortcutOf, ScopedName.ofName_of_org_eq hbare.unscoped]
    exact ⟨rfl, hbare.shortcut_eq⟩
  · rw [shortcutOf, ScopedName.ofName_of_head?_ne (head?_typePrefix_append hscope)]
    exact ⟨rfl, shortcut_typePrefix_append hn.apart hne⟩
  · exact of_fullPrefix_append hscope hne

end SiteModules.Naming
