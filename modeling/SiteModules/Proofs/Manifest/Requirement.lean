import SiteModules.Manifest

namespace SiteModules

namespace Text

variable {before cs : List Char}

theorem lowerChar_ne_nil (c : Char) : lowerChar c ≠ [] := by
  unfold lowerChar
  split
  · simp
  · split
    · simp
    · split <;> simp

theorem lowerFrom_ne_nil (before : List Char) (h : cs ≠ []) : lowerFrom before cs ≠ [] := by
  cases cs with
  | nil => exact absurd rfl h
  | cons c cs =>
    rw [lowerFrom]
    split
    · simp
    · simp [lowerChar_ne_nil]

theorem length_lowerFrom_append (before before' cs ds : List Char) :
    (lowerFrom before (cs ++ ds)).length =
      (lowerFrom before' cs).length + (lowerFrom (cs.reverse ++ before) ds).length := by
  induction cs generalizing before before' with
  | nil => simp [lowerFrom]
  | cons c cs ih =>
    rw [List.cons_append, lowerFrom, lowerFrom, List.length_append, List.length_append,
      ih (c :: before) (c :: before'), List.reverse_cons, List.append_assoc]
    -- Of the two forms of a small sigma each is one letter.
    split <;> simp [Nat.add_assoc]

theorem lower_append_eq_self_iff (cs ds : List Char) :
    lower (cs ++ ds) = lower cs ↔ ds = [] := by
  constructor
  · intro hsame
    have hlength := congrArg List.length hsame
    rw [lower, lower, length_lowerFrom_append [] []] at hlength
    apply Classical.byContradiction
    intro hds
    have hpos := List.length_pos_iff.2 (lowerFrom_ne_nil (cs.reverse ++ []) hds)
    omega
  · rintro rfl
    rw [List.append_nil]

theorem isBlank_eq_false {c : Char} (hlow : 0x21 ≤ c.toNat) (hhigh : c.toNat < 0x85) :
    isBlank c = false := by
  simp [isBlank, CharClass.contains, blankChars, CharClass.holdsAt]
  omega

theorem trimStart_append (cs : List Char) (h : ∀ c ∈ before, isBlank c = true) :
    trimStart (before ++ cs) = trimStart cs := List.dropWhile_append_of_pos h

theorem trimStart_cons {c : Char} (cs : List Char) (hc : isBlank c = false) :
    trimStart (c :: cs) = c :: cs := by simp [trimStart, hc]

end Text

namespace Manifest

open Text (isBlank)

variable {w n t : List Char} {c : Char}

def IsUnscoped (n : List Char) : Prop :=
  ∃ c rest, n = c :: rest ∧ isNameStart c = true ∧ ∀ d ∈ rest, isNameChar d = true

def IsScoped (n : List Char) : Prop :=
  ∃ rest, n = '@' :: rest ∧ ∀ c ∈ rest, (!isBlank c) = true

def IsTail (t : List Char) : Prop :=
  ∀ c ∈ t.head?, isBlank c = true ∨ c ∈ ['[', '(', '<', '>', '=', '!', '~', ';', ',']

/-- A scoped name is not seen behind white space, and what follows it at once counts as the name. -/
def Hides (w n t : List Char) : Prop :=
  PackageName.isScoped n = true ∧ (w ≠ [] ∨ ∃ c ∈ t.head?, isBlank c = false)

theorem range_of_isNameStart (hc : isNameStart c = true) : 0x21 ≤ c.toNat ∧ c.toNat < 0x85 := by
  simp only [isNameStart, Char.isValue, Char.le_def, Char.reduceVal, UInt32.le_iff_toNat_le,
    UInt32.reduceToNat, Char.toNat_val, Bool.or_eq_true, Bool.and_eq_true, decide_eq_true_eq] at hc
  omega

theorem isBlank_of_isNameChar (hc : isNameChar c = true) : isBlank c = false := by
  simp only [isNameChar, PackageName.isSeparator, Bool.or_eq_true, decide_eq_true_eq] at hc
  obtain hstart | (rfl | rfl) | rfl := hc
  · obtain ⟨hlow, hhigh⟩ := range_of_isNameStart hstart
    exact Text.isBlank_eq_false hlow hhigh
  · rfl
  · rfl
  · rfl

theorem isNameChar_of_isNameStart (hc : isNameStart c = true) : isNameChar c = true := by
  simp [isNameChar, hc]

theorem IsTail.takeWhile_append {rest : List Char} (ht : IsTail t)
    (hrest : ∀ d ∈ rest, isNameChar d = true) : (rest ++ t).takeWhile isNameChar = rest := by
  rw [List.takeWhile_append_of_pos hrest]
  cases t with
  | nil => simp
  | cons c t =>
    have hmarks : ∀ c ∈ ['[', '(', '<', '>', '=', '!', '~', ';', ','], (!isNameChar c) = true :=
      List.all_eq_true.1 rfl
    have hc : ¬isNameChar c = true := by
      intro hname
      obtain hblank | hmark := ht c rfl
      · cases (isBlank_of_isNameChar hname).symm.trans hblank
      · simpa [hname] using hmarks c hmark
    rw [List.takeWhile_cons_of_neg hc, List.append_nil]

theorem isScoped_append_eq_false {cs : List Char} (hw : ∀ c ∈ w, isBlank c = true)
    (h : w ≠ [] ∨ PackageName.isScoped cs = false) : PackageName.isScoped (w ++ cs) = false := by
  cases w with
  | nil => exact h.resolve_left fun hne => hne rfl
  | cons c w =>
    have hc : c ≠ '@' := by
      rintro rfl
      cases hw '@' List.mem_cons_self
    simp [PackageName.isScoped, hc]

theorem IsUnscoped.isScoped_append_eq_false (hn : IsUnscoped n) (t : List Char) :
    PackageName.isScoped (n ++ t) = false := by
  obtain ⟨c, rest, rfl, hc, -⟩ := hn
  have hat : c ≠ '@' := by
    rintro rfl
    cases hc
  simp [PackageName.isScoped, hat]

theorem requirementName?_of_isUnscoped (hw : ∀ c ∈ w, isBlank c = true) (hn : IsUnscoped n)
    (ht : IsTail t) : requirementName? (w ++ n ++ t) = some n := by
  have hscoped := isScoped_append_eq_false hw (.inr (hn.isScoped_append_eq_false t))
  obtain ⟨c, rest, rfl, hc, hrest⟩ := hn
  have hblank := isBlank_of_isNameChar (isNameChar_of_isNameStart hc)
  rw [List.append_assoc, requirementName?, hscoped, if_neg Bool.false_ne_true, List.cons_append,
    Text.trimStart_append _ hw, Text.trimStart_cons _ hblank]
  simp only [hc, if_true, ht.takeWhile_append hrest]

theorem requirementName?_of_isScoped (hn : IsScoped n) (t : List Char) :
    requirementName? (n ++ t) = some (n ++ t.takeWhile (!isBlank ·)) := by
  obtain ⟨rest, rfl, hrest⟩ := hn
  have hword : ∀ c ∈ '@' :: rest, (!isBlank c) = true := by
    intro c hc
    obtain rfl | hc := List.mem_cons.1 hc
    · rfl
    · exact hrest c hc
  have hscoped : PackageName.isScoped ('@' :: rest ++ t) = true := rfl
  have htrim : Text.trimStart ('@' :: rest ++ t) = '@' :: rest ++ t :=
    Text.trimStart_cons (rest ++ t) rfl
  rw [requirementName?, hscoped, if_pos rfl, Text.firstWord?, htrim,
    List.takeWhile_append_of_pos hword]
  rfl

theorem requirementName?_of_blank (hw : ∀ c ∈ w, isBlank c = true) (hne : w ≠ [])
    (hn : IsScoped n) (t : List Char) : requirementName? (w ++ n ++ t) = none := by
  obtain ⟨rest, rfl, -⟩ := hn
  rw [List.append_assoc, List.cons_append, requirementName?,
    isScoped_append_eq_false hw (.inl hne), if_neg Bool.false_ne_true,
    Text.trimStart_append _ hw, Text.trimStart_cons _ rfl]
  rfl

theorem requirementName?_self (hn : IsUnscoped n ∨ IsScoped n) : requirementName? n = some n := by
  obtain hn | hn := hn
  · simpa using requirementName?_of_isUnscoped (w := []) (t := []) (by simp) hn (by simp [IsTail])
  · simpa using requirementName?_of_isScoped hn []

def Declares (requirement : List Char) (q : String) : Prop :=
  ∃ n, requirementName? requirement = some n ∧
    PackageName.normalize (String.ofList n) = PackageName.normalize q

theorem IsScoped.normalize_append_eq_iff (hn : IsScoped n) :
    PackageName.normalize (String.ofList (n ++ t)) = PackageName.normalize (String.ofList n) ↔
      t = [] := by
  obtain ⟨rest, rfl, -⟩ := hn
  rw [← Text.lower_append_eq_self_iff ('@' :: rest), PackageName.normalize,
    PackageName.normalize, ← String.toList_inj]
  simp only [String.toList_ofList]
  rfl

theorem not_hides_of_isUnscoped (hn : IsUnscoped n) : ¬Hides w n t := by
  rintro ⟨hscoped, -⟩
  have hunscoped := hn.isScoped_append_eq_false []
  rw [List.append_nil] at hunscoped
  cases hunscoped.symm.trans hscoped

theorem hides_iff_of_isScoped (hn : IsScoped n) :
    Hides w n t ↔ w ≠ [] ∨ t.takeWhile (!isBlank ·) ≠ [] := by
  obtain ⟨rest, rfl, -⟩ := hn
  have htail : (∃ c ∈ t.head?, isBlank c = false) ↔ t.takeWhile (!isBlank ·) ≠ [] := by
    cases t with
    | nil => simp
    | cons c t => cases hc : isBlank c <;> simp [hc]
  rw [← htail]
  exact and_iff_right rfl

theorem declares_iff (hw : ∀ c ∈ w, isBlank c = true) (hn : IsUnscoped n ∨ IsScoped n)
    (ht : IsTail t) : Declares (w ++ n ++ t) (String.ofList n) ↔ ¬Hides w n t := by
  obtain hn | hn := hn
  · exact iff_of_true ⟨n, requirementName?_of_isUnscoped hw hn ht, rfl⟩
      (not_hides_of_isUnscoped hn)
  · -- Behind nothing the word found is the name and the rest of the tail's first word.
    rw [hides_iff_of_isScoped hn, not_or, Classical.not_not, Classical.not_not, Declares]
    by_cases hne : w = []
    · rw [hne, List.nil_append, requirementName?_of_isScoped hn]
      simp only [Option.some.injEq, exists_eq_left', hn.normalize_append_eq_iff, true_and]
    · rw [requirementName?_of_blank hw hne hn]
      simp [hne]

end Manifest

end SiteModules
