import SiteModules.Text.Split

namespace SiteModules.Text

variable {sep : Char}

theorem split_cons_of_ne {c : Char} {cs p : List Char} {ps : List (List Char)} (hc : c ≠ sep)
    (h : split sep cs = p :: ps) : split sep (c :: cs) = (c :: p) :: ps := by
  simp only [split, if_neg hc, h]

theorem exists_split_eq (sep : Char) (cs : List Char) : ∃ p ps, split sep cs = p :: ps := by
  cases h : split sep cs with
  | nil => exact absurd h (split_ne_nil sep cs)
  | cons p ps => exact ⟨p, ps, rfl⟩

theorem split_eq_splitOn (sep : Char) (cs : List Char) : split sep cs = cs.splitOn sep := by
  induction cs with
  | nil => rfl
  | cons c cs ih =>
    obtain ⟨p, ps, hs⟩ := exists_split_eq sep cs
    rw [List.splitOn_eq_splitOnP, List.splitOnP_cons_eq_if_modifyHead, ← List.splitOn_eq_splitOnP,
      ← ih, hs]
    by_cases hc : c = sep
    · rw [hc, split_sep, hs, beq_self_eq_true, if_pos rfl]
    · rw [split_cons_of_ne hc hs, if_neg (by simpa using hc), List.modifyHead_cons]

theorem join_eq_intercalate (sep : Char) (xs : List (List Char)) :
    join sep xs = [sep].intercalate xs := by
  induction xs with
  | nil => rfl
  | cons x xs ih =>
    cases xs with
    | nil => simp [join]
    | cons y ys =>
      rw [join, ih, List.intercalate_cons_cons, List.append_assoc, List.singleton_append]

theorem split_append_left {p t q : List Char} {qs : List (List Char)} (hp : sep ∉ p)
    (h : split sep t = q :: qs) : split sep (p ++ t) = (p ++ q) :: qs := by
  induction p with
  | nil => exact h
  | cons c cs ih =>
    obtain ⟨hc, hcs⟩ := not_or.1 (mt List.mem_cons.2 hp)
    exact split_cons_of_ne (Ne.symm hc) (ih hcs)

theorem split_of_notMem {p : List Char} (hp : sep ∉ p) : split sep p = [p] := by
  have h := split_append_left hp (split_nil sep)
  simpa using h

theorem split_append_sep {p : List Char} (t : List Char) (hp : sep ∉ p) :
    split sep (p ++ sep :: t) = p :: split sep t := by
  have h := split_append_left hp (split_sep sep t)
  simpa using h

theorem split_append_right {t : List Char} (cs : List Char) (ht : sep ∉ t) :
    split sep (cs ++ t) =
      (split sep cs).dropLast ++ [(split sep cs).getLast (split_ne_nil sep cs) ++ t] := by
  induction cs with
  | nil => simp [split_of_notMem ht]
  | cons c cs ih =>
    obtain ⟨p, ps, hs⟩ := exists_split_eq sep cs
    by_cases hc : c = sep
    · subst hc
      simp only [List.cons_append, split_sep, ih, hs]
      simp
    · have hcs := split_cons_of_ne hc hs
      obtain ⟨q, qs, hq⟩ := exists_split_eq sep (cs ++ t)
      rw [List.cons_append, split_cons_of_ne hc hq]
      rw [hq] at ih
      simp only [hs, hcs] at ih ⊢
      cases ps with
      | nil => simp_all
      | cons p' ps' => simp_all

theorem split_append_cons (sep : Char) (cs ds : List Char) :
    split sep (cs ++ sep :: ds) = split sep cs ++ split sep ds := by
  induction cs with
  | nil => simp
  | cons c cs ih =>
    obtain ⟨p, ps, hs⟩ := exists_split_eq sep cs
    by_cases hc : c = sep
    · rw [List.cons_append, hc, split_sep, split_sep, ih, List.cons_append]
    · rw [hs, List.cons_append] at ih
      rw [List.cons_append, split_cons_of_ne hc ih, split_cons_of_ne hc hs, List.cons_append]

theorem doubled_append_iff {cs ds : List Char} :
    [sep, sep] <:+: cs ++ ds ↔
      [sep, sep] <:+: cs ∨ [sep, sep] <:+: ds ∨ ([sep] <:+ cs ∧ [sep] <+: ds) := by
  rw [List.infix_append_iff]
  constructor
  · rintro (hcs | hds | ⟨l, r, hsplit, hl, hr⟩)
    · exact .inl hcs
    · exact .inr (.inl hds)
    · match l with
      | [] =>
        obtain rfl : [sep, sep] = r := hsplit
        exact .inr (.inl hr.isInfix)
      | [a] =>
        obtain ⟨rfl, rfl⟩ : sep = a ∧ [sep] = r := by simpa using hsplit
        exact .inr (.inr ⟨hl, hr⟩)
      | a :: b :: rest =>
        obtain ⟨rfl, rfl, rfl, -⟩ : sep = a ∧ sep = b ∧ rest = [] ∧ r = [] := by
          simpa using hsplit
        exact .inl hl.isInfix
  · rintro (hcs | hds | ⟨hcs, hds⟩)
    · exact .inl hcs
    · exact .inr (.inl hds)
    · exact .inr (.inr ⟨[sep], [sep], rfl, hcs, hds⟩)

theorem nil_mem_interior_iff {cs : List Char} :
    [] ∈ ((split sep cs).drop 1).dropLast ↔ [sep, sep] <:+: cs := by
  induction cs with
  | nil => simp
  | cons c cs ih =>
    rw [List.infix_cons_iff]
    by_cases hc : c = sep
    · subst hc
      rw [split_sep, List.drop_one, List.tail_cons, ← ih, List.cons_prefix_cons]
      cases cs with
      | nil => simp
      | cons d cs =>
        obtain ⟨p, ps, hs⟩ := exists_split_eq c cs
        by_cases hd : d = c
        · simp [hd, hs]
        · rw [split_cons_of_ne hd hs]
          cases ps <;> simp [Ne.symm hd]
    · obtain ⟨p, ps, hs⟩ := exists_split_eq sep cs
      rw [hs] at ih
      rw [split_cons_of_ne hc hs]
      simpa [Ne.symm hc] using ih

theorem nil_mem_rest_iff {cs : List Char} :
    [] ∈ (split sep cs).drop 1 ↔ [sep] <:+ cs ∨ [sep, sep] <:+: cs := by
  induction cs with
  | nil => simp
  | cons c cs ih =>
    obtain ⟨p, ps, hs⟩ := exists_split_eq sep cs
    rw [hs] at ih
    rw [List.infix_cons_iff, List.suffix_cons_iff]
    by_cases hc : c = sep
    · subst hc
      cases cs with
      | nil => simp
      | cons d cs =>
        rw [split_sep, List.drop_one, List.tail_cons, hs, List.mem_cons, List.cons_prefix_cons]
        rw [List.drop_one, List.tail_cons] at ih
        by_cases hd : d = c
        · rw [hd, split_sep] at hs
          obtain ⟨rfl, -⟩ := List.cons.inj hs
          simp [hd]
        · obtain ⟨q, qs, hq⟩ := exists_split_eq c cs
          rw [split_cons_of_ne hd hq] at hs
          obtain ⟨rfl, -⟩ := List.cons.inj hs
          simp [Ne.symm hd, ih]
    · rw [split_cons_of_ne hc hs]
      simpa [Ne.symm hc] using ih

theorem mem_of_mem_split {cs seg : List Char} {c : Char} (hseg : seg ∈ split sep cs)
    (hc : c ∈ seg) : c ∈ cs := by
  induction cs generalizing seg with
  | nil => simp_all
  | cons d cs ih =>
    obtain ⟨p, ps, hs⟩ := exists_split_eq sep cs
    rw [hs] at ih
    by_cases hd : d = sep
    · rw [hd, split_sep, hs, List.mem_cons] at hseg
      obtain rfl | hseg := hseg
      · cases hc
      · exact List.mem_cons_of_mem _ (ih hseg hc)
    · rw [split_cons_of_ne hd hs, List.mem_cons] at hseg
      obtain rfl | hseg := hseg
      · obtain rfl | hc := List.mem_cons.1 hc
        · exact List.mem_cons_self
        · exact List.mem_cons_of_mem _ (ih List.mem_cons_self hc)
      · exact List.mem_cons_of_mem _ (ih (List.mem_cons_of_mem _ hseg) hc)

theorem cut?_eq_none_iff {cs : List Char} : cut? sep cs = none ↔ sep ∉ cs := by
  induction cs with
  | nil => simp [cut?]
  | cons c cs ih =>
    by_cases hc : c = sep
    · simp [cut?, hc]
    · simp [cut?, hc, ih, Ne.symm hc]

theorem cut?_append {a : List Char} (b : List Char) (ha : sep ∉ a) :
    cut? sep (a ++ sep :: b) = some (a, b) := by
  induction a with
  | nil => simp [cut?]
  | cons c cs ih =>
    obtain ⟨hc, hcs⟩ := not_or.1 (mt List.mem_cons.2 ha)
    simp [cut?, Ne.symm hc, ih hcs]

theorem cut?_eq_some_iff {cs a b : List Char} :
    cut? sep cs = some (a, b) ↔ sep ∉ a ∧ cs = a ++ sep :: b := by
  constructor
  · intro h
    induction cs generalizing a with
    | nil => simp [cut?] at h
    | cons c cs ih =>
      by_cases hc : c = sep
      · obtain ⟨rfl, rfl⟩ : [] = a ∧ cs = b := by simpa [cut?, hc] using h
        simp [hc]
      · simp only [cut?, if_neg hc] at h
        obtain ⟨⟨a', b'⟩, hcut, heq⟩ := Option.map_eq_some_iff.1 h
        cases heq
        obtain ⟨ha, rfl⟩ := ih hcut
        simp [ha, Ne.symm hc]
  · rintro ⟨ha, rfl⟩
    exact cut?_append b ha

end SiteModules.Text
