import Mathlib
import SiteModules.Manifest
import SiteModules.Proofs.Path.Written

namespace SiteModules

namespace Text

variable {cs : List Char} {c : Char}

def IsAscii (cs : List Char) : Prop := ∀ c ∈ cs, c.toNat < 0x80

theorem lowerFrom_of_isAscii (before : List Char) (hcs : IsAscii cs) :
    lowerFrom before cs = cs.map Char.toLower := by
  induction cs generalizing before with
  | nil => rfl
  | cons c cs ih =>
    obtain ⟨hc, hcs⟩ := List.forall_mem_cons.1 hcs
    have hsigma : c ≠ 'Σ' := by
      rintro rfl
      exact absurd hc (by decide)
    rw [lowerFrom, if_neg hsigma, lowerChar, if_pos hc, ih _ hcs]
    rfl

theorem lower_of_isAscii (hcs : IsAscii cs) : lower cs = cs.map Char.toLower :=
  lowerFrom_of_isAscii [] hcs

theorem toNat_toLower_lt (hc : c.toNat < 0x80) : c.toLower.toNat < 0x80 := by
  by_cases hupper : c.isUpper = true
  · have hlower : c.toLower.isLower = true := by
      rw [Char.isLower_toLower_eq_isAlpha, Char.isAlpha, hupper, Bool.true_or]
    simp only [Char.isLower, Bool.and_eq_true, decide_eq_true_eq, UInt32.le_iff_toNat_le] at hlower
    exact Nat.lt_of_le_of_lt hlower.2 (by decide)
  · rwa [Char.toLower_eq_of_not_isUpper hupper]

theorem toLower_eq_iff {d : Char} (hd : d.isAlpha = false) : c.toLower = d ↔ c = d := by
  have hsmall (e : Char) (he : e.isAlpha = false) : e.toLower = e := by
    apply Char.toLower_eq_of_not_isUpper
    rw [Char.isAlpha, Bool.or_eq_false_iff] at he
    simp [he.1]
  constructor
  · intro hsame
    have hc : c.isAlpha = false := by rw [← Char.isAlpha_toLower_eq_isAlpha, hsame, hd]
    rw [← hsame, hsmall c hc]
  · rintro rfl
    exact hsmall c hd

end Text

namespace PackageName

open Text (IsAscii)

variable {cs p rest : List Char} {ps : List (List Char)} {joint : Char} {inRun : Bool}

def IsPiece (p : List Char) : Prop := ∀ c ∈ p, isSeparator c = false

structure IsRunBefore (run rest : List Char) : Prop where
  ne_nil : run ≠ []
  separators : ∀ c ∈ run, isSeparator c = true
  ends : ∀ c ∈ rest.head?, isSeparator c = false

/-- The pieces of a text between its runs of separators; the first and the last may be empty. -/
inductive Parted : List Char → List (List Char) → Prop
  | whole {p : List Char} : IsPiece p → Parted p [p]
  | next {p run rest : List Char} {ps : List (List Char)} :
      IsPiece p → IsRunBefore run rest → Parted rest ps → Parted (p ++ (run ++ rest)) (p :: ps)

theorem isPiece_cons_iff {c : Char} : IsPiece (c :: p) ↔ isSeparator c = false ∧ IsPiece p :=
  List.forall_mem_cons

theorem Parted.isPiece (h : Parted cs ps) : ∀ p ∈ ps, IsPiece p := by
  induction h with
  | whole hp => simpa using hp
  | next hp _ _ ih => exact List.forall_mem_cons.2 ⟨hp, ih⟩

theorem Parted.ne_nil (h : Parted cs ps) : ps ≠ [] := by
  cases h <;> exact List.cons_ne_nil _ _

theorem Parted.cons_separator {c : Char} (hc : isSeparator c = true) (h : Parted cs ps) :
    ∃ qs, Parted (c :: cs) qs := by
  have hempty : IsPiece [] := by simp [IsPiece]
  have hfresh (hends : ∀ d ∈ cs.head?, isSeparator d = false) : ∃ qs, Parted (c :: cs) qs := by
    have hrun : IsRunBefore [c] cs := ⟨by simp, by simpa using hc, hends⟩
    exact ⟨[] :: ps, .next hempty hrun h⟩
  -- The separator joins a run that the text begins with, and is one by itself otherwise.
  cases h with
  | whole hp =>
    apply hfresh
    intro d hd
    exact hp d (List.mem_of_mem_head? hd)
  | @next p run rest ps hp hrun hrest =>
    cases p with
    | nil =>
      have hlonger : IsRunBefore (c :: run) rest :=
        ⟨by simp, List.forall_mem_cons.2 ⟨hc, hrun.separators⟩, hrun.ends⟩
      exact ⟨[] :: ps, .next hempty hlonger hrest⟩
    | cons d p =>
      apply hfresh
      intro e he
      obtain rfl : d = e := by simpa using he
      exact hp d List.mem_cons_self

theorem Parted.cons_of_not_separator {c : Char} (hc : isSeparator c = false) (h : Parted cs ps) :
    ∃ qs, Parted (c :: cs) qs := by
  cases h with
  | whole hp => exact ⟨[c :: cs], .whole (isPiece_cons_iff.2 ⟨hc, hp⟩)⟩
  | @next p run rest ps hp hrun hrest =>
    exact ⟨(c :: p) :: ps, .next (p := c :: p) (isPiece_cons_iff.2 ⟨hc, hp⟩) hrun hrest⟩

theorem exists_parted (cs : List Char) : ∃ ps, Parted cs ps := by
  induction cs with
  | nil => exact ⟨[[]], .whole (by simp [IsPiece])⟩
  | cons c cs ih =>
    obtain ⟨ps, hps⟩ := ih
    cases hc : isSeparator c with
    | true => exact hps.cons_separator hc
    | false => exact hps.cons_of_not_separator hc

theorem joinRuns_append_piece (hp : IsPiece p) (cs : List Char) :
    joinRuns joint false (p ++ cs) = p ++ joinRuns joint false cs := by
  induction p with
  | nil => rfl
  | cons c p ih =>
    obtain ⟨hc, hp⟩ := isPiece_cons_iff.1 hp
    simp only [List.cons_append, joinRuns, hc, Bool.false_eq_true, if_false, ih hp]

theorem joinRuns_of_ends (hends : ∀ c ∈ cs.head?, isSeparator c = false) :
    joinRuns joint true cs = joinRuns joint false cs := by
  cases cs with
  | nil => rfl
  | cons c cs => simp only [joinRuns, hends c rfl, Bool.false_eq_true, if_false]

theorem joinRuns_append_run {run : List Char} (hrun : ∀ c ∈ run, isSeparator c = true)
    (cs : List Char) : joinRuns joint true (run ++ cs) = joinRuns joint true cs := by
  induction run with
  | nil => rfl
  | cons c run ih =>
    obtain ⟨hc, hrun⟩ := List.forall_mem_cons.1 hrun
    simp only [List.cons_append, joinRuns, hc, if_true, ih hrun]

theorem IsRunBefore.joinRuns_append {run : List Char} (hrun : IsRunBefore run rest) :
    joinRuns joint false (run ++ rest) = joint :: joinRuns joint false rest := by
  obtain ⟨hne, hseparators, hends⟩ := hrun
  cases run with
  | nil => exact absurd rfl hne
  | cons c run =>
    obtain ⟨hc, hseparators⟩ := List.forall_mem_cons.1 hseparators
    simp only [List.cons_append, joinRuns, hc, if_true, Bool.false_eq_true, if_false,
      joinRuns_append_run hseparators, joinRuns_of_ends hends]

theorem Parted.joinRuns_eq (h : Parted cs ps) : joinRuns joint false cs = Text.join joint ps := by
  induction h with
  | whole hp => simpa [joinRuns, Text.join] using joinRuns_append_piece hp []
  | @next p run rest ps hp hrun hrest ih =>
    obtain ⟨q, qs, rfl⟩ := List.exists_cons_of_ne_nil hrest.ne_nil
    rw [joinRuns_append_piece hp, hrun.joinRuns_append, ih]
    rfl

theorem Parted.split_joinRuns (h : Parted cs ps) (hjoint : isSeparator joint = true) :
    Text.split joint (joinRuns joint false cs) = ps := by
  rw [h.joinRuns_eq]
  apply Text.split_join h.ne_nil
  intro p hp hmem
  exact absurd ((h.isPiece p hp joint hmem).symm.trans hjoint) Bool.false_ne_true

theorem joinRuns_eq_iff {ds : List Char} (hjoint : isSeparator joint = true) :
    joinRuns joint false cs = joinRuns joint false ds ↔ ∃ ps, Parted cs ps ∧ Parted ds ps := by
  constructor
  · intro hsame
    obtain ⟨ps, hps⟩ := exists_parted cs
    obtain ⟨qs, hqs⟩ := exists_parted ds
    have hpieces : ps = qs := by
      rw [← hps.split_joinRuns hjoint, ← hqs.split_joinRuns hjoint, hsame]
    exact ⟨ps, hps, hpieces ▸ hqs⟩
  · rintro ⟨ps, hps, hds⟩
    rw [hps.joinRuns_eq, hds.joinRuns_eq]

theorem joinRuns_joinRuns (hjoint : isSeparator joint = true) (inRun : Bool) (cs : List Char) :
    joinRuns joint inRun (joinRuns joint inRun cs) = joinRuns joint inRun cs := by
  induction cs generalizing inRun with
  | nil => rfl
  | cons c cs ih =>
    cases hc : isSeparator c with
    | true => cases inRun <;> simp [joinRuns, hc, hjoint, ih]
    | false => simp [joinRuns, hc, ih]

theorem mem_joinRuns {c : Char} (h : c ∈ joinRuns joint inRun cs) : c = joint ∨ c ∈ cs := by
  induction cs generalizing inRun with
  | nil => cases h
  | cons d cs ih =>
    simp only [joinRuns] at h
    split at h
    · split at h
      · exact (ih h).imp_right (List.mem_cons_of_mem d)
      · obtain rfl | h := List.mem_cons.1 h
        · exact .inl rfl
        · exact (ih h).imp_right (List.mem_cons_of_mem d)
    · obtain rfl | h := List.mem_cons.1 h
      · exact .inr List.mem_cons_self
      · exact (ih h).imp_right (List.mem_cons_of_mem d)

theorem isScoped_map_toLower (cs : List Char) : isScoped (cs.map Char.toLower) = isScoped cs := by
  cases cs with
  | nil => rfl
  | cons c cs =>
    rw [Bool.eq_iff_iff]
    simp [isScoped, Text.toLower_eq_iff (c := c) (d := '@') (by decide)]

theorem isScoped_joinRuns (hjoint : joint ≠ '@') (h : isScoped cs = false) :
    isScoped (joinRuns joint false cs) = false := by
  cases cs with
  | nil => rfl
  | cons c cs =>
    simp only [isScoped, joinRuns]
    split
    · simpa using hjoint
    · simpa [isScoped] using h

theorem isAscii_normalChars (hcs : IsAscii cs) : IsAscii (normalChars cs) := by
  have hlower : IsAscii (cs.map Char.toLower) := by
    simpa [IsAscii] using fun c hc => Text.toNat_toLower_lt (hcs c hc)
  rw [normalChars, Text.lower_of_isAscii hcs]
  split
  · exact hlower
  · intro c hc
    obtain rfl | hc := mem_joinRuns hc
    · decide
    · exact hlower c hc

theorem normalChars_of_isScoped (hcs : IsAscii cs) (h : isScoped cs = true) :
    normalChars cs = cs.map Char.toLower := by
  rw [normalChars, if_pos h, Text.lower_of_isAscii hcs]

theorem normalChars_of_not_isScoped (hcs : IsAscii cs) (h : isScoped cs = false) :
    normalChars cs = joinRuns '-' false (cs.map Char.toLower) := by
  rw [normalChars, if_neg (by simp [h]), Text.lower_of_isAscii hcs]

theorem isScoped_normalChars (hcs : IsAscii cs) : isScoped (normalChars cs) = isScoped cs := by
  cases h : isScoped cs with
  | true => rw [normalChars_of_isScoped hcs h, isScoped_map_toLower, h]
  | false =>
    rw [normalChars_of_not_isScoped hcs h]
    exact isScoped_joinRuns (by decide) ((isScoped_map_toLower cs).trans h)

theorem map_toLower_normalChars (hcs : IsAscii cs) :
    (normalChars cs).map Char.toLower = normalChars cs := by
  have hsmall : ∀ c ∈ normalChars cs, c.toLower = c := by
    rw [normalChars, Text.lower_of_isAscii hcs]
    split
    · simp
    · intro c hc
      obtain rfl | hc := mem_joinRuns hc
      · decide
      · obtain ⟨d, -, rfl⟩ := List.mem_map.1 hc
        exact Char.toLower_toLower_eq_toLower d
  exact (List.map_congr_left hsmall).trans (List.map_id _)

theorem normalChars_normalChars (hcs : IsAscii cs) :
    normalChars (normalChars cs) = normalChars cs := by
  have hsame := map_toLower_normalChars hcs
  have hagain := isAscii_normalChars hcs
  cases h : isScoped cs with
  | true => rw [normalChars_of_isScoped hagain ((isScoped_normalChars hcs).trans h), hsame]
  | false =>
    rw [normalChars_of_not_isScoped hagain ((isScoped_normalChars hcs).trans h), hsame,
      normalChars_of_not_isScoped hcs h, joinRuns_joinRuns (by decide)]

def SameLetters (a b : List Char) : Prop := List.Forall₂ (fun c d => c.toLower = d.toLower) a b

theorem sameLetters_iff {a b : List Char} :
    SameLetters a b ↔ a.map Char.toLower = b.map Char.toLower := by
  rw [SameLetters, ← List.forall₂_eq_eq_eq, List.forall₂_map_left_iff, List.forall₂_map_right_iff]

/-- Two names that are meant to be one: of the same pieces, or scoped and of the same letters. -/
inductive Alike (a b : List Char) : Prop
  | pieces {ps : List (List Char)} : isScoped a = false → isScoped b = false →
      Parted (a.map Char.toLower) ps → Parted (b.map Char.toLower) ps → Alike a b
  | letters : isScoped a = true → isScoped b = true → SameLetters a b → Alike a b

theorem normalChars_eq_iff {a b : List Char} (ha : IsAscii a) (hb : IsAscii b) :
    normalChars a = normalChars b ↔ Alike a b := by
  constructor
  · intro hsame
    have hscope : isScoped a = isScoped b := by
      rw [← isScoped_normalChars ha, hsame, isScoped_normalChars hb]
    cases h : isScoped b with
    | true =>
      rw [normalChars_of_isScoped ha (hscope.trans h), normalChars_of_isScoped hb h] at hsame
      exact .letters (hscope.trans h) h (sameLetters_iff.2 hsame)
    | false =>
      rw [normalChars_of_not_isScoped ha (hscope.trans h),
        normalChars_of_not_isScoped hb h] at hsame
      obtain ⟨ps, hps, hqs⟩ := (joinRuns_eq_iff (by decide)).1 hsame
      exact .pieces (hscope.trans h) h hps hqs
  · intro halike
    cases halike with
    | pieces ha' hb' hps hqs =>
      rw [normalChars_of_not_isScoped ha ha', normalChars_of_not_isScoped hb hb']
      exact (joinRuns_eq_iff (by decide)).2 ⟨_, hps, hqs⟩
    | letters ha' hb' hsame =>
      rw [normalChars_of_isScoped ha ha', normalChars_of_isScoped hb hb']
      exact sameLetters_iff.1 hsame

theorem normalize_normalize {a : String} (ha : IsAscii a.toList) :
    normalize (normalize a) = normalize a := by
  rw [normalize, normalize, String.toList_ofList, normalChars_normalChars ha]

theorem normalize_eq_iff {a b : String} (ha : IsAscii a.toList) (hb : IsAscii b.toList) :
    normalize a = normalize b ↔ Alike a.toList b.toList := by
  rw [← normalChars_eq_iff ha hb, ← String.toList_inj]
  simp [normalize]

end PackageName

namespace Manifest

open Text (IsAscii)
open PackageName (normalize Alike)

theorem declares_iff_alike {names : List String} {a b : String}
    (hnames : ∀ n ∈ names, IsAscii n.toList) (ha : IsAscii a.toList) (hb : IsAscii b.toList) :
    normalize (normalize a) = normalize a ∧
    (normalize a = normalize b ↔ Alike a.toList b.toList) ∧
    ((ofNames names).declares b = true ↔ ∃ n ∈ names, Alike n.toList b.toList) := by
  refine ⟨PackageName.normalize_normalize ha, PackageName.normalize_eq_iff ha hb, ?_⟩
  rw [declares_ofNames]
  apply exists_congr
  intro n
  apply and_congr_right
  intro hn
  exact PackageName.normalize_eq_iff (hnames n hn) hb

theorem declares_iff_alike_foo :
    (∀ n ∈ ["Theme_.Foo", "@Acme/Foo"], IsAscii n.toList) ∧ IsAscii "Theme_.Foo".toList ∧
    IsAscii "theme-foo".toList ∧
    (normalize (normalize "Theme_.Foo") = normalize "Theme_.Foo" ∧
      Alike "Theme_.Foo".toList "theme-foo".toList ∧
      (ofNames ["Theme_.Foo", "@Acme/Foo"]).declares "theme-foo" = true) ∧
    IsAscii "-theme-foo".toList ∧ ¬Alike "Theme_.Foo".toList "-theme-foo".toList := by
  have hnames : ∀ n ∈ ["Theme_.Foo", "@Acme/Foo"], IsAscii n.toList := by
    simp [IsAscii]
  have ha : IsAscii "Theme_.Foo".toList := by simp [IsAscii]
  have hb : IsAscii "theme-foo".toList := by simp [IsAscii]
  have hfront : IsAscii "-theme-foo".toList := by simp [IsAscii]
  obtain ⟨htwice, halike, hdeclared⟩ := declares_iff_alike hnames ha hb
  obtain ⟨-, hother, -⟩ := declares_iff_alike hnames ha hfront
  have hsame := halike.1 (by decide +kernel)
  exact ⟨hnames, ha, hb, ⟨htwice, hsame, hdeclared.2 ⟨_, List.mem_cons_self, hsame⟩⟩, hfront,
    mt hother.2 (by decide +kernel)⟩

end Manifest

end SiteModules
