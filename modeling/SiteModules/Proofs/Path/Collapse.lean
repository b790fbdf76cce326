import SiteModules.Proofs.Path.Below
import SiteModules.Proofs.Path.Written

namespace SiteModules

namespace Text

def IsNormal (cs : List Char) : Prop :=
  ∃ root rest, (root = ['/'] ∨ root = ['/', '/']) ∧ (rest = [] ∨ IsPlain rest) ∧ cs = root ++ rest

theorem isPlain_join {xs : List (List Char)} (hne : xs ≠ []) (hslash : ∀ x ∈ xs, '/' ∉ x)
    (hstray : ∀ x ∈ xs, x ∉ strays) : IsPlain (join '/' xs) := by
  rw [IsPlain, split_join hne hslash]
  exact hstray

end Text

namespace Path

variable {p q : Path} {names done : List String}

theorem isAbsolute_eq_false_iff : p.isAbsolute = false ↔ p.root = .relative := by
  simp [isAbsolute]

theorem isAbsolute_absolute {base : Path} (hbase : base.isAbsolute = true) (p : Path) :
    (absolute base p).isAbsolute = true := by
  simp [absolute, hbase]

theorem mem_foldl_push {absolute : Bool} {x : String}
    (hx : x ∈ names.foldl (push absolute) done) : x ∈ done ∨ x ∈ names ∨ x = ".." := by
  induction names generalizing done with
  | nil => exact .inl hx
  | cons name names ih =>
    obtain hx | hx | rfl := ih hx
    · unfold push at hx
      split at hx
      · next hup =>
        cases done with
        | nil => cases absolute <;> simp_all
        | cons last rest =>
          dsimp only at hx
          split at hx
          · obtain rfl | hx := List.mem_cons.1 hx
            · exact .inr (.inr rfl)
            · exact .inl hx
          · exact .inl (List.mem_cons_of_mem _ hx)
      · obtain rfl | hx := List.mem_cons.1 hx
        · exact .inr (.inl List.mem_cons_self)
        · exact .inl hx
    · exact .inr (.inl (List.mem_cons_of_mem _ hx))
    · exact .inr (.inr rfl)

theorem mem_parts_collapse {x : String} (hx : x ∈ p.collapse.parts) :
    x ∈ p.parts ∨ x = ".." := by
  obtain hx | hx := mem_foldl_push (List.mem_reverse.1 hx)
  · cases hx
  · exact hx

theorem push_of_ne {name : String} (absolute : Bool) (done : List String) (h : name ≠ "..") :
    push absolute done name = name :: done := if_neg h

/-- At the root of an absolute path there is nothing to take back, and `..` is dropped. -/
theorem push_up (hdone : ".." ∉ done) : push true done ".." = done.tail := by
  cases done with
  | nil => rfl
  | cons last rest =>
    have hlast : last ≠ ".." := fun h => hdone (h ▸ List.mem_cons_self)
    simp [push, hlast]

theorem notMem_push (hdone : ".." ∉ done) (name : String) : ".." ∉ push true done name := by
  by_cases h : name = ".."
  · rw [h, push_up hdone]
    exact fun hmem => hdone (List.mem_of_mem_tail hmem)
  · rw [push_of_ne true done h, List.mem_cons, not_or]
    exact ⟨Ne.symm h, hdone⟩

theorem notMem_foldl_push (hdone : ".." ∉ done) : ".." ∉ names.foldl (push true) done := by
  induction names generalizing done with
  | nil => exact hdone
  | cons name names ih => exact ih (notMem_push hdone name)

theorem notMem_parts_collapse (hp : p.isAbsolute = true) : ".." ∉ p.collapse.parts := by
  simp only [collapse, List.mem_reverse, hp]
  exact notMem_foldl_push List.not_mem_nil

theorem foldl_push_of_notMem (absolute : Bool) (h : ".." ∉ names) :
    names.foldl (push absolute) done = names.reverse ++ done := by
  induction names generalizing done with
  | nil => rfl
  | cons name names ih =>
    obtain ⟨hname, hnames⟩ := not_or.1 (mt List.mem_cons.2 h)
    rw [List.foldl_cons, push_of_ne _ _ (Ne.symm hname), ih hnames]
    simp

theorem collapse_of_notMem (h : ".." ∉ p.parts) : p.collapse = p := by
  simp only [collapse, foldl_push_of_notMem _ h, List.append_nil, List.reverse_reverse]

theorem join_of_relative (p : Path) (hq : q.isAbsolute = false) :
    p.join q = ⟨p.root, p.parts ++ q.parts⟩ := by
  rw [join, hq]
  rfl

theorem join_assoc_of_relative (p : Path) {s : Path} (hq : q.isAbsolute = false)
    (hs : s.isAbsolute = false) : p.join (q.join s) = (p.join q).join s := by
  have hqs : (q.join s).isAbsolute = false := by rw [isAbsolute_join, hq, hs]; rfl
  rw [join_of_relative p hqs, join_of_relative q hs, join_of_relative _ hs, join_of_relative p hq,
    List.append_assoc]

theorem foldl_push_parts_collapse (hp : p.isAbsolute = true) :
    p.collapse.parts.foldl (push true) [] = p.parts.foldl (push true) [] := by
  rw [foldl_push_of_notMem true (notMem_parts_collapse hp), List.append_nil, collapse, hp,
    List.reverse_reverse]

theorem collapse_join (hp : p.isAbsolute = true) (hq : q.isAbsolute = false) :
    (p.join q).collapse =
      ⟨p.root, (q.parts.foldl (push true) (p.parts.foldl (push true) [])).reverse⟩ := by
  have hjoin : (p.join q).isAbsolute = true := by rw [isAbsolute_join, hp]; rfl
  rw [collapse, hjoin, join_of_relative p hq, List.foldl_append]

theorem collapse_join_collapse (hp : p.isAbsolute = true) (hq : q.isAbsolute = false) :
    (p.collapse.join q).collapse = (p.join q).collapse := by
  rw [collapse_join (p := p.collapse) hp hq, collapse_join hp hq, foldl_push_parts_collapse hp]
  rfl

theorem IsProper.collapse (hp : p.IsProper) : p.collapse.IsProper := by
  intro name hname
  obtain hname | rfl := mem_parts_collapse hname
  · exact hp name hname
  · exact ⟨by decide, by decide⟩

structure IsNormal (p : Path) : Prop where
  absolute : p.isAbsolute = true
  proper : p.IsProper
  settled : ".." ∉ p.parts

theorem isNormal_absolute {base : Path} (hbase : base.isAbsolute = true) (hproper : base.IsProper)
    (hp : p.IsProper) : (absolute base p).IsNormal where
  absolute := isAbsolute_absolute hbase p
  proper := (hproper.join hp).collapse
  settled := notMem_parts_collapse (by rw [isAbsolute_join, hbase]; rfl)

theorem IsPart.notMem_strays {name : String} (hname : IsPart name) (hup : name ≠ "..") :
    name.toList ∉ Text.strays := by
  obtain ⟨hname, -⟩ := hname
  simp only [isName, bne_iff_ne, Bool.and_eq_true, ne_eq] at hname
  simp only [Text.strays, List.mem_cons, List.not_mem_nil, or_false, not_or]
  refine ⟨hname.1, hname.2, ?_⟩
  intro h
  exact hup (String.toList_inj.1 h)

theorem IsNormal.toString (hp : p.IsNormal) : Text.IsNormal p.toString.toList := by
  refine ⟨p.root.chars, Text.join '/' (p.parts.map String.toList), ?_, ?_, ?_⟩
  · have habsolute := hp.absolute
    cases hroot : p.root with
    | relative => simp [isAbsolute, hroot] at habsolute
    | single => exact .inl rfl
    | double => exact .inr rfl
  · by_cases hne : p.parts.map String.toList = []
    · rw [hne]
      exact .inl rfl
    · right
      apply Text.isPlain_join hne
      · intro x hx
        obtain ⟨name, hname, rfl⟩ := List.mem_map.1 hx
        exact (hp.proper name hname).2
      · intro x hx
        obtain ⟨name, hname, rfl⟩ := List.mem_map.1 hx
        exact (hp.proper name hname).notMem_strays fun h => hp.settled (h ▸ hname)
  · rw [Path.toString, String.toList_ofList, chars_eq (.inl hp.absolute)]

theorem IsNormal.absolute_eq (hp : p.IsNormal) (base : Path) : Path.absolute base p = p := by
  rw [Path.absolute, join_of_isAbsolute hp.absolute, collapse_of_notMem hp.settled]

theorem partsOf_append_slash (cs ds : List Char) :
    partsOf (cs ++ '/' :: ds) = partsOf cs ++ partsOf ds := by
  simp only [partsOf, Text.split_append_cons, List.filter_append, List.map_append]

theorem ofString_append_slash {s t : String} (hne : s ≠ "") (hs : (ofString s).isAbsolute = false)
    (ht : (ofString t).isAbsolute = false) :
    ofString (s ++ "/" ++ t) = (ofString s).join (ofString t) := by
  have hchars : (s ++ "/" ++ t).toList = s.toList ++ '/' :: t.toList := by simp
  have hhead : (s ++ "/" ++ t).toList.head? = s.toList.head? := by
    obtain ⟨c, cs, hs⟩ := List.exists_cons_of_ne_nil (mt String.toList_eq_nil_iff.1 hne)
    rw [hchars, hs]
    rfl
  have hst : (ofString (s ++ "/" ++ t)).root = .relative := by
    rw [← isAbsolute_eq_false_iff, ← Bool.not_eq_true, isAbsolute_ofString_iff, hhead,
      ← isAbsolute_ofString_iff, hs]
    exact Bool.false_ne_true
  rw [join_of_relative _ ht, isAbsolute_eq_false_iff.1 hs, ← hst]
  simp only [ofString, hchars, partsOf_append_slash]

end Path

end SiteModules
