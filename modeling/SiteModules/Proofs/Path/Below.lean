import SiteModules.Path
import SiteModules.Proofs.Text.Split

namespace SiteModules

namespace Text

/-- The segments that name nothing inside of a directory. -/
def strays : List (List Char) := [[], ['.'], ['.', '.']]

def IsPlain (cs : List Char) : Prop := ∀ seg ∈ split '/' cs, seg ∉ strays

theorem notMem_strays_of_mem {seg : List Char} {c : Char} (hc : c ∈ seg) (hdot : c ≠ '.') :
    seg ∉ strays := by
  intro h
  simp only [strays, List.mem_cons, List.not_mem_nil, or_false] at h
  obtain rfl | rfl | rfl := h <;> simp_all

theorem notMem_strays_of_length {seg : List Char} (h : 2 < seg.length) : seg ∉ strays := by
  intro hmem
  simp only [strays, List.mem_cons, List.not_mem_nil, or_false] at hmem
  obtain rfl | rfl | rfl := hmem <;> simp at h

theorem isPlain_iff_of_split {cs seg : List Char} {segs : List (List Char)}
    (h : split '/' cs = seg :: segs) : IsPlain cs ↔ seg ∉ strays ∧ ∀ s ∈ segs, s ∉ strays := by
  simp [IsPlain, h]

theorem isPlain_append_left {p cs seg : List Char} {segs : List (List Char)} (hslash : '/' ∉ p)
    (h : split '/' cs = seg :: segs) :
    IsPlain (p ++ cs) ↔ p ++ seg ∉ strays ∧ ∀ s ∈ segs, s ∉ strays :=
  isPlain_iff_of_split (split_append_left hslash h)

theorem IsPlain.append_left {p cs : List Char} (hcs : IsPlain cs) (hslash : '/' ∉ p)
    (hdash : '-' ∈ p) : IsPlain (p ++ cs) := by
  obtain ⟨seg, segs, hsplit⟩ := exists_split_eq '/' cs
  rw [isPlain_append_left hslash hsplit]
  exact ⟨notMem_strays_of_mem (List.mem_append_left seg hdash) (by decide),
    ((isPlain_iff_of_split hsplit).1 hcs).2⟩

theorem isPlain_append_sep {p cs : List Char} (hslash : '/' ∉ p) :
    IsPlain (p ++ '/' :: cs) ↔ p ∉ strays ∧ IsPlain cs :=
  isPlain_iff_of_split (split_append_sep cs hslash)

theorem isPlain_iff_getLast {cs : List Char} : IsPlain cs ↔
    (∀ seg ∈ (split '/' cs).dropLast, seg ∉ strays) ∧
      (split '/' cs).getLast (split_ne_nil '/' cs) ∉ strays := by
  have hmem : ∀ seg, seg ∈ split '/' cs ↔ seg ∈ (split '/' cs).dropLast ∨
      seg = (split '/' cs).getLast (split_ne_nil '/' cs) := by
    intro seg
    rw [← List.mem_singleton, ← List.mem_append, List.dropLast_concat_getLast]
  simp only [IsPlain, hmem, or_imp, forall_and, forall_eq]

theorem IsPlain.append_right {cs t : List Char} (hcs : IsPlain cs) (hslash : '/' ∉ t)
    (hlength : 2 < t.length) : IsPlain (cs ++ t) := by
  intro seg hseg
  rw [split_append_right cs hslash, List.mem_append, List.mem_singleton] at hseg
  obtain hseg | rfl := hseg
  · exact hcs seg (List.dropLast_subset _ hseg)
  · apply notMem_strays_of_length
    rw [List.length_append]
    omega

end Text

namespace Path

def IsBelow (p dir : Path) : Prop :=
  p.root = dir.root ∧ ∃ names, names ≠ [] ∧ ".." ∉ names ∧ p.parts = dir.parts ++ names

theorem ofChars_of_isPlain {cs : List Char} (h : Text.IsPlain cs) :
    Root.ofChars cs = .relative := by
  unfold Root.ofChars
  split
  · exact absurd (by simp [Text.strays]) (h [] (by simp))
  · exact absurd (by simp [Text.strays]) (h [] (by simp))
  · exact absurd (by simp [Text.strays]) (h [] (by simp))
  · rfl

theorem partsOf_of_isPlain {cs : List Char} (h : Text.IsPlain cs) :
    partsOf cs = (Text.split '/' cs).map String.ofList := by
  rw [partsOf, List.filter_eq_self.2]
  intro seg hseg
  have hplain := h seg hseg
  simp only [Text.strays, List.mem_cons, List.not_mem_nil, or_false, not_or] at hplain
  simp [isName, hplain]

theorem child_of_isPlain {c : String} (dir : Path) (h : Text.IsPlain c.toList) :
    dir.child c = ⟨dir.root, dir.parts ++ (Text.split '/' c.toList).map String.ofList⟩ := by
  rw [child, join, ofString, ofChars_of_isPlain h, partsOf_of_isPlain h]
  rfl

theorem isBelow_child {c : String} (dir : Path) (h : Text.IsPlain c.toList) :
    (dir.child c).IsBelow dir := by
  rw [child_of_isPlain dir h]
  refine ⟨rfl, _, ?_, ?_, rfl⟩
  · simp [Text.split_ne_nil]
  · intro hup
    obtain ⟨seg, hseg, heq⟩ := List.mem_map.1 hup
    refine h seg hseg ?_
    have hchars := congrArg String.toList heq
    rw [String.toList_ofList] at hchars
    simp [hchars, Text.strays]

theorem isBelow_child_py {c : String} (dir : Path) (h : Text.IsPlain c.toList) :
    (dir.child (c ++ ".py")).IsBelow dir := by
  apply isBelow_child
  rw [String.toList_append]
  exact h.append_right (by decide) (by decide)

end Path

end SiteModules
