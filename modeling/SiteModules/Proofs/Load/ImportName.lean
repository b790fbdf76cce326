import Mathlib.Data.List.Forall2
import SiteModules.Load.Name
import SiteModules.Proofs.Text.Split

namespace SiteModules

theorem Text.isWord_of_mem_underscored {cs : List Char} {c : Char} (hc : c ∈ underscored cs) :
    isWord c = true := by
  obtain ⟨d, -, rfl⟩ := List.mem_map.1 hc
  split
  · next hword => exact hword
  · decide

namespace ModuleName

variable {entry other : String}

def segments (entry : String) : List (List Char) :=
  ((entry.toList.dropWhile (· = '@')).splitOn '/').filter (· ≠ [])

theorem dot_notMem_underscored (cs : List Char) : '.' ∉ Text.underscored cs := by
  intro hdot
  exact absurd (Text.isWord_of_mem_underscored hdot) (by decide)

theorem parts_eq (entry : String) :
    parts entry.toList = (segments entry).map Text.underscored := by
  rw [parts, segments, Text.split_eq_splitOn]
  congr 2
  funext segment
  cases segment <;> simp

theorem toList_ofPackage (entry : String) : (ofPackage entry).toList =
    ['.'].intercalate ((segments entry).map Text.underscored) := by
  rw [ofPackage, String.toList_ofList, importChars, parts_eq, Text.join_eq_intercalate]

theorem nil_notMem_map_segments (entry : String) :
    [] ∉ (segments entry).map Text.underscored := by
  intro hmem
  obtain ⟨segment, hsegment, hnil⟩ := List.mem_map.1 hmem
  have hempty : segment = [] := by
    rw [← List.length_eq_zero_iff, ← Text.length_underscored, hnil, List.length_nil]
  simpa [hempty] using (List.mem_filter.1 hsegment).2

theorem splitOn_ofPackage (hne : segments entry ≠ []) :
    (ofPackage entry).toList.splitOn '.' = (segments entry).map Text.underscored := by
  rw [toList_ofPackage]
  apply List.splitOn_intercalate
  · intro part hpart
    obtain ⟨segment, -, rfl⟩ := List.mem_map.1 hpart
    exact dot_notMem_underscored segment
  · simpa using hne

theorem ofPackage_of_segments_eq_nil (hnil : segments entry = []) : ofPackage entry = "" := by
  rw [← String.toList_inj, toList_ofPackage, hnil]
  rfl

theorem nil_mem_splitOn_iff :
    [] ∈ (ofPackage entry).toList.splitOn '.' ↔ segments entry = [] := by
  constructor
  · intro hmem
    by_cases hne : segments entry = []
    · exact hne
    · rw [splitOn_ofPackage hne] at hmem
      exact absurd hmem (nil_notMem_map_segments entry)
  · intro hnil
    rw [ofPackage_of_segments_eq_nil hnil]
    simp

theorem ofPackage_eq_empty_iff : ofPackage entry = "" ↔ segments entry = [] := by
  constructor
  · intro hempty
    rw [← nil_mem_splitOn_iff, hempty]
    simp
  · exact ofPackage_of_segments_eq_nil

theorem ofPackage_eq_iff : ofPackage entry = ofPackage other ↔
    (segments entry).map Text.underscored = (segments other).map Text.underscored := by
  constructor
  · intro hsame
    by_cases hnil : segments entry = []
    · have hnil' : segments other = [] := by
        rw [← ofPackage_eq_empty_iff, ← hsame, ofPackage_eq_empty_iff, hnil]
      rw [hnil, hnil']
    · have hne' : segments other ≠ [] := by
        intro hnil'
        rw [← ofPackage_eq_empty_iff, ← hsame, ofPackage_eq_empty_iff] at hnil'
        exact hnil hnil'
      rw [← splitOn_ofPackage hnil, ← splitOn_ofPackage hne', hsame]
  · intro hsame
    rw [← String.toList_inj, toList_ofPackage, toList_ofPackage, hsame]

theorem head?_ofPackage (entry : String) : (ofPackage entry).toList.head? ≠ some '.' := by
  intro hdot
  obtain ⟨cs, hcs⟩ := List.head?_eq_some_iff.1 hdot
  have hmem : [] ∈ (ofPackage entry).toList.splitOn '.' := by
    rw [hcs, ← Text.split_eq_splitOn, Text.split_sep]
    exact List.mem_cons_self
  rw [nil_mem_splitOn_iff, ← ofPackage_eq_empty_iff] at hmem
  rw [hmem] at hcs
  cases hcs

theorem getLast?_ofPackage (entry : String) : (ofPackage entry).toList.getLast? ≠ some '.' := by
  intro hdot
  obtain ⟨cs, hcs⟩ := List.getLast?_eq_some_iff.1 hdot
  have hmem : [] ∈ (ofPackage entry).toList.splitOn '.' := by
    rw [hcs, ← Text.split_eq_splitOn, Text.split_append_cons, Text.split_nil]
    exact List.mem_append_right _ (List.mem_singleton_self _)
  rw [nil_mem_splitOn_iff, ← ofPackage_eq_empty_iff] at hmem
  rw [hmem] at hcs
  simp at hcs

/-- A part of a name to import that keeps the word characters of a segment, and no others. -/
structure StandsFor (segment part : List Char) : Prop where
  chars : List.Forall₂
    (fun c d => (Text.isWord c = true ∧ d = c) ∨ (Text.isWord c = false ∧ d = '_'))
    segment part
  length : part.length = segment.length
  word : ∀ c ∈ part, Text.isWord c = true

theorem standsFor_underscored (segment : List Char) :
    StandsFor segment (Text.underscored segment) := by
  refine ⟨?_, Text.length_underscored segment, fun _ => Text.isWord_of_mem_underscored⟩
  rw [Text.underscored, List.forall₂_map_right_iff, List.forall₂_same]
  intro c _
  cases hc : Text.isWord c with
  | true => exact .inl ⟨rfl, by simp⟩
  | false => exact .inr ⟨rfl, by simp⟩

/-- A name to import that has a part for each segment of an entry, and no empty part. -/
structure Imports (entry name : String) : Prop where
  parts : ∃ parts, name.toList = ['.'].intercalate parts ∧
    List.Forall₂ StandsFor (segments entry) parts
  first : name.toList.head? ≠ some '.'
  last : name.toList.getLast? ≠ some '.'
  solid : [] ∈ name.toList.splitOn '.' ↔ segments entry = []
  empty : name = "" ↔ segments entry = []

theorem imports_ofPackage :
    (∀ entry, Imports entry (ofPackage entry)) ∧
    ∀ entry other, ofPackage entry = ofPackage other ↔
      List.Forall₂ (fun segment segment' => Text.underscored segment = Text.underscored segment')
        (segments entry) (segments other) := by
  constructor
  · intro entry
    refine ⟨⟨_, toList_ofPackage entry, ?_⟩, head?_ofPackage entry, getLast?_ofPackage entry,
      nil_mem_splitOn_iff, ofPackage_eq_empty_iff⟩
    rw [List.forall₂_map_right_iff, List.forall₂_same]
    intro segment _
    exact standsFor_underscored segment
  · intro entry other
    rw [ofPackage_eq_iff, ← List.forall₂_eq_eq_eq, List.forall₂_map_left_iff,
      List.forall₂_map_right_iff]

example : ofPackage "@@acme//theme-1.0/@x" = "acme.theme_1_0._x" := by decide

end ModuleName

end SiteModules
