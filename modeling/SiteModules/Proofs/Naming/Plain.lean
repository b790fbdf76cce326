import SiteModules.Proofs.Naming.Canonical
import SiteModules.Proofs.Path.Below

namespace SiteModules.Naming

open Text (IsPlain split strays)

variable {n : Naming} {name request : String}

structure Slashless (n : Naming) : Prop where
  kind : '/' ∉ n.kind.toList
  organization : '/' ∉ n.organization.toList

theorem slashless_make {kind organization : String} (hk : '/' ∉ kind.toList)
    (ho : '/' ∉ organization.toList) : (make kind organization).Slashless where
  kind := hk
  organization := notMem_organization_make ho

theorem Slashless.typePrefix (hn : n.Slashless) : '/' ∉ n.typePrefix.toList :=
  notMem_typePrefix (by decide) hn.kind

theorem Slashless.fullPrefix (hn : n.Slashless) : '/' ∉ n.fullPrefix.toList :=
  notMem_fullPrefix (by decide) hn.kind hn.organization

/-- A prefix is followed by a first segment that is a stray. -/
def StraysInFront (n : Naming) (name : String) : Prop :=
  ∃ start ∈ [n.fullPrefix, n.typePrefix], ∃ rest, name.toList = start.toList ++ rest ∧ rest ≠ [] ∧
    ∃ left ∈ strays, (split '/' rest).head? = some left

/-- The last segment of a scoped request is a stray but for its line feed. -/
def StraysAtEnd (request : String) : Prop :=
  (ScopedName.ofName request).org ≠ "" ∧
    ∃ left ∈ strays, (split '/' request.toList).getLast? = some (left ++ ['\n'])

theorem straysInFront_iff_after? : n.StraysInFront name ↔
    ∃ start ∈ [n.fullPrefix, n.typePrefix], ∃ rest, after? start.toList name.toList = some rest ∧
      ∃ left ∈ strays, (split '/' rest).head? = some left := by
  simp only [StraysInFront, after?_eq_some_iff, and_assoc]

instance (n : Naming) (name : String) : Decidable (n.StraysInFront name) :=
  decidable_of_iff (∃ start ∈ [n.fullPrefix, n.typePrefix],
    ∃ rest ∈ after? start.toList name.toList, ∃ left ∈ strays, (split '/' rest).head? = some left)
    (by simp only [straysInFront_iff_after?, Option.mem_def])

instance (request : String) : Decidable (StraysAtEnd request) :=
  inferInstanceAs (Decidable (_ ∧ _))

theorem isPlain_after?_iff {start : String} {rest : List Char} (hslash : '/' ∉ start.toList)
    (hdash : '-' ∈ start.toList) (h : after? start.toList name.toList = some rest) :
    IsPlain rest ↔
      IsPlain name.toList ∧ ∀ left ∈ strays, (split '/' rest).head? ≠ some left := by
  obtain ⟨hname, -⟩ := after?_eq_some_iff.1 h
  obtain ⟨seg, segs, hsplit⟩ := Text.exists_split_eq '/' rest
  have hfirst := Text.notMem_strays_of_mem (List.mem_append_left seg hdash) (by decide)
  rw [hname, Text.isPlain_append_left hslash hsplit, Text.isPlain_iff_of_split hsplit, hsplit]
  constructor
  · rintro ⟨hseg, hsegs⟩
    refine ⟨⟨hfirst, hsegs⟩, ?_⟩
    rintro left hleft heq
    cases heq
    exact hseg hleft
  · rintro ⟨⟨-, hsegs⟩, hleft⟩
    exact ⟨fun hseg => hleft seg hseg rfl, hsegs⟩

theorem fullPrefix_eq_of_stray {rest rest' left : List Char} (hn : n.Slashless)
    (hfull : name.toList = n.fullPrefix.toList ++ rest)
    (htype : name.toList = n.typePrefix.toList ++ rest') (hleft : left ∈ strays)
    (hhead : (split '/' rest').head? = some left) : n.fullPrefix = n.typePrefix := by
  by_cases horg : n.organization = ""
  · simp [fullPrefix, horg]
  · obtain ⟨seg, segs, hsplit⟩ := Text.exists_split_eq '/' rest
    obtain ⟨seg', segs', hsplit'⟩ := Text.exists_split_eq '/' rest'
    have hfirst := Text.split_append_left hn.fullPrefix hsplit
    have hfirst' := Text.split_append_left hn.typePrefix hsplit'
    rw [← hfull] at hfirst
    rw [← htype, hfirst] at hfirst'
    rw [hsplit'] at hhead
    cases hhead
    have heq := (List.cons.inj hfirst').1
    have hends : n.fullPrefix.toList =
        (n.organization.toList ++ '-' :: n.kind.toList) ++ ['-'] := by
      simp [fullPrefix, horg]
    have hlength : n.typePrefix.toList.length ≤
        (n.organization.toList ++ '-' :: n.kind.toList).length := by
      simp [typePrefix]
    have hdrop := congrArg (List.drop n.typePrefix.toList.length) heq
    rw [hends, List.append_assoc, List.drop_append_of_le_length hlength, List.drop_left] at hdrop
    have hdash : '-' ∈ left := by simp [← hdrop]
    exact absurd hleft (Text.notMem_strays_of_mem hdash (by decide))

theorem straysInFront_iff_cut? (hn : n.Slashless) : n.StraysInFront name ↔
    ∃ rest, n.cut? name = some rest ∧ ∃ left ∈ strays, (split '/' rest).head? = some left := by
  rw [straysInFront_iff_after?]
  constructor
  · rintro ⟨start, hstart, rest, hrest, left, hmem, hhead⟩
    refine ⟨rest, ?_, left, hmem, hhead⟩
    obtain rfl | rfl : start = n.fullPrefix ∨ start = n.typePrefix := by simpa using hstart
    · exact cut?_of_fullPrefix hrest
    · cases hfull : after? n.fullPrefix.toList name.toList with
      | none => exact (cut?_of_typePrefix hfull).trans hrest
      | some rest' =>
        have hsame := fullPrefix_eq_of_stray hn (after?_eq_some_iff.1 hfull).1
          (after?_eq_some_iff.1 hrest).1 hmem hhead
        rw [← hsame] at hrest
        exact cut?_of_fullPrefix hrest
  · rintro ⟨rest, hcut, hleft⟩
    obtain ⟨start, hstart, hrest⟩ := exists_after?_of_cut? hcut
    exact ⟨start, hstart, rest, hrest, hleft⟩

theorem isPlain_shortcut_iff (hn : n.Slashless) :
    IsPlain (n.shortcut name).toList ↔ IsPlain name.toList ∧ ¬n.StraysInFront name := by
  rw [straysInFront_iff_cut? hn, shortcut_eq, String.toList_ofList]
  cases hcut : n.cut? name with
  | none => simp
  | some rest =>
    obtain ⟨start, hstart, hrest⟩ := exists_after?_of_cut? hcut
    have hslash : '/' ∉ start.toList := by
      obtain rfl | rfl : start = n.fullPrefix ∨ start = n.typePrefix := by simpa using hstart
      · exact hn.fullPrefix
      · exact hn.typePrefix
    rw [Option.getD_some, isPlain_after?_iff hslash (dash_mem_of_mem hstart) hrest]
    simp

theorem isPlain_name_iff (hrequest : IsPlain request.toList) :
    IsPlain (ScopedName.ofName request).name.toList ↔ ¬StraysAtEnd request := by
  cases hscope : ScopedName.split? request.toList with
  | none => simp [StraysAtEnd, ScopedName.ofName_of_split?_eq_none hscope, hrequest]
  | some p =>
    obtain ⟨org, name⟩ := p
    obtain ⟨o, rest, hchars, rfl, -, hslash, hline, -⟩ := ScopedName.split?_eq_some_iff.1 hscope
    have hat : '/' ∉ '@' :: o := by simp [hslash]
    rw [hchars, ← List.cons_append] at hrequest
    have hrest := ((Text.isPlain_append_sep hat).1 hrequest).2
    have hsplit : split '/' request.toList = ('@' :: o) :: split '/' rest := by
      rw [hchars, ← List.cons_append, Text.split_append_sep rest hat]
    have hne := Text.split_ne_nil '/' rest
    -- Only the last segment can have changed, since a line feed is all that may be lost.
    rw [StraysAtEnd, ScopedName.ofName_of_split?_eq_some hscope, hsplit,
      List.getLast?_cons_of_ne_nil hne]
    simp only [String.toList_ofList]
    obtain ⟨hfeed, rfl | rfl⟩ := ScopedName.onlyLine?_eq_some_iff.1 hline
    · refine iff_of_true hrest ?_
      rintro ⟨-, left, -, hlast⟩
      have hmem := Text.mem_of_mem_split (List.mem_of_getLast? hlast)
        (List.mem_append_right left (List.mem_singleton_self '\n'))
      exact hfeed hmem
    · have hslash : '/' ∉ ['\n'] := by decide
      have hfeeds := Text.split_append_right name hslash
      rw [hfeeds, List.getLast?_concat]
      rw [Text.isPlain_iff_getLast] at hrest ⊢
      simp only [hfeeds, List.dropLast_concat] at hrest
      simpa using fun _ => hrest.1

theorem isPlain_candidates_iff (hn : n.Slashless) :
    (∀ c ∈ n.candidates request, IsPlain c.toList) ↔ IsPlain (n.shortcutOf request).toList := by
  constructor
  · intro h
    exact h _ (by simp [candidates_eq])
  · intro hshort c hc
    have htype : IsPlain (n.typePrefix ++ n.shortcutOf request).toList := by
      rw [String.toList_append]
      exact hshort.append_left hn.typePrefix n.dash_mem_typePrefix
    obtain ⟨hscope, rfl⟩ | ⟨-, rfl⟩ | rfl | rfl := mem_candidates.1 hc
    · obtain h | ⟨o, ho, hslash⟩ := ScopedName.org_ofName request
      · exact absurd h hscope
      · have hat : '/' ∉ '@' :: o := by simp [hslash]
        have hchars : (n.underScope (ScopedName.ofName request).org
            (n.shortcutOf request)).toList =
              ('@' :: o) ++ '/' :: (n.typePrefix ++ n.shortcutOf request).toList := by
          simp [underScope, ho]
        rw [hchars, Text.isPlain_append_sep hat]
        exact ⟨Text.notMem_strays_of_mem List.mem_cons_self (by decide), htype⟩
    · rw [String.toList_append]
      exact hshort.append_left hn.fullPrefix n.dash_mem_fullPrefix
    · exact htype
    · exact hshort

end SiteModules.Naming
