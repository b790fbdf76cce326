import SiteModules.Proofs.Locator.Declared
import SiteModules.Proofs.Unforeseen

namespace SiteModules

namespace Distribution

/-- A row for one file, with a mark and a size at most; it is missing if a field is too wide. -/
inductive ListsFile : Option (List (List Char)) → Prop
  | bare (file : List Char) : ListsFile (some [file])
  | marked (file mark : List Char) : ListsFile (some [file, mark])
  | sized {size : List Char} (file mark : List Char) (hsize : size = [] ∨ isWhole size = true) :
    ListsFile (some [file, mark, size])

variable {h : Host} {d : Distribution}

theorem fails_rowFile_iff {row : Option (List (List Char))} :
    Except.Fails Fault.Unforeseen (rowFile row) ↔ ¬ListsFile row := by
  unfold rowFile
  split
  · exact iff_of_false (Except.not_fails_ok _) fun h => h (.bare _)
  · exact iff_of_false (Except.not_fails_ok _) fun h => h (.marked _ _)
  · split
    · next hsize =>
      have hsized := Bool.or_eq_true_iff.1 hsize
      exact iff_of_false (Except.not_fails_ok _) fun h => h (.sized _ _ (by simpa using hsized))
    · next hsize =>
      rw [Except.fails_error_iff]
      refine iff_of_true rfl ?_
      rintro ⟨⟩
      next h => simp [h] at hsize
  · next fields hne hne' hne'' =>
    rw [Except.fails_error_iff]
    refine iff_of_true rfl ?_
    rintro (file | ⟨file, mark⟩ | ⟨file, mark, -⟩)
    · exact hne file rfl
    · exact hne' file mark rfl
    · exact hne'' file mark _ rfl
  · rw [Except.fails_error_iff]
    refine iff_of_true rfl ?_
    rintro ⟨⟩

theorem not_fails_rowFile (row : Option (List (List Char))) :
    ¬Except.Fails (fun f => ¬f.Unforeseen) (rowFile row) := by
  unfold rowFile
  split
  · exact Except.not_fails_ok _
  · exact Except.not_fails_ok _
  · split
    · exact Except.not_fails_ok _
    · rw [Except.fails_error_iff]
      exact not_not_intro rfl
  · rw [Except.fails_error_iff]
    exact not_not_intro rfl
  · rw [Except.fails_error_iff]
    exact not_not_intro rfl

theorem fails_mapM_rowFile_iff {rows : List (Option (List (List Char)))} :
    Except.Fails Fault.Unforeseen (rows.mapM rowFile) ↔ ∃ row ∈ rows, ¬ListsFile row := by
  rw [Except.fails_iff_of_not_fails (Except.not_fails_mapM not_fails_rowFile rows),
    Except.exists_mapM_eq_ok_iff]
  simp only [Classical.not_forall, exists_prop, ← fails_rowFile_iff,
    Except.fails_iff_of_not_fails (not_fails_rowFile _)]

def Undecodable (h : Host) (d : Distribution) (name : String) : Prop :=
  ∃ bytes, h.Holds (d.info.child name) bytes ∧ Text.Utf8.decode bytes = none

theorem fails_text?_iff {name : String} :
    Except.Fails Fault.Unforeseen (text? h d name) ↔ Undecodable h d name := by
  unfold text? Undecodable
  cases hread : h.files.read h.cwd (d.info.child name) with
  | error f =>
    rw [Host.readText_of_error hread]
    refine iff_of_false (by cases f <;> simp [FileFault.unforeseen_iff]) ?_
    rintro ⟨bytes, hbytes, -⟩
    cases hread.symm.trans hbytes
  | ok bytes =>
    have hbytes : h.Holds (d.info.child name) bytes := hread
    rw [Host.readText_of_holds hbytes]
    have hholds (other : List UInt8) : h.Holds (d.info.child name) other ↔ bytes = other := by
      simp [Host.Holds, hread]
    simp only [hholds, exists_eq_left']
    cases Text.Utf8.decode bytes with
    | none => exact iff_of_true (Except.fails_error_iff.2 rfl) rfl
    | some cs => exact iff_of_false (Except.not_fails_ok _) (Option.some_ne_none cs)

inductive Unlisted (h : Host) (d : Distribution) : Prop
  | record (hrecord : Undecodable h d "RECORD")
  | sources (hrecord : text? h d "RECORD" = .ok none ∨ text? h d "RECORD" = .ok (some []))
    (hsources : Undecodable h d "SOURCES.txt")
  | row {lines : List (List Char)} {row : Option (List (List Char))}
      (hlines : fileLines h d = .ok (some lines))
    (hmem : row ∈ Text.Rows.read lines) (hrow : ¬ListsFile row)

theorem fails_fileLines_iff : Except.Fails Fault.Unforeseen (fileLines h d) ↔
    Undecodable h d "RECORD" ∨
      (text? h d "RECORD" = .ok none ∨ text? h d "RECORD" = .ok (some [])) ∧
        Undecodable h d "SOURCES.txt" := by
  have hsources : Except.Fails Fault.Unforeseen
      (do return (← text? h d "SOURCES.txt").map fun cs => (Text.lines cs).map quotedLine) ↔
      Undecodable h d "SOURCES.txt" := by
    rw [Except.fails_bind_pure_iff, fails_text?_iff]
  unfold fileLines
  rw [Except.fails_bind_iff, fails_text?_iff]
  refine or_congr_right ?_
  cases hrecord : text? h d "RECORD" with
  | error f => simp
  | ok found =>
    simp only [Except.ok.injEq, exists_eq_left']
    rcases found with - | - | ⟨c, cs⟩
    · simpa using hsources
    · simpa using hsources
    · simp [pure, Except.pure]

theorem fails_files_iff : Except.Fails Fault.Unforeseen (files h d) ↔ Unlisted h d := by
  unfold files
  rw [Except.fails_bind_iff, fails_fileLines_iff]
  constructor
  · rintro ((hrecord | ⟨hrecord, hsources⟩) | ⟨found, hlines, hrows⟩)
    · exact .record hrecord
    · exact .sources hrecord hsources
    · cases found with
      | none => exact (Except.not_fails_ok _ hrows).elim
      | some lines =>
        obtain ⟨row, hmem, hrow⟩ := fails_mapM_rowFile_iff.1 hrows
        exact .row hlines hmem hrow
  · rintro (hrecord | ⟨hrecord, hsources⟩ | ⟨hlines, hmem, hrow⟩)
    · exact .inl (.inl hrecord)
    · exact .inl (.inr ⟨hrecord, hsources⟩)
    · exact .inr ⟨_, hlines, fails_mapM_rowFile_iff.2 ⟨_, hmem, hrow⟩⟩

theorem fails_filesDirectory_iff :
    Except.Fails Fault.Unforeseen (filesDirectory h d) ↔ Unlisted h d := by
  unfold filesDirectory
  rw [Except.fails_bind_iff_of_not_fails, fails_files_iff]
  intro found
  cases found <;> exact Except.not_fails_ok _

def NoTopLevel (h : Host) (d : Distribution) : Prop :=
  topLevel? h d = .ok none ∨ ∃ p, topLevel? h d = .ok (some p) ∧ (h.exists? p).result = .ok false

/-- Why a distribution tells of no directory. -/
inductive Garbled (h : Host) (d : Distribution) : Prop
  | names (hnames : Undecodable h d "top_level.txt")
  | blank {cs : List Char} (hnames : text? h d "top_level.txt" = .ok (some cs)) (hne : cs ≠ [])
    (hblank : Text.firstWord? cs = none)
  | files (hnames : NoTopLevel h d) (hfiles : Unlisted h d)

theorem fails_topLevel?_iff : Except.Fails Fault.Unforeseen (topLevel? h d) ↔
    Undecodable h d "top_level.txt" ∨ ∃ cs, text? h d "top_level.txt" = .ok (some cs) ∧
      cs ≠ [] ∧ Text.firstWord? cs = none := by
  unfold topLevel?
  rw [Except.fails_bind_iff, fails_text?_iff]
  refine or_congr_right ?_
  constructor
  · rintro ⟨found, hnames, hfound⟩
    rcases found with - | - | ⟨c, cs⟩
    · exact (Except.not_fails_ok _ hfound).elim
    · exact (Except.not_fails_ok _ hfound).elim
    · refine ⟨c :: cs, hnames, List.cons_ne_nil _ _, ?_⟩
      cases hword : Text.firstWord? (c :: cs) with
      | none => rfl
      | some word =>
        simp only [hword] at hfound
        exact (Except.not_fails_ok _ hfound).elim
  · rintro ⟨cs, hnames, hne, hblank⟩
    refine ⟨some cs, hnames, ?_⟩
    obtain ⟨c, rest, rfl⟩ := List.exists_cons_of_ne_nil hne
    simp only [hblank]
    exact Except.fails_error_iff.2 rfl

theorem breaks_directory_iff : (d.directory h).Breaks ↔ Garbled h d := by
  have hfiles : (Traced.ofFault (filesDirectory h d)).Breaks ↔ Unlisted h d :=
    Traced.breaks_ofFault_iff.trans fails_filesDirectory_iff
  unfold directory
  rw [Traced.breaks_bind_iff, Traced.breaks_ofFault_iff, fails_topLevel?_iff]
  simp only [Traced.result_ofFault, Except.mapError_eq_ok_iff]
  constructor
  · rintro ((hnames | ⟨cs, hnames, hne, hblank⟩) | ⟨found, htop, hbreaks⟩)
    · exact .names hnames
    · exact .blank hnames hne hblank
    · cases found with
      | none => exact .files (.inl htop) (hfiles.1 hbreaks)
      | some p =>
        obtain hbreaks | ⟨there, hthere, hbreaks⟩ := Traced.breaks_bind_iff.1 hbreaks
        · exact (h.not_breaks_exists? p hbreaks).elim
        · cases there with
          | true => exact (Traced.not_breaks_pure p hbreaks).elim
          | false => exact .files (.inr ⟨p, htop, hthere⟩) (hfiles.1 hbreaks)
  · rintro (hnames | ⟨hnames, hne, hblank⟩ | ⟨htop | ⟨p, htop, hthere⟩, hunlisted⟩)
    · exact .inl (.inl hnames)
    · exact .inl (.inr ⟨_, hnames, hne, hblank⟩)
    · exact .inr ⟨none, htop, hfiles.2 hunlisted⟩
    · refine .inr ⟨some p, htop, ?_⟩
      exact Traced.breaks_bind_iff.2 (.inr ⟨false, hthere, hfiles.2 hunlisted⟩)

end Distribution

namespace Locator

variable {h : Host} {name : String} {dir : Path}

def Lost (h : Host) (name : String) (dir : Path) : Prop :=
  (h.isDirectory ((workspace dir).child name)).result = .ok false ∧
    PackageName.isScoped name.toList = false ∧
    ∃ d, Distribution.find h name = .ok (some d) ∧ d.Garbled h

theorem breaks_installed_iff (hne : name ≠ "") : (installed h name).Breaks ↔
    PackageName.isScoped name.toList = false ∧
      ∃ d, Distribution.find h name = .ok (some d) ∧ d.Garbled h := by
  unfold installed
  cases PackageName.isScoped name.toList with
  | true => simp
  | false =>
    simp only [Bool.false_eq_true, if_false, true_and]
    obtain ⟨found, hfind⟩ : ∃ found, Distribution.find h name = .ok found := ⟨_, if_neg hne⟩
    rw [hfind, Traced.breaks_bind_of_ok (x := found) rfl]
    cases found with
    | none => simp
    | some d =>
      simp only [Except.ok.injEq, Option.some.injEq, exists_eq_left']
      rw [Traced.breaks_bind_pure_iff, Distribution.breaks_directory_iff]

theorem breaks_locate_iff (hne : name ≠ "") : (locate h name dir).Breaks ↔ Lost h name dir := by
  unfold locate Lost
  dsimp only
  rw [Traced.breaks_bind_iff]
  constructor
  · rintro (hbreaks | ⟨there, hthere, hbreaks⟩)
    · exact (h.not_breaks_isDirectory _ hbreaks).elim
    · cases there with
      | true => exact (not_breaks_debug _ _ _ hbreaks).elim
      | false =>
        obtain hbreaks | ⟨found, -, hbreaks⟩ := Traced.breaks_bind_iff.1 hbreaks
        · exact ⟨hthere, (breaks_installed_iff hne).1 hbreaks⟩
        · cases found <;> exact (not_breaks_debug _ _ _ hbreaks).elim
  · rintro ⟨hthere, hgarbled⟩
    refine .inr ⟨false, hthere, ?_⟩
    exact Traced.breaks_bind_iff.2 (.inl ((breaks_installed_iff hne).2 hgarbled))

end Locator

end SiteModules
