import SiteModules.Proofs.Load.Escape

namespace SiteModules

namespace Text

theorem join_concat_append (sep : Char) (xs : List (List Char)) (y z : List Char) :
    join sep (xs ++ [y ++ z]) = join sep (xs ++ [y]) ++ z := by
  cases xs with
  | nil => rfl
  | cons x xs =>
    rw [join_concat (List.cons_ne_nil x xs), join_concat (List.cons_ne_nil x xs), List.append_assoc,
      List.cons_append]

theorem Utf8.size_append (cs ds : List Char) : size (cs ++ ds) = size cs + size ds := by
  induction cs with
  | nil => simp [size]
  | cons c cs ih => simp [size, ih, Nat.add_assoc]

end Text

namespace Path

theorem dropLast_concat_name {p : Path} (hne : p.parts ≠ []) :
    p.parts.dropLast ++ [p.name] = p.parts := by
  rw [name, List.getLast?_eq_some_getLast hne, Option.getD_some, List.dropLast_concat_getLast]

end Path

namespace FileTree

theorem fitsName_append {name : String} (hname : fitsName name = false) (more : String) :
    fitsName (name ++ more) = false := by
  simp only [fitsName, decide_eq_false_iff_not, Nat.not_le, String.toList_append,
    Text.Utf8.size_append] at hname ⊢
  exact Nat.lt_add_right _ hname

theorem walk_append_of_open {t : FileTree} {place : Place} {last : String} {f : FileFault}
    (hf : f = .nameTooLong ∨ f = .denied) (hwalk : t.walk place [last] = .error f) (more : String) :
    t.walk place [last ++ more] = .error f := by
  rw [walk] at hwalk ⊢
  split at hwalk
  · next hbarred => rw [if_pos hbarred, hwalk]
  · next hopen =>
    rw [if_neg hopen]
    split at hwalk
    · rw [walk_nil] at hwalk
      cases hwalk
    · split at hwalk
      · next hlong =>
        -- A name only gets longer, so it does not fit either, and it is not `..`.
        have hlonger := fitsName_append (by simpa using hlong) more
        have hup : last ++ more ≠ ".." := by
          intro hup
          rw [hup] at hlonger
          exact absurd hlonger (by decide)
        rw [if_neg hup, hlonger, ← hwalk]
        rfl
      · split at hwalk
        · cases hwalk
          simp at hf
        · rw [walk_nil] at hwalk
          cases hwalk
        · cases hwalk

theorem walk_concat_of_open {t : FileTree} {place : Place} {names : List String} {last : String}
    {f : FileFault} (hf : f = .nameTooLong ∨ f = .denied)
    (hwalk : t.walk place (names ++ [last]) = .error f) (more : String) :
    t.walk place (names ++ [last ++ more]) = .error f := by
  induction names generalizing place with
  | nil => exact walk_append_of_open hf hwalk more
  | cons name names ih =>
    rw [List.cons_append, walk] at hwalk ⊢
    split at hwalk
    · next hbarred => rw [if_pos hbarred, hwalk]
    · next hopen =>
      rw [if_neg hopen]
      split at hwalk
      · next hup => rw [if_pos hup, ih hwalk]
      · next hup =>
        rw [if_neg hup]
        split at hwalk
        · next hlong => rw [if_pos hlong, hwalk]
        · next hfits =>
          rw [if_neg hfits]
          split at hwalk
          · exact hwalk
          · exact ih hwalk
          · -- A file ends the way, whatever names would come after it.
            simpa using hwalk

variable {t : FileTree} {cwd : Place} {p : Path}

theorem checkPath_eq_ok_iff :
    checkPath p = .ok () ↔ '\x00' ∉ p.chars ∧ Text.Utf8.size p.chars < pathLimit := by
  unfold checkPath
  dsimp only
  split
  · next hnul => simp [hnul]
  · next hnul =>
    split
    · next hlong => simp [Nat.not_lt.2 hlong]
    · next hfits => simp [hnul, Nat.not_le.1 hfits]

theorem stat_of_checkPath (hcheck : checkPath p = .ok ()) (t : FileTree) (cwd : Place) :
    t.stat cwd p = t.walk (start cwd p) p.parts >>= fun place =>
      match t.node? place with
      | some n => .ok n
      | none => .error .missing := by
  rw [stat, locate, hcheck]
  rfl

theorem checkPath_of_stat {n : Node} (hstat : t.stat cwd p = .ok n) : checkPath p = .ok () := by
  cases hcheck : checkPath p with
  | ok u => rfl
  | error f =>
    rw [stat, locate, hcheck] at hstat
    cases hstat

theorem walk_of_stat {f : FileFault} (hf : f = .nameTooLong ∨ f = .denied)
    (hcheck : checkPath p = .ok ()) (hstat : t.stat cwd p = .error f) :
    t.walk (start cwd p) p.parts = .error f := by
  have hfails : Except.Fails (· = f) (t.stat cwd p) := ⟨_, hstat, rfl⟩
  rw [stat_of_checkPath hcheck, Except.fails_bind_iff_of_not_fails] at hfails
  · obtain ⟨g, hwalk, rfl⟩ := hfails
    exact hwalk
  · intro place
    cases t.node? place with
    | some n => simp
    | none =>
      rw [Except.fails_error_iff]
      rintro rfl
      simp at hf

end FileTree

namespace Load

variable {h : Host} {p : Path} {m : Target} {e : String}

theorem chars_completed {p : Path} (hne : p.parts ≠ []) :
    (completed p).chars = p.chars ++ ".py".toList := by
  have hcompleted : (completed p).parts ≠ [] := by simp [completed, Path.withName]
  rw [Path.chars_eq (.inr hne), Path.chars_eq (.inr hcompleted), ← Path.dropLast_concat_name hne]
  simp only [completed, Path.withName, List.map_append, List.map_cons, List.map_nil,
    String.toList_append, Text.join_concat_append, List.append_assoc]

theorem not_withholds_of_completed (hne : p.parts ≠ [])
    (hcompleted : (h.isFile (completed p)).result = .ok true) (f : FileFault) :
    ¬h.Withholds p f := by
  rintro ⟨hf, hstat⟩
  obtain ⟨n, hn, -⟩ := Host.result_ask_eq_true_iff.1 hcompleted
  have hcheck' := FileTree.checkPath_of_stat hn
  have hcheck : FileTree.checkPath p = .ok () := by
    rw [FileTree.checkPath_eq_ok_iff, chars_completed hne, List.mem_append, not_or,
      Text.Utf8.size_append] at hcheck'
    rw [FileTree.checkPath_eq_ok_iff]
    exact ⟨hcheck'.1.1, Nat.lt_of_le_of_lt (Nat.le_add_right _ _) hcheck'.2⟩
  have hwalk := FileTree.walk_of_stat hf hcheck hstat
  rw [← Path.dropLast_concat_name hne] at hwalk
  rw [FileTree.stat_of_checkPath hcheck'] at hn
  change (h.files.walk (FileTree.start h.cwd p) (p.parts.dropLast ++ [p.name ++ ".py"]) >>= _) = _
    at hn
  rw [FileTree.walk_concat_of_open hf hwalk ".py"] at hn
  cases hn

theorem parts_ne_nil_of_isDirectory (hp : p.isAbsolute = true)
    (hdir : (h.isDirectory p).result ≠ .ok true) : p.parts ≠ [] := by
  obtain ⟨root, parts⟩ := p
  intro hparts
  cases hparts
  cases root with
  | relative => cases hp
  | single => exact hdir rfl
  | double => exact hdir rfl

theorem result_isDirectory_of_isFile (hfile : (h.isFile p).result = .ok true) :
    (h.isDirectory p).result = .ok false := by
  obtain ⟨n, hstat, hn⟩ := Host.result_ask_eq_true_iff.1 hfile
  apply Host.result_ask_eq_false
  · rintro f ⟨-, hopen⟩
    cases hstat.symm.trans hopen
  · intro hdir
    cases hstat.symm.trans (Host.result_isDirectory_eq_true_iff.1 hdir)
    cases hn

/-- Nothing stands at an absolute path, but a file at the path with its suffix. -/
structure OmitsSuffix (h : Host) (p : Path) : Prop where
  absolute : p.isAbsolute = true
  noDirectory : (h.isDirectory p).result ≠ .ok true
  noFile : (h.isFile p).result ≠ .ok true
  noCode : p.suffix ≠ ".py"
  completed : (h.isFile (completed p)).result = .ok true

namespace OmitsSuffix

theorem not_withholds (hp : OmitsSuffix h p) : ∀ f, ¬h.Withholds p f :=
  not_withholds_of_completed (parts_ne_nil_of_isDirectory hp.absolute hp.noDirectory) hp.completed

theorem result_isDirectory (hp : OmitsSuffix h p) : (h.isDirectory p).result = .ok false :=
  Host.result_ask_eq_false hp.not_withholds hp.noDirectory

theorem result_isFile (hp : OmitsSuffix h p) : (h.isFile p).result = .ok false :=
  Host.result_ask_eq_false hp.not_withholds hp.noFile

theorem exists_leads (hp : OmitsSuffix h p) : ∃ m, Leads h p m ∧ Leads h (Load.completed p) m ∧
    m.path = Load.completed p ∧ m.file = Load.completed p ∧ m.kind = .source := by
  obtain ⟨name, hname⟩ := ModuleName.exists_ofPath h (p := Load.completed p) hp.absolute
    (Host.notMem_chars_of_isFile hp.completed)
  refine ⟨_, .completed hp.result_isDirectory hp.result_isFile hp.noCode hp.completed hname, ?_,
    rfl, rfl, rfl⟩
  exact .file (result_isDirectory_of_isFile hp.completed) hp.completed (codeKind?_completed p) hname

end OmitsSuffix

def Target.report (running : Running) (m : Target) (serial : Nat) :
    Except Fault Unit → Except Failure Loaded
  | .ok () => .ok (m.loaded serial)
  | .error f => .error (codeReport running m f)

def Target.remains (m : Target) : Except Fault Unit × ModuleTable → ModuleTable
  | (.ok (), t) => t
  | (.error f, t) => if f.isExit then t else t.erase m.name

theorem pathWith_of_leads {serial : Nat} {t t' : ModuleTable} {running : Running}
    (hm : Leads h p m) (hmake : m.make running t = (.ok serial, t')) :
    (pathWith running h t p).1.result = m.report running serial (m.exec running t' serial).1 ∧
      (pathWith running h t p).2 = m.remains (m.exec running t' serial) := by
  cases hrun : m.exec running t' serial with
  | mk result t'' =>
    cases result with
    | ok u => exact pathWith_of_ok hm hmake hrun
    | error f =>
      rw [Target.report, Target.remains, codeReport]
      cases hf : f.isExit with
      | true => simpa [hf] using pathWith_of_exit hm hmake hrun hf
      | false => simpa [hf] using pathWith_of_fault hm hmake hrun hf

theorem isProper_completed (hp : p.IsProper) (hne : p.parts ≠ []) : (completed p).IsProper := by
  intro name hname
  obtain hname | hname := List.mem_append.1 hname
  · exact hp name (List.dropLast_subset _ hname)
  · rw [List.mem_singleton.1 hname]
    have hlast : p.name ∈ p.parts := by
      rw [← Path.dropLast_concat_name hne]
      exact List.mem_append_right _ (List.mem_singleton_self _)
    constructor
    · simp [Path.isName, List.append_eq_singleton_iff]
    · rw [String.toList_append, List.mem_append, not_or]
      exact ⟨(hp _ hlast).2, by decide⟩

theorem ofString_completed (hp : p.IsProper) (hne : p.parts ≠ []) :
    Path.ofString (p.toString ++ ".py") = completed p := by
  rw [← Path.ofString_toString (isProper_completed hp hne)]
  congr 1
  rw [Path.toString, Path.toString, chars_completed hne, String.ofList_append, String.ofList_toList]

/-- Two loads come to the same module or failure, and leave the same modules behind. -/
structure EndsAlike (x y : Traced Loaded × ModuleTable) : Prop where
  result : x.1.result = y.1.result
  table : x.2 = y.2

/--
An entry without its suffix is loaded as the one with it, however that is written: as the module of
the file, whatever its code does.
-/
theorem endsAlike_completed (hp : OmitsSuffix h (Path.ofString e)) (running : Running)
    (t : ModuleTable) :
    Path.ofString ((Path.ofString e).toString ++ ".py") = completed (Path.ofString e) ∧
    ∀ e', Path.ofString e' = completed (Path.ofString e) →
      EndsAlike (entryWith running h t e) (entryWith running h t e') ∧
      ∃ m : Target, m.path = completed (Path.ofString e) ∧ m.file = m.path ∧
        ModuleName.ofPath h m.path = .ok m.name ∧
        (entryWith running h t e).1.result =
          m.report running t.fresh (m.exec running t t.fresh).1 ∧
        (entryWith running h t e).2 = m.remains (m.exec running t t.fresh) := by
  constructor
  · exact ofString_completed (Path.isProper_ofString e)
      (parts_ne_nil_of_isDirectory hp.absolute hp.noDirectory)
  · intro e' he'
    have habsolute : (Path.ofString e').isAbsolute = true := he' ▸ hp.absolute
    -- One module for both spellings; from here on nothing depends on the entry.
    obtain ⟨m, hm, hm', hpath, hfile, hkind⟩ := hp.exists_leads
    rw [entryWith_of_isAbsolute hp.absolute, entryWith_of_isAbsolute habsolute, he']
    have hmade : m.kind ≠ .native := by simp [hkind]
    have hmake := Target.make_of_ne_native hmade running t
    obtain ⟨hresult, htable⟩ := pathWith_of_leads hm hmake
    obtain ⟨hresult', htable'⟩ := pathWith_of_leads hm' hmake
    exact ⟨⟨hresult.trans hresult'.symm, htable.trans htable'.symm⟩, m, hpath,
      hfile.trans hpath.symm, hm.ofPath_path, hresult, htable⟩

def dottedSite : Host where
  files := ⟨[(["p"], .directory), (["p", "toc.v2.py"], .file boomCode)], []⟩
  cwd := ["p"]
  home := ⟨.single, ["home"]⟩
  packages := ⟨.single, ["site"]⟩
  organization := none

theorem omitsSuffix_dottedSite : OmitsSuffix dottedSite (Path.ofString "/p/./toc.v2/") := by
  have hpath : Path.ofString "/p/./toc.v2/" = ⟨.single, ["p", "toc.v2"]⟩ := by decide
  have hdir : (dottedSite.isDirectory ⟨.single, ["p", "toc.v2"]⟩).result = .ok false := rfl
  have hfile : (dottedSite.isFile ⟨.single, ["p", "toc.v2"]⟩).result = .ok false := rfl
  rw [hpath]
  refine ⟨rfl, ?_, ?_, by decide, rfl⟩
  · rw [hdir]
    intro h
    cases h
  · rw [hfile]
    intro h
    cases h

theorem endsAlike_dottedSite : OmitsSuffix dottedSite (Path.ofString "/p/./toc.v2/") ∧
    Path.ofString "/p/toc.v2.py" = completed (Path.ofString "/p/./toc.v2/") ∧
    EndsAlike (entryWith (.ofHost dottedSite) dottedSite .empty "/p/./toc.v2/")
      (entryWith (.ofHost dottedSite) dottedSite .empty "/p/toc.v2.py") := by
  have hsibling : Path.ofString "/p/toc.v2.py" = completed (Path.ofString "/p/./toc.v2/") := by
    decide
  exact ⟨omitsSuffix_dottedSite, hsibling,
    ((endsAlike_completed omitsSuffix_dottedSite (.ofHost dottedSite) .empty).2 _ hsibling).1⟩

end Load

end SiteModules
