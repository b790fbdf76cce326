import SiteModules.Load
import SiteModules.Proofs.Path.Written
import SiteModules.Proofs.Unforeseen

namespace SiteModules

namespace Load

variable {h : Host} {p : Path} {t : ModuleTable} {running : Running}

def completed (p : Path) : Path := p.withName (p.name ++ ".py")

/-- The module that a path leads to, before any code is run. -/
inductive Leads (h : Host) (p : Path) : Target → Prop
  | directory {name : String} :
      (h.isDirectory p).result = .ok true → (h.isFile (p.child fileName)).result = .ok true →
      ModuleName.ofPath h p = .ok name → Leads h p ⟨p, name, p.child fileName, .source, true⟩
  | file {name : String} {kind : CodeKind} :
      (h.isDirectory p).result = .ok false → (h.isFile p).result = .ok true →
      codeKind? p = some kind → ModuleName.ofPath h p = .ok name →
      Leads h p ⟨p, name, p, kind, isPackageFile p.name⟩
  | completed {name : String} :
      (h.isDirectory p).result = .ok false → (h.isFile p).result = .ok false → p.suffix ≠ ".py" →
      (h.isFile (completed p)).result = .ok true → ModuleName.ofPath h (completed p) = .ok name →
      Leads h p ⟨completed p, name, completed p, .source, isPackageFile (completed p).name⟩

theorem suffix_chars_completed (p : Path) : ".py".toList <:+ (completed p).chars := by
  have hname : ".py".toList <:+ (p.name ++ ".py").toList := by
    rw [String.toList_append]
    exact List.suffix_append _ _
  have hjoin : (p.name ++ ".py").toList <:+
      Text.join '/' ((completed p).parts.map String.toList) := by
    simp only [completed, Path.withName, List.map_append, List.map_cons, List.map_nil]
    cases p.parts.dropLast with
    | nil => exact List.suffix_refl _
    | cons first rest =>
      rw [Text.join_concat (by simp)]
      exact (List.suffix_cons _ _).trans (List.suffix_append _ _)
  rw [Path.chars_eq (p := completed p) (.inr (by simp [completed, Path.withName]))]
  exact (hname.trans hjoin).trans (List.suffix_append _ _)

theorem codeKind?_completed (p : Path) : codeKind? (completed p) = some .source := by
  obtain ⟨stem, hstem⟩ := suffix_chars_completed p
  simp [codeKind?, endings, ← hstem, List.isSuffixOf, List.isPrefixOf]

theorem result_directoryTarget_eq_ok_iff {m : Target} :
    (directoryTarget h p).result = .ok m ↔ (h.isFile (p.child fileName)).result = .ok true ∧
      ∃ name, ModuleName.ofPath h p = .ok name ∧
        m = ⟨p, name, p.child fileName, .source, true⟩ := by
  unfold directoryTarget
  rw [Traced.result_bind_eq_ok_iff]
  constructor
  · rintro ⟨b, hfile, hm⟩
    cases b with
    | false => cases hm
    | true =>
      simp only [Bool.not_true, Bool.false_eq_true, if_false, Traced.result_bind_eq_ok_iff,
        Traced.result_ofFault, Except.mapError_eq_ok_iff] at hm
      obtain ⟨name, hname, hm⟩ := hm
      cases hm
      exact ⟨hfile, name, hname, rfl⟩
  · rintro ⟨hfile, name, hname, rfl⟩
    refine ⟨true, hfile, ?_⟩
    exact Traced.result_bind_eq_ok_iff.2 ⟨name, Except.mapError_eq_ok_iff.2 hname, rfl⟩

theorem result_withSuffix_eq_ok_iff {q : Path} : (withSuffix h p).result = .ok q ↔
    ((h.isFile p).result = .ok true ∧ q = p) ∨
    ((h.isFile p).result = .ok false ∧
      ((p.suffix = ".py" ∧ q = p) ∨
      (p.suffix ≠ ".py" ∧
        (((h.isFile (completed p)).result = .ok true ∧ q = completed p) ∨
        ((h.isFile (completed p)).result = .ok false ∧ q = p))))) := by
  unfold withSuffix
  dsimp only
  rw [Traced.result_bind_eq_ok_iff]
  change (∃ b, (h.isFile p).result = .ok b ∧ _) ↔ _
  cases hfile : (h.isFile p).result with
  | error e => simp
  | ok b =>
    cases b with
    | true => simp [eq_comm]
    | false =>
      by_cases hsuffix : p.suffix = ".py"
      · simp [hsuffix, eq_comm]
      · simp only [Except.ok.injEq, exists_eq_left', Bool.false_eq_true, if_false, hsuffix,
          false_and, ne_eq, not_false_eq_true, true_and, false_or]
        rw [Traced.result_bind_eq_ok_iff]
        change (∃ b, (h.isFile (completed p)).result = .ok b ∧ _) ↔ _
        cases hcompleted : (h.isFile (completed p)).result with
        | error e => simp
        | ok b => cases b <;> simp [completed, eq_comm]

theorem result_fileTarget_eq_ok_iff {m : Target} : (fileTarget h p).result = .ok m ↔
    ∃ q kind, (withSuffix h p).result = .ok q ∧ (h.isFile q).result = .ok true ∧
      codeKind? q = some kind ∧ ∃ name, ModuleName.ofPath h q = .ok name ∧
      m = ⟨q, name, q, kind, isPackageFile q.name⟩ := by
  unfold fileTarget
  rw [Traced.result_bind_eq_ok_iff]
  constructor
  · rintro ⟨q, hq, hm⟩
    obtain ⟨b, hfile, hm⟩ := Traced.result_bind_eq_ok_iff.1 hm
    cases b with
    | false => cases hm
    | true =>
      simp only [Bool.not_true, Bool.false_eq_true, if_false, Traced.result_bind_eq_ok_iff,
        Traced.result_ofFault, Except.mapError_eq_ok_iff] at hm
      obtain ⟨name, hname, hm⟩ := hm
      cases hkind : codeKind? q with
      | none =>
        rw [hkind] at hm
        cases hm
      | some kind =>
        rw [hkind] at hm
        cases hm
        exact ⟨q, kind, hq, hfile, hkind, name, hname, rfl⟩
  · rintro ⟨q, kind, hq, hfile, hkind, name, hname, rfl⟩
    refine ⟨q, hq, Traced.result_bind_eq_ok_iff.2 ⟨true, hfile, ?_⟩⟩
    simp only [Bool.not_true, Bool.false_eq_true, if_false, hkind]
    exact Traced.result_bind_eq_ok_iff.2 ⟨name, Except.mapError_eq_ok_iff.2 hname, rfl⟩

theorem result_target_eq_ok_iff {m : Target} : (target h p).result = .ok m ↔ Leads h p m := by
  unfold target
  rw [Traced.result_bind_eq_ok_iff]
  constructor
  · rintro ⟨b, hdir, hm⟩
    cases b with
    | true =>
      obtain ⟨hfile, name, hname, rfl⟩ := result_directoryTarget_eq_ok_iff.1 hm
      exact .directory hdir hfile hname
    | false =>
      obtain ⟨q, kind, hq, hfile, hkind, name, hname, rfl⟩ := result_fileTarget_eq_ok_iff.1 hm
      rw [result_withSuffix_eq_ok_iff] at hq
      obtain ⟨-, rfl⟩ | ⟨hno, ⟨-, rfl⟩ | ⟨hsuffix, ⟨-, rfl⟩ | ⟨-, rfl⟩⟩⟩ := hq
      · exact .file hdir hfile hkind hname
      · cases hno.symm.trans hfile
      · cases hkind.symm.trans (codeKind?_completed p)
        exact .completed hdir hno hsuffix hfile hname
      · cases hno.symm.trans hfile
  · intro hleads
    cases hleads with
    | directory hdir hfile hname =>
      exact ⟨true, hdir, result_directoryTarget_eq_ok_iff.2 ⟨hfile, _, hname, rfl⟩⟩
    | file hdir hfile hkind hname =>
      refine ⟨false, hdir, result_fileTarget_eq_ok_iff.2 ⟨p, _, ?_, hfile, hkind, _, hname, rfl⟩⟩
      exact result_withSuffix_eq_ok_iff.2 (.inl ⟨hfile, rfl⟩)
    | completed hdir hno hsuffix hfile hname =>
      refine ⟨false, hdir, result_fileTarget_eq_ok_iff.2
        ⟨completed p, _, ?_, hfile, codeKind?_completed p, _, hname, rfl⟩⟩
      exact result_withSuffix_eq_ok_iff.2 (.inr ⟨hno, .inr ⟨hsuffix, .inl ⟨hfile, rfl⟩⟩⟩)

theorem Leads.unique {m m' : Target} (hm : Leads h p m) (hm' : Leads h p m') : m = m' := by
  rw [← result_target_eq_ok_iff] at hm hm'
  exact Except.ok.inj (hm.symm.trans hm')

theorem Leads.ofPath_path {m : Target} (hm : Leads h p m) :
    ModuleName.ofPath h m.path = .ok m.name := by
  cases hm with
  | directory _ _ hname => exact hname
  | file _ _ _ hname => exact hname
  | completed _ _ _ _ hname => exact hname

def Target.loaded (m : Target) (serial : Nat) : Loaded :=
  ⟨m.name, some m.file.toString, m.package, serial⟩

def Target.make (running : Running) (t : ModuleTable) (m : Target) :
    Except Fault Nat × ModuleTable := running.make m.kind m.file m.name t

def Target.exec (running : Running) (t : ModuleTable) (m : Target) (serial : Nat) :
    Except Fault Unit × ModuleTable :=
  running.exec m.kind m.file m.name (t.insert (m.loaded serial))

theorem Target.make_of_ne_native {m : Target} (hm : m.kind ≠ .native) (running : Running)
    (t : ModuleTable) : m.make running t = (.ok t.fresh, t) := by
  unfold make Running.make
  split
  · exact absurd ‹_› hm
  · rfl

theorem runAs_of_holds {bytes : List UInt8} (hbytes : h.Holds p bytes)
    (code : List UInt8 → ModuleCode) :
    runAs code h p = match code bytes with
      | .ends => .ok ()
      | .raises r => .error (.raised r) := by
  unfold runAs
  rw [show h.files.read h.cwd p = .ok bytes from hbytes]
  change (match code bytes with
    | .ends => pure ()
    | .raises r => throw (.raised r) : Except Fault Unit) = _
  cases code bytes <;> rfl

theorem run_of_holds {bytes : List UInt8} (hbytes : h.Holds p bytes) :
    run h p = match ModuleCode.ofBytes bytes with
      | .ends => .ok ()
      | .raises r => .error (.raised r) := runAs_of_holds hbytes _

theorem isExit_of_runAs {code : List UInt8 → ModuleCode} {file : Path} {f : Fault}
    (hcode : ∀ {bytes r}, code bytes = .raises r → r.isExit = false)
    (hrun : runAs code h file = .error f) : f.isExit = false := by
  cases hread : h.files.read h.cwd file with
  | error fault =>
    rw [runAs, hread] at hrun
    cases hrun
    rfl
  | ok bytes =>
    rw [runAs_of_holds hread] at hrun
    split at hrun
    · cases hrun
    · next hraises =>
      cases hrun
      exact hcode hraises

theorem pathWith_of_error {e : Failure} (hfound : (target h p).result = .error e)
    (running : Running) (t : ModuleTable) :
    pathWith running h t p = (⟨(target h p).events, .error e⟩, t) := by
  simp only [pathWith, hfound]

variable {m : Target} {t' t'' : ModuleTable} {serial : Nat} {f : Fault}

theorem pathWith_of_unmade (hm : Leads h p m) (hmake : m.make running t = (.error f, t')) :
    (pathWith running h t p).1.result = .error (.fault f) ∧ (pathWith running h t p).2 = t' := by
  rw [Target.make] at hmake
  simp only [pathWith, result_target_eq_ok_iff.2 hm, hmake, true_and]

theorem pathWith_of_fault (hm : Leads h p m) (hmake : m.make running t = (.ok serial, t'))
    (hrun : m.exec running t' serial = (.error f, t'')) (hf : f.isExit = false) :
    (pathWith running h t p).1.result =
        .error (running.report ("Failed to load module from " ++ m.path.toString) f) ∧
      (pathWith running h t p).2 = t''.erase m.name := by
  rw [Target.make] at hmake
  rw [Target.exec, Target.loaded] at hrun
  simp only [pathWith, result_target_eq_ok_iff.2 hm, hmake, hrun, hf, Bool.false_eq_true, if_false,
    true_and]

theorem pathWith_of_exit (hm : Leads h p m) (hmake : m.make running t = (.ok serial, t'))
    (hrun : m.exec running t' serial = (.error f, t'')) (hf : f.isExit = true) :
    (pathWith running h t p).1.result = .error (.fault f) ∧ (pathWith running h t p).2 = t'' := by
  rw [Target.make] at hmake
  rw [Target.exec, Target.loaded] at hrun
  simp only [pathWith, result_target_eq_ok_iff.2 hm, hmake, hrun, hf, if_true, true_and]

theorem pathWith_of_ok (hm : Leads h p m) (hmake : m.make running t = (.ok serial, t'))
    (hrun : m.exec running t' serial = (.ok (), t'')) :
    (pathWith running h t p).1.result = .ok (m.loaded serial) ∧
      (pathWith running h t p).2 = t'' := by
  have hfound := result_target_eq_ok_iff.2 hm
  rw [Target.make] at hmake
  rw [Target.exec, Target.loaded] at hrun
  simp only [pathWith, hfound, hmake, hrun, and_true]
  rw [Traced.result_bind_of_ok hfound]
  rfl

def Target.run (h : Host) (m : Target) : Except Fault Unit :=
  match m.kind with
  | .compiled => runCompiled h m.file m.name
  | _ => Load.run h m.file

theorem Target.run_of_ne_compiled (hm : m.kind ≠ .compiled) : m.run h = Load.run h m.file := by
  unfold run
  split
  · exact absurd ‹_› hm
  · rfl

theorem Target.make_ofHost_of_native (hm : m.kind = .native) (h : Host) (t : ModuleTable) :
    m.make (.ofHost h) t = (.error (Running.unlinked m.file), t) := by
  rw [make, hm]
  rfl

theorem Target.exec_ofHost {x : Except Fault Unit} (hrun : m.run h = x) (t : ModuleTable)
    (serial : Nat) : m.exec (.ofHost h) t serial = (x, t.insert (m.loaded serial)) := by
  rw [← hrun]
  rfl

theorem Running.report_ofHost (h : Host) (headline : String) (f : Fault) :
    (Running.ofHost h).report headline f = .load headline (some f) := by
  cases f <;> rfl

theorem Target.isExit_of_run (hrun : m.run h = .error f) : f.isExit = false := by
  unfold run at hrun
  split at hrun
  · exact isExit_of_runAs ModuleCode.isExit_of_ofCompiled hrun
  · exact isExit_of_runAs ModuleCode.isExit_of_ofBytes hrun

theorem path_of_not_leads (hnone : ∀ m, ¬Leads h p m) (t : ModuleTable) :
    (∃ e, (path h t p).1.result = .error e) ∧ (path h t p).2 = t := by
  cases hfound : (target h p).result with
  | ok m => exact absurd (result_target_eq_ok_iff.1 hfound) (hnone m)
  | error e =>
    rw [path, pathWith_of_error hfound]
    exact ⟨⟨e, rfl⟩, rfl⟩

theorem path_of_native (hm : Leads h p m) (hnative : m.kind = .native) (t : ModuleTable) :
    (∃ e, (path h t p).1.result = .error e) ∧ (path h t p).2 = t := by
  obtain ⟨hresult, htable⟩ := pathWith_of_unmade hm (Target.make_ofHost_of_native hnative h t)
  exact ⟨⟨_, hresult⟩, htable⟩

theorem path_of_run_error (hm : Leads h p m) (hkind : m.kind ≠ .native)
    (hrun : m.run h = .error f) (t : ModuleTable) :
    (path h t p).1.result =
        .error (.load ("Failed to load module from " ++ m.path.toString) (some f)) ∧
      (path h t p).2 = (t.insert (m.loaded t.fresh)).erase m.name := by
  rw [← Running.report_ofHost h]
  exact pathWith_of_fault hm (Target.make_of_ne_native hkind _ t) (Target.exec_ofHost hrun t _)
    (Target.isExit_of_run hrun)

theorem path_of_run_ok (hm : Leads h p m) (hkind : m.kind ≠ .native) (hrun : m.run h = .ok ())
    (t : ModuleTable) :
    (path h t p).1.result = .ok (m.loaded t.fresh) ∧
      (path h t p).2 = t.insert (m.loaded t.fresh) :=
  pathWith_of_ok hm (Target.make_of_ne_native hkind _ t) (Target.exec_ofHost hrun t _)

theorem result_path_eq_ok_iff {loaded : Loaded} : (path h t p).1.result = .ok loaded ↔
    ∃ m, Leads h p m ∧ m.kind ≠ .native ∧ m.run h = .ok () ∧ loaded = m.loaded t.fresh := by
  constructor
  · intro hloaded
    by_cases hnone : ∀ m, ¬Leads h p m
    · obtain ⟨⟨e, he⟩, -⟩ := path_of_not_leads hnone t
      cases he.symm.trans hloaded
    · obtain ⟨m, hm⟩ := Classical.not_forall.1 hnone
      have hm := Classical.not_not.1 hm
      by_cases hnative : m.kind = .native
      · obtain ⟨⟨e, he⟩, -⟩ := path_of_native hm hnative t
        cases he.symm.trans hloaded
      · cases hrun : m.run h with
        | error f => cases (path_of_run_error hm hnative hrun t).1.symm.trans hloaded
        | ok u =>
          have hsame := (path_of_run_ok hm hnative hrun t).1.symm.trans hloaded
          exact ⟨m, hm, hnative, hrun, (Except.ok.inj hsame).symm⟩
  · rintro ⟨m, hm, hkind, hrun, rfl⟩
    exact (path_of_run_ok hm hkind hrun t).1

theorem entry_of_isAbsolute {e : String} (he : (Path.ofString e).isAbsolute = true) (h : Host)
    (t : ModuleTable) : entry h t e = path h t (Path.ofString e) := if_pos he

theorem result_loader (h : Host) (t : ModuleTable) (e : String) :
    (loader h t e).1.result = (entry h t e).1.result.map Loaded.toValue := by
  have hvalue : (loader h t e).1 = Loaded.toValue <$> (entry h t e).1 := rfl
  rw [hvalue, map_eq_pure_bind, Traced.result_bind]
  cases (entry h t e).1.result <;> rfl

end Load

end SiteModules
