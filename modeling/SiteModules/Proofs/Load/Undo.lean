import SiteModules.Proofs.Load.Escape
import SiteModules.Proofs.Load.Registry

namespace SiteModules

namespace ModuleTable

variable {t t' : ModuleTable} {name : String}

def Agrees (t t' : ModuleTable) : Prop := ∀ name, t'.find? name = t.find? name

theorem agrees_erase_iff : t.Agrees (t'.erase name) ↔
    t.find? name = none ∧ ∀ other, other ≠ name → t'.find? other = t.find? other := by
  constructor
  · intro hagrees
    refine ⟨(hagrees name).symm.trans (find?_erase_self t' name), ?_⟩
    intro other hother
    rw [← hagrees other, find?_erase_of_ne hother]
  · rintro ⟨hfree, hothers⟩ other
    by_cases hother : other = name
    · rw [hother, find?_erase_self, hfree]
    · rw [find?_erase_of_ne hother, hothers other hother]

end ModuleTable

theorem ModuleName.ofPath_of_isAbsolute {p : Path} (hp : p.isAbsolute = true) (h h' : Host) :
    ofPath h p = ofPath h' p := by
  have hsame : h.canonical p = h'.canonical p := by
    simp [Host.canonical, Path.canonical, Path.absolute, hp]
  rw [ofPath, ofPath, hsame]

namespace Load

variable {running : Running} {h : Host} {t : ModuleTable} {e : String} {failure : Failure}

def LeavesProgram (running : Running) (h : Host) (t : ModuleTable) (e : String) : Prop :=
  ∃ m serial t' f, Leads h (Path.ofString e) m ∧ m.make running t = (.ok serial, t') ∧
    (m.exec running t' serial).1 = .error f ∧ f.isExit = true

theorem Leads.leavesProgram_iff {m : Target} {serial : Nat} {t' : ModuleTable} {f : Fault}
    (hm : Leads h (Path.ofString e) m) (hmake : m.make running t = (.ok serial, t'))
    (hrun : (m.exec running t' serial).1 = .error f) :
    LeavesProgram running h t e ↔ f.isExit = true := by
  constructor
  · rintro ⟨m', serial', t'', f', hm', hmake', hrun', hexit⟩
    obtain rfl := hm.unique hm'
    cases hmake.symm.trans hmake'
    cases hrun.symm.trans hrun'
    exact hexit
  · exact fun hexit => ⟨m, serial, t', f, hm, hmake, hrun, hexit⟩

/-- A load of a path raises, and leaves modules behind. -/
inductive Aborts (running : Running) (h : Host) (t : ModuleTable) (e : String) :
    ModuleTable → Prop
  | refused (hnone : ∀ m, ¬Leads h (Path.ofString e) m) : Aborts running h t e t
  | unmade {m : Target} {f : Fault} {t' : ModuleTable} (hm : Leads h (Path.ofString e) m)
    (hmake : m.make running t = (.error f, t')) : Aborts running h t e t'
  | fault {m : Target} {serial : Nat} {t' : ModuleTable} {f : Fault}
    (hm : Leads h (Path.ofString e) m) (hmake : m.make running t = (.ok serial, t'))
    (hrun : (m.exec running t' serial).1 = .error f) (hf : f.isExit = false) :
    Aborts running h t e ((m.exec running t' serial).2.erase m.name)
  | exit {m : Target} {serial : Nat} {t' : ModuleTable} {f : Fault}
    (hm : Leads h (Path.ofString e) m) (hmake : m.make running t = (.ok serial, t'))
    (hrun : (m.exec running t' serial).1 = .error f) (hf : f.isExit = true) :
    Aborts running h t e (m.exec running t' serial).2

theorem aborts_of_raised (he : (Path.ofString e).isAbsolute = true)
    (hraised : (entryWith running h t e).1.result = .error failure) :
    Aborts running h t e (entryWith running h t e).2 := by
  rw [entryWith_of_isAbsolute he] at hraised ⊢
  obtain hfound | ⟨m, hm, hraises⟩ := result_pathWith_eq_error_iff.1 hraised
  · rw [pathWith_of_error hfound]
    refine .refused ?_
    intro m hm
    cases hfound.symm.trans (result_target_eq_ok_iff.2 hm)
  · cases hraises with
    | @unmade f hmake =>
      have hmake : m.make running t = (.error f, (m.make running t).2) := Prod.ext hmake rfl
      rw [(pathWith_of_unmade hm hmake).2]
      exact .unmade hm hmake
    | @code serial t' f hmake hrun =>
      have hexec : m.exec running t' serial = (.error f, (m.exec running t' serial).2) :=
        Prod.ext hrun rfl
      cases hf : f.isExit with
      | false =>
        rw [(pathWith_of_fault hm hmake hexec hf).2]
        exact .fault hm hmake hrun hf
      | true =>
        rw [(pathWith_of_exit hm hmake hexec hf).2]
        exact .exit hm hmake hrun hf

/-- The modules that are loaded after a load that raises. -/
structure Aftermath (running : Running) (h : Host) (t : ModuleTable) (e : String)
    (after : ModuleTable) : Prop where
  refused : (∀ m, ¬Leads h (Path.ofString e) m) → after = t
  unmade : ∀ m f t', Leads h (Path.ofString e) m → m.make running t = (.error f, t') → after = t'
  /--
  After a fault all is as before exactly if no module had the name that the code is run under, and
  the code has itself left the other names alone.
  -/
  undone : ∀ m serial t', Leads h (Path.ofString e) m → m.make running t = (.ok serial, t') →
    ¬LeavesProgram running h t e → (t.Agrees after ↔ t.find? m.name = none ∧
      ∀ name, name ≠ m.name → (m.exec running t' serial).2.find? name = t.find? name)
  left : ∀ m serial t', Leads h (Path.ofString e) m → m.make running t = (.ok serial, t') →
    LeavesProgram running h t e → after = (m.exec running t' serial).2
  /-- If the code leaves its own name alone, that is then the name of another module than before. -/
  replaced : t.Numbered → ∀ m, Leads h (Path.ofString e) m → m.kind ≠ .native →
    LeavesProgram running h t e →
    (m.exec running t t.fresh).2.find? m.name = some (m.loaded t.fresh) →
    after.find? m.name = some (m.loaded t.fresh) ∧ ∀ name, t.find? name ≠ after.find? m.name

theorem aftermath_of_raised (he : (Path.ofString e).isAbsolute = true)
    (hraised : (entryWith running h t e).1.result = .error failure) :
    Aftermath running h t e (entryWith running h t e).2 := by
  have haborts := aborts_of_raised he hraised
  generalize (entryWith running h t e).2 = after at haborts
  -- The path leads to no other module, which is made or not, and whose code has ended in one way.
  have hleft : ∀ m serial t', Leads h (Path.ofString e) m → m.make running t = (.ok serial, t') →
      LeavesProgram running h t e → after = (m.exec running t' serial).2 := by
    intro m serial t' hm hmake hexit
    cases haborts with
    | refused hnone => exact absurd hm (hnone m)
    | unmade hm' hmake' =>
      obtain rfl := hm.unique hm'
      cases hmake.symm.trans hmake'
    | fault hm' hmake' hrun hf =>
      cases hf.symm.trans ((hm'.leavesProgram_iff hmake' hrun).1 hexit)
    | exit hm' hmake' =>
      obtain rfl := hm.unique hm'
      cases hmake.symm.trans hmake'
      rfl
  refine ⟨?_, ?_, ?_, hleft, ?_⟩
  · intro hnone
    cases haborts with
    | refused => rfl
    | unmade hm => exact absurd hm (hnone _)
    | fault hm => exact absurd hm (hnone _)
    | exit hm => exact absurd hm (hnone _)
  · intro m f t' hm hmake
    cases haborts with
    | refused hnone => exact absurd hm (hnone m)
    | unmade hm' hmake' =>
      obtain rfl := hm.unique hm'
      cases hmake.symm.trans hmake'
      rfl
    | fault hm' hmake' =>
      obtain rfl := hm.unique hm'
      cases hmake.symm.trans hmake'
    | exit hm' hmake' =>
      obtain rfl := hm.unique hm'
      cases hmake.symm.trans hmake'
  · intro m serial t' hm hmake hstays
    cases haborts with
    | refused hnone => exact absurd hm (hnone m)
    | unmade hm' hmake' =>
      obtain rfl := hm.unique hm'
      cases hmake.symm.trans hmake'
    | fault hm' hmake' =>
      obtain rfl := hm.unique hm'
      cases hmake.symm.trans hmake'
      exact ModuleTable.agrees_erase_iff
    | exit hm' hmake' hrun hf => exact absurd ((hm'.leavesProgram_iff hmake' hrun).2 hf) hstays
  · intro ht m hm hkind hexit hkept
    rw [hleft m t.fresh t hm (Target.make_of_ne_native hkind running t) hexit, hkept]
    exact ⟨rfl, ht.find?_ne rfl⟩

theorem Leads.isAbsolute_path {p : Path} {m : Target} (hm : Leads h p m) :
    m.path.isAbsolute = p.isAbsolute := by
  cases hm
  all_goals rfl

theorem find?_entryWith_of_reload {running' : Running} {h' : Host} {m m' : Target} {serial : Nat}
    {t' : ModuleTable} {f : Fault} (he : (Path.ofString e).isAbsolute = true)
    (hm : Leads h (Path.ofString e) m) (hm' : Leads h' (Path.ofString e) m')
    (hpath : m'.path = m.path) (hmake : m'.make running' t = (.ok serial, t'))
    (hrun : (m'.exec running' t' serial).1 = .error f) (hf : f.isExit = false) :
    (entryWith running' h' t e).2.find? m.name = none := by
  have hname : m'.name = m.name := by
    have hsame := hm'.ofPath_path
    rw [hpath, ModuleName.ofPath_of_isAbsolute (hm.isAbsolute_path.trans he) h' h,
      hm.ofPath_path] at hsame
    exact (Except.ok.inj hsame).symm
  have hexec : m'.exec running' t' serial = (.error f, (m'.exec running' t' serial).2) :=
    Prod.ext hrun rfl
  rw [entryWith_of_isAbsolute he, (pathWith_of_fault hm' hmake hexec hf).2, hname]
  exact ModuleTable.find?_erase_self _ _

def tocSite (code : List UInt8) : Host where
  files := ⟨[(["p"], .directory), (["p", "toc.py"], .file code)], []⟩
  cwd := ["p"]
  home := ⟨.single, ["home"]⟩
  packages := ⟨.single, ["site"]⟩
  organization := none

def tocLoaded : ModuleTable := (Load.entry (tocSite []) .empty "/p/toc.py").2

def tocPath : Path := ⟨.single, ["p", "toc.py"]⟩

theorem isAbsolute_tocEntry : (Path.ofString "/p/toc.py").isAbsolute = true := by decide

theorem exists_leads_tocSite (code : List UInt8) :
    ∃ m, Leads (tocSite code) (Path.ofString "/p/toc.py") m ∧ m.path = tocPath ∧
      m.file = tocPath ∧ m.kind = .source := by
  have hpath : Path.ofString "/p/toc.py" = tocPath := by decide
  have hkind : codeKind? tocPath = some .source := by decide
  obtain ⟨name, hname⟩ := ModuleName.exists_ofPath (tocSite code) (p := tocPath) rfl (by decide)
  rw [hpath]
  exact ⟨⟨tocPath, name, tocPath, .source, _⟩, .file rfl rfl hkind hname, rfl, rfl, rfl⟩

theorem run_tocPath_empty : run (tocSite []) tocPath = .ok () := by
  have hcode : ModuleCode.ofBytes [] = .ends := by decide +kernel
  have hread : (tocSite []).Holds tocPath [] := rfl
  rw [run_of_holds hread, hcode]

theorem run_tocPath_boomCode : run (tocSite boomCode) tocPath = .error boomFault := by
  have hread : (tocSite boomCode).Holds tocPath boomCode := rfl
  rw [run_of_holds hread, ofBytes_boomCode]
  rfl

theorem find?_tocLoaded {m : Target} (hm : Leads (tocSite []) (Path.ofString "/p/toc.py") m)
    (hfile : m.file = tocPath) (hkind : m.kind = .source) :
    tocLoaded.find? m.name = some (m.loaded 0) := by
  have hrun : m.run (tocSite []) = .ok () := by
    rw [Target.run_of_ne_compiled (by simp [hkind]), hfile, run_tocPath_empty]
  rw [tocLoaded, entry_of_isAbsolute isAbsolute_tocEntry,
    (path_of_run_ok hm (by simp [hkind]) hrun .empty).2]
  exact ModuleTable.find?_insert_self .empty (m.loaded 0)

theorem exec_tocSite {m : Target} (hfile : m.file = tocPath) (hkind : m.kind = .source)
    (t : ModuleTable) :
    m.exec (.ofHost (tocSite boomCode)) t t.fresh =
      (.error boomFault, t.insert (m.loaded t.fresh)) := by
  apply Target.exec_ofHost
  rw [Target.run_of_ne_compiled (by simp [hkind]), hfile, run_tocPath_boomCode]

theorem exists_result_reload : ∃ failure,
    (Load.entry (tocSite boomCode) tocLoaded "/p/toc.py").1.result = .error failure := by
  obtain ⟨m, hm, -, hfile, hkind⟩ := exists_leads_tocSite boomCode
  have hmake := Target.make_of_ne_native (m := m) (by simp [hkind]) (.ofHost (tocSite boomCode))
    tocLoaded
  rw [entry_eq_entryWith, entryWith_of_isAbsolute isAbsolute_tocEntry]
  exact ⟨_, (pathWith_of_fault hm hmake (exec_tocSite hfile hkind tocLoaded) rfl).1⟩

theorem aftermath_tocSite : (Path.ofString "/p/toc.py").isAbsolute = true ∧
    (∃ failure,
      (Load.entry (tocSite boomCode) tocLoaded "/p/toc.py").1.result = .error failure) ∧
    tocLoaded.Numbered ∧
    Aftermath (.ofHost (tocSite boomCode)) (tocSite boomCode) tocLoaded "/p/toc.py"
      (Load.entry (tocSite boomCode) tocLoaded "/p/toc.py").2 := by
  obtain ⟨failure, hraised⟩ := exists_result_reload
  have hnumbered : tocLoaded.Numbered :=
    numbered_entry isAbsolute_tocEntry ModuleTable.numbered_empty
  rw [entry_eq_entryWith] at hraised ⊢
  exact ⟨isAbsolute_tocEntry, ⟨failure, hraised⟩, hnumbered,
    aftermath_of_raised isAbsolute_tocEntry hraised⟩

def leaving : Running := .still (fun _ _ => .ok ()) fun _ _ _ =>
  .error (.raised ⟨.exit, "SystemExit", "1"⟩)

/-- Code that leaves the program as it is loaded anew leaves another module under the name. -/
example : tocLoaded.entries.map (fun m => m.2.serial) = [0] ∧
    (entryWith leaving (tocSite []) tocLoaded "/p/toc.py").2.entries.map (fun m => m.2.serial) =
      [1] := by
  decide +kernel

/-- The module that was loaded before is gone. -/
theorem not_agrees_reload :
    (∃ failure, (Load.entry (tocSite boomCode) tocLoaded "/p/toc.py").1.result = .error failure) ∧
    (∃ name m, tocLoaded.find? name = some m ∧
      (Load.entry (tocSite boomCode) tocLoaded "/p/toc.py").2.find? name = none) ∧
    ¬tocLoaded.Agrees (Load.entry (tocSite boomCode) tocLoaded "/p/toc.py").2 := by
  obtain ⟨m, hm, hpath, hfile, hkind⟩ := exists_leads_tocSite []
  obtain ⟨m', hm', hpath', hfile', hkind'⟩ := exists_leads_tocSite boomCode
  have hheld := find?_tocLoaded hm hfile hkind
  have hgone : (Load.entry (tocSite boomCode) tocLoaded "/p/toc.py").2.find? m.name = none := by
    have hmake := Target.make_of_ne_native (m := m') (by simp [hkind'])
      (.ofHost (tocSite boomCode)) tocLoaded
    have hrun := congrArg Prod.fst (exec_tocSite hfile' hkind' tocLoaded)
    rw [entry_eq_entryWith]
    exact find?_entryWith_of_reload isAbsolute_tocEntry hm hm' (hpath'.trans hpath.symm) hmake hrun
      rfl
  refine ⟨exists_result_reload, ⟨m.name, m.loaded 0, hheld, hgone⟩, ?_⟩
  intro hagrees
  cases hheld.symm.trans ((hagrees m.name).symm.trans hgone)

end Load

end SiteModules
