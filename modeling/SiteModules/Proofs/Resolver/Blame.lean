import SiteModules.Proofs.Load.Escape
import SiteModules.Proofs.Resolver.Closed

namespace SiteModules

namespace Resolver

variable {r : Resolver} {h : Host} {t : ModuleTable} {base : Path} {e : Failure}

def probeReport (r : Resolver) (name : String) (f : Fault) : Failure :=
  .resolution ("Failed to probe " ++ r.kind ++ " '" ++ name ++ "'") (some f)

def Reached (r : Resolver) (h : Host) (base : Path) (d : Declares) (request name : String) : Prop :=
  ∃ before after, r.naming.candidates request = before ++ name :: after ∧
    ∀ c ∈ before, d c = .ok false ∧ (r.defaults.find h c base).result = .ok none

/-- What has raised a failure in the search for a package. -/
inductive Origin (r : Resolver) (h : Host) (base : Path) (request : String) (e : Failure) : Prop
  | manifest (he : (r.declares h base).result = .error e)
  | question {d : Declares} {name : String} (hd : (r.declares h base).result = .ok d)
    (hname : r.Reached h base d request name) (he : d name = .error e)
  | locator {d : Declares} {name : String} (hd : (r.declares h base).result = .ok d)
    (hname : r.Reached h base d request name) (hdeclared : d name = .ok true)
    (he : (Locator.locate h name base).result = .error e)
  | defaults {d : Declares} {name : String} (hd : (r.declares h base).result = .ok d)
    (hname : r.Reached h base d request name) (hdeclared : d name = .ok false)
    (he : (r.defaults.find h name base).result = .error e)

theorem result_tryName_eq_error_iff {d : Declares} {request name : String} :
    (r.tryName h request base d name).result = .error e ↔
      d name = .error e ∨
      (d name = .ok true ∧ (Locator.locate h name base).result = .error e) ∨
      (d name = .ok false ∧ (r.defaults.find h name base).result = .error e) := by
  rw [result_tryName]
  cases d name with
  | error e' => simp [Except.bind]
  | ok declared =>
    cases declared with
    | true =>
      simp only [Except.bind, if_true]
      cases (Locator.locate h name base).result <;> simp [Except.map]
    | false =>
      simp only [Except.bind, Bool.false_eq_true, if_false]
      cases (r.defaults.find h name base).result <;> simp [Except.map]

theorem result_probe_eq_error_iff {request : String} :
    (r.probe h request base).result = .error e ↔ Origin r h base request e := by
  have hreached : ∀ d name, (∃ before after, r.naming.candidates request = before ++ name :: after ∧
      ∀ c ∈ before, (r.tryName h request base d c).result = .ok none) ↔
      r.Reached h base d request name := by
    intro d name
    simp only [Reached, result_tryName_eq_none_iff]
  unfold probe
  rw [Traced.result_bind]
  constructor
  · intro hfailed
    cases hd : (r.declares h base).result with
    | error e' =>
      rw [hd] at hfailed
      cases hfailed
      exact .manifest hd
    | ok d =>
      rw [hd] at hfailed
      obtain ⟨before, name, after, hnames, hbefore, hname⟩ :=
        result_tryNames_eq_error_iff.1 hfailed
      have hcome := (hreached d name).1 ⟨before, after, hnames, hbefore⟩
      obtain he | ⟨hdeclared, he⟩ | ⟨hdeclared, he⟩ := result_tryName_eq_error_iff.1 hname
      · exact .question hd hcome he
      · exact .locator hd hcome hdeclared he
      · exact .defaults hd hcome hdeclared he
  · have hstop : ∀ {d name}, (r.declares h base).result = .ok d → r.Reached h base d request name →
        (r.tryName h request base d name).result = .error e →
        (r.declares h base).result.bind (fun d =>
          (r.tryNames h request base d (r.naming.candidates request)).result) = .error e := by
      intro d name hd hcome he
      obtain ⟨before, after, hnames, hbefore⟩ := (hreached d name).2 hcome
      rw [hd]
      exact result_tryNames_eq_error_iff.2 ⟨before, name, after, hnames, hbefore, he⟩
    rintro (he | ⟨hd, hcome, he⟩ | ⟨hd, hcome, hdeclared, he⟩ | ⟨hd, hcome, hdeclared, he⟩)
    · rw [he]
      rfl
    · exact hstop hd hcome (result_tryName_eq_error_iff.2 (.inl he))
    · exact hstop hd hcome (result_tryName_eq_error_iff.2 (.inr (.inl ⟨hdeclared, he⟩)))
    · exact hstop hd hcome (result_tryName_eq_error_iff.2 (.inr (.inr ⟨hdeclared, he⟩)))

theorem system?_eq_some_iff {f : Fault} :
    e.system? = some f ↔ e = .fault f ∧ f.isSystem = true := by
  cases e with
  | fault g =>
    simp only [Failure.system?, Failure.fault.injEq]
    split
    · next hsystem =>
      rw [Option.some.injEq]
      constructor
      · rintro rfl
        exact ⟨rfl, hsystem⟩
      · exact And.left
    · next hsystem =>
      refine iff_of_false (by simp) ?_
      rintro ⟨rfl, hf⟩
      exact hsystem hf
  | _ => simp [Failure.system?]

theorem probeFailure_eq_self_iff {request : String} :
    r.probeFailure request e = e ↔ ¬∃ f, e = .fault f ∧ f.isSystem = true := by
  unfold probeFailure
  simp only [← system?_eq_some_iff]
  cases hsystem : e.system? with
  | none => simp
  | some f =>
    simp only [Option.some.injEq, exists_eq', not_true, iff_false]
    rintro rfl
    cases hsystem

theorem probeReport_inj {name name' : String} {f f' : Fault} :
    r.probeReport name f = r.probeReport name' f' ↔ name = name' ∧ f = f' := by
  constructor
  · intro hsame
    obtain ⟨hheadline, hcause⟩ := Failure.resolution.inj hsame
    refine ⟨?_, Option.some.inj hcause⟩
    rw [← String.toList_inj] at hheadline ⊢
    simpa only [String.toList_append, List.append_cancel_right_eq, List.append_cancel_left_eq]
      using hheadline
  · rintro ⟨rfl, rfl⟩
    rfl

theorem probeFailure_eq_probeReport_iff {request name : String} {f : Fault} :
    r.probeFailure request e = r.probeReport name f ↔
      e = r.probeReport name f ∨ (e = .fault f ∧ f.isSystem = true ∧ request = name) := by
  cases hsystem : e.system? with
  | some g =>
    obtain ⟨rfl, hg⟩ := system?_eq_some_iff.1 hsystem
    have hworded : r.probeFailure request (.fault g) = r.probeReport request g := by
      simp only [probeFailure, hsystem, probeReport]
    have hother : Failure.fault g ≠ r.probeReport name f := by simp [probeReport]
    rw [hworded, probeReport_inj]
    constructor
    · rintro ⟨rfl, rfl⟩
      exact .inr ⟨rfl, hg, rfl⟩
    · rintro (hsame | ⟨hsame, -, rfl⟩)
      · exact absurd hsame hother
      · exact ⟨rfl, Failure.fault.inj hsame⟩
  | none =>
    have hkept : r.probeFailure request e = e := by simp only [probeFailure, hsystem]
    rw [hkept]
    refine ⟨.inl, ?_⟩
    rintro (hsame | ⟨hsame, hf, -⟩)
    · exact hsame
    · rw [system?_eq_some_iff.2 ⟨hsame, hf⟩] at hsystem
      cases hsystem

variable {request : Value} {cwd : Option Path}

theorem passOn_of_shape {name : String} (hshape : request.shape = .packageName)
    (htext : request.text? = some name) : r.passOn request = r.probeFailure name := by
  simp only [passOn, hshape, htext, Option.getD_some]

theorem passOn_of_shape_ne (hshape : request.shape ≠ .packageName) : r.passOn request = id := by
  unfold passOn
  split
  · next heq => exact absurd heq hshape
  · rfl

def SearchRaises (r : Resolver) (h : Host) (request : Value) (cwd : Option Path) (e : Failure) :
    Prop :=
  ∃ name, SearchesFor request name ∧ Origin r h (r.base h cwd) name e

def LoaderRaises (r : Resolver) (h : Host) (t : ModuleTable) (request : Value) (cwd : Option Path)
    (e : Failure) : Prop :=
  Places request.shape ∧ ∃ found place,
    ((r.withLoading false).resolve h t request cwd).1.result = .ok found ∧
    found.entry = some (.place place) ∧ (r.loader h t place).1.result = .error e

theorem result_eagerly_eq_error_iff :
    ((r.withLoading true).resolve h t request cwd).1.result = .error e ↔
      (r.search h request cwd).result = .error e ∨
        ∃ e', r.LoaderRaises h t request cwd e' ∧ r.passOn request e' = e := by
  unfold LoaderRaises
  simp only [result_lazily]
  by_cases hplaces : Places request.shape
  · cases hsearch : (r.search h request cwd).result with
    | error e' =>
      rw [resolve_of_places hplaces, search_withLoading, finish_of_error hsearch, hsearch]
      simp
    | ok found =>
      obtain ⟨place, hplace⟩ := exists_place_of_search hplaces hsearch
      rw [resolve_eagerly hplaces hsearch hplace]
      cases hload : (r.loader h t place).1.result with
      | ok v => simp [hplaces, hplace, hload, Except.map, Except.mapError]
      | error e' => simp [hplaces, hplace, hload, Except.map, Except.mapError]
  · rw [resolve_of_not_places hplaces, search_withLoading]
    simp [hplaces]

theorem passOn_eq_probeReport_iff {name : String} {f : Fault} :
    r.passOn request e = r.probeReport name f ↔ e = r.probeReport name f ∨
      (e = .fault f ∧ f.isSystem = true ∧ request.shape = .packageName ∧
        request.text? = some name) := by
  by_cases hshape : request.shape = .packageName
  · obtain ⟨text, htext⟩ := exists_text_of_shape hshape
    rw [passOn_of_shape hshape htext, probeFailure_eq_probeReport_iff]
    simp [hshape, htext]
  · rw [passOn_of_shape_ne hshape]
    simp [hshape]

theorem passOn_eq_self_iff : r.passOn request e = e ↔
    ¬(request.shape = .packageName ∧ ∃ f, e = .fault f ∧ f.isSystem = true) := by
  by_cases hshape : request.shape = .packageName
  · obtain ⟨text, htext⟩ := exists_text_of_shape hshape
    rw [passOn_of_shape hshape htext, probeFailure_eq_self_iff]
    simp [hshape]
  · rw [passOn_of_shape_ne hshape]
    simp [hshape]

theorem Checks.ne_probeReport {check : String → Except Failure Unit} (hcheck : Checks check)
    (text : String) {name : String} {f : Fault} : check text ≠ .error (r.probeReport name f) := by
  obtain hok | ⟨reason, herror⟩ := hcheck text
  · simp [hok]
  · simp [herror, probeReport]

theorem result_checked_ne_probeReport {text said name : String} {d : Descriptor} {f : Fault} :
    (Traced.ofExcept (checkPath text) >>= fun _ => r.say said >>= fun _ => pure d).result ≠
      .error (r.probeReport name f) := by
  rw [Traced.result_bind]
  intro hsame
  cases hcheck : checkPath text with
  | error e =>
    rw [Traced.result_ofExcept, hcheck] at hsame
    cases hsame
    exact checks_checkPath.ne_probeReport _ hcheck
  | ok u =>
    rw [Traced.result_ofExcept, hcheck] at hsame
    cases hsame

theorem result_findPackage_eq_probeReport_iff {text name : String} {f : Fault} :
    (r.findPackage h text base).result = .error (r.probeReport name f) ↔ checkName text = .ok () ∧
      ∃ e, Origin r h base text e ∧ r.probeFailure text e = r.probeReport name f := by
  cases hvalid : checkName text with
  | error e =>
    rw [findPackage, Traced.result_bind_of_error (Traced.result_ofExcept _ |>.trans hvalid)]
    refine iff_of_false ?_ (by simp)
    rintro ⟨⟩
    exact checks_checkName.ne_probeReport _ hvalid
  | ok u =>
    rw [result_findPackage hvalid]
    simp only [← result_probe_eq_error_iff, true_and]
    cases (r.probe h text base).result with
    | error e => simp
    | ok found => cases found <;> simp [probeReport]

theorem result_search_eq_probeReport_iff {name : String} {f : Fault} :
    (r.search h request cwd).result = .error (r.probeReport name f) ↔
      ∃ e, r.SearchRaises h request cwd e ∧ r.passOn request e = r.probeReport name f := by
  -- A report is about a package, so that requests of other shapes have none.
  have hother (hshape : request.shape ≠ .packageName) :
      ¬∃ e, r.SearchRaises h request cwd e ∧ r.passOn request e = r.probeReport name f := by
    rintro ⟨e, ⟨text, hsearch, -⟩, -⟩
    exact hshape hsearch.1
  unfold search
  split
  · next heq => exact iff_of_false (by simp) (hother (by simp [heq]))
  · next heq =>
    refine iff_of_false ?_ (hother (by simp [heq]))
    unfold findObject
    split
    · rintro ⟨⟩
    · simp [probeReport]
  · next heq => exact iff_of_false result_checked_ne_probeReport (hother (by simp [heq]))
  · next heq => exact iff_of_false result_checked_ne_probeReport (hother (by simp [heq]))
  · next heq =>
    obtain ⟨text, htext⟩ := exists_text_of_shape heq
    rw [htext, Option.getD_some, result_findPackage_eq_probeReport_iff]
    simp only [SearchRaises, SearchesFor, heq, htext, passOn_of_shape heq htext, true_and,
      Option.some.injEq]
    constructor
    · rintro ⟨hvalid, e, he, hsame⟩
      exact ⟨e, ⟨text, ⟨rfl, hvalid⟩, he⟩, hsame⟩
    · rintro ⟨e, ⟨_, ⟨rfl, hvalid⟩, he⟩, hsame⟩
      exact ⟨hvalid, e, he, hsame⟩

/-- What becomes of failures in a resolver that loads. -/
structure Blames (r : Resolver) (h : Host) (t : ModuleTable) (request : Value)
    (cwd : Option Path) : Prop where
  passed : ∀ e, r.LoaderRaises h t request cwd e →
    (((r.withLoading true).resolve h t request cwd).1.result = .error e ↔
      ¬(request.shape = .packageName ∧ ∃ f, e = .fault f ∧ f.isSystem = true))
  reported : ∀ name f,
    ((r.withLoading true).resolve h t request cwd).1.result = .error (r.probeReport name f) ↔
      ∃ e, (r.SearchRaises h request cwd e ∨ r.LoaderRaises h t request cwd e) ∧
        (e = r.probeReport name f ∨ (e = .fault f ∧ f.isSystem = true ∧
          request.shape = .packageName ∧ request.text? = some name))

/-- The loader's faults of the system are blamed on the search for a package, and no others. -/
theorem blames_withLoading (r : Resolver) (h : Host) (t : ModuleTable) (request : Value)
    (cwd : Option Path) : Blames r h t request cwd := by
  constructor
  · intro e hraises
    rw [← passOn_eq_self_iff (r := r), result_eagerly_eq_error_iff]
    obtain ⟨hplaces, found, place, hfound, hplace, hload⟩ := hraises
    rw [result_lazily] at hfound
    rw [hfound]
    constructor
    · rintro (hsearch | ⟨e', ⟨-, found', place', hfound', hplace', hload'⟩, hsame⟩)
      · cases hsearch
      · rw [result_lazily, hfound] at hfound'
        cases hfound'
        cases hplace.symm.trans hplace'
        cases hload.symm.trans hload'
        exact hsame
    · intro hsame
      refine .inr ⟨e, ⟨hplaces, found, place, ?_, hplace, hload⟩, hsame⟩
      rw [result_lazily, hfound]
  · intro name f
    rw [result_eagerly_eq_error_iff, result_search_eq_probeReport_iff]
    simp only [passOn_eq_probeReport_iff, or_and_right, exists_or]

def unreadableCode : List UInt8 := Text.Utf8.ofString "raise OSError('disk')"

def diskFault : Fault := .raised ⟨.system, "OSError", "disk"⟩

def darkFile : Path := ⟨.single, ["site", "dark.py"]⟩

def unreadableSite : Host where
  files := ⟨[(["p"], .directory), (["site"], .directory),
    (["site", "dark.py"], .file unreadableCode)], []⟩
  cwd := ["p"]
  home := ⟨.single, ["home"]⟩
  packages := ⟨.single, ["site"]⟩
  organization := none

def onlyDark : Declares := fun name => .ok (name == "dark")

def unreadableResolver : Resolver :=
  lazyResolver unreadableSite "theme" "docsite" [] (some onlyDark)

def darkDependency : Descriptor := ⟨some (.place "dark"), some "dark", some "dark", some true⟩

theorem run_darkFile : Load.run unreadableSite darkFile = .error diskFault := by
  have hcode : ModuleCode.ofBytes unreadableCode = .raises ⟨.system, "OSError", "disk"⟩ := by
    decide +kernel
  have hread : unreadableSite.Holds darkFile unreadableCode := rfl
  rw [Load.run_of_holds hread, hcode]
  rfl

theorem result_loader_dark {t : ModuleTable} (ht : t.find? "dark" = none) :
    (Load.loader unreadableSite t "dark").1.result = .error (.fault diskFault) := by
  have hnames : Load.namesOf "dark" = ["dark"] := by decide +kernel
  have hfound : Load.findIn unreadableSite unreadableSite.packages "dark" =
      some (.code .source darkFile false) := rfl
  have hspoils : Load.Spoils (.ofHost unreadableSite) unreadableSite unreadableSite.packages "dark"
      "dark" t diskFault := .raises hfound rfl run_darkFile
  have hraised : (Load.entry unreadableSite t "dark").1.result = .error (.fault diskFault) := by
    rw [Load.entry_eq_entryWith, Load.result_entryWith_eq_fault_iff rfl]
    refine .raised rfl ?_ rfl rfl
    rw [hnames]
    exact Load.raises_singleton_iff.2 ⟨ht, hspoils⟩
  rw [Load.result_loader, hraised]
  rfl

theorem result_locate_dark :
    (Locator.locate unreadableSite "dark" ⟨.single, ["p"]⟩).result = .ok "dark" := by
  have hchildren : unreadableSite.files.listing unreadableSite.cwd unreadableSite.packages =
      ["dark.py"] := by decide +kernel
  have hnone : Distribution.described? "dark.py" = none := by decide +kernel
  have hfind : Distribution.find unreadableSite "dark" = .ok none := by
    rw [Distribution.find, if_neg (by decide)]
    simp [hchildren, hnone]
  exact Locator.result_locate_eq_ok_iff.2 (.specifier rfl (.inr hfind))

theorem result_probe_dark :
    (unreadableResolver.probe unreadableSite "dark" ⟨.single, ["p"]⟩).result =
      .ok (some darkDependency) := by
  have hnames : unreadableResolver.naming.candidates "dark" =
      ["docsite-theme-dark", "theme-dark", "dark"] := by decide +kernel
  have hshortcut : unreadableResolver.naming.shortcutOf "dark" = "dark" := by decide +kernel
  have hfull : (unreadableResolver.tryName unreadableSite "dark" ⟨.single, ["p"]⟩ onlyDark
      "docsite-theme-dark").result = .ok none := result_tryName_eq_none_iff.2 ⟨rfl, rfl⟩
  have hkind : (unreadableResolver.tryName unreadableSite "dark" ⟨.single, ["p"]⟩ onlyDark
      "theme-dark").result = .ok none := result_tryName_eq_none_iff.2 ⟨rfl, rfl⟩
  have hshort : (unreadableResolver.tryName unreadableSite "dark" ⟨.single, ["p"]⟩ onlyDark
      "dark").result = .ok (some (unreadableResolver.packageAt "dark" "dark" "dark" true)) :=
    result_tryName_eq_some_iff.2 (.inl ⟨rfl, "dark", result_locate_dark, rfl⟩)
  have hdeclares : unreadableResolver.declares unreadableSite ⟨.single, ["p"]⟩ =
      pure onlyDark := rfl
  rw [probe, hdeclares, pure_bind, hnames]
  simp only [result_tryNames_cons, hfull, hkind, hshort, Except.bind, packageAt, hshortcut,
    darkDependency]

theorem result_search_dark :
    (unreadableResolver.search unreadableSite (.text "dark") none).result = .ok darkDependency := by
  have hshape : (Value.text "dark").shape = .packageName := by decide
  have hvalid : checkName "dark" = .ok () := rfl
  have hbase : unreadableResolver.base unreadableSite none = ⟨.single, ["p"]⟩ := rfl
  simp only [search, hshape, Value.text?, Option.getD_some]
  rw [hbase, result_findPackage hvalid, result_probe_dark]

theorem not_passed_unreadable :
    make unreadableSite "theme" (lazyOptions "docsite" [] (some onlyDark)) =
      .ok unreadableResolver ∧
    ((unreadableResolver.withLoading false).resolve unreadableSite .empty (.text "dark")
      none).1.result = .ok darkDependency ∧
    (unreadableResolver.loader unreadableSite .empty "dark").1.result = .error (.fault diskFault) ∧
    ((unreadableResolver.withLoading true).resolve unreadableSite .empty (.text "dark")
      none).1.result = .error (unreadableResolver.probeReport "dark" diskFault) ∧
    unreadableResolver.probeReport "dark" diskFault ≠ .fault diskFault := by
  have hshape : (Value.text "dark").shape = .packageName := by decide
  have hplaces : Places (Value.text "dark").shape := by simp [Places, hshape]
  have hload : (unreadableResolver.loader unreadableSite .empty "dark").1.result =
      .error (.fault diskFault) := by
    have hloader : unreadableResolver.loader = Load.loader := rfl
    rw [hloader]
    exact result_loader_dark rfl
  have hreport : unreadableResolver.passOn (.text "dark") (.fault diskFault) =
      unreadableResolver.probeReport "dark" diskFault := by
    rw [passOn_of_shape hshape rfl]
    rfl
  refine ⟨make_lazyOptions (by decide) _ _ _ _, ?_, hload, ?_, by simp [probeReport]⟩
  · rw [result_lazily, result_search_dark]
  · rw [resolve_eagerly hplaces result_search_dark rfl]
    simp only [hload, Except.mapError_error, hreport, Except.map]

end Resolver

end SiteModules
