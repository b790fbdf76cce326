import SiteModules.Proofs.Locator.Garbled
import SiteModules.Proofs.Manifest.Shape
import SiteModules.Proofs.Naming.Canonical
import SiteModules.Proofs.Resolver.Loading

/-!
Which failures come out of a resolver that reads the manifest of the project and loads nothing.
They are failures of resolution, unless the files of the project or the description of a declared
package are in one of a few bad states.
-/

namespace SiteModules

def Traced.Foreseen {α : Type} (t : Traced α) : Prop :=
  (∃ x, t.result = .ok x) ∨ ∃ e, t.result = .error e ∧ e.isResolution = true

namespace Resolver

variable {r : Resolver} {h : Host} {request : String} {base : Path} {m : Manifest}

def Passed (r : Resolver) (h : Host) (base : Path) (m : Manifest) (name : String) : Prop :=
  m.declares name = false ∧ (r.defaults.find h name base).result = .ok none

theorem breaks_tryName_iff {name : String} (hne : name ≠ "") :
    (r.tryName h request base (fun name => .ok (m.declares name)) name).Breaks ↔
      m.declares name = true ∧ Locator.Lost h name base := by
  unfold tryName
  rw [Traced.breaks_bind_of_ok (x := m.declares name) rfl]
  cases m.declares name with
  | true =>
    simp only [if_true, true_and]
    rw [Traced.breaks_bind_iff_of_not_breaks, Locator.breaks_locate_iff hne]
    intro place
    exact not_breaks_debug _ _ _
  | false =>
    simp only [Bool.false_eq_true, if_false, false_and, iff_false]
    apply Traced.not_breaks_bind (Defaults.not_breaks_findAmong h name _)
    intro found
    cases found with
    | none => exact Traced.not_breaks_pure none
    | some p => exact not_breaks_debug _ _ _

theorem breaks_tryNames_iff {names : List String} (hne : ∀ c ∈ names, c ≠ "") :
    (r.tryNames h request base (fun name => .ok (m.declares name)) names).Breaks ↔
      ∃ before name after, names = before ++ name :: after ∧
        (∀ c ∈ before, r.Passed h base m c) ∧ m.declares name = true ∧
        Locator.Lost h name base := by
  have hpassed : ∀ c, (r.tryName h request base (fun name => .ok (m.declares name)) c).result =
      .ok none ↔ r.Passed h base m c := by
    intro c
    rw [result_tryName_eq_none_iff]
    simp [Passed]
  constructor
  · rintro ⟨e, he, hunforeseen⟩
    obtain ⟨before, name, after, hnames, hbefore, hname⟩ := result_tryNames_eq_error_iff.1 he
    have hlost := (breaks_tryName_iff (hne name (by simp [hnames]))).1 ⟨e, hname, hunforeseen⟩
    exact ⟨before, name, after, hnames, fun c hc => (hpassed c).1 (hbefore c hc), hlost⟩
  · rintro ⟨before, name, after, hnames, hbefore, hlost⟩
    obtain ⟨e, hname, hunforeseen⟩ := (breaks_tryName_iff (hne name (by simp [hnames]))).2 hlost
    refine ⟨e, result_tryNames_eq_error_iff.2 ⟨before, name, after, hnames, ?_, hname⟩, hunforeseen⟩
    exact fun c hc => (hpassed c).2 (hbefore c hc)

/-- What a search for a package meets that none of its failures is about. -/
inductive Snag (r : Resolver) (h : Host) (request : String) (base : Path) : Prop
  | manifest (hbroken : Manifest.Broken h base)
  | lost {m : Manifest} {before after : List String} {name : String}
    (hm : (Manifest.ofProject h base).result = .ok m)
    (hnames : r.naming.candidates request = before ++ name :: after)
    (hbefore : ∀ c ∈ before, r.Passed h base m c)
    (hdeclared : m.declares name = true) (hlost : Locator.Lost h name base)

theorem breaks_probe_iff (hmanifest : r.manifest = none) (hne : request ≠ "") :
    (r.probe h request base).Breaks ↔ Snag r h request base := by
  have hnames : ∀ c ∈ r.naming.candidates request, c ≠ "" :=
    fun c hc => Naming.ne_empty_of_mem_candidates hne hc
  have hprobe : r.probe h request base = Manifest.ofProject h base >>= fun m =>
      r.tryNames h request base (fun name => .ok (m.declares name))
        (r.naming.candidates request) := by
    simp only [probe, declares, hmanifest, bind_assoc, pure_bind]
  rw [hprobe, Traced.breaks_bind_iff, Manifest.breaks_ofProject_iff]
  simp only [breaks_tryNames_iff hnames]
  constructor
  · rintro (hbroken | ⟨m, hm, before, name, after, hsplit, hbefore, hdeclared, hlost⟩)
    · exact .manifest hbroken
    · exact .lost hm hsplit hbefore hdeclared hlost
  · rintro (hbroken | ⟨hm, hsplit, hbefore, hdeclared, hlost⟩)
    · exact .inl hbroken
    · exact .inr ⟨_, hm, _, _, _, hsplit, hbefore, hdeclared, hlost⟩

theorem isResolution_probeFailure_iff {e : Failure} :
    (r.probeFailure request e).isResolution = true ↔ ¬e.Unforeseen := by
  unfold probeFailure Failure.Unforeseen
  cases hsystem : e.system? with
  | some f => simp [Failure.isResolution]
  | none => simp

theorem foreseen_findPackage_iff (hvalid : checkName request = .ok ()) :
    (r.findPackage h request base).Foreseen ↔ ¬(r.probe h request base).Breaks := by
  unfold Traced.Foreseen Traced.Breaks
  rw [result_findPackage hvalid]
  cases (r.probe h request base).result with
  | error e => simp [isResolution_probeFailure_iff]
  | ok found => cases found <;> simp [Failure.isResolution]

theorem Checks.isResolution {check : String → Except Failure Unit} (hcheck : Checks check)
    {e : Failure} (hfailed : check request = .error e) : e.isResolution = true := by
  obtain hok | ⟨reason, herror⟩ := hcheck request
  · cases hfailed.symm.trans hok
  · cases hfailed.symm.trans herror
    rfl

theorem foreseen_of_checkPath {text : String} {d : Descriptor} :
    (Traced.ofExcept (checkPath request) >>= fun _ => r.say text >>= fun _ => pure d).Foreseen := by
  cases hcheck : checkPath request with
  | error e => exact .inr ⟨e, rfl, checks_checkPath.isResolution hcheck⟩
  | ok u => exact .inl ⟨d, rfl⟩

theorem foreseen_findObject (r : Resolver) (v : Value) : (r.findObject v).Foreseen := by
  unfold findObject
  split
  · exact .inl ⟨_, rfl⟩
  · exact .inr ⟨_, rfl, rfl⟩

def SearchesFor (request : Value) (name : String) : Prop :=
  request.shape = .packageName ∧ request.text? = some name ∧ checkName name = .ok ()

theorem exists_text_of_shape {request : Value} (hshape : request.shape = .packageName) :
    ∃ name, request.text? = some name := by
  cases htext : request.text? with
  | some name => exact ⟨name, rfl⟩
  | none =>
    simp only [Value.shape, htext] at hshape
    split at hshape <;> cases hshape

theorem foreseen_search_iff (hmanifest : r.manifest = none) {request : Value}
    {cwd : Option Path} : (r.search h request cwd).Foreseen ↔
      ¬∃ name, SearchesFor request name ∧ Snag r h name (r.base h cwd) := by
  have hother (hshape : request.shape ≠ .packageName) :
      ¬∃ name, SearchesFor request name ∧ Snag r h name (r.base h cwd) := by
    rintro ⟨name, hsearch, -⟩
    exact hshape hsearch.1
  unfold search
  split
  · next heq => exact iff_of_true (.inl ⟨_, rfl⟩) (hother (by simp [heq]))
  · next heq => exact iff_of_true (r.foreseen_findObject request) (hother (by simp [heq]))
  · next heq => exact iff_of_true foreseen_of_checkPath (hother (by simp [heq]))
  · next heq => exact iff_of_true foreseen_of_checkPath (hother (by simp [heq]))
  · next heq =>
    obtain ⟨name, htext⟩ := exists_text_of_shape heq
    simp only [htext, Option.getD_some, SearchesFor, heq, true_and, Option.some.injEq]
    cases hvalid : checkName name with
    | error e =>
      refine iff_of_true (.inr ⟨e, ?_, checks_checkName.isResolution hvalid⟩) ?_
      · exact Traced.result_bind_of_error hvalid _
      · rintro ⟨_, ⟨rfl, hok⟩, -⟩
        cases hvalid.symm.trans hok
    | ok u =>
      rw [foreseen_findPackage_iff hvalid,
        breaks_probe_iff hmanifest (ne_empty_of_checkName hvalid)]
      refine not_congr ⟨fun hsnag => ⟨name, ⟨rfl, hvalid⟩, hsnag⟩, ?_⟩
      rintro ⟨_, ⟨rfl, -⟩, hsnag⟩
      exact hsnag

/--
A resolver that loads nothing answers with a descriptor or a failure of resolution, unless the
search for a package meets a snag.
-/
theorem foreseen_iff_no_snag (hlazy : r.autoLoad = false) (hmanifest : r.manifest = none)
    (h : Host) (t : ModuleTable) (request : Value) (cwd : Option Path) :
    (r.resolve h t request cwd).1.Foreseen ↔
      ¬∃ name, SearchesFor request name ∧ Snag r h name (r.base h cwd) := by
  rw [resolve_of_lazy hlazy]
  exact foreseen_search_iff hmanifest

theorem result_probe_of_unread {e : Failure} (hmanifest : r.manifest = none)
    (hfile : (h.isFile (Manifest.projectFile base)).result = .ok true)
    (hread : Manifest.readRequirements h (Manifest.projectFile base) = .error e)
    (request : String) : (r.probe h request base).result = .error e := by
  have hthere : (Manifest.readIfThere h (Manifest.projectFile base)
      Manifest.readRequirements).result = .error e := by
    rw [Manifest.readIfThere, Traced.result_bind_of_ok hfile]
    exact hread
  have hproject : (Manifest.ofProject h base).result = .error e :=
    Traced.result_bind_of_error hthere _
  have hdeclares : (r.declares h base).result = .error e := by
    simp only [declares, hmanifest]
    exact Traced.result_bind_of_error hproject _
  exact Traced.result_bind_of_error hdeclares _

def describedSite (bytes : List UInt8) : Host where
  files := ⟨[(["p"], .directory), (["p", "pyproject.toml"], .file bytes)], []⟩
  cwd := ["p"]
  home := ⟨.single, ["home"]⟩
  packages := ⟨.single, ["site"]⟩
  organization := none

def describedResolver (bytes : List UInt8) : Resolver :=
  lazyResolver (describedSite bytes) "theme" "docsite" [] none

def describedAnswer (bytes : List UInt8) : Traced Descriptor :=
  ((describedResolver bytes).resolve (describedSite bytes) .empty (.text "dark") none).1

def descriptionFile : Path := ⟨.single, ["p", "pyproject.toml"]⟩

theorem result_describedAnswer {bytes : List UInt8} {e : Failure}
    (hread : Manifest.readRequirements (describedSite bytes) descriptionFile = .error e) :
    (describedAnswer bytes).result = .error ((describedResolver bytes).probeFailure "dark" e) := by
  have hbase : (describedResolver bytes).base (describedSite bytes) none = ⟨.single, ["p"]⟩ := rfl
  have hplace : Manifest.projectFile ⟨.single, ["p"]⟩ = descriptionFile := rfl
  have hfile : ((describedSite bytes).isFile descriptionFile).result = .ok true := rfl
  rw [← hplace] at hread hfile
  rw [describedAnswer, result_resolve_of_lazy ⟨rfl, rfl⟩ rfl, hbase,
    result_probe_of_unread rfl hfile hread]

theorem foreseen_bracket :
    (describedResolver [0x5b]).autoLoad = false ∧ (describedResolver [0x5b]).manifest = none ∧
    ((describedAnswer [0x5b]).Foreseen ↔ ¬∃ name, SearchesFor (.text "dark") name ∧
      Snag (describedResolver [0x5b]) (describedSite [0x5b]) name
        ((describedResolver [0x5b]).base (describedSite [0x5b]) none)) ∧
    (describedAnswer [0x5b]).result =
      .error (.manifest "Failed to read /p/pyproject.toml"
        (some (.document .toml .malformed))) := by
  have hread : Manifest.readRequirements (describedSite [0x5b]) descriptionFile =
      .error (Manifest.unreadable descriptionFile (some (.document .toml .malformed))) := rfl
  exact ⟨rfl, rfl, foreseen_iff_no_snag rfl rfl _ _ _ _, result_describedAnswer hread⟩

/-- A description that is no text is not foreseen, and ends the search for a package. -/
theorem not_foreseen_undecodable :
    make (describedSite [0xff]) "theme" (lazyOptions "docsite" [] none) =
      .ok (describedResolver [0xff]) ∧
    (describedResolver [0xff]).autoLoad = false ∧ (describedResolver [0xff]).manifest = none ∧
    (describedAnswer [0xff]).result = .error (.fault .notUtf8) ∧
    ¬(describedAnswer [0xff]).Foreseen := by
  have hread : Manifest.readRequirements (describedSite [0xff]) descriptionFile =
      .error (.fault .notUtf8) := rfl
  have hresult : (describedAnswer [0xff]).result = .error (.fault .notUtf8) :=
    result_describedAnswer hread
  refine ⟨make_lazyOptions (by decide) _ _ _ _, rfl, rfl, hresult, ?_⟩
  rintro (⟨found, hfound⟩ | ⟨e, he, hforeseen⟩)
  · cases hresult.symm.trans hfound
  · cases hresult.symm.trans he
    cases hforeseen

end Resolver

end SiteModules
