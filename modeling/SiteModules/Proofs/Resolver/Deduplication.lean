import SiteModules.Proofs.Naming.Canonical
import SiteModules.Proofs.Resolver.Package

namespace SiteModules.Resolver

variable {r : Resolver} {h : Host} {t : ModuleTable} {base : Path} {d : Declares} {a b : String}

theorem result_tryNames_congr (hshort : r.naming.shortcutOf a = r.naming.shortcutOf b)
    (names : List String) :
    (r.tryNames h a base d names).result = (r.tryNames h b base d names).result := by
  induction names with
  | nil => rfl
  | cons name rest ih =>
    rw [result_tryNames_cons, result_tryNames_cons, result_tryName, result_tryName, ih]
    simp only [packageAt, hshort]

theorem result_probe_congr
    (horg : (ScopedName.ofName a).org = (ScopedName.ofName b).org)
    (hshort : r.naming.shortcutOf a = r.naming.shortcutOf b) :
    (r.probe h a base).result = (r.probe h b base).result := by
  have hnames := Naming.candidates_congr r.naming horg hshort
  cases hd : (r.declares h base).result with
  | error e => rw [probe, probe, Traced.result_bind_of_error hd, Traced.result_bind_of_error hd]
  | ok d =>
    rw [probe, probe, Traced.result_bind_of_ok hd, Traced.result_bind_of_ok hd, hnames]
    exact result_tryNames_congr hshort _

inductive Interrupted (r : Resolver) (h : Host) (t : ModuleTable) (request : String)
    (base : Path) (e : Failure) : Prop
  | probing : (r.probe h request base).result = .error e → Interrupted r h t request base e
  | loading {found : Descriptor} {place : String} :
      (r.probe h request base).result = .ok (some found) → found.place? = some place →
      r.autoLoad = true → (r.loader h t place).1.result = .error e →
      Interrupted r h t request base e

/-- One answer to two requests: only a failure may say which of them it is about. -/
inductive SameAnswer (r : Resolver) (h : Host) (t : ModuleTable) (cwd : Option Path)
    (a b : String) : Prop
  | found {found : Descriptor} :
      (r.resolve h t (.text a) cwd).1.result = .ok found →
      (r.resolve h t (.text b) cwd).1.result = .ok found → SameAnswer r h t cwd a b
  | notFound {names : List String} :
      (r.resolve h t (.text a) cwd).1.result = .error (.notFound a r.kind names) →
      (r.resolve h t (.text b) cwd).1.result = .error (.notFound b r.kind names) →
      SameAnswer r h t cwd a b
  | interrupted {e : Failure} :
      r.Interrupted h t a (r.base h cwd) e → r.Interrupted h t b (r.base h cwd) e →
      (r.resolve h t (.text a) cwd).1.result = .error (r.probeFailure a e) →
      (r.resolve h t (.text b) cwd).1.result = .error (r.probeFailure b e) →
      SameAnswer r h t cwd a b

theorem sameAnswer_of_probe_eq {cwd : Option Path} (ha : NamesPackage a) (hb : NamesPackage b)
    (hprobe : (r.probe h a (r.base h cwd)).result = (r.probe h b (r.base h cwd)).result)
    (hnames : r.naming.candidates a = r.naming.candidates b) : SameAnswer r h t cwd a b := by
  have hra := result_resolve_of_namesPackage ha r h t cwd
  have hrb := result_resolve_of_namesPackage hb r h t cwd
  rw [hprobe, hnames] at hra
  cases hresult : (r.probe h b (r.base h cwd)).result with
  | error e =>
    rw [hresult] at hra hrb
    exact .interrupted (.probing (hprobe.trans hresult)) (.probing hresult) hra hrb
  | ok answer =>
    cases answer with
    | none =>
      rw [hresult] at hra hrb
      exact .notFound hra hrb
    | some found =>
      rw [hresult] at hra hrb
      cases hplace : found.place? with
      | none =>
        simp only [hplace] at hra hrb
        exact .found hra hrb
      | some place =>
        -- Both have the same entry, so the loader is asked one question.
        cases hload : r.autoLoad with
        | false =>
          simp only [hplace, hload, Bool.false_eq_true, if_false] at hra hrb
          exact .found hra hrb
        | true =>
          simp only [hplace, hload, if_true] at hra hrb
          cases hmodule : (r.loader h t place).1.result with
          | error e =>
            rw [hmodule] at hra hrb
            exact .interrupted (.loading (hprobe.trans hresult) hplace hload hmodule)
              (.loading hresult hplace hload hmodule) hra hrb
          | ok v =>
            rw [hmodule] at hra hrb
            exact .found hra hrb

/--
Requests have one canonical name exactly where they have the same candidates, and then a resolver
gives them one answer, whatever the manifest and the files are.
-/
theorem sameAnswer_of_canonical_eq {kind : String} (hne : kind ≠ "")
    (hat : kind.toList.head? ≠ some '@') (organization a b : String) :
    (((Naming.make kind organization).canonical a).name =
        ((Naming.make kind organization).canonical b).name ↔
      (Naming.make kind organization).candidates a =
        (Naming.make kind organization).candidates b) ∧
    (NamesPackage a → NamesPackage b →
      ((Naming.make kind organization).canonical a).name =
        ((Naming.make kind organization).canonical b).name →
      ∀ (h₀ : Host) (o : Options) (r : Resolver), o.organization = organization →
        make h₀ kind o = .ok r → ∀ (h : Host) (t : ModuleTable) (cwd : Option Path),
          SameAnswer r h t cwd a b) := by
  have hn := Naming.unscoped_make organization hne hat
  refine ⟨Naming.canonical_eq_iff_candidates_eq hn, ?_⟩
  intro ha hb hcanonical h₀ o r horganization hr h t cwd
  have hnaming : r.naming = .make kind organization := by
    rw [(of_make hr).2.1, horganization]
  obtain ⟨horg, hshort⟩ := Naming.canonical_injective hn hcanonical
  rw [← hnaming] at hshort
  exact sameAnswer_of_probe_eq ha hb (result_probe_congr horg hshort)
    (Naming.candidates_congr r.naming horg hshort)

def twoProjects : Host where
  files := ⟨[(["p"], .directory), (["p", "pyproject.toml"], .file [0x5b]), (["q"], .directory),
    (["q", ".docsite"], .directory), (["q", ".docsite", "themes"], .directory),
    (["q", ".docsite", "themes", "theme-dark.py"], .file [])], []⟩
  cwd := ["p"]
  home := ⟨.single, ["home"]⟩
  packages := ⟨.single, ["site"]⟩
  organization := none

def docsiteOptions : Options := lazyOptions "docsite" [] none

def docsiteResolver : Resolver := lazyResolver twoProjects "theme" "docsite" [] none

theorem sameAnswer_dark : make twoProjects "theme" docsiteOptions = .ok docsiteResolver ∧
    NamesPackage "dark" ∧ NamesPackage "docsite-theme-dark" ∧
    ((Naming.make "theme" "docsite").canonical "dark").name =
      ((Naming.make "theme" "docsite").canonical "docsite-theme-dark").name ∧
    SameAnswer docsiteResolver twoProjects .empty (some ⟨.single, ["q"]⟩) "dark"
      "docsite-theme-dark" := by
  have hmade : make twoProjects "theme" docsiteOptions = .ok docsiteResolver :=
    make_lazyOptions (by decide) _ _ _ _
  have ha : NamesPackage "dark" := ⟨rfl, rfl⟩
  have hb : NamesPackage "docsite-theme-dark" := ⟨rfl, rfl⟩
  have hname : ((Naming.make "theme" "docsite").canonical "dark").name =
      ((Naming.make "theme" "docsite").canonical "docsite-theme-dark").name := rfl
  have hne : "theme" ≠ "" := by decide
  have hsame := (sameAnswer_of_canonical_eq hne (by decide) "docsite" "dark"
    "docsite-theme-dark").2 ha hb hname
  exact ⟨hmade, ha, hb, hname, hsame twoProjects docsiteOptions docsiteResolver rfl hmade
    twoProjects .empty (some ⟨.single, ["q"]⟩)⟩

/-- A manifest that cannot be read leaves neither a descriptor nor a list of what was tried. -/
theorem no_answer_without_manifest : make twoProjects "theme" docsiteOptions = .ok docsiteResolver ∧
    NamesPackage "dark" ∧ NamesPackage "theme-dark" ∧
    ((Naming.make "theme" "docsite").canonical "dark").name =
      ((Naming.make "theme" "docsite").canonical "theme-dark").name ∧
    ¬((∃ found, (docsiteResolver.resolve twoProjects .empty (.text "dark") none).1.result =
          .ok found ∧
        (docsiteResolver.resolve twoProjects .empty (.text "theme-dark") none).1.result =
          .ok found) ∨
      ∃ names, (docsiteResolver.resolve twoProjects .empty (.text "dark") none).1.result =
          .error (.notFound "dark" "theme" names) ∧
        (docsiteResolver.resolve twoProjects .empty (.text "theme-dark") none).1.result =
          .error (.notFound "theme-dark" "theme" names)) := by
  have hfails : (docsiteResolver.resolve twoProjects .empty (.text "dark") none).1.result =
      .error (.manifest "Failed to read /p/pyproject.toml" (some (.document .toml .malformed))) :=
    rfl
  refine ⟨make_lazyOptions (by decide) _ _ _ _, ⟨rfl, rfl⟩, ⟨rfl, rfl⟩, rfl, ?_⟩
  rw [hfails]
  rintro (⟨found, hfound, -⟩ | ⟨names, hnames, -⟩)
  · cases hfound
  · cases hnames

end SiteModules.Resolver
