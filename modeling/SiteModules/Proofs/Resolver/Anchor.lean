import SiteModules.ModuleKind
import SiteModules.Proofs.Load.Target
import SiteModules.Proofs.Locator.Default
import SiteModules.Proofs.Path.Collapse
import SiteModules.Proofs.Resolver.Loading

namespace SiteModules

namespace Path

theorem isAbsolute_ofString_append (s : String) {t : String} (ht : t.toList.head? ≠ some '/') :
    (ofString (s ++ t)).isAbsolute = (ofString s).isAbsolute := by
  rw [Bool.eq_iff_iff, isAbsolute_ofString_iff, isAbsolute_ofString_iff, String.toList_append]
  cases s.toList with
  | nil => simpa using ht
  | cons c cs => rfl

end Path

theorem Host.isAbsolute_absolute (h : Host) (p : Path) : (h.absolute p).isAbsolute = true :=
  Path.isAbsolute_absolute rfl p

namespace Defaults

variable {name : String} {dir p : Path}

theorem Form.isAbsolute_eq (hp : Form name dir p) :
    p.isAbsolute = (dir.isAbsolute || (Path.ofString name).isAbsolute) := by
  obtain rfl | rfl := hp
  · exact Path.isAbsolute_child dir name
  · rw [Path.isAbsolute_child, Path.isAbsolute_ofString_append name (by decide)]

theorem Form.isProper (hp : Form name dir p) (hdir : dir.IsProper) : p.IsProper := by
  obtain rfl | rfl := hp
  · exact hdir.child name
  · exact hdir.child (name ++ ".py")

end Defaults

namespace Resolver

variable {r : Resolver} {h₀ h : Host} {t : ModuleTable} {request : Value} {cwd : Option Path}
  {found : Descriptor}

theorem isAbsolute_base {kind : String} {o : Options} (hr : make h₀ kind o = .ok r) (h : Host)
    (cwd : Option Path) : (r.base h cwd).isAbsolute = true := by
  cases cwd with
  | some dir => exact h.isAbsolute_absolute dir
  | none =>
    obtain ⟨-, allowed, rfl⟩ := eq_of_make hr
    exact h₀.isAbsolute_absolute _

theorem exists_place_of_relative (hshape : request.shape = .relativePath)
    (hfound : (r.search h request cwd).result = .ok found) :
    ∃ p, found = .ofEntry (.place (Path.absolute (r.base h cwd) p).toString) := by
  simp only [search, hshape, findRelative, Traced.result_bind_eq_ok_iff] at hfound
  obtain ⟨-, -, -, -, hfound⟩ := hfound
  exact ⟨_, (Except.ok.inj hfound).symm⟩

theorem exists_form_of_search (hdefault : found.fromDependency = some false)
    (hfound : (r.search h request cwd).result = .ok found) :
    request.shape = .packageName ∧
      ∃ name, ∃ dir ∈ r.defaults.searchPaths (r.base h cwd), ∃ p, Defaults.Form name dir p ∧
        found.name = some name ∧ found.entry = some (.place p.toString) := by
  unfold search at hfound
  split at hfound
  · cases hfound
    cases hdefault
  · unfold findObject at hfound
    split at hfound
    · cases hfound
      cases hdefault
    · cases hfound
  · obtain ⟨-, -, hfound⟩ := Traced.result_bind_eq_ok_iff.1 hfound
    cases hfound
    cases hdefault
  · obtain ⟨-, -, hfound⟩ := Traced.result_bind_eq_ok_iff.1 hfound
    cases hfound
    cases hdefault
  · next hshape =>
    obtain ⟨-, hprobe⟩ := result_findPackage_eq_ok_iff.1 hfound
    obtain ⟨d, -, hnames⟩ := Traced.result_bind_eq_ok_iff.1 hprobe
    obtain ⟨name, -, hname⟩ := exists_tryName_of_tryNames hnames
    obtain ⟨-, place, -, rfl⟩ | ⟨-, p, hp, rfl⟩ := result_tryName_eq_some_iff.1 hname
    · cases hdefault
    · obtain ⟨dir, hdir, hform⟩ := Defaults.exists_form_of_findAmong hp
      exact ⟨hshape, name, dir, hdir, p, hform, rfl, rfl⟩

/-- An absolute entry, which a run that loads loads as a path. -/
structure Anchored (r : Resolver) (h : Host) (t : ModuleTable) (request : Value)
    (cwd : Option Path) (found : Descriptor) (place : String) : Prop where
  entry : found.entry = some (.place place)
  absolute : (Path.ofString place).isAbsolute = true
  loaded : ((r.withLoading true).resolve h t request cwd).1.result =
    (((Load.path h t (Path.ofString place)).1.result.map Loaded.toValue).mapError
      (r.passOn request)).map fun v => { found with entry := some (.loaded v) }
  table : ((r.withLoading true).resolve h t request cwd).2 =
    (Load.path h t (Path.ofString place)).2

/--
The entry lies in a bundled directory whose path is relative, as are that of the project and the
name of the module.
-/
structure Adrift (project : Path) (s : Settings) (found : Descriptor) : Prop where
  relative : project.isAbsolute = false
  bundled : ∃ dir ∈ s.bundledPaths, (Path.ofString dir).isAbsolute = false ∧
    ∃ name, found.name = some name ∧ (Path.ofString name).isAbsolute = false ∧
      ∃ p, Defaults.Form name (project.join (Path.ofString dir)) p ∧
        found.entry = some (.place p.toString)

theorem anchored_of_isAbsolute {place : String} (hloader : r.loader = Load.loader)
    (hplaces : Places request.shape) (hfound : (r.search h request cwd).result = .ok found)
    (hentry : found.entry = some (.place place))
    (habsolute : (Path.ofString place).isAbsolute = true) :
    Anchored r h t request cwd found place := by
  have heager := resolve_eagerly (t := t) hplaces hfound hentry
  have hload : (Load.loader h t place).1.result =
      (Load.path h t (Path.ofString place)).1.result.map Loaded.toValue := by
    rw [← Load.entry_of_isAbsolute habsolute, Load.result_loader]
  have htable : (Load.loader h t place).2 = (Load.path h t (Path.ofString place)).2 := by
    rw [← Load.entry_of_isAbsolute habsolute]
    rfl
  refine ⟨hentry, habsolute, ?_, ?_⟩
  · rw [heager, hloader, ← hload]
  · rw [heager, hloader, ← htable]

theorem anchored_iff_not_adrift {k : ModuleKind} {project : String} {s : Settings}
    (hr : k.resolver h₀ (Path.ofString project) s = .ok r)
    (hfound : ((r.withLoading false).resolve h t request cwd).1.result = .ok found)
    (hpath : request.shape = .relativePath ∨ found.fromDependency = some false) :
    (∃ place, Anchored r h t request cwd found place) ↔
      ¬Adrift (Path.ofString project) s found := by
  obtain ⟨-, -, -, hdefaults, -, hloader⟩ := of_make hr
  have hbase := isAbsolute_base hr h cwd
  rw [result_lazily] at hfound
  constructor
  · rintro ⟨place, hanchored⟩ ⟨hproject, dir, -, hdir, name, -, hname, p, hform, hentry⟩
    have hproper : p.IsProper :=
      hform.isProper ((Path.isProper_ofString project).join (Path.isProper_ofString dir))
    obtain rfl : place = p.toString := by simpa [hanchored.entry] using hentry
    have habsolute := hanchored.absolute
    rw [Path.ofString_toString hproper, hform.isAbsolute_eq, Path.isAbsolute_join,
      hproject, hdir, hname] at habsolute
    cases habsolute
  · intro hfast
    obtain hshape | hdefault := hpath
    · obtain ⟨p, rfl⟩ := exists_place_of_relative hshape hfound
      refine ⟨_, anchored_of_isAbsolute hloader (by simp [Places, hshape]) hfound rfl ?_⟩
      exact Path.isAbsolute_toString (Path.isAbsolute_absolute hbase p)
    · obtain ⟨hshape, name, dir, hdir, p, hform, hname, hentry⟩ :=
        exists_form_of_search hdefault hfound
      refine ⟨_, anchored_of_isAbsolute hloader (by simp [Places, hshape]) hfound hentry ?_⟩
      apply Path.isAbsolute_toString
      rw [hform.isAbsolute_eq]
      rw [hdefaults, Defaults.searchPaths, List.mem_cons] at hdir
      obtain rfl | hdir := hdir
      · simp [Path.isAbsolute_child, hbase]
      · obtain ⟨bundled, hbundled, rfl⟩ := List.mem_map.1 hdir
        rw [Path.isAbsolute_join, ← Bool.not_eq_false]
        -- An entry is relative only if each of the three that it is joined of is.
        intro hrelative
        simp only [Bool.or_eq_false_iff] at hrelative
        obtain ⟨⟨hproject, hdir⟩, hrelative⟩ := hrelative
        exact hfast ⟨hproject, bundled, hbundled, hdir, name, hname, hrelative, p, hform, hentry⟩

def vendorSite : Host where
  files := ⟨[(["p"], .directory), (["p", "vendor"], .directory),
    (["p", "vendor", "docsite-theme-dark"], .directory)], []⟩
  cwd := []
  home := ⟨.single, ["home"]⟩
  packages := ⟨.single, ["site"]⟩
  organization := none

def vendorSettings : Settings := ⟨"docsite", ["vendor"], none⟩

def vendorResolver (project : Path) : Resolver where
  naming := .make "theme" "docsite"
  allowed := [.string]
  autoLoad := false
  cwd := vendorSite.absolute project
  manifest := none
  defaults := ⟨"theme", [project.join (Path.ofString "vendor")]⟩
  loader := Load.loader

theorem resolver_vendorSettings (project : Path) :
    ModuleKind.theme.resolver vendorSite project vendorSettings =
      .ok (vendorResolver project) := rfl

def vendorTheme (place : String) : Descriptor :=
  ⟨some (.place place), some "docsite-theme-dark", some "dark", some false⟩

theorem result_declares_vendor (project : Path) :
    ((vendorResolver project).declares vendorSite ⟨.single, ["p"]⟩).result =
      .ok fun name => .ok ((Manifest.ofNames []).declares name) := rfl

theorem result_search_vendor {project p : Path}
    (hcwd : vendorSite.absolute project = ⟨.single, ["p"]⟩)
    (hfound : ((vendorResolver project).defaults.find vendorSite "docsite-theme-dark"
      ⟨.single, ["p"]⟩).result = .ok (some p)) :
    ((vendorResolver project).search vendorSite (.text "dark") none).result =
      .ok (vendorTheme p.toString) := by
  have hshape : (Value.text "dark").shape = .packageName := by decide
  have hvalid : checkName "dark" = .ok () := rfl
  have hnames : (vendorResolver project).naming.candidates "dark" =
      ["docsite-theme-dark", "theme-dark", "dark"] :=
    show (Naming.make "theme" "docsite").candidates "dark" = _ by decide +kernel
  have hshortcut : (vendorResolver project).naming.shortcutOf "dark" = "dark" :=
    show (Naming.make "theme" "docsite").shortcutOf "dark" = _ by decide +kernel
  have hundeclared : (Manifest.ofNames []).declares "docsite-theme-dark" = false := by
    simp [Manifest.declares, Manifest.ofNames]
  have hfirst : ((vendorResolver project).tryName vendorSite "dark" ⟨.single, ["p"]⟩
      (fun name => .ok ((Manifest.ofNames []).declares name)) "docsite-theme-dark").result =
        .ok (some (vendorTheme p.toString)) := by
    refine result_tryName_eq_some_iff.2 (.inr ⟨by rw [hundeclared], p, hfound, ?_⟩)
    rw [packageAt, hshortcut]
    rfl
  have hprobe : ((vendorResolver project).probe vendorSite "dark" ⟨.single, ["p"]⟩).result =
      .ok (some (vendorTheme p.toString)) := by
    rw [probe, Traced.result_bind_of_ok (result_declares_vendor project), hnames]
    simp only [result_tryNames_cons, hfirst, Except.bind]
  have hbase : (vendorResolver project).base vendorSite none = ⟨.single, ["p"]⟩ := hcwd
  simp only [search, hshape, Value.text?, Option.getD_some]
  rw [hbase, result_findPackage hvalid, hprobe]

theorem anchored_vendor :
    ModuleKind.theme.resolver vendorSite (Path.ofString "/p") vendorSettings =
      .ok (vendorResolver (Path.ofString "/p")) ∧
    (((vendorResolver (Path.ofString "/p")).withLoading false).resolve vendorSite .empty
      (.text "dark") none).1.result = .ok (vendorTheme "/p/vendor/docsite-theme-dark") ∧
    (vendorTheme "/p/vendor/docsite-theme-dark").fromDependency = some false ∧
    ∃ place, Anchored (vendorResolver (Path.ofString "/p")) vendorSite .empty (.text "dark") none
      (vendorTheme "/p/vendor/docsite-theme-dark") place := by
  have hr := resolver_vendorSettings (Path.ofString "/p")
  have hfind : ((vendorResolver (Path.ofString "/p")).defaults.find vendorSite
      "docsite-theme-dark" ⟨.single, ["p"]⟩).result =
        .ok (some ⟨.single, ["p", "vendor", "docsite-theme-dark"]⟩) := rfl
  have hfound : (((vendorResolver (Path.ofString "/p")).withLoading false).resolve vendorSite
      .empty (.text "dark") none).1.result =
        .ok (vendorTheme "/p/vendor/docsite-theme-dark") := by
    rw [result_lazily, result_search_vendor rfl hfind]
    rfl
  have hfast : ¬Adrift (Path.ofString "/p") vendorSettings
      (vendorTheme "/p/vendor/docsite-theme-dark") := by
    rintro ⟨hrelative, -⟩
    cases hrelative
  exact ⟨hr, hfound, rfl, (anchored_iff_not_adrift hr hfound (.inr rfl)).2 hfast⟩

/-- From a relative path of the project its entry is relative, and is imported as a package. -/
theorem not_anchored_vendor :
    ModuleKind.theme.resolver vendorSite (Path.ofString "p") vendorSettings =
      .ok (vendorResolver (Path.ofString "p")) ∧
    (((vendorResolver (Path.ofString "p")).withLoading false).resolve vendorSite .empty
      (.text "dark") none).1.result = .ok (vendorTheme "p/vendor/docsite-theme-dark") ∧
    (vendorTheme "p/vendor/docsite-theme-dark").fromDependency = some false ∧
    (Path.ofString "p/vendor/docsite-theme-dark").isAbsolute = false ∧
    Load.entry vendorSite .empty "p/vendor/docsite-theme-dark" =
      Load.specifier vendorSite .empty "p/vendor/docsite-theme-dark" := by
  have hfind : ((vendorResolver (Path.ofString "p")).defaults.find vendorSite
      "docsite-theme-dark" ⟨.single, ["p"]⟩).result =
        .ok (some ⟨.relative, ["p", "vendor", "docsite-theme-dark"]⟩) := rfl
  refine ⟨resolver_vendorSettings _, ?_, rfl, by decide, if_neg (by decide)⟩
  rw [result_lazily, result_search_vendor rfl hfind]
  rfl

end Resolver

end SiteModules
