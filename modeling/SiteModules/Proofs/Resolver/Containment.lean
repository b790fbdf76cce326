import SiteModules.ModuleKind
import SiteModules.Proofs.Locator.Declared
import SiteModules.Proofs.Locator.Default
import SiteModules.Proofs.Naming.Plain
import SiteModules.Proofs.Resolver.Package

namespace SiteModules.Resolver

open Text (IsPlain)

variable {r : Resolver} {h : Host} {t : ModuleTable} {cwd : Option Path} {base : Path}
  {kind organization request : String}

def homes (kind : String) (bundled : List Path) (base : Path) : List Path :=
  Locator.workspace base :: (Defaults.mk kind bundled).searchPaths base

def Inside (dirs : List Path) (p : Path) : Prop := ∃ dir ∈ dirs, p.IsBelow dir

/-- A place that only a declared package has: its own name, or where it is installed. -/
def Elsewhere (h : Host) (name place : String) : Prop :=
  place = name ∨ ∃ d p, Distribution.find h name = .ok (some d) ∧ (d.directory h).result = .ok p ∧
    place = p.toString

/-- Nothing outside of the directories is looked at or returned. -/
structure Contained (kind organization request : String) : Prop where
  plain : ∀ c ∈ (Naming.make kind organization).candidates request,
    IsPlain c.toList ∧ (Path.ofString c).isAbsolute = false
  below : ∀ c ∈ (Naming.make kind organization).candidates request,
    ∀ (bundled : List Path) (base : Path), ∀ dir ∈ homes kind bundled base,
      (dir.child c).IsBelow dir ∧ (dir.child (c ++ ".py")).IsBelow dir
  search : ∀ c ∈ (Naming.make kind organization).candidates request,
    ∀ (h : Host) (bundled : List Path) (base p : Path),
      .looked p ∈ ((Defaults.mk kind bundled).find h c base).events →
        Inside ((Defaults.mk kind bundled).searchPaths base) p
  entry : ∀ (h₀ h : Host) (o : Options) (r : Resolver) (t : ModuleTable) (cwd : Option Path)
    (found : Descriptor) (place : String), o.organization = organization →
      make h₀ kind o = .ok r → (r.resolve h t (.text request) cwd).1.result = .ok found →
      found.place? = some place →
        (∃ p, Inside (homes kind o.bundled (r.base h cwd)) p ∧ place = p.toString) ∨
        found.fromDependency = some true ∧
          ∃ name ∈ (Naming.make kind organization).candidates request, Elsewhere h name place

theorem isBelow_of_form {name : String} {dir p : Path} (hname : IsPlain name.toList)
    (hform : Defaults.Form name dir p) : p.IsBelow dir := by
  obtain rfl | rfl := hform
  · exact Path.isBelow_child dir hname
  · exact Path.isBelow_child_py dir hname

theorem result_probe_of_resolve {found : Descriptor} {place : String} (hp : NamesPackage request)
    (hfound : (r.resolve h t (.text request) cwd).1.result = .ok found)
    (hplace : found.place? = some place) :
    (r.probe h request (r.base h cwd)).result = .ok (some found) := by
  obtain ⟨d, hprobe, rfl | ⟨v, rfl⟩⟩ := exists_probe_of_resolve hp hfound
  · exact hprobe
  · -- What is loaded has no place any more.
    cases hplace

theorem inside_of_tryName {d : Declares} {name place : String} {found : Descriptor}
    (hname : IsPlain name.toList)
    (hfound : (r.tryName h request base d name).result = .ok (some found))
    (hplace : found.place? = some place) :
    (∃ p, Inside (Locator.workspace base :: r.defaults.searchPaths base) p ∧
      place = p.toString) ∨
      found.fromDependency = some true ∧ Elsewhere h name place := by
  obtain ⟨-, place', hlocate, rfl⟩ | ⟨-, p, hfind, rfl⟩ := result_tryName_eq_some_iff.1 hfound
  · cases hplace
    cases Locator.result_locate_eq_ok_iff.1 hlocate with
    | workspace hdir => exact .inl ⟨_, ⟨_, List.mem_cons_self, Path.isBelow_child _ hname⟩, rfl⟩
    | installed _ _ hinstalled hdirectory =>
      exact .inr ⟨rfl, .inr ⟨_, _, hinstalled, hdirectory, rfl⟩⟩
    | specifier => exact .inr ⟨rfl, .inl rfl⟩
  · cases hplace
    obtain ⟨dir, hdir, hform⟩ := Defaults.exists_form_of_findAmong hfind
    exact .inl ⟨p, ⟨dir, List.mem_cons_of_mem _ hdir, isBelow_of_form hname hform⟩, rfl⟩

theorem entry_of_plain {h₀ : Host} {o : Options} {found : Descriptor} {place : String}
    (hp : NamesPackage request) (horganization : o.organization = organization)
    (hr : make h₀ kind o = .ok r)
    (hplain : ∀ c ∈ (Naming.make kind organization).candidates request, IsPlain c.toList)
    (hfound : (r.resolve h t (.text request) cwd).1.result = .ok found)
    (hplace : found.place? = some place) :
    (∃ p, Inside (homes kind o.bundled (r.base h cwd)) p ∧ place = p.toString) ∨
      found.fromDependency = some true ∧
        ∃ name ∈ (Naming.make kind organization).candidates request, Elsewhere h name place := by
  obtain ⟨-, hnaming, -, hdefaults, -, -⟩ := of_make hr
  have hprobe := result_probe_of_resolve hp hfound hplace
  rw [probe, Traced.result_bind_eq_ok_iff] at hprobe
  obtain ⟨d, -, hnames⟩ := hprobe
  obtain ⟨name, hmem, hname⟩ := exists_tryName_of_tryNames hnames
  rw [hnaming, horganization] at hmem
  obtain hinside | ⟨hdependency, helsewhere⟩ :=
    inside_of_tryName (hplain name hmem) hname hplace
  · rw [hdefaults] at hinside
    exact .inl hinside
  · exact .inr ⟨hdependency, name, hmem, helsewhere⟩

theorem contained_iff_plain (hp : NamesPackage request) :
    Contained kind organization request ↔
      ∀ c ∈ (Naming.make kind organization).candidates request, IsPlain c.toList := by
  constructor
  · intro hcontained c hc
    exact (hcontained.plain c hc).1
  · intro hplain
    refine ⟨?_, ?_, ?_, ?_⟩
    · intro c hc
      refine ⟨hplain c hc, ?_⟩
      rw [Path.ofString, Path.ofChars_of_isPlain (hplain c hc)]
      rfl
    · intro c hc bundled base dir _
      exact ⟨Path.isBelow_child dir (hplain c hc), Path.isBelow_child_py dir (hplain c hc)⟩
    · intro c hc h bundled base p hlooked
      obtain ⟨dir, hdir, hform⟩ := Defaults.exists_form_of_looked hlooked
      exact ⟨dir, hdir, isBelow_of_form (hplain c hc) hform⟩
    · intro h₀ h o r t cwd found place horganization hr hfound hplace
      exact entry_of_plain hp horganization hr hplain hfound hplace

theorem slashless_name (k : ModuleKind) : '/' ∉ k.name.toList := by cases k <;> decide

/--
Valid requests are contained but for two forms: a prefix in front of a stray, as in `theme-..`, and
a scoped name whose last segment is a stray and a line feed.
-/
theorem contained_iff_no_strays (k : ModuleKind) (horganization : '/' ∉ organization.toList)
    (hp : NamesPackage request) :
    Contained k.name organization request ↔
      ¬(Naming.make k.name organization).StraysInFront (ScopedName.ofName request).name ∧
      ¬Naming.StraysAtEnd request := by
  have hn := Naming.slashless_make (slashless_name k) horganization
  have hrequest := (checkName_eq_ok_iff.1 hp.valid).2
  rw [contained_iff_plain hp, Naming.isPlain_candidates_iff hn, Naming.shortcutOf,
    Naming.isPlain_shortcut_iff hn, Naming.isPlain_name_iff hrequest]
  exact and_comm

theorem contained_dark : NamesPackage "@acme/theme-dark" ∧
    Contained ModuleKind.theme.name "docsite" "@acme/theme-dark" := by
  have hp : NamesPackage "@acme/theme-dark" := ⟨rfl, rfl⟩
  exact ⟨hp, (contained_iff_no_strays .theme (by decide) hp).2 ⟨by decide, by decide⟩⟩

def bareProject : Host where
  files := ⟨[(["p"], .directory), (["p", ".docsite"], .directory),
    (["p", ".docsite", "themes"], .directory)], []⟩
  cwd := ["p"]
  home := ⟨.single, ["home"]⟩
  packages := ⟨.single, ["site"]⟩
  organization := none

def bareOptions : Options := lazyOptions "docsite" [] (some fun _ => .ok false)

def bareResolver : Resolver :=
  lazyResolver bareProject "theme" "docsite" [] (some fun _ => .ok false)

/-- The directory above the default themes is returned as a theme. -/
theorem not_contained_up : make bareProject "theme" bareOptions = .ok bareResolver ∧
    NamesPackage "theme-.." ∧ ".." ∈ (Naming.make "theme" "docsite").candidates "theme-.." ∧
    ¬Contained "theme" "docsite" "theme-.." ∧
    (bareResolver.resolve bareProject .empty (.text "theme-..") none).1.result =
      .ok (bareResolver.packageAt "theme-.." ".." "/p/.docsite/themes/.." false) := by
  have hmem : ".." ∈ (Naming.make "theme" "docsite").candidates "theme-.." := by decide
  refine ⟨make_lazyOptions (by decide) _ _ _ _, ⟨rfl, rfl⟩, hmem, ?_, rfl⟩
  intro hcontained
  exact (hcontained.plain ".." hmem).1 ['.', '.'] (by decide) (by decide)

end SiteModules.Resolver
