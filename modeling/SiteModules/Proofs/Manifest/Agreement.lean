import Mathlib
import SiteModules.Proofs.Manifest.Declared

namespace SiteModules.Manifest

variable {h : Host} {dir : Path} {project packages x : Value}

def listing (xs : List Value) : Value :=
  .mapping [(.text "project", .mapping [(.text "dependencies", .list xs)])]

theorem regular_listing (xs : List Value) : Regular (listing xs) where
  project := by
    intro project hproject
    cases hproject
    refine ⟨?_, ?_⟩
    · intro v hv
      cases hv
      exact ⟨xs, rfl⟩
    · intro v hv
      cases hv
  tool := by
    intro v hv
    cases hv

theorem requires_listing_iff {xs : List Value} : Requires (listing xs) x ↔ x ∈ xs := by
  constructor
  · rintro (⟨v, hv, hx⟩ | ⟨v, hv, hx⟩ | ⟨v, hv, hx⟩)
    · cases hv
      obtain ⟨ys, hys, hx⟩ := hx
      cases hys
      exact hx
    · cases hv
    · cases hv
  · intro hx
    exact .main ⟨.list xs, rfl, xs, rfl, hx⟩

def listedSite (project packages : String) : Host where
  files := ⟨[(["p"], .directory), (["p", "pyproject.toml"], .file (Text.Utf8.ofString project)),
    (["p", "package.json"], .file (Text.Utf8.ofString packages))], []⟩
  cwd := ["p"]
  home := ⟨.single, ["home"]⟩
  packages := ⟨.single, ["site"]⟩
  organization := none

theorem described_listedSite {text text' : String} {xs : List Value}
    {fields : List (Key × Value)} (cs cs' : List Char)
    (htext : Text.Utf8.decode (Text.Utf8.ofString text) = some cs)
    (hread : Toml.read cs = .ok (listing xs))
    (htext' : Text.Utf8.decode (Text.Utf8.ofString text') = some cs')
    (hread' : Json.read (Text.unixLines cs') = .ok (.mapping fields)) :
    Described (listedSite text text') ⟨.single, ["p"]⟩ (listing xs) (.mapping fields) where
  projectRead := .file rfl htext hread
  packagesRead := .file rfl htext' hread'
  regular := regular_listing xs
  table := rfl

theorem declares_name_iff {n : String} (hn : IsUnscoped n.toList ∨ IsScoped n.toList) (q : String) :
    Declares n.toList q ↔ PackageName.normalize n = PackageName.normalize q := by
  rw [Declares, requirementName?_self hn]
  simp

/-- However names are spread over a project, they are declared as by a list of them. -/
theorem declares_eq_ofNames {names : List String} (hfiles : Described h dir project packages)
    (hnames : ∀ n ∈ names, IsUnscoped n.toList ∨ IsScoped n.toList)
    (hspread : ∀ n, n ∈ names ↔ Requires project (.text n) ∨ Keyed packages n) :
    ∃ m, (ofProject h dir).result = .ok m ∧
      ∀ q, m.declares q = (ofNames names).declares q := by
  obtain ⟨m, hm, hdeclares⟩ := exists_ofProject hfiles
  refine ⟨m, hm, ?_⟩
  intro q
  rw [Bool.eq_iff_iff, hdeclares, declares_ofNames]
  constructor
  · rintro ⟨s | name, hstands, hq⟩
    · have hs := (hspread s).2 (.inl hstands)
      exact ⟨s, hs, (declares_name_iff (hnames s hs) q).1 hq⟩
    · exact ⟨name, (hspread name).2 (.inr hstands), hq⟩
  · rintro ⟨n, hn, hq⟩
    obtain hstands | hstands := (hspread n).1 hn
    · exact ⟨.requirement n, hstands, (declares_name_iff (hnames n hn) q).2 hq⟩
    · exact ⟨.key n, hstands, hq⟩

def strewnSite : Host :=
  listedSite "project.dependencies=[1,\"a_b\"]" "\x7b\"devDependencies\":\x7b\"@c/d\":\"1\"\x7d\x7d"

def strewnPackages : List (Key × Value) :=
  [(.text "devDependencies", .mapping [(.text "@c/d", .text "1")])]

theorem declares_eq_ofNames_strewn :
    Described strewnSite ⟨.single, ["p"]⟩ (listing [.int 1, .text "a_b"])
      (.mapping strewnPackages) ∧
    (∀ n ∈ ["a_b", "@c/d", "a_b"], IsUnscoped n.toList ∨ IsScoped n.toList) ∧
    (∀ n, n ∈ ["a_b", "@c/d", "a_b"] ↔
      Requires (listing [.int 1, .text "a_b"]) (.text n) ∨ Keyed (.mapping strewnPackages) n) ∧
    ∃ m, (ofProject strewnSite ⟨.single, ["p"]⟩).result = .ok m ∧
      ∀ q, m.declares q = (ofNames ["a_b", "@c/d", "a_b"]).declares q := by
  have hfiles : Described strewnSite ⟨.single, ["p"]⟩ (listing [.int 1, .text "a_b"])
      (.mapping strewnPackages) := by
    apply described_listedSite "project.dependencies=[1,\"a_b\"]".toList
      "\x7b\"devDependencies\":\x7b\"@c/d\":\"1\"\x7d\x7d".toList
    · cbv
    · cbv
    · cbv
    · cbv
  have hunscoped : IsUnscoped "a_b".toList := ⟨'a', ['_', 'b'], rfl, rfl, List.all_eq_true.1 rfl⟩
  have hscoped : IsScoped "@c/d".toList := ⟨['c', '/', 'd'], rfl, List.all_eq_true.1 rfl⟩
  have hnames : ∀ n ∈ ["a_b", "@c/d", "a_b"], IsUnscoped n.toList ∨ IsScoped n.toList := by
    simp only [List.forall_mem_cons]
    exact ⟨.inl hunscoped, .inr hscoped, .inl hunscoped, by simp⟩
  have hspread : ∀ n, n ∈ ["a_b", "@c/d", "a_b"] ↔
      Requires (listing [.int 1, .text "a_b"]) (.text n) ∨ Keyed (.mapping strewnPackages) n := by
    intro n
    rw [requires_listing_iff, ← mem_sectionNames_iff]
    simp only [strewnPackages, sectionNames, packageSections, Value.lookup?, Key.same_text]
    simp [Key.text?]
    grind
  exact ⟨hfiles, hnames, hspread, declares_eq_ofNames hfiles hnames hspread⟩

theorem Entry.declares_requirement_iff {w n t : String}
    (hw : ∀ c ∈ w.toList, Text.isBlank c = true) (hn : IsUnscoped n.toList ∨ IsScoped n.toList)
    (ht : IsTail t.toList) : (Entry.requirement (w ++ n ++ t)).Declares n ↔
      ¬Hides w.toList n.toList t.toList := by
  rw [← declares_iff hw hn ht, Entry.Declares, String.toList_append, String.toList_append,
    String.ofList_toList]

/-- What stands around a name leaves it declared unless it hides the name. -/
theorem declares_decorated_iff {w n t : String} (hfiles : Described h dir project packages)
    (hw : ∀ c ∈ w.toList, Text.isBlank c = true) (hn : IsUnscoped n.toList ∨ IsScoped n.toList)
    (ht : IsTail t.toList) (hlisted : Requires project (.text (w ++ n ++ t))) :
    ∃ m, (ofProject h dir).result = .ok m ∧
      (m.declares n = true ↔ ¬Hides w.toList n.toList t.toList ∨ ∃ e : Entry,
        e ≠ .requirement (w ++ n ++ t) ∧ e.StandsIn project packages ∧ e.Declares n) := by
  obtain ⟨m, hm, hdeclares⟩ := exists_ofProject hfiles
  refine ⟨m, hm, ?_⟩
  rw [hdeclares, ← Entry.declares_requirement_iff hw hn ht]
  constructor
  · rintro ⟨e, hstands, he⟩
    by_cases hsame : e = .requirement (w ++ n ++ t)
    · exact .inl (hsame ▸ he)
    · exact .inr ⟨e, hsame, hstands, he⟩
  · rintro (hthis | ⟨e, -, hstands, he⟩)
    · exact ⟨.requirement (w ++ n ++ t), hlisted, hthis⟩
    · exact ⟨e, hstands, he⟩

def decoratedSite (requirement : String) : Host :=
  listedSite ("project.dependencies=[\"" ++ requirement ++ "\"]") "{}"

theorem isTail_version : IsTail ">=1".toList := by
  change IsTail ['>', '=', '1']
  simp [IsTail]

theorem declares_decorated_dark :
    Described (decoratedSite " Dark>=1") ⟨.single, ["p"]⟩ (listing [.text " Dark>=1"])
      (.mapping []) ∧
    (∀ c ∈ " ".toList, Text.isBlank c = true) ∧
    (IsUnscoped "Dark".toList ∨ IsScoped "Dark".toList) ∧ IsTail ">=1".toList ∧
    Requires (listing [.text " Dark>=1"]) (.text (" " ++ "Dark" ++ ">=1")) ∧
    ∃ m, (ofProject (decoratedSite " Dark>=1") ⟨.single, ["p"]⟩).result = .ok m ∧
      m.declares "Dark" = true := by
  have hfiles : Described (decoratedSite " Dark>=1") ⟨.single, ["p"]⟩ (listing [.text " Dark>=1"])
      (.mapping []) := by
    apply described_listedSite "project.dependencies=[\" Dark>=1\"]".toList "{}".toList
    · cbv
    · cbv
    · cbv
    · cbv
  have hw : ∀ c ∈ " ".toList, Text.isBlank c = true := List.all_eq_true.1 rfl
  have hn : IsUnscoped "Dark".toList := ⟨'D', ['a', 'r', 'k'], rfl, rfl, List.all_eq_true.1 rfl⟩
  have hlisted : Requires (listing [.text " Dark>=1"]) (.text (" " ++ "Dark" ++ ">=1")) :=
    requires_listing_iff.2 List.mem_cons_self
  obtain ⟨m, hm, hdeclares⟩ := declares_decorated_iff hfiles hw (.inl hn) isTail_version hlisted
  exact ⟨hfiles, hw, .inl hn, isTail_version, hlisted, m, hm,
    hdeclares.2 (.inl (not_hides_of_isUnscoped hn))⟩

/-- A version right behind a scoped name hides the name. -/
theorem not_declares_pinned :
    Described (decoratedSite "@acme/dark>=1") ⟨.single, ["p"]⟩ (listing [.text "@acme/dark>=1"])
      (.mapping []) ∧
    IsScoped "@acme/dark".toList ∧ IsTail ">=1".toList ∧
    Requires (listing [.text "@acme/dark>=1"]) (.text ("" ++ "@acme/dark" ++ ">=1")) ∧
    ∃ m, (ofProject (decoratedSite "@acme/dark>=1") ⟨.single, ["p"]⟩).result = .ok m ∧
      m.declares "@acme/dark" = false := by
  have hfiles : Described (decoratedSite "@acme/dark>=1") ⟨.single, ["p"]⟩
      (listing [.text "@acme/dark>=1"]) (.mapping []) := by
    apply described_listedSite "project.dependencies=[\"@acme/dark>=1\"]".toList "{}".toList
    · cbv
    · cbv
    · cbv
    · cbv
  have hn : IsScoped "@acme/dark".toList :=
    ⟨['a', 'c', 'm', 'e', '/', 'd', 'a', 'r', 'k'], rfl, List.all_eq_true.1 rfl⟩
  have hhides : Hides "".toList "@acme/dark".toList ">=1".toList :=
    ⟨rfl, .inr ⟨'>', rfl, by decide⟩⟩
  obtain ⟨m, hm, hdeclares⟩ := exists_ofProject hfiles
  refine ⟨hfiles, hn, isTail_version, requires_listing_iff.2 List.mem_cons_self, m, hm, ?_⟩
  rw [← Bool.not_eq_true, hdeclares]
  rintro ⟨s | name, hstands, he⟩
  · obtain ⟨rfl⟩ : s = "@acme/dark>=1" := by
      simpa [Entry.StandsIn, requires_listing_iff] using hstands
    exact (Entry.declares_requirement_iff (w := "") (by simp) (.inr hn) isTail_version).1 he
      hhides
  · exact absurd (mem_sectionNames_iff.2 hstands) (by simp [sectionNames, Value.lookup?])

end SiteModules.Manifest
