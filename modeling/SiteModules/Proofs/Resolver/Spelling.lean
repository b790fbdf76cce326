import SiteModules.ModuleKind
import SiteModules.Proofs.Naming.Plain
import SiteModules.Proofs.Naming.Spelling
import SiteModules.Proofs.Resolver.Deduplication

namespace SiteModules

def barred : List Char := ['/', '\\', '\x00']

theorem ModuleKind.notMem_name_of_barred (k : ModuleKind) : ∀ c ∈ barred, c ∉ k.name.toList := by
  simp only [barred, List.forall_mem_cons, List.not_mem_nil, false_imp_iff, implies_true, and_true]
  cases k <;> decide

namespace Resolver

open Text (IsPlain)

variable {r : Resolver} {h : Host} {t : ModuleTable} {cwd : Option Path} {base : Path}
  {request : String} {found : Descriptor}

theorem shortcut_of_tryName {d : Declares} {name : String}
    (hfound : (r.tryName h request base d name).result = .ok (some found)) :
    found.shortcut = some (r.naming.shortcutOf request) := by
  obtain ⟨-, place, -, rfl⟩ | ⟨-, p, -, rfl⟩ := result_tryName_eq_some_iff.1 hfound
  · rfl
  · rfl

theorem shortcut_of_resolve (hp : NamesPackage request)
    (hfound : (r.resolve h t (.text request) cwd).1.result = .ok found) :
    found.shortcut = some (r.naming.shortcutOf request) := by
  obtain ⟨d, hprobe, hd⟩ := exists_probe_of_resolve hp hfound
  rw [probe, Traced.result_bind_eq_ok_iff] at hprobe
  obtain ⟨declares, -, hnames⟩ := hprobe
  obtain ⟨name, -, hname⟩ := exists_tryName_of_tryNames hnames
  have hshort := shortcut_of_tryName hname
  obtain rfl | ⟨v, rfl⟩ := hd
  · exact hshort
  · exact hshort

theorem namesPackage_append {start short : String} (hbarred : ∀ c ∈ barred, c ∉ start.toList)
    (hdash : '-' ∈ start.toList) (hp : NamesPackage short) : NamesPackage (start ++ short) := by
  obtain ⟨⟨hnul, hbackslash⟩, hplain⟩ := namesPackage_iff.1 hp
  rw [namesPackage_iff, String.toList_append]
  refine ⟨⟨?_, ?_⟩, hplain.append_left (hbarred '/' (by decide)) hdash⟩
  · simp [hnul, hbarred '\x00' (by decide)]
  · simp [hbackslash, hbarred '\\' (by decide)]

theorem namesPackage_of_mem_spellings {n : Naming} {short s : String}
    (hkind : ∀ c ∈ barred, c ∉ n.kind.toList) (hn : n.Separable) (hp : NamesPackage short)
    (hs : s ∈ n.spellings short) : NamesPackage s := by
  have hdash : ∀ c ∈ barred, c ≠ '-' := by simp [barred]
  have horganization : ∀ c ∈ barred, c ∉ n.organization.toList := by
    intro c hc hmem
    obtain ⟨hslash, hbackslash, hnul⟩ := hn.organization c hmem
    simp only [barred, List.mem_cons, List.not_mem_nil, or_false] at hc
    obtain rfl | rfl | rfl := hc
    · exact hslash rfl
    · exact hbackslash rfl
    · exact hnul rfl
  simp only [Naming.spellings, List.mem_cons, List.not_mem_nil, or_false] at hs
  obtain rfl | rfl | rfl := hs
  · exact hp
  · refine namesPackage_append ?_ n.dash_mem_typePrefix hp
    intro c hc
    exact Naming.notMem_typePrefix (hdash c hc) (hkind c hc)
  · refine namesPackage_append ?_ n.dash_mem_fullPrefix hp
    intro c hc
    exact Naming.notMem_fullPrefix (hdash c hc) (hkind c hc) (horganization c hc)

/--
A short name and its prefixed spellings are all valid requests. They have one list of candidates
and one answer, in which the short name stands as it is.
-/
theorem sameAnswer_of_spellings (k : ModuleKind) {organization short : String}
    (hn : (Naming.make k.name organization).Separable) (hp : NamesPackage short)
    (hbare : (Naming.make k.name organization).Bare short) {h₀ : Host} {o : Options}
    (horganization : o.organization = organization) (hr : make h₀ k.name o = .ok r) (h : Host)
    (t : ModuleTable) (cwd : Option Path) :
    ∀ s ∈ (Naming.make k.name organization).spellings short,
      NamesPackage s ∧ r.naming.candidates s = r.naming.candidates short ∧
      SameAnswer r h t cwd short s ∧
      ∀ found, (r.resolve h t (.text s) cwd).1.result = .ok found →
        found.shortcut = some short := by
  intro s hs
  have hnaming : r.naming = .make k.name organization := by
    rw [(of_make hr).2.1, horganization]
  have hscope := Naming.unscoped_make organization k.name_ne_empty k.head?_name_ne
  have hne : short ≠ "" := by
    rintro rfl
    cases hp.shape
  have hself : short ∈ (Naming.make k.name organization).spellings short := List.mem_cons_self
  obtain ⟨horg, hshort⟩ := Naming.of_mem_spellings hscope hn hbare hne hs
  obtain ⟨horg', hshort'⟩ := Naming.of_mem_spellings hscope hn hbare hne hself
  rw [← hnaming] at hshort hshort'
  have hvalid : NamesPackage s := namesPackage_of_mem_spellings k.notMem_name_of_barred hn hp hs
  have horgs := horg'.trans horg.symm
  have hshorts := hshort'.trans hshort.symm
  have hnames := Naming.candidates_congr r.naming horgs hshorts
  refine ⟨hvalid, hnames.symm, ?_, ?_⟩
  · exact sameAnswer_of_probe_eq hp hvalid (result_probe_congr horgs hshorts) hnames
  · intro found hfound
    rw [shortcut_of_resolve hvalid hfound, hshort]

def namesakeSite : Host where
  files := ⟨[(["p"], .directory), (["p", ".docsite"], .directory),
    (["p", ".docsite", "themes"], .directory),
    (["p", ".docsite", "themes", "theme-theme-.py"], .file [])], []⟩
  cwd := ["p"]
  home := ⟨.single, ["home"]⟩
  packages := ⟨.single, ["site"]⟩
  organization := none

def undeclared : Declares := fun _ => .ok false

def namesakeResolver : Resolver :=
  lazyResolver namesakeSite "theme" "docsite" [] (some undeclared)

theorem sameAnswer_namesake :
    make namesakeSite "theme" (lazyOptions "docsite" [] (some undeclared)) =
      .ok namesakeResolver ∧
    (Naming.make "theme" "docsite").Separable ∧ NamesPackage "theme-" ∧
    (Naming.make "theme" "docsite").Bare "theme-" ∧
    SameAnswer namesakeResolver namesakeSite .empty none "theme-" "docsite-theme-theme-" ∧
    (namesakeResolver.resolve namesakeSite .empty (.text "docsite-theme-theme-") none).1.result =
      .ok (namesakeResolver.packageAt "theme-" "theme-theme-"
        "/p/.docsite/themes/theme-theme-.py" false) := by
  have hmade : make namesakeSite ModuleKind.theme.name (lazyOptions "docsite" []
      (some undeclared)) = .ok namesakeResolver := make_lazyOptions (by decide) _ _ _ _
  have hn : (Naming.make "theme" "docsite").Separable := by decide
  have hbare : (Naming.make "theme" "docsite").Bare "theme-" := by decide
  have hp : NamesPackage "theme-" := ⟨rfl, rfl⟩
  have hmem : "docsite-theme-theme-" ∈ (Naming.make "theme" "docsite").spellings "theme-" := by
    decide
  have hsame := sameAnswer_of_spellings .theme hn hp hbare rfl hmade namesakeSite .empty none _ hmem
  exact ⟨hmade, hn, hp, hbare, hsame.2.2.1, rfl⟩

def refusing : Declares := fun _ => .error (.fault (.raised ⟨.system, "PermissionError", "denied"⟩))

def refusedResolver : Resolver := lazyResolver namesakeSite "theme" "docsite" [] (some refusing)

/-- Where a probe fails, each spelling is named in a failure of its own. -/
theorem not_alike_when_refused :
    make namesakeSite "theme" (lazyOptions "docsite" [] (some refusing)) = .ok refusedResolver ∧
    (Naming.make "theme" "docsite").Separable ∧ NamesPackage "dark" ∧
    (Naming.make "theme" "docsite").Bare "dark" ∧
    ¬((∃ found, ∀ s ∈ (Naming.make "theme" "docsite").spellings "dark",
          (refusedResolver.resolve namesakeSite .empty (.text s) none).1.result = .ok found) ∨
      ∃ names, ∀ s ∈ (Naming.make "theme" "docsite").spellings "dark",
          (refusedResolver.resolve namesakeSite .empty (.text s) none).1.result =
            .error (.notFound s "theme" names)) := by
  have hfails : (refusedResolver.resolve namesakeSite .empty (.text "dark") none).1.result =
      .error (.resolution "Failed to probe theme 'dark'"
        (some (.raised ⟨.system, "PermissionError", "denied"⟩))) := rfl
  have hself : "dark" ∈ (Naming.make "theme" "docsite").spellings "dark" := List.mem_cons_self
  refine ⟨make_lazyOptions (by decide) _ _ _ _, by decide, ⟨rfl, rfl⟩, by decide, ?_⟩
  rintro (⟨found, hfound⟩ | ⟨names, hnames⟩)
  · have h := hfails.symm.trans (hfound "dark" hself)
    cases h
  · have h := hfails.symm.trans (hnames "dark" hself)
    cases h

end Resolver

end SiteModules
