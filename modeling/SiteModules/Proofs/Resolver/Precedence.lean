import SiteModules.Proofs.Locator.Declared
import SiteModules.Proofs.Locator.Default
import SiteModules.Proofs.Resolver.Package

namespace SiteModules.Resolver

open Defaults (Slot)

inductive Source
  | declared
  | default (s : Slot)
  deriving DecidableEq, Repr

namespace Source

def Before : Source → Source → Prop
  | .declared, .default _ => True
  | .default s, .default s' => s.Before s'
  | _, .declared => False

def Holds (h : Host) (d : Declares) (dirs : List Path) (name : String) : Source → Prop
  | .declared => d name = .ok true
  | .default s => s.Filled h name dirs

inductive Gives (r : Resolver) (h : Host) (request : String) (base : Path) (dirs : List Path)
    (name : String) : Source → Descriptor → Prop
  | declared {place : String} : Locator.Lies h name base place →
      Gives r h request base dirs name .declared (r.packageAt request name place true)
  | default {s : Slot} {p : Path} : s.path? name dirs = some p →
      Gives r h request base dirs name (.default s) (r.packageAt request name p.toString false)

end Source

structure Hit where
  index : Nat
  source : Source
  deriving DecidableEq, Repr

namespace Hit

def Before (x y : Hit) : Prop :=
  x.index < y.index ∨ x.index = y.index ∧ x.source.Before y.source

def Holds (h : Host) (d : Declares) (dirs : List Path) (names : List String) (x : Hit) : Prop :=
  ∃ name, names[x.index]? = some name ∧ x.source.Holds h d dirs name

def Gives (r : Resolver) (h : Host) (request : String) (base : Path) (dirs : List Path)
    (names : List String) (x : Hit) (found : Descriptor) : Prop :=
  ∃ name, names[x.index]? = some name ∧ x.source.Gives r h request base dirs name found

def next (x : Hit) : Hit := ⟨x.index + 1, x.source⟩

@[simp] theorem holds_next (h : Host) (d : Declares) (dirs : List Path) (name : String)
    (names : List String) (x : Hit) :
    x.next.Holds h d dirs (name :: names) ↔ x.Holds h d dirs names := by
  simp [Holds, next]

@[simp] theorem holds_zero (h : Host) (d : Declares) (dirs : List Path) (name : String)
    (names : List String) (s : Source) :
    (Hit.mk 0 s).Holds h d dirs (name :: names) ↔ s.Holds h d dirs name := by
  simp [Holds]

theorem cases_next (x : Hit) : (∃ s, x = ⟨0, s⟩) ∨ ∃ x', x = next x' := by
  obtain ⟨index, source⟩ := x
  cases index with
  | zero => exact .inl ⟨source, rfl⟩
  | succ i => exact .inr ⟨⟨i, source⟩, rfl⟩

variable {P : Hit → Prop}

theorem first_zero {s : Source} (hs : First Source.Before (fun s => P ⟨0, s⟩) s) :
    First Before P ⟨0, s⟩ := by
  refine ⟨hs.1, ?_⟩
  intro y hy
  obtain ⟨s', rfl⟩ | ⟨y, rfl⟩ := y.cases_next
  · obtain rfl | hbefore := hs.2 s' hy
    · exact .inl rfl
    · exact .inr (.inr ⟨rfl, hbefore⟩)
  · exact .inr (.inl (Nat.zero_lt_succ _))

theorem first_next {x : Hit} (hzero : ∀ s, ¬ P ⟨0, s⟩)
    (hx : First Before (fun x => P x.next) x) : First Before P x.next := by
  refine ⟨hx.1, ?_⟩
  intro y hy
  obtain ⟨s, rfl⟩ | ⟨y, rfl⟩ := y.cases_next
  · exact absurd hy (hzero s)
  · obtain rfl | hlt | ⟨heq, hbefore⟩ := hx.2 y hy
    · exact .inl rfl
    · exact .inr (.inl (Nat.succ_lt_succ hlt))
    · exact .inr (.inr ⟨congrArg Nat.succ heq, hbefore⟩)

end Hit

/-- Neither the manifest nor the file system nor the locator fails for a name. -/
structure Quiet (h : Host) (d : Declares) (dirs : List Path) (base : Path) (name : String) :
    Prop where
  asked : ∃ b, d name = .ok b
  answered : Defaults.Answered h name dirs
  located : d name = .ok true → ∃ place, (Locator.locate h name base).result = .ok place

variable {r : Resolver} {h : Host} {request : String} {base : Path} {d : Declares}
  {dirs : List Path}

theorem tryName_first (request : String) {name : String}
    (hdirs : r.defaults.searchPaths base = dirs)
    (hquiet : Quiet h d dirs base name) :
    (∃ s found, First Source.Before (Source.Holds h d dirs name) s ∧
      s.Gives r h request base dirs name found ∧
      (r.tryName h request base d name).result = .ok (some found)) ∨
    ((∀ s, ¬ Source.Holds h d dirs name s) ∧
      (r.tryName h request base d name).result = .ok none) := by
  obtain ⟨declared, hasked⟩ := hquiet.asked
  rw [result_tryName, hasked]
  cases declared with
  | true =>
    obtain ⟨place, hplace⟩ := hquiet.located hasked
    refine .inl ⟨.declared, r.packageAt request name place true, ⟨hasked, ?_⟩,
      .declared (Locator.result_locate_eq_ok_iff.1 hplace), ?_⟩
    · intro s _
      cases s with
      | declared => exact .inl rfl
      | default s => exact .inr trivial
    · simp only [Except.bind, if_true, hplace]
      rfl
  | false =>
    -- What is not declared is left to the defaults, whose first slot is the first of all.
    have hnot : ¬ Source.Holds h d dirs name .declared := by
      simp [Source.Holds, hasked]
    simp only [Except.bind, Bool.false_eq_true, if_false, Defaults.find, hdirs]
    obtain ⟨s, p, hs, hp, hresult⟩ | ⟨hnone, hresult⟩ := Defaults.findAmong_first hquiet.answered
    · refine .inl ⟨.default s, r.packageAt request name p.toString false, ⟨hs.1, ?_⟩,
        .default hp, ?_⟩
      · intro s' hs'
        cases s' with
        | declared => exact absurd hs' hnot
        | default s' =>
          obtain rfl | hbefore := hs.2 s' hs'
          · exact .inl rfl
          · exact .inr hbefore
      · rw [hresult]
        rfl
    · refine .inr ⟨?_, ?_⟩
      · intro s
        cases s with
        | declared => exact hnot
        | default s => exact hnone s
      · rw [hresult]
        rfl

theorem tryNames_first (request : String) {names : List String}
    (hdirs : r.defaults.searchPaths base = dirs)
    (hquiet : ∀ name ∈ names, Quiet h d dirs base name) :
    (∃ x found, First Hit.Before (Hit.Holds h d dirs names) x ∧
      x.Gives r h request base dirs names found ∧
      (r.tryNames h request base d names).result = .ok (some found)) ∨
    ((∀ x, ¬ Hit.Holds h d dirs names x) ∧
      (r.tryNames h request base d names).result = .ok none) := by
  induction names with
  | nil => exact .inr ⟨by simp [Hit.Holds], rfl⟩
  | cons name rest ih =>
    rw [result_tryNames_cons]
    obtain ⟨s, found, hs, hgives, hresult⟩ | ⟨hnone, hresult⟩ :=
      tryName_first request hdirs (hquiet name List.mem_cons_self)
    · rw [hresult]
      exact .inl ⟨⟨0, s⟩, found, Hit.first_zero (by simpa using hs), ⟨name, rfl, hgives⟩, rfl⟩
    · rw [hresult]
      have hzero : ∀ s, ¬ Hit.Holds h d dirs (name :: rest) ⟨0, s⟩ := by simpa using hnone
      obtain ⟨x, found, hx, hgives, hrest⟩ | ⟨hnone', hrest⟩ :=
        ih fun name' hmem => hquiet name' (List.mem_cons_of_mem _ hmem)
      · exact .inl ⟨x.next, found, Hit.first_next hzero (by simpa using hx), hgives, hrest⟩
      · refine .inr ⟨?_, hrest⟩
        intro x hx
        obtain ⟨s, rfl⟩ | ⟨x, rfl⟩ := x.cases_next
        · exact hzero s hx
        · exact hnone' x (by simpa using hx)

/--
Where no probe fails, a package request is answered by the first of all hits of its candidates,
and it has no answer exactly where there is no hit.
-/
theorem resolve_eq_first_hit {h₀ : Host} {kind : String} {o : Options} {t : ModuleTable}
    {cwd : Option Path} {names : List String} (hr : make h₀ kind o = .ok r)
    (hlazy : o.autoLoad = false) (hp : NamesPackage request) (hbase : r.base h cwd = base)
    (hnames : (Naming.make kind o.organization).candidates request = names)
    (hdirs : (base.child ".docsite").child (kind ++ "s") :: o.bundled = dirs)
    (hd : (r.declares h base).result = .ok d)
    (hquiet : ∀ name ∈ names, Quiet h d dirs base name) :
    ((∃ x, Hit.Holds h d dirs names x) → ∃ x found,
      First Hit.Before (Hit.Holds h d dirs names) x ∧
      x.Gives r h request base dirs names found ∧
      (r.resolve h t (.text request) cwd).1.result = .ok found) ∧
    ((r.resolve h t (.text request) cwd).1.result = .error (.notFound request kind names) ↔
      ∀ x, ¬ Hit.Holds h d dirs names x) := by
  obtain ⟨-, hnaming, hauto, hdefaults, -, -⟩ := of_make hr
  have hsearch : r.defaults.searchPaths base = dirs := by
    rw [hdefaults]
    exact hdirs
  have hkind : r.kind = kind := by rw [Resolver.kind, hnaming, Naming.kind_make]
  rw [← hnaming] at hnames
  have hprobe : (r.probe h request base).result = (r.tryNames h request base d names).result := by
    rw [probe, Traced.result_bind_of_ok hd, hnames]
  rw [result_resolve_of_lazy hp (hauto.trans hlazy), hbase, hprobe, hnames, hkind]
  obtain ⟨x, found, hx, hgives, hresult⟩ | ⟨hnone, hresult⟩ :=
    tryNames_first request hsearch hquiet
  · rw [hresult]
    refine ⟨fun _ => ⟨x, found, hx, hgives, rfl⟩, ?_⟩
    constructor
    · intro h
      cases h
    · intro hnone
      exact absurd hx.1 (hnone x)
  · rw [hresult]
    refine ⟨?_, fun _ => hnone, fun _ => rfl⟩
    rintro ⟨x, hx⟩
    exact absurd hx (hnone x)

def sampleSite : Host where
  files := ⟨[(["p"], .directory), (["p", ".docsite"], .directory),
    (["p", ".docsite", "themes"], .directory),
    (["p", ".docsite", "themes", "theme-dark"], .directory), (["b"], .directory),
    (["b", "acme-theme-dark.py"], .file [])], []⟩
  cwd := ["p"]
  home := ⟨.single, ["home"]⟩
  packages := ⟨.single, ["site"]⟩
  organization := none

def samplePaths : List Path := [⟨.single, ["p", ".docsite", "themes"]⟩, ⟨.single, ["b"]⟩]

def sampleManifest : Declares := fun name => .ok (name == "dark")

def sampleOptions : Options := lazyOptions "acme" [⟨.single, ["b"]⟩] (some sampleManifest)

def sampleResolver : Resolver :=
  lazyResolver sampleSite "theme" "acme" [⟨.single, ["b"]⟩] (some sampleManifest)

def sampleNames : List String := ["acme-theme-dark", "theme-dark", "dark"]

theorem quiet_sample : ∀ name ∈ sampleNames,
    Quiet sampleSite sampleManifest samplePaths ⟨.single, ["p"]⟩ name := by
  intro name hname
  simp only [sampleNames, List.mem_cons, List.not_mem_nil, or_false] at hname
  obtain rfl | rfl | rfl := hname <;>
  · refine ⟨⟨_, rfl⟩, ?_, fun _ => ⟨_, rfl⟩⟩
    intro dir hdir
    simp only [samplePaths, List.mem_cons, List.not_mem_nil, or_false] at hdir
    obtain rfl | rfl := hdir <;> exact ⟨⟨_, rfl⟩, _, rfl⟩

theorem resolve_sample : make sampleSite "theme" sampleOptions = .ok sampleResolver ∧
    NamesPackage "dark" ∧ ∃ x found,
      First Hit.Before (Hit.Holds sampleSite sampleManifest samplePaths sampleNames) x ∧
      x.Gives sampleResolver sampleSite "dark" ⟨.single, ["p"]⟩ samplePaths sampleNames found ∧
      (sampleResolver.resolve sampleSite .empty (.text "dark") none).1.result = .ok found ∧
      found = sampleResolver.packageAt "dark" "acme-theme-dark" "/b/acme-theme-dark.py" false := by
  have hmade : make sampleSite "theme" sampleOptions = .ok sampleResolver :=
    make_lazyOptions (by decide) _ _ _ _
  have hname : NamesPackage "dark" := ⟨rfl, rfl⟩
  have hbase : sampleResolver.base sampleSite none = ⟨.single, ["p"]⟩ := rfl
  have hfirst := (resolve_eq_first_hit (t := .empty) hmade rfl hname hbase rfl rfl rfl
    quiet_sample).1
  obtain ⟨x, found, hx, hgives, hresult⟩ := hfirst ⟨⟨0, .default (.file 1)⟩, "acme-theme-dark",
    rfl, ⟨.single, ["b"]⟩, rfl, rfl⟩
  have hplace : (sampleResolver.resolve sampleSite .empty (.text "dark") none).1.result =
      .ok (sampleResolver.packageAt "dark" "acme-theme-dark" "/b/acme-theme-dark.py" false) := rfl
  exact ⟨hmade, hname, x, found, hx, hgives, hresult, Except.ok.inj (hresult.symm.trans hplace)⟩

end SiteModules.Resolver
