import SiteModules.Proofs.Inquiry
import SiteModules.Proofs.Resolver.Package

namespace SiteModules

namespace Traced

variable {α β : Type} {t : Traced α}

def LoadsNothing (t : Traced α) : Prop := ∀ place, .loading place ∉ t.events

theorem LoadsNothing.bind {f : α → Traced β} (ht : t.LoadsNothing)
    (hf : ∀ x, (f x).LoadsNothing) : (t >>= f).LoadsNothing := by
  intro place hmem
  obtain hmem | ⟨x, -, hmem⟩ := mem_events_bind.1 hmem
  · exact ht place hmem
  · exact hf x place hmem

theorem LoadsNothing.mapFailure (ht : t.LoadsNothing) (f : Failure → Failure) :
    (t.mapFailure f).LoadsNothing := ht

theorem loadsNothing_of_events (h : t.events = []) : t.LoadsNothing := by
  intro place hmem
  rw [h] at hmem
  cases hmem

@[simp] theorem loadsNothing_pure (x : α) : (pure x : Traced α).LoadsNothing :=
  loadsNothing_of_events rfl

@[simp] theorem loadsNothing_fail (e : Failure) : (fail e : Traced α).LoadsNothing :=
  loadsNothing_of_events rfl

@[simp] theorem loadsNothing_ofExcept (x : Except Failure α) : (ofExcept x).LoadsNothing :=
  loadsNothing_of_events rfl

@[simp] theorem loadsNothing_ofFault (x : Except Fault α) : (ofFault x).LoadsNothing :=
  loadsNothing_of_events rfl

end Traced

open Traced

def Loader.GivesOrRefuses (l : Loader) : Prop :=
  ∀ (h : Host) (t : ModuleTable) (place : String),
    (∃ v, (l h t place).1.result = .ok v) ∨
      ∃ e : Failure, e.isLoad = true ∧ (l h t place).1.result = .error e

@[simp] theorem loadsNothing_debug (logger text : String) : (debug logger text).LoadsNothing := by
  simp [LoadsNothing]

theorem inherited_loadsNothing : Inherited fun _ t => t.LoadsNothing where
  pure := loadsNothing_pure
  bind := LoadsNothing.bind
  ofFault := loadsNothing_ofFault
  ask h p question := by simp [LoadsNothing, Host.ask]
  debug := loadsNothing_debug

namespace Resolver

variable {r : Resolver} {host : Host} {t : ModuleTable} {request : Value} {cwd : Option Path}

theorem loadsNothing_say (r : Resolver) (text : String) : (r.say text).LoadsNothing :=
  loadsNothing_debug _ _

theorem loadsNothing_declares (r : Resolver) (h : Host) (base : Path) :
    (r.declares h base).LoadsNothing := by
  unfold declares
  split
  · exact loadsNothing_pure _
  · apply LoadsNothing.bind (inherited_loadsNothing.ofProject (fun _ => loadsNothing_ofExcept _)
      (fun _ => loadsNothing_ofExcept _) base)
    intro m
    exact loadsNothing_pure _

theorem loadsNothing_tryNames (r : Resolver) (h : Host) (request : String) (base : Path)
    (d : Declares) (names : List String) :
    (r.tryNames h request base d names).LoadsNothing :=
  inherited_loadsNothing.tryNames (fun name => by simp [LoadsNothing, ask]) names

theorem loadsNothing_findPackage (r : Resolver) (h : Host) (request : String) (base : Path) :
    (r.findPackage h request base).LoadsNothing := by
  unfold findPackage
  apply LoadsNothing.bind (loadsNothing_ofExcept _)
  intro _
  refine LoadsNothing.bind ((LoadsNothing.bind (r.loadsNothing_declares h base) fun d =>
    r.loadsNothing_tryNames h request base d _).mapFailure _) ?_
  intro found
  cases found with
  | some d => exact loadsNothing_pure d
  | none =>
    apply LoadsNothing.bind (r.loadsNothing_say _)
    intro _
    exact loadsNothing_fail _

def search (r : Resolver) (h : Host) (request : Value) (cwd : Option Path) : Traced Descriptor :=
  match request.shape with
  | .empty => pure .empty
  | .object => r.findObject request
  | .absolutePath => r.findAbsolute (request.text?.getD "")
  | .relativePath => r.findRelative (request.text?.getD "") (r.base h cwd)
  | .packageName => r.findPackage h (request.text?.getD "") (r.base h cwd)

def passOn (r : Resolver) (request : Value) : Failure → Failure :=
  match request.shape with
  | .packageName => r.probeFailure (request.text?.getD "")
  | _ => id

def Places (shape : RequestShape) : Prop := shape ≠ .empty ∧ shape ≠ .object

theorem loadsNothing_checked (check : Except Failure Unit) (text : String) (d : Descriptor) :
    (Traced.ofExcept check >>= fun _ => r.say text >>= fun _ => pure d).LoadsNothing := by
  apply LoadsNothing.bind (loadsNothing_ofExcept check)
  intro _
  apply LoadsNothing.bind (r.loadsNothing_say text)
  intro _
  exact loadsNothing_pure d

theorem loadsNothing_search (r : Resolver) (h : Host) (request : Value) (cwd : Option Path) :
    (r.search h request cwd).LoadsNothing := by
  unfold search
  split
  · exact loadsNothing_pure _
  · unfold findObject
    split
    · apply LoadsNothing.bind (r.loadsNothing_say _)
      intro _
      exact loadsNothing_pure _
    · exact loadsNothing_fail _
  · exact loadsNothing_checked _ _ _
  · exact loadsNothing_checked _ _ _
  · exact r.loadsNothing_findPackage h _ _

theorem resolve_of_not_places (h : ¬Places request.shape) (r : Resolver) (host : Host)
    (t : ModuleTable) (cwd : Option Path) :
    r.resolve host t request cwd = (r.search host request cwd, t) := by
  simp only [resolve, search]
  generalize request.shape = shape at h
  cases shape with
  | empty => rfl
  | object => rfl
  | _ => exact absurd ⟨by simp, by simp⟩ h

theorem resolve_of_places (h : Places request.shape) (r : Resolver) (host : Host)
    (t : ModuleTable) (cwd : Option Path) :
    r.resolve host t request cwd =
      r.finish host t (r.passOn request) (r.search host request cwd) := by
  simp only [resolve, search, passOn]
  generalize request.shape = shape at h
  cases shape with
  | empty => exact absurd rfl h.1
  | object => exact absurd rfl h.2
  | _ => rfl

section Loop

variable {r : Resolver} {h : Host} {t : ModuleTable} {request : String} {base : Path} {d : Declares}

/-- One loop over the names, in which what is found is loaded at once. -/
def tryNamesLoading (r : Resolver) (h : Host) (t : ModuleTable) (request : String) (base : Path)
    (d : Declares) : List String → Traced (Option Descriptor) × ModuleTable
  | [] => (pure none, t)
  | name :: rest =>
    let tried := r.tryName h request base d name
    match tried.result with
    | .error e => (⟨tried.events, .error e⟩, t)
    | .ok none =>
      let (found, t) := r.tryNamesLoading h t request base d rest
      (tried >>= fun _ => found, t)
    | .ok (some found) =>
      let (loaded, t) := r.finish h t id (pure found)
      (tried >>= fun _ => some <$> loaded, t)

def probeLoading (r : Resolver) (h : Host) (t : ModuleTable) (request : String) (base : Path) :
    Traced (Option Descriptor) × ModuleTable :=
  let asked := r.declares h base
  match asked.result with
  | .error e => (⟨asked.events, .error e⟩, t)
  | .ok d =>
    let (found, t) := r.tryNamesLoading h t request base d (r.naming.candidates request)
    (asked >>= fun _ => found, t)

def loadFound (r : Resolver) (h : Host) (t : ModuleTable) (found : Traced (Option Descriptor)) :
    Traced (Option Descriptor) × ModuleTable :=
  match found.result with
  | .ok (some d) =>
    let (loaded, t) := r.finish h t id (pure d)
    (found >>= fun _ => some <$> loaded, t)
  | _ => (found, t)

theorem loadFound_bind {α : Type} {asked : Traced α} {x : α} (hasked : asked.result = .ok x)
    (f : α → Traced (Option Descriptor)) :
    r.loadFound h t (asked >>= f) =
      (asked >>= fun _ => (r.loadFound h t (f x)).1, (r.loadFound h t (f x)).2) := by
  have hresult := Traced.result_bind_of_ok hasked f
  have hconst : asked >>= f = asked >>= fun _ => f x := by
    rw [Traced.bind_of_ok hasked, Traced.bind_of_ok hasked]
  unfold loadFound
  rw [hresult]
  cases (f x).result with
  | error e => rw [hconst]
  | ok found =>
    cases found with
    | none => rw [hconst]
    | some d => simp only [hconst, bind_assoc]

theorem loadFound_bind_of_error {α : Type} {asked : Traced α} {e : Failure}
    (hasked : asked.result = .error e) (f : α → Traced (Option Descriptor)) :
    r.loadFound h t (asked >>= f) = (⟨asked.events, .error e⟩, t) := by
  rw [Traced.bind_of_error hasked]
  rfl

theorem tryNamesLoading_eq (names : List String) : r.tryNamesLoading h t request base d names =
    r.loadFound h t (r.tryNames h request base d names) := by
  induction names with
  | nil => rfl
  | cons name rest ih =>
    rw [tryNamesLoading, tryNames]
    dsimp only
    cases hname : (r.tryName h request base d name).result with
    | error e =>
      rw [loadFound_bind_of_error hname]
    | ok found =>
      rw [loadFound_bind hname]
      cases found with
      | none => rw [ih]
      | some found => rfl

theorem probeLoading_eq :
    r.probeLoading h t request base = r.loadFound h t (r.probe h request base) := by
  unfold probeLoading probe
  dsimp only
  cases hasked : (r.declares h base).result with
  | error e =>
    rw [loadFound_bind_of_error hasked]
  | ok d =>
    rw [loadFound_bind hasked, ← tryNamesLoading_eq]

theorem finish_of_ok {found : Traced Descriptor} {x : Descriptor} (hfound : found.result = .ok x)
    (onFailure : Failure → Failure) :
    r.finish h t onFailure found =
      (found >>= fun _ => (r.finish h t id (pure x)).1.mapFailure onFailure,
        (r.finish h t id (pure x)).2) := by
  have hsame : found = found >>= fun _ => (pure x : Traced Descriptor).mapFailure onFailure := by
    obtain ⟨events, result⟩ := found
    cases hfound
    rw [Traced.bind_of_ok rfl, Traced.events_mapFailure, Traced.events_pure, List.append_nil]
    rfl
  cases hplace : x.place? with
  | none => rwa [finish_of_place?_eq_none hfound hplace, finish_of_place?_eq_none rfl hplace,
      Prod.mk.injEq, and_iff_left rfl]
  | some place =>
    cases hload : r.autoLoad with
    | false => rwa [finish_of_lazy hload, finish_of_lazy hload, Prod.mk.injEq, and_iff_left rfl]
    | true =>
      rw [finish_of_eager hload hfound hplace, finish_of_eager hload rfl hplace,
        Traced.bind_of_ok hfound]
      cases (r.loader h t place).1.result <;> rfl

theorem mapFailure_bind_settle (r : Resolver) (request : String) (onFailure : Failure → Failure)
    (loaded : Traced Descriptor) :
    (some <$> loaded).mapFailure onFailure >>= r.settle request = loaded.mapFailure onFailure := by
  rw [map_eq_pure_bind, Traced.mapFailure_bind, bind_assoc]
  exact bind_pure _

/-- The loader may as well be called inside of the loop, under what handles the loop's failures. -/
theorem resolvePackage_eq_probeLoading (hvalid : checkName request = .ok ()) :
    r.resolvePackage h t request base =
      ((r.probeLoading h t request base).1.mapFailure (r.probeFailure request) >>=
        r.settle request, (r.probeLoading h t request base).2) := by
  rw [resolvePackage, findPackage_eq hvalid, probeLoading_eq, loadFound]
  generalize r.probe h request base = probe
  cases hresult : probe.result with
  | error e =>
    rw [finish_of_error (e := r.probeFailure request e)]
    rw [Traced.result_bind, Traced.result_mapFailure, hresult]
    rfl
  | ok found =>
    have hmapped : (probe.mapFailure (r.probeFailure request)).result = .ok found := by
      rw [Traced.result_mapFailure, hresult]
      rfl
    cases found with
    | none =>
      rw [finish_of_error (e := .notFound request r.kind (r.naming.candidates request))]
      rw [Traced.result_bind_of_ok hmapped]
      rfl
    | some d =>
      dsimp only
      rw [finish_of_ok (x := d)]
      · -- Failures of the loader are put into words in the same way on both sides.
        rw [Traced.mapFailure_bind, bind_assoc, bind_assoc, Traced.bind_of_ok hmapped,
          Traced.bind_of_ok hmapped, mapFailure_bind_settle]
        rfl
      · rw [Traced.result_bind_of_ok hmapped]
        rfl

end Loop

theorem exists_place_of_search {found : Descriptor} (h : Places request.shape)
    (hfound : (r.search host request cwd).result = .ok found) :
    ∃ place, found.entry = some (.place place) := by
  unfold search at hfound
  split at hfound
  · next heq => exact absurd heq h.1
  · next heq => exact absurd heq h.2
  · obtain ⟨-, -, hfound⟩ := Traced.result_bind_eq_ok_iff.1 hfound
    cases hfound
    exact ⟨_, rfl⟩
  · obtain ⟨-, -, hfound⟩ := Traced.result_bind_eq_ok_iff.1 hfound
    cases hfound
    exact ⟨_, rfl⟩
  · obtain ⟨hvalid, hprobe⟩ := result_findPackage_eq_ok_iff.1 hfound
    obtain ⟨d, -, hnames⟩ := Traced.result_bind_eq_ok_iff.1 hprobe
    obtain ⟨name, -, hname⟩ := exists_tryName_of_tryNames hnames
    obtain ⟨-, place, -, rfl⟩ | ⟨-, p, -, rfl⟩ := result_tryName_eq_some_iff.1 hname
    · exact ⟨place, rfl⟩
    · exact ⟨p.toString, rfl⟩

def withLoading (r : Resolver) (b : Bool) : Resolver := { r with autoLoad := b }

theorem make_withLoading (h : Host) (kind : String) (o : Options) (b : Bool) :
    make h kind { o with autoLoad := b } = (make h kind o).map (·.withLoading b) := by
  by_cases hne : kind = ""
  · simp only [make, if_pos hne]
    rfl
  · simp only [make, if_neg hne]
    cases o.allowed with
    | none => rfl
    | some named =>
      cases hkinds : named.mapM ValueKind.ofValue with
      | error f =>
        simp only [hkinds]
        rfl
      | ok kinds =>
        simp only [hkinds]
        rfl

theorem tryNames_withLoading (r : Resolver) (b : Bool) (h : Host) (request : String) (base : Path)
    (d : Declares) (names : List String) :
    (r.withLoading b).tryNames h request base d names = r.tryNames h request base d names := by
  induction names with
  | nil => rfl
  | cons name rest ih =>
    have hname : (r.withLoading b).tryName h request base d name =
        r.tryName h request base d name := rfl
    rw [tryNames, tryNames, ih, hname]

theorem findPackage_withLoading (r : Resolver) (b : Bool) (h : Host) (request : String)
    (base : Path) :
    (r.withLoading b).findPackage h request base = r.findPackage h request base := by
  have hnames : (fun d => (r.withLoading b).tryNames h request base d
      ((r.withLoading b).naming.candidates request)) =
      fun d => r.tryNames h request base d (r.naming.candidates request) :=
    funext fun d => r.tryNames_withLoading b h request base d _
  unfold findPackage
  simp only [hnames]
  rfl

theorem search_withLoading (r : Resolver) (b : Bool) (h : Host) (request : Value)
    (cwd : Option Path) : (r.withLoading b).search h request cwd = r.search h request cwd := by
  unfold search
  split
  · rfl
  · rfl
  · rfl
  · rfl
  · exact r.findPackage_withLoading b h _ _

theorem passOn_of_isLoad {e : Failure} (h : e.isLoad = true) (r : Resolver) (request : Value) :
    r.passOn request e = e := by
  cases e with
  | load headline cause =>
    unfold passOn
    cases request.shape <;> rfl
  | _ => cases h

theorem resolve_of_lazy (hlazy : r.autoLoad = false) (host : Host) (t : ModuleTable)
    (request : Value) (cwd : Option Path) :
    r.resolve host t request cwd = (r.search host request cwd, t) := by
  by_cases hplaces : Places request.shape
  · rw [resolve_of_places hplaces, finish_of_lazy hlazy]
  · rw [resolve_of_not_places hplaces]

theorem result_lazily (r : Resolver) (host : Host) (t : ModuleTable) (request : Value)
    (cwd : Option Path) : ((r.withLoading false).resolve host t request cwd).1.result =
      (r.search host request cwd).result := by
  rw [resolve_of_lazy rfl, search_withLoading]

theorem resolve_eagerly {found : Descriptor} {place : String} (hplaces : Places request.shape)
    (hfound : (r.search host request cwd).result = .ok found)
    (hplace : found.entry = some (.place place)) :
    (r.withLoading true).resolve host t request cwd =
      (⟨(r.search host request cwd).events ++ .loading place :: (r.loader host t place).1.events,
        ((r.loader host t place).1.result.mapError (r.passOn request)).map fun v =>
          { found with entry := some (.loaded v) }⟩, (r.loader host t place).2) := by
  have hsearch := (congrArg Traced.result (r.search_withLoading true host request cwd)).trans hfound
  have hplace? : found.place? = some place := by simp [Descriptor.place?, hplace]
  rw [resolve_of_places hplaces, finish_of_eager rfl hsearch hplace?, search_withLoading]
  rfl

/--
How a run of a resolver that loads is like the run of one that does not, from a table of loaded
modules.
-/
structure Follows (l : Loader) (host : Host) (t : ModuleTable) (request : Value)
    (lazy eager : Traced Descriptor × ModuleTable) : Prop where
  quiet : lazy.1.LoadsNothing ∧ lazy.2 = t
  failed : ∀ e, lazy.1.result = .error e → eager = lazy
  kept : request.shape = .empty ∨ request.shape = .object → eager = lazy
  loaded : ∀ found, lazy.1.result = .ok found → request.shape ≠ .empty → request.shape ≠ .object →
    ∃ place, found.entry = some (.place place) ∧
      eager.1.events = lazy.1.events ++ .loading place :: (l host t place).1.events ∧
      eager.2 = (l host t place).2 ∧
      (∀ v, (l host t place).1.result = .ok v →
        eager.1.result = .ok { found with entry := some (.loaded v) }) ∧
      ∀ e, (l host t place).1.result = .error e → eager.1.result = .error e

theorem follows_withLoading (r : Resolver) (hl : r.loader.GivesOrRefuses) (host : Host)
    (t : ModuleTable) (request : Value) (cwd : Option Path) :
    Follows r.loader host t request ((r.withLoading false).resolve host t request cwd)
      ((r.withLoading true).resolve host t request cwd) := by
  rw [resolve_of_lazy rfl, search_withLoading]
  -- Of what lies nowhere a resolver that loads makes the same.
  have hnone (hplaces : ¬Places request.shape) :
      (r.withLoading true).resolve host t request cwd = (r.search host request cwd, t) := by
    rw [resolve_of_not_places hplaces, search_withLoading]
  refine ⟨⟨r.loadsNothing_search host request cwd, rfl⟩, ?_, ?_, ?_⟩
  · intro e hfailed
    by_cases hplaces : Places request.shape
    · rw [resolve_of_places hplaces, search_withLoading, finish_of_error hfailed]
    · exact hnone hplaces
  · intro hshape
    apply hnone
    rintro ⟨hempty, hobject⟩
    exact hshape.elim hempty hobject
  · intro found hfound hempty hobject
    obtain ⟨place, hplace⟩ := exists_place_of_search ⟨hempty, hobject⟩ hfound
    rw [resolve_eagerly ⟨hempty, hobject⟩ hfound hplace]
    refine ⟨place, hplace, rfl, rfl, ?_, ?_⟩
    · intro v hv
      simp only [hv]
      rfl
    · intro e he
      obtain ⟨v, hv⟩ | ⟨e', hrefuses, he'⟩ := hl host t place
      · rw [hv] at he
        cases he
      · cases he'.symm.trans he
        rw [he]
        exact congrArg Except.error (passOn_of_isLoad hrefuses r request)

theorem follows_of_make {h₀ : Host} {kind : String} {o : Options} {lazy eager : Resolver}
    (hl : o.loader.GivesOrRefuses) (hlazy : make h₀ kind { o with autoLoad := false } = .ok lazy)
    (heager : make h₀ kind { o with autoLoad := true } = .ok eager) (host : Host)
    (t : ModuleTable) (request : Value) (cwd : Option Path) :
    Follows o.loader host t request (lazy.resolve host t request cwd)
      (eager.resolve host t request cwd) := by
  rw [make_withLoading] at hlazy heager
  cases hmade : make h₀ kind o with
  | error f =>
    rw [hmade] at hlazy
    cases hlazy
  | ok r =>
    rw [hmade] at hlazy heager
    cases hlazy
    cases heager
    have hloader : r.loader = o.loader := (of_make hmade).2.2.2.2.2
    rw [← hloader] at hl ⊢
    exact follows_withLoading r hl host t request cwd

def bareSite : Host where
  files := ⟨[(["p"], .directory)], []⟩
  cwd := ["p"]
  home := ⟨.single, ["home"]⟩
  packages := ⟨.single, ["site"]⟩
  organization := none

def darkLoader : Loader := fun _ t place =>
  if place = "docsite-theme-dark" then (pure (.text "night"), t)
  else (.fail (.load ("No module " ++ place) none), t)

theorem givesOrRefuses_darkLoader : darkLoader.GivesOrRefuses := by
  intro h t place
  unfold darkLoader
  split
  · exact .inl ⟨_, rfl⟩
  · exact .inr ⟨_, rfl, rfl⟩

def darkOptions : Options :=
  { lazyOptions "docsite" [] (some fun _ => .ok true) with loader := darkLoader }

def darkResolver (b : Bool) : Resolver :=
  { lazyResolver bareSite "theme" "docsite" [] (some fun _ => .ok true) with
    autoLoad := b
    loader := darkLoader }

theorem follows_dark :
    darkLoader.GivesOrRefuses ∧
    make bareSite "theme" { darkOptions with autoLoad := false } = .ok (darkResolver false) ∧
    make bareSite "theme" { darkOptions with autoLoad := true } = .ok (darkResolver true) ∧
    (∀ request, Follows darkLoader bareSite .empty request
      ((darkResolver false).resolve bareSite .empty request none)
      ((darkResolver true).resolve bareSite .empty request none)) ∧
    ((darkResolver true).resolve bareSite .empty (.text "dark") none).1.result =
      .ok ⟨some (.loaded (.text "night")), some "docsite-theme-dark", some "dark", some true⟩ ∧
    ((darkResolver true).resolve bareSite .empty (.text "light") none).1.result =
      .error (.load "No module docsite-theme-light" none) := by
  have hlazy : make bareSite "theme" { darkOptions with autoLoad := false } =
      .ok (darkResolver false) := by
    simp only [make, if_neg (show ¬"theme" = "" by decide)]
    rfl
  have heager : make bareSite "theme" { darkOptions with autoLoad := true } =
      .ok (darkResolver true) := by
    simp only [make, if_neg (show ¬"theme" = "" by decide)]
    rfl
  refine ⟨givesOrRefuses_darkLoader, hlazy, heager, ?_, rfl, rfl⟩
  intro request
  exact follows_of_make givesOrRefuses_darkLoader hlazy heager bareSite .empty request none

end Resolver

end SiteModules
