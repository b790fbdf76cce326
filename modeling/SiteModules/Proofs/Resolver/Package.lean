import SiteModules.Proofs.Path.Below
import SiteModules.Resolver

namespace SiteModules

open Text (IsPlain)

theorem RequestShape.ofChars_of_isPlain {cs : List Char} (h : IsPlain cs) :
    RequestShape.ofChars cs = .packageName := by
  unfold RequestShape.ofChars
  split
  · exact absurd (by simp [Text.strays]) (h [] (by simp))
  · exact absurd (by simp [Text.strays]) (h ['.'] (by simp [Text.split]))
  · exact absurd (by simp [Text.strays]) (h ['.'] (by simp [Text.split]))
  · exact absurd (by simp [Text.strays]) (h ['.', '.'] (by simp [Text.split]))
  · exact absurd (by simp [Text.strays]) (h ['.', '.'] (by simp [Text.split]))
  · rfl

theorem Traced.bind_pure_eq {α β : Type} (t : Traced α) (f : α → β) :
    (t >>= fun x => pure (f x)) = ⟨t.events, t.result.map f⟩ := by
  cases hresult : t.result with
  | error e => rw [bind_of_error hresult]; rfl
  | ok x =>
    rw [bind_of_ok hresult, events_pure, List.append_nil]
    rfl

theorem Traced.mapFailure_bind {α β : Type} (g : Failure → Failure) (t : Traced α)
    (f : α → Traced β) :
    (t >>= f).mapFailure g = t.mapFailure g >>= fun x => (f x).mapFailure g := by
  obtain ⟨events, result⟩ := t
  cases result <;> rfl

namespace Resolver

structure NamesPackage (request : String) : Prop where
  shape : (Value.text request).shape = .packageName
  valid : checkName request = .ok ()

theorem checkName_eq_ok_iff {request : String} : checkName request = .ok () ↔
    ('\x00' ∉ request.toList ∧ '\\' ∉ request.toList) ∧ IsPlain request.toList := by
  have hplain : (Text.split '/' request.toList).all isPlainSegment = true ↔
      IsPlain request.toList := by
    simp [IsPlain, isPlainSegment, Text.strays, and_assoc]
  simp only [checkName, ← hplain, ← not_or]
  split
  · next hbad => simp [hbad]
  · next hgood =>
    split
    · next hall => simp [hgood, hall]
    · next hall => simp [hall]

def Checks (check : String → Except Failure Unit) : Prop :=
  ∀ s, check s = .ok () ∨ ∃ reason, check s = .error (.invalidPath s reason)

theorem checks_checkPath : Checks checkPath := by
  intro s
  unfold checkPath
  dsimp only
  split
  · exact .inr ⟨_, rfl⟩
  · split
    · exact .inr ⟨_, rfl⟩
    · exact .inl rfl

theorem checks_checkName : Checks checkName := by
  intro s
  unfold checkName
  dsimp only
  split
  · exact .inr ⟨_, rfl⟩
  · split
    · exact .inl rfl
    · exact .inr ⟨_, rfl⟩

theorem ne_empty_of_checkName {request : String} (hvalid : checkName request = .ok ()) :
    request ≠ "" := by
  rintro rfl
  exact (checkName_eq_ok_iff.1 hvalid).2 [] (by simp) (by simp [Text.strays])

theorem namesPackage_iff {request : String} : NamesPackage request ↔
    ('\x00' ∉ request.toList ∧ '\\' ∉ request.toList) ∧ IsPlain request.toList := by
  rw [← checkName_eq_ok_iff]
  constructor
  · exact NamesPackage.valid
  · intro hvalid
    have hplain := (checkName_eq_ok_iff.1 hvalid).2
    refine ⟨?_, hvalid⟩
    rw [Value.shape_text (ne_empty_of_checkName hvalid), RequestShape.ofChars_of_isPlain hplain]

def packageAt (r : Resolver) (request name place : String) (declared : Bool) : Descriptor :=
  ⟨some (.place place), some name, some (r.naming.shortcutOf request), some declared⟩

def probe (r : Resolver) (h : Host) (request : String) (base : Path) :
    Traced (Option Descriptor) := do
  r.tryNames h request base (← r.declares h base) (r.naming.candidates request)

variable {r : Resolver} {h : Host} {request : String} {base : Path} {d : Declares}

theorem result_tryName (r : Resolver) (h : Host) (request : String) (base : Path) (d : Declares)
    (name : String) :
    (r.tryName h request base d name).result = (d name).bind fun declared =>
      if declared then (Locator.locate h name base).result.map fun place =>
        some (r.packageAt request name place true)
      else (r.defaults.find h name base).result.map fun found =>
        found.map fun p => r.packageAt request name p.toString false := by
  unfold tryName
  rw [Traced.result_bind]
  change (d name).bind _ = _
  congr 1
  funext declared
  cases declared with
  | true =>
    simp only [if_true]
    rw [Traced.result_bind]
    cases (Locator.locate h name base).result <;> rfl
  | false =>
    simp only [Bool.false_eq_true, if_false]
    rw [Traced.result_bind]
    cases (r.defaults.find h name base).result with
    | error e => rfl
    | ok found => cases found <;> rfl

theorem result_tryName_eq_some_iff {name : String} {found : Descriptor} :
    (r.tryName h request base d name).result = .ok (some found) ↔
      (d name = .ok true ∧ ∃ place, (Locator.locate h name base).result = .ok place ∧
        r.packageAt request name place true = found) ∨
      (d name = .ok false ∧ ∃ p, (r.defaults.find h name base).result = .ok (some p) ∧
        r.packageAt request name p.toString false = found) := by
  rw [result_tryName]
  cases d name with
  | error e => simp [Except.bind]
  | ok declared =>
    cases declared with
    | true =>
      simp only [Except.bind, if_true]
      cases (Locator.locate h name base).result <;> simp [Except.map]
    | false =>
      simp only [Except.bind, Bool.false_eq_true, if_false]
      cases (r.defaults.find h name base).result <;> simp [Except.map, Option.map_eq_some_iff]

theorem result_tryName_eq_none_iff {name : String} :
    (r.tryName h request base d name).result = .ok none ↔
      d name = .ok false ∧ (r.defaults.find h name base).result = .ok none := by
  rw [result_tryName]
  cases d name with
  | error e => simp [Except.bind]
  | ok declared =>
    cases declared with
    | true =>
      simp only [Except.bind, if_true]
      cases (Locator.locate h name base).result <;> simp [Except.map]
    | false =>
      simp only [Except.bind, Bool.false_eq_true, if_false]
      cases (r.defaults.find h name base).result <;> simp [Except.map]

theorem result_tryNames_cons (r : Resolver) (h : Host) (request : String) (base : Path)
    (d : Declares) (name : String) (rest : List String) :
    (r.tryNames h request base d (name :: rest)).result =
      (r.tryName h request base d name).result.bind fun
        | some found => .ok (some found)
        | none => (r.tryNames h request base d rest).result := by
  rw [tryNames, Traced.result_bind]
  congr 1
  funext found
  cases found <;> rfl

theorem exists_tryName_of_tryNames {names : List String} {found : Descriptor}
    (hfound : (r.tryNames h request base d names).result = .ok (some found)) :
    ∃ name ∈ names, (r.tryName h request base d name).result = .ok (some found) := by
  induction names with
  | nil => cases hfound
  | cons name rest ih =>
    rw [result_tryNames_cons] at hfound
    cases hname : (r.tryName h request base d name).result with
    | error e =>
      rw [hname] at hfound
      cases hfound
    | ok first =>
      rw [hname] at hfound
      cases first with
      | some descriptor =>
        cases hfound
        exact ⟨name, List.mem_cons_self, hname⟩
      | none =>
        obtain ⟨name', hmem, hname'⟩ := ih hfound
        exact ⟨name', List.mem_cons_of_mem _ hmem, hname'⟩

theorem result_tryNames_eq_error_iff {names : List String} {e : Failure} :
    (r.tryNames h request base d names).result = .error e ↔
      ∃ before name after, names = before ++ name :: after ∧
        (∀ c ∈ before, (r.tryName h request base d c).result = .ok none) ∧
        (r.tryName h request base d name).result = .error e := by
  induction names with
  | nil => simp [tryNames]
  | cons first rest ih =>
    rw [result_tryNames_cons]
    constructor
    · intro hfailed
      -- The first name fails, or it is passed and one of the others fails.
      cases hfirst : (r.tryName h request base d first).result with
      | error e' =>
        rw [hfirst] at hfailed
        cases hfailed
        exact ⟨[], first, rest, rfl, by simp, hfirst⟩
      | ok found =>
        rw [hfirst] at hfailed
        cases found with
        | some descriptor => cases hfailed
        | none =>
          obtain ⟨before, name, after, rfl, hbefore, hname⟩ := ih.1 hfailed
          exact ⟨first :: before, name, after, rfl, List.forall_mem_cons.2 ⟨hfirst, hbefore⟩, hname⟩
    · rintro ⟨before, name, after, hnames, hbefore, hname⟩
      cases before with
      | nil =>
        cases hnames
        rw [hname]
        rfl
      | cons c before =>
        cases hnames
        obtain ⟨hfirst, hbefore⟩ := List.forall_mem_cons.1 hbefore
        rw [hfirst]
        exact ih.2 ⟨before, name, after, rfl, hbefore, hname⟩

def settle (r : Resolver) (request : String) : Option Descriptor → Traced Descriptor
  | some d => pure d
  | none => do
    r.say (request ++ " -> not found (tried " ++
      ", ".intercalate (r.naming.candidates request) ++ ")")
    .fail (.notFound request r.kind (r.naming.candidates request))

theorem findPackage_eq (hvalid : checkName request = .ok ()) : r.findPackage h request base =
    (r.probe h request base).mapFailure (r.probeFailure request) >>= r.settle request := by
  have hfind : r.findPackage h request base = Traced.ofExcept (checkName request) >>= fun _ =>
    Traced.mapFailure (r.probeFailure request) (r.probe h request base) >>= r.settle request := by
    unfold findPackage probe
    congr 1
  rw [hfind, hvalid]
  exact pure_bind () _

theorem result_findPackage (hvalid : checkName request = .ok ()) :
    (r.findPackage h request base).result =
      match (r.probe h request base).result with
      | .ok (some found) => .ok found
      | .ok none => .error (.notFound request r.kind (r.naming.candidates request))
      | .error e => .error (r.probeFailure request e) := by
  rw [findPackage_eq hvalid, Traced.result_bind, Traced.result_mapFailure]
  cases (r.probe h request base).result with
  | error e => rfl
  | ok found => cases found <;> rfl

theorem result_findPackage_eq_ok_iff {found : Descriptor} :
    (r.findPackage h request base).result = .ok found ↔
      checkName request = .ok () ∧ (r.probe h request base).result = .ok (some found) := by
  cases hvalid : checkName request with
  | error e =>
    rw [findPackage, Traced.result_bind_of_error (Traced.result_ofExcept _ |>.trans hvalid)]
    simp
  | ok u =>
    rw [result_findPackage hvalid]
    cases (r.probe h request base).result with
    | error e => simp
    | ok answer => cases answer <;> simp

theorem resolve_text_of_namesPackage {cwd : Option Path} {t : ModuleTable}
    (hp : NamesPackage request) :
    r.resolve h t (.text request) cwd = r.resolvePackage h t request (r.base h cwd) := by
  simp only [resolve, hp.shape]
  rfl

theorem finish_of_error {found : Traced Descriptor} {e : Failure} (hfound : found.result = .error e)
    (r : Resolver) (h : Host) (t : ModuleTable) (onFailure : Failure → Failure) :
    r.finish h t onFailure found = (found, t) := by
  simp only [finish, hfound]

theorem finish_of_place?_eq_none {found : Traced Descriptor} {d : Descriptor}
    (hfound : found.result = .ok d) (hplace : d.place? = none) (r : Resolver) (h : Host)
    (t : ModuleTable) (onFailure : Failure → Failure) :
    r.finish h t onFailure found = (found, t) := by
  simp only [finish, hfound, hplace]

theorem finish_of_lazy (hlazy : r.autoLoad = false) (h : Host) (t : ModuleTable)
    (onFailure : Failure → Failure) (found : Traced Descriptor) :
    r.finish h t onFailure found = (found, t) := by
  unfold finish
  split
  · rfl
  · split
    · rfl
    · rw [hlazy]
      rfl

theorem finish_of_eager {found : Traced Descriptor} {d : Descriptor} {place : String}
    (heager : r.autoLoad = true) (hfound : found.result = .ok d) (hplace : d.place? = some place)
    (h : Host) (t : ModuleTable) (onFailure : Failure → Failure) :
    r.finish h t onFailure found =
      (⟨found.events ++ .loading place :: (r.loader h t place).1.events,
        ((r.loader h t place).1.result.mapError onFailure).map fun v =>
          { d with entry := some (.loaded v) }⟩, (r.loader h t place).2) := by
  simp only [finish, hfound, hplace, heager, if_true]
  rw [Traced.bind_of_ok hfound, Traced.bind_of_ok (x := ()) rfl, Traced.bind_pure_eq]
  rfl

theorem result_finish (r : Resolver) (h : Host) (t : ModuleTable) (onFailure : Failure → Failure)
    (found : Traced Descriptor) :
    (r.finish h t onFailure found).1.result = found.result.bind fun d =>
      match d.place? with
      | none => .ok d
      | some place =>
        if r.autoLoad then
          ((r.loader h t place).1.result.mapError onFailure).map fun v =>
            { d with entry := some (.loaded v) }
        else .ok d := by
  cases hresult : found.result with
  | error e =>
    rw [finish_of_error hresult, hresult]
    rfl
  | ok d =>
    cases hplace : d.place? with
    | none =>
      rw [finish_of_place?_eq_none hresult hplace, hresult]
      simp only [Except.bind, hplace]
    | some place =>
      cases hload : r.autoLoad with
      | false =>
        rw [finish_of_lazy hload, hresult]
        simp only [Except.bind, hplace, Bool.false_eq_true, if_false]
      | true =>
        rw [finish_of_eager hload hresult hplace]
        simp only [Except.bind, hplace, if_true]

theorem result_resolve_of_namesPackage (hp : NamesPackage request) (r : Resolver) (h : Host)
    (t : ModuleTable) (cwd : Option Path) :
    (r.resolve h t (.text request) cwd).1.result =
      match (r.probe h request (r.base h cwd)).result with
      | .error e => .error (r.probeFailure request e)
      | .ok none => .error (.notFound request r.kind (r.naming.candidates request))
      | .ok (some found) =>
        match found.place? with
        | none => .ok found
        | some place =>
          if r.autoLoad then
            ((r.loader h t place).1.result.mapError (r.probeFailure request)).map fun v =>
              { found with entry := some (.loaded v) }
          else .ok found := by
  rw [resolve_text_of_namesPackage hp, resolvePackage, result_finish, result_findPackage hp.valid]
  cases (r.probe h request (r.base h cwd)).result with
  | error e => rfl
  | ok found => cases found <;> rfl

theorem exists_probe_of_resolve {t : ModuleTable} {cwd : Option Path} {found : Descriptor}
    (hp : NamesPackage request)
    (hfound : (r.resolve h t (.text request) cwd).1.result = .ok found) :
    ∃ d, (r.probe h request (r.base h cwd)).result = .ok (some d) ∧
      (found = d ∨ ∃ v, found = { d with entry := some (.loaded v) }) := by
  rw [result_resolve_of_namesPackage hp] at hfound
  cases hprobe : (r.probe h request (r.base h cwd)).result with
  | error e => simp [hprobe] at hfound
  | ok answer =>
    cases answer with
    | none => simp [hprobe] at hfound
    | some d =>
      refine ⟨d, rfl, ?_⟩
      simp only [hprobe] at hfound
      split at hfound
      · cases hfound
        exact .inl rfl
      · next place _ =>
        split at hfound
        · cases hmodule : (r.loader h t place).1.result with
          | error e =>
            rw [hmodule] at hfound
            cases hfound
          | ok v =>
            rw [hmodule] at hfound
            cases hfound
            exact .inr ⟨v, rfl⟩
        · cases hfound
          exact .inl rfl

theorem result_resolve_of_lazy (hp : NamesPackage request) (hlazy : r.autoLoad = false)
    (h : Host) (t : ModuleTable) (cwd : Option Path) :
    (r.resolve h t (.text request) cwd).1.result =
      match (r.probe h request (r.base h cwd)).result with
      | .error e => .error (r.probeFailure request e)
      | .ok none => .error (.notFound request r.kind (r.naming.candidates request))
      | .ok (some found) => .ok found := by
  rw [result_resolve_of_namesPackage hp, hlazy]
  cases (r.probe h request (r.base h cwd)).result with
  | error e => rfl
  | ok answer =>
    cases answer with
    | none => rfl
    | some found =>
      simp only [Bool.false_eq_true, if_false]
      split <;> rfl

theorem eq_of_make {h : Host} {kind : String} {o : Options} {r : Resolver}
    (hr : make h kind o = .ok r) : kind ≠ "" ∧ ∃ allowed, r = {
      naming := .make kind o.organization
      allowed := allowed
      autoLoad := o.autoLoad
      cwd := h.absolute (o.cwd.getD h.cwdPath)
      manifest := o.manifest
      defaults := ⟨kind, o.bundled⟩
      loader := o.loader } := by
  by_cases hne : kind = ""
  · simp only [make, if_pos hne] at hr
    cases hr
  · simp only [make, if_neg hne] at hr
    cases hallowed : o.allowed with
    | none =>
      rw [hallowed] at hr
      cases hr
      exact ⟨hne, _, rfl⟩
    | some named =>
      rw [hallowed] at hr
      cases hkinds : named.mapM ValueKind.ofValue with
      | error f =>
        simp only [hkinds] at hr
        cases hr
      | ok kinds =>
        simp only [hkinds] at hr
        cases hr
        exact ⟨hne, _, rfl⟩

theorem of_make {h : Host} {kind : String} {o : Options} {r : Resolver}
    (hr : make h kind o = .ok r) : kind ≠ "" ∧ r.naming = .make kind o.organization ∧
      r.autoLoad = o.autoLoad ∧ r.defaults = ⟨kind, o.bundled⟩ ∧ r.manifest = o.manifest ∧
      r.loader = o.loader := by
  obtain ⟨hne, allowed, rfl⟩ := eq_of_make hr
  exact ⟨hne, rfl, rfl, rfl, rfl, rfl⟩

def lazyOptions (organization : String) (bundled : List Path) (manifest : Option Declares) :
    Options where
  organization := organization
  allowed := none
  autoLoad := false
  cwd := none
  bundled := bundled
  manifest := manifest
  loader := Load.loader

def lazyResolver (h : Host) (kind organization : String) (bundled : List Path)
    (manifest : Option Declares) : Resolver where
  naming := .make kind organization
  allowed := ValueKind.all
  autoLoad := false
  cwd := h.absolute h.cwdPath
  manifest := manifest
  defaults := ⟨kind, bundled⟩
  loader := Load.loader

theorem make_lazyOptions {kind : String} (hne : kind ≠ "") (h : Host) (organization : String)
    (bundled : List Path) (manifest : Option Declares) :
    make h kind (lazyOptions organization bundled manifest) =
      .ok (lazyResolver h kind organization bundled manifest) := by
  simp only [make, if_neg hne]
  rfl

end Resolver

end SiteModules
