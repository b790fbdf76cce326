import SiteModules.Proofs.Outcome
import SiteModules.Proofs.Resolver.Loading

namespace SiteModules

def Failure.isRefusal : Failure → Bool
  | .invalidPath _ _ => true
  | _ => false

def Traced.Refuses {α : Type} (t : Traced α) : Prop :=
  Except.Fails (fun e => e.isRefusal = true) t.result

namespace Traced

variable {α β : Type} {t : Traced α}

theorem refuses_bind_iff {f : α → Traced β} :
    (t >>= f).Refuses ↔ t.Refuses ∨ ∃ x, t.result = .ok x ∧ (f x).Refuses := by
  rw [Refuses, result_bind]
  exact Except.fails_bind_iff

theorem not_refuses_bind {f : α → Traced β} (ht : ¬t.Refuses) (hf : ∀ x, ¬(f x).Refuses) :
    ¬(t >>= f).Refuses := by
  rw [refuses_bind_iff]
  rintro (h | ⟨x, -, h⟩)
  · exact ht h
  · exact hf x h

theorem not_refuses_pure (x : α) : ¬(pure x : Traced α).Refuses := Except.not_fails_ok x

theorem not_fails_mapError_fault (x : Except Fault α) :
    ¬Except.Fails (fun e => e.isRefusal = true) (x.mapError Failure.fault) := by
  cases x <;> simp [Failure.isRefusal]

theorem inherited_not_refuses : Inherited fun _ t => ¬t.Refuses where
  pure := not_refuses_pure
  bind := not_refuses_bind
  ofFault := not_fails_mapError_fault
  ask h p question := by
    change ¬Except.Fails _ ((question h.files h.cwd p).mapError _)
    cases question h.files h.cwd p <;> simp [Failure.isRefusal]
  debug _ _ := Except.not_fails_ok ()

end Traced

namespace Manifest

theorem isRefusal_ofFault (p : Path) (f : Fault) : (ofFault p f).isRefusal = false := by
  unfold ofFault unreadable
  split
  · rfl
  · split <;> rfl

theorem not_fails_mapError_ofFault {α : Type} (p : Path) (x : Except Fault α) :
    ¬Except.Fails (fun e => e.isRefusal = true) (x.mapError (ofFault p)) := by
  cases x <;> simp [isRefusal_ofFault]

theorem not_refuses_readRequirements (h : Host) (p : Path) :
    ¬(Traced.ofExcept (readRequirements h p)).Refuses := by
  apply Except.not_fails_bind (not_fails_mapError_ofFault p _)
  intro cs
  apply Except.not_fails_bind
  · cases Toml.read cs <;> simp [isRefusal_ofFault]
  · intro document
    exact Except.not_fails_bind (Traced.not_fails_mapError_fault _) fun _ => Except.not_fails_ok _

theorem not_refuses_readSections (h : Host) (p : Path) :
    ¬(Traced.ofExcept (readSections h p)).Refuses := by
  apply Except.not_fails_bind (not_fails_mapError_ofFault p _)
  intro cs
  apply Except.not_fails_bind
  · cases Json.read cs <;> simp [isRefusal_ofFault]
  · intro document
    cases document <;>
      simp [pure, Except.pure, throw, throwThe, MonadExceptOf.throw, Failure.isRefusal]

end Manifest

namespace Resolver

open Text (split)

def BadPath (cs : List Char) : Prop := '\x00' ∈ cs ∨ ['/', '/'] <:+: cs

def BadName (cs : List Char) : Prop :=
  '\x00' ∈ cs ∨ '\\' ∈ cs ∨ ['/', '/'] <:+: cs ∨ ['/'] <:+ cs ∨
    ['.'] ∈ split '/' cs ∨ ['.', '.'] ∈ split '/' cs

instance (cs : List Char) : Decidable (BadPath cs) := inferInstanceAs (Decidable (_ ∨ _))

instance (cs : List Char) : Decidable (BadName cs) := inferInstanceAs (Decidable (_ ∨ _))

def Malformed : RequestShape → List Char → Prop
  | .absolutePath, cs => BadPath cs
  | .relativePath, cs => BadPath cs
  | .packageName, cs => BadName cs
  | .empty, _ => False
  | .object, _ => False

variable {r : Resolver} {h : Host} {t : ModuleTable} {request : Value} {cwd : Option Path}
  {base : Path} {s : String}

theorem checkPath_eq_ok_iff : checkPath s = .ok () ↔ ¬BadPath s.toList := by
  simp only [checkPath, Text.nil_mem_interior_iff, BadPath, not_or]
  split
  · next hnul => simp [hnul]
  · next hnul => split <;> simp_all

theorem isPlain_iff_of_shape {cs : List Char} (hshape : RequestShape.ofChars cs = .packageName)
    (hne : cs ≠ []) : Text.IsPlain cs ↔ ¬(['/', '/'] <:+: cs ∨ ['/'] <:+ cs ∨
      ['.'] ∈ split '/' cs ∨ ['.', '.'] ∈ split '/' cs) := by
  obtain ⟨c, cs, rfl⟩ := List.exists_cons_of_ne_nil hne
  have hc : c ≠ '/' := by
    rintro rfl
    cases hshape
  have hempty : [] ∈ split '/' (c :: cs) ↔ ['/'] <:+ c :: cs ∨ ['/', '/'] <:+: c :: cs := by
    obtain ⟨p, ps, hs⟩ := Text.exists_split_eq '/' cs
    rw [← Text.nil_mem_rest_iff, Text.split_cons_of_ne hc hs]
    simp
  have hplain : Text.IsPlain (c :: cs) ↔ [] ∉ split '/' (c :: cs) ∧
      ['.'] ∉ split '/' (c :: cs) ∧ ['.', '.'] ∉ split '/' (c :: cs) := by
    simp only [Text.IsPlain, Text.strays, List.mem_cons, List.not_mem_nil, or_false, not_or]
    constructor
    · intro h
      exact ⟨fun hmem => (h _ hmem).1 rfl, fun hmem => (h _ hmem).2.1 rfl,
        fun hmem => (h _ hmem).2.2 rfl⟩
    · rintro ⟨h, h', h''⟩ seg hseg
      exact ⟨fun heq => h (heq ▸ hseg), fun heq => h' (heq ▸ hseg), fun heq => h'' (heq ▸ hseg)⟩
  rw [hplain, hempty]
  simp only [not_or]
  constructor
  · rintro ⟨⟨hlast, hdouble⟩, hdots⟩
    exact ⟨hdouble, hlast, hdots⟩
  · rintro ⟨hdouble, hlast, hdots⟩
    exact ⟨⟨hlast, hdouble⟩, hdots⟩

theorem checkName_eq_ok_iff_of_shape (hshape : RequestShape.ofChars s.toList = .packageName)
    (hne : s ≠ "") : checkName s = .ok () ↔ ¬BadName s.toList := by
  rw [checkName_eq_ok_iff, isPlain_iff_of_shape hshape (mt String.toList_eq_nil_iff.1 hne), BadName]
  simp only [not_or, and_assoc]

theorem Checks.refuses_iff {check : String → Except Failure Unit} (hcheck : Checks check)
    {run : Unit → Traced Descriptor} (hrun : ¬(run ()).Refuses) :
    (Traced.ofExcept (check s) >>= run).Refuses ↔ check s ≠ .ok () := by
  rw [Traced.refuses_bind_iff, Traced.Refuses, Traced.result_ofExcept]
  obtain hok | ⟨reason, herror⟩ := hcheck s
  · simp [hok, hrun]
  · simp [herror, Failure.isRefusal]

theorem not_refuses_said (r : Resolver) (text : String) (d : Descriptor) :
    ¬(r.say text >>= fun _ => pure d).Refuses :=
  Traced.inherited_not_refuses.said _ _ _

theorem refuses_findAbsolute_iff : (r.findAbsolute s).Refuses ↔ BadPath s.toList := by
  rw [findAbsolute, checks_checkPath.refuses_iff (r.not_refuses_said _ _), Ne,
    checkPath_eq_ok_iff, Classical.not_not]

theorem refuses_findRelative_iff : (r.findRelative s base).Refuses ↔ BadPath s.toList := by
  rw [findRelative, checks_checkPath.refuses_iff (r.not_refuses_said _ _), Ne,
    checkPath_eq_ok_iff, Classical.not_not]

def ManifestAccepts (r : Resolver) : Prop :=
  ∀ d, r.manifest = some d → ∀ name, ¬Except.Fails (fun e => e.isRefusal = true) (d name)

theorem not_refuses_declares (r : Resolver) (h : Host) (base : Path) :
    ¬(r.declares h base).Refuses := by
  unfold declares
  split
  · exact Traced.not_refuses_pure _
  · apply Traced.not_refuses_bind (Traced.inherited_not_refuses.ofProject
      (fun p => Manifest.not_refuses_readRequirements h p)
      (fun p => Manifest.not_refuses_readSections h p) base)
    intro m
    exact Traced.not_refuses_pure _

theorem ManifestAccepts.of_declares (hr : r.ManifestAccepts) {d : Declares}
    (hd : (r.declares h base).result = .ok d) (name : String) :
    ¬Except.Fails (fun e => e.isRefusal = true) (d name) := by
  unfold declares at hd
  split at hd
  · next d' hmanifest =>
    cases hd
    exact hr d hmanifest name
  · obtain ⟨m, -, hd⟩ := Traced.result_bind_eq_ok_iff.1 hd
    cases hd
    exact Except.not_fails_ok _

theorem ManifestAccepts.not_refuses_probe (hr : r.ManifestAccepts) :
    ¬(r.probe h s base).Refuses := by
  rw [probe, Traced.refuses_bind_iff]
  rintro (hfailed | ⟨d, hd, hfailed⟩)
  · exact r.not_refuses_declares h base hfailed
  · exact Traced.inherited_not_refuses.tryNames (hr.of_declares hd) _ hfailed

theorem isRefusal_probeFailure (r : Resolver) (s : String) (e : Failure) :
    (r.probeFailure s e).isRefusal = e.isRefusal := by
  unfold probeFailure
  cases e with
  | fault f => by_cases hf : f.isSystem <;> simp [Failure.system?, hf, Failure.isRefusal]
  | _ => rfl

theorem not_refuses_findPackage (hr : r.ManifestAccepts) (hvalid : checkName s = .ok ()) :
    ¬(r.findPackage h s base).Refuses := by
  have hprobe : ¬Except.Fails (fun e => e.isRefusal = true) (r.probe h s base).result :=
    hr.not_refuses_probe
  rw [Traced.Refuses, result_findPackage hvalid]
  cases hresult : (r.probe h s base).result with
  | error e =>
    rw [hresult, Except.fails_error_iff] at hprobe
    rw [Except.fails_error_iff, isRefusal_probeFailure]
    exact hprobe
  | ok found => cases found <;> simp [Failure.isRefusal]

theorem refuses_findPackage_iff (hr : r.ManifestAccepts)
    (hshape : RequestShape.ofChars s.toList = .packageName) (hne : s ≠ "") :
    (r.findPackage h s base).Refuses ↔ BadName s.toList := by
  rw [← Classical.not_not (a := BadName _), ← checkName_eq_ok_iff_of_shape hshape hne]
  obtain hok | ⟨reason, herror⟩ := checks_checkName s
  · exact iff_of_false (not_refuses_findPackage hr hok) (not_not_intro hok)
  · refine iff_of_true ⟨_, Traced.result_bind_of_error herror _, rfl⟩ ?_
    rw [herror]
    simp

def LoaderAccepts (r : Resolver) (h : Host) (t : ModuleTable) : Prop :=
  ∀ place, ¬(r.loader h t place).1.Refuses

theorem isRefusal_passOn (r : Resolver) (request : Value) (e : Failure) :
    (r.passOn request e).isRefusal = e.isRefusal := by
  simp only [passOn]
  cases request.shape with
  | packageName => exact isRefusal_probeFailure _ _ _
  | _ => rfl

theorem refuses_resolve_iff (hloader : r.LoaderAccepts h t) :
    (r.resolve h t request cwd).1.Refuses ↔ (r.search h request cwd).Refuses := by
  by_cases hplaces : Places request.shape
  · rw [resolve_of_places hplaces, Traced.Refuses, result_finish, Traced.Refuses]
    cases hsearch : (r.search h request cwd).result with
    | error e => rfl
    | ok found =>
      refine iff_of_false ?_ (Except.not_fails_ok _)
      obtain ⟨place, hplace⟩ := exists_place_of_search hplaces hsearch
      have hplace? : found.place? = some place := by simp [Descriptor.place?, hplace]
      simp only [Except.bind, hplace?]
      split
      · have hload := hloader place
        rw [Traced.Refuses] at hload
        cases hresult : (r.loader h t place).1.result with
        | error e =>
          rw [hresult, Except.fails_error_iff] at hload
          change ¬Except.Fails _ (.error (r.passOn request e))
          rw [Except.fails_error_iff, isRefusal_passOn]
          exact hload
        | ok v => exact Except.not_fails_ok _
      · exact Except.not_fails_ok _
  · rw [resolve_of_not_places hplaces]

theorem shape_of_text? (htext : request.text? = some s) :
    request.shape = .empty ∨ (request.shape = .ofChars s.toList ∧ s ≠ "") := by
  unfold Value.shape
  split
  · exact .inl rfl
  · next hempty =>
    right
    rw [htext]
    refine ⟨rfl, ?_⟩
    rintro rfl
    unfold Value.text? at htext
    split at htext
    · cases htext
      exact hempty rfl
    · next k => cases k <;> simp [ValueKind.name] at htext
    · cases htext

theorem not_refuses_findObject (r : Resolver) (v : Value) : ¬(r.findObject v).Refuses := by
  unfold findObject
  split
  · exact r.not_refuses_said _ _
  · simp [Traced.Refuses, Failure.isRefusal]

theorem refuses_search_iff (hr : r.ManifestAccepts) (htext : request.text? = some s) :
    (r.search h request cwd).Refuses ↔ Malformed request.shape s.toList := by
  simp only [search, htext, Option.getD_some]
  cases hshape : request.shape with
  | empty => exact iff_of_false (Traced.not_refuses_pure _) id
  | object => exact iff_of_false (r.not_refuses_findObject _) id
  | absolutePath => exact refuses_findAbsolute_iff
  | relativePath => exact refuses_findRelative_iff
  | packageName =>
    obtain ⟨hchars, hne⟩ := (shape_of_text? htext).resolve_left (by simp [hshape])
    exact refuses_findPackage_iff hr (hchars.symm.trans hshape) hne

theorem Checks.exists_fail {check : String → Except Failure Unit} (hcheck : Checks check)
    (hfailed : check s ≠ .ok ()) : ∃ reason, ∀ run : Unit → Traced Descriptor,
      (Traced.ofExcept (check s) >>= run) = .fail (.invalidPath s reason) := by
  obtain ⟨reason, herror⟩ := (hcheck s).resolve_left hfailed
  refine ⟨reason, ?_⟩
  intro run
  rw [herror]
  rfl

theorem search_of_malformed (htext : request.text? = some s)
    (hbad : Malformed request.shape s.toList) : ∃ reason, ∀ (r : Resolver) (h : Host)
      (cwd : Option Path), r.search h request cwd = .fail (.invalidPath s reason) := by
  -- The check comes first in every search, whoever searches and wherever.
  have hpath (hbad : BadPath s.toList) : ∃ reason, ∀ run : Unit → Traced Descriptor,
      (Traced.ofExcept (checkPath s) >>= run) = .fail (.invalidPath s reason) :=
    checks_checkPath.exists_fail (mt checkPath_eq_ok_iff.1 (not_not_intro hbad))
  simp only [search, htext, Option.getD_some]
  cases hshape : request.shape with
  | empty =>
    rw [hshape] at hbad
    exact hbad.elim
  | object =>
    rw [hshape] at hbad
    exact hbad.elim
  | absolutePath =>
    rw [hshape] at hbad
    obtain ⟨reason, hfail⟩ := hpath hbad
    exact ⟨reason, fun r h cwd => hfail _⟩
  | relativePath =>
    rw [hshape] at hbad
    obtain ⟨reason, hfail⟩ := hpath hbad
    exact ⟨reason, fun r h cwd => hfail _⟩
  | packageName =>
    rw [hshape] at hbad
    obtain ⟨hchars, hne⟩ := (shape_of_text? htext).resolve_left (by simp [hshape])
    have hname := checkName_eq_ok_iff_of_shape (hchars.symm.trans hshape) hne
    obtain ⟨reason, hfail⟩ := checks_checkName.exists_fail (mt hname.1 (not_not_intro hbad))
    exact ⟨reason, fun r h cwd => hfail _⟩

/--
Text is refused exactly for how it is written. Nothing has happened then, and with another
resolver, another directory or other files nothing else would.
-/
theorem refuses_iff_malformed (hr : r.ManifestAccepts) (hloader : r.LoaderAccepts h t)
    (htext : request.text? = some s) (cwd : Option Path) :
    ((r.resolve h t request cwd).1.Refuses ↔ Malformed request.shape s.toList) ∧
      (Malformed request.shape s.toList → ∃ reason, ∀ (r : Resolver) (h : Host) (t : ModuleTable)
        (cwd : Option Path), r.resolve h t request cwd = (.fail (.invalidPath s reason), t)) := by
  refine ⟨(refuses_resolve_iff hloader).trans (refuses_search_iff hr htext), ?_⟩
  intro hbad
  obtain ⟨reason, hfail⟩ := search_of_malformed htext hbad
  refine ⟨reason, ?_⟩
  intro r h t cwd
  by_cases hplaces : Places request.shape
  · rw [resolve_of_places hplaces, hfail]
    rfl
  · rw [resolve_of_not_places hplaces, hfail]

theorem refuses_doubled_slash :
    (darkResolver true).ManifestAccepts ∧ (darkResolver true).LoaderAccepts bareSite .empty ∧
    ((darkResolver true).resolve bareSite .empty (.text ".//") none).1.Refuses ∧
    ¬((darkResolver true).resolve bareSite .empty (.text "./a/") none).1.Refuses := by
  have hmanifest : (darkResolver true).ManifestAccepts := by
    rintro d hd name
    cases hd
    exact Except.not_fails_ok true
  have hloader : (darkResolver true).LoaderAccepts bareSite .empty := by
    intro place
    change ¬(darkLoader bareSite .empty place).1.Refuses
    unfold darkLoader
    split
    · exact Traced.not_refuses_pure _
    · simp [Traced.Refuses, Failure.isRefusal]
  refine ⟨hmanifest, hloader, ?_, ?_⟩
  · rw [(refuses_iff_malformed hmanifest hloader rfl none).1]
    exact (by decide : BadPath ".//".toList)
  · rw [(refuses_iff_malformed hmanifest hloader rfl none).1]
    exact (by decide : ¬BadPath "./a/".toList)

end Resolver

end SiteModules
