import SiteModules.Proofs.Unforeseen

namespace SiteModules.Manifest

def Listlike : Value → Prop
  | .list _ | .text _ | .mapping _ => True
  | _ => False

def Under (key : String) (P : Value → Prop) : Value → Prop
  | .mapping fields => ∀ v, Value.lookup? (.text key) fields = some v → P v
  | _ => False

def Each (P : Value → Prop) : Value → Prop
  | .mapping fields => ∀ v ∈ fields.map (·.2), P v
  | _ => False

structure Orderly (document : Value) : Prop where
  project : Under "project" (fun project => Under "dependencies" Listlike project ∧
    Under "optional-dependencies" (Each Listlike) project) document
  tool : Under "tool" (Under "docsite" (Under "dependencies" Listlike)) document

variable {key : String} {P : Value → Prop} {v missing : Value} {document : Value}

theorem under_emptyTable (key : String) (P : Value → Prop) : Under key P emptyTable := by
  intro v h
  cases h

theorem each_emptyTable (P : Value → Prop) : Each P emptyTable := by
  intro v h
  cases h

theorem Under.of_entryOr {x : Value} (hentry : entryOr missing key v = .ok x) (hx : P x) :
    Under key P v := by
  cases v with
  | mapping fields =>
    cases hentry
    intro y hy
    rw [hy] at hx
    exact hx
  | _ => cases hentry

theorem Under.exists_entryOr (hunder : Under key P v) (hmissing : P missing) :
    ∃ x, entryOr missing key v = .ok x ∧ P x := by
  cases v with
  | mapping fields =>
    refine ⟨_, rfl, ?_⟩
    cases hlookup : Value.lookup? (.text key) fields with
    | none => exact hmissing
    | some x => exact hunder x hlookup
  | _ => exact hunder.elim

theorem exists_elements_iff : (∃ xs, elements v = .ok xs) ↔ Listlike v := by
  cases v <;> simp [elements, Listlike]

theorem exists_mapM_elements_iff {vs : List Value} :
    (∃ xss, vs.mapM elements = .ok xss) ↔ ∀ v ∈ vs, Listlike v := by
  simp only [Except.exists_mapM_eq_ok_iff, exists_elements_iff]

theorem exists_entryValues_iff :
    (∃ vs, entryValues v = .ok vs ∧ ∀ x ∈ vs, P x) ↔ Each P v := by
  cases v <;> simp [entryValues, Each]

theorem exists_requirements_iff : (∃ xs, requirements document = .ok xs) ↔ Orderly document := by
  constructor
  · rintro ⟨xs, h⟩
    obtain ⟨project, hproject, h⟩ := Except.bind_eq_ok_iff.1 h
    obtain ⟨deps, hdeps, h⟩ := Except.bind_eq_ok_iff.1 h
    obtain ⟨main, hmain, h⟩ := Except.bind_eq_ok_iff.1 h
    obtain ⟨extras, hextras, h⟩ := Except.bind_eq_ok_iff.1 h
    obtain ⟨lists, hlists, h⟩ := Except.bind_eq_ok_iff.1 h
    obtain ⟨optional, hoptional, h⟩ := Except.bind_eq_ok_iff.1 h
    obtain ⟨tool, htool, h⟩ := Except.bind_eq_ok_iff.1 h
    obtain ⟨site, hsite, h⟩ := Except.bind_eq_ok_iff.1 h
    obtain ⟨owns, howns, h⟩ := Except.bind_eq_ok_iff.1 h
    obtain ⟨own, hown, -⟩ := Except.bind_eq_ok_iff.1 h
    -- Each step of the reading is one part of the shape.
    have heach : Each Listlike extras :=
      exists_entryValues_iff.1 ⟨lists, hlists, exists_mapM_elements_iff.1 ⟨optional, hoptional⟩⟩
    exact {
      project := .of_entryOr hproject
        ⟨.of_entryOr hdeps (exists_elements_iff.1 ⟨main, hmain⟩), .of_entryOr hextras heach⟩
      tool := .of_entryOr htool (.of_entryOr hsite
        (.of_entryOr howns (exists_elements_iff.1 ⟨own, hown⟩))) }
  · rintro ⟨hproject, htool⟩
    obtain ⟨project, hproject, hdeps, hextras⟩ := hproject.exists_entryOr
      ⟨under_emptyTable _ _, under_emptyTable _ _⟩
    obtain ⟨deps, hdeps, hmain⟩ := hdeps.exists_entryOr (show Listlike emptyList from trivial)
    obtain ⟨main, hmain⟩ := exists_elements_iff.2 hmain
    obtain ⟨extras, hextras, heach⟩ := hextras.exists_entryOr (each_emptyTable _)
    obtain ⟨lists, hlists, hlistlike⟩ := exists_entryValues_iff.2 heach
    obtain ⟨optional, hoptional⟩ := exists_mapM_elements_iff.2 hlistlike
    obtain ⟨tool, htool, hsite⟩ := htool.exists_entryOr (under_emptyTable _ _)
    obtain ⟨site, hsite, howns⟩ := hsite.exists_entryOr (under_emptyTable _ _)
    obtain ⟨owns, howns, hown⟩ := howns.exists_entryOr (show Listlike emptyList from trivial)
    obtain ⟨own, hown⟩ := exists_elements_iff.2 hown
    refine ⟨main ++ optional.flatten ++ own, ?_⟩
    simp only [requirements, bind, Except.bind, hproject, hdeps, hmain, hextras, hlists, hoptional,
      htool, hsite, howns, hown]
    rfl

theorem not_fails_requirements (document : Value) :
    ¬Except.Fails (fun f => ¬f.Unforeseen) (requirements document) := by
  have hentry (missing : Value) (key : String) (v : Value) :
      ¬Except.Fails (fun f => ¬f.Unforeseen) (entryOr missing key v) := by
    cases v <;> simp [entryOr, Fault.Unforeseen, Fault.isSystem]
  have helements (v : Value) : ¬Except.Fails (fun f => ¬f.Unforeseen) (elements v) := by
    cases v <;> simp [elements, Fault.Unforeseen, Fault.isSystem]
  have hvalues (v : Value) : ¬Except.Fails (fun f => ¬f.Unforeseen) (entryValues v) := by
    cases v <;> simp [entryValues, Fault.Unforeseen, Fault.isSystem]
  unfold requirements
  apply Except.not_fails_bind (hentry _ _ _)
  intro project
  apply Except.not_fails_bind (hentry _ _ _)
  intro deps
  apply Except.not_fails_bind (helements _)
  intro main
  apply Except.not_fails_bind (hentry _ _ _)
  intro extras
  apply Except.not_fails_bind (hvalues _)
  intro lists
  apply Except.not_fails_bind (Except.not_fails_mapM helements _)
  intro optional
  apply Except.not_fails_bind (hentry _ _ _)
  intro tool
  apply Except.not_fails_bind (hentry _ _ _)
  intro site
  apply Except.not_fails_bind (hentry _ _ _)
  intro owns
  apply Except.not_fails_bind (helements _)
  intro own
  exact Except.not_fails_ok _

theorem fails_requirements_iff :
    Except.Fails Fault.Unforeseen (requirements document) ↔ ¬Orderly document := by
  rw [Except.fails_iff_of_not_fails (not_fails_requirements document), exists_requirements_iff]

theorem unforeseen_ofFault_iff {p : Path} {f : Fault} :
    (ofFault p f).Unforeseen ↔ f.Unforeseen ∧ ∀ format, f ≠ .document format .malformed := by
  unfold ofFault
  split
  · next format =>
    constructor
    · rintro ⟨h, -⟩
      cases h
    · rintro ⟨-, h⟩
      exact (h format rfl).elim
  · next hne =>
    split
    · next hsystem =>
      constructor
      · rintro ⟨h, -⟩
        cases h
      · rintro ⟨h, -⟩
        exact absurd (h.symm.trans hsystem) (by decide)
    · rw [Failure.unforeseen_fault_iff]
      exact (and_iff_left hne).symm

theorem unforeseen_ofFault_document_iff {p : Path} {format : Format} {f : DocumentFault} :
    (ofFault p (.document format f)).Unforeseen ↔ f ≠ .malformed := by
  rw [unforeseen_ofFault_iff]
  constructor
  · rintro ⟨-, h⟩ rfl
    exact h format rfl
  · intro hne
    refine ⟨rfl, ?_⟩
    rintro format' h
    cases h
    exact hne rfl

/-- What a description of a project may hold that no failure of the manifest is about. -/
def BadProject (bytes : List UInt8) : Prop :=
  match Text.Utf8.decode bytes with
  | none => True
  | some cs =>
    match Toml.read cs with
    | .error f => f ≠ .malformed
    | .ok document => ¬Orderly document

def BadPackages (bytes : List UInt8) : Prop :=
  match Text.Utf8.decode bytes with
  | none => True
  | some cs =>
    match Json.read (Text.unixLines cs) with
    | .error f => f ≠ .malformed
    | .ok _ => False

variable {h : Host} {p dir : Path} {bytes : List UInt8}

theorem readRequirements_of_decode {cs : List Char} (hbytes : h.Holds p bytes)
    (hdecode : Text.Utf8.decode bytes = some cs) :
    readRequirements h p =
      ((Toml.read cs).mapError fun f => ofFault p (.document .toml f)) >>= fun document =>
        (requirements document).mapError Failure.fault >>= fun found =>
          pure (requiredNames found) := by
  unfold readRequirements
  rw [Host.readExact_of_holds hbytes, hdecode]
  rfl

theorem fails_readRequirements_iff (hbytes : h.Holds p bytes) :
    Except.Fails Failure.Unforeseen (readRequirements h p) ↔ BadProject bytes := by
  unfold BadProject
  cases hdecode : Text.Utf8.decode bytes with
  | none =>
    unfold readRequirements
    rw [Host.readExact_of_holds hbytes, hdecode, Except.mapError_error,
      Except.fails_error_bind_iff, unforeseen_ofFault_iff]
    exact iff_of_true ⟨rfl, by simp⟩ trivial
  | some cs =>
    rw [readRequirements_of_decode hbytes hdecode]
    dsimp only
    cases Toml.read cs with
    | error f =>
      rw [Except.mapError_error, Except.fails_error_bind_iff, unforeseen_ofFault_document_iff]
    | ok document =>
      rw [Except.mapError_ok, Except.fails_ok_bind_iff, Except.fails_bind_pure_iff,
        Except.fails_mapError_iff]
      simp only [Failure.unforeseen_fault_iff]
      exact fails_requirements_iff

theorem fails_readSections_iff (hbytes : h.Holds p bytes) :
    Except.Fails Failure.Unforeseen (readSections h p) ↔ BadPackages bytes := by
  unfold readSections BadPackages
  rw [Host.readText_of_holds hbytes]
  cases Text.Utf8.decode bytes with
  | none =>
    rw [Except.mapError_error, Except.fails_error_bind_iff, unforeseen_ofFault_iff]
    exact iff_of_true ⟨rfl, by simp⟩ trivial
  | some cs =>
    dsimp only
    rw [Except.mapError_ok, Except.fails_ok_bind_iff]
    cases Json.read (Text.unixLines cs) with
    | error f =>
      rw [Except.mapError_error, Except.fails_error_bind_iff, unforeseen_ofFault_document_iff]
    | ok document =>
      rw [Except.mapError_ok, Except.fails_ok_bind_iff]
      refine iff_of_false ?_ id
      -- Whatever the document is, it is read or is refused as no table.
      cases document with
      | mapping fields => exact Except.not_fails_ok _
      | _ =>
        rintro ⟨e, h, hresolution, -⟩
        cases h
        cases hresolution

theorem foreseen_of_denied (hdenied : h.files.read h.cwd p = .error .denied) :
    ¬Except.Fails Failure.Unforeseen (readRequirements h p) ∧
      ¬Except.Fails Failure.Unforeseen (readSections h p) := by
  constructor
  · rw [readRequirements, Host.readExact, hdenied]
    exact mt Except.fails_error_iff.1 (by simp [unforeseen_ofFault_iff, FileFault.unforeseen_iff])
  · rw [readSections, Host.readText_of_error hdenied]
    exact mt Except.fails_error_iff.1 (by simp [unforeseen_ofFault_iff, FileFault.unforeseen_iff])

theorem breaks_readIfThere_iff {read : Host → Path → Except Failure (List String)}
    {Bad : List UInt8 → Prop}
    (hforeseen : h.files.read h.cwd p = .error .denied →
      ¬Except.Fails Failure.Unforeseen (read h p))
    (hread : ∀ bytes, h.Holds p bytes → (Except.Fails Failure.Unforeseen (read h p) ↔ Bad bytes)) :
    (readIfThere h p read).Breaks ↔ ∃ bytes, h.Holds p bytes ∧ Bad bytes := by
  unfold readIfThere
  rw [Traced.breaks_bind_iff]
  constructor
  · rintro (hbreaks | ⟨there, hthere, hbreaks⟩)
    · exact (h.not_breaks_isFile p hbreaks).elim
    · cases there with
      | false => exact (Traced.not_breaks_pure _ hbreaks).elim
      | true =>
        obtain ⟨bytes, hbytes⟩ | hdenied := Host.holds_or_denied hthere
        · exact ⟨bytes, hbytes, (hread bytes hbytes).1 hbreaks⟩
        · exact absurd hbreaks (hforeseen hdenied)
  · rintro ⟨bytes, hbytes, hbad⟩
    exact .inr ⟨true, hbytes.isFile, (hread bytes hbytes).2 hbad⟩

def projectFile (dir : Path) : Path := dir.child "pyproject.toml"

def packagesFile (dir : Path) : Path := dir.child "package.json"

/-- Why a project tells nothing of its packages. The second file is read only after the first. -/
inductive Broken (h : Host) (dir : Path) : Prop
  | project {bytes : List UInt8} (hbytes : h.Holds (projectFile dir) bytes)
    (hbad : BadProject bytes)
  | packages {required : List String} {bytes : List UInt8}
    (hproject : (readIfThere h (projectFile dir) readRequirements).result = .ok required)
    (hbytes : h.Holds (packagesFile dir) bytes) (hbad : BadPackages bytes)

theorem breaks_ofProject_iff : (ofProject h dir).Breaks ↔ Broken h dir := by
  have hproject : (readIfThere h (projectFile dir) readRequirements).Breaks ↔
      ∃ bytes, h.Holds (projectFile dir) bytes ∧ BadProject bytes :=
    breaks_readIfThere_iff (fun hdenied => (foreseen_of_denied hdenied).1)
      fun _ => fails_readRequirements_iff
  have hpackages : (readIfThere h (packagesFile dir) readSections).Breaks ↔
      ∃ bytes, h.Holds (packagesFile dir) bytes ∧ BadPackages bytes :=
    breaks_readIfThere_iff (fun hdenied => (foreseen_of_denied hdenied).2)
      fun _ => fails_readSections_iff
  unfold ofProject
  rw [Traced.breaks_bind_iff]
  constructor
  · rintro (hbreaks | ⟨required, hrequired, hbreaks⟩)
    · obtain ⟨bytes, hbytes, hbad⟩ := hproject.1 hbreaks
      exact .project hbytes hbad
    · obtain hbreaks | ⟨packages, -, hbreaks⟩ := Traced.breaks_bind_iff.1 hbreaks
      · obtain ⟨bytes, hbytes, hbad⟩ := hpackages.1 hbreaks
        exact .packages hrequired hbytes hbad
      · exact (not_breaks_debug _ _ _ hbreaks).elim
  · rintro (⟨hbytes, hbad⟩ | ⟨hrequired, hbytes, hbad⟩)
    · exact .inl (hproject.2 ⟨_, hbytes, hbad⟩)
    · exact .inr ⟨_, hrequired, Traced.breaks_bind_iff.2 (.inl (hpackages.2 ⟨_, hbytes, hbad⟩))⟩

end SiteModules.Manifest
