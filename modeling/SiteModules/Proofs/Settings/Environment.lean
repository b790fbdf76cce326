import SiteModules.Proofs.Settings.Scopes

namespace SiteModules.Settings

variable {fields : Fields} {organization : String} {s : Settings}

def sectionFields (fields : Fields) : Fields :=
  match Value.lookup? (.text "modules") fields with
  | some (.mapping section') => section'
  | _ => []

structure OthersValid (fields : Fields) : Prop where
  bundledPaths : (field? texts? initial.bundledPaths "bundled_paths" fields).isSome
  autoLoad : (field? choice? initial.autoLoad "auto_load" fields).isSome

theorem sectionFields_of_not_mapping
    (h : ∀ section', Value.lookup? (.text "modules") fields ≠ some (.mapping section')) :
    sectionFields fields = [] := by
  unfold sectionFields
  split
  · next section' heq => exact absurd heq (h section')
  · rfl

theorem result_sectionOf (fields : Fields) :
    (sectionOf fields).result = .ok (sectionFields fields) := by
  unfold sectionOf
  split
  · next hnone =>
    rw [sectionFields_of_not_mapping (by simp [hnone])]
    rfl
  · next section' hmapping => simp [sectionFields, hmapping]
  · next v hother hv =>
    rw [sectionFields_of_not_mapping (by simpa [hv] using hother)]
    split <;> rfl

theorem field?_put_of_ne {α : Type} {read : Value → Option α} {missing : α} {name other : String}
    (hne : other ≠ name) (v : Value) :
    field? read missing name (Value.put (.text other) v fields) =
      field? read missing name fields := by
  rw [field?, field?, Value.lookup?_put_of_not_same (by simpa using hne)]

theorem ofFields?_put : ofFields? (Value.put (.text "organization") (.text organization) fields) =
    (field? texts? initial.bundledPaths "bundled_paths" fields).bind fun paths =>
      (field? choice? initial.autoLoad "auto_load" fields).map fun choice =>
        ⟨organization, paths, choice⟩ := by
  have hself : field? text? initial.organization "organization"
      (Value.put (.text "organization") (.text organization) fields) = some organization := by
    rw [field?, Value.lookup?_put_self]
    rfl
  rw [ofFields?, hself, field?_put_of_ne (by decide), field?_put_of_ne (by decide)]
  cases field? texts? initial.bundledPaths "bundled_paths" fields with
  | none => rfl
  | some paths => cases field? choice? initial.autoLoad "auto_load" fields <;> rfl

theorem result_ofSection (hs : (ofSection fields).result = .ok s) :
    s = (ofFields? fields).getD initial := by
  unfold ofSection at hs
  split at hs
  · cases hs
  · split at hs
    · next heq =>
      cases hs
      rw [heq]
      rfl
    · next heq =>
      rw [Traced.result_bind_of_ok (result_warn _ _)] at hs
      cases hs
      rw [heq]
      rfl

theorem organization_ofSection
    (hs : (ofSection (Value.put (.text "organization") (.text organization) fields)).result =
      .ok s) :
    s.organization = organization ↔ OthersValid fields ∨ organization = initial.organization := by
  rw [result_ofSection hs, ofFields?_put]
  cases hpaths : field? texts? initial.bundledPaths "bundled_paths" fields with
  | none =>
    have hnot : ¬OthersValid fields := fun hvalid => by simpa [hpaths] using hvalid.bundledPaths
    simp [hnot, eq_comm]
  | some paths =>
    cases hchoice : field? choice? initial.autoLoad "auto_load" fields with
    | none =>
      have hnot : ¬OthersValid fields := fun hvalid => by simpa [hchoice] using hvalid.autoLoad
      simp [hnot, eq_comm]
    | some choice =>
      have hvalid : OthersValid fields := ⟨by simp [hpaths], by simp [hchoice]⟩
      simp [hvalid]

/--
Whatever the files hold, the organization of the environment holds exactly where the other fields
of the section are valid, or where it is the one that holds anyway.
-/
theorem organization_of_environment {h : Host} {scopes : Scopes}
    (henvironment : h.organization = some organization) (hne : organization ≠ "")
    (hs : (read h scopes).result = .ok s) :
    ∃ fields, (merged h scopes).result = .ok fields ∧
      (s.organization = organization ↔
        OthersValid (sectionFields fields) ∨ organization = initial.organization) := by
  rw [read, Traced.result_bind_eq_ok_iff] at hs
  obtain ⟨fields, hfields, hs⟩ := hs
  rw [Traced.result_bind_of_ok (result_sectionOf fields), henvironment] at hs
  have hput : withEnvironment (some organization) (sectionFields fields) =
      Value.put (.text "organization") (.text organization) (sectionFields fields) := by
    unfold withEnvironment
    split
    · next h => cases h
    · next h =>
      cases h
      exact absurd rfl hne
    · next h =>
      cases h
      rfl
  rw [hput] at hs
  exact ⟨fields, hfields, organization_ofSection hs⟩

def acmeHost : Host := sharedHost (some "acme")

def acmeSettings : Settings := ⟨"acme", [], some true⟩

theorem merged_acmeHost : (merged acmeHost sharedScopes).result = .ok [(.text "modules",
    .mapping [(.text "organization", .text "house"), (.text "auto_load", .bool true)])] :=
  result_merged_eq_ok_iff.2 ⟨_, says_sharedHost _, rfl⟩

theorem organization_of_acmeHost : (read acmeHost sharedScopes).result = .ok acmeSettings ∧
    ∃ fields, (merged acmeHost sharedScopes).result = .ok fields ∧
      (acmeSettings.organization = "acme" ↔
        OthersValid (sectionFields fields) ∨ "acme" = initial.organization) := by
  have hread : (read acmeHost sharedScopes).result = .ok acmeSettings := by
    rw [read, Traced.result_bind_of_ok merged_acmeHost,
      Traced.result_bind_of_ok (result_sectionOf _)]
    rfl
  exact ⟨hread, organization_of_environment rfl (by decide) hread⟩

def unlistedFields : Fields :=
  [(.text "modules", .mapping [(.text "bundled_paths", .text "vendor")])]

theorem scans_unlisted : Yaml.Scans "modules".toList "bundled_paths".toList "vendor".toList where
  steps
    | 0, _ => by exact id ⟨rfl, rfl⟩
    | 1, _ => by exact id ⟨rfl, rfl⟩
    | 2, _ => by exact id ⟨rfl, rfl⟩
    | 3, _ => by exact id ⟨rfl, rfl⟩
    | 4, _ => by exact id ⟨rfl, rfl⟩
  stops := by exact id rfl
  ends := by exact id ⟨_, rfl, rfl⟩
  outerText := by exact id rfl
  innerText := by exact id rfl
  allowed := by decide
  lines := by decide

def unlistedHost : Host where
  files := ⟨[(["p"], .directory), (["p", ".docsite"], .directory),
    (["p", ".docsite", "settings.yaml"],
      .file (Text.Utf8.ofString "modules:\n  bundled_paths: vendor\n"))], []⟩
  cwd := ["p"]
  home := ⟨.single, ["home"]⟩
  packages := ⟨.single, ["site"]⟩
  organization := some "acme"

def unlistedScopes : Scopes := .ofProject unlistedHost ⟨.single, ["p"]⟩

theorem merged_unlisted : (merged unlistedHost unlistedScopes).result = .ok unlistedFields := by
  have hsays : List.Forall₂ (Says unlistedHost) unlistedScopes.files [[], unlistedFields, []] := by
    refine .cons (.missing rfl) (.cons ?_ (.cons (.missing rfl) .nil))
    exact Says.nested scans_unlisted rfl (by decide +kernel) fun _ => rfl
  exact result_merged_eq_ok_iff.2 ⟨_, hsays, rfl⟩

/-- The environment is not heard over one field that is not valid. -/
theorem organization_given_up : unlistedHost.organization = some "acme" ∧
    (read unlistedHost unlistedScopes).result = .ok initial ∧ initial.organization ≠ "acme" := by
  refine ⟨rfl, ?_, by decide⟩
  rw [read, Traced.result_bind_of_ok merged_unlisted,
    Traced.result_bind_of_ok (result_sectionOf unlistedFields)]
  rfl

end SiteModules.Settings
