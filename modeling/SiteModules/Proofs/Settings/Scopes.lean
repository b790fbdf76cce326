import Mathlib.Data.List.Forall2
import SiteModules.Proofs.Document.Keys
import SiteModules.Proofs.Document.Yaml
import SiteModules.Proofs.Settings.Merge
import SiteModules.Proofs.Unforeseen
import SiteModules.Settings

namespace SiteModules.Settings

variable {h : Host} {p : Path} {fields : Fields}

/-- What a file contributes: nothing if it is missing, forgiven or without entries. -/
inductive Says (h : Host) (p : Path) : Fields → Prop
  | missing : (h.exists? p).result = .ok false → Says h p []
  | unreadable {f : Fault} : (h.exists? p).result = .ok true → readDocument h p = .error f →
      isForgiven f = true → Says h p []
  | noMapping {v : Value} : (h.exists? p).result = .ok true → readDocument h p = .ok v →
      v.isMapping = false → Says h p []
  | mapping {fields : Fields} : (h.exists? p).result = .ok true →
      readDocument h p = .ok (.mapping fields) → Says h p fields

theorem result_readPresent_of_mapping (hread : readDocument h p = .ok (.mapping fields)) :
    (readPresent h p).result = .ok fields := by
  rw [readPresent, hread]
  rfl

theorem result_readPresent_of_noMapping {v : Value} (hread : readDocument h p = .ok v)
    (hv : v.isMapping = false) : (readPresent h p).result = .ok [] := by
  rw [readPresent, hread]
  cases v with
  | mapping fields => cases hv
  | _ => rfl

theorem result_readPresent_of_error {f : Fault} (hread : readDocument h p = .error f) :
    (readPresent h p).result = if isForgiven f then .ok [] else .error (.fault f) := by
  rw [readPresent, hread]
  dsimp only
  split <;> rfl

theorem result_readScope_eq_ok_iff : (readScope h p).result = .ok fields ↔ Says h p fields := by
  rw [readScope, Traced.result_bind_eq_ok_iff]
  constructor
  · rintro ⟨there, hthere, hresult⟩
    cases there with
    | false =>
      cases hresult
      exact .missing hthere
    | true =>
      rw [if_pos rfl] at hresult
      cases hread : readDocument h p with
      | error f =>
        rw [result_readPresent_of_error hread] at hresult
        split at hresult
        · next hforgiven =>
          cases hresult
          exact .unreadable hthere hread hforgiven
        · cases hresult
      | ok v =>
        cases hv : v.isMapping with
        | false =>
          rw [result_readPresent_of_noMapping hread hv] at hresult
          cases hresult
          exact .noMapping hthere hread hv
        | true =>
          obtain ⟨entries, rfl⟩ := Value.exists_fields_of_isMapping hv
          rw [result_readPresent_of_mapping hread] at hresult
          cases hresult
          exact .mapping hthere hread
  · intro hcontent
    cases hcontent with
    | missing hthere => exact ⟨false, hthere, rfl⟩
    | unreadable hthere hread hforgiven =>
      refine ⟨true, hthere, ?_⟩
      rw [if_pos rfl, result_readPresent_of_error hread, if_pos hforgiven]
    | noMapping hthere hread hv => exact ⟨true, hthere, result_readPresent_of_noMapping hread hv⟩
    | mapping hthere hread => exact ⟨true, hthere, result_readPresent_of_mapping hread⟩

theorem result_readScopes_eq_ok_iff {files : List Path} {contents : List Fields} :
    (readScopes h files).result = .ok contents ↔ List.Forall₂ (Says h) files contents := by
  induction files generalizing contents with
  | nil =>
    rw [List.forall₂_nil_left_iff]
    exact ⟨fun h => (Except.ok.inj h).symm, fun h => h ▸ rfl⟩
  | cons p rest ih =>
    rw [readScopes, Traced.result_bind_eq_ok_iff, List.forall₂_cons_left_iff]
    constructor
    · rintro ⟨fields, hfields, hresult⟩
      obtain ⟨more, hmore, hresult⟩ := Traced.result_bind_eq_ok_iff.1 hresult
      cases hresult
      exact ⟨fields, more, result_readScope_eq_ok_iff.1 hfields, ih.1 hmore, rfl⟩
    · rintro ⟨fields, more, hfields, hmore, rfl⟩
      exact ⟨fields, result_readScope_eq_ok_iff.2 hfields,
        Traced.result_bind_eq_ok_iff.2 ⟨more, ih.2 hmore, rfl⟩⟩

theorem result_merged_eq_ok_iff {s : Scopes} : (merged h s).result = .ok fields ↔
    ∃ contents, List.Forall₂ (Says h) s.files contents ∧ mergeAll contents = fields := by
  rw [merged, map_eq_pure_bind, Traced.result_bind_eq_ok_iff]
  simp only [result_readScopes_eq_ok_iff, Traced.result_pure, Except.ok.injEq]

theorem Says.distinctKeys (hcontent : Says h p fields) : (Value.mapping fields).DistinctKeys := by
  have hnil : (Value.mapping []).DistinctKeys := .mapping List.Pairwise.nil (by simp)
  cases hcontent with
  | missing _ => exact hnil
  | unreadable _ _ _ => exact hnil
  | noMapping _ _ _ => exact hnil
  | mapping _ hread =>
    rw [readDocument] at hread
    obtain ⟨cs, -, hread⟩ := Except.bind_eq_ok_iff.1 hread
    exact Yaml.distinctKeys_read (Except.mapError_eq_ok_iff.1 hread)

theorem distinctKeys_of_contents {files : List Path} {contents : List Fields}
    (hcontent : List.Forall₂ (Says h) files contents) :
    ∀ fields ∈ contents, (Value.mapping fields).DistinctKeys := by
  induction hcontent with
  | nil => simp
  | cons hfirst _ ih =>
    intro fields hmem
    obtain rfl | hmem := List.mem_cons.1 hmem
    · exact hfirst.distinctKeys
    · exact ih fields hmem

def Settled (scopes : List Fields) (merged : Fields) : Prop :=
  ∀ path v, v.isMapping = false →
    ((Value.mapping merged).at? path = some v ↔ Prevails scopes path v)

/--
Whatever number of scopes is merged, the leaves are those that prevail, and empty scopes make no
difference. The files of a site are merged in this way, each with what it says.
-/
theorem settled_mergeAll :
    (∀ scopes : List Fields, (∀ fields ∈ scopes, (Value.mapping fields).DistinctKeys) →
      Settled scopes (mergeAll scopes) ∧
        mergeAll (scopes.filter (!·.isEmpty)) = mergeAll scopes) ∧
    ∀ (h : Host) (s : Scopes),
      (∀ fields, (merged h s).result = .ok fields ↔
        ∃ contents, List.Forall₂ (Says h) s.files contents ∧ mergeAll contents = fields) ∧
      ∀ contents, List.Forall₂ (Says h) s.files contents →
        Settled contents (mergeAll contents) := by
  have hsettled : ∀ scopes : List Fields,
      (∀ fields ∈ scopes, (Value.mapping fields).DistinctKeys) →
        Settled scopes (mergeAll scopes) := by
    intro scopes hkeys path v hv
    exact at?_mergeAll_iff hkeys hv
  refine ⟨fun scopes hkeys => ⟨hsettled scopes hkeys, mergeAll_filter_isEmpty scopes⟩, ?_⟩
  intro h s
  refine ⟨fun fields => result_merged_eq_ok_iff, ?_⟩
  intro contents hcontents
  exact hsettled contents (distinctKeys_of_contents hcontents)

def interrupted : List Fields :=
  [[(.text "modules", .mapping [(.text "organization", .text "acme"), (.text "auto_load", .null)])],
    [(.text "modules", .text "none")],
    [(.text "modules", .mapping [(.text "auto_load", .bool true)])]]

theorem distinctKeys_interrupted :
    ∀ fields ∈ interrupted, (Value.mapping fields).DistinctKeys := by
  have hfirst : (Value.mapping [(.text "organization", .text "acme")]).DistinctKeys :=
    .singleton _ (.leaf rfl)
  intro fields hmem
  simp only [interrupted, List.mem_cons, List.not_mem_nil, or_false] at hmem
  obtain rfl | rfl | rfl := hmem
  · exact .singleton _ (hfirst.put (k := .text "auto_load") (.leaf rfl))
  · exact .singleton _ (.leaf rfl)
  · exact .singleton _ (.singleton _ (.leaf rfl))

theorem Says.nested {outer inner word : List Char} {bytes : List UInt8} {v : Value}
    (hscans : Yaml.Scans outer inner word) (hbytes : h.Holds p bytes)
    (hdecode : Text.Utf8.decode bytes = some (Yaml.nested outer inner word))
    (hword : ∀ fuel, Yaml.toValue (fuel + 1) (.scalar (.ofPlain word) word) = .ok v) :
    Says h p [(.text (String.ofList outer), .mapping [(.text (String.ofList inner), v)])] := by
  apply Says.mapping (Host.result_exists?_eq_true_iff.2 (.inr hbytes.isFile))
  rw [readDocument, Host.readText_of_holds hbytes, hdecode]
  simp only [bind, Except.bind, hscans.lines, hscans.read hword]
  rfl

def sharedHost (organization : Option String) : Host where
  files := ⟨[(["p"], .directory), (["p", ".docsite"], .directory),
    (["p", ".docsite", "settings.yaml"],
      .file (Text.Utf8.ofString "modules:\n  organization: house\n")),
    (["p", ".docsite", "settings.local.yaml"],
      .file (Text.Utf8.ofString "modules:\n  auto_load: true\n"))], []⟩
  cwd := ["p"]
  home := ⟨.single, ["home"]⟩
  packages := ⟨.single, ["site"]⟩
  organization := organization

def sharedScopes : Scopes := .ofProject (sharedHost none) ⟨.single, ["p"]⟩

def houseFields : Fields := [(.text "modules", .mapping [(.text "organization", .text "house")])]

def eagerFields : Fields := [(.text "modules", .mapping [(.text "auto_load", .bool true)])]

theorem scans_house : Yaml.Scans "modules".toList "organization".toList "house".toList where
  steps
    | 0, _ => by exact id ⟨rfl, rfl⟩
    | 1, _ => by exact id ⟨rfl, rfl⟩
    | 2, _ => by exact id ⟨rfl, rfl⟩
    | 3, _ => by exact id ⟨rfl, rfl⟩
    | 4, _ => by exact id ⟨rfl, rfl⟩
  stops := by exact id rfl
  ends := by exact id ⟨_, rfl, rfl⟩
  outerText := by exact id rfl
  innerText := by exact id rfl
  allowed := by decide
  lines := by decide

theorem scans_eager : Yaml.Scans "modules".toList "auto_load".toList "true".toList where
  steps
    | 0, _ => by exact id ⟨rfl, rfl⟩
    | 1, _ => by exact id ⟨rfl, rfl⟩
    | 2, _ => by exact id ⟨rfl, rfl⟩
    | 3, _ => by exact id ⟨rfl, rfl⟩
    | 4, _ => by exact id ⟨rfl, rfl⟩
  stops := by exact id rfl
  ends := by exact id ⟨_, rfl, rfl⟩
  outerText := by exact id rfl
  innerText := by exact id rfl
  allowed := by decide
  lines := by decide

theorem says_sharedHost (organization : Option String) :
    List.Forall₂ (Says (sharedHost organization)) sharedScopes.files
      [[], houseFields, eagerFields] := by
  refine .cons (.missing rfl) (.cons ?_ (.cons ?_ .nil))
  · exact Says.nested scans_house rfl (by decide +kernel) fun _ => rfl
  · exact Says.nested scans_eager rfl (by decide +kernel) fun _ => rfl

theorem settled_interrupted :
    (∀ fields ∈ interrupted, (Value.mapping fields).DistinctKeys) ∧
    Settled interrupted (mergeAll interrupted) ∧
    mergeAll interrupted = [(.text "modules", .mapping [(.text "auto_load", .bool true)])] ∧
    List.Forall₂ (Says (sharedHost none)) sharedScopes.files [[], houseFields, eagerFields] ∧
    Settled [[], houseFields, eagerFields] (mergeAll [[], houseFields, eagerFields]) ∧
    (merged (sharedHost none) sharedScopes).result = .ok [(.text "modules",
      .mapping [(.text "organization", .text "house"), (.text "auto_load", .bool true)])] := by
  obtain ⟨hmerged, hsettled⟩ := settled_mergeAll.2 (sharedHost none) sharedScopes
  exact ⟨distinctKeys_interrupted, (settled_mergeAll.1 interrupted distinctKeys_interrupted).1,
    rfl, says_sharedHost none, hsettled _ (says_sharedHost none),
    (hmerged _).2 ⟨_, says_sharedHost none, rfl⟩⟩

end SiteModules.Settings
