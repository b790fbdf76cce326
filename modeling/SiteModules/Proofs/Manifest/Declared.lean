import SiteModules.Proofs.Manifest.Requirement
import SiteModules.Proofs.Manifest.Shape
import SiteModules.Proofs.Value.KeyPath

namespace SiteModules.Manifest

def Along (path : List String) (P : Value → Prop) (v : Value) : Prop :=
  ∃ x, v.at? (path.map .text) = some x ∧ P x

def IsList (v : Value) : Prop := ∃ xs, v = .list xs

def Lists (x v : Value) : Prop := ∃ xs, v = .list xs ∧ x ∈ xs

def Groups (x v : Value) : Prop :=
  ∃ fields, v = .mapping fields ∧ ∃ y ∈ fields.map (·.2), Lists x y

def HasKey (name : String) (v : Value) : Prop :=
  ∃ fields, v = .mapping fields ∧ ∃ f ∈ fields, f.1 = .text name

/-- A requirement of a project: one of all, one of an extra, or one of the site. -/
inductive Requires (project x : Value) : Prop
  | main (h : Along ["project", "dependencies"] (Lists x) project)
  | extra (h : Along ["project", "optional-dependencies"] (Groups x) project)
  | site (h : Along ["tool", "docsite", "dependencies"] (Lists x) project)

inductive Keyed (packages : Value) (name : String) : Prop
  | main (h : Along ["dependencies"] (HasKey name) packages)
  | develop (h : Along ["devDependencies"] (HasKey name) packages)

structure Regular (document : Value) : Prop where
  project : Under "project" (fun project => Under "dependencies" IsList project ∧
    Under "optional-dependencies" (Each IsList) project) document
  tool : Under "tool" (Under "docsite" (Under "dependencies" IsList)) document

variable {key : String} {path : List String} {P : Value → Prop} {v x missing : Value}
  {document : Value}

theorem not_along_emptyTable_cons (key : String) (path : List String) (P : Value → Prop) :
    ¬Along (key :: path) P emptyTable := by
  rintro ⟨x, hx, -⟩
  cases hx

theorem along_iff_of_entryOr (hentry : entryOr missing key v = .ok x)
    (hmissing : ¬Along path P missing) : Along path P x ↔ Along (key :: path) P v := by
  cases v with
  | mapping fields =>
    cases hentry
    simp only [Along, List.map_cons, Value.at?_mapping]
    cases Value.lookup? (.text key) fields with
    | none => simpa [Along] using hmissing
    | some x => simp
  | _ => cases hentry

theorem exists_mapM_elements {vs : List Value} (h : ∀ v ∈ vs, IsList v) :
    ∃ xss, vs.mapM elements = .ok xss ∧ ∀ x, x ∈ xss.flatten ↔ ∃ v ∈ vs, Lists x v := by
  induction vs with
  | nil => exact ⟨[], rfl, by simp⟩
  | cons v vs ih =>
    obtain ⟨⟨xs, rfl⟩, hvs⟩ := List.forall_mem_cons.1 h
    obtain ⟨xss, hxss, hmem⟩ := ih hvs
    refine ⟨xs :: xss, ?_, ?_⟩
    · rw [List.mapM_cons, hxss]
      rfl
    · intro x
      rw [List.flatten_cons, List.mem_append, hmem]
      simp [Lists]

theorem Under.exists_elements (h : Under key IsList v) :
    ∃ d xs, entryOr emptyList key v = .ok d ∧ elements d = .ok xs ∧
      ∀ x, x ∈ xs ↔ Along [key] (Lists x) v := by
  obtain ⟨d, hentry, xs, rfl⟩ := h.exists_entryOr (show IsList emptyList from ⟨[], rfl⟩)
  refine ⟨.list xs, xs, hentry, rfl, ?_⟩
  intro x
  rw [← along_iff_of_entryOr hentry (by simp [Along, Lists, emptyList])]
  simp [Along, Lists]

theorem Under.exists_groups (h : Under key (Each IsList) v) :
    ∃ d vs xss, entryOr emptyTable key v = .ok d ∧ entryValues d = .ok vs ∧
      vs.mapM elements = .ok xss ∧ ∀ x, x ∈ xss.flatten ↔ Along [key] (Groups x) v := by
  obtain ⟨d, hentry, heach⟩ := h.exists_entryOr (each_emptyTable _)
  cases d with
  | mapping fields =>
    obtain ⟨xss, hxss, hmem⟩ := exists_mapM_elements heach
    refine ⟨.mapping fields, _, xss, hentry, rfl, hxss, ?_⟩
    intro x
    rw [hmem, ← along_iff_of_entryOr hentry (by simp [Along, Groups, emptyTable])]
    simp [Along, Groups]
  | _ => exact heach.elim

theorem exists_requirements (hregular : Regular document) :
    ∃ xs, requirements document = .ok xs ∧ ∀ x, x ∈ xs ↔ Requires document x := by
  obtain ⟨hproject, htool⟩ := hregular
  obtain ⟨project, hproject, hdeps, hextras⟩ := hproject.exists_entryOr
    ⟨under_emptyTable _ _, under_emptyTable _ _⟩
  obtain ⟨deps, main, hdeps, hmain, hmem⟩ := hdeps.exists_elements
  obtain ⟨extras, lists, optional, hextras, hlists, hoptional, hmem'⟩ := hextras.exists_groups
  obtain ⟨tool, htool, hsite⟩ := htool.exists_entryOr (under_emptyTable _ _)
  obtain ⟨site, hsite, hown⟩ := hsite.exists_entryOr (under_emptyTable _ _)
  obtain ⟨owns, own, howns, hown, hmem''⟩ := hown.exists_elements
  refine ⟨main ++ optional.flatten ++ own, ?_, ?_⟩
  · simp only [requirements, bind, Except.bind, hproject, hdeps, hmain, hextras, hlists, hoptional,
      htool, hsite, howns, hown]
    rfl
  · intro x
    rw [List.mem_append, List.mem_append, hmem, hmem', hmem'',
      along_iff_of_entryOr hproject (not_along_emptyTable_cons _ _ _),
      along_iff_of_entryOr hproject (not_along_emptyTable_cons _ _ _),
      along_iff_of_entryOr hsite (not_along_emptyTable_cons _ _ _),
      along_iff_of_entryOr htool (not_along_emptyTable_cons _ _ _)]
    constructor
    · rintro ((h | h) | h)
      · exact .main h
      · exact .extra h
      · exact .site h
    · rintro (h | h | h)
      · exact .inl (.inl h)
      · exact .inl (.inr h)
      · exact .inr h

theorem mem_requiredNames_iff {xs : List Value} {name : String} :
    name ∈ requiredNames xs ↔
      ∃ s, .text s ∈ xs ∧ ∃ n, requirementName? s.toList = some n ∧ String.ofList n = name := by
  simp only [requiredNames, List.mem_filterMap]
  constructor
  · rintro ⟨x, hx, hname⟩
    cases x with
    | text s => exact ⟨s, hx, Option.map_eq_some_iff.1 hname⟩
    | _ => cases hname
  · rintro ⟨s, hs, hname⟩
    exact ⟨.text s, hs, Option.map_eq_some_iff.2 hname⟩

theorem keyed_iff {name : String} :
    Keyed v name ↔ ∃ section' ∈ packageSections, Along [section'] (HasKey name) v := by
  simp only [packageSections, List.mem_cons, List.not_mem_nil, or_false, exists_eq_or_imp,
    exists_eq_left]
  constructor
  · rintro (h | h)
    · exact .inl h
    · exact .inr h
  · rintro (h | h)
    · exact .main h
    · exact .develop h

theorem mem_sectionNames_iff {fields : List (Key × Value)} {name : String} :
    name ∈ sectionNames fields ↔ Keyed (.mapping fields) name := by
  have hkey (k : Key) : k.text? = some name ↔ k = .text name := by
    cases k <;> simp [Key.text?]
  rw [keyed_iff, sectionNames, List.mem_flatMap]
  refine exists_congr fun section' => and_congr_right fun _ => ?_
  simp only [Along, List.map_cons, List.map_nil, Value.at?_mapping]
  cases Value.lookup? (.text section') fields with
  | none => simp
  | some v => cases v <;> simp [HasKey, hkey]

inductive Describes (h : Host) (p : Path) (read : List Char → Except DocumentFault Value) :
    Value → Prop
  | missing (hfile : (h.isFile p).result = .ok false) : Describes h p read emptyTable
  | file {bytes : List UInt8} {cs : List Char} {document : Value} (hbytes : h.Holds p bytes)
    (hdecode : Text.Utf8.decode bytes = some cs) (hread : read cs = .ok document) :
    Describes h p read document

structure Described (h : Host) (dir : Path) (project packages : Value) : Prop where
  projectRead : Describes h (projectFile dir) Toml.read project
  packagesRead : Describes h (packagesFile dir) (fun cs => Json.read (Text.unixLines cs)) packages
  regular : Regular project
  table : packages.isMapping = true

inductive Entry
  | requirement (s : String)
  | key (name : String)

namespace Entry

def StandsIn (project packages : Value) : Entry → Prop
  | .requirement s => Requires project (.text s)
  | .key name => Keyed packages name

def Declares (q : String) : Entry → Prop
  | .requirement s => Manifest.Declares s.toList q
  | .key name => PackageName.normalize name = PackageName.normalize q

end Entry

variable {h : Host} {dir p : Path} {project packages : Value}
  {read : Host → Path → Except Failure (List String)}

theorem not_requires_emptyTable (x : Value) : ¬Requires emptyTable x := by
  rintro (h | h | h)
  · exact not_along_emptyTable_cons _ _ _ h
  · exact not_along_emptyTable_cons _ _ _ h
  · exact not_along_emptyTable_cons _ _ _ h

theorem not_keyed_emptyTable (name : String) : ¬Keyed emptyTable name := by
  rintro (h | h)
  · exact not_along_emptyTable_cons _ _ _ h
  · exact not_along_emptyTable_cons _ _ _ h

theorem result_readIfThere_of_missing (hfile : (h.isFile p).result = .ok false) :
    (readIfThere h p read).result = .ok [] := by
  rw [readIfThere, Traced.result_bind_of_ok hfile]
  rfl

theorem result_readIfThere_of_holds {bytes : List UInt8} (hbytes : h.Holds p bytes) :
    (readIfThere h p read).result = read h p := by
  rw [readIfThere, Traced.result_bind_of_ok hbytes.isFile]
  rfl

theorem Describes.exists_requiredNames (hfile : Describes h p Toml.read project)
    (hregular : Regular project) :
    ∃ names, (readIfThere h p readRequirements).result = .ok names ∧
      ∀ name, name ∈ names ↔ ∃ s, Requires project (.text s) ∧
        ∃ n, requirementName? s.toList = some n ∧ String.ofList n = name := by
  cases hfile with
  | missing hfile =>
    refine ⟨[], result_readIfThere_of_missing hfile, ?_⟩
    simp [not_requires_emptyTable]
  | file hbytes hdecode hread =>
    obtain ⟨xs, hxs, hmem⟩ := exists_requirements hregular
    refine ⟨requiredNames xs, ?_, ?_⟩
    · rw [result_readIfThere_of_holds hbytes, readRequirements_of_decode hbytes hdecode, hread]
      simp only [Except.mapError_ok, bind, Except.bind, hxs]
      rfl
    · intro name
      simp only [mem_requiredNames_iff, hmem]

theorem Describes.exists_sectionNames
    (hfile : Describes h p (fun cs => Json.read (Text.unixLines cs)) packages)
    (htable : packages.isMapping = true) :
    ∃ names, (readIfThere h p readSections).result = .ok names ∧
      ∀ name, name ∈ names ↔ Keyed packages name := by
  cases hfile with
  | missing hfile =>
    refine ⟨[], result_readIfThere_of_missing hfile, ?_⟩
    simp [not_keyed_emptyTable]
  | file hbytes hdecode hread =>
    obtain ⟨fields, rfl⟩ := Value.exists_fields_of_isMapping htable
    refine ⟨sectionNames fields, ?_, fun name => mem_sectionNames_iff⟩
    rw [result_readIfThere_of_holds hbytes, readSections, Host.readText_of_holds hbytes, hdecode]
    simp only [Except.mapError_ok, bind, Except.bind, hread]
    rfl

theorem exists_ofProject (hfiles : Described h dir project packages) :
    ∃ m, (ofProject h dir).result = .ok m ∧
      ∀ q, m.declares q = true ↔ ∃ e : Entry, e.StandsIn project packages ∧ e.Declares q := by
  obtain ⟨required, hrequired, hmem⟩ := hfiles.projectRead.exists_requiredNames hfiles.regular
  obtain ⟨keys, hkeys, hmem'⟩ := hfiles.packagesRead.exists_sectionNames hfiles.table
  refine ⟨ofNames (required ++ keys), ?_, ?_⟩
  · apply Traced.result_bind_eq_ok_iff.2 ⟨required, hrequired, ?_⟩
    exact Traced.result_bind_eq_ok_iff.2 ⟨keys, hkeys, rfl⟩
  · intro q
    simp only [declares_ofNames, List.mem_append, hmem, hmem']
    constructor
    · rintro ⟨name, ⟨s, hs, n, hn, rfl⟩ | hname, hq⟩
      · exact ⟨.requirement s, hs, n, hn, hq⟩
      · exact ⟨.key name, hname, hq⟩
    · rintro ⟨s | name, hstands, hdeclares⟩
      · obtain ⟨n, hn, hq⟩ := hdeclares
        exact ⟨String.ofList n, .inl ⟨s, hstands, n, hn, rfl⟩, hq⟩
      · exact ⟨name, .inr hstands, hdeclares⟩

end SiteModules.Manifest
