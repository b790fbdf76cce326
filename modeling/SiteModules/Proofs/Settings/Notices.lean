import Mathlib.Data.List.Forall2
import SiteModules.Proofs.Settings.Environment
import SiteModules.Proofs.Settings.Scopes
import SiteModules.Proofs.Unforeseen

namespace SiteModules

namespace Traced

variable {α β : Type} {t : Traced α} {x y : α} {notes notes' : List Note}

def Ends (t : Traced α) (x : α) (notes : List Note) : Prop := t.result = .ok x ∧ t.notes = notes

theorem Ends.unique (h : t.Ends x notes) (h' : t.Ends y notes') : x = y ∧ notes = notes' := by
  constructor
  · exact Except.ok.inj (h.1.symm.trans h'.1)
  · exact h.2.symm.trans h'.2

theorem Ends.bind {f : α → Traced β} {z : β} (h : t.Ends x notes) (h' : (f x).Ends z notes') :
    (t >>= f).Ends z (notes ++ notes') := by
  obtain ⟨hresult, rfl⟩ := h
  obtain ⟨hresult', rfl⟩ := h'
  rw [Ends, notes, bind_of_ok hresult]
  exact ⟨hresult', List.filterMap_append⟩

theorem ends_bind_iff {f : α → Traced β} {z : β} : (t >>= f).Ends z notes ↔
    ∃ x first rest, t.Ends x first ∧ (f x).Ends z rest ∧ notes = first ++ rest := by
  constructor
  · intro h
    obtain ⟨x, hx, hz⟩ := result_bind_eq_ok_iff.1 h.1
    have hends : t.Ends x t.notes := ⟨hx, rfl⟩
    have hends' : (f x).Ends z (f x).notes := ⟨hz, rfl⟩
    exact ⟨x, _, _, hends, hends', (h.unique (hends.bind hends')).2⟩
  · intro h
    obtain ⟨x, first, rest, hx, hz, rfl⟩ := h
    exact hx.bind hz

theorem ends_pure (x : α) : (pure x : Traced α).Ends x [] := ⟨rfl, rfl⟩

theorem ends_bind_pure_iff {f : α → β} {z : β} :
    (t >>= fun x => pure (f x)).Ends z notes ↔ ∃ x, t.Ends x notes ∧ z = f x := by
  rw [ends_bind_iff]
  constructor
  · intro hends
    obtain ⟨x, first, last, hx, hlast, rfl⟩ := hends
    obtain ⟨rfl, rfl⟩ := hlast.unique (ends_pure _)
    rw [List.append_nil]
    exact ⟨x, hx, rfl⟩
  · intro hends
    obtain ⟨x, hx, rfl⟩ := hends
    exact ⟨x, notes, [], hx, ends_pure _, (List.append_nil _).symm⟩

end Traced

theorem Host.exists_read_of_isDirectory {h : Host} {p : Path}
    (hdir : (h.isDirectory p).result = .ok true) :
    ∃ f, h.files.read h.cwd p = .error f ∧ (Fault.file f).isSystem = true := by
  obtain ⟨place, hplace, hnode⟩ := FileTree.stat_eq_ok_iff.1 (result_isDirectory_eq_true_iff.1 hdir)
  cases hallowed : h.files.allows .read place with
  | true =>
    exact ⟨.isDirectory, by simp [FileTree.read, hplace, hnode, hallowed, bind, Except.bind],
      rfl⟩
  | false => exact ⟨.denied, by simp [FileTree.read, hplace, hnode, hallowed, bind, Except.bind],
      rfl⟩

namespace Settings

variable {h : Host} {p : Path} {fields : Fields} {notes : List Note}

def unreadableNote (p : Path) : Note := ⟨Note.warning, logger, unreadable p⟩

def noMappingNote (p : Path) : Note :=
  ⟨Note.warning, logger, "Ignoring settings in " ++ p.toString ++ ": expected a mapping"⟩

def Reads (h : Host) (p : Path) (document : Except DocumentFault Value) : Prop :=
  ∃ bytes cs, h.Holds p bytes ∧ Text.Utf8.decode bytes = some cs ∧
    Yaml.read (Text.unixLines cs) = document

/-- What a file adds to the settings, and what is reported about it. -/
inductive Tells (h : Host) (p : Path) : Fields → List Note → Prop
  | missing (hthere : (h.exists? p).result = .ok false) : Tells h p [] []
  | directory (hdir : (h.isDirectory p).result = .ok true) : Tells h p [] [unreadableNote p]
  | denied (hfile : (h.isFile p).result = .ok true)
    (hdenied : h.files.read h.cwd p = .error .denied) : Tells h p [] [unreadableNote p]
  | malformed (hreads : Reads h p (.error .malformed)) : Tells h p [] [unreadableNote p]
  | empty (hreads : Reads h p (.ok .null)) : Tells h p [] []
  | noMapping {v : Value} (hreads : Reads h p (.ok v)) (hv : v.isMapping = false)
    (hnull : v ≠ .null) : Tells h p [] [noMappingNote p]
  | mapping {fields : Fields} (hreads : Reads h p (.ok (.mapping fields))) : Tells h p fields []

inductive Derails (h : Host) (p : Path) : Prop
  | withheld {f : FileFault} (hopen : h.Withholds p f)
  | notUtf8 {bytes : List UInt8} (hbytes : h.Holds p bytes)
    (hchars : Text.Utf8.decode bytes = none)
  | document {f : DocumentFault} (hreads : Reads h p (.error f)) (hf : f ≠ .malformed)

theorem result_exists?_of_holds {bytes : List UInt8} (hbytes : h.Holds p bytes) :
    (h.exists? p).result = .ok true :=
  Host.result_exists?_eq_true_iff.2 (.inr hbytes.isFile)

theorem readDocument_of_reads {document : Except DocumentFault Value}
    (hreads : Reads h p document) :
    readDocument h p = document.mapError (Fault.document .yaml) := by
  obtain ⟨bytes, cs, hbytes, hchars, rfl⟩ := hreads
  rw [readDocument, Host.readText_of_holds hbytes, hchars]
  rfl

theorem readScope_of_exists (hthere : (h.exists? p).result = .ok true) :
    (readScope h p).Ends fields notes ↔ (readPresent h p).Ends fields notes := by
  have hlooked : (h.exists? p).Ends true [] := ⟨hthere, rfl⟩
  rw [readScope, Traced.ends_bind_iff]
  constructor
  · intro hends
    obtain ⟨there, first, rest, hfirst, hrest, rfl⟩ := hends
    obtain ⟨rfl, rfl⟩ := hlooked.unique hfirst
    exact hrest
  · intro hends
    exact ⟨true, [], notes, hlooked, hends, rfl⟩

theorem Reads.ends_readScope {document : Except DocumentFault Value} (hreads : Reads h p document) :
    (readScope h p).Ends fields notes ↔ (readPresent h p).Ends fields notes := by
  obtain ⟨bytes, -, hbytes, -⟩ := hreads
  exact readScope_of_exists (result_exists?_of_holds hbytes)

theorem ends_readScope_of_error {f : FileFault} (hthere : (h.exists? p).result = .ok true)
    (hread : h.files.read h.cwd p = .error f) (hf : (Fault.file f).isSystem = true) :
    (readScope h p).Ends [] [unreadableNote p] := by
  have hforgiven : isForgiven (.file f) = true := hf
  rw [readScope_of_exists hthere, readPresent, readDocument, Host.readText_of_error hread]
  simp only [bind, Except.bind, hforgiven, if_true]
  exact ⟨rfl, rfl⟩

theorem Tells.ends (htells : Tells h p fields notes) : (readScope h p).Ends fields notes := by
  cases htells with
  | missing hthere =>
    rw [Traced.Ends, readScope, Traced.notes, Traced.bind_of_ok hthere]
    exact ⟨rfl, rfl⟩
  | directory hdir =>
    obtain ⟨f, hread, hf⟩ := Host.exists_read_of_isDirectory hdir
    exact ends_readScope_of_error (Host.result_exists?_eq_true_iff.2 (.inl hdir)) hread hf
  | denied hfile hdenied =>
    exact ends_readScope_of_error (Host.result_exists?_eq_true_iff.2 (.inr hfile)) hdenied rfl
  | malformed hreads =>
    rw [hreads.ends_readScope, readPresent, readDocument_of_reads hreads]
    exact ⟨rfl, rfl⟩
  | empty hreads =>
    rw [hreads.ends_readScope, readPresent, readDocument_of_reads hreads]
    exact ⟨rfl, rfl⟩
  | noMapping hreads hv hnull =>
    rw [hreads.ends_readScope, readPresent, readDocument_of_reads hreads]
    cases ‹Value› with
    | null => exact absurd rfl hnull
    | mapping fields => cases hv
    | _ => exact ⟨rfl, rfl⟩
  | mapping hreads =>
    rw [hreads.ends_readScope, readPresent, readDocument_of_reads hreads]
    exact ⟨rfl, rfl⟩

theorem result_readScope_of_error {f : Fault} (hthere : (h.exists? p).result = .ok true)
    (hread : readDocument h p = .error f) (hf : isForgiven f = false) :
    (readScope h p).result = .error (.fault f) := by
  rw [readScope, Traced.result_bind_of_ok hthere, if_pos rfl, result_readPresent_of_error hread, hf]
  rfl

theorem Derails.exists_error (hderails : Derails h p) :
    ∃ f, (readScope h p).result = .error (.fault f) := by
  cases hderails with
  | @withheld f hopen =>
    have hasked : (h.exists? p).result = .error (.fault (.file f)) :=
      Host.result_ask_eq_error_iff.2 ⟨f, hopen, rfl⟩
    exact ⟨_, Traced.result_bind_of_error hasked _⟩
  | notUtf8 hbytes hchars =>
    have hread : readDocument h p = .error .notUtf8 := by
      rw [readDocument, Host.readText_of_holds hbytes, hchars]
      rfl
    exact ⟨_, result_readScope_of_error (result_exists?_of_holds hbytes) hread rfl⟩
  | @document f hreads hf =>
    have hforgiven : isForgiven (.document .yaml f) = false := by
      cases f with
      | malformed => exact absurd rfl hf
      | _ => rfl
    have hread := readDocument_of_reads hreads
    obtain ⟨bytes, -, hbytes, -⟩ := hreads
    exact ⟨_, result_readScope_of_error (result_exists?_of_holds hbytes) hread hforgiven⟩

theorem exists_tells_of_reads {document : Except DocumentFault Value}
    (hreads : Reads h p document) : (∃ fields notes, Tells h p fields notes) ∨ Derails h p := by
  cases document with
  | error f =>
    by_cases hf : f = .malformed
    · exact .inl ⟨_, _, .malformed (hf ▸ hreads)⟩
    · exact .inr (.document hreads hf)
  | ok v =>
    cases v with
    | null => exact .inl ⟨_, _, .empty hreads⟩
    | mapping fields => exact .inl ⟨_, _, .mapping hreads⟩
    | _ => exact .inl ⟨_, _, .noMapping hreads rfl nofun⟩

theorem exists_tells_or_derails (h : Host) (p : Path) :
    (∃ fields notes, Tells h p fields notes) ∨ Derails h p := by
  cases hthere : (h.exists? p).result with
  | error e =>
    obtain ⟨f, hopen, -⟩ := Host.result_ask_eq_error_iff.1 hthere
    exact .inr (.withheld hopen)
  | ok there =>
    cases there with
    | false => exact .inl ⟨_, _, .missing hthere⟩
    | true =>
      obtain hdir | hfile := Host.result_exists?_eq_true_iff.1 hthere
      · exact .inl ⟨_, _, .directory hdir⟩
      · obtain ⟨bytes, hbytes⟩ | hdenied := Host.holds_or_denied hfile
        · cases hchars : Text.Utf8.decode bytes with
          | none => exact .inr (.notUtf8 hbytes hchars)
          | some cs => exact exists_tells_of_reads ⟨bytes, cs, hbytes, hchars, rfl⟩
        · exact .inl ⟨_, _, .denied hfile hdenied⟩

theorem ends_readScope_iff : (readScope h p).Ends fields notes ↔ Tells h p fields notes := by
  constructor
  · intro hends
    obtain ⟨fields', notes', htells⟩ | hderails := exists_tells_or_derails h p
    · obtain ⟨rfl, rfl⟩ := hends.unique htells.ends
      exact htells
    · obtain ⟨f, hf⟩ := hderails.exists_error
      cases hf.symm.trans hends.1
  · exact Tells.ends

theorem exists_tells_iff : (∃ fields notes, Tells h p fields notes) ↔ ¬Derails h p := by
  constructor
  · intro htells hderails
    obtain ⟨fields, notes, htells⟩ := htells
    obtain ⟨f, hf⟩ := hderails.exists_error
    cases hf.symm.trans htells.ends.1
  · exact (exists_tells_or_derails h p).resolve_right

def TellsEach (h : Host) (files : List Path) (told : List (Fields × List Note)) : Prop :=
  List.Forall₂ (fun p t => Tells h p t.1 t.2) files told

theorem ends_readScopes_iff {files : List Path} {contents : List Fields} :
    (readScopes h files).Ends contents notes ↔
      ∃ told, TellsEach h files told ∧ contents = told.map Prod.fst ∧
        notes = (told.map Prod.snd).flatten := by
  induction files generalizing contents notes with
  | nil =>
    simp only [TellsEach, List.forall₂_nil_left_iff, exists_eq_left]
    constructor
    · intro hends
      exact hends.unique (Traced.ends_pure [])
    · intro heq
      rw [heq.1, heq.2]
      exact Traced.ends_pure []
  | cons p rest ih =>
    rw [readScopes, Traced.ends_bind_iff]
    constructor
    · intro hends
      obtain ⟨fields, first, more, hfirst, hmore, rfl⟩ := hends
      obtain ⟨others, hothers, rfl⟩ := Traced.ends_bind_pure_iff.1 hmore
      obtain ⟨told, htold, rfl, rfl⟩ := ih.1 hothers
      exact ⟨(fields, first) :: told, .cons (ends_readScope_iff.1 hfirst) htold, rfl, rfl⟩
    · intro htold
      obtain ⟨told, htold, rfl, rfl⟩ := htold
      cases htold with
      | @cons _ t _ told hfirst hrest =>
        have hothers := ih.2 ⟨told, hrest, rfl, rfl⟩
        exact ⟨t.1, t.2, _, ends_readScope_iff.2 hfirst,
          Traced.ends_bind_pure_iff.2 ⟨_, hothers, rfl⟩, rfl⟩

theorem ends_merged_iff {s : Scopes} : (merged h s).Ends fields notes ↔
    ∃ told, TellsEach h s.files told ∧ fields = mergeAll (told.map Prod.fst) ∧
      notes = (told.map Prod.snd).flatten := by
  rw [merged, map_eq_pure_bind, Traced.ends_bind_pure_iff]
  constructor
  · intro hends
    obtain ⟨contents, hcontents, rfl⟩ := hends
    obtain ⟨told, htold, rfl, rfl⟩ := ends_readScopes_iff.1 hcontents
    exact ⟨told, htold, rfl, rfl⟩
  · intro htold
    obtain ⟨told, htold, rfl, rfl⟩ := htold
    exact ⟨_, ends_readScopes_iff.2 ⟨told, htold, rfl, rfl⟩, rfl⟩

theorem exists_tellsEach_iff {files : List Path} :
    (∃ told, TellsEach h files told) ↔ ∀ p ∈ files, ¬Derails h p := by
  induction files with
  | nil => simp [TellsEach]
  | cons p rest ih =>
    rw [List.forall_mem_cons, ← ih, ← exists_tells_iff]
    constructor
    · intro htold
      obtain ⟨told, htold⟩ := htold
      cases htold with
      | cons hfirst hrest => exact ⟨⟨_, _, hfirst⟩, _, hrest⟩
    · intro htold
      obtain ⟨⟨fields, notes, hfirst⟩, told, hrest⟩ := htold
      exact ⟨(fields, notes) :: told, .cons hfirst hrest⟩

section Section

variable {organization : Option String} {settings : Settings} {section' : Fields}

def byDefault (organization : Option String) : Settings :=
  match organization with
  | none => initial
  | some "" => initial
  | some name => { initial with organization := name }

def sectionNote (v : Value) : Note :=
  ⟨Note.warning, logger, "Ignoring 'modules' settings: expected a mapping, got " ++ v.typeName.name⟩

def invalidNote : Note := ⟨Note.warning, logger, invalidSection⟩

/-- What the settings for modules come to, and what is reported about their section. -/
inductive Concludes (organization : Option String) (fields : Fields) : Settings → List Note → Prop
  | missing (hsection : Value.lookup? (.text "modules") fields = none) :
    Concludes organization fields (byDefault organization) []
  | blank {v : Value} (hsection : Value.lookup? (.text "modules") fields = some v)
    (hv : v.isMapping = false) (hblank : isAbsent v = true) :
    Concludes organization fields (byDefault organization) []
  | noMapping {v : Value} (hsection : Value.lookup? (.text "modules") fields = some v)
    (hv : v.isMapping = false) (hblank : isAbsent v = false) :
    Concludes organization fields (byDefault organization) [sectionNote v]
  | valid {section' : Fields} {settings : Settings}
    (hsection : Value.lookup? (.text "modules") fields = some (.mapping section'))
    (hkeys : hasTextKeys section' = true)
    (hvalid : ofFields? (withEnvironment organization section') = some settings) :
    Concludes organization fields settings []
  | invalid {section' : Fields}
    (hsection : Value.lookup? (.text "modules") fields = some (.mapping section'))
    (hkeys : hasTextKeys section' = true)
    (hinvalid : ofFields? (withEnvironment organization section') = none) :
    Concludes organization fields initial [invalidNote]

theorem hasTextKeys_put (name : String) (v : Value) (fields : Fields) :
    hasTextKeys (Value.put (.text name) v fields) = hasTextKeys fields := by
  induction fields with
  | nil => rfl
  | cons f rest ih =>
    rw [Value.put]
    split
    · rfl
    · change (f.1.text?.isSome && hasTextKeys (Value.put (.text name) v rest)) =
        (f.1.text?.isSome && hasTextKeys rest)
      rw [ih]

theorem hasTextKeys_withEnvironment (organization : Option String) (fields : Fields) :
    hasTextKeys (withEnvironment organization fields) = hasTextKeys fields := by
  unfold withEnvironment
  split
  · rfl
  · rfl
  · exact hasTextKeys_put _ _ fields

theorem ofFields?_withEnvironment_nil (organization : Option String) :
    ofFields? (withEnvironment organization []) = some (byDefault organization) := by
  unfold withEnvironment
  split
  · rfl
  · rfl
  · next name hname =>
    rw [ofFields?_put, byDefault]
    · rfl
    · exact hname

theorem ends_ofSection_of_some (hkeys : hasTextKeys fields = true)
    (hvalid : ofFields? fields = some settings) : (ofSection fields).Ends settings [] := by
  rw [ofSection, hkeys, hvalid]
  exact ⟨rfl, rfl⟩

theorem ends_ofSection_of_none (hkeys : hasTextKeys fields = true)
    (hinvalid : ofFields? fields = none) : (ofSection fields).Ends initial [invalidNote] := by
  rw [ofSection, hkeys, hinvalid]
  exact ⟨rfl, rfl⟩

def conclude (organization : Option String) (fields : Fields) : Traced Settings :=
  sectionOf fields >>= fun section' => ofSection (withEnvironment organization section')

theorem ends_conclude_nil (hends : (sectionOf fields).Ends [] notes) :
    (conclude organization fields).Ends (byDefault organization) notes := by
  have hkeys : hasTextKeys (withEnvironment organization []) = true :=
    hasTextKeys_withEnvironment organization []
  have hboth := hends.bind (f := fun section' => ofSection (withEnvironment organization section'))
    (ends_ofSection_of_some hkeys (ofFields?_withEnvironment_nil organization))
  rwa [List.append_nil] at hboth

theorem ends_sectionOf_mapping
    (hsection : Value.lookup? (.text "modules") fields = some (.mapping section')) :
    (sectionOf fields).Ends section' [] := by
  rw [sectionOf, hsection]
  exact ⟨rfl, rfl⟩

theorem sectionOf_of_noMapping {v : Value}
    (hsection : Value.lookup? (.text "modules") fields = some v) (hv : v.isMapping = false) :
    sectionOf fields = if isAbsent v then pure [] else do
      warn logger ("Ignoring 'modules' settings: expected a mapping, got " ++ v.typeName.name)
      return [] := by
  rw [sectionOf, hsection]
  cases v with
  | mapping fields => cases hv
  | _ => rfl

theorem Concludes.ends (h : Concludes organization fields settings notes) :
    (conclude organization fields).Ends settings notes := by
  cases h with
  | missing hsection =>
    apply ends_conclude_nil
    rw [sectionOf, hsection]
    exact ⟨rfl, rfl⟩
  | blank hsection hv hblank =>
    apply ends_conclude_nil
    rw [sectionOf_of_noMapping hsection hv, hblank]
    exact ⟨rfl, rfl⟩
  | noMapping hsection hv hblank =>
    apply ends_conclude_nil
    rw [sectionOf_of_noMapping hsection hv, hblank]
    exact ⟨rfl, rfl⟩
  | valid hsection hkeys hvalid =>
    have hkeys' := (hasTextKeys_withEnvironment organization _).trans hkeys
    exact (ends_sectionOf_mapping hsection).bind (ends_ofSection_of_some hkeys' hvalid)
  | invalid hsection hkeys hinvalid =>
    have hkeys' := (hasTextKeys_withEnvironment organization _).trans hkeys
    exact (ends_sectionOf_mapping hsection).bind (ends_ofSection_of_none hkeys' hinvalid)

theorem hasTextKeys_eq_false_iff :
    hasTextKeys fields = false ↔ ∃ f ∈ fields, f.1.text? = none := by
  simp [hasTextKeys]

theorem result_conclude_of_key (hkey : ∃ f ∈ sectionFields fields, f.1.text? = none)
    (organization : Option String) :
    (conclude organization fields).result = .error (.fault (.misfit .keyNotText)) := by
  rw [← hasTextKeys_eq_false_iff, ← hasTextKeys_withEnvironment organization] at hkey
  rw [conclude, Traced.result_bind_of_ok (result_sectionOf fields), ofSection, hkey]
  rfl

theorem exists_concludes_or_key (organization : Option String) (fields : Fields) :
    (∃ settings notes, Concludes organization fields settings notes) ∨
      ∃ f ∈ sectionFields fields, f.1.text? = none := by
  cases hsection : Value.lookup? (.text "modules") fields with
  | none => exact .inl ⟨_, _, .missing hsection⟩
  | some v =>
    cases hv : v.isMapping with
    | false =>
      cases hblank : isAbsent v with
      | true => exact .inl ⟨_, _, .blank hsection hv hblank⟩
      | false => exact .inl ⟨_, _, .noMapping hsection hv hblank⟩
    | true =>
      obtain ⟨section', rfl⟩ := Value.exists_fields_of_isMapping hv
      cases hkeys : hasTextKeys section' with
      | false =>
        right
        rwa [← hasTextKeys_eq_false_iff, sectionFields, hsection]
      | true =>
        cases hvalid : ofFields? (withEnvironment organization section') with
        | none => exact .inl ⟨_, _, .invalid hsection hkeys hvalid⟩
        | some settings => exact .inl ⟨_, _, .valid hsection hkeys hvalid⟩

theorem ends_conclude_iff :
    (conclude organization fields).Ends settings notes ↔
      Concludes organization fields settings notes := by
  constructor
  · intro hends
    obtain ⟨settings', notes', hconcludes⟩ | hkey := exists_concludes_or_key organization fields
    · obtain ⟨rfl, rfl⟩ := hends.unique hconcludes.ends
      exact hconcludes
    · cases (result_conclude_of_key hkey organization).symm.trans hends.1
  · exact Concludes.ends

end Section

variable {s : Scopes} {settings : Settings}

/-- What reading the settings comes to: the settings, and one note for all that cannot be used. -/
def Reported (h : Host) (s : Scopes) (settings : Settings) (notes : List Note) : Prop :=
  ∃ told more, TellsEach h s.files told ∧
    Concludes h.organization (mergeAll (told.map Prod.fst)) settings more ∧
    notes = (told.map Prod.snd).flatten ++ more

/-- Settings that cannot be read: for a file, or for a key of the section that is not text. -/
inductive Stumbles (h : Host) (s : Scopes) : Prop
  | file {p : Path} (hp : p ∈ s.files) (hderails : Derails h p)
  | key {fields : Fields} (hmerged : (merged h s).result = .ok fields)
    (hkey : ∃ f ∈ sectionFields fields, f.1.text? = none)

theorem ends_read_iff : (read h s).Ends settings notes ↔ Reported h s settings notes := by
  change (merged h s >>= fun fields => conclude h.organization fields).Ends settings notes ↔ _
  rw [Traced.ends_bind_iff]
  constructor
  · intro hends
    obtain ⟨fields, first, more, hmerged, hmore, rfl⟩ := hends
    obtain ⟨told, htold, rfl, rfl⟩ := ends_merged_iff.1 hmerged
    exact ⟨told, more, htold, ends_conclude_iff.1 hmore, rfl⟩
  · intro hreported
    obtain ⟨told, more, htold, hmore, rfl⟩ := hreported
    exact ⟨_, _, more, ends_merged_iff.2 ⟨told, htold, rfl, rfl⟩, ends_conclude_iff.2 hmore, rfl⟩

theorem not_stumbles_iff : ¬Stumbles h s ↔ ∃ settings notes, Reported h s settings notes := by
  constructor
  · intro hsteady
    obtain ⟨told, htold⟩ := exists_tellsEach_iff.2 fun p hp hderails => hsteady (.file hp hderails)
    have hmerged := ends_merged_iff.2 ⟨told, htold, rfl, rfl⟩
    obtain ⟨settings, more, hmore⟩ | hkey :=
      exists_concludes_or_key h.organization (mergeAll (told.map Prod.fst))
    · exact ⟨settings, _, told, more, htold, hmore, rfl⟩
    · exact absurd (.key hmerged.1 hkey) hsteady
  · intro hreported hstumbles
    obtain ⟨settings, notes, told, more, htold, hmore, -⟩ := hreported
    cases hstumbles with
    | file hp hderails => exact exists_tellsEach_iff.1 ⟨told, htold⟩ _ hp hderails
    | key hmerged hkey =>
      have hsame := (ends_merged_iff.2 ⟨told, htold, rfl, rfl⟩).1
      cases hmerged.symm.trans hsame
      cases (result_conclude_of_key hkey h.organization).symm.trans hmore.ends.1

/--
Reading the settings gives what is reported, and no notes but those. It fails exactly where a file
is not UTF-8, holds a number or a day that there is not, or has a path that is too long or barred,
and where a key of the section is not text.
-/
theorem read_reported (h : Host) (s : Scopes) :
    (∀ settings notes, (read h s).Ends settings notes ↔ Reported h s settings notes) ∧
    ((∃ settings, (read h s).result = .ok settings) ↔ ¬Stumbles h s) := by
  constructor
  · intro settings notes
    exact ends_read_iff
  · rw [not_stumbles_iff]
    constructor
    · intro hread
      obtain ⟨settings, hread⟩ := hread
      exact ⟨settings, _, ends_read_iff.1 ⟨hread, rfl⟩⟩
    · intro hreported
      obtain ⟨settings, notes, hreported⟩ := hreported
      exact ⟨settings, (ends_read_iff.2 hreported).1⟩

example : (conclude none [(.text "modules", .mapping [(.int 1, .null)])]).result =
    .error (.fault (.misfit .keyNotText)) := rfl

def byteHost : Host where
  files := ⟨[(["p"], .directory), (["p", ".docsite"], .directory),
    (["p", ".docsite", "settings.yaml"], .file [0xff])], []⟩
  cwd := ["p"]
  home := ⟨.single, ["home"]⟩
  packages := ⟨.single, ["site"]⟩
  organization := none

def byteScopes : Scopes := .ofProject byteHost ⟨.single, ["p"]⟩

/-- The byte is not reported and left out, but has the reading of all settings fail. -/
theorem not_read_byteHost : byteHost.Holds byteScopes.project [0xff] ∧
    ¬∃ settings, (read byteHost byteScopes).result = .ok settings := by
  have hbytes : byteHost.Holds byteScopes.project [0xff] := rfl
  have hstumbles : Stumbles byteHost byteScopes :=
    .file (p := byteScopes.project) (by simp [Scopes.files]) (.notUtf8 hbytes (by decide))
  refine ⟨hbytes, ?_⟩
  intro hread
  obtain ⟨settings, hread⟩ := hread
  exact not_stumbles_iff.2 ⟨settings, _, ends_read_iff.1 ⟨hread, rfl⟩⟩ hstumbles

end Settings

end SiteModules
