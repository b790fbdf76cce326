import SiteModules.Proofs.Load.Directory

/-!
What loading raises other than a failure of loading. A path is refused, or its code is run and what
that raises becomes a failure of loading; a name of a package passes on what the code of the modules
it comes to raises, unless that is a fault of importing. What becomes a failure of loading is asked
for its text, and may raise something else then.
-/

namespace SiteModules

theorem Text.eq_nil_of_split_iff {sep : Char} {cs : List Char} :
    (∀ seg ∈ split sep cs, seg = []) ↔ ∀ c ∈ cs, c = sep := by
  constructor
  · intro hempty c hc
    by_cases hsep : c = sep
    · exact hsep
    · rw [← join_split sep cs, mem_join_iff hsep] at hc
      obtain ⟨seg, hseg, hc⟩ := hc
      rw [hempty seg hseg] at hc
      cases hc
  · intro honly seg hseg
    rw [List.eq_nil_iff_forall_not_mem]
    intro c hc
    have hsep := honly c (mem_of_mem_split hseg hc)
    exact notMem_of_mem_split hseg (hsep ▸ hc)

theorem Fault.isLoading_of_isExit {f : Fault} (hexit : f.isExit = true) : f.isLoading = false := by
  cases f with
  | raised r =>
    obtain ⟨family, name, text⟩ := r
    cases family with
    | exit => rfl
    | _ => cases hexit
  | _ => rfl

namespace Load

variable {running : Running} {h : Host} {p q : Path} {t : ModuleTable} {e : Failure} {f : Fault}

/-- What is raised about a path that leads to no module. -/
inductive Refused (h : Host) (p : Path) : Failure → Prop
  | package (hdir : (h.isDirectory p).result = .ok true)
    (hfile : (h.isFile (p.child fileName)).result = .ok false) :
    Refused h p (failure "Path does not contain a valid Python package: " p)
  | missing (hdir : (h.isDirectory p).result = .ok false) (hfile : (h.isFile p).result = .ok false)
    (hcompleted : p.suffix = ".py" ∨ (h.isFile (completed p)).result = .ok false) :
    Refused h p (failure "Module path not found: " p)
  | suffix (hdir : (h.isDirectory p).result = .ok false) (hfile : (h.isFile p).result = .ok true)
    (hkind : codeKind? p = none) : Refused h p (failure "Cannot load module from " p)

/-- The system leaves a question open that is asked on the way to a module. -/
inductive Unanswered (h : Host) (p : Path) (f : FileFault) : Prop
  | place (hopen : h.Withholds p f)
  | package (hdir : (h.isDirectory p).result = .ok true) (hopen : h.Withholds (p.child fileName) f)
  | completed (hdir : (h.isDirectory p).result = .ok false)
    (hfile : (h.isFile p).result = .ok false) (hsuffix : p.suffix ≠ ".py")
    (hopen : h.Withholds (completed p) f)

theorem result_directoryTarget_of_error (hfile : (h.isFile (p.child fileName)).result = .error e) :
    (directoryTarget h p).result = .error e := Traced.result_bind_of_error hfile _

theorem result_directoryTarget_of_false (hfile : (h.isFile (p.child fileName)).result = .ok false) :
    (directoryTarget h p).result =
      .error (failure "Path does not contain a valid Python package: " p) :=
  Traced.result_bind_of_ok hfile _

theorem result_fileTarget_of_error (hq : (withSuffix h p).result = .error e) :
    (fileTarget h p).result = .error e := Traced.result_bind_of_error hq _

theorem result_fileTarget_of_false (hq : (withSuffix h p).result = .ok q)
    (hfile : (h.isFile q).result = .ok false) :
    (fileTarget h p).result = .error (failure "Module path not found: " q) :=
  (Traced.result_bind_of_ok hq _).trans (Traced.result_bind_of_ok hfile _)

theorem result_withSuffix_eq_error_iff : (withSuffix h p).result = .error e ↔
    (h.isFile p).result = .error e ∨
    ((h.isFile p).result = .ok false ∧ p.suffix ≠ ".py" ∧
      (h.isFile (completed p)).result = .error e) := by
  unfold withSuffix
  dsimp only
  rw [Traced.result_bind]
  cases (h.isFile p).result with
  | error e' => simp [Except.bind]
  | ok there =>
    cases there with
    | true => simp [Except.bind]
    | false =>
      by_cases hsuffix : p.suffix = ".py"
      · simp [Except.bind, hsuffix]
      · rw [show p.withName (p.name ++ ".py") = completed p from rfl]
        simp only [Except.bind, hsuffix, Bool.false_eq_true, if_false, Traced.result_bind]
        cases (h.isFile (completed p)).result with
        | error e' => simp [hsuffix]
        | ok there => cases there <;> simp

theorem Refused.result_target (hp : p.isAbsolute = true) (hrefused : Refused h p e) :
    (target h p).result = .error e := by
  cases hrefused with
  | package hdir hfile =>
    exact (Traced.result_bind_of_ok hdir _).trans (result_directoryTarget_of_false hfile)
  | missing hdir hfile hcompleted =>
    refine (Traced.result_bind_of_ok hdir _).trans (result_fileTarget_of_false ?_ hfile)
    refine result_withSuffix_eq_ok_iff.2 (.inr ⟨hfile, ?_⟩)
    by_cases hsuffix : p.suffix = ".py"
    · exact .inl ⟨hsuffix, rfl⟩
    · exact .inr ⟨hsuffix, .inr ⟨hcompleted.resolve_left hsuffix, rfl⟩⟩
  | suffix hdir hfile hkind =>
    obtain ⟨name, hname⟩ := ModuleName.exists_ofPath h hp (Host.notMem_chars_of_isFile hfile)
    have hq : (withSuffix h p).result = .ok p := result_withSuffix_eq_ok_iff.2 (.inl ⟨hfile, rfl⟩)
    rw [target, Traced.result_bind_of_ok hdir]
    change (fileTarget h p).result = _
    rw [fileTarget, Traced.result_bind_of_ok hq, Traced.result_bind_of_ok hfile, hname, hkind]
    rfl

theorem Refused.load (hrefused : Refused h p e) : ∃ text cause, e = .load text cause := by
  cases hrefused
  all_goals exact ⟨_, _, rfl⟩

theorem Unanswered.result_target {g : FileFault} (hunanswered : Unanswered h p g) :
    (target h p).result = .error (.fault (.file g)) := by
  have hraised : ∀ {q}, h.Withholds q g → (h.isFile q).result = .error (.fault (.file g)) :=
    fun hopen => Host.result_isFile_eq_error_iff.2 ⟨g, hopen, rfl⟩
  cases hunanswered with
  | place hopen =>
    exact Traced.result_bind_of_error (Host.result_isDirectory_eq_error_iff.2 ⟨g, hopen, rfl⟩) _
  | package hdir hopen =>
    exact (Traced.result_bind_of_ok hdir _).trans (result_directoryTarget_of_error (hraised hopen))
  | completed hdir hfile hsuffix hopen =>
    refine (Traced.result_bind_of_ok hdir _).trans (result_fileTarget_of_error ?_)
    exact result_withSuffix_eq_error_iff.2 (.inr ⟨hfile, hsuffix, hraised hopen⟩)

theorem leads_or_refused_or_unanswered (h : Host) (hp : p.isAbsolute = true) :
    (∃ m, Leads h p m) ∨ (∃ e, Refused h p e) ∨ ∃ g, Unanswered h p g := by
  have hopen : ∀ {q e}, (h.isFile q).result = .error e → ∃ g, h.Withholds q g := by
    intro q e hfile
    obtain ⟨g, hopen, -⟩ := Host.result_isFile_eq_error_iff.1 hfile
    exact ⟨g, hopen⟩
  have hnamed : ∀ {q}, q.isAbsolute = true → (h.isFile q).result = .ok true →
      ∃ name, ModuleName.ofPath h q = .ok name :=
    fun hq hfile => ModuleName.exists_ofPath h hq (Host.notMem_chars_of_isFile hfile)
  -- One case for each question of a loader, in the order in which it asks them.
  cases hdir : (h.isDirectory p).result with
  | error e =>
    obtain ⟨g, hopen, -⟩ := Host.result_isDirectory_eq_error_iff.1 hdir
    exact .inr (.inr ⟨g, .place hopen⟩)
  | ok there =>
    cases there with
    | true =>
      cases hfile : (h.isFile (p.child fileName)).result with
      | error e =>
        obtain ⟨g, hopen⟩ := hopen hfile
        exact .inr (.inr ⟨g, .package hdir hopen⟩)
      | ok there =>
        cases there with
        | false => exact .inr (.inl ⟨_, .package hdir hfile⟩)
        | true =>
          obtain ⟨name, hname⟩ :=
            ModuleName.exists_ofPath h hp (Host.notMem_chars_of_isDirectory hdir)
          exact .inl ⟨_, .directory hdir hfile hname⟩
    | false =>
      cases hfile : (h.isFile p).result with
      | error e =>
        obtain ⟨g, hopen⟩ := hopen hfile
        exact .inr (.inr ⟨g, .place hopen⟩)
      | ok there =>
        cases there with
        | true =>
          obtain ⟨name, hname⟩ := hnamed hp hfile
          cases hkind : codeKind? p with
          | some kind => exact .inl ⟨_, .file hdir hfile hkind hname⟩
          | none => exact .inr (.inl ⟨_, .suffix hdir hfile hkind⟩)
        | false =>
          by_cases hsuffix : p.suffix = ".py"
          · exact .inr (.inl ⟨_, .missing hdir hfile (.inl hsuffix)⟩)
          · cases hcompleted : (h.isFile (completed p)).result with
            | error e =>
              obtain ⟨g, hopen⟩ := hopen hcompleted
              exact .inr (.inr ⟨g, .completed hdir hfile hsuffix hopen⟩)
            | ok there =>
              cases there with
              | true =>
                obtain ⟨name, hname⟩ := hnamed (q := completed p) hp hcompleted
                exact .inl ⟨_, .completed hdir hfile hsuffix hcompleted hname⟩
              | false => exact .inr (.inl ⟨_, .missing hdir hfile (.inr hcompleted)⟩)

theorem result_target_eq_error_iff (hp : p.isAbsolute = true) :
    (target h p).result = .error e ↔
      Refused h p e ∨ ∃ g, Unanswered h p g ∧ .fault (.file g) = e := by
  constructor
  · intro hraised
    obtain ⟨m, hm⟩ | ⟨e', hrefused⟩ | ⟨g, hunanswered⟩ := leads_or_refused_or_unanswered h hp
    · cases hraised.symm.trans (result_target_eq_ok_iff.2 hm)
    · cases hraised.symm.trans (hrefused.result_target hp)
      exact .inl hrefused
    · cases hraised.symm.trans hunanswered.result_target
      exact .inr ⟨g, hunanswered, rfl⟩
  · rintro (hrefused | ⟨g, hunanswered, rfl⟩)
    · exact hrefused.result_target hp
    · exact hunanswered.result_target

theorem Running.report_eq_fault_iff {headline : String} {g : Fault} :
    running.report headline f = .fault g ↔ running.instead? f = some g := by
  unfold Running.report
  cases running.instead? f <;> simp

theorem load_or_fault_of_report (running : Running) (headline : String) (f : Fault) :
    (∃ text cause, running.report headline f = .load text cause) ∨
      ∃ g, running.report headline f = .fault g := by
  unfold Running.report
  cases running.instead? f with
  | none => exact .inl ⟨headline, some f, rfl⟩
  | some g => exact .inr ⟨g, rfl⟩

def codeReport (running : Running) (m : Target) (f : Fault) : Failure :=
  if f.isExit then .fault f
  else running.report ("Failed to load module from " ++ m.path.toString) f

theorem codeReport_eq_fault_iff {m : Target} {g : Fault} : codeReport running m f = .fault g ↔
    (f = g ∧ f.isExit = true) ∨ (f.isExit = false ∧ running.instead? f = some g) := by
  unfold codeReport
  split
  · next hexit => simp [hexit]
  · next hexit => simp [hexit, Running.report_eq_fault_iff]

/-- A module that has been found cannot be made, or its code raises something. -/
inductive Target.Raises (running : Running) (t : ModuleTable) (m : Target) : Failure → Prop
  | unmade {f : Fault} (hmake : (m.make running t).1 = .error f) : m.Raises running t (.fault f)
  | code {serial : Nat} {t' : ModuleTable} {f : Fault} (hmake : m.make running t = (.ok serial, t'))
    (hrun : (m.exec running t' serial).1 = .error f) :
    m.Raises running t (codeReport running m f)

theorem Leads.result_pathWith_eq_error_iff {m : Target} (hm : Leads h p m) :
    (pathWith running h t p).1.result = .error e ↔ m.Raises running t e := by
  cases hmake : m.make running t with
  | mk made t' =>
    cases made with
    | error f =>
      rw [(pathWith_of_unmade hm hmake).1, Except.error.injEq]
      constructor
      · rintro rfl
        exact .unmade (congrArg Prod.fst hmake)
      · intro hraises
        cases hraises with
        | unmade hmake' =>
          rw [hmake] at hmake'
          cases hmake'
          rfl
        | code hmake' => cases hmake.symm.trans hmake'
    | ok serial =>
      -- The module is made in one way, so its code is run with one table.
      have honly : m.Raises running t e ↔
          ∃ f, (m.exec running t' serial).1 = .error f ∧ codeReport running m f = e := by
        constructor
        · intro hraises
          cases hraises with
          | unmade hmake' =>
            rw [hmake] at hmake'
            cases hmake'
          | code hmake' hrun =>
            cases hmake.symm.trans hmake'
            exact ⟨_, hrun, rfl⟩
        · rintro ⟨f, hrun, rfl⟩
          exact .code hmake hrun
      rw [honly]
      cases hrun : m.exec running t' serial with
      | mk result t'' =>
        cases result with
        | ok u => simp [(pathWith_of_ok hm hmake hrun).1]
        | error f =>
          cases hf : f.isExit with
          | true => simp [(pathWith_of_exit hm hmake hrun hf).1, codeReport, hf]
          | false => simp [(pathWith_of_fault hm hmake hrun hf).1, codeReport, hf]

theorem result_pathWith_eq_error_iff : (pathWith running h t p).1.result = .error e ↔
    (target h p).result = .error e ∨ ∃ m, Leads h p m ∧ m.Raises running t e := by
  cases hfound : (target h p).result with
  | error e' =>
    have hnone : ∀ m, ¬Leads h p m := by
      intro m hm
      cases hfound.symm.trans (result_target_eq_ok_iff.2 hm)
    simp [pathWith_of_error hfound, hnone]
  | ok m =>
    have hm := result_target_eq_ok_iff.1 hfound
    rw [hm.result_pathWith_eq_error_iff]
    constructor
    · exact fun hraises => .inr ⟨m, hm, hraises⟩
    · rintro (hno | ⟨m', hm', hraises⟩)
      · cases hno
      · exact hm.unique hm' ▸ hraises

section Chain

variable {dir : Path} {full name next : String} {names above rest : List String} {outer m : Loaded}
  {t' t'' : ModuleTable}

/-- A module of a directory cannot be made, or its code raises, or it takes the module away. -/
inductive Spoils (running : Running) (h : Host) (dir : Path) (full name : String)
    (t : ModuleTable) : Fault → Prop
  | unmade {kind : CodeKind} {file : Path} {package : Bool} {f : Fault}
    (hfound : findIn h dir name = some (.code kind file package))
    (hmake : (running.make kind file full t).1 = .error f) : Spoils running h dir full name t f
  | raises {kind : CodeKind} {file : Path} {package : Bool} {serial : Nat} {t' : ModuleTable}
    {f : Fault} (hfound : findIn h dir name = some (.code kind file package))
    (hmake : running.make kind file full t = (.ok serial, t'))
    (hrun : (running.exec kind file full
      (t'.insert ⟨full, some file.toString, package, serial⟩)).1 = .error f) :
    Spoils running h dir full name t f
  | removes {kind : CodeKind} {file : Path} {package : Bool} {serial : Nat} {t' t'' : ModuleTable}
    (hfound : findIn h dir name = some (.code kind file package))
    (hmake : running.make kind file full t = (.ok serial, t'))
    (hrun : running.exec kind file full
      (t'.insert ⟨full, some file.toString, package, serial⟩) = (.ok (), t''))
    (hgone : t''.find? full = none) : Spoils running h dir full name t (lost full)

/-- A module is looked for among the files, after what is around it has been loaded. -/
inductive Comes (running : Running) (h : Host) : List String → ModuleTable → ModuleTable → Prop
  | top {name : String} {t : ModuleTable} (ht : t.find? name = none) :
    Comes running h [name] t t
  | inner {name next : String} {rest : List String} {t t' : ModuleTable} {outer : Loaded}
    (ht : t.find? (dotted (name :: next :: rest)) = none)
    (houter : chain running h (next :: rest) t = (.ok outer, t'))
    (ht' : t'.find? (dotted (name :: next :: rest)) = none) (hpackage : outer.package = true) :
    Comes running h (name :: next :: rest) t t'

/--
Where modules are loaded by name, code raises a fault, or it has taken modules away that are looked
up, or it cannot be told where the modules inside of a package lie. The innermost name is first.
-/
inductive Raises (running : Running) (h : Host) : List String → ModuleTable → Fault → Prop
  | own {name : String} {above : List String} {t t' : ModuleTable} {f : Fault}
    {dir : Path} (hcomes : Comes running h (name :: above) t t')
    (hdir : directoryOf running h t' above = .ok dir)
    (hspoils : Spoils running h dir (dotted (name :: above)) name t' f) :
    Raises running h (name :: above) t f
  | unplaced {name : String} {above : List String} {t t' : ModuleTable} {f : Fault}
    (hcomes : Comes running h (name :: above) t t')
    (hdir : directoryOf running h t' above = .error f) :
    Raises running h (name :: above) t f
  | removes {name next : String} {rest : List String} {t t' t'' : ModuleTable} {dir : Path}
    {m : Loaded} (hcomes : Comes running h (name :: next :: rest) t t')
    (hdir : directoryOf running h t' (next :: rest) = .ok dir)
    (hone : one running h dir (dotted (name :: next :: rest)) name t' = (.ok m, t''))
    (hgone : t''.find? (dotted (next :: rest)) = none) :
    Raises running h (name :: next :: rest) t (lost (dotted (next :: rest)))
  | outer {name next : String} {rest : List String} {t : ModuleTable} {f : Fault}
    (ht : t.find? (dotted (name :: next :: rest)) = none)
    (houter : Raises running h (next :: rest) t f) : Raises running h (name :: next :: rest) t f

theorem Spoils.one_fst (hspoils : Spoils running h dir full name t f) :
    (one running h dir full name t).1 = .error f := by
  cases hspoils with
  | unmade hfound hmake =>
    unfold one
    simp only [hfound]
    split
    · next hmake' =>
      rw [hmake'] at hmake
      cases hmake
      rfl
    · next hmake' =>
      rw [hmake'] at hmake
      cases hmake
  | raises hfound hmake hrun =>
    unfold one
    simp only [hfound, hmake]
    split
    · next hrun' =>
      rw [hrun'] at hrun
      cases hrun
      rfl
    · next hrun' =>
      rw [hrun'] at hrun
      cases hrun
  | removes hfound hmake hrun hgone =>
    unfold one
    simp only [hfound, hmake, hrun, hgone]

theorem one_fst_eq_error_iff (hf : f ≠ .noModule) :
    (one running h dir full name t).1 = .error f ↔ Spoils running h dir full name t f := by
  refine ⟨?_, Spoils.one_fst⟩
  intro hraised
  unfold one at hraised
  split at hraised
  · cases hraised
    exact absurd rfl hf
  · cases hraised
  · next kind file package hfound =>
    split at hraised
    · next hmake =>
      cases hraised
      exact .unmade hfound (congrArg Prod.fst hmake)
    · next serial t' hmake =>
      split at hraised
      · next hrun =>
        cases hraised
        exact .raises hfound hmake (congrArg Prod.fst hrun)
      · next t'' hrun =>
        split at hraised
        · cases hraised
        · next hgone =>
          cases hraised
          exact .removes hfound hmake hrun hgone

theorem inside_fst_eq_error_iff (hf : f ≠ .noModule) :
    (inside running h outer name above t).1 = .error f ↔
      t.find? (dotted (name :: above)) = none ∧ outer.package = true ∧
      (directoryOf running h t above = .error f ∨ ∃ dir, directoryOf running h t above = .ok dir ∧
        (Spoils running h dir (dotted (name :: above)) name t f ∨
        ∃ m t', one running h dir (dotted (name :: above)) name t = (.ok m, t') ∧
          t'.find? (dotted above) = none ∧ lost (dotted above) = f)) := by
  simp only [← one_fst_eq_error_iff hf]
  unfold inside
  dsimp only
  cases t.find? (dotted (name :: above)) with
  | some m => simp
  | none =>
    cases hpackage : outer.package with
    | false => simpa using hf.symm
    | true =>
      cases directoryOf running h t above with
      | error g => simp
      | ok dir =>
        cases hone : one running h dir (dotted (name :: above)) name t with
        | mk result t' =>
          cases result with
          | error g => simp [hone]
          | ok m =>
            cases hgone : t'.find? (dotted above) with
            | some m' => simp [hone, hgone]
            | none =>
              simp only [hone, hgone, if_true, Option.isSome_none, Bool.false_eq_true, if_false,
                true_and, false_or, reduceCtorEq, Except.ok.injEq, Except.error.injEq,
                Prod.mk.injEq, exists_eq_left']
              constructor
              · exact fun hlost => ⟨m, t', ⟨rfl, rfl⟩, hgone, hlost⟩
              · rintro ⟨_, _, ⟨rfl, rfl⟩, -, hlost⟩
                exact hlost

theorem dotted_singleton (name : String) : dotted [name] = name := rfl

theorem chain_of_find? (ht : t.find? (dotted (name :: above)) = some m) :
    chain running h (name :: above) t = (.ok m, t) := by
  cases above with
  | nil =>
    rw [dotted_singleton] at ht
    simp only [chain, ht]
  | cons next rest => simp only [chain, ht]

theorem chain_singleton (ht : t.find? name = none) :
    chain running h [name] t = one running h h.packages name name t := by
  simp only [chain, ht]

theorem chain_of_outer_error {g : Fault} (ht : t.find? (dotted (name :: next :: rest)) = none)
    (houter : chain running h (next :: rest) t = (.error g, t')) :
    chain running h (name :: next :: rest) t = (.error g, t') := by
  rw [chain, ht]
  dsimp only
  rw [houter]

theorem chain_of_outer_ok (ht : t.find? (dotted (name :: next :: rest)) = none)
    (houter : chain running h (next :: rest) t = (.ok outer, t')) :
    chain running h (name :: next :: rest) t = inside running h outer name (next :: rest) t' := by
  rw [chain, ht]
  dsimp only
  rw [houter]

theorem Raises.find?_eq_none (hraises : Raises running h (name :: above) t f) :
    t.find? (dotted (name :: above)) = none := by
  cases hraises with
  | own hcomes =>
    cases hcomes with
    | top ht => exact ht
    | inner ht => exact ht
  | unplaced hcomes =>
    cases hcomes with
    | top ht => exact ht
    | inner ht => exact ht
  | removes hcomes =>
    cases hcomes with
    | inner ht => exact ht
  | outer ht => exact ht

theorem raises_singleton_iff : Raises running h [name] t f ↔
    t.find? name = none ∧ Spoils running h h.packages name name t f := by
  constructor
  · intro hraises
    cases hraises with
    | own hcomes hdir hspoils =>
      cases hdir
      cases hcomes with
      | top ht => exact ⟨ht, hspoils⟩
    | unplaced _ hdir => cases hdir
  · rintro ⟨ht, hspoils⟩
    exact .own (.top ht) rfl hspoils

theorem raises_cons_cons_iff (hf : f ≠ .noModule)
    (ht : t.find? (dotted (name :: next :: rest)) = none) :
    Raises running h (name :: next :: rest) t f ↔ Raises running h (next :: rest) t f ∨
      ∃ outer t', chain running h (next :: rest) t = (.ok outer, t') ∧
        (inside running h outer name (next :: rest) t').1 = .error f := by
  simp only [inside_fst_eq_error_iff hf]
  constructor
  · intro hraises
    cases hraises with
    | own hcomes hdir hspoils =>
      cases hcomes with
      | inner _ houter ht' hpackage =>
        exact .inr ⟨_, _, houter, ht', hpackage, .inr ⟨_, hdir, .inl hspoils⟩⟩
    | unplaced hcomes hdir =>
      cases hcomes with
      | inner _ houter ht' hpackage => exact .inr ⟨_, _, houter, ht', hpackage, .inl hdir⟩
    | removes hcomes hdir hone hgone =>
      cases hcomes with
      | inner _ houter ht' hpackage =>
        exact .inr ⟨_, _, houter, ht', hpackage, .inr ⟨_, hdir, .inr ⟨_, _, hone, hgone, rfl⟩⟩⟩
    | outer _ houter => exact .inl houter
  · rintro (houter | ⟨outer, t', houter, ht', hpackage, hdir | ⟨dir, hdir, hfails⟩⟩)
    · exact .outer ht houter
    · exact .unplaced (.inner ht houter ht' hpackage) hdir
    · obtain hspoils | ⟨m, t'', hone, hgone, rfl⟩ := hfails
      · exact .own (.inner ht houter ht' hpackage) hdir hspoils
      · exact .removes (.inner ht houter ht' hpackage) hdir hone hgone

theorem chain_fst_eq_error_iff (hf : f ≠ .noModule) :
    (chain running h names t).1 = .error f ↔
      (names = [] ∧ f = .noName) ∨ Raises running h names t f := by
  -- The outer names are loaded into the table as it is, the inner one into what they leave.
  induction names generalizing t with
  | nil =>
    have hnone : ¬Raises running h [] t f := by rintro ⟨⟩
    simp [chain, hnone, eq_comm]
  | cons name above ih =>
    simp only [List.cons_ne_nil, false_and, false_or]
    cases hheld : t.find? (dotted (name :: above)) with
    | some m =>
      rw [chain_of_find? hheld]
      refine iff_of_false (by simp) ?_
      intro hraises
      cases hheld.symm.trans hraises.find?_eq_none
    | none =>
      cases above with
      | nil =>
        rw [dotted_singleton] at hheld
        rw [chain_singleton hheld, one_fst_eq_error_iff hf, raises_singleton_iff]
        exact (and_iff_right hheld).symm
      | cons next rest =>
        rw [raises_cons_cons_iff hf hheld]
        simp only [List.cons_ne_nil, false_and, false_or] at ih
        rw [← ih]
        cases houter : chain running h (next :: rest) t with
        | mk result t' =>
          cases result with
          | error g => simp [chain_of_outer_error hheld houter]
          | ok outer =>
            rw [chain_of_outer_ok hheld houter]
            constructor
            · exact fun hraised => .inr ⟨outer, t', rfl, hraised⟩
            · rintro (hfailed | ⟨_, _, ⟨⟩, hraised⟩)
              · cases hfailed
              · exact hraised

end Chain

def namesOf (entry : String) : List String :=
  ((ModuleName.parts entry.toList).map String.ofList).reverse

theorem namesOf_eq_nil_iff {entry : String} :
    namesOf entry = [] ↔ ∀ c ∈ entry.toList.dropWhile (· = '@'), c = '/' := by
  rw [namesOf, List.reverse_eq_nil_iff, List.map_eq_nil_iff, ModuleName.parts, List.map_eq_nil_iff,
    List.filter_eq_nil_iff, ← Text.eq_nil_of_split_iff]
  simp

/-- What is raised other than a failure of loading. -/
inductive Escapes (running : Running) (h : Host) (t : ModuleTable) (entry : String) : Fault → Prop
  | unanswered {f : FileFault} (he : (Path.ofString entry).isAbsolute = true)
    (hunanswered : Unanswered h (Path.ofString entry) f) : Escapes running h t entry (.file f)
  | unmade {m : Target} {f : Fault} (he : (Path.ofString entry).isAbsolute = true)
    (hm : Leads h (Path.ofString entry) m) (hmake : (m.make running t).1 = .error f)
    (hloading : f.isLoading = false) : Escapes running h t entry f
  | exit {m : Target} {serial : Nat} {t' : ModuleTable} {f : Fault}
    (he : (Path.ofString entry).isAbsolute = true) (hm : Leads h (Path.ofString entry) m)
    (hmake : m.make running t = (.ok serial, t')) (hrun : (m.exec running t' serial).1 = .error f)
    (hexit : f.isExit = true) : Escapes running h t entry f
  | unwordedCode {m : Target} {serial : Nat} {t' : ModuleTable} {f g : Fault}
    (he : (Path.ofString entry).isAbsolute = true) (hm : Leads h (Path.ofString entry) m)
    (hmake : m.make running t = (.ok serial, t')) (hrun : (m.exec running t' serial).1 = .error f)
    (hexit : f.isExit = false) (hinstead : running.instead? f = some g)
    (hloading : g.isLoading = false) : Escapes running h t entry g
  | nameless (he : (Path.ofString entry).isAbsolute = false)
    (hname : ∀ c ∈ entry.toList.dropWhile (· = '@'), c = '/') : Escapes running h t entry .noName
  | raised {f : Fault} (he : (Path.ofString entry).isAbsolute = false)
    (hraises : Raises running h (namesOf entry) t f) (himport : f.isImport = false)
    (hloading : f.isLoading = false) : Escapes running h t entry f
  | unwordedImport {f g : Fault} (he : (Path.ofString entry).isAbsolute = false)
    (hraises : Raises running h (namesOf entry) t f) (himport : f.isImport = true)
    (hinstead : running.instead? f = some g) (hloading : g.isLoading = false) :
    Escapes running h t entry g

section Entry

variable {entry : String}

def importReport (running : Running) (entry : String) (f : Fault) : Failure :=
  if f.isImport then
    running.report
      ("Failed to import '" ++ entry ++ "' as '" ++ ModuleName.ofPackage entry ++ "'") f
  else .fault f

theorem importReport_eq_fault_iff {g : Fault} : importReport running entry f = .fault g ↔
    (f = g ∧ f.isImport = false) ∨ (f.isImport = true ∧ running.instead? f = some g) := by
  unfold importReport
  split
  · next himport => simp [himport, Running.report_eq_fault_iff]
  · next himport => simp [himport]

theorem result_specifierWith_eq_error_iff : (specifierWith running h t entry).1.result = .error e ↔
    ∃ f, (chain running h (namesOf entry) t).1 = .error f ∧
      importReport running entry f = e := by
  unfold specifierWith
  dsimp only
  rw [← namesOf]
  cases chain running h (namesOf entry) t with
  | mk result t' =>
    cases result with
    | ok m => exact iff_of_false (by rintro ⟨⟩) (by simp)
    | error f => cases hf : f.isImport <;> simp [importReport, hf]

theorem entryWith_of_not_isAbsolute (he : (Path.ofString entry).isAbsolute = false)
    (running : Running) (h : Host) (t : ModuleTable) :
    entryWith running h t entry = specifierWith running h t entry := if_neg (by simp [he])

theorem entryWith_of_isAbsolute (he : (Path.ofString entry).isAbsolute = true)
    (running : Running) (h : Host) (t : ModuleTable) :
    entryWith running h t entry = pathWith running h t (Path.ofString entry) := if_pos he

theorem Escapes.isLoading (hescapes : Escapes running h t entry f) : f.isLoading = false := by
  cases hescapes with
  | unanswered => rfl
  | unmade _ _ _ hloading => exact hloading
  | exit _ _ _ _ hexit => exact Fault.isLoading_of_isExit hexit
  | unwordedCode _ _ _ _ _ _ hloading => exact hloading
  | nameless => rfl
  | raised _ _ _ hloading => exact hloading
  | unwordedImport _ _ _ _ hloading => exact hloading

theorem ne_noModule_of_instead? {g : Fault} (hinstead : running.instead? f = some g) :
    f ≠ .noModule := by
  rintro rfl
  cases hinstead

theorem ne_noModule_of_isImport (himport : f.isImport = false) : f ≠ .noModule := by
  rintro rfl
  cases himport

theorem result_pathEntry_eq_fault_iff (he : (Path.ofString entry).isAbsolute = true)
    (hf : f.isLoading = false) :
    (entryWith running h t entry).1.result = .error (.fault f) ↔ Escapes running h t entry f := by
  rw [entryWith_of_isAbsolute he, result_pathWith_eq_error_iff, result_target_eq_error_iff he]
  constructor
  · rintro ((hrefused | ⟨g, hunanswered, hg⟩) | ⟨m, hm, hraises⟩)
    · -- A path that is refused raises a failure of loading, which is no fault.
      cases hrefused
    · cases hg
      exact .unanswered he hunanswered
    · generalize hreport : Failure.fault f = e' at hraises
      cases hraises with
      | unmade hmake =>
        cases hreport
        exact .unmade he hm hmake hf
      | code hmake hrun =>
        obtain ⟨rfl, hexit⟩ | ⟨hexit, hinstead⟩ := codeReport_eq_fault_iff.1 hreport.symm
        · exact .exit he hm hmake hrun hexit
        · exact .unwordedCode he hm hmake hrun hexit hinstead hf
  · intro hescapes
    have hreports : ∀ {m f' serial t'}, Leads h (Path.ofString entry) m →
        m.make running t = (.ok serial, t') → (m.exec running t' serial).1 = .error f' →
        codeReport running m f' = .fault f →
        ∃ m, Leads h (Path.ofString entry) m ∧ m.Raises running t (.fault f) := by
      intro m f' serial t' hm hmake hrun hreport
      exact ⟨m, hm, hreport ▸ .code hmake hrun⟩
    cases hescapes with
    | unanswered _ hunanswered => exact .inl (.inr ⟨_, hunanswered, rfl⟩)
    | unmade _ hm hmake => exact .inr ⟨_, hm, .unmade hmake⟩
    | exit _ hm hmake hrun hexit =>
      exact .inr (hreports hm hmake hrun (codeReport_eq_fault_iff.2 (.inl ⟨rfl, hexit⟩)))
    | unwordedCode _ hm hmake hrun hexit hinstead =>
      exact .inr (hreports hm hmake hrun (codeReport_eq_fault_iff.2 (.inr ⟨hexit, hinstead⟩)))
    | nameless hno => cases he.symm.trans hno
    | raised hno => cases he.symm.trans hno
    | unwordedImport hno => cases he.symm.trans hno

theorem result_nameEntry_eq_fault_iff (he : (Path.ofString entry).isAbsolute = false)
    (hf : f.isLoading = false) :
    (entryWith running h t entry).1.result = .error (.fault f) ↔ Escapes running h t entry f := by
  rw [entryWith_of_not_isAbsolute he, result_specifierWith_eq_error_iff]
  constructor
  · rintro ⟨g, hraised, hreport⟩
    obtain ⟨rfl, himport⟩ | ⟨himport, hinstead⟩ := importReport_eq_fault_iff.1 hreport
    · obtain ⟨hnames, rfl⟩ | hraises :=
        (chain_fst_eq_error_iff (ne_noModule_of_isImport himport)).1 hraised
      · exact .nameless he (namesOf_eq_nil_iff.1 hnames)
      · exact .raised he hraises himport hf
    · obtain ⟨-, rfl⟩ | hraises :=
        (chain_fst_eq_error_iff (ne_noModule_of_instead? hinstead)).1 hraised
      · cases himport
      · exact .unwordedImport he hraises himport hinstead hf
  · intro hescapes
    have hraised : ∀ {g}, g ≠ .noModule → Raises running h (namesOf entry) t g →
        (chain running h (namesOf entry) t).1 = .error g :=
      fun hg hraises => (chain_fst_eq_error_iff hg).2 (.inr hraises)
    cases hescapes with
    | unanswered hyes => cases he.symm.trans hyes
    | unmade hyes => cases he.symm.trans hyes
    | exit hyes => cases he.symm.trans hyes
    | unwordedCode hyes => cases he.symm.trans hyes
    | nameless _ hname =>
      refine ⟨.noName, (chain_fst_eq_error_iff (by simp)).2 (.inl ⟨?_, rfl⟩), rfl⟩
      exact namesOf_eq_nil_iff.2 hname
    | raised _ hraises himport =>
      exact ⟨f, hraised (ne_noModule_of_isImport himport) hraises,
        importReport_eq_fault_iff.2 (.inl ⟨rfl, himport⟩)⟩
    | unwordedImport _ hraises himport hinstead =>
      exact ⟨_, hraised (ne_noModule_of_instead? hinstead) hraises,
        importReport_eq_fault_iff.2 (.inr ⟨himport, hinstead⟩)⟩

theorem result_entryWith_eq_fault_iff (hf : f.isLoading = false) :
    (entryWith running h t entry).1.result = .error (.fault f) ↔ Escapes running h t entry f := by
  cases he : (Path.ofString entry).isAbsolute with
  | true => exact result_pathEntry_eq_fault_iff he hf
  | false => exact result_nameEntry_eq_fault_iff he hf

theorem load_or_fault_of_entryWith (hraised : (entryWith running h t entry).1.result = .error e) :
    (∃ text cause, e = .load text cause) ∨ ∃ f, e = .fault f := by
  cases he : (Path.ofString entry).isAbsolute with
  | true =>
    rw [entryWith_of_isAbsolute he, result_pathWith_eq_error_iff, result_target_eq_error_iff he]
      at hraised
    obtain (hrefused | ⟨g, -, rfl⟩) | ⟨m, -, hraises⟩ := hraised
    · exact .inl hrefused.load
    · exact .inr ⟨_, rfl⟩
    · cases hraises with
      | unmade => exact .inr ⟨_, rfl⟩
      | code =>
        unfold codeReport
        split
        · exact .inr ⟨_, rfl⟩
        · exact load_or_fault_of_report running _ _
  | false =>
    rw [entryWith_of_not_isAbsolute he, result_specifierWith_eq_error_iff] at hraised
    obtain ⟨f, -, rfl⟩ := hraised
    unfold importReport
    split
    · exact load_or_fault_of_report running _ _
    · exact .inr ⟨f, rfl⟩

/-- A failure of loading is raised, be it by code that raises one itself. -/
def RefusesToLoad : Failure → Prop
  | .load _ _ => True
  | .fault f => f.isLoading = true
  | _ => False

/-- An entry gives a module or a failure of loading, exactly where nothing else is raised. -/
theorem loads_iff_not_escapes (running : Running) (h : Host) (t : ModuleTable) (entry : String) :
    ((∃ m, (entryWith running h t entry).1.result = .ok m) ∨
      Except.Fails RefusesToLoad (entryWith running h t entry).1.result) ↔
      ∀ f, ¬Escapes running h t entry f := by
  have hfault (f : Fault) (hescapes : Escapes running h t entry f) :=
    (result_entryWith_eq_fault_iff hescapes.isLoading).2 hescapes
  constructor
  · rintro (⟨m, hm⟩ | ⟨e, he, hrefuses⟩) f hescapes
    · cases hm.symm.trans (hfault f hescapes)
    · cases he.symm.trans (hfault f hescapes)
      cases hescapes.isLoading.symm.trans hrefuses
  · intro hnone
    cases hresult : (entryWith running h t entry).1.result with
    | ok m => exact .inl ⟨m, rfl⟩
    | error e =>
      refine .inr ⟨e, rfl, ?_⟩
      obtain ⟨text, cause, rfl⟩ | ⟨f, rfl⟩ := load_or_fault_of_entryWith hresult
      · trivial
      · cases hf : f.isLoading with
        | true => exact hf
        | false => exact absurd ((result_entryWith_eq_fault_iff hf).1 hresult) (hnone f)

def librarySite : Host where
  files := ⟨[(["p"], .directory), (["p", "x.so"], .file [])], []⟩
  cwd := ["p"]
  home := ⟨.single, ["home"]⟩
  packages := ⟨.single, ["site"]⟩
  organization := none

/-- A native library is linked before anything is handled, so that faults of importing pass too. -/
example : Escapes (.ofHost librarySite) librarySite .empty "/p/x.so"
    (Running.unlinked ⟨.single, ["p", "x.so"]⟩) := by
  have hpath : Path.ofString "/p/x.so" = ⟨.single, ["p", "x.so"]⟩ := by decide
  obtain ⟨name, hname⟩ := ModuleName.exists_ofPath librarySite (p := ⟨.single, ["p", "x.so"]⟩) rfl
    (by decide)
  have hkind : codeKind? ⟨.single, ["p", "x.so"]⟩ = some .native := by decide
  have hm := Leads.file (p := ⟨.single, ["p", "x.so"]⟩) rfl rfl hkind hname
  rw [← hpath] at hm
  exact .unmade (by decide) hm rfl rfl

def boomCode : List UInt8 := Text.Utf8.ofString "raise RuntimeError('boom')"

def boomRaised : Raised := ⟨.other, "RuntimeError", "boom"⟩

def boomFault : Fault := .raised boomRaised

def boomFile : Path := ⟨.single, ["site", "dark.py"]⟩

def boomSite : Host where
  files := ⟨[(["site"], .directory), (["site", "dark.py"], .file boomCode)], []⟩
  cwd := []
  home := ⟨.single, ["home"]⟩
  packages := ⟨.single, ["site"]⟩
  organization := none

theorem ofBytes_boomCode : ModuleCode.ofBytes boomCode = .raises boomRaised := by decide +kernel

theorem run_boomFile : run boomSite boomFile = .error boomFault := by
  have hread : boomSite.Holds boomFile boomCode := rfl
  rw [run_of_holds hread, ofBytes_boomCode]
  rfl

/-- The code of a package raises a fault, which is passed on as it is. -/
theorem not_loads_boomSite :
    (Load.entry boomSite .empty "dark").1.result = .error (.fault boomFault) ∧
      ¬((∃ m, (Load.entry boomSite .empty "dark").1.result = .ok m) ∨
        Except.Fails RefusesToLoad (Load.entry boomSite .empty "dark").1.result) := by
  have hnames : namesOf "dark" = ["dark"] := by decide +kernel
  have hfound : findIn boomSite boomSite.packages "dark" = some (.code .source boomFile false) :=
    rfl
  have hspoils : Spoils (.ofHost boomSite) boomSite boomSite.packages "dark" "dark" .empty
      boomFault := .raises hfound rfl run_boomFile
  have hraised : (Load.entry boomSite .empty "dark").1.result = .error (.fault boomFault) := by
    rw [entry_eq_entryWith, result_entryWith_eq_fault_iff rfl]
    refine .raised rfl ?_ rfl rfl
    rw [hnames]
    exact raises_singleton_iff.2 ⟨rfl, hspoils⟩
  rw [hraised]
  refine ⟨rfl, ?_⟩
  rintro (⟨m, hm⟩ | ⟨e, he, hrefuses⟩)
  · cases hm
  · cases he
    cases hrefuses

end Entry

end Load

end SiteModules
