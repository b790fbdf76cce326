import SiteModules.Proofs.Load.ImportName
import SiteModules.Proofs.Load.Target

namespace SiteModules

namespace ModuleName

def IsPrivate (name : String) : Prop := privateStart.toList <+: name.toList

theorem hexDigit_ne_dot : ∀ n < 16, Text.hexDigit n ≠ '.' := by decide

theorem dot_notMem_hex (width n : Nat) : '.' ∉ Text.hex width n := by
  induction width generalizing n with
  | zero => exact List.not_mem_nil
  | succ width ih =>
    rw [Text.hex, List.mem_append, List.mem_singleton, not_or]
    exact ⟨ih (n / 16), Ne.symm (hexDigit_ne_dot _ (Nat.mod_lt n (by decide)))⟩

theorem of_ofPath {h : Host} {p : Path} {name : String} (hname : ofPath h p = .ok name) :
    IsPrivate name ∧ '.' ∉ name.toList := by
  unfold ofPath at hname
  dsimp only at hname
  split at hname
  · cases hname
  · cases hname
    simp only [IsPrivate, String.toList_append, String.toList_ofList, List.append_assoc,
      List.mem_append, not_or]
    refine ⟨List.prefix_append _ _, by decide, dot_notMem_underscored _, by decide, ?_⟩
    rw [Text.Digest.short, String.toList_ofList]
    exact dot_notMem_hex _ _

end ModuleName

namespace ModuleTable

variable {t : ModuleTable} {name : String}

theorem find?_erase_self (t : ModuleTable) (name : String) : (t.erase name).find? name = none := by
  rw [find?, List.lookup_eq_none_iff]
  intro entry hentry
  simpa [bne_iff_ne, ne_comm] using (List.mem_filter.1 hentry).2

theorem find?_erase_of_ne {other : String} (hne : name ≠ other) (t : ModuleTable) :
    (t.erase other).find? name = t.find? name := by
  obtain ⟨entries⟩ := t
  simp only [find?, erase]
  induction entries with
  | nil => rfl
  | cons first rest ih =>
    obtain ⟨n, m⟩ := first
    by_cases hn : n = other
    · have hmiss : (name == n) = false := by simpa [hn] using hne
      rw [List.lookup_cons, hmiss, List.filter_cons_of_neg (by simpa using hn), ih]
    · rw [List.filter_cons_of_pos (by simpa using hn), List.lookup_cons, List.lookup_cons, ih]

theorem find?_insert_of_ne {m : Loaded} (hne : name ≠ m.name) (t : ModuleTable) :
    (t.insert m).find? name = t.find? name := by
  have hmiss : (name == m.name) = false := by simpa using hne
  rw [← find?_erase_of_ne hne t]
  simp [find?, insert, List.lookup_cons, hmiss]

/-- The modules have been made before, so that the next one is none of them. -/
def Numbered (t : ModuleTable) : Prop := ∀ name m, t.find? name = some m → m.serial < t.fresh

theorem numbered_empty : empty.Numbered := by
  intro name m hm
  cases hm

theorem Numbered.erase (ht : t.Numbered) (name : String) : (t.erase name).Numbered := by
  intro other m hm
  by_cases hother : other = name
  · rw [hother, find?_erase_self] at hm
    cases hm
  · rw [find?_erase_of_ne hother] at hm
    exact ht other m hm

theorem Numbered.insert (ht : t.Numbered) (m : Loaded) : (t.insert m).Numbered := by
  intro other m' hm'
  by_cases hother : other = m.name
  · rw [hother, find?_insert_self] at hm'
    cases hm'
    exact Nat.lt_of_lt_of_le (Nat.lt_succ_self _) (Nat.le_max_right _ _)
  · rw [find?_insert_of_ne hother] at hm'
    exact Nat.lt_of_lt_of_le (ht other m' hm') (Nat.le_max_left _ _)

theorem Numbered.find?_ne (ht : t.Numbered) {m : Loaded} (hm : m.serial = t.fresh)
    (name : String) : t.find? name ≠ some m := by
  intro hheld
  exact absurd (ht name m hheld) (by simp [hm])

end ModuleTable

namespace Load

variable {h : Host} {t : ModuleTable} {e name : String} {m : Loaded}

/-- The entry leads to code that is run under the name; none of a native library is. -/
def RunsUnder (h : Host) (e name : String) : Prop :=
  ∃ found, Leads h (Path.ofString e) found ∧ found.kind ≠ .native ∧ found.name = name

theorem RunsUnder.isPrivate (hruns : RunsUnder h e name) : ModuleName.IsPrivate name := by
  obtain ⟨found, hfound, -, rfl⟩ := hruns
  exact (ModuleName.of_ofPath hfound.ofPath_path).1

theorem entry_cases (he : (Path.ofString e).isAbsolute = true) (h : Host) (t : ModuleTable) :
    ((∀ name, ¬RunsUnder h e name) ∧ (∃ f, (entry h t e).1.result = .error f) ∧
      (entry h t e).2 = t) ∨
    ∃ found, Leads h (Path.ofString e) found ∧ found.kind ≠ .native ∧
      (((∃ f, (entry h t e).1.result = .error f) ∧
        (entry h t e).2 = (t.insert (found.loaded t.fresh)).erase found.name) ∨
      ((entry h t e).1.result = .ok (found.loaded t.fresh) ∧
        (entry h t e).2 = t.insert (found.loaded t.fresh))) := by
  rw [entry_of_isAbsolute he]
  by_cases hnone : ∀ found, ¬Leads h (Path.ofString e) found
  · refine .inl ⟨?_, path_of_not_leads hnone t⟩
    rintro name ⟨found, hfound, -⟩
    exact hnone found hfound
  · obtain ⟨found, hfound⟩ := Classical.not_forall.1 hnone
    have hfound := Classical.not_not.1 hfound
    -- A native library is refused before a name is taken.
    by_cases hnative : found.kind = .native
    · refine .inl ⟨?_, path_of_native hfound hnative t⟩
      rintro name ⟨found', hfound', hkind, -⟩
      exact hkind (hfound'.unique hfound ▸ hnative)
    · refine .inr ⟨found, hfound, hnative, ?_⟩
      cases hrun : found.run h with
      | error f =>
        obtain ⟨hresult, htable⟩ := path_of_run_error hfound hnative hrun t
        exact .inl ⟨⟨_, hresult⟩, htable⟩
      | ok u => exact .inr (path_of_run_ok hfound hnative hrun t)

theorem find?_entry_of_runsUnder (he : (Path.ofString e).isAbsolute = true)
    (hruns : RunsUnder h e name) (t : ModuleTable) :
    (entry h t e).2.find? name = (entry h t e).1.result.toOption := by
  obtain ⟨found, hfound, hkind, rfl⟩ := hruns
  obtain ⟨hnone, -⟩ | ⟨found', hfound', -, ⟨⟨f, hresult⟩, htable⟩ | ⟨hresult, htable⟩⟩ :=
    entry_cases he h t
  · exact absurd ⟨found, hfound, hkind, rfl⟩ (hnone found.name)
  · rw [hresult, htable, hfound.unique hfound', ModuleTable.find?_erase_self]
    rfl
  · rw [hresult, htable, hfound.unique hfound']
    exact ModuleTable.find?_insert_self t (found'.loaded t.fresh)

theorem find?_entry_of_not_runsUnder (he : (Path.ofString e).isAbsolute = true)
    (hruns : ¬RunsUnder h e name) (t : ModuleTable) :
    (entry h t e).2.find? name = t.find? name := by
  obtain ⟨-, -, htable⟩ | ⟨found, hfound, hkind, hend⟩ := entry_cases he h t
  · rw [htable]
  · have hne : name ≠ found.name := by
      rintro rfl
      exact hruns ⟨found, hfound, hkind, rfl⟩
    have hinsert := ModuleTable.find?_insert_of_ne (m := found.loaded t.fresh) hne t
    obtain ⟨-, htable⟩ | ⟨-, htable⟩ := hend
    · rw [htable, ModuleTable.find?_erase_of_ne hne, hinsert]
    · rw [htable, hinsert]

theorem find?_entry_eq_some_iff (he : (Path.ofString e).isAbsolute = true) (t : ModuleTable) :
    (entry h t e).2.find? name = some m ↔
      (RunsUnder h e name ∧ (entry h t e).1.result = .ok m) ∨
        (¬RunsUnder h e name ∧ t.find? name = some m) := by
  by_cases hruns : RunsUnder h e name
  · rw [find?_entry_of_runsUnder he hruns]
    cases (entry h t e).1.result <;> simp [hruns, Except.toOption]
  · rw [find?_entry_of_not_runsUnder he hruns]
    simp [hruns]

def after (h : Host) (t : ModuleTable) (es : List String) : ModuleTable :=
  es.foldl (fun t e => (entry h t e).2) t

/-- The last of the entries whose code is run under the name is loaded, and gives the module. -/
def LastGives (h : Host) (t : ModuleTable) (es : List String) (name : String) (m : Loaded) : Prop :=
  ∃ before e later, es = before ++ e :: later ∧ RunsUnder h e name ∧
    (entry h (after h t before) e).1.result = .ok m ∧ ∀ e' ∈ later, ¬RunsUnder h e' name

theorem lastGives_cons_iff {es : List String} : LastGives h t (e :: es) name m ↔
    LastGives h (entry h t e).2 es name m ∨
      (RunsUnder h e name ∧ (entry h t e).1.result = .ok m ∧ ∀ e' ∈ es, ¬RunsUnder h e' name) := by
  constructor
  · rintro ⟨before, e', later, hes, hruns, hresult, hlater⟩
    cases before with
    | nil =>
      cases hes
      exact .inr ⟨hruns, hresult, hlater⟩
    | cons first before =>
      cases hes
      exact .inl ⟨before, e', later, rfl, hruns, hresult, hlater⟩
  · rintro (⟨before, e', later, rfl, hruns, hresult, hlater⟩ | ⟨hruns, hresult, hlater⟩)
    · exact ⟨e :: before, e', later, rfl, hruns, hresult, hlater⟩
    · exact ⟨[], e, es, rfl, hruns, hresult, hlater⟩

theorem find?_after_eq_some_iff {es : List String}
    (hes : ∀ e ∈ es, (Path.ofString e).isAbsolute = true) (t : ModuleTable) :
    (after h t es).find? name = some m ↔
      LastGives h t es name m ∨ (t.find? name = some m ∧ ∀ e ∈ es, ¬RunsUnder h e name) := by
  induction es generalizing t with
  | nil => simp [after, LastGives]
  | cons e es ih =>
    obtain ⟨he, hes⟩ := List.forall_mem_cons.1 hes
    have hstep : after h t (e :: es) = after h (entry h t e).2 es := rfl
    rw [hstep, ih hes, find?_entry_eq_some_iff he, lastGives_cons_iff, List.forall_mem_cons]
    -- The first load decides only if none of the later ones runs code under the name.
    by_cases hruns : RunsUnder h e name
    · simp [hruns]
    · simp [hruns]

theorem numbered_entry (he : (Path.ofString e).isAbsolute = true) (ht : t.Numbered) :
    (entry h t e).2.Numbered := by
  obtain ⟨-, -, htable⟩ | ⟨found, -, -, ⟨-, htable⟩ | ⟨-, htable⟩⟩ := entry_cases he h t
  · rwa [htable]
  · rw [htable]
    exact (ht.insert _).erase _
  · rw [htable]
    exact ht.insert _

theorem numbered_after {es : List String} (hes : ∀ e ∈ es, (Path.ofString e).isAbsolute = true)
    (ht : t.Numbered) : (after h t es).Numbered := by
  -- Along the loads, for all tables: each load leaves a table that is numbered.
  induction es generalizing t with
  | nil => exact ht
  | cons e es ih =>
    obtain ⟨he, hes⟩ := List.forall_mem_cons.1 hes
    exact ih hes (numbered_entry he ht)

/-- What one load of an entry does to a table. -/
structure Tidy (h : Host) (t : ModuleTable) (e : String) : Prop where
  returned : ∀ m, (entry h t e).1.result = .ok m → (entry h t e).2.find? m.name = some m ∧
    ∃ found, Leads h (Path.ofString e) found ∧ ModuleName.ofPath h found.path = .ok m.name
  refused : (∀ name, ¬RunsUnder h e name) →
    (∃ f, (entry h t e).1.result = .error f) ∧ (entry h t e).2 = t
  others : ∀ name, ¬ModuleName.IsPrivate name → (entry h t e).2.find? name = t.find? name

theorem tidy (he : (Path.ofString e).isAbsolute = true) (h : Host) (t : ModuleTable) :
    Tidy h t e := by
  refine ⟨?_, ?_, ?_⟩
  · intro m hm
    rw [entry_of_isAbsolute he, result_path_eq_ok_iff] at hm
    obtain ⟨found, hfound, hkind, hrun, rfl⟩ := hm
    refine ⟨?_, found, hfound, hfound.ofPath_path⟩
    rw [entry_of_isAbsolute he, (path_of_run_ok hfound hkind hrun t).2]
    exact ModuleTable.find?_insert_self t (found.loaded t.fresh)
  · intro hnone
    obtain ⟨-, hrefused⟩ | ⟨found, hfound, hkind, -⟩ := entry_cases he h t
    · exact hrefused
    · exact absurd ⟨found, hfound, hkind, rfl⟩ (hnone found.name)
  · intro name hname
    exact find?_entry_of_not_runsUnder he (fun hruns => hname hruns.isPrivate) t

/-- What a run of loads leaves in a table. -/
structure Accounted (h : Host) (t : ModuleTable) (es : List String) : Prop where
  registered : ∀ name m, ModuleName.IsPrivate name →
    ((after h t es).find? name = some m ↔ LastGives h t es name m)
  pointless : ∀ name m, ModuleName.IsPrivate name → (after h t es).find? name = some m →
    '.' ∉ name.toList
  steps : ∀ before e later, es = before ++ e :: later → Tidy h (after h t before) e

theorem accounted_of_isAbsolute {t : ModuleTable} {es : List String}
    (ht : ∀ name, ModuleName.IsPrivate name → t.find? name = none)
    (hes : ∀ e ∈ es, (Path.ofString e).isAbsolute = true) (h : Host) : Accounted h t es := by
  have hregistered : ∀ name m, ModuleName.IsPrivate name →
      ((after h t es).find? name = some m ↔ LastGives h t es name m) := by
    intro name m hname
    rw [find?_after_eq_some_iff hes, ht name hname]
    simp
  refine ⟨hregistered, ?_, ?_⟩
  · intro name m hname hm
    obtain ⟨-, e, -, -, ⟨found, hfound, -, rfl⟩, -⟩ := (hregistered name m hname).1 hm
    exact (ModuleName.of_ofPath hfound.ofPath_path).2
  · rintro before e later rfl
    exact tidy (hes e (by simp)) h (after h t before)

def pluginSite : Host where
  files := ⟨[(["p"], .directory), (["p", "toc.py"], .file []), (["p", "night"], .directory),
    (["p", "night", "__init__.py"], .file []),
    (["p", "bad.py"], .file (Text.Utf8.ofString "raise RuntimeError('boom')"))], []⟩
  cwd := ["p"]
  home := ⟨.single, ["home"]⟩
  packages := ⟨.single, ["site"]⟩
  organization := none

def pluginEntries : List String := ["/p/toc", "/p/night", "/p/bad.py", "/p/gone", "/p/toc.py"]

theorem accounted_pluginEntries :
    (∀ name, ModuleName.IsPrivate name → ModuleTable.empty.find? name = none) ∧
    (∀ e ∈ pluginEntries, (Path.ofString e).isAbsolute = true) ∧
    Accounted pluginSite .empty pluginEntries ∧
    (after pluginSite .empty pluginEntries).entries =
      [("_docsite_loaded_toc_09f17aff",
          ⟨"_docsite_loaded_toc_09f17aff", some "/p/toc.py", false, 3⟩),
        ("_docsite_loaded_night_7382a61c",
          ⟨"_docsite_loaded_night_7382a61c", some "/p/night/__init__.py", true, 1⟩)] := by
  have hempty : ∀ name, ModuleName.IsPrivate name → ModuleTable.empty.find? name = none :=
    fun _ _ => rfl
  have habsolute : ∀ e ∈ pluginEntries, (Path.ofString e).isAbsolute = true := by decide
  exact ⟨hempty, habsolute, accounted_of_isAbsolute hempty habsolute pluginSite, by decide +kernel⟩

end Load

end SiteModules
