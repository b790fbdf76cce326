import SiteModules.Locator

namespace SiteModules

def First {α : Type} (before : α → α → Prop) (P : α → Prop) (x : α) : Prop :=
  P x ∧ ∀ y, P y → y = x ∨ before x y

namespace Defaults

def Form (name : String) (dir p : Path) : Prop := p = dir.child name ∨ p = dir.child (name ++ ".py")

theorem findIn_eq (h : Host) (name : String) (dir : Path) :
    findIn h name dir = h.isDirectory (dir.child name) >>= fun b =>
      if b then pure (some (dir.child name))
      else h.isFile (dir.child (name ++ ".py")) >>= fun b =>
        if b then pure (some (dir.child (name ++ ".py"))) else pure none := rfl

theorem findAmong_cons (h : Host) (name : String) (dir : Path) (rest : List Path) :
    findAmong h name (dir :: rest) = findIn h name dir >>= fun found =>
      match found with
      | some p => pure (some p)
      | none => findAmong h name rest := rfl

theorem form_of_looked {h : Host} {name : String} {dir p : Path}
    (hp : .looked p ∈ (findIn h name dir).events) : Form name dir p := by
  rw [findIn_eq, Traced.mem_events_bind] at hp
  obtain hp | ⟨b, -, hp⟩ := hp
  · exact .inl (by simpa [Host.isDirectory, Host.ask] using hp)
  · cases b with
    | true => simp at hp
    | false =>
      simp only [Bool.false_eq_true, if_false, Traced.mem_events_bind] at hp
      obtain hp | ⟨b, -, hp⟩ := hp
      · exact .inr (by simpa [Host.isFile, Host.ask] using hp)
      · cases b <;> simp at hp

theorem form_of_findIn {h : Host} {name : String} {dir p : Path}
    (hp : (findIn h name dir).result = .ok (some p)) : Form name dir p := by
  rw [findIn_eq, Traced.result_bind_eq_ok_iff] at hp
  obtain ⟨b, -, hp⟩ := hp
  cases b with
  | true => exact .inl (by simpa using hp.symm)
  | false =>
    simp only [Bool.false_eq_true, if_false, Traced.result_bind_eq_ok_iff] at hp
    obtain ⟨b, -, hp⟩ := hp
    cases b with
    | true => exact .inr (by simpa using hp.symm)
    | false => simp at hp

theorem exists_form_of_looked {h : Host} {name : String} {dirs : List Path} {p : Path}
    (hp : .looked p ∈ (findAmong h name dirs).events) : ∃ dir ∈ dirs, Form name dir p := by
  induction dirs with
  | nil => simp [findAmong] at hp
  | cons dir rest ih =>
    rw [findAmong_cons, Traced.mem_events_bind] at hp
    obtain hp | ⟨found, -, hp⟩ := hp
    · exact ⟨dir, List.mem_cons_self, form_of_looked hp⟩
    · cases found with
      | some q => simp at hp
      | none =>
        obtain ⟨dir', hdir', hform⟩ := ih hp
        exact ⟨dir', List.mem_cons_of_mem _ hdir', hform⟩

theorem exists_form_of_findAmong {h : Host} {name : String} {dirs : List Path} {p : Path}
    (hp : (findAmong h name dirs).result = .ok (some p)) : ∃ dir ∈ dirs, Form name dir p := by
  induction dirs with
  | nil => simp at hp
  | cons dir rest ih =>
    rw [findAmong_cons, Traced.result_bind_eq_ok_iff] at hp
    obtain ⟨found, hfound, hp⟩ := hp
    cases found with
    | some q =>
      cases hp
      exact ⟨dir, List.mem_cons_self, form_of_findIn hfound⟩
    | none =>
      obtain ⟨dir', hdir', hform⟩ := ih hp
      exact ⟨dir', List.mem_cons_of_mem _ hdir', hform⟩

inductive Slot
  | directory (i : Nat)
  | file (i : Nat)
  deriving DecidableEq, Repr

namespace Slot

def turn : Slot → Nat
  | .directory i => 2 * i
  | .file i => 2 * i + 1

def Before (s s' : Slot) : Prop := s.turn < s'.turn

def path? (name : String) (dirs : List Path) : Slot → Option Path
  | .directory i => dirs[i]?.map fun dir => dir.child name
  | .file i => dirs[i]?.map fun dir => dir.child (name ++ ".py")

def Filled (h : Host) (name : String) (dirs : List Path) : Slot → Prop
  | .directory i => ∃ dir, dirs[i]? = some dir ∧
      (h.isDirectory (dir.child name)).result = .ok true
  | .file i => ∃ dir, dirs[i]? = some dir ∧
      (h.isFile (dir.child (name ++ ".py"))).result = .ok true

def next : Slot → Slot
  | .directory i => .directory (i + 1)
  | .file i => .file (i + 1)

theorem turn_next (s : Slot) : s.next.turn = s.turn + 2 := by
  cases s <;> simp only [next, turn] <;> omega

@[simp] theorem path?_next (name : String) (dir : Path) (dirs : List Path) (s : Slot) :
    s.next.path? name (dir :: dirs) = s.path? name dirs := by
  cases s <;> simp [next, path?]

@[simp] theorem filled_next (h : Host) (name : String) (dir : Path) (dirs : List Path)
    (s : Slot) : s.next.Filled h name (dir :: dirs) ↔ s.Filled h name dirs := by
  cases s <;> simp [next, Filled]

theorem not_filled_nil (h : Host) (name : String) (s : Slot) : ¬ s.Filled h name [] := by
  cases s <;> simp [Filled]

theorem filled_directory_zero (h : Host) (name : String) (dir : Path) (dirs : List Path) :
    (directory 0).Filled h name (dir :: dirs) ↔
      (h.isDirectory (dir.child name)).result = .ok true := by simp [Filled]

theorem filled_file_zero (h : Host) (name : String) (dir : Path) (dirs : List Path) :
    (file 0).Filled h name (dir :: dirs) ↔
      (h.isFile (dir.child (name ++ ".py"))).result = .ok true := by simp [Filled]

theorem cases_next (s : Slot) : s = .directory 0 ∨ s = .file 0 ∨ ∃ s', s = next s' := by
  cases s with
  | directory i =>
    cases i with
    | zero => exact .inl rfl
    | succ i => exact .inr (.inr ⟨.directory i, rfl⟩)
  | file i =>
    cases i with
    | zero => exact .inr (.inl rfl)
    | succ i => exact .inr (.inr ⟨.file i, rfl⟩)

variable {P : Slot → Prop}

theorem first_directory (hdir : P (.directory 0)) : First Before P (.directory 0) := by
  refine ⟨hdir, ?_⟩
  intro s _
  obtain rfl | rfl | ⟨s, rfl⟩ := s.cases_next
  · exact .inl rfl
  · exact .inr Nat.zero_lt_one
  · refine .inr ?_
    rw [Before, turn_next]
    exact Nat.zero_lt_succ _

theorem first_file (hdir : ¬ P (.directory 0)) (hfile : P (.file 0)) :
    First Before P (.file 0) := by
  refine ⟨hfile, ?_⟩
  intro s hs
  obtain rfl | rfl | ⟨s, rfl⟩ := s.cases_next
  · exact absurd hs hdir
  · exact .inl rfl
  · refine .inr ?_
    rw [Before, turn_next]
    exact Nat.succ_lt_succ (Nat.zero_lt_succ _)

theorem first_next {s : Slot} (hdir : ¬ P (.directory 0)) (hfile : ¬ P (.file 0))
    (hs : First Before (fun s => P s.next) s) : First Before P s.next := by
  refine ⟨hs.1, ?_⟩
  intro s' hs'
  obtain rfl | rfl | ⟨s', rfl⟩ := s'.cases_next
  · exact absurd hs' hdir
  · exact absurd hs' hfile
  · obtain rfl | hbefore := hs.2 s' hs'
    · exact .inl rfl
    · refine .inr ?_
      rw [Before, turn_next, turn_next]
      exact Nat.add_lt_add_right hbefore 2

theorem none_of_next (hdir : ¬ P (.directory 0)) (hfile : ¬ P (.file 0))
    (hnext : ∀ s, ¬ P (next s)) (s : Slot) : ¬ P s := by
  obtain rfl | rfl | ⟨s, rfl⟩ := s.cases_next
  · exact hdir
  · exact hfile
  · exact hnext s

end Slot

theorem result_findIn {h : Host} {name : String} {dir : Path} {isDir isFile : Bool}
    (hdir : (h.isDirectory (dir.child name)).result = .ok isDir)
    (hfile : (h.isFile (dir.child (name ++ ".py"))).result = .ok isFile) :
    (findIn h name dir).result = .ok (if isDir then some (dir.child name)
      else if isFile then some (dir.child (name ++ ".py")) else none) := by
  rw [findIn_eq, Traced.result_bind_of_ok hdir]
  cases isDir with
  | true => rfl
  | false =>
    simp only [Bool.false_eq_true, if_false]
    rw [Traced.result_bind_of_ok hfile]
    cases isFile <;> rfl

def Answered (h : Host) (name : String) (dirs : List Path) : Prop :=
  ∀ dir ∈ dirs, (∃ b, (h.isDirectory (dir.child name)).result = .ok b) ∧
    ∃ b, (h.isFile (dir.child (name ++ ".py"))).result = .ok b

theorem findAmong_first {h : Host} {name : String} {dirs : List Path}
    (hdirs : Answered h name dirs) :
    (∃ s p, First Slot.Before (Slot.Filled h name dirs) s ∧ s.path? name dirs = some p ∧
      (findAmong h name dirs).result = .ok (some p)) ∨
    ((∀ s, ¬ Slot.Filled h name dirs s) ∧ (findAmong h name dirs).result = .ok none) := by
  -- On the search paths: a slot of the first one comes before all slots of the others.
  induction dirs with
  | nil => exact .inr ⟨Slot.not_filled_nil h name, rfl⟩
  | cons dir rest ih =>
    obtain ⟨⟨isDir, hisDir⟩, isFile, hisFile⟩ := hdirs dir List.mem_cons_self
    have hdir := Slot.filled_directory_zero h name dir rest
    have hfile := Slot.filled_file_zero h name dir rest
    rw [hisDir] at hdir
    rw [hisFile] at hfile
    rw [findAmong_cons, Traced.result_bind_of_ok (result_findIn hisDir hisFile)]
    match isDir, isFile with
    | true, _ => exact .inl ⟨_, dir.child name, Slot.first_directory (hdir.2 rfl), rfl, rfl⟩
    | false, true =>
      exact .inl ⟨_, dir.child (name ++ ".py"),
        Slot.first_file (by simp [hdir]) (hfile.2 rfl), rfl, rfl⟩
    | false, false =>
      have hrest : Answered h name rest := fun dir' hmem => hdirs dir' (List.mem_cons_of_mem _ hmem)
      obtain ⟨s, p, hs, hp, hresult⟩ | ⟨hnone, hresult⟩ := ih hrest
      · refine .inl ⟨s.next, p, ?_, by simpa using hp, hresult⟩
        exact Slot.first_next (by simp [hdir]) (by simp [hfile]) (by simpa using hs)
      · refine .inr ⟨?_, hresult⟩
        exact Slot.none_of_next (by simp [hdir]) (by simp [hfile]) (by simpa using hnone)

end Defaults

end SiteModules
