import SiteModules.Locator
import SiteModules.Proofs.Outcome

/-!
Failures that a search for a module does not foresee. Failures of resolution are foreseen, and so
are faults of the file system, which become such failures; questions about paths lead to no other.
-/

namespace SiteModules

def Fault.Unforeseen (f : Fault) : Prop := f.isSystem = false

def Failure.Unforeseen (e : Failure) : Prop := e.isResolution = false ∧ e.system? = none

@[simp] theorem Failure.unforeseen_fault_iff {f : Fault} :
    (Failure.fault f).Unforeseen ↔ f.Unforeseen := by
  simp [Failure.Unforeseen, Fault.Unforeseen, Failure.isResolution, Failure.system?]

theorem FileFault.unforeseen_iff {f : FileFault} : (Fault.file f).Unforeseen ↔ f = .holdsNul := by
  cases f <;> simp [Fault.Unforeseen, Fault.isSystem]

namespace Traced

variable {α β : Type} {t : Traced α}

def Breaks (t : Traced α) : Prop := Except.Fails Failure.Unforeseen t.result

@[simp] theorem not_breaks_pure (x : α) : ¬(pure x : Traced α).Breaks := Except.not_fails_ok x

@[simp] theorem breaks_ofFault_iff {x : Except Fault α} :
    (ofFault x).Breaks ↔ Except.Fails Fault.Unforeseen x := by
  simp only [Breaks, result_ofFault, Except.fails_mapError_iff, Failure.unforeseen_fault_iff]

theorem breaks_bind_iff {f : α → Traced β} :
    (t >>= f).Breaks ↔ t.Breaks ∨ ∃ x, t.result = .ok x ∧ (f x).Breaks := by
  rw [Breaks, result_bind]
  exact Except.fails_bind_iff

theorem breaks_bind_of_ok {x : α} (h : t.result = .ok x) (f : α → Traced β) :
    (t >>= f).Breaks ↔ (f x).Breaks := by
  rw [Breaks, result_bind_of_ok h, Breaks]

theorem breaks_bind_iff_of_not_breaks {f : α → Traced β} (hf : ∀ x, ¬(f x).Breaks) :
    (t >>= f).Breaks ↔ t.Breaks := by
  rw [Breaks, result_bind]
  exact Except.fails_bind_iff_of_not_fails hf

theorem breaks_bind_pure_iff {f : α → β} :
    (t >>= fun x => pure (f x)).Breaks ↔ t.Breaks :=
  breaks_bind_iff_of_not_breaks fun x => not_breaks_pure (f x)

theorem not_breaks_bind {f : α → Traced β} (ht : ¬t.Breaks) (hf : ∀ x, ¬(f x).Breaks) :
    ¬(t >>= f).Breaks := by
  rw [breaks_bind_iff_of_not_breaks hf]
  exact ht

end Traced

theorem not_breaks_debug {α : Type} (logger text : String) (x : α) :
    ¬(debug logger text >>= fun _ => (pure x : Traced α)).Breaks :=
  Except.not_fails_ok x

namespace FileTree

/-- A question is left open where a name or a path is too long, or where a directory is barred. -/
theorem asks_eq_error_iff {t : FileTree} {cwd : Place} {p : Path} {yes : Node → Bool}
    {f : FileFault} :
    t.asks cwd p yes = .error f ↔ (f = .nameTooLong ∨ f = .denied) ∧ t.stat cwd p = .error f := by
  unfold asks
  cases t.stat cwd p with
  | ok n => simp
  | error g => cases g <;> cases f <;> simp

theorem asks_eq_true_iff {t : FileTree} {cwd : Place} {p : Path} {yes : Node → Bool} :
    t.asks cwd p yes = .ok true ↔ ∃ n, t.stat cwd p = .ok n ∧ yes n = true := by
  unfold asks
  cases t.stat cwd p with
  | ok n => simp
  | error f => cases f <;> simp

theorem stat_eq_ok_iff {t : FileTree} {cwd : Place} {p : Path} {n : Node} :
    t.stat cwd p = .ok n ↔ ∃ place, t.locate cwd p = .ok place ∧ t.node? place = some n := by
  rw [stat, Except.bind_eq_ok_iff]
  refine exists_congr fun place => and_congr_right fun _ => ?_
  cases t.node? place <;> simp

theorem read_eq_ok_iff {t : FileTree} {cwd : Place} {p : Path} {bytes : List UInt8} :
    t.read cwd p = .ok bytes ↔ ∃ place, t.locate cwd p = .ok place ∧
      t.node? place = some (.file bytes) ∧ t.allows .read place = true := by
  rw [read, Except.bind_eq_ok_iff]
  refine exists_congr fun place => and_congr_right fun _ => ?_
  cases t.node? place with
  | none => simp
  | some n => cases n <;> cases t.allows .read place <;> simp

theorem read_of_stat {t : FileTree} {cwd : Place} {p : Path} {bytes : List UInt8}
    (hstat : t.stat cwd p = .ok (.file bytes)) :
    t.read cwd p = .ok bytes ∨ t.read cwd p = .error .denied := by
  obtain ⟨place, hplace, hnode⟩ := stat_eq_ok_iff.1 hstat
  cases hallowed : t.allows .read place with
  | true => exact .inl (read_eq_ok_iff.2 ⟨place, hplace, hnode, hallowed⟩)
  | false =>
    right
    simp [read, hplace, hnode, hallowed, bind, Except.bind]

theorem asks_ne_holdsNul (t : FileTree) (cwd : Place) (p : Path) (yes : Node → Bool) :
    t.asks cwd p yes ≠ .error .holdsNul := by
  simp [asks_eq_error_iff]

end FileTree

namespace Host

theorem not_breaks_ask (h : Host) (p : Path) {question : FileTree → Place → Path → _}
    (hquestion : question h.files h.cwd p ≠ .error .holdsNul) : ¬(h.ask p question).Breaks := by
  rintro ⟨e, he, hunforeseen⟩
  change (question h.files h.cwd p).mapError _ = _ at he
  cases hanswer : question h.files h.cwd p with
  | ok answer =>
    rw [hanswer] at he
    cases he
  | error f =>
    rw [hanswer] at he
    cases he
    rw [Failure.unforeseen_fault_iff, FileFault.unforeseen_iff] at hunforeseen
    exact hquestion (hunforeseen ▸ hanswer)

@[simp] theorem not_breaks_isDirectory (h : Host) (p : Path) : ¬(h.isDirectory p).Breaks :=
  h.not_breaks_ask p (FileTree.asks_ne_holdsNul _ _ _ _)

@[simp] theorem not_breaks_isFile (h : Host) (p : Path) : ¬(h.isFile p).Breaks :=
  h.not_breaks_ask p (FileTree.asks_ne_holdsNul _ _ _ _)

@[simp] theorem not_breaks_exists? (h : Host) (p : Path) : ¬(h.exists? p).Breaks :=
  h.not_breaks_ask p (FileTree.asks_ne_holdsNul _ _ _ _)

/--
The system does not say what stands at a path: the path or a name that it comes to is too long, or
the path leads through a directory that is barred.
-/
def Withholds (h : Host) (p : Path) (f : FileFault) : Prop :=
  (f = .nameTooLong ∨ f = .denied) ∧ h.files.stat h.cwd p = .error f

theorem result_ask_eq_error_iff {h : Host} {p : Path} {yes : Node → Bool} {e : Failure} :
    (h.ask p fun t cwd p => t.asks cwd p yes).result = .error e ↔
      ∃ f, h.Withholds p f ∧ .fault (.file f) = e := by
  change (h.files.asks h.cwd p yes).mapError _ = _ ↔ _
  simp only [Except.mapError_eq_error_iff, FileTree.asks_eq_error_iff, Withholds]

theorem result_ask_eq_true_iff {h : Host} {p : Path} {yes : Node → Bool} :
    (h.ask p fun t cwd p => t.asks cwd p yes).result = .ok true ↔
      ∃ n, h.files.stat h.cwd p = .ok n ∧ yes n = true := by
  change (h.files.asks h.cwd p yes).mapError _ = _ ↔ _
  rw [Except.mapError_eq_ok_iff, FileTree.asks_eq_true_iff]

theorem result_ask_eq_false {h : Host} {p : Path} {yes : Node → Bool}
    (htold : ∀ f, ¬h.Withholds p f)
    (hno : (h.ask p fun t cwd p => t.asks cwd p yes).result ≠ .ok true) :
    (h.ask p fun t cwd p => t.asks cwd p yes).result = .ok false := by
  cases hanswer : (h.ask p fun t cwd p => t.asks cwd p yes).result with
  | error e =>
    obtain ⟨f, hwithholds, -⟩ := result_ask_eq_error_iff.1 hanswer
    exact absurd hwithholds (htold f)
  | ok answer =>
    cases answer with
    | true => exact absurd hanswer hno
    | false => rfl

theorem result_isDirectory_eq_true_iff {h : Host} {p : Path} :
    (h.isDirectory p).result = .ok true ↔ h.files.stat h.cwd p = .ok .directory := by
  rw [isDirectory]
  unfold FileTree.isDirectory
  rw [result_ask_eq_true_iff]
  constructor
  · intro hstat
    obtain ⟨n, hstat, hn⟩ := hstat
    cases n with
    | directory => exact hstat
    | file content => cases hn
  · intro hstat
    exact ⟨_, hstat, rfl⟩

theorem result_isDirectory_eq_error_iff {h : Host} {p : Path} {e : Failure} :
    (h.isDirectory p).result = .error e ↔ ∃ f, h.Withholds p f ∧ .fault (.file f) = e :=
  result_ask_eq_error_iff

theorem result_isFile_eq_error_iff {h : Host} {p : Path} {e : Failure} :
    (h.isFile p).result = .error e ↔ ∃ f, h.Withholds p f ∧ .fault (.file f) = e :=
  result_ask_eq_error_iff

theorem result_isFile_eq_true_iff {h : Host} {p : Path} :
    (h.isFile p).result = .ok true ↔ ∃ bytes, h.files.stat h.cwd p = .ok (.file bytes) := by
  rw [isFile]
  unfold FileTree.isFile
  rw [result_ask_eq_true_iff]
  constructor
  · intro hstat
    obtain ⟨n, hstat, hn⟩ := hstat
    cases n with
    | directory => cases hn
    | file content => exact ⟨content, hstat⟩
  · rintro ⟨bytes, hstat⟩
    exact ⟨_, hstat, rfl⟩

def Holds (h : Host) (p : Path) (bytes : List UInt8) : Prop := h.files.read h.cwd p = .ok bytes

theorem Holds.isFile {h : Host} {p : Path} {bytes : List UInt8} (hbytes : h.Holds p bytes) :
    (h.isFile p).result = .ok true := by
  obtain ⟨place, hplace, hnode, -⟩ := FileTree.read_eq_ok_iff.1 hbytes
  exact result_isFile_eq_true_iff.2 ⟨bytes, FileTree.stat_eq_ok_iff.2 ⟨place, hplace, hnode⟩⟩

theorem holds_or_denied {h : Host} {p : Path} (hfile : (h.isFile p).result = .ok true) :
    (∃ bytes, h.Holds p bytes) ∨ h.files.read h.cwd p = .error .denied := by
  obtain ⟨bytes, hstat⟩ := result_isFile_eq_true_iff.1 hfile
  exact (FileTree.read_of_stat hstat).imp_left fun hbytes => ⟨bytes, hbytes⟩

theorem result_exists?_eq_true_iff {h : Host} {p : Path} : (h.exists? p).result = .ok true ↔
    (h.isDirectory p).result = .ok true ∨ (h.isFile p).result = .ok true := by
  simp only [exists?, isDirectory, isFile, ask, Except.mapError_eq_ok_iff, FileTree.exists?,
    FileTree.isDirectory, FileTree.isFile, FileTree.asks]
  cases h.files.stat h.cwd p with
  | error f => cases f <;> simp
  | ok n => cases n <;> simp

theorem notMem_chars_of_asks {h : Host} {p : Path} {yes : Node → Bool}
    (hyes : h.files.asks h.cwd p yes = .ok true) : '\x00' ∉ p.chars := by
  intro hnul
  obtain ⟨n, hstat, -⟩ := FileTree.asks_eq_true_iff.1 hyes
  simp [FileTree.stat, FileTree.locate, FileTree.checkPath, hnul, bind, Except.bind] at hstat

theorem notMem_chars_of_isDirectory {h : Host} {p : Path}
    (hdir : (h.isDirectory p).result = .ok true) : '\x00' ∉ p.chars :=
  notMem_chars_of_asks (Except.mapError_eq_ok_iff.1 hdir)

theorem notMem_chars_of_isFile {h : Host} {p : Path}
    (hfile : (h.isFile p).result = .ok true) : '\x00' ∉ p.chars :=
  notMem_chars_of_asks (Except.mapError_eq_ok_iff.1 hfile)

theorem readExact_of_holds {h : Host} {p : Path} {bytes : List UInt8} (hbytes : h.Holds p bytes) :
    h.readExact p = match Text.Utf8.decode bytes with
      | some cs => .ok cs
      | none => .error .notUtf8 := by
  unfold readExact
  rw [hbytes]
  rfl

theorem readText_of_holds {h : Host} {p : Path} {bytes : List UInt8} (hbytes : h.Holds p bytes) :
    h.readText p = match Text.Utf8.decode bytes with
      | some cs => .ok (Text.unixLines cs)
      | none => .error .notUtf8 := by
  unfold readText
  rw [readExact_of_holds hbytes]
  cases Text.Utf8.decode bytes <;> rfl

theorem readText_of_error {h : Host} {p : Path} {f : FileFault}
    (hread : h.files.read h.cwd p = .error f) : h.readText p = .error (.file f) := by
  simp only [readText, readExact, hread]
  rfl

end Host

theorem Defaults.not_breaks_findAmong (h : Host) (name : String) (dirs : List Path) :
    ¬(findAmong h name dirs).Breaks := by
  induction dirs with
  | nil => exact Traced.not_breaks_pure none
  | cons dir rest ih =>
    have hin : ¬(findIn h name dir).Breaks := by
      apply Traced.not_breaks_bind (h.not_breaks_isDirectory _)
      intro there
      cases there with
      | true => exact Traced.not_breaks_pure _
      | false =>
        apply Traced.not_breaks_bind (h.not_breaks_isFile _)
        intro there
        cases there <;> exact Traced.not_breaks_pure _
    apply Traced.not_breaks_bind hin
    intro found
    cases found with
    | some p => exact Traced.not_breaks_pure (some p)
    | none => exact ih

end SiteModules
