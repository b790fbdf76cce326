import SiteModules.Failure

/-!
Results together with what happened on the way to them. What happened before a failure is kept;
nothing happens after it.
-/

namespace SiteModules

structure Note where
  level : Nat
  logger : String
  text : String
  deriving DecidableEq, Repr

inductive Event
  | looked (p : Path)
  | asked (name : String)
  | loading (entry : String)
  | noted (n : Note)
  deriving DecidableEq, Repr

structure Traced (α : Type) where
  events : List Event
  result : Except Failure α

namespace Traced

variable {α β : Type}

protected def pure (x : α) : Traced α := ⟨[], .ok x⟩

protected def bind (t : Traced α) (f : α → Traced β) : Traced β :=
  match t.result with
  | .ok x => ⟨t.events ++ (f x).events, (f x).result⟩
  | .error e => ⟨t.events, .error e⟩

instance : Monad Traced where
  pure := Traced.pure
  bind := Traced.bind

def fail (e : Failure) : Traced α := ⟨[], .error e⟩

def ofExcept (x : Except Failure α) : Traced α := ⟨[], x⟩

def ofFault (x : Except Fault α) : Traced α := ⟨[], x.mapError .fault⟩

def event (e : Event) : Traced Unit := ⟨[e], .ok ()⟩

def mapFailure (f : Failure → Failure) (t : Traced α) : Traced α :=
  ⟨t.events, t.result.mapError f⟩

def notes (t : Traced α) : List Note :=
  t.events.filterMap fun
    | .noted n => some n
    | _ => none

@[simp] theorem result_pure (x : α) : (pure x : Traced α).result = .ok x := rfl

@[simp] theorem events_pure (x : α) : (pure x : Traced α).events = [] := rfl

@[simp] theorem result_fail (e : Failure) : (fail e : Traced α).result = .error e := rfl

@[simp] theorem events_fail (e : Failure) : (fail e : Traced α).events = [] := rfl

@[simp] theorem result_ofExcept (x : Except Failure α) : (ofExcept x).result = x := rfl

@[simp] theorem events_ofExcept (x : Except Failure α) : (ofExcept x).events = [] := rfl

@[simp] theorem result_ofFault (x : Except Fault α) :
    (ofFault x).result = x.mapError .fault := rfl

@[simp] theorem events_ofFault (x : Except Fault α) : (ofFault x).events = [] := rfl

@[simp] theorem result_mapFailure (f : Failure → Failure) (t : Traced α) :
    (t.mapFailure f).result = t.result.mapError f := rfl

@[simp] theorem events_mapFailure (f : Failure → Failure) (t : Traced α) :
    (t.mapFailure f).events = t.events := rfl

theorem result_bind (t : Traced α) (f : α → Traced β) :
    (t >>= f).result = t.result.bind fun x => (f x).result := by
  show (Traced.bind t f).result = _
  unfold Traced.bind
  cases t.result <;> rfl

theorem bind_of_error {t : Traced α} {e : Failure} (h : t.result = .error e) (f : α → Traced β) :
    t >>= f = ⟨t.events, .error e⟩ := by
  show Traced.bind t f = _
  simp [Traced.bind, h]

theorem bind_of_ok {t : Traced α} {x : α} (h : t.result = .ok x) (f : α → Traced β) :
    t >>= f = ⟨t.events ++ (f x).events, (f x).result⟩ := by
  show Traced.bind t f = _
  simp [Traced.bind, h]

theorem result_bind_of_ok {t : Traced α} {x : α} (h : t.result = .ok x) (f : α → Traced β) :
    (t >>= f).result = (f x).result := by rw [bind_of_ok h]

theorem result_bind_of_error {t : Traced α} {e : Failure} (h : t.result = .error e)
    (f : α → Traced β) : (t >>= f).result = .error e := by rw [bind_of_error h]

theorem result_bind_eq_ok_iff {t : Traced α} {f : α → Traced β} {y : β} :
    (t >>= f).result = .ok y ↔ ∃ x, t.result = .ok x ∧ (f x).result = .ok y := by
  rw [result_bind]
  cases t.result <;> simp [Except.bind]

theorem mem_events_bind {t : Traced α} {f : α → Traced β} {e : Event} :
    e ∈ (t >>= f).events ↔ e ∈ t.events ∨ ∃ x, t.result = .ok x ∧ e ∈ (f x).events := by
  cases h : t.result with
  | error failure => simp [bind_of_error h]
  | ok x => simp [bind_of_ok h]

instance : LawfulMonad Traced := LawfulMonad.mk' Traced
  (fun t => by
    cases t with
    | mk es r => cases r <;> simp [Functor.map, Traced.bind, Traced.pure])
  (fun x f => by
    show Traced.bind (Traced.pure x) f = f x
    simp [Traced.bind, Traced.pure])
  (fun t f g => by
    show Traced.bind (Traced.bind t f) g = Traced.bind t fun x => Traced.bind (f x) g
    cases t with
    | mk es r =>
      cases r with
      | error e => rfl
      | ok x => cases h : (f x).result <;> simp [Traced.bind, h])

end Traced

def Note.debug : Nat := 10

def Note.warning : Nat := 30

def debug (logger text : String) : Traced Unit := .event (.noted ⟨Note.debug, logger, text⟩)

def warn (logger text : String) : Traced Unit := .event (.noted ⟨Note.warning, logger, text⟩)

@[simp] theorem result_debug (logger text : String) : (debug logger text).result = .ok () := rfl

@[simp] theorem events_debug (logger text : String) :
    (debug logger text).events = [.noted ⟨Note.debug, logger, text⟩] := rfl

@[simp] theorem result_warn (logger text : String) : (warn logger text).result = .ok () := rfl

end SiteModules
