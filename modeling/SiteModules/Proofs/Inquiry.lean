import SiteModules.Resolver

/-!
What holds of every run that looks for a package. Such runs are put together from questions about
paths, notes for the log and what is read from descriptions; a property of all of these that is
kept where one run follows another is a property of the whole.
-/

namespace SiteModules

/-- A property of single questions and notes that is kept where one run follows another. -/
structure Traced.Inherited (P : ∀ α : Type, Traced α → Prop) : Prop where
  pure {α : Type} (x : α) : P α (Pure.pure x)
  bind {α β : Type} {t : Traced α} {f : α → Traced β} :
    P α t → (∀ x, P β (f x)) → P β (t >>= f)
  ofFault {α : Type} (x : Except Fault α) : P α (.ofFault x)
  ask (h : Host) (p : Path) (question : FileTree → Place → Path → Except FileFault Bool) :
    P Bool (h.ask p question)
  debug (logger text : String) : P Unit (SiteModules.debug logger text)

namespace Traced.Inherited

variable {P : ∀ α : Type, Traced α → Prop} (hP : Inherited P)

include hP

theorem said {α : Type} (logger text : String) (x : α) :
    P α (SiteModules.debug logger text >>= fun _ => Pure.pure x) :=
  hP.bind (hP.debug logger text) fun _ => hP.pure x

theorem directory (h : Host) (d : Distribution) : P Path (d.directory h) := by
  unfold Distribution.directory
  apply hP.bind (hP.ofFault _)
  intro found
  cases found with
  | none => exact hP.ofFault _
  | some p =>
    apply hP.bind (hP.ask h p _)
    intro there
    cases there with
    | true => exact hP.pure p
    | false => exact hP.ofFault _

theorem installed (h : Host) (name : String) : P (Option Path) (Locator.installed h name) := by
  unfold Locator.installed
  split
  · exact hP.pure none
  · apply hP.bind (hP.ofFault _)
    intro found
    cases found with
    | none => exact hP.pure none
    | some d =>
      apply hP.bind (hP.directory h d)
      intro p
      exact hP.pure (some p)

theorem locate (h : Host) (name : String) (dir : Path) :
    P String (Locator.locate h name dir) := by
  unfold Locator.locate
  apply hP.bind (hP.ask h _ _)
  intro there
  cases there with
  | true => exact hP.said _ _ _
  | false =>
    apply hP.bind (hP.installed h name)
    intro found
    cases found with
    | none => exact hP.said _ _ _
    | some p => exact hP.said _ _ _

theorem findIn (h : Host) (name : String) (dir : Path) :
    P (Option Path) (Defaults.findIn h name dir) := by
  unfold Defaults.findIn
  apply hP.bind (hP.ask h _ _)
  intro there
  cases there with
  | true => exact hP.pure _
  | false =>
    apply hP.bind (hP.ask h _ _)
    intro there
    cases there <;> exact hP.pure _

theorem findAmong (h : Host) (name : String) (dirs : List Path) :
    P (Option Path) (Defaults.findAmong h name dirs) := by
  induction dirs with
  | nil => exact hP.pure none
  | cons dir rest ih =>
    apply hP.bind (hP.findIn h name dir)
    intro found
    cases found with
    | some p => exact hP.pure (some p)
    | none => exact ih

theorem readIfThere {h : Host} {p : Path} {read : Host → Path → Except Failure (List String)}
    (hread : P _ (.ofExcept (read h p))) : P _ (Manifest.readIfThere h p read) := by
  unfold Manifest.readIfThere
  apply hP.bind (hP.ask h p _)
  intro there
  cases there with
  | true => exact hread
  | false => exact hP.pure []

theorem ofProject {h : Host} (hproject : ∀ p, P _ (.ofExcept (Manifest.readRequirements h p)))
    (hpackages : ∀ p, P _ (.ofExcept (Manifest.readSections h p))) (dir : Path) :
    P Manifest (Manifest.ofProject h dir) := by
  unfold Manifest.ofProject
  apply hP.bind (hP.readIfThere (hproject _))
  intro required
  apply hP.bind (hP.readIfThere (hpackages _))
  intro packages
  exact hP.said _ _ _

variable {r : Resolver} {h : Host} {request : String} {base : Path} {d : Declares}

theorem tryName (hask : ∀ name, P Bool (Resolver.ask d name)) (name : String) :
    P (Option Descriptor) (r.tryName h request base d name) := by
  unfold Resolver.tryName
  apply hP.bind (hask name)
  intro declared
  cases declared with
  | true =>
    apply hP.bind (hP.locate h name base)
    intro place
    exact hP.said _ _ _
  | false =>
    apply hP.bind (hP.findAmong h name _)
    intro found
    cases found with
    | none => exact hP.pure none
    | some p => exact hP.said _ _ _

theorem tryNames (hask : ∀ name, P Bool (Resolver.ask d name)) (names : List String) :
    P (Option Descriptor) (r.tryNames h request base d names) := by
  induction names with
  | nil => exact hP.pure none
  | cons name rest ih =>
    apply hP.bind (hP.tryName hask name)
    intro found
    cases found with
    | some d => exact hP.pure (some d)
    | none => exact ih

end Traced.Inherited

end SiteModules
