import SiteModules.Locator

namespace SiteModules

namespace Locator

inductive Lies (h : Host) (name : String) (dir : Path) : String → Prop
  | workspace :
      (h.isDirectory ((Locator.workspace dir).child name)).result = .ok true →
      Lies h name dir ((Locator.workspace dir).child name).toString
  | installed {d : Distribution} {p : Path} :
      (h.isDirectory ((Locator.workspace dir).child name)).result = .ok false →
      PackageName.isScoped name.toList = false →
      Distribution.find h name = .ok (some d) → (d.directory h).result = .ok p →
      Lies h name dir p.toString
  | specifier :
      (h.isDirectory ((Locator.workspace dir).child name)).result = .ok false →
      (PackageName.isScoped name.toList = true ∨ Distribution.find h name = .ok none) →
      Lies h name dir name

theorem result_installed_eq_ok_iff {h : Host} {name : String} {found : Option Path} :
    (installed h name).result = .ok found ↔
      (PackageName.isScoped name.toList = true ∧ found = none) ∨
      (PackageName.isScoped name.toList = false ∧
        ((Distribution.find h name = .ok none ∧ found = none) ∨
          ∃ d p, Distribution.find h name = .ok (some d) ∧ (d.directory h).result = .ok p ∧
            found = some p)) := by
  unfold installed
  cases hscope : PackageName.isScoped name.toList with
  | true => simp [eq_comm]
  | false =>
    simp only [Bool.false_eq_true, if_false, false_and, true_and, false_or]
    cases hfind : Distribution.find h name with
    | error f =>
      rw [Traced.result_bind_of_error (e := .fault f) rfl]
      simp
    | ok distribution =>
      rw [Traced.result_bind_of_ok (x := distribution) rfl]
      cases distribution with
      | none => simp [eq_comm]
      | some d =>
        rw [Traced.result_bind_eq_ok_iff]
        simp [eq_comm]

theorem result_locate_eq_ok_iff {h : Host} {name : String} {dir : Path} {place : String} :
    (locate h name dir).result = .ok place ↔ Lies h name dir place := by
  unfold locate
  dsimp only
  rw [Traced.result_bind_eq_ok_iff]
  constructor
  · rintro ⟨b, hdir, hplace⟩
    cases b with
    | true =>
      simp only [if_true, Traced.result_bind_of_ok (result_debug _ _)] at hplace
      cases hplace
      exact .workspace hdir
    | false =>
      simp only [Bool.false_eq_true, if_false, Traced.result_bind_eq_ok_iff] at hplace
      obtain ⟨found, hfound, hplace⟩ := hplace
      rw [result_installed_eq_ok_iff] at hfound
      obtain ⟨hscope, rfl⟩ | ⟨hscope, ⟨hfind, rfl⟩ | ⟨d, p, hfind, hp, rfl⟩⟩ := hfound
      · cases hplace
        exact .specifier hdir (.inl hscope)
      · cases hplace
        exact .specifier hdir (.inr hfind)
      · cases hplace
        exact .installed hdir hscope hfind hp
  · intro hlies
    cases hlies with
    | workspace hdir => exact ⟨true, hdir, rfl⟩
    | installed hdir hscope hfind hp =>
      refine ⟨false, hdir, ?_⟩
      simp only [Bool.false_eq_true, if_false]
      rw [Traced.result_bind_of_ok
        (result_installed_eq_ok_iff.2 (.inr ⟨hscope, .inr ⟨_, _, hfind, hp, rfl⟩⟩))]
      rfl
    | specifier hdir hnone =>
      refine ⟨false, hdir, ?_⟩
      simp only [Bool.false_eq_true, if_false]
      -- A scoped name is not looked for, and any other one is not there.
      have hinstalled : (installed h name).result = .ok none := by
        rw [result_installed_eq_ok_iff]
        cases hscope : PackageName.isScoped name.toList with
        | true => exact .inl ⟨rfl, rfl⟩
        | false => exact .inr ⟨rfl, .inl ⟨hnone.resolve_left (by simp [hscope]), rfl⟩⟩
      rw [Traced.result_bind_of_ok hinstalled]
      rfl

end Locator

end SiteModules
