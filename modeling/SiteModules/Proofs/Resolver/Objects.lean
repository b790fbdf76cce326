import SiteModules.Proofs.Resolver.Package

namespace SiteModules

namespace Value

variable {v : Value} {k : ValueKind}

inductive IsOctets : Value → Prop
  | bytes (bs : List UInt8) : IsOctets (.bytes bs)
  | buffer (bs : List UInt8) : IsOctets (.buffer bs)

theorem IsOctets.kind?_eq (hv : v.IsOctets) : v.kind? = none := by
  cases hv <;> rfl

theorem kind?_eq_of_not_isOctets (hv : ¬v.IsOctets) : v.kind? = v.typeName.kind? := by
  cases v with
  | bytes bs => exact absurd (.bytes bs) hv
  | buffer bs => exact absurd (.buffer bs) hv
  | time t => cases t <;> rfl
  | _ => rfl

theorem kind?_eq_some_iff (hk : v.typeName.kind? = some k) :
    v.kind? = some k ↔ ¬v.IsOctets := by
  constructor
  · intro hkind hv
    cases hv.kind?_eq.symm.trans hkind
  · intro hv
    exact (kind?_eq_of_not_isOctets hv).trans hk

theorem shape_eq_object (htext : v.text? = none) (hshape : v.shape ≠ .empty) :
    v.shape = .object := by
  unfold shape at hshape ⊢
  split
  · next hempty => exact absurd (if_pos hempty) hshape
  · rw [htext]

end Value

theorem ValueKind.ofValue_type_eq_ok_iff {name : TypeName} {k : ValueKind} :
    ofValue (.type name) = .ok k ↔ name.kind? = some k := by
  rw [ofValue]
  cases name.kind? <;> simp

namespace Resolver

variable {r : Resolver} {h : Host} {t : ModuleTable} {v : Value} {k : ValueKind} {cwd : Option Path}

theorem result_findObject (r : Resolver) (v : Value) : (r.findObject v).result =
    if r.accepts v then .ok (.ofEntry (.object v))
    else .error (.unsupported v r.kind r.allowedNames) := by
  unfold findObject
  split <;> rfl

theorem result_resolve_of_shape (hshape : v.shape = .object) :
    (r.resolve h t v cwd).1.result = (r.findObject v).result := by
  simp only [resolve, hshape, resolveObject]

theorem accepts_iff (hallowed : r.allowed = [k]) (hk : v.typeName.kind? = some k) :
    r.accepts v = true ↔ v.kind? = some k := by
  unfold accepts
  split
  · cases hk
  · rw [hallowed]
    cases v.kind? <;> simp

theorem make_allowed {kind : String} (hkind : kind ≠ "") {name : TypeName}
    (hk : ValueKind.ofValue (.type name) = .ok k) (h : Host) (o : Options) :
    ∃ r, make h kind { o with allowed := some [.type name] } = .ok r ∧ r.allowed = [k] ∧
      r.kind = kind := by
  simp only [make, if_neg hkind, List.mapM_cons, List.mapM_nil, hk]
  exact ⟨_, rfl, rfl, rfl⟩

theorem result_resolve_of_isOctets (hallowed : r.allowed = [k]) (hv : v.IsOctets) :
    (r.resolve h t v cwd).1.result = .error (.unsupported v r.kind [k.name]) := by
  have hshape : v.shape = .object := by cases hv <;> rfl
  have hrefused : ¬r.accepts v = true := by cases hv <;> exact Bool.false_ne_true
  have hnames : r.allowedNames = [k.name] := by
    rw [allowedNames, hallowed]
    exact List.mergeSort_singleton _
  rw [result_resolve_of_shape hshape, result_findObject, if_neg hrefused, hnames]

/-- The kind of an object is the one that its type stands for, and the object is its own module. -/
structure Admits (r : Resolver) (h : Host) (t : ModuleTable) (v : Value) (cwd : Option Path)
    (k : ValueKind) : Prop where
  kind : v.kind? = some k
  resolved : (r.resolve h t v cwd).1.result = .ok (.ofEntry (.object v))

theorem admits_iff_not_isOctets {kind : String} (hkind : kind ≠ "") (htext : v.text? = none)
    (hshape : v.shape ≠ .empty) (hk : ValueKind.ofValue (.type v.typeName) = .ok k)
    (h₀ h : Host) (o : Options) (t : ModuleTable) (cwd : Option Path) :
    ∃ r, make h₀ kind { o with allowed := some [.type v.typeName] } = .ok r ∧
      (Admits r h t v cwd k ↔ ¬v.IsOctets) ∧
      (v.IsOctets → (r.resolve h t v cwd).1.result = .error (.unsupported v kind [k.name])) := by
  obtain ⟨r, hr, hallowed, hname⟩ := make_allowed hkind hk h₀ o
  have htype := ValueKind.ofValue_type_eq_ok_iff.1 hk
  refine ⟨r, hr, ?_, ?_⟩
  · constructor
    · intro hadmits
      exact (Value.kind?_eq_some_iff htype).1 hadmits.kind
    · intro hv
      have hsame := (Value.kind?_eq_some_iff htype).2 hv
      refine ⟨hsame, ?_⟩
      rw [result_resolve_of_shape (Value.shape_eq_object htext hshape), result_findObject,
        if_pos ((accepts_iff hallowed htype).2 hsame)]
  · intro hv
    rw [result_resolve_of_isOctets hallowed hv, hname]

def objectOptions : Options := lazyOptions "docsite" [] none

def emptySite : Host where
  files := .empty
  cwd := ["p"]
  home := ⟨.single, ["home"]⟩
  packages := ⟨.single, ["site"]⟩
  organization := none

theorem admits_plugin :
    "plugin" ≠ "" ∧ (Value.object "Plugin" true []).text? = none ∧
    (Value.object "Plugin" true []).shape ≠ .empty ∧
    ValueKind.ofValue (.type (Value.object "Plugin" true []).typeName) = .ok .function ∧
    ∃ r, make emptySite "plugin" { objectOptions with
        allowed := some [.type (Value.object "Plugin" true []).typeName] } = .ok r ∧
      Admits r emptySite .empty (.object "Plugin" true []) none .function := by
  have hkind : "plugin" ≠ "" := by decide
  have hshape : (Value.object "Plugin" true []).shape ≠ .empty := by decide
  obtain ⟨r, hr, hadmits, -⟩ := admits_iff_not_isOctets hkind rfl hshape
    (v := .object "Plugin" true []) (k := .function) rfl emptySite emptySite objectOptions .empty
    none
  exact ⟨hkind, rfl, hshape, rfl, r, hr, hadmits.2 (by rintro ⟨⟩)⟩

/-- The type of bytes is allowed as one of sequences, and a request of it is refused. -/
theorem not_admits_octets :
    (Value.bytes [0]).text? = none ∧ (Value.bytes [0]).shape ≠ .empty ∧
    ValueKind.ofValue (.type (Value.bytes [0]).typeName) = .ok .sequence ∧
    (Value.bytes [0]).kind? ≠ some .sequence ∧
    ∃ r, make emptySite "theme" { objectOptions with
        allowed := some [.type (Value.bytes [0]).typeName] } = .ok r ∧
      (r.resolve emptySite .empty (.bytes [0]) none).1.result =
        .error (.unsupported (.bytes [0]) "theme" ["sequence"]) := by
  have hkind : "theme" ≠ "" := by decide
  have hk : ValueKind.ofValue (.type .bytes) = .ok .sequence := rfl
  obtain ⟨r, hr, hallowed, hname⟩ := make_allowed hkind hk emptySite objectOptions
  have hresult : (r.resolve emptySite .empty (.bytes [0]) none).1.result =
      .error (.unsupported (.bytes [0]) r.kind ["sequence"]) :=
    result_resolve_of_isOctets hallowed (.bytes [0])
  rw [hname] at hresult
  exact ⟨rfl, by decide, rfl, by decide, r, hr, hresult⟩

end Resolver

end SiteModules
