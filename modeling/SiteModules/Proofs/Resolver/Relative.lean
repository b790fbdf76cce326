import SiteModules.Proofs.Path.Collapse
import SiteModules.Proofs.Resolver.Refusal

namespace SiteModules

namespace RequestShape

variable {cs : List Char}

theorem ofChars_append_slash (ds : List Char) (hcs : ofChars cs = .relativePath) :
    ofChars (cs ++ '/' :: ds) = .relativePath := by
  unfold ofChars at hcs
  split at hcs
  · cases hcs
  · rfl
  · rfl
  · rfl
  · rfl
  · cases hcs

theorem head?_of_relativePath (hcs : ofChars cs = .relativePath) : cs.head? = some '.' := by
  unfold ofChars at hcs
  split at hcs
  · cases hcs
  · rfl
  · rfl
  · rfl
  · rfl
  · cases hcs

end RequestShape

namespace Path

theorem absolute_absolute {base p q : Path} (hbase : base.isAbsolute = true)
    (hp : p.isAbsolute = false) (hq : q.isAbsolute = false) :
    absolute (absolute base p) q = absolute base (p.join q) := by
  have hjoin : (base.join p).isAbsolute = true := by rw [isAbsolute_join, hbase]; rfl
  calc
    absolute (absolute base p) q = ((base.join p).collapse.join q).collapse := rfl
    _ = ((base.join p).join q).collapse := collapse_join_collapse hjoin hq
    _ = absolute base (p.join q) := by rw [absolute, join_assoc_of_relative base hp hq]

end Path

namespace Resolver

variable {r : Resolver} {h : Host} {t : ModuleTable} {way further start : String}

def Takes (r : Resolver) (h : Host) (t : ModuleTable) (way : String) : Prop :=
  (Value.text way).shape = .relativePath ∧
    ∃ cwd found, (r.resolve h t (.text way) cwd).1.result = .ok found

structure IsWay (way : String) : Prop where
  relative : RequestShape.ofChars way.toList = .relativePath
  clean : ¬BadPath way.toList

theorem IsWay.ne_empty (hway : IsWay way) : way ≠ "" := by
  rintro rfl
  cases hway.relative

theorem IsWay.shape (hway : IsWay way) : (Value.text way).shape = .relativePath := by
  rw [Value.shape_text hway.ne_empty, hway.relative]

theorem IsWay.isAbsolute (hway : IsWay way) : (Path.ofString way).isAbsolute = false := by
  rw [← Bool.not_eq_true, Path.isAbsolute_ofString_iff,
    RequestShape.head?_of_relativePath hway.relative]
  decide

theorem IsWay.append (hway : IsWay way) (hfurther : IsWay further)
    (hlast : ¬['/'] <:+ way.toList) : IsWay (way ++ "/" ++ further) := by
  have hchars : (way ++ "/" ++ further).toList = way.toList ++ '/' :: further.toList := by simp
  obtain ⟨hnul, hdouble⟩ := not_or.1 hway.clean
  obtain ⟨hnul', hdouble'⟩ := not_or.1 hfurther.clean
  refine ⟨?_, ?_⟩
  · rw [hchars]
    exact RequestShape.ofChars_append_slash _ hway.relative
  · rw [hchars, BadPath, Text.doubled_append_iff, List.infix_cons_iff, List.cons_prefix_cons]
    rintro (hmem | hcs | (⟨-, hfirst⟩ | hds) | ⟨hseam, -⟩)
    · simp [hnul, hnul'] at hmem
    · exact hdouble hcs
    · obtain ⟨rest, hrest⟩ := hfirst
      have hhead := RequestShape.head?_of_relativePath hfurther.relative
      rw [← hrest] at hhead
      cases hhead
    · exact hdouble' hds
    · exact hlast hseam

theorem IsWay.absolute_append {base : Path} (hway : IsWay way) (hfurther : IsWay further)
    (hbase : base.isAbsolute = true) : Path.absolute base (.ofString (way ++ "/" ++ further)) =
      Path.absolute (Path.absolute base (.ofString way)) (.ofString further) := by
  rw [Path.ofString_append_slash hway.ne_empty hway.isAbsolute hfurther.isAbsolute,
    Path.absolute_absolute hbase hway.isAbsolute hfurther.isAbsolute]

theorem result_of_isWay (hlazy : r.autoLoad = false) (hway : IsWay way) (dir : Path) :
    (r.resolve h t (.text way) (some dir)).1.result =
      .ok (.ofEntry (.place (Path.absolute (h.absolute dir) (.ofString way)).toString)) := by
  rw [resolve_of_lazy hlazy]
  simp only [search, hway.shape]
  change (r.findRelative way (h.absolute dir)).result = _
  rw [findRelative, checkPath_eq_ok_iff.2 hway.clean]
  rfl

theorem isWay_of_takes (hlazy : r.autoLoad = false) (hway : r.Takes h t way) : IsWay way := by
  obtain ⟨hshape, cwd, found, hfound⟩ := hway
  obtain hempty | ⟨hchars, -⟩ := shape_of_text? (rfl : (Value.text way).text? = some way)
  · cases hshape.symm.trans hempty
  · refine ⟨hchars.symm.trans hshape, ?_⟩
    rw [resolve_of_lazy hlazy] at hfound
    simp only [search, hshape] at hfound
    obtain ⟨u, hcheck, -⟩ := Traced.result_bind_eq_ok_iff.1 hfound
    exact checkPath_eq_ok_iff.1 hcheck

theorem takes_of_isWay (hlazy : r.autoLoad = false) (hway : IsWay way) : r.Takes h t way :=
  ⟨hway.shape, some r.cwd, _, result_of_isWay hlazy hway r.cwd⟩

/-- Where a request leads from a directory. -/
structure Moves (r : Resolver) (h : Host) (t : ModuleTable) (start way place : String) :
    Prop where
  entry : (r.resolve h t (.text way) (some (.ofString start))).1.result =
    .ok (.ofEntry (.place place))
  normal : Text.IsNormal place.toList
  onward : ¬['/'] <:+ way.toList → ∀ further, r.Takes h t further →
    r.Takes h t (way ++ "/" ++ further) ∧ ∃ goal,
      (r.resolve h t (.text further) (some (.ofString place))).1.result =
        .ok (.ofEntry (.place goal)) ∧
      (r.resolve h t (.text (way ++ "/" ++ further)) (some (.ofString start))).1.result =
        .ok (.ofEntry (.place goal))

/-- Every relative request that is resolved at all leads somewhere from every directory. -/
theorem exists_moves (hlazy : r.autoLoad = false) (hcwd : h.cwdPath.IsProper) (start : String)
    (hway : r.Takes h t way) : ∃ place, r.Moves h t start way place := by
  have hplain := isWay_of_takes hlazy hway
  have hbase : (h.absolute (.ofString start)).isAbsolute = true :=
    Path.isAbsolute_absolute rfl (.ofString start)
  have hproper : (h.absolute (.ofString start)).IsProper :=
    (hcwd.join (Path.isProper_ofString start)).collapse
  have hgoal := Path.isNormal_absolute hbase hproper (Path.isProper_ofString way)
  refine ⟨_, result_of_isWay hlazy hplain _, hgoal.toString, ?_⟩
  intro hlast further hfurther
  have hplain' := isWay_of_takes hlazy hfurther
  have hboth := hplain.append hplain' hlast
  -- The directory that the first move led to is read back as it was written.
  have hstart : h.absolute (.ofString
      (Path.absolute (h.absolute (.ofString start)) (.ofString way)).toString) =
        Path.absolute (h.absolute (.ofString start)) (.ofString way) := by
    rw [Path.ofString_toString hgoal.proper, Host.absolute, hgoal.absolute_eq]
  refine ⟨takes_of_isWay hlazy hboth, _, result_of_isWay hlazy hplain' _, ?_⟩
  rw [result_of_isWay hlazy hboth, hplain.absolute_append hplain' hbase, hstart]

theorem moves_past_root :
    (lazyResolver bareSite "theme" "docsite" [] none).autoLoad = false ∧
    bareSite.cwdPath.IsProper ∧
    (lazyResolver bareSite "theme" "docsite" [] none).Takes bareSite .empty "../../a/." ∧
    (lazyResolver bareSite "theme" "docsite" [] none).Moves bareSite .empty "//x" "../../a/."
      "//a" := by
  have hcwd : bareSite.cwdPath.IsProper := by
    intro name hname
    obtain rfl : name = "p" := by simpa [bareSite, Host.cwdPath, Host.ofPlace] using hname
    exact ⟨by decide, by decide⟩
  have hplain : IsWay "../../a/." := ⟨rfl, by decide +kernel⟩
  have hway : (lazyResolver bareSite "theme" "docsite" [] none).Takes bareSite .empty "../../a/." :=
    takes_of_isWay rfl hplain
  have hplace : (Path.absolute (bareSite.absolute (.ofString "//x"))
      (.ofString "../../a/.")).toString = "//a" := by
    decide +kernel
  obtain ⟨place, hmoves⟩ := exists_moves rfl hcwd "//x" hway
  have hsame := hmoves.entry.symm.trans (result_of_isWay rfl hplain _)
  rw [hplace] at hsame
  obtain rfl : place = "//a" := by simpa [Descriptor.ofEntry] using hsame
  exact ⟨rfl, hcwd, hway, hmoves⟩

end Resolver

end SiteModules
