import SiteModules.Proofs.Load.Target
import SiteModules.Proofs.Path.Collapse

namespace SiteModules

namespace Path

theorem mem_chars_iff {p : Path} {c : Char} (hp : p.isAbsolute = true) (hc : c ≠ '/') :
    c ∈ p.chars ↔ ∃ name ∈ p.parts, c ∈ name.toList := by
  have hroot : c ∉ p.root.chars := by cases p.root <;> simp [Root.chars, hc]
  rw [chars_eq (.inl hp), List.mem_append, Text.mem_join_iff hc]
  constructor
  · rintro (hmem | ⟨x, hx, hmem⟩)
    · exact absurd hmem hroot
    · obtain ⟨name, hname, rfl⟩ := List.mem_map.1 hx
      exact ⟨name, hname, hmem⟩
  · rintro ⟨name, hname, hmem⟩
    exact .inr ⟨_, List.mem_map_of_mem hname, hmem⟩

end Path

theorem ModuleName.exists_ofPath (h : Host) {p : Path} (hp : p.isAbsolute = true)
    (hplain : '\x00' ∉ p.chars) : ∃ name, ofPath h p = .ok name := by
  have hnul : '\x00' ∉ (h.canonical p).chars := by
    intro hmem
    obtain ⟨name, hname, hc⟩ := (Path.mem_chars_iff rfl (by decide)).1 hmem
    have hparts : name ∈ p.collapse.parts := by
      simpa [Host.canonical, Path.canonical, Path.absolute, hp] using hname
    obtain hname | rfl := Path.mem_parts_collapse hparts
    · exact hplain ((Path.mem_chars_iff hp (by decide)).2 ⟨name, hname, hc⟩)
    · exact absurd hc (by decide)
  exact ⟨_, if_neg hnul⟩

namespace Load

variable {h : Host} {t : ModuleTable} {dir file : Path}

def Gives (h : Host) (t : ModuleTable) (entry : String) (file : Path) : Prop :=
  ∃ m, (Load.entry h t entry).1.result = .ok m ∧ m.file = some file.toString

theorem gives_toString_iff (habsolute : dir.isAbsolute = true) (hdir : dir.IsProper) :
    Gives h t dir.toString file ↔
      ∃ m, Leads h dir m ∧ m.kind ≠ .native ∧ m.run h = .ok () ∧
        m.file.toString = file.toString := by
  have hentry := Path.isAbsolute_toString habsolute
  simp only [Gives, entry_of_isAbsolute hentry, Path.ofString_toString hdir,
    result_path_eq_ok_iff]
  constructor
  · rintro ⟨_, ⟨m, hm, hkind, hrun, rfl⟩, hfile⟩
    exact ⟨m, hm, hkind, hrun, Option.some.inj hfile⟩
  · rintro ⟨m, hm, hkind, hrun, hfile⟩
    exact ⟨m.loaded t.fresh, ⟨m, hm, hkind, hrun, rfl⟩, congrArg some hfile⟩

theorem isFile_of_run_ok (hrun : run h file = .ok ()) : (h.isFile file).result = .ok true := by
  cases hread : h.files.read h.cwd file with
  | ok bytes => exact Host.Holds.isFile hread
  | error f =>
    rw [run, runAs, hread] at hrun
    cases hrun

theorem gives_directory_iff (habsolute : dir.isAbsolute = true) (hproper : dir.IsProper)
    (hfile : file.IsProper) (hdir : (h.isDirectory dir).result = .ok true) :
    Gives h t dir.toString file ↔ dir.child fileName = file ∧ run h file = .ok () := by
  rw [gives_toString_iff habsolute hproper]
  constructor
  · rintro ⟨m, hm, -, hrun, hsame⟩
    cases hm with
    | directory =>
      obtain rfl := (Path.toString_inj (hproper.child fileName) hfile).1 hsame
      exact ⟨rfl, hrun⟩
    | file hno => cases hno.symm.trans hdir
    | completed hno => cases hno.symm.trans hdir
  · rintro ⟨rfl, hrun⟩
    obtain ⟨name, hname⟩ :=
      ModuleName.exists_ofPath h habsolute (Host.notMem_chars_of_isDirectory hdir)
    exact ⟨_, .directory hdir (isFile_of_run_ok hrun) hname, by simp, hrun, rfl⟩

end Load

end SiteModules
