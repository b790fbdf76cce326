import SiteModules.Proofs.Load.Directory
import SiteModules.Proofs.Locator.Garbled
import SiteModules.Proofs.Path.Below

/-!
Loading an installed module from where its package is located. That place is told by the list of
top-level modules, or is the directory of the file that is listed first; it leads to the module if
it is the module's own directory, and to nothing or to another one if it is not.
-/

namespace SiteModules

namespace Distribution

variable {h : Host} {d : Distribution} {p : Path} {name : String}

theorem result_directory_eq_ok_iff : (d.directory h).result = .ok p ↔
    (topLevel? h d = .ok (some p) ∧ (h.exists? p).result = .ok true) ∨
      (NoTopLevel h d ∧ filesDirectory h d = .ok p) := by
  unfold directory NoTopLevel
  rw [Traced.result_bind_eq_ok_iff]
  simp only [Traced.result_ofFault, Except.mapError_eq_ok_iff]
  constructor
  · rintro ⟨found, htop, hp⟩
    cases found with
    | none =>
      rw [Traced.result_ofFault, Except.mapError_eq_ok_iff] at hp
      exact .inr ⟨.inl htop, hp⟩
    | some q =>
      obtain ⟨there, hthere, hp⟩ := Traced.result_bind_eq_ok_iff.1 hp
      cases there with
      | true =>
        cases hp
        exact .inl ⟨htop, hthere⟩
      | false =>
        simp only [Bool.false_eq_true, if_false, Traced.result_ofFault,
          Except.mapError_eq_ok_iff] at hp
        exact .inr ⟨.inr ⟨q, htop, hthere⟩, hp⟩
  · rintro (⟨htop, hthere⟩ | ⟨htop | ⟨q, htop, hthere⟩, hp⟩)
    · exact ⟨some p, htop, Traced.result_bind_eq_ok_iff.2 ⟨true, hthere, rfl⟩⟩
    · exact ⟨none, htop, Except.mapError_eq_ok_iff.2 hp⟩
    · exact ⟨some q, htop,
        Traced.result_bind_eq_ok_iff.2 ⟨false, hthere, Except.mapError_eq_ok_iff.2 hp⟩⟩

def site (d : Distribution) : Path := d.info.parent

theorem locate_eq (d : Distribution) (file : List Char) :
    d.locate file = d.site.child (String.ofList file) := rfl

theorem exists_info_of_find (hfind : find h name = .ok (some d)) :
    ∃ child, d.info = h.packages.child child := by
  unfold find at hfind
  split at hfind
  · cases hfind
  · obtain ⟨child, -, rfl⟩ := Option.map_eq_some_iff.1 (Except.ok.inj hfind)
    exact ⟨child, rfl⟩

def Names (h : Host) (d : Distribution) (name : String) : Prop :=
  ∃ cs, text? h d "top_level.txt" = .ok (some cs) ∧ Text.firstWord? cs = some name.toList

theorem topLevel?_of_names (hnames : d.Names h name) :
    topLevel? h d = .ok (some (d.site.child name)) := by
  obtain ⟨cs, htext, hword⟩ := hnames
  cases cs with
  | nil => cases hword
  | cons c cs =>
    simp only [topLevel?, htext, hword, bind, Except.bind, pure, Except.pure, locate, site,
      String.ofList_toList]

theorem topLevel?_of_absent (htext : text? h d "top_level.txt" = .ok none) :
    topLevel? h d = .ok none := by
  simp only [topLevel?, htext, bind, Except.bind, pure, Except.pure]

theorem filesDirectory_of_cons {first : List Char} {rest : List (List Char)}
    (hfiles : d.files h = .ok (first :: rest)) :
    filesDirectory h d = .ok (d.locate first).parent := by
  simp only [filesDirectory, hfiles, bind, Except.bind, pure, Except.pure]

end Distribution

namespace Locator

def codeName (name : String) (package : Bool) : String :=
  if package then name ++ "/" ++ Load.fileName else name ++ ".py"

/-- A name for a top-level module; the file of a package's code is no module of its own. -/
structure IsTopLevel (name : String) (package : Bool) : Prop where
  ne_empty : name ≠ ""
  slashless : '/' ∉ name.toList
  dotless : '.' ∉ name.toList
  ne_fileName : package = false → name ++ ".py" ≠ Load.fileName

variable {h : Host} {n m : String} {package : Bool} {d : Distribution} {files : List (List Char)}
  {dir p : Path} {t : ModuleTable}

theorem IsTopLevel.notMem_strays (hm : IsTopLevel m package) : m.toList ∉ Text.strays := by
  have hne : m.toList ≠ [] := by simpa using hm.ne_empty
  have hdot := hm.dotless
  simp only [Text.strays, List.mem_cons, List.not_mem_nil, or_false, not_or]
  refine ⟨hne, ?_, ?_⟩
  · intro heq
    simp [heq] at hdot
  · intro heq
    simp [heq] at hdot

theorem isPlain_fileName : Text.IsPlain Load.fileName.toList := by
  unfold Text.IsPlain
  decide

theorem child_fileName (dir : Path) :
    dir.child Load.fileName = ⟨dir.root, dir.parts ++ [Load.fileName]⟩ :=
  Path.child_of_isPlain dir isPlain_fileName

theorem IsTopLevel.child (hm : IsTopLevel m package) (dir : Path) :
    dir.child m = ⟨dir.root, dir.parts ++ [m]⟩ := by
  have hsplit := Text.split_of_notMem hm.slashless
  rw [Path.child_of_isPlain dir, hsplit]
  · simp
  · simpa [Text.IsPlain, hsplit] using hm.notMem_strays

theorem IsTopLevel.child_codeName_true (hm : IsTopLevel m package) (dir : Path) :
    dir.child (codeName m true) = ⟨dir.root, dir.parts ++ [m, Load.fileName]⟩ := by
  have hname : (codeName m true).toList = m.toList ++ '/' :: Load.fileName.toList := by
    simp [codeName]
  have hsplit : Text.split '/' (codeName m true).toList = [m.toList, Load.fileName.toList] := by
    rw [hname, Text.split_append_sep _ hm.slashless, Text.split_of_notMem (by decide)]
  rw [Path.child_of_isPlain dir, hsplit]
  · simp
  · rw [hname, Text.isPlain_append_sep hm.slashless]
    exact ⟨hm.notMem_strays, isPlain_fileName⟩

theorem IsTopLevel.child_codeName_false (hm : IsTopLevel m package) (dir : Path) :
    dir.child (codeName m false) = ⟨dir.root, dir.parts ++ [m ++ ".py"]⟩ := by
  have hslash : '/' ∉ (m ++ ".py").toList := by
    rw [String.toList_append, List.mem_append, not_or]
    exact ⟨hm.slashless, by decide⟩
  have hsplit := Text.split_of_notMem hslash
  have hplain : Text.IsPlain (m ++ ".py").toList := by
    simp only [Text.IsPlain, hsplit, List.mem_singleton, forall_eq]
    apply Text.notMem_strays_of_length
    simp
  have hname : codeName m false = m ++ ".py" := rfl
  rw [hname, Path.child_of_isPlain dir hplain, hsplit]
  simp

theorem IsTopLevel.child_fileName_eq_iff (hm : IsTopLevel m package) :
    p.child Load.fileName = dir.child (codeName m package) ↔
      package = true ∧ p = dir.child m := by
  obtain ⟨root, parts⟩ := p
  cases package with
  | true =>
    have hlast : dir.parts ++ [m, Load.fileName] = (dir.parts ++ [m]) ++ [Load.fileName] := by simp
    rw [child_fileName, hm.child_codeName_true, hm.child, hlast]
    simp only [Path.mk.injEq, List.append_cancel_right_eq, true_and]
  | false =>
    rw [child_fileName, hm.child_codeName_false]
    refine iff_of_false ?_ (by simp)
    intro hsame
    have hlast := congrArg (fun p => p.parts.getLast?) hsame
    simp only [List.getLast?_append, List.getLast?_singleton, Option.some_or,
      Option.some.injEq] at hlast
    exact hm.ne_fileName rfl hlast.symm

/--
A distribution is installed that lists the file of a top-level module's code, in whatever place and
besides whatever other files; if it has a list of top-level modules, that begins with the module.
-/
structure Installs (h : Host) (n m : String) (package : Bool) (d : Distribution)
    (files : List (List Char)) : Prop where
  unscoped : PackageName.isScoped n.toList = false
  found : Distribution.find h n = .ok (some d)
  absolute : h.packages.isAbsolute = true
  proper : h.packages.IsProper
  topLevel : IsTopLevel m package
  rows : d.files h = .ok files
  listed : (codeName m package).toList ∈ files
  directories : ∀ file ∈ files, (h.isDirectory (d.locate file).parent).result = .ok true
  names : d.text? h "top_level.txt" = .ok none ∨ d.Names h m
  ends : Load.run h (d.site.child (codeName m package)) = .ok ()

def ListsFirst (m : String) (d : Distribution) (files : List (List Char)) : Prop :=
  ∃ first rest, files = first :: rest ∧ (d.locate first).parent = d.site.child m

namespace Installs

variable (hd : Installs h n m package d files)

include hd

theorem isAbsolute_site : d.site.isAbsolute = true := by
  obtain ⟨child, hinfo⟩ := Distribution.exists_info_of_find hd.found
  have hchild : (h.packages.child child).isAbsolute = true := by
    simp [Path.isAbsolute_child, hd.absolute]
  rw [Distribution.site, hinfo]
  exact hchild

theorem isProper_site : d.site.IsProper := by
  obtain ⟨child, hinfo⟩ := Distribution.exists_info_of_find hd.found
  rw [Distribution.site, hinfo]
  exact (hd.proper.child child).parent

theorem exists_cons : ∃ first rest, files = first :: rest :=
  List.exists_cons_of_ne_nil (List.ne_nil_of_mem hd.listed)

theorem isDirectory_child (hpackage : package = true) :
    (h.isDirectory (d.site.child m)).result = .ok true := by
  subst hpackage
  have hparent : (d.locate (codeName m true).toList).parent = d.site.child m := by
    rw [Distribution.locate_eq, String.ofList_toList, hd.topLevel.child_codeName_true,
      hd.topLevel.child]
    simp [Path.parent]
  rw [← hparent]
  exact hd.directories _ hd.listed

theorem gives_directory_iff (habsolute : p.isAbsolute = true) (hproper : p.IsProper)
    (hdir : (h.isDirectory p).result = .ok true) :
    Load.Gives h t p.toString (d.site.child (codeName m package)) ↔
      package = true ∧ p = d.site.child m := by
  rw [Load.gives_directory_iff habsolute hproper (hd.isProper_site.child _) hdir,
    hd.topLevel.child_fileName_eq_iff]
  simp only [hd.ends, and_true]

theorem child_ne_codeFile : d.site.child m ≠ d.site.child (codeName m package) := by
  rw [hd.topLevel.child]
  cases package with
  | true =>
    rw [hd.topLevel.child_codeName_true]
    simp
  | false =>
    rw [hd.topLevel.child_codeName_false]
    intro hsame
    have hlength := congrArg String.length (List.singleton_inj.1
      (List.append_cancel_left (congrArg Path.parts hsame)))
    simp at hlength

theorem gives_iff (hp : (d.directory h).result = .ok p) :
    Load.Gives h t p.toString (d.site.child (codeName m package)) ↔
      package = true ∧ p = d.site.child m := by
  obtain ⟨htop, hthere⟩ | ⟨-, hfiles⟩ := Distribution.result_directory_eq_ok_iff.1 hp
  · obtain habsent | hnames := hd.names
    · rw [Distribution.topLevel?_of_absent habsent] at htop
      cases htop
    · rw [Distribution.topLevel?_of_names hnames] at htop
      cases htop
      have habsolute : (d.site.child m).isAbsolute = true := by
        simp [Path.isAbsolute_child, hd.isAbsolute_site]
      have hproper := hd.isProper_site.child m
      by_cases hdir : (h.isDirectory (d.site.child m)).result = .ok true
      · exact hd.gives_directory_iff habsolute hproper hdir
      · -- A file of the bare name is in the way: it is there, but is no code.
        refine iff_of_false ?_ fun hpackage => hdir (hd.isDirectory_child hpackage.1)
        rw [Load.gives_toString_iff habsolute hproper]
        rintro ⟨found, hleads, -, -, hsame⟩
        cases hleads with
        | directory hyes => exact hdir hyes
        | file =>
          have hcode := hd.isProper_site.child (codeName m package)
          exact hd.child_ne_codeFile ((Path.toString_inj hproper hcode).1 hsame)
        | completed _ hno =>
          obtain hyes | hyes := Host.result_exists?_eq_true_iff.1 hthere
          · exact hdir hyes
          · cases hno.symm.trans hyes
  · obtain ⟨first, rest, rfl⟩ := hd.exists_cons
    rw [Distribution.filesDirectory_of_cons hd.rows] at hfiles
    cases hfiles
    apply hd.gives_directory_iff
    · change (d.site.child _).isAbsolute = true
      simp [Path.isAbsolute_child, hd.isAbsolute_site]
    · exact (hd.isProper_site.child _).parent
    · exact hd.directories first List.mem_cons_self

theorem directory_eq_child_iff (hpackage : package = true) :
    (d.directory h).result = .ok (d.site.child m) ↔
      d.Names h m ∨ ListsFirst m d files := by
  have hthere := Host.result_exists?_eq_true_iff.2 (.inl (hd.isDirectory_child hpackage))
  obtain ⟨first, rest, rfl⟩ := hd.exists_cons
  have hfirst : ListsFirst m d (first :: rest) ↔
      (d.locate first).parent = d.site.child m := by
    constructor
    · rintro ⟨_, _, hcons, hparent⟩
      cases hcons
      exact hparent
    · exact fun hparent => ⟨first, rest, rfl, hparent⟩
  rw [Distribution.result_directory_eq_ok_iff, Distribution.filesDirectory_of_cons hd.rows, hfirst]
  obtain habsent | hnames := hd.names
  · have hunnamed : ¬d.Names h m := by
      rintro ⟨cs, htext, -⟩
      cases habsent.symm.trans htext
    simp [Distribution.topLevel?_of_absent habsent, Distribution.NoTopLevel, hunnamed]
  · simp [Distribution.topLevel?_of_names hnames, hthere, hnames]

theorem result_locate_eq_ok_iff {project : Path} {place : String}
    (hworkspace : (h.isDirectory ((workspace project).child n)).result ≠ .ok true) :
    (locate h n project).result = .ok place ↔
      (h.isDirectory ((workspace project).child n)).result = .ok false ∧
        ∃ p, (d.directory h).result = .ok p ∧ place = p.toString := by
  rw [Locator.result_locate_eq_ok_iff]
  constructor
  · intro hlies
    cases hlies with
    | workspace hyes => exact absurd hyes hworkspace
    | installed hno _ hfind hp =>
      cases hd.found.symm.trans hfind
      exact ⟨hno, _, hp, rfl⟩
    | specifier hno hnone =>
      obtain hscoped | hfind := hnone
      · cases hd.unscoped.symm.trans hscoped
      · cases hd.found.symm.trans hfind
  · rintro ⟨hno, p, hp, rfl⟩
    exact .installed hno hd.unscoped hd.found hp

end Installs

def LoadsFrom (h : Host) (t : ModuleTable) (n : String) (project file : Path) : Prop :=
  ∃ place, (locate h n project).result = .ok place ∧ Load.Gives h t place file

/--
An installed module is loaded from where it is located exactly if it is a package that the list of
top-level modules or the file listed first tells of; the workspace is asked before.
-/
theorem loadsFrom_iff_told {project : Path} (hd : Installs h n m package d files)
    (hworkspace : (h.isDirectory ((workspace project).child n)).result ≠ .ok true)
    (t : ModuleTable) :
    LoadsFrom h t n project (d.site.child (codeName m package)) ↔
      (h.isDirectory ((workspace project).child n)).result = .ok false ∧ package = true ∧
        (d.Names h m ∨ ListsFirst m d files) := by
  unfold LoadsFrom
  simp only [hd.result_locate_eq_ok_iff hworkspace]
  constructor
  · rintro ⟨_, ⟨hno, p, hp, rfl⟩, hgives⟩
    obtain ⟨hpackage, rfl⟩ := (hd.gives_iff hp).1 hgives
    exact ⟨hno, hpackage, (hd.directory_eq_child_iff hpackage).1 hp⟩
  · rintro ⟨hno, hpackage, htold⟩
    have hp := (hd.directory_eq_child_iff hpackage).2 htold
    exact ⟨_, ⟨hno, _, hp, rfl⟩, (hd.gives_iff hp).2 ⟨hpackage, rfl⟩⟩

def darkSite (rows : String) : Host where
  files := ⟨[(["p"], .directory), (["site"], .directory), (["site", "dark"], .directory),
    (["site", "dark", "__init__.py"], .file []), (["site", "dark-1.0.dist-info"], .directory),
    (["site", "dark-1.0.dist-info", "RECORD"], .file (Text.Utf8.ofString rows))], []⟩
  cwd := ["p"]
  home := ⟨.single, ["home"]⟩
  packages := ⟨.single, ["site"]⟩
  organization := none

def darkInfo : Distribution := ⟨⟨.single, ["site", "dark-1.0.dist-info"]⟩⟩

def darkProject : Path := ⟨.single, ["p"]⟩

def darkFile : Path := ⟨.single, ["site", "dark", "__init__.py"]⟩

def codeRow : List Char := "dark/__init__.py".toList

def infoRow : List Char := "dark-1.0.dist-info/RECORD".toList

def codeFirst : String := "dark/__init__.py,,\ndark-1.0.dist-info/RECORD,,\n"

def infoFirst : String := "dark-1.0.dist-info/RECORD,,\ndark/__init__.py,,\n"

theorem find_darkSite (rows : String) :
    Distribution.find (darkSite rows) "dark" = .ok (some darkInfo) := by
  have hchildren : (darkSite rows).files.listing (darkSite rows).cwd (darkSite rows).packages =
      ["dark", "dark-1.0.dist-info"] := rfl
  have hnone : Distribution.described? "dark" = none := by decide +kernel
  have hsome : Distribution.described? "dark-1.0.dist-info" =
      some (Distribution.normalChars "dark".toList) := by decide +kernel
  rw [Distribution.find, if_neg (by decide), hchildren]
  simp only [List.find?_cons, hnone, hsome, beq_self_eq_true]
  rfl

theorem installs_darkSite {rows : String}
    (hfiles : darkInfo.files (darkSite rows) = .ok files) (hcode : codeRow ∈ files)
    (hrows : ∀ file ∈ files, file = codeRow ∨ file = infoRow) :
    Installs (darkSite rows) "dark" "dark" true darkInfo files where
  unscoped := rfl
  found := find_darkSite rows
  absolute := rfl
  proper := by
    intro name hname
    obtain rfl := List.mem_singleton.1 hname
    exact ⟨by decide, by decide⟩
  topLevel := ⟨by decide, by decide, by decide, nofun⟩
  rows := hfiles
  listed := hcode
  directories := by
    intro file hfile
    obtain rfl | rfl := hrows file hfile
    · rfl
    · rfl
  names := .inl rfl
  ends := by
    have hholds : (darkSite rows).Holds darkFile [] := rfl
    exact Load.run_of_holds hholds

theorem installs_codeFirst :
    Installs (darkSite codeFirst) "dark" "dark" true darkInfo [codeRow, infoRow] :=
  installs_darkSite (Except.toOption_eq_some_iff.1 (by decide +kernel)) (by simp) (by simp)

theorem installs_infoFirst :
    Installs (darkSite infoFirst) "dark" "dark" true darkInfo [infoRow, codeRow] :=
  installs_darkSite (Except.toOption_eq_some_iff.1 (by decide +kernel)) (by simp) (by simp)

theorem isDirectory_darkProject (rows : String) :
    ((darkSite rows).isDirectory ((workspace darkProject).child "dark")).result = .ok false := rfl

theorem isDirectory_darkProject_ne (rows : String) :
    ((darkSite rows).isDirectory ((workspace darkProject).child "dark")).result ≠ .ok true := by
  rw [isDirectory_darkProject]
  nofun

theorem loadsFrom_codeFirst :
    Installs (darkSite codeFirst) "dark" "dark" true darkInfo [codeRow, infoRow] ∧
    ((darkSite codeFirst).isDirectory ((workspace darkProject).child "dark")).result ≠ .ok true ∧
    LoadsFrom (darkSite codeFirst) .empty "dark" darkProject darkFile := by
  have hno := isDirectory_darkProject codeFirst
  have hne := isDirectory_darkProject_ne codeFirst
  refine ⟨installs_codeFirst, hne, (loadsFrom_iff_told installs_codeFirst hne .empty).2 ?_⟩
  exact ⟨hno, rfl, .inr ⟨codeRow, [infoRow], rfl, by decide⟩⟩

/-- With the file of its description in front, it is not. -/
theorem not_loadsFrom_infoFirst :
    Installs (darkSite infoFirst) "dark" "dark" true darkInfo [infoRow, codeRow] ∧
    ((darkSite infoFirst).isDirectory ((workspace darkProject).child "dark")).result = .ok false ∧
    (locate (darkSite infoFirst) "dark" darkProject).result = .ok "/site/dark-1.0.dist-info" ∧
    (Load.entry (darkSite infoFirst) .empty "/site/dark-1.0.dist-info").1.result =
      .error (Load.failure "Path does not contain a valid Python package: " darkInfo.info) ∧
    ¬LoadsFrom (darkSite infoFirst) .empty "dark" darkProject darkFile := by
  have hd := installs_infoFirst
  have hno := isDirectory_darkProject infoFirst
  have hne := isDirectory_darkProject_ne infoFirst
  have hdirectory : (darkInfo.directory (darkSite infoFirst)).result = .ok darkInfo.info := by
    have hparent : (darkInfo.locate infoRow).parent = darkInfo.info := by decide
    refine Distribution.result_directory_eq_ok_iff.2 (.inr ⟨.inl ?_, ?_⟩)
    · exact Distribution.topLevel?_of_absent rfl
    · rw [Distribution.filesDirectory_of_cons hd.rows, hparent]
  have hlocate := (hd.result_locate_eq_ok_iff hne).2 ⟨hno, _, hdirectory, rfl⟩
  refine ⟨hd, hno, hlocate, rfl, ?_⟩
  rintro ⟨place, hplace, hgives⟩
  cases hlocate.symm.trans hplace
  obtain ⟨-, hsame⟩ := (hd.gives_iff hdirectory).1 hgives
  exact absurd hsame (by decide)

end Locator

end SiteModules
