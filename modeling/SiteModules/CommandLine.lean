import SiteModules.CommandLine.Command
import SiteModules.Journal
import SiteModules.Screen.Report

namespace SiteModules

inductive Ending
  | exit (code : Nat)
  | usage (u : UsageFault)
  | failed (f : Failure)

structure Run where
  files : FileTree
  out : List Printed
  err : List Printed
  helped : Bool
  reported : Option Failure
  ending : Ending

namespace Run

def silent (files : FileTree) (e : Ending) : Run := ⟨files, [], [], false, none, e⟩

def help (files : FileTree) : Run := ⟨files, [], [], true, none, .exit 0⟩

def printed (files : FileTree) (out : List Printed) : Run := ⟨files, out, [], false, none, .exit 0⟩

def stopped (files : FileTree) : Stop → Run
  | .help => help files
  | .usage u => silent files (.usage u)
  | .failed f => silent files (.failed f)

end Run

namespace CommandLine

def absent : String := "[dim]-[/dim]"

def cell : Value → String
  | .null => absent
  | v => v.plain

def descriptorTable (t : Target) (d : Descriptor) : Table :=
  ⟨some (t.kind.name ++ " '" ++ t.request ++ "'"), ["Field", "Value"],
    d.fields.map fun (name, v) => [name, cell v]⟩

def numbered (from' : Nat) : List String → List (List String)
  | [] => []
  | name :: rest => [toString from', name] :: numbered (from' + 1) rest

def candidatesTable (t : Target) (names : List String) : Table :=
  ⟨some ("Probe order for " ++ t.kind.name ++ " '" ++ t.request ++ "'"), ["#", "Package"],
    numbered 1 names⟩

def orNone (text : String) : String := if text = "" then "[dim](none)[/dim]" else text

def settingsTable (s : Settings) : Table :=
  ⟨some "Module Settings", ["Setting", "Value"],
    [["organization", s.organization], ["bundled_paths", orNone (", ".intercalate s.bundledPaths)],
      ["auto_load", (s.autoLoad.map showBool).getD "[dim](kind default)[/dim]"]]⟩

def resolver (h : Host) (t : Target) (load : Bool) : Traced Resolver := do
  let project := h.canonical t.cwd
  let s ← Settings.ofProject h project
  let s := { s with organization := t.organization.getD s.organization, autoLoad := some load }
  .ofFault (t.kind.resolver h project s)

def withLog {α : Type} (h : Host) (j : Journal) (now : String) (t : Traced α)
    (onOk : FileTree → α → Run) (onError : FileTree → Failure → Run) : Run :=
  let files := j.takeNotes h.files h.cwd now t.notes
  match t.result with
  | .ok x => onOk files x
  | .error e => onError files e

def failed (files : FileTree) (e : Failure) : Run := .silent files (.failed e)

/-- Failures of resolution and of loading are reported; others end the run. -/
def report (verbose : Bool) (files : FileTree) (e : Failure) : Run :=
  if Report.isReported e then
    ⟨files, [], Report.print e verbose true, false, some e, .exit 1⟩
  else failed files e

def showDescriptor (t : Target) (files : FileTree) (d : Descriptor) : Run :=
  .printed files [if d.isEmpty then .line "[yellow]No module requested[/yellow]"
    else .table (descriptorTable t d)]

def runResolve (h : Host) (j : Journal) (now : String) (t : Target) (load verbose : Bool) : Run :=
  let r := resolver h t load
  match r.result with
  | .error _ => withLog h j now r (fun files _ => .printed files []) failed
  | .ok resolver =>
    let found := (resolver.resolve h .empty (.text t.request) none).1
    let all : Traced Descriptor := r >>= fun _ => found
    withLog h j now all (showDescriptor t) (report verbose)

def runCandidates (h : Host) (j : Journal) (now : String) (t : Target) : Run :=
  withLog h j now (resolver h t false)
    (fun files r => .printed files
      [.table (candidatesTable t (r.naming.candidates t.request)),
        .line ("[dim]Shortcut: " ++ (r.naming.canonical t.request).shortcut ++ "[/dim]")])
    failed

def runSettings (h : Host) (j : Journal) (now : String) (cwd : Path) : Run :=
  withLog h j now (Settings.ofProject h (h.canonical cwd))
    (fun files s => .printed files [.table (settingsTable s)]) failed

def runCommand (h : Host) (j : Journal) (now : String) : Command → Run
  | .resolve t load verbose => runResolve h j now t load verbose
  | .candidates t => runCandidates h j now t
  | .settings cwd => runSettings h j now cwd

def startLog (h : Host) (g : Command.General) : Except Fault Unit × Journal × FileTree :=
  match g.logFile with
  | none => (.ok (), .initial, h.files)
  | some "" => (.ok (), .initial, h.files)
  | some file =>
    let (started, j, files) := Journal.initial.start h.files h.cwd (some file) g.logLevel
    (started.map fun _ => (), j, files)

def run (h : Host) (now : String) (args : List String) : Run :=
  match Command.readGeneral h args with
  | .error s => .stopped h.files s
  | .ok g =>
    let (started, j, files) := startLog h g
    let logged (go : Host → Run) : Run :=
      match started with
      | .error e => .silent files (.failed (.fault e))
      | .ok () => go { h with files := files }
    match g.rest with
    | [] => logged fun h => .help h.files
    | name :: rest =>
      match Command.find h name rest with
      | .error s => .stopped h.files s
      | .ok read => logged fun h =>
        match read h rest with
        | .error s => .stopped h.files s
        | .ok c => runCommand h j now c

end CommandLine

end SiteModules
