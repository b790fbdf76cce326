import SiteModules.CommandLine.Option
import SiteModules.ModuleKind
import SiteModules.Text.Word

namespace SiteModules

structure Target where
  request : String
  kind : ModuleKind
  cwd : Path
  organization : Option String

inductive Command
  | resolve (t : Target) (load verbose : Bool)
  | candidates (t : Target)
  | settings (cwd : Path)

inductive Stop
  | help
  | usage (u : UsageFault)
  | failed (f : Failure)

namespace Command

def helpRule : OptionRule := ⟨"help", "--help", none, false⟩

def kindRule : OptionRule := ⟨"kind", "--kind", some 'k', true⟩

def cwdRule : OptionRule := ⟨"cwd", "--cwd", none, true⟩

def orgRule : OptionRule := ⟨"organization", "--org", none, true⟩

def loadRule : OptionRule := ⟨"load", "--load", none, false⟩

def verboseRule : OptionRule := ⟨"verbose", "--verbose", some 'v', false⟩

def generalRules : List OptionRule :=
  [⟨"log-file", "--log-file", none, true⟩, ⟨"log-level", "--log-level", none, true⟩, helpRule]

def targetRules : List OptionRule := [kindRule, cwdRule, orgRule, helpRule]

def kindOf (a : Arguments) : Except Stop ModuleKind :=
  match a.value? "kind" with
  | none => .ok .plugin
  | some text =>
    match ModuleKind.named? text with
    | some k => .ok k
    | none => .error (.usage (.badChoice text))

def place? (h : Host) (text : String) : Except Failure (Option Node) :=
  if text = "" then .ok none
  else match h.files.stat h.cwd (Path.ofString text) with
    | .ok n => .ok (some n)
    | .error .holdsNul => .error (.fault (.file .holdsNul))
    | .error _ => .ok none

def cwdOf (h : Host) (a : Arguments) : Except Stop Path :=
  match a.value? "cwd" with
  | none => .ok (Path.ofString ".")
  | some text =>
    match place? h text with
    | .error e => .error (.failed e)
    | .ok (some .directory) => .ok (Path.ofString text)
    | .ok _ => .error (.usage (.notDirectory text))

def checkOptions (h : Host) (a : Arguments) : List (String × Option String) → Except Stop Unit
  | [] => .ok ()
  | (name, _) :: rest => do
    if name = "kind" then let _ ← kindOf a
    if name = "cwd" then let _ ← cwdOf h a
    checkOptions h a rest

def readArguments (rules : List OptionRule) (mixed : Bool) (args : List String) :
    Except Stop Arguments := do
  let a ← (Arguments.read rules mixed args).mapError .usage
  if a.isGiven "help" then throw .help else return a

def onlyArgument : List String → Except Stop String
  | [] => .error (.usage (.argumentMissing "REQUEST"))
  | [request] => .ok request
  | _ :: extra :: _ => .error (.usage (.argumentsLeft extra))

def readTarget (h : Host) (a : Arguments) : Except Stop Target := do
  checkOptions h a a.options
  let request ← onlyArgument a.others
  return ⟨request, ← kindOf a, ← cwdOf h a, a.value? "organization"⟩

def readResolve (h : Host) (args : List String) : Except Stop Command := do
  let a ← readArguments (targetRules ++ [loadRule, verboseRule]) true args
  return .resolve (← readTarget h a) (a.isGiven "load") (a.isGiven "verbose")

def readCandidates (h : Host) (args : List String) : Except Stop Command := do
  let a ← readArguments targetRules true args
  return .candidates (← readTarget h a)

def readSettings (h : Host) (args : List String) : Except Stop Command := do
  let a ← readArguments [cwdRule, helpRule] true args
  let cwd ← cwdOf h a
  match a.others with
  | [] => return .settings cwd
  | extra :: _ => throw (.usage (.argumentsLeft extra))

def reader? : String → Option (Host → List String → Except Stop Command)
  | "resolve" => some readResolve
  | "candidates" => some readCandidates
  | "settings" => some readSettings
  | _ => none

structure General where
  logFile : Option String
  logLevel : Option String
  rest : List String

def checkLogFile (h : Host) (a : Arguments) : Except Stop Unit :=
  match a.value? "log-file" with
  | none => .ok ()
  | some text =>
    match place? h text with
    | .error e => .error (.failed e)
    | .ok (some .directory) => .error (.usage (.isDirectory text))
    | .ok _ => .ok ()

def readGeneral (h : Host) (args : List String) : Except Stop General := do
  let a ← readArguments generalRules false args
  checkLogFile h a
  return ⟨a.value? "log-file", a.value? "log-level", a.others⟩

def looksLikeOption (name : String) : Bool :=
  match name.toList with
  | [] => false
  | c :: _ => !Text.isWord c || c = '_'

def find (h : Host) (name : String) (rest : List String) :
    Except Stop (Host → List String → Except Stop Command) := do
  match reader? name with
  | some read => return read
  | none =>
    if looksLikeOption name then let _ ← readGeneral h (name :: rest)
    throw (.usage (.noSuchCommand name))

end Command

end SiteModules
