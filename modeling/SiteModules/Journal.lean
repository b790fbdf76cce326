import SiteModules.Document.Json.Line
import SiteModules.Text.Case
import SiteModules.Traced
import SiteModules.Value.Template

namespace SiteModules

structure Record where
  logger : String
  level : Int
  message : Value
  args : List Value
  extra : List (String × Value)

def Record.ofNote (n : Note) : Record := ⟨n.logger, n.level, .text n.text, [], []⟩

structure Journal where
  level : Nat
  sink : Option Path
  deriving DecidableEq, Repr

namespace Journal

def initial : Journal := ⟨Note.warning, none⟩

def defaultPath : String := "./docsite.log.jsonl"

def defaultLevel : String := "INFO"

def levels : List (String × Nat) :=
  [("CRITICAL", 50), ("FATAL", 50), ("ERROR", 40), ("WARNING", 30), ("WARN", 30), ("INFO", 20),
    ("DEBUG", 10), ("NOTSET", 0)]

def levelOf (name : String) : Except Fault Nat :=
  let upper := String.ofList (Text.asciiUpper name.toList)
  if upper = "BASIC_FORMAT" then .error .badLevel
  else if upper = "_STYLES" then .error (.misfit .badValue)
  else .ok ((levels.lookup upper).getD 20)

def levelNames : List (Int × String) :=
  [(50, "CRITICAL"), (40, "ERROR"), (30, "WARNING"), (20, "INFO"), (10, "DEBUG"), (0, "NOTSET")]

def levelName (level : Int) : String := (levelNames.lookup level).getD ("Level " ++ toString level)

def orUsual (given : Option String) (usual : String) : String :=
  match given with
  | none => usual
  | some "" => usual
  | some s => s

def start (files : FileTree) (cwd : Place) (j : Journal) (path level : Option String) :
    Except Fault Path × Journal × FileTree :=
  match levelOf (orUsual level defaultLevel) with
  | .error e => (.error e, j, files)
  | .ok n =>
    let p := Path.ofString (orUsual path defaultPath)
    match files.makeDirectories cwd p.parent with
    | .error e => (.error (.file e), ⟨n, none⟩, files)
    | .ok files => (.ok p, ⟨n, some p⟩, files)

def isEnabled (j : Journal) (level : Int) : Bool := 0 < level && (j.level : Int) ≤ level

def reserved : List String :=
  ["message", "asctime", "name", "msg", "args", "levelname", "levelno", "pathname", "filename",
    "module", "exc_info", "exc_text", "stack_info", "lineno", "funcName", "created", "msecs",
    "relativeCreated", "thread", "threadName", "processName", "process"]

def unwritten : String := "taskName"

def schema : Value :=
  .mapping [(.text "name", .text "docsite.modules.log"), (.text "ver", .text "1.0.0")]

def supply (args : List Value) : Template.Supply :=
  match args with
  | [.mapping (f :: fs)] => .ofMapping (.mapping (f :: fs)) (f :: fs)
  | [.readOnly (f :: fs)] => .ofMapping (.readOnly (f :: fs)) (f :: fs)
  | args => .ofList args

def messageText? (r : Record) : Option String :=
  if r.args.isEmpty then some r.message.plain
  else Template.fill? r.message.plain (supply r.args)

def putAll (fields more : List (Key × Value)) : List (Key × Value) :=
  more.foldl (fun fs (k, v) => Value.put k v fs) fields

def putMissing (fields more : List (Key × Value)) : List (Key × Value) :=
  more.foldl (fun fs (k, v) => if (Value.lookup? k fs).isSome then fs else Value.put k v fs) fields

/-- The fields of a line. A mapping as message brings in its own; the record's come last. -/
def payload (now : String) (r : Record) (message : String) : List (Key × Value) :=
  let extra : List (Key × Value) :=
    (r.extra.filter fun (k, _) => k != unwritten).map fun (k, v) => (.text k, v)
  let base : List (Key × Value) :=
    [(.text "ts", .text now), (.text "lvl", .text (levelName r.level)), (.text "schema", schema),
      (.text "logger", .text r.logger), (.text "event", (r.extra.lookup "event").getD .null),
      (.text "message", .text message)]
  let own := match r.message with
    | .mapping fields => fields
    | _ => []
  putMissing (putAll base own) extra

def line? (now : String) (r : Record) : Option String := do
  Json.line? (.mapping (payload now r (← messageText? r)))

def write (files : FileTree) (cwd : Place) (now : String) (p : Path) (r : Record) : FileTree :=
  match line? now r with
  | none => files
  | some line =>
    match files.append cwd p (Text.Utf8.ofString (line ++ "\n")) with
    | .ok files => files
    | .error _ => files

def take (j : Journal) (files : FileTree) (cwd : Place) (now : String) (r : Record) :
    Except Fault FileTree :=
  if !j.isEnabled r.level then .ok files
  else if r.extra.any fun (k, _) => reserved.contains k then .error .reservedField
  else match j.sink with
    | none => .ok files
    | some p => .ok (write files cwd now p r)

def takeNotes (j : Journal) (files : FileTree) (cwd : Place) (now : String) (notes : List Note) :
    FileTree :=
  notes.foldl (fun files n => ((j.take files cwd now (.ofNote n)).toOption).getD files) files

end Journal

end SiteModules
