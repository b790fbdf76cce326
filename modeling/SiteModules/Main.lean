import SiteModules.CommandLine
import SiteModules.Journal.Stamp
import SiteModules.Screen.Plain
import Std.Time.DateTime.Timestamp

namespace SiteModules.Program

def depthLimit : Nat := 8

/-- Hidden directories are left out, but for the one that belongs to the site. -/
def isFollowed (name : String) : Bool := name == siteDirectory || name.toList.head? != some '.'

def placeOf (p : Path) : Place := p.parts

def textOf (place : Place) : String := (Path.mk .single place).toString

def contentAt (place : Place) : IO (Option (List UInt8)) := do
  try return some (← IO.FS.readBinFile (textOf place)).toList
  catch _ => return none

def below : Nat → Place → IO (List (Place × Node))
  | 0, _ => return []
  | depth + 1, place => do
    let mut found : List (Place × Node) := []
    for entry in ← (← IO.FS.realPath (textOf place)).readDir do
      let inner := place ++ [entry.fileName]
      if ← entry.path.isDir then
        if isFollowed entry.fileName then
          found := (inner, .directory) :: (← below depth inner) ++ found
      else if let some bytes ← contentAt inner then
        found := (inner, .file bytes) :: found
    return found

def picture (t : FileTree) (place : Place) : IO FileTree := do
  try
    if ← (← IO.FS.realPath (textOf place)).isDir then
      let found ← below depthLimit place
      return { t with entries := found ++ (t.addDirectory place).entries }
    else
      return ((← contentAt place).map (t.addFile place)).getD t
  catch _ => return t

def named (cwd : Path) (arg : String) : List Place :=
  let (front, value) := Arguments.cutEquals arg.toList
  [front, value.getD []].filterMap fun cs =>
    if cs = [] then none else some (placeOf (Path.absolute cwd (Path.ofString (String.ofList cs))))

def host (args : List String) : IO Host := do
  let cwd := Path.ofString (← IO.FS.realPath ".").toString
  let home := Path.ofString ((← IO.getEnv "HOME").getD "/")
  let site := home.child siteDirectory
  let packages := ((← IO.getEnv "DOCSITE_PACKAGES").map Path.ofString).getD (site.child "packages")
  let places := placeOf cwd :: placeOf site :: placeOf packages :: args.flatMap (named cwd)
  let files ← places.eraseDups.foldlM picture .empty
  return ⟨files, placeOf cwd, home, packages, ← IO.getEnv "DOCSITE_ORGANIZATION"⟩

def now : IO String := do
  let t ← Std.Time.Timestamp.now
  return (Moment.ofMilliseconds t.toMillisecondsSinceUnixEpoch.toInt.toNat).stamp

/-- Writes what has come to the tree since it was taken; the newest entries stand in front. -/
def putBack (before after : FileTree) : IO Unit := do
  let added := after.entries.take (after.entries.length - before.entries.length)
  for (place, node) in added.reverse do
    match node with
    | .directory => IO.FS.createDirAll (textOf place)
    | .file bytes => IO.FS.writeBinFile (textOf place) (ByteArray.mk bytes.toArray)

def usage : List String :=
  ["Usage: docsite-modules [--log-file FILE] [--log-level LEVEL] COMMAND [ARGS]...", "",
    "  resolve REQUEST     Show what a module request means.",
    "  candidates REQUEST  List the packages that a request may mean.",
    "  settings            Show the settings of a project.", "",
    "  --kind, -k KIND  plugin, theme or markdown-it", "  --cwd DIRECTORY  the project",
    "  --org NAME       the organization", "  --load           load the module",
    "  --verbose, -v    show how a failure came about"]

def printOut (lines : List String) : IO Unit := lines.forM IO.println

def printErr (lines : List String) : IO Unit := lines.forM IO.eprintln

def finish : Ending → IO UInt32
  | .exit code => return code.toUInt32
  | .usage u => do
    printErr [u.message]
    return 2
  | .failed f => do
    printErr ["Error: " ++ f.message]
    return 1

def run (args : List String) : IO UInt32 := do
  let h ← host args
  let r := CommandLine.run h (← now) args
  putBack h.files r.files
  if r.helped then printOut usage
  printOut (r.out.flatMap Plain.lines)
  printErr (r.err.flatMap Plain.lines)
  finish r.ending

end SiteModules.Program

def main (args : List String) : IO UInt32 := SiteModules.Program.run args
