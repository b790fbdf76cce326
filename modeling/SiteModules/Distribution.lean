import SiteModules.Manifest
import SiteModules.Text.Lines
import SiteModules.Text.Rows

namespace SiteModules

structure Distribution where
  info : Path

namespace Distribution

def normalChars (cs : List Char) : List Char :=
  Text.lower (PackageName.joinRuns '_' false cs)

def infoSuffixes : List String := [".dist-info", ".egg-info"]

def beforeSuffix (cs : List Char) : List Char :=
  match Text.cut? '.' cs.reverse with
  | some (_, stem) => stem.reverse
  | none => []

def described? (child : String) : Option (List Char) :=
  let cs := Text.lower child.toList
  if infoSuffixes.any fun suffix => suffix.toList.isSuffixOf cs then
    some (normalChars ((beforeSuffix cs).takeWhile (· != '-')))
  else none

def find (h : Host) (name : String) : Except Fault (Option Distribution) :=
  if name = "" then .error .noName
  else
    let found := (h.files.listing h.cwd h.packages).find? fun child =>
      described? child == some (normalChars name.toList)
    .ok (found.map fun child => ⟨h.packages.child child⟩)

def text? (h : Host) (d : Distribution) (name : String) : Except Fault (Option (List Char)) :=
  match h.readText (d.info.child name) with
  | .ok cs => .ok (some cs)
  | .error .notUtf8 => .error .notUtf8
  | .error (.file .nameTooLong) => .error (.file .nameTooLong)
  | .error _ => .ok none

def isAround (c : Char) : Bool := Text.isBlank c && !('\x1c' ≤ c && c ≤ '\x1f')

/-- Whether text is a whole number: a sign, and digits that single underscores may part. -/
def isWhole (cs : List Char) : Bool :=
  let trimmed := ((cs.dropWhile isAround).reverse.dropWhile isAround).reverse
  let body := match trimmed with
    | '+' :: rest => rest
    | '-' :: rest => rest
    | rest => rest
  (Text.split '_' body).all (fun group => group != [] && group.all Char.isDigit) &&
    (body.filter (· != '_')).length ≤ digitLimit

def rowFile : Option (List (List Char)) → Except Fault (List Char)
  | some [file] => .ok file
  | some [file, _] => .ok file
  | some [file, _, size] =>
    if size = [] || isWhole size then .ok file else .error (.misfit .badSize)
  | some _ => .error (.misfit .badRow)
  | none => .error (.misfit .wideField)

def quotedLine (cs : List Char) : List Char := '"' :: cs ++ ['"']

def fileLines (h : Host) (d : Distribution) : Except Fault (Option (List (List Char))) := do
  match ← text? h d "RECORD" with
  | some (c :: cs) => return some (Text.lines (c :: cs))
  | _ => return (← text? h d "SOURCES.txt").map fun cs => (Text.lines cs).map quotedLine

def files (h : Host) (d : Distribution) : Except Fault (List (List Char)) := do
  match ← fileLines h d with
  | none => return []
  | some lines => (Text.Rows.read lines).mapM rowFile

def locate (d : Distribution) (file : List Char) : Path := d.info.parent.child (String.ofList file)

def topLevel? (h : Host) (d : Distribution) : Except Fault (Option Path) := do
  match ← text? h d "top_level.txt" with
  | some (c :: cs) =>
    match Text.firstWord? (c :: cs) with
    | some word => return some (locate d word)
    | none => throw (.misfit .blankNames)
  | _ => return none

/-- The directory of the first file, or of the distributions if no files are listed. -/
def filesDirectory (h : Host) (d : Distribution) : Except Fault Path := do
  match ← files h d with
  | file :: _ => return (locate d file).parent
  | [] => return locate d []

def directory (h : Host) (d : Distribution) : Traced Path := do
  match ← Traced.ofFault (topLevel? h d) with
  | some p => if ← h.exists? p then return p else .ofFault (filesDirectory h d)
  | none => .ofFault (filesDirectory h d)

end Distribution

end SiteModules
