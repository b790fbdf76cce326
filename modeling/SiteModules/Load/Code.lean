import SiteModules.Failure
import SiteModules.Text.Blank
import SiteModules.Text.Quoted
import SiteModules.Text.Split
import SiteModules.Text.Utf8

/-!
What the code of a module does when it is run, as far as loading can tell: it ends, or it raises
something. Code of the form that is understood here is empty, holds comments, or raises a fault
with a text.
-/

namespace SiteModules

inductive ModuleCode
  | ends
  | raises (r : Raised)
  deriving DecidableEq, Repr

namespace ModuleCode

def systemNames : List String :=
  ["OSError", "BlockingIOError", "ChildProcessError", "ConnectionError", "BrokenPipeError",
    "ConnectionAbortedError", "ConnectionRefusedError", "ConnectionResetError", "FileExistsError",
    "FileNotFoundError", "InterruptedError", "IsADirectoryError", "NotADirectoryError",
    "PermissionError", "ProcessLookupError", "TimeoutError"]

def importNames : List String := ["ImportError", "ModuleNotFoundError"]

def familyOf (name : String) : Family :=
  if systemNames.contains name then .system
  else if importNames.contains name then .importing
  else .other

def faultNames : List String :=
  systemNames ++ importNames ++
    ["Exception", "ArithmeticError", "AssertionError", "AttributeError", "BufferError", "EOFError",
      "FloatingPointError", "IndentationError", "IndexError", "KeyError", "LookupError",
      "MemoryError", "NameError", "NotImplementedError", "OverflowError", "RecursionError",
      "ReferenceError", "RuntimeError", "StopAsyncIteration", "StopIteration", "SyntaxError",
      "SystemError", "TabError", "TypeError", "UnboundLocalError", "UnicodeError", "ValueError",
      "Warning", "UserWarning", "DeprecationWarning", "RuntimeWarning"]

def presentName (name : String) : String :=
  if name = "IOError" ∨ name = "EnvironmentError" then "OSError" else name

/-- What is raised under a name with a text; a missing key is quoted. -/
def raised (name : String) (text : Option String) : Raised :=
  let name := presentName name
  if !faultNames.contains name then
    ⟨.other, "NameError", "name " ++ Text.Quoted.text name ++ " is not defined"⟩
  else match text with
    | none => ⟨familyOf name, name, ""⟩
    | some t => ⟨familyOf name, name, if name = "KeyError" then Text.Quoted.text t else t⟩

def escaped (c : Char) : Char :=
  if c = 'n' then '\n' else if c = 't' then '\t' else if c = 'r' then '\r' else c

def literal? (quote : Char) : List Char → Option (List Char × List Char)
  | [] => none
  | '\\' :: c :: rest => (literal? quote rest).map fun (cs, rest) => (escaped c :: cs, rest)
  | c :: rest =>
    if c = quote then some ([], rest)
    else (literal? quote rest).map fun (cs, rest) => (c :: cs, rest)

def argument? : List Char → Option (Option String)
  | ['(', ')'] => some none
  | '(' :: q :: rest =>
    if q = '\'' ∨ q = '"' then
      match literal? q rest with
      | some (cs, [')']) => some (some (String.ofList cs))
      | _ => none
    else none
  | _ => none

def trimEnd (cs : List Char) : List Char := (Text.trimStart cs.reverse).reverse

def raise? (line : List Char) : Option Raised := do
  let rest ← "raise ".toList.isPrefixOf? line
  let (name, rest) := (Text.trimStart rest).span (· != '(')
  let text ← argument? (trimEnd rest)
  return raised (String.ofList (trimEnd name)) text

def ofLine (line : List Char) : ModuleCode :=
  match Text.trimStart line with
  | [] => .ends
  | '#' :: _ => .ends
  | _ =>
    match raise? line with
    | some r => .raises r
    | none => .ends

def ofLines : List (List Char) → ModuleCode
  | [] => .ends
  | line :: rest =>
    match ofLine line with
    | .raises r => .raises r
    | .ends => ofLines rest

def ofBytes (bs : List UInt8) : ModuleCode :=
  match Text.Utf8.decode bs with
  | some cs => ofLines (Text.split '\n' (Text.unixLines cs))
  | none => .raises ⟨.other, "SyntaxError", "(unicode error) source code is not UTF-8"⟩

def compiledMark : List UInt8 := [0xa7, 0x0d, 0x0d, 0x0a]

/--
Compiled code has a head of 16 bytes: its mark, signs of which only two are in use, and what it was
compiled from. What follows the head is taken to end.
-/
def ofCompiled (name : String) (bs : List UInt8) : ModuleCode :=
  if bs.take 4 ≠ compiledMark then .raises ⟨.importing, "ImportError", ""⟩
  else if bs.length < 16 then
    .raises ⟨.other, "EOFError",
      "reached EOF while reading pyc header of " ++ Text.Quoted.text name⟩
  else if 4 ≤ bs.getD 4 0 ∨ (bs.drop 5).take 3 ≠ [0, 0, 0] then
    .raises ⟨.importing, "ImportError", ""⟩
  else if bs.length = 16 then .raises ⟨.other, "EOFError", "EOF read where object expected"⟩
  else .ends

theorem isExit_raised (name : String) (text : Option String) :
    (raised name text).isExit = false := by
  have hfamily (name : String) : (familyOf name == Family.exit) = false := by
    unfold familyOf
    split
    · rfl
    · split <;> rfl
  unfold raised
  dsimp only
  split
  · rfl
  · cases text <;> exact hfamily _

theorem isExit_of_raise? {line : List Char} {r : Raised} (hr : raise? line = some r) :
    r.isExit = false := by
  obtain ⟨rest, -, hr⟩ := Option.bind_eq_some_iff.1 hr
  obtain ⟨text, -, hr⟩ := Option.bind_eq_some_iff.1 hr
  cases hr
  exact isExit_raised _ _

theorem isExit_of_ofLine {line : List Char} {r : Raised} (hr : ofLine line = .raises r) :
    r.isExit = false := by
  unfold ofLine at hr
  split at hr
  · cases hr
  · cases hr
  · split at hr
    · next hraise =>
      cases hr
      exact isExit_of_raise? hraise
    · cases hr

theorem isExit_of_ofLines {lines : List (List Char)} {r : Raised} (hr : ofLines lines = .raises r) :
    r.isExit = false := by
  induction lines with
  | nil => cases hr
  | cons line rest ih =>
    unfold ofLines at hr
    split at hr
    · next hline =>
      cases hr
      exact isExit_of_ofLine hline
    · exact ih hr

theorem isExit_of_ofBytes {bs : List UInt8} {r : Raised} (hr : ofBytes bs = .raises r) :
    r.isExit = false := by
  unfold ofBytes at hr
  split at hr
  · exact isExit_of_ofLines hr
  · cases hr
    rfl

theorem isExit_of_ofCompiled {name : String} {bs : List UInt8} {r : Raised}
    (hr : ofCompiled name bs = .raises r) : r.isExit = false := by
  unfold ofCompiled at hr
  split at hr
  · cases hr
    rfl
  · split at hr
    · cases hr
      rfl
    · split at hr
      · cases hr
        rfl
      · split at hr
        · cases hr
          rfl
        · cases hr

end ModuleCode

end SiteModules
