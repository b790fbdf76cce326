import SiteModules.Screen

namespace SiteModules.Report

def longest : Nat := 200

def truncate (limit : Int) (text : String) : String :=
  let cs := text.toList
  if (cs.length : Int) ≤ limit then text
  else
    let kept := if limit < 0 then cs.length - limit.natAbs else limit.toNat
    String.ofList (cs.take kept ++ ['…'])

def tip : Failure → String
  | .notFound request kind candidates =>
    "Declare '" ++ candidates.headD request ++ "' in pyproject.toml or package.json, " ++
      "or reference the " ++ kind ++ " by path"
  | .unsupported _ kind _ =>
    "Use a package name, a path, or one of the allowed value types for a " ++ kind
  | .invalidPath _ _ => "Remove empty segments (such as '//') from the path"
  | .load _ _ => "Check that the module imports cleanly with the current Python environment"
  | _ => "Check that pyproject.toml and package.json in the project root are readable"

def labelled (first : String) (value : String) (style : String) (second : String)
    (value' : String) (style' : String) : List Span :=
  Span.styled "dim" first ++ Span.styled style value ++ Span.bare "\n" ++
    Span.styled "dim" second ++ Span.styled style' value'

def messageStyle : String := "white"

def orNone (text : String) : String := if text = "" then "(none)" else text

def title : Failure → String
  | .notFound _ _ _ => "Module Not Found"
  | .unsupported _ _ _ => "Unsupported Module Value"
  | .invalidPath _ _ => "Invalid Module Path"
  | .load _ _ => "Module Load Failed"
  | _ => "Resolution Failed"

def content : Failure → List Span
  | .notFound request kind _ => labelled "Request: " request "bold cyan" "Kind: " kind "yellow"
  | .unsupported request _ allowed =>
    labelled "Value type: " request.typeName.name "bold cyan" "Allowed: "
      (orNone (", ".intercalate allowed)) "yellow"
  | .invalidPath request reason => labelled "Path: " request "bold cyan" "Problem: " reason "red"
  | f => Span.styled messageStyle (truncate longest f.message)

def panel (f : Failure) : Panel := ⟨"[bold red]" ++ title f ++ "[/bold red]", "red", content f⟩

def candidateRows (from' : Nat) : List String → List (List String)
  | [] => []
  | name :: rest => [toString from' ++ ".", "✗", name] :: candidateRows (from' + 1) rest

def candidateTable (candidates : List String) : Table :=
  ⟨none, ["Order", "Status", "Candidate"], candidateRows 1 candidates⟩

def isReported (f : Failure) : Bool := f.isResolution || f.isLoad

def trace (f : Failure) (raised : Bool) : List Printed :=
  .line "[dim]─── Traceback ───[/dim]" :: (if raised then [.trace f] else [])

def print (f : Failure) (verbose raised : Bool) : List Printed :=
  if !isReported f then []
  else
    let table := match f with
      | .notFound _ _ candidates => [.table (candidateTable candidates), .blank]
      | _ => []
    [.blank, .panel (panel f)] ++ table ++ [.line ("[dim]Tip: " ++ tip f ++ "[/dim]"), .blank] ++
      (if verbose then trace f raised else [])

end SiteModules.Report
