import SiteModules.Screen

namespace SiteModules.Plain

def styles : List String := ["dim", "yellow", "bold red"]

def openMark (style : String) : String := "[" ++ style ++ "]"

def closeMark (style : String) : String := "[/" ++ style ++ "]"

def inner? (style text : String) : Option String := do
  let rest ← (openMark style).toList.isPrefixOf? text.toList
  return String.ofList (← (closeMark style).toList.isSuffixOf? rest)

def text (markup : String) : String := (styles.findSome? (inner? · markup)).getD markup

def row (cells : List String) : String := "  ".intercalate (cells.map text)

def lines : Printed → List String
  | .blank => [""]
  | .line markup => [text markup]
  | .table t => t.title.toList ++ row t.columns :: t.rows.map row
  | .panel p => [text p.title, p.plain]
  | .trace f => [f.message]

end SiteModules.Plain
