namespace SiteModules.Yaml

structure WrittenTag where
  handle : Option String
  suffix : String
  deriving DecidableEq, Repr

inductive Directive
  | version (major minor : Nat)
  | tag (handle start : String)
  | other
  deriving DecidableEq, Repr

inductive Token
  | streamEnd
  | directive (d : Directive)
  | documentStart
  | documentEnd
  | blockSequence
  | blockMapping
  | blockEnd
  | flowSequence
  | flowSequenceEnd
  | flowMapping
  | flowMappingEnd
  | entry
  | flowEntry
  | key
  | value
  | alias (name : String)
  | anchor (name : String)
  | tag (t : WrittenTag)
  | scalar (text : List Char) (plain : Bool)
  deriving DecidableEq, Repr

end SiteModules.Yaml
