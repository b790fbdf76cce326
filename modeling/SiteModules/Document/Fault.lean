namespace SiteModules

inductive DocumentFault
  | malformed
  | longNumber
  | badNumber
  | emptyNumber
  | badTruth
  | badTime
  | noSuchTime
  | badCharacter
  | hugeCharacter
  deriving DecidableEq, Repr

def digitLimit : Nat := 4300

end SiteModules
