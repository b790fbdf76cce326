namespace SiteModules

inductive UsageFault
  | noSuchOption (text : String)
  | valueMissing (option : String)
  | valueUnwanted (option : String)
  | noSuchCommand (name : String)
  | argumentMissing (name : String)
  | argumentsLeft (first : String)
  | badChoice (text : String)
  | notDirectory (text : String)
  | isDirectory (text : String)
  deriving DecidableEq, Repr

namespace UsageFault

def message : UsageFault → String
  | .noSuchOption text => "No such option: " ++ text
  | .valueMissing option => "Option '" ++ option ++ "' requires an argument."
  | .valueUnwanted option => "Option '" ++ option ++ "' does not take a value."
  | .noSuchCommand name => "No such command '" ++ name ++ "'."
  | .argumentMissing name => "Missing argument '" ++ name ++ "'."
  | .argumentsLeft first => "Got unexpected extra argument (" ++ first ++ ")"
  | .badChoice text => "'" ++ text ++ "' is not one of the choices."
  | .notDirectory text => "'" ++ text ++ "' is not an existing directory."
  | .isDirectory text => "'" ++ text ++ "' is a directory."

end UsageFault

structure OptionRule where
  name : String
  long : String
  letter : Option Char
  takesValue : Bool

structure Arguments where
  options : List (String × Option String)
  others : List String

namespace Arguments

def empty : Arguments := ⟨[], []⟩

def isGiven (a : Arguments) (name : String) : Bool := (a.options.lookup name).isSome

def value? (a : Arguments) (name : String) : Option String :=
  (a.options.reverse.lookup name).join

def cutEquals : List Char → List Char × Option (List Char)
  | [] => ([], none)
  | '=' :: rest => ([], some rest)
  | c :: rest =>
    let (a, b) := cutEquals rest
    (c :: a, b)

abbrev Step := Except UsageFault (List (String × Option String) × List String)

def takeValue (rule : OptionRule) (spelling : String) (near : Option String)
    (rest : List String) : Step :=
  match near, rest with
  | some v, rest => .ok ([(rule.name, some v)], rest)
  | none, v :: rest => .ok ([(rule.name, some v)], rest)
  | none, [] => .error (.valueMissing spelling)

def readLong (rule : OptionRule) (near : Option String) (rest : List String) : Step :=
  if rule.takesValue then takeValue rule rule.long near rest
  else match near with
    | none => .ok ([(rule.name, none)], rest)
    | some _ => .error (.valueUnwanted rule.long)

def readLetters (rules : List OptionRule) (rest : List String) : List Char → Step
  | [] => .ok ([], rest)
  | c :: cs =>
    match rules.find? (·.letter == some c) with
    | none => .error (.noSuchOption (String.ofList ['-', c]))
    | some rule =>
      if rule.takesValue then
        takeValue rule (String.ofList ['-', c]) (if cs = [] then none else some (String.ofList cs))
          rest
      else do
        let (more, rest) ← readLetters rules rest cs
        return ((rule.name, none) :: more, rest)

def readOption (rules : List OptionRule) (arg : String) (rest : List String) : Step :=
  let (spelling, near) := cutEquals arg.toList
  match rules.find? (·.long.toList == spelling) with
  | some rule => readLong rule (near.map String.ofList) rest
  | none =>
    match arg.toList with
    | '-' :: '-' :: _ => .error (.noSuchOption (String.ofList spelling))
    | '-' :: letters => readLetters rules rest letters
    | _ => .error (.noSuchOption arg)

def isOption (arg : String) : Bool :=
  match arg.toList with
  | '-' :: _ :: _ => true
  | _ => false

/-- With `mixed`, options may follow other arguments. Every step takes an argument. -/
def readFrom (rules : List OptionRule) (mixed : Bool) : Nat → List String →
    Except UsageFault Arguments
  | 0, args => .ok ⟨[], args⟩
  | _, [] => .ok .empty
  | fuel + 1, arg :: rest =>
    if arg = "--" then .ok ⟨[], rest⟩
    else if isOption arg then do
      let (found, rest) ← readOption rules arg rest
      let a ← readFrom rules mixed fuel rest
      return ⟨found ++ a.options, a.others⟩
    else if mixed then do
      let a ← readFrom rules mixed fuel rest
      return ⟨a.options, arg :: a.others⟩
    else .ok ⟨[], arg :: rest⟩

def read (rules : List OptionRule) (mixed : Bool) (args : List String) :
    Except UsageFault Arguments := readFrom rules mixed (args.length + 1) args

@[simp] theorem read_nil (rules : List OptionRule) (mixed : Bool) :
    read rules mixed [] = .ok .empty := rfl

end Arguments

end SiteModules
