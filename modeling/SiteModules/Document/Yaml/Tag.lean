import SiteModules.Document.Json

namespace SiteModules.Yaml

inductive Tag
  | null
  | bool
  | int
  | float
  | binary
  | timestamp
  | omap
  | pairs
  | set
  | text
  | sequence
  | mapping
  | merge
  | value
  | unknown
  deriving DecidableEq, Repr

namespace Tag

def core : String := "tag:yaml.org,2002:"

def ofShort : String → Tag
  | "null" => .null
  | "bool" => .bool
  | "int" => .int
  | "float" => .float
  | "binary" => .binary
  | "timestamp" => .timestamp
  | "omap" => .omap
  | "pairs" => .pairs
  | "set" => .set
  | "str" => .text
  | "seq" => .sequence
  | "map" => .mapping
  | "merge" => .merge
  | "value" => .value
  | _ => .unknown

def ofName (name : String) : Tag :=
  match core.toList.isPrefixOf? name.toList with
  | some short => ofShort (String.ofList short)
  | none => .unknown

end Tag

def unsigned : List Char → List Char
  | '+' :: rest => rest
  | '-' :: rest => rest
  | cs => cs

def isSpacedDigit (c : Char) : Bool := c.isDigit || c = '_'

def afterDigits? : List Char → Option (List Char)
  | c :: rest => if c.isDigit then some (rest.dropWhile isSpacedDigit) else none
  | [] => none

def afterGroups? (found : Bool) : List Char → Option (List Char)
  | ':' :: a :: b :: rest =>
    if '0' ≤ a ∧ a ≤ '5' ∧ b.isDigit then afterGroups? true rest
    else if a.isDigit then afterGroups? true (b :: rest)
    else if found then some (':' :: a :: b :: rest) else none
  | [':', a] => if a.isDigit then some [] else if found then some [':', a] else none
  | cs => if found then some cs else none
termination_by cs => cs.length

def isRun (p : Char → Bool) (cs : List Char) : Bool := cs != [] && cs.all p

def isOctal (c : Char) : Bool := ('0' ≤ c && c ≤ '7') || c = '_'

def isHex (c : Char) : Bool := (Json.hexValue? c).isSome || c = '_'

def isBinary (c : Char) : Bool := c = '0' || c = '1' || c = '_'

def looksWhole (cs : List Char) : Bool :=
  match unsigned cs with
  | ['0'] => true
  | '0' :: 'b' :: rest => isRun isBinary rest
  | '0' :: 'x' :: rest => isRun isHex rest
  | '0' :: rest => isRun isOctal rest
  | cs =>
    match afterDigits? cs with
    | none => false
    | some [] => true
    | some rest => afterGroups? false rest == some []

def isExponent : List Char → Bool
  | [] => true
  | e :: s :: rest => (e = 'e' || e = 'E') && (s = '+' || s = '-') && isRun Char.isDigit rest
  | _ => false

def isInfinity (cs : List Char) : Bool :=
  [".inf", ".Inf", ".INF"].any fun w => w.toList == cs

def isNotNumber (cs : List Char) : Bool :=
  [".nan", ".NaN", ".NAN"].any fun w => w.toList == cs

def isPointPart : List Char → Bool
  | '.' :: rest => isExponent (rest.dropWhile isSpacedDigit)
  | _ => false

/-- A number without digits before its point takes no sign. -/
def looksBroken (cs : List Char) : Bool :=
  let body := unsigned cs
  isInfinity body || isNotNumber cs ||
    (match cs with
      | '.' :: rest => match afterDigits? rest with
        | some rest => isExponent rest
        | none => false
      | _ => false) ||
    (match afterDigits? body with
      | none => false
      | some rest => isPointPart rest ||
        (match afterGroups? false rest with
          | some ('.' :: rest) => rest.all isSpacedDigit
          | _ => false))

def truths : List (String × Bool) :=
  [("yes", true), ("no", false), ("true", true), ("false", false), ("on", true), ("off", false)]

def spellings (w : String) : List (List Char) :=
  [w.toList, w.toList.map Char.toUpper,
    match w.toList with
    | [] => []
    | c :: cs => c.toUpper :: cs]

def looksTrue (cs : List Char) : Bool := truths.any fun (w, _) => (spellings w).contains cs

def looksNull (cs : List Char) : Bool := cs = [] || cs = ['~'] || (spellings "null").contains cs

structure WrittenTime where
  year : List Char
  month : List Char
  day : List Char
  clock : Option (List Char × List Char × List Char × List Char)
  offset : Option Int

namespace WrittenTime

def digitsUpTo (least most : Nat) (cs : List Char) : Option (List Char × List Char) :=
  let ds := (cs.take most).takeWhile Char.isDigit
  if least ≤ ds.length then some (ds, cs.drop ds.length) else none

def expect? (c : Char) : List Char → Option (List Char)
  | d :: rest => if c = d then some rest else none
  | [] => none

def isGap (c : Char) : Bool := c = ' ' || c = '\t'

def afterDay? : List Char → Option (List Char)
  | 'T' :: rest => some rest
  | 't' :: rest => some rest
  | c :: rest => if isGap c then some (rest.dropWhile isGap) else none
  | [] => none

def signedOffset? (sign : Int) (cs : List Char) : Option (Option Int) := do
  let (h, rest) ← digitsUpTo 1 2 cs
  let hours : Int := 60 * Json.decimal h
  match rest with
  | [] => some (some (sign * hours))
  | ':' :: rest =>
    let (m, rest) ← digitsUpTo 2 2 rest
    if rest = [] then some (some (sign * (hours + Json.decimal m))) else none
  | _ => none

def offset? (cs : List Char) : Option (Option Int) :=
  match cs, cs.dropWhile isGap with
  | [], _ => some none
  | _, ['Z'] => some (some 0)
  | _, '+' :: rest => signedOffset? 1 rest
  | _, '-' :: rest => signedOffset? (-1) rest
  | _, _ => none

def ofChars? (cs : List Char) : Option WrittenTime := do
  let (year, rest) ← digitsUpTo 4 4 cs
  let (month, rest) ← digitsUpTo 1 2 (← expect? '-' rest)
  let (day, rest) ← digitsUpTo 1 2 (← expect? '-' rest)
  if rest = [] then return ⟨year, month, day, none, none⟩
  let (hour, rest) ← digitsUpTo 1 2 (← afterDay? rest)
  let (minute, rest) ← digitsUpTo 2 2 (← expect? ':' rest)
  let (second, rest) ← digitsUpTo 2 2 (← expect? ':' rest)
  let (part, rest) := match rest with
    | '.' :: rest => rest.span Char.isDigit
    | rest => ([], rest)
  return ⟨year, month, day, some (hour, minute, second, part), ← offset? rest⟩

end WrittenTime

def looksTimed (cs : List Char) : Bool :=
  match WrittenTime.ofChars? cs with
  | some t => t.clock.isSome || (t.month.length = 2 && t.day.length = 2)
  | none => false

def Tag.ofPlain (cs : List Char) : Tag :=
  if looksTrue cs then .bool
  else if looksBroken cs then .float
  else if looksWhole cs then .int
  else if cs = ['<', '<'] then .merge
  else if looksNull cs then .null
  else if looksTimed cs then .timestamp
  else if cs = ['='] then .value
  else .text

end SiteModules.Yaml
