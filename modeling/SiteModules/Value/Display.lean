import SiteModules.Value
import SiteModules.Text.Quoted

namespace SiteModules

namespace Timestamp

def number (n : Nat) : String := toString n

def shownOffset (minutes : Int) : String :=
  let days := minutes.fdiv 1440
  let seconds := minutes.fmod 1440 * 60
  if minutes = 0 then "datetime.timezone.utc"
  else
    let parts := (if days = 0 then [] else ["days=" ++ toString days]) ++
      (if seconds = 0 then [] else ["seconds=" ++ toString seconds])
    "datetime.timezone(datetime.timedelta(" ++ ", ".intercalate parts ++ "))"

def shownSeconds (second micro : Nat) : List String :=
  if micro = 0 then if second = 0 then [] else [number second] else [number second, number micro]

def shown : Timestamp → String
  | .date y m d => "datetime.date(" ++ ", ".intercalate [number y, number m, number d] ++ ")"
  | .clock h m s u =>
    "datetime.time(" ++ ", ".intercalate ([number h, number m] ++ shownSeconds s u) ++ ")"
  | .moment t =>
    let zone := match t.offset with
      | none => []
      | some o => ["tzinfo=" ++ shownOffset o]
    "datetime.datetime(" ++ ", ".intercalate
      ([number t.year, number t.month, number t.day, number t.hour, number t.minute] ++
        shownSeconds t.second t.micro ++ zone) ++ ")"

def twoDigits (n : Nat) : String := if n < 10 then "0" ++ toString n else toString n

def padded (width n : Nat) : String :=
  let ds := Nat.toDigits 10 n
  String.ofList (List.replicate (width - ds.length) '0' ++ ds)

def plainClock (h m s micro : Nat) : String :=
  twoDigits h ++ ":" ++ twoDigits m ++ ":" ++ twoDigits s ++
    (if micro = 0 then "" else "." ++ padded 6 micro)

def plain : Timestamp → String
  | .date y m d => padded 4 y ++ "-" ++ twoDigits m ++ "-" ++ twoDigits d
  | .clock h m s micro => plainClock h m s micro
  | .moment t =>
    let zone := match t.offset with
      | none => ""
      | some o =>
        (if o < 0 then "-" else "+") ++ twoDigits (o.natAbs / 60) ++ ":" ++
          twoDigits (o.natAbs % 60)
    padded 4 t.year ++ "-" ++ twoDigits t.month ++ "-" ++ twoDigits t.day ++ " " ++
      plainClock t.hour t.minute t.second t.micro ++ zone

end Timestamp

def showBool (b : Bool) : String := if b then "True" else "False"

def showPart (x : Float) : String :=
  let s := Text.Decimal.shortestText x
  if s.endsWith ".0" then (s.dropEnd 2).toString else s

def showComplex (re im : Float) : String :=
  let unsignedZero := match Text.Decimal.form re with
    | .finite b => b.mantissa = 0 && !b.negative
    | _ => false
  if unsignedZero then showPart im ++ "j"
  else
    let i := showPart im
    "(" ++ showPart re ++ (if i.startsWith "-" then i else "+" ++ i) ++ "j)"

def patternShown : Nat := 200

def showPattern (source : String) : String :=
  "re.compile(" ++ String.ofList ((Text.Quoted.chars source.toList).take patternShown) ++ ")"

def showModule (name : String) (file : Option String) (package : Bool) : String :=
  let n := Text.Quoted.text name
  match file with
  | some f => "<module " ++ n ++ " from " ++ Text.Quoted.text f ++ ">"
  | none =>
    if package then
      "<module " ++ n ++ " (<_frozen_importlib_external.NamespaceLoader object>)>"
    else "<module " ++ n ++ ">"

namespace Key

def shown : Key → String
  | .null => "None"
  | .bool b => showBool b
  | .int n => toString n
  | .float x => Text.Decimal.shortestText x
  | .text s => Text.Quoted.text s
  | .bytes bs => Text.Quoted.bytes bs
  | .time t => t.shown

end Key

namespace Value

def commaList (items : List String) : String := ", ".intercalate items

def braced (items : List String) : String := "\x7b" ++ commaList items ++ "\x7d"

mutual

def shown : Value → String
  | .null => "None"
  | .bool b => showBool b
  | .int n => toString n
  | .float x => Text.Decimal.shortestText x
  | .complex re im => showComplex re im
  | .text s => Text.Quoted.text s
  | .bytes bs => Text.Quoted.bytes bs
  | .buffer bs => "bytearray(" ++ Text.Quoted.bytes bs ++ ")"
  | .list xs => "[" ++ commaList (shownList xs) ++ "]"
  | .tuple xs => match shownList xs with
    | [x] => "(" ++ x ++ ",)"
    | items => "(" ++ commaList items ++ ")"
  | .set xs => match shownList xs with
    | [] => "set()"
    | items => braced items
  | .frozenset xs => match shownList xs with
    | [] => "frozenset()"
    | items => "frozenset(" ++ braced items ++ ")"
  | .deque xs => "deque([" ++ commaList (shownList xs) ++ "])"
  | .range stop => "range(0, " ++ toString stop ++ ")"
  | .mapping fields => braced (shownFields fields)
  | .readOnly fields => "mappingproxy(" ++ braced (shownFields fields) ++ ")"
  | .pattern source => showPattern source
  | .function name _ => "<function " ++ name ++ ">"
  | .moduleObject name file package _ => showModule name file package
  | .record attrs => "namespace(" ++ commaList (shownAttrs attrs) ++ ")"
  | .object t _ _ => "<" ++ t ++ ">"
  | .type t => t.shown
  | .kind k => "<ValueType." ++ k.name.toUpper ++ ": '" ++ k.name ++ "'>"
  | .time t => t.shown

def shownList : List Value → List String
  | [] => []
  | x :: xs => x.shown :: shownList xs

def shownFields : List (Key × Value) → List String
  | [] => []
  | (k, v) :: rest => (k.shown ++ ": " ++ v.shown) :: shownFields rest

def shownAttrs : List (String × Value) → List String
  | [] => []
  | (k, v) :: rest => (k ++ "=" ++ v.shown) :: shownAttrs rest

end

def plain : Value → String
  | .text s => s
  | .kind k => "ValueType." ++ k.name.toUpper
  | .readOnly fields => braced (shownFields fields)
  | .time t => t.plain
  | v => v.shown

end Value

end SiteModules
