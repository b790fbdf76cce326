import SiteModules.Value.Kind
import SiteModules.Text.Decimal

namespace SiteModules

structure Moment where
  year : Nat
  month : Nat
  day : Nat
  hour : Nat
  minute : Nat
  second : Nat
  micro : Nat
  offset : Option Int
  deriving DecidableEq, Repr

inductive Timestamp
  | date (year month day : Nat)
  | moment (m : Moment)
  | clock (hour minute second micro : Nat)
  deriving DecidableEq, Repr

namespace Timestamp

def monthLength (year month : Nat) : Nat :=
  if month = 2 then if year % 4 = 0 ∧ (year % 100 ≠ 0 ∨ year % 400 = 0) then 29 else 28
  else if month = 4 ∨ month = 6 ∨ month = 9 ∨ month = 11 then 30
  else 31

def isDay (year month day : Nat) : Bool :=
  1 ≤ year && year ≤ 9999 && 1 ≤ month && month ≤ 12 && 1 ≤ day && day ≤ monthLength year month

end Timestamp

inductive Key
  | null
  | bool (b : Bool)
  | int (n : Int)
  | float (x : Float)
  | text (s : String)
  | bytes (bs : List UInt8)
  | time (t : Timestamp)

/-- What two keys have in common when they are the same key: numbers agree across their types. -/
inductive Key.Identity
  | null
  /-- A finite number, in units of `2 ^ -1074`. -/
  | number (units : Int)
  | infinite (negative : Bool)
  | notNumber
  | text (s : String)
  | bytes (bs : List UInt8)
  | time (t : Timestamp)
  deriving DecidableEq

namespace Key

def unitsOfFloat (x : Float) : Identity :=
  match Text.Decimal.form x with
  | .notNumber => .notNumber
  | .infinite negative => .infinite negative
  | .finite b =>
    let n : Int := (b.mantissa * Nat.pow 2 (b.exponent + 1074).toNat : Nat)
    .number (if b.negative then -n else n)

def unitsOfOne : Int := Int.ofNat (Nat.pow 2 1074)

def identity : Key → Identity
  | .null => .null
  | .bool b => .number (if b then unitsOfOne else 0)
  | .int n => .number (n * unitsOfOne)
  | .float x => unitsOfFloat x
  | .text s => .text s
  | .bytes bs => .bytes bs
  | .time t => .time t

def same (a b : Key) : Bool := a.identity == b.identity

@[simp] theorem same_self (a : Key) : a.same a = true := by simp [same]

theorem same_iff {a b : Key} : a.same b = true ↔ a.identity = b.identity := by simp [same]

@[simp] theorem same_text (a b : String) : Key.same (.text a) (.text b) = (a == b) := by
  rw [Bool.eq_iff_iff]
  simp [same, identity]

def text? : Key → Option String
  | .text s => some s
  | _ => none

end Key

inductive Value
  | null
  | bool (b : Bool)
  | int (n : Int)
  | float (x : Float)
  | complex (re im : Float)
  | text (s : String)
  | bytes (bs : List UInt8)
  | buffer (bs : List UInt8)
  | list (xs : List Value)
  | tuple (xs : List Value)
  | set (xs : List Value)
  | frozenset (xs : List Value)
  | deque (xs : List Value)
  | range (stop : Int)
  | mapping (fields : List (Key × Value))
  | readOnly (fields : List (Key × Value))
  | pattern (source : String)
  | function (name : String) (attrs : List (String × Value))
  | moduleObject (name : String) (file : Option String) (package : Bool)
      (attrs : List (String × Value))
  | record (attrs : List (String × Value))
  | object (type : String) (callable : Bool) (attrs : List (String × Value))
  | type (t : TypeName)
  | kind (k : ValueKind)
  | time (t : Timestamp)
  deriving Inhabited

namespace Value

def typeName : Value → TypeName
  | .null => .none
  | .bool _ => .bool
  | .int _ => .int
  | .float _ => .float
  | .complex _ _ => .complex
  | .text _ => .text
  | .bytes _ => .bytes
  | .buffer _ => .buffer
  | .list _ => .list
  | .tuple _ => .tuple
  | .set _ => .set
  | .frozenset _ => .frozenset
  | .deque _ => .deque
  | .range _ => .range
  | .mapping _ => .mapping
  | .readOnly _ => .readOnlyMapping
  | .pattern _ => .pattern
  | .function _ _ => .function
  | .moduleObject _ _ _ _ => .moduleObject
  | .record _ => .record
  | .object t callable _ => .declared t callable
  | .type _ => .type
  | .kind _ => .kind
  | .time (.date _ _ _) => .date
  | .time (.moment _) => .datetime
  | .time (.clock _ _ _ _) => .time

def kind? : Value → Option ValueKind
  | .bool _ => some .boolean
  | .text _ | .kind _ => some .string
  | .int _ | .float _ => some .number
  | .pattern _ => some .pattern
  | .mapping _ | .readOnly _ => some .mapping
  | .list _ | .tuple _ | .range _ | .deque _ => some .sequence
  | .function _ _ | .type _ => some .function
  | .object _ callable _ => if callable then some .function else none
  | _ => none

def text? : Value → Option String
  | .text s => some s
  | .kind k => some k.name
  | _ => none

def isEmpty : Value → Bool
  | .null => true
  | .bool b => !b
  | .int n => n == 0
  | .float x => x == 0.0
  | .text s => s == ""
  | .list xs | .tuple xs | .set xs | .frozenset xs => xs.isEmpty
  | .mapping fields => fields.isEmpty
  | _ => false

def lookup? (k : Key) : List (Key × Value) → Option Value
  | [] => none
  | (k', v) :: rest => if k'.same k then some v else lookup? k rest

def put (k : Key) (v : Value) : List (Key × Value) → List (Key × Value)
  | [] => [(k, v)]
  | (k', v') :: rest => if k'.same k then (k', v) :: rest else (k', v') :: put k v rest

def field? (name : String) : Value → Option Value
  | .mapping fields => lookup? (.text name) fields
  | _ => none

def attr? (name : String) : Value → Option Value
  | .function _ attrs | .moduleObject _ _ _ attrs | .record attrs | .object _ _ attrs =>
    attrs.lookup name
  | _ => none

@[simp] theorem lookup?_put_self (k : Key) (v : Value) (fs : List (Key × Value)) :
    lookup? k (put k v fs) = some v := by
  induction fs with
  | nil => simp [put, lookup?]
  | cons f fs ih =>
    obtain ⟨k', v'⟩ := f
    by_cases h : k'.same k <;> simp [put, lookup?, h, ih]

theorem lookup?_put_of_not_same {j k : Key} (h : ¬ k.same j = true) (v : Value)
    (fs : List (Key × Value)) : lookup? j (put k v fs) = lookup? j fs := by
  induction fs with
  | nil => simp [put, lookup?, h]
  | cons f fs ih =>
    obtain ⟨k', v'⟩ := f
    by_cases hk : k'.same k
    · have hj : ¬ k'.same j = true := fun hj =>
        h (Key.same_iff.2 ((Key.same_iff.1 hk).symm.trans (Key.same_iff.1 hj)))
      simp [put, lookup?, hk, hj]
    · by_cases hj : k'.same j <;> simp [put, lookup?, hk, hj, ih]

end Value

end SiteModules
