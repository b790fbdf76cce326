namespace SiteModules.Text.Decimal

structure Binary where
  negative : Bool
  mantissa : Nat
  exponent : Int
  /-- The next number below lies only half as far as the next one above. -/
  narrow : Bool

inductive Form where
  | finite (b : Binary)
  | infinite (negative : Bool)
  | notNumber

def hiddenBit : Nat := 0x10000000000000

def formOfBits (bits : Nat) : Form :=
  let negative := 0x8000000000000000 ≤ bits
  let e : Nat := bits / hiddenBit % 2048
  let m : Nat := bits % hiddenBit
  if e = 2047 then if m = 0 then .infinite negative else .notNumber
  else if e = 0 then .finite ⟨negative, m, -1074, false⟩
  else .finite ⟨negative, m + hiddenBit, (e : Int) - 1075, m = 0 && 1 < e⟩

def form (x : Float) : Form := formOfBits x.toBits.toNat

structure Ratio where
  num : Nat
  den : Nat

namespace Ratio

def scaled (n : Nat) (e : Int) : Ratio :=
  if e < 0 then ⟨n, Nat.pow 2 e.natAbs⟩ else ⟨n * Nat.pow 2 e.natAbs, 1⟩

def timesTen (r : Ratio) (e : Int) : Ratio :=
  let power := Nat.pow 10 e.natAbs
  if e < 0 then ⟨r.num, r.den * power⟩ else ⟨r.num * power, r.den⟩

def magnitude (r : Ratio) : Int :=
  let whole := r.num / r.den
  if 0 < whole then (Nat.toDigits 10 whole).length - 1
  else
    let up := (r.den + r.num - 1) / r.num
    0 - ((Nat.toDigits 10 (up - 1)).length : Int)

def round (r : Ratio) : Nat :=
  let q := r.num / r.den
  let rest := 2 * (r.num % r.den)
  if rest < r.den then q
  else if r.den < rest then q + 1
  else q + q % 2

end Ratio

structure Scientific where
  digits : Nat
  exponent : Int

namespace Binary

def ratio (b : Binary) : Ratio := Ratio.scaled b.mantissa b.exponent

/-- Whether `n * 10 ^ (-s)` reads back as `b`: it lies between the halfway points. -/
def readsBack (b : Binary) (n : Nat) (s : Int) : Bool :=
  let x := Ratio.timesTen ⟨n, 1⟩ (-s)
  let low := Ratio.scaled (4 * b.mantissa - if b.narrow then 1 else 2) (b.exponent - 2)
  let high := Ratio.scaled (4 * b.mantissa + 2) (b.exponent - 2)
  let above := low.num * x.den
  let here := x.num * low.den
  let below := high.num * x.den
  let there := x.num * high.den
  if b.mantissa % 2 = 0 then above ≤ here && there ≤ below
  else above < here && there < below

def onGrid? (b : Binary) (count : Nat) : Option Scientific :=
  let s : Int := count - 1 - b.ratio.magnitude
  let t := b.ratio.timesTen s
  let down := t.num / t.den
  let near := t.round
  let far := if near = down then down + 1 else down
  if b.readsBack near s then some ⟨near, -s⟩
  else if b.readsBack far s then some ⟨far, -s⟩
  else none

/-- The fewest digits that read back, of these the nearest. -/
def shortest (b : Binary) : Scientific :=
  ((List.range 17).findSome? fun i => b.onGrid? (i + 1)).getD ⟨b.mantissa, 0⟩

def rounded (b : Binary) (count : Nat) : Scientific :=
  if b.mantissa = 0 then ⟨0, 1 - count⟩
  else
    let s : Int := count - 1 - b.ratio.magnitude
    let n := (b.ratio.timesTen s).round
    if n = Nat.pow 10 count then ⟨n / 10, 1 - s⟩ else ⟨n, -s⟩

end Binary

def dropZeros : List Char → List Char := fun ds => (ds.reverse.dropWhile (· = '0')).reverse

def digitsOf (n : Nat) : List Char := Nat.toDigits 10 n

def exponentText (e : Int) : List Char :=
  let ds := digitsOf e.natAbs
  (if e < 0 then '-' else '+') :: (if ds.length < 2 then '0' :: ds else ds)

def withPoint (ds : List Char) (whole : Int) : List Char × List Char :=
  if whole ≤ 0 then (['0'], List.replicate whole.natAbs '0' ++ ds)
  else
    let n := whole.toNat
    (ds.take n ++ List.replicate (n - ds.length) '0', ds.drop n)

def signText (negative : Bool) : List Char := if negative then ['-'] else []

/--
The fewest digits that read back: positional from 0.0001 up to 10^16, always with a point; beyond,
one digit, the point if more follow, and the exponent.
-/
def shortestText (x : Float) : String :=
  match form x with
  | .notNumber => "nan"
  | .infinite negative => String.ofList (signText negative ++ ['i', 'n', 'f'])
  | .finite b =>
    if b.mantissa = 0 then String.ofList (signText b.negative ++ ['0', '.', '0'])
    else
      let s := b.shortest
      let all := digitsOf s.digits
      let top := s.exponent + all.length - 1
      let ds := dropZeros all
      let body :=
        if -4 ≤ top ∧ top < 16 then
          let (whole, part) := withPoint ds (top + 1)
          whole ++ '.' :: (if part.isEmpty then ['0'] else part)
        else
          let (whole, part) := withPoint ds 1
          whole ++ (if part.isEmpty then [] else '.' :: part) ++ 'e' :: exponentText top
      String.ofList (signText b.negative ++ body)

def fixedText (b : Binary) (places : Nat) (point : Bool) : List Char :=
  let ds := digitsOf (b.ratio.timesTen places).round
  let ds := List.replicate (places + 1 - ds.length) '0' ++ ds
  let (whole, part) := (ds.take (ds.length - places), ds.drop (ds.length - places))
  whole ++ (if part.isEmpty && !point then [] else '.' :: part)

def exponentForm (b : Binary) (places : Nat) (point : Bool) : List Char :=
  let s := b.rounded (places + 1)
  let ds := digitsOf s.digits
  let ds := ds ++ List.replicate (places + 1 - ds.length) '0'
  let part := ds.drop 1
  let top := if b.mantissa = 0 then 0 else s.exponent + places
  ds.take 1 ++ (if part.isEmpty && !point then [] else '.' :: part) ++ 'e' :: exponentText top

def generalText (b : Binary) (count : Nat) (keep : Bool) : List Char :=
  let count := max count 1
  let s := b.rounded count
  let all := digitsOf s.digits
  let all := all ++ List.replicate (count - all.length) '0'
  let top := if b.mantissa = 0 then 0 else s.exponent + count - 1
  let ds := if keep then all else (match dropZeros all with | [] => ['0'] | ds => ds)
  if -4 ≤ top ∧ top < count then
    let (whole, part) := withPoint ds (top + 1)
    whole ++ (if part.isEmpty && !keep then [] else '.' :: part)
  else
    let (whole, part) := withPoint ds 1
    whole ++ (if part.isEmpty && !keep then [] else '.' :: part) ++ 'e' :: exponentText top

def toFloat (mantissa : Nat) (exponent : Int) : Float :=
  let top := exponent + (Nat.toDigits 10 mantissa).length
  if mantissa = 0 ∨ top < -400 then 0.0
  else if 400 < top then 1.0 / 0.0
  else Float.ofScientific mantissa (exponent < 0) exponent.natAbs

end SiteModules.Text.Decimal
