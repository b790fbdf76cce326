import SiteModules.Text.Quoted

namespace SiteModules.Text.Digest

structure State where
  a : UInt32
  b : UInt32
  c : UInt32
  d : UInt32
  e : UInt32
  deriving DecidableEq, Repr

def State.add (s t : State) : State := ⟨s.a + t.a, s.b + t.b, s.c + t.c, s.d + t.d, s.e + t.e⟩

def initial : State := ⟨0x67452301, 0xEFCDAB89, 0x98BADCFE, 0x10325476, 0xC3D2E1F0⟩

def rotate (n : UInt32) (x : UInt32) : UInt32 := (x <<< n) ||| (x >>> (32 - n))

def bigEndian : Nat → Nat → List UInt8
  | 0, _ => []
  | width + 1, n => bigEndian width (n / 256) ++ [UInt8.ofNat (n % 256)]

/-- A one bit, zeros, and the length in bits, so that whole blocks of 64 bytes come out. -/
def pad (message : List UInt8) : List UInt8 :=
  let n := message.length
  message ++ 0x80 :: List.replicate ((119 - n % 64) % 64) 0 ++ bigEndian 8 (8 * n)

def word : List UInt8 → UInt32 :=
  List.foldl (fun w b => w <<< 8 ||| b.toUInt32) 0

def chunks {α : Type} (size : Nat) : Nat → List α → List (List α)
  | 0, _ => []
  | count + 1, xs => xs.take size :: chunks size count (xs.drop size)

def nextWord (ws : List UInt32) : UInt32 :=
  rotate 1 (ws.getD 2 0 ^^^ ws.getD 7 0 ^^^ ws.getD 13 0 ^^^ ws.getD 15 0)

def extend : Nat → List UInt32 → List UInt32
  | 0, ws => ws
  | n + 1, ws => extend n (nextWord ws :: ws)

def schedule (block : List UInt8) : List UInt32 :=
  (extend 64 ((chunks 4 16 block).map word).reverse).reverse

def mix (round : Nat) (b c d : UInt32) : UInt32 × UInt32 :=
  if round < 20 then ((b &&& c) ||| (~~~b &&& d), 0x5A827999)
  else if round < 40 then (b ^^^ c ^^^ d, 0x6ED9EBA1)
  else if round < 60 then ((b &&& c) ||| (b &&& d) ||| (c &&& d), 0x8F1BBCDC)
  else (b ^^^ c ^^^ d, 0xCA62C1D6)

def step (s : State) (round : Nat) (w : UInt32) : State :=
  let (f, k) := mix round s.b s.c s.d
  ⟨rotate 5 s.a + f + s.e + k + w, s.a, rotate 30 s.b, s.c, s.d⟩

def rounds : Nat → State → List UInt32 → State
  | _, s, [] => s
  | n, s, w :: ws => rounds (n + 1) (step s n w) ws

def block (s : State) (bytes : List UInt8) : State := s.add (rounds 0 s (schedule bytes))

def digest (message : List UInt8) : State :=
  let padded := pad message
  (chunks 64 (padded.length / 64) padded).foldl block initial

def short (message : List UInt8) : String := String.ofList (hex 8 (digest message).a.toNat)

end SiteModules.Text.Digest
