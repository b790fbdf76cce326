namespace SiteModules.Text.Utf8

def encode (cs : List Char) : List UInt8 := cs.flatMap String.utf8EncodeChar

def ofString (s : String) : List UInt8 := encode s.toList

def size : List Char → Nat
  | [] => 0
  | c :: cs => c.utf8Size + size cs

def isTail (b : UInt8) : Bool := 0x80 ≤ b && b < 0xC0

def tail (b : UInt8) : Nat := b.toNat % 0x40

def three? (a b c : UInt8) : Option Char :=
  let n := (a.toNat % 0x10) * 0x1000 + tail b * 0x40 + tail c
  if isTail b && isTail c && 0x800 ≤ n && !(0xD800 ≤ n && n < 0xE000) then some (Char.ofNat n)
  else none

def four? (a b c d : UInt8) : Option Char :=
  let n := (a.toNat % 0x08) * 0x40000 + tail b * 0x1000 + tail c * 0x40 + tail d
  if isTail b && isTail c && isTail d && 0x10000 ≤ n && n < 0x110000 then some (Char.ofNat n)
  else none

def decode : List UInt8 → Option (List Char)
  | [] => some []
  | a :: rest =>
    if a < 0x80 then return Char.ofNat a.toNat :: (← decode rest)
    else match rest with
      | [] => none
      | b :: rest =>
        if 0xC2 ≤ a && a < 0xE0 && isTail b then
          return Char.ofNat ((a.toNat % 0x20) * 0x40 + tail b) :: (← decode rest)
        else match rest with
          | [] => none
          | c :: rest =>
            if 0xE0 ≤ a && a < 0xF0 then return (← three? a b c) :: (← decode rest)
            else match rest with
              | [] => none
              | d :: rest =>
                if 0xF0 ≤ a && a < 0xF8 then return (← four? a b c d) :: (← decode rest)
                else none

end SiteModules.Text.Utf8
