import TypedPreferences.Store.Stored

/-! Floating-point numbers from other numbers, rounded to the nearest; of two as near, the one whose
last bit is zero. -/

namespace TypedPreferences.Packed

/-- A quotient by a power of two, rounded to the nearest whole number, and to the even one when two
are as near. -/
def halveRounded (shift n : Nat) : Nat :=
  let quotient := n >>> shift
  let unit := 1 <<< shift
  let remainder := n % unit
  if 2 * remainder > unit || (2 * remainder == unit && quotient % 2 == 1) then
    quotient + 1
  else
    quotient

/-- A format of floating-point numbers: how many bits of the fraction are written, and the exponent
of the smallest number. -/
structure Format where
  fraction : Nat
  least : Int
  -- The bits of infinity.
  infinity : Nat

def format32 : Format := ⟨23, -149, 0xff <<< 23⟩

def format64 : Format := ⟨52, -1074, 0x7ff <<< 52⟩

/-- The bits of `m * 2 ^ q` without a sign. The bits of a number are its place among all numbers of
the format, so a fraction that is rounded up to the next power of two carries into the exponent. -/
def Format.round (f : Format) (m : Nat) (q : Int) : Nat :=
  if m = 0 then 0
  else
    -- The weight of the last bit that is kept; the smallest numbers share one.
    let unit := max (q + m.log2 - f.fraction) f.least
    let significand := if unit ≤ q then m <<< (q - unit).toNat else halveRounded (unit - q).toNat m
    min (((unit - f.least).toNat <<< f.fraction) + significand) f.infinity

def single (n : Int) : Binary32 :=
  ⟨UInt32.ofNat ((if n < 0 then 1 <<< 31 else 0) + format32.round n.natAbs 0)⟩

def double (n : Int) : Binary64 :=
  ⟨UInt64.ofNat ((if n < 0 then 1 <<< 63 else 0) + format64.round n.natAbs 0)⟩

/-- A number of 32 bits in 64 bits, which hold it exactly. What is no number stays so and becomes
quiet. -/
def widen (x : Binary32) : Binary64 :=
  let n := x.bits.toNat
  let sign := (n >>> 31) <<< 63
  let exponent := (n >>> 23) % 256
  let fraction := n % (1 <<< 23)
  -- Infinity and what is no number, the smallest numbers and zero, all others.
  if exponent = 255 then
    ⟨UInt64.ofNat (sign + format64.infinity +
      (if fraction = 0 then 0 else (fraction <<< 29) ||| (1 <<< 51)))⟩
  else if exponent = 0 then ⟨UInt64.ofNat (sign + format64.round fraction (-149))⟩
  else ⟨UInt64.ofNat (sign + format64.round ((1 <<< 23) + fraction) (exponent - 150))⟩

/-- A number of 64 bits in 32 bits, rounded. What is no number stays so and becomes quiet. -/
def narrow (x : Binary64) : Binary32 :=
  let n := x.bits.toNat
  let sign := (n >>> 63) <<< 31
  let exponent := (n >>> 52) % 2048
  let fraction := n % (1 <<< 52)
  -- The same three cases.
  if exponent = 2047 then
    ⟨UInt32.ofNat (sign + format32.infinity +
      (if fraction = 0 then 0 else (fraction >>> 29) ||| (1 <<< 22)))⟩
  else if exponent = 0 then ⟨UInt32.ofNat (sign + format32.round fraction (-1074))⟩
  else ⟨UInt32.ofNat (sign + format32.round ((1 <<< 52) + fraction) (exponent - 1075))⟩

end TypedPreferences.Packed
