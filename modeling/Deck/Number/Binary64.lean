/-!
# Binary numbers of double precision

A value of the format has a mantissa of at most 53 bits and an exponent of two
that is at least `-1074`.  `Binary64.ofDecimal` gives the value nearest to a
decimal one; of two that are equally near it takes the one with the even mantissa.
-/

namespace Deck.Number

/-- A value of the format: a finite one is `± mantissa · 2 ^ exponent`. -/
inductive Binary64 where
  | finite (negative : Bool) (mantissa : Nat) (exponent : Int)
  | infinite (negative : Bool)
  | undefined
  deriving DecidableEq, Repr, Inhabited

/-- `num / den` as a whole number, a half going to the even neighbour. -/
def roundEven (num den : Nat) : Nat :=
  let q := num / den
  let twice := 2 * (num % den)
  if twice < den then q
  else if den < twice then q + 1
  else if q % 2 = 0 then q
  else q + 1

namespace Binary64

/-- The least exponent. -/
def leastExponent : Int := -1074

/-- The value nearest to `num / den`, both positive. -/
def ofRatio (negative : Bool) (num den : Nat) : Binary64 :=
  let scaled (e : Int) : Nat × Nat :=
    if e < 0 then (num * Nat.pow 2 e.natAbs, den) else (num, den * Nat.pow 2 e.natAbs)
  let low : Int := (Nat.log2 num : Int) - Nat.log2 den - 53
  let s := scaled low
  let e := max leastExponent (if s.1 < s.2 * Nat.pow 2 53 then low else low + 1)
  let s := scaled e
  let m := roundEven s.1 s.2
  let m' := if m = Nat.pow 2 53 then Nat.pow 2 52 else m
  let e' := if m = Nat.pow 2 53 then e + 1 else e
  if 971 < e' then .infinite negative else .finite negative m' e'

/-- The number of decimal digits. -/
def decimalLength (n : Nat) : Nat := (Nat.toDigits 10 n).length

/-- The value nearest to `± digits · 10 ^ exponent`.  Beyond 400 places to either side the
answer is known without a computation. -/
def ofDecimal (negative : Bool) (digits : Nat) (exponent : Int) : Binary64 :=
  let place : Int := decimalLength digits + exponent
  if digits = 0 ∨ place < -400 then .finite negative 0 0
  else if 400 < place then .infinite negative
  else if exponent < 0 then ofRatio negative digits (Nat.pow 10 exponent.natAbs)
  else ofRatio negative (digits * Nat.pow 10 exponent.natAbs) 1

end Binary64

end Deck.Number
