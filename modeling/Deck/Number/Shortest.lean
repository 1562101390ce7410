import Deck.Number.Binary64

/-!
# The shortest decimal that reads back

A finite value is written with the fewest digits that `Binary64.ofDecimal` still
takes to it, and of the decimals with that many digits with the nearest one.  The
numbers that go to a value form an interval around it, whose ends belong to it
when the mantissa is even.  For `1, 2, …, 17` digits the two neighbours of the
value on that decimal grid are tried; seventeen always suffice.
-/

namespace Deck.Number

/-- Digits and the exponent of ten of the last one. -/
structure Decimal where
  digits : Nat
  exponent : Int
  deriving DecidableEq, Repr

/-- Numbers between `low / scale` and `high / scale`, around `value / scale`. -/
structure Neighbourhood where
  value : Nat
  low : Nat
  high : Nat
  scale : Nat
  closed : Bool

namespace Neighbourhood

/-- The numbers that are rounded to `mantissa · 2 ^ exponent`.  Below a power of two the
values lie twice as dense. -/
def ofBinary (mantissa : Nat) (exponent : Int) : Neighbourhood :=
  let dense := mantissa = Nat.pow 2 52 ∧ Binary64.leastExponent < exponent
  let up := Nat.pow 2 (exponent - 2).toNat
  { value := 4 * mantissa * up
    low := (4 * mantissa - (if dense then 1 else 2)) * up
    high := (4 * mantissa + 2) * up
    scale := Nat.pow 2 (2 - exponent).toNat
    closed := mantissa % 2 = 0 }

/-- Whether `num / den` lies in the neighbourhood. -/
def mem (h : Neighbourhood) (num den : Nat) : Bool :=
  if h.closed then h.low * den ≤ num * h.scale && num * h.scale ≤ h.high * den
  else h.low * den < num * h.scale && num * h.scale < h.high * den

/-- The multiple of `10 ^ exponent` nearest to the value, of the two beside it that lie in
the neighbourhood; half way between them it is the even one. -/
def nearest? (h : Neighbourhood) (exponent : Int) : Option Nat :=
  let up := Nat.pow 10 exponent.toNat
  let down := Nat.pow 10 (-exponent).toNat
  let below := h.value * down / (h.scale * up)
  let rest := h.value * down - below * (h.scale * up)
  match h.mem (below * up) down, h.mem ((below + 1) * up) down with
  | true, true =>
    let unit := h.scale * up
    some (if 2 * rest < unit ∨ 2 * rest = unit ∧ below % 2 = 0 then below else below + 1)
  | true, false => some below
  | false, true => some (below + 1)
  | false, false => none

/-- The number of places before the point, negative for noughts after it: the least `p` with
`value < 10 ^ p`, searched upwards from `p` for at most `fuel` steps. -/
def places (h : Neighbourhood) : (fuel : Nat) → Int → Int
  | 0, p => p
  | fuel + 1, p =>
    if h.value * Nat.pow 10 (-p).toNat < h.scale * Nat.pow 10 p.toNat then p else h.places fuel (p + 1)

end Neighbourhood

/-- The trailing noughts of the digits are taken off, at most `fuel` of them. -/
def Decimal.reduce : (fuel : Nat) → Decimal → Decimal
  | 0, d => d
  | fuel + 1, d =>
    if d.digits ≠ 0 ∧ d.digits % 10 = 0 then Decimal.reduce fuel ⟨d.digits / 10, d.exponent + 1⟩
    else d

/-- The shortest decimal that goes to `mantissa · 2 ^ exponent`, for a positive mantissa. -/
def shortest (mantissa : Nat) (exponent : Int) : Decimal :=
  let h := Neighbourhood.ofBinary mantissa exponent
  let bits : Int := exponent + Nat.log2 mantissa
  let places := h.places 4 (bits * 30103 / 100000)
  let found := (List.range 17).findSome? fun n =>
    let e := places - (n + 1 : Nat)
    (h.nearest? e).map fun digits => (⟨digits, e⟩ : Decimal)
  (found.getD ⟨0, 0⟩).reduce 20

end Deck.Number
