import Deck.Number.Shortest

/-!
# Writing a binary number

The digits of a value are those of its shortest decimal.  Where the point goes and
when an exponent is written is a matter of layout.

A value whose first digit stands for `10 ^ e` is written by places when `e` is
within the bounds of the layout, and by an exponent otherwise.
-/

namespace Deck.Number

/-- When a number is written by places, and how wide an exponent is. -/
structure Layout where
  leastPlace : Int
  greatestPlace : Int
  exponentWidth : Nat

/-- `n` with noughts in front up to `width` digits. -/
def padded (width n : Nat) : String :=
  let ds := Nat.toDigits 10 n
  String.ofList (List.replicate (width - ds.length) '0' ++ ds)

/-- By places, with one digit at least on either side of the point. -/
def Decimal.byPlaces (d : Decimal) : String :=
  if 0 ≤ d.exponent then
    toString (d.digits * Nat.pow 10 d.exponent.toNat) ++ ".0"
  else
    let unit := Nat.pow 10 d.exponent.natAbs
    toString (d.digits / unit) ++ "." ++ padded d.exponent.natAbs (d.digits % unit)

/-- By the first digit, the others after the point, and an exponent with its sign. -/
def Decimal.byExponent (width : Nat) (d : Decimal) : String :=
  let ds := Nat.toDigits 10 d.digits
  let e : Int := d.exponent + ds.length - 1
  String.ofList (ds.take 1) ++ (if 1 < ds.length then "." else "") ++ String.ofList (ds.drop 1)
    ++ "e" ++ (if e < 0 then "-" else "+") ++ padded width e.natAbs

/-- The text of a decimal. -/
def Decimal.text (l : Layout) (d : Decimal) : String :=
  let e : Int := d.exponent + Binary64.decimalLength d.digits - 1
  if l.leastPlace ≤ e ∧ e ≤ l.greatestPlace then d.byPlaces else d.byExponent l.exponentWidth

/-- The text of a value. -/
def Binary64.text (l : Layout) : Binary64 → String
  | .undefined => "nan"
  | .infinite negative => if negative then "-inf" else "inf"
  | .finite negative mantissa exponent =>
    (if negative then "-" else "") ++
      (if mantissa = 0 then (⟨0, 0⟩ : Decimal) else shortest mantissa exponent).text l

end Deck.Number
