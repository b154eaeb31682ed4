/-!
# Casebook.Decimal

Decimal numerals: significant digits with the place of the first one, and the two ways they
are laid out.

* `Decimal.ofCoefficient` — `c * 10 ^ s` without trailing zeros;
* `Decimal.positional` — `0.00012`, `120`, never an exponent;
* `Decimal.scientific` — `1.2e-4`, one digit before the point.
-/

namespace Casebook

/-- The numeral `d.ddd… * 10 ^ exponent`. -/
structure Decimal where
  digits : List Char
  exponent : Int
deriving DecidableEq

/-- Where a value lies halfway between two numerals of the same length. -/
inductive Tie where
  /-- The greater numeral. -/
  | up
  /-- The numeral whose last digit is even. -/
  | even
deriving DecidableEq

namespace Decimal

/-- `xs` without the zeros at its end, but never without its first digit. -/
def dropTrailingZeros : List Char → List Char
  | [] => []
  | c :: cs =>
      match dropTrailingZeros cs with
      | ['0'] => [c]
      | rest => c :: rest

/-- The numeral of `coefficient * 10 ^ scale`. -/
def ofCoefficient (coefficient : Nat) (scale : Int) : Decimal :=
  let digits := Nat.toDigits 10 coefficient
  ⟨dropTrailingZeros digits, scale + digits.length - 1⟩

/-- Every place written out.  `point` asks for a digit after the point even where the
numeral is whole. -/
def positional (d : Decimal) (point : Bool) : String :=
  if d.exponent < 0 then
    String.ofList ("0.".toList ++ List.replicate (-d.exponent - 1).toNat '0' ++ d.digits)
  else
    let places := d.exponent.toNat + 1
    let whole := d.digits.take places ++ List.replicate (places - d.digits.length) '0'
    match d.digits.drop places with
    | [] => String.ofList (if point then whole ++ ".0".toList else whole)
    | fraction => String.ofList (whole ++ '.' :: fraction)

/-- One digit, the others behind a point, and a signed exponent. -/
def scientific (d : Decimal) : String :=
  let mantissa := match d.digits with
    | first :: second :: rest => String.ofList (first :: '.' :: second :: rest)
    | digits => String.ofList digits
  let sign := if d.exponent < 0 then "-" else "+"
  mantissa ++ "e" ++ sign ++ toString d.exponent.natAbs

end Decimal

end Casebook
