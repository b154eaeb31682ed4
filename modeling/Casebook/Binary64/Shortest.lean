import Casebook.Binary64.Basic
import Casebook.Decimal

/-!
# Casebook.Binary64.Shortest

The shortest decimal numeral that reads back as a given double.

A positive double owns the reals that round to it: half a gap to either side, the ends
included iff the significand is even.  On the grid of numerals with `k` digits only the two
neighbours of the double have to be looked at: if any point of the grid is inside, one of
them is.  The first `k` with a hit gives the numeral; of two hits the nearer is taken.

* `Span` — the reals that round to a double;
* `Span.nearest?` — the hit on one grid;
* `shortest` — the numeral.
-/

namespace Casebook.Binary64

-- powers are those that `Nat` and `Int` come with
attribute [local instance (high)] instPowNat

/-- A double and the reals that round to it, in quarters of a unit. -/
structure Span where
  low : Nat
  value : Nat
  high : Nat
  closed : Bool

namespace Span

/-- The span of the magnitude `m * 2 ^ e`.  Below a power of two the gap is half as wide. -/
def ofMagnitude (m e : Nat) : Span :=
  let value := 4 * (m * 2 ^ e)
  let gap := 2 * 2 ^ e
  ⟨value - (if m = 2 ^ (52 : Nat) ∧ e ≠ 0 then gap / 2 else gap), value, value + gap, m % 2 = 0⟩

/-- Whether `n / d` quarters of a unit are inside. -/
def contains (s : Span) (n d : Nat) : Bool :=
  if s.closed then s.low * d ≤ n && n ≤ s.high * d else s.low * d < n && n < s.high * d

/-- The coefficient `c` nearest to the value such that `c * 10 ^ scale` is inside. -/
def nearest? (tie : Tie) (s : Span) (scale : Int) : Option Nat :=
  let step := 10 ^ scale.toNat * (4 * unitsPerOne)
  let parts := 10 ^ (-scale).toNat
  let below := s.value * parts / step
  let above := below + 1
  match s.contains (below * step) parts, s.contains (above * step) parts with
  | false, false => none
  | true, false => some below
  | false, true => some above
  | true, true =>
      let fromBelow := s.value * parts - below * step
      let fromAbove := above * step - s.value * parts
      if fromBelow < fromAbove then some below
      else if fromAbove < fromBelow then some above
      else match tie with
        | .up => some above
        | .even => some (if below % 2 = 0 then below else above)

/-- The place of the value's first digit: its magnitude is at least `10 ^ x` and less than
`10 ^ (x + 1)`.  Every positive double exceeds `10 ^ -340`. -/
def firstPlace (s : Span) : Int :=
  let scaled := s.value * 10 ^ (340 : Nat) / (4 * unitsPerOne)
  (Nat.toDigits 10 scaled).length - 341

end Span

/-- The numeral of a positive magnitude with the fewest digits that reads back.  Seventeen
digits always do. -/
def shortest (tie : Tie) (m e : Nat) : Decimal :=
  let span := Span.ofMagnitude m e
  let place := span.firstPlace
  let hit := (List.range 17).findSome? fun (k : Nat) =>
    (span.nearest? tie (place - k)).map fun c => Decimal.ofCoefficient c (place - k)
  hit.getD (Decimal.ofCoefficient m e)

/-- How doubles are written in one format. -/
structure Layout where
  /-- Which of two equally near numerals. -/
  tie : Tie
  /-- The places of a first digit for which no exponent is used. -/
  positional : Int → Bool
  /-- Whether whole numbers end in `.0`. -/
  point : Bool
  nan : String
  infinity : String

/-- The text of a double in a format. -/
def text (layout : Layout) : Binary64 → String
  | nan => layout.nan
  | infinite negative => sign negative ++ layout.infinity
  | finite negative m e _ =>
      let numeral := if m = 0 then ⟨['0'], 0⟩ else shortest layout.tie m e
      sign negative ++
        if layout.positional numeral.exponent then numeral.positional layout.point
        else numeral.scientific
where
  sign (negative : Bool) : String := if negative then "-" else ""

end Casebook.Binary64
