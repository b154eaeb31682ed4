import Casebook.Json.Error

/-!
# Casebook.Json.Numeral

Numbers in JSON text.  The digits are gathered into a significand of 64 bits; digits that no
longer fit are dropped, whole ones counting as a power of ten.  A number with a fraction, an
exponent, or more than 64 bits becomes a double by one multiplication or division by a power
of ten, each rounded; so the result can differ from the nearest double in the last place.

* `Numeral.scan` — a number at the start of a text, and the rest;
* `Numeral.number` — what it stands for.
-/

namespace Casebook.Json

-- powers are those that `Nat` and `Int` come with
attribute [local instance (high)] instPowNat

/-- A number as written. -/
structure Numeral where
  negative : Bool
  whole : List Nat
  /-- The digits after the point. -/
  fraction : Option (List Nat)
  /-- The sign (negative or not) and digits of the exponent. -/
  exponent : Option (Bool × List Nat)

namespace Numeral

/-- The value of a digit. -/
def digit? (c : Char) : Option Nat := if c.isDigit then some (c.toNat - '0'.toNat) else none

/-- The digits at the start of a text, and the rest. -/
def digits : List Char → List Nat × List Char
  | [] => ([], [])
  | c :: cs =>
      match digit? c with
      | some d =>
          let (ds, rest) := digits cs
          (d :: ds, rest)
      | none => ([], c :: cs)

/-- At least one digit. -/
def digits1 (cs : List Char) : Except ReadError (List Nat × List Char) :=
  match digits cs, cs with
  | ([], _), [] => .error (.unfinished .value)
  | ([], _), _ :: _ => .error .invalidNumber
  | result, _ => .ok result

/-- The digits before the point; no other digit follows a leading zero. -/
def scanWhole (cs : List Char) : Except ReadError (List Nat × List Char) := do
  let (ds, rest) ← digits1 cs
  match ds with
  | 0 :: _ :: _ => .error .invalidNumber
  | _ => .ok (ds, rest)

/-- The digits after a point, if there is one. -/
def scanFraction (cs : List Char) : Except ReadError (Option (List Nat) × List Char) :=
  match cs with
  | '.' :: rest => do
      let (ds, rest) ← digits1 rest
      .ok (some ds, rest)
  | _ => .ok (none, cs)

/-- The digits of an exponent after its sign. -/
def scanPower (negative : Bool) (cs : List Char) :
    Except ReadError (Option (Bool × List Nat) × List Char) := do
  let (ds, rest) ← digits1 cs
  .ok (some (negative, ds), rest)

/-- An exponent, if there is one. -/
def scanExponent (cs : List Char) : Except ReadError (Option (Bool × List Nat) × List Char) :=
  match cs with
  | 'e' :: rest | 'E' :: rest =>
      match rest with
      | '+' :: rest => scanPower false rest
      | '-' :: rest => scanPower true rest
      | _ => scanPower false rest
  | _ => .ok (none, cs)

/-- A number after its sign. -/
def scanUnsigned (negative : Bool) (cs : List Char) :
    Except ReadError (Numeral × List Char) := do
  let (whole, cs) ← scanWhole cs
  let (fraction, cs) ← scanFraction cs
  let (exponent, cs) ← scanExponent cs
  .ok ({ negative, whole, fraction, exponent }, cs)

/-- A number at the start of a text, and the rest of the text. -/
def scan (cs : List Char) : Except ReadError (Numeral × List Char) :=
  match cs with
  | '-' :: rest => scanUnsigned true rest
  | _ => scanUnsigned false cs

/-! ## what a number stands for -/

/-- The number that digits write. -/
def ofDigits (ds : List Nat) : Nat := ds.foldl (fun n d => 10 * n + d) 0

/-- Append digits to a significand as long as it fits into 64 bits.  Gives the significand and
how many digits were left out. -/
def absorb (significand : Nat) : List Nat → Nat × Nat
  | [] => (significand, 0)
  | d :: ds =>
      if significand * 10 + d < 2 ^ (64 : Nat) then absorb (significand * 10 + d) ds
      else (significand, ds.length + 1)

/-- The greatest power of ten that is a double. -/
def greatestPower : Nat := 308

/-- `x / 10 ^ k`, by the greatest power as long as `k` is beyond it. -/
def divPower (x : Binary64) (k : Nat) : Binary64 :=
  if k ≤ greatestPower then x.div (.powerOfTen k)
  else if x.toInt? = some 0 then x
  else divPower (x.div (.powerOfTen greatestPower)) (k - greatestPower)
termination_by k
decreasing_by simp only [greatestPower] at *; omega

/-- `significand * 10 ^ exponent` as a double. -/
def scaled (significand : Nat) (exponent : Int) : Except ReadError Binary64 :=
  let x := Binary64.ofInt significand
  if exponent < 0 then .ok (divPower x exponent.natAbs)
  else if exponent.natAbs ≤ greatestPower then
    let y := x.mul (.powerOfTen exponent.natAbs)
    if y.isFinite then .ok y else .error .numberOutOfRange
  else if significand = 0 then .ok x
  else .error .numberOutOfRange

/-- The greatest exponent that is read as one. -/
def greatestExponent : Nat := 2 ^ (31 : Nat) - 1

/-- The magnitude of a number as a double. -/
def magnitude (significand : Nat) (place : Int) :
    Option (Bool × List Nat) → Except ReadError Binary64
  | none => scaled significand place
  | some (negative, ds) =>
      let e := ofDigits ds
      if e ≤ greatestExponent then scaled significand (if negative then place - e else place + e)
      else if significand ≠ 0 ∧ negative = false then .error .numberOutOfRange
      else .ok (.zero false)

/-- A finite double as a number. -/
def ofDouble (x : Binary64) : Except ReadError Number :=
  if h : x.isFinite = true then .ok (.double x h) else .error .numberOutOfRange

/-- What a number stands for: an integer if it is written as one and fits, and is not a
negative zero; else a double. -/
def number (n : Numeral) : Except ReadError Number := do
  let (significand, dropped) := absorb 0 n.whole
  match n.fraction, n.exponent, dropped with
  | none, none, 0 =>
      let value := Binary64.signed n.negative significand
      if h : -2 ^ (63 : Nat) ≤ value ∧ value < 2 ^ (64 : Nat) ∧
          ¬ (n.negative = true ∧ significand = 0) then
        .ok (.integer value ⟨h.1, h.2.1⟩)
      else sign (.ofInt significand)
  | fraction, exponent, dropped =>
      let places := fraction.getD []
      let (significand, left) := absorb significand places
      let place : Int := dropped - (places.length - left : Nat)
      sign (← magnitude significand place exponent)
where
  sign (x : Binary64) : Except ReadError Number := ofDouble (if n.negative then x.neg else x)

end Numeral

end Casebook.Json
