/-!
# Casebook.Binary64.Basic

The numbers of the value model: IEEE 754 double precision, described by what a number is
and not by how its bits are packed.  Every finite double is a whole number of *units*, the
smallest positive double `2 ^ -1074`, so comparison is comparison of integers:

* `toInt?` — the number in units, none for NaN;
* `eq_of_toInt?_eq` — but for zero, each number is written in one way;
* `equal_comm`, `equal_trans`, `equal_self_iff` — IEEE equality, which fails on NaN alone.
-/

namespace Casebook

-- powers are those that `Nat` and `Int` come with
attribute [local instance (high)] instPowNat

namespace Binary64

/-- The significands and scales that doubles use: 53 bits, and full ones above the lowest
scale, so that each magnitude is written in one way. -/
def Canonical (significand scale : Nat) : Prop :=
  significand < 2 ^ (53 : Nat) ∧ scale ≤ 2045 ∧ (scale = 0 ∨ 2 ^ (52 : Nat) ≤ significand)

instance (significand scale : Nat) : Decidable (Canonical significand scale) :=
  inferInstanceAs (Decidable (_ ∧ _ ∧ _))

end Binary64

/-- A double.  The finite one of significand `m` and scale `e` is `± m * 2 ^ e` units. -/
inductive Binary64 where
  | nan
  | infinite (negative : Bool)
  | finite (negative : Bool) (significand scale : Nat)
      (canonical : Binary64.Canonical significand scale)
deriving DecidableEq

namespace Binary64

/-- How many units make the number one. -/
def unitsPerOne : Nat := 2 ^ (1074 : Nat)

/-- Where the infinities stand among the units: just beyond every finite double. -/
def beyond : Nat := 2 ^ (2098 : Nat)

/-- An integer of the given sign and magnitude. -/
def signed (negative : Bool) (magnitude : Nat) : Int :=
  if negative then -(magnitude : Int) else magnitude

/-- The number in units; both zeros are 0. -/
def toInt? : Binary64 → Option Int
  | nan => none
  | infinite negative => some (signed negative beyond)
  | finite negative m e _ => some (signed negative (m * 2 ^ e))

def zero (negative : Bool) : Binary64 := finite negative 0 0 (by decide)

instance : Inhabited Binary64 := ⟨zero false⟩

def isFinite : Binary64 → Bool
  | finite .. => true
  | _ => false

/-- The same magnitude with the other sign. -/
def neg : Binary64 → Binary64
  | nan => nan
  | infinite negative => infinite !negative
  | finite negative m e h => finite (!negative) m e h

/-! ## one way to write a number -/

section Canonical

variable {m e n f : Nat}

/-- Of two canonical forms, the one of the greater scale is the greater number. -/
theorem Canonical.mul_pow_lt (hm : Canonical m e) (hn : Canonical n f) (h : e < f) :
    m * 2 ^ e < n * 2 ^ f := by
  have hfull : 2 ^ (52 : Nat) ≤ n := hn.2.2.resolve_left (by omega)
  calc m * 2 ^ e < 2 ^ (53 : Nat) * 2 ^ e :=
        Nat.mul_lt_mul_of_pos_right hm.1 (Nat.two_pow_pos e)
    _ = 2 ^ (52 : Nat) * 2 ^ (e + 1) := by
        rw [← Nat.pow_add, ← Nat.pow_add]
        congr 1
        omega
    _ ≤ n * 2 ^ f := Nat.mul_le_mul hfull (Nat.pow_le_pow_right (by decide) h)

/-- A number has one canonical form. -/
theorem Canonical.unique (hm : Canonical m e) (hn : Canonical n f) (h : m * 2 ^ e = n * 2 ^ f) :
    m = n ∧ e = f := by
  have he : e = f := by
    rcases Nat.lt_trichotomy e f with hlt | heq | hlt
    · exact absurd (hm.mul_pow_lt hn hlt) (by omega)
    · exact heq
    · exact absurd (hn.mul_pow_lt hm hlt) (by omega)
  subst he
  exact ⟨Nat.eq_of_mul_eq_mul_right (Nat.two_pow_pos e) h, rfl⟩

/-- Every finite number is nearer to zero than the infinities are. -/
theorem Canonical.mul_pow_lt_beyond (hm : Canonical m e) : m * 2 ^ e < beyond :=
  calc m * 2 ^ e < 2 ^ (53 : Nat) * 2 ^ e :=
        Nat.mul_lt_mul_of_pos_right hm.1 (Nat.two_pow_pos e)
    _ = 2 ^ (53 + e) := (Nat.pow_add 2 53 e).symm
    _ ≤ beyond := by
        -- for a variable exponent, so that no power is worked out
        have hpow : ∀ k, 53 + e ≤ k → 2 ^ (53 + e) ≤ 2 ^ k :=
          fun _ => Nat.pow_le_pow_right (by decide)
        unfold beyond
        exact hpow 2098 (Nat.add_le_add_left hm.2.1 53)

end Canonical

theorem natAbs_signed (negative : Bool) (m : Nat) : (signed negative m).natAbs = m := by
  cases negative with
  | false => exact Int.natAbs_natCast m
  | true => exact (Int.natAbs_neg m).trans (Int.natAbs_natCast m)

/-- Apart from zero, a signed number tells its sign and its magnitude. -/
theorem signed_inj {negative negative' : Bool} {m n : Nat}
    (h : signed negative m = signed negative' n) (hm : signed negative m ≠ 0) :
    negative = negative' ∧ m = n := by
  have hmn : m = n := by rw [← natAbs_signed negative m, h, natAbs_signed]
  subst hmn
  refine ⟨?_, rfl⟩
  cases negative <;> cases negative' <;>
    first
    | rfl
    | simp only [signed, if_true, Bool.false_eq_true, if_false] at h hm
      omega

/-- Doubles of one value are one double, unless they are the two zeros. -/
theorem eq_of_toInt?_eq {x y : Binary64} {a : Int} (hx : x.toInt? = some a)
    (hy : y.toInt? = some a) (ha : a ≠ 0) : x = y := by
  cases x with
  | nan => cases hx
  | infinite negative =>
      obtain rfl := Option.some.inj hx
      cases y with
      | nan => cases hy
      | infinite negative' =>
          obtain ⟨rfl, -⟩ := signed_inj (Option.some.inj hy).symm ha
          rfl
      | finite negative' n f hn =>
          obtain ⟨-, hlt⟩ := signed_inj (Option.some.inj hy).symm ha
          exact absurd hn.mul_pow_lt_beyond (by omega)
  | finite negative m e hm =>
      obtain rfl := Option.some.inj hx
      cases y with
      | nan => cases hy
      | infinite negative' =>
          obtain ⟨-, hlt⟩ := signed_inj (Option.some.inj hy).symm ha
          exact absurd hm.mul_pow_lt_beyond (by omega)
      | finite negative' n f hn =>
          obtain ⟨rfl, hmn⟩ := signed_inj (Option.some.inj hy).symm ha
          obtain ⟨rfl, rfl⟩ := hm.unique hn hmn
          rfl

/-! ## comparison -/

/-- IEEE equality: NaN equals nothing and the zeros are equal. -/
def equal (x y : Binary64) : Bool :=
  match x.toInt?, y.toInt? with
  | some a, some b => a == b
  | _, _ => false

/-- IEEE order: nothing is below or above NaN. -/
def less (x y : Binary64) : Bool :=
  match x.toInt?, y.toInt? with
  | some a, some b => a < b
  | _, _ => false

/-- Doubles are equal iff they have a value, and the same one.  The two zeros share theirs, and NaN
has none. -/
theorem equal_iff {x y : Binary64} :
    x.equal y = true ↔ ∃ a, x.toInt? = some a ∧ y.toInt? = some a := by
  unfold equal
  cases x.toInt? <;> cases y.toInt? <;> grind

theorem equal_comm (x y : Binary64) : x.equal y = y.equal x := by
  unfold equal
  cases x.toInt? <;> cases y.toInt? <;> simp [Bool.beq_comm]

/-- Equality goes through a third double, which cannot be NaN. -/
theorem equal_trans {x y z : Binary64} (hxy : x.equal y = true) (hyz : y.equal z = true) :
    x.equal z = true := by
  grind [equal_iff]

/-- Only NaN differs from itself. -/
theorem equal_self_iff (x : Binary64) : x.equal x = true ↔ x ≠ nan := by
  cases x <;> simp [equal, toInt?]

theorem equal_self_of_isFinite {x : Binary64} (h : x.isFinite = true) : x.equal x = true := by
  rw [equal_self_iff]
  rintro rfl
  cases h

/-! ## the interchange format -/

/-- The double of 64 bits: sign, eleven bits of exponent, 52 bits of fraction. -/
def ofBits (bits : UInt64) : Binary64 :=
  let b := bits.toNat
  let negative := b / 2 ^ (63 : Nat) == 1
  unpack negative ⟨b / 2 ^ (52 : Nat) % 2 ^ (11 : Nat), Nat.mod_lt _ (by decide)⟩
    ⟨b % 2 ^ (52 : Nat), Nat.mod_lt _ (by decide)⟩
where
  unpack (negative : Bool) (exponent : Fin (2 ^ (11 : Nat)))
      (fraction : Fin (2 ^ (52 : Nat))) : Binary64 :=
    if hi : exponent.val = 2047 then
      if fraction.val = 0 then infinite negative else nan
    else if hz : exponent.val = 0 then
      finite negative fraction 0 ⟨by omega, by omega, .inl rfl⟩
    else
      finite negative (2 ^ (52 : Nat) + fraction) (exponent - 1)
        ⟨by omega, by omega, .inr (by omega)⟩

/-- The bits of a double; NaN has the quiet pattern without payload. -/
def toBits : Binary64 → UInt64
  | nan => pack false 2047 (2 ^ (51 : Nat))
  | infinite negative => pack negative 2047 0
  | finite negative m e _ =>
      if m < 2 ^ (52 : Nat) then pack negative 0 m else pack negative (e + 1) (m - 2 ^ (52 : Nat))
where
  pack (negative : Bool) (exponent fraction : Nat) : UInt64 :=
    UInt64.ofNat ((if negative then 2 ^ (63 : Nat) else 0) + exponent * 2 ^ (52 : Nat) + fraction)

end Binary64

end Casebook
