import Casebook.Binary64.Basic

/-!
# Casebook.Binary64.Rounding

The nearest double to a ratio of integers, ties to the even significand, and the
operations that round: reading an integer, multiplication and division.

* `roundRatio` — the nearest double to `num / den` units;
* `ofInt` — the nearest double to an integer, which is finite for integers of 64 bits;
* `safeInteger?` — the integer a double stands for, where both forms are exact;
* `safeInteger?_ofInt`, `isFinite_of_safeInteger?` — a safe integer is a finite double.
-/

namespace Casebook.Binary64

-- powers are those that `Nat` and `Int` come with
attribute [local instance (high)] instPowNat

/-- The nearest integer to `num / den`; a half goes to the even neighbour. -/
def halfEven (num den : Nat) : Nat :=
  let q := num / den
  let r := num % den
  if 2 * r < den then q
  else if den < 2 * r then q + 1
  else if q % 2 = 0 then q else q + 1

/-- Rounding never goes below the integer part. -/
theorem div_le_halfEven (num den : Nat) : num / den ≤ halfEven num den := by
  grind [halfEven]

/-- A number keeps more than `k` of its bits when those beyond are dropped. -/
theorem two_pow_log2_sub_le {n k : Nat} (h : n.log2 - k ≠ 0) :
    2 ^ k ≤ n / 2 ^ (n.log2 - k) := by
  have hn : n ≠ 0 := fun hz => h (by simp [hz])
  rw [Nat.le_div_iff_mul_le (Nat.two_pow_pos _), ← Nat.pow_add,
    Nat.add_sub_cancel' (by omega)]
  exact Nat.log2_self_le hn

/-- The nearest double to `num / den` units.  The scale is the least one at which 53 bits
hold the integer part; past the greatest scale lie the infinities. -/
def roundRatio (negative : Bool) (num den : Nat) : Binary64 :=
  let scale := (num / den).log2 - 52
  let m := halfEven num (den * 2 ^ scale)
  have hm : scale = 0 ∨ 2 ^ (52 : Nat) ≤ m := by
    by_cases hs : scale = 0
    · exact .inl hs
    · exact .inr <| Nat.le_trans (two_pow_log2_sub_le hs)
        (Nat.div_div_eq_div_mul num den _ ▸ div_le_halfEven num _)
  if h53 : m < 2 ^ (53 : Nat) then
    if hs : scale ≤ 2045 then finite negative m scale ⟨h53, hs, hm⟩ else infinite negative
  else if hs : scale + 1 ≤ 2045 then
    finite negative (2 ^ (52 : Nat)) (scale + 1) ⟨by decide, hs, .inr (Nat.le_refl _)⟩
  else infinite negative

/-- The nearest double to an integer. -/
def ofInt (n : Int) : Binary64 := roundRatio (n < 0) (n.natAbs * unitsPerOne) 1

/-- A ratio well below the infinities has a finite double next to it. -/
theorem isFinite_roundRatio {negative : Bool} {num den : Nat} (h : (num / den).log2 ≤ 2096) :
    (roundRatio negative num den).isFinite = true := by
  have hs : (num / den).log2 - 52 ≤ 2044 := Nat.sub_le_iff_le_add.mpr h
  unfold roundRatio
  extract_lets scale m hm
  split
  case isTrue =>
      rw [dif_pos (Nat.le_succ_of_le hs)]
      rfl
  case isFalse =>
      rw [dif_pos (Nat.succ_le_succ hs)]
      rfl

/-- The bits of a product are no more than those of its factors together. -/
theorem log2_mul_le {m n i j : Nat} (hm : m ≤ 2 ^ i) (hn : n ≤ 2 ^ j) :
    (m * n).log2 ≤ i + j := by
  by_cases hz : m * n = 0
  · rw [hz, Nat.log2_zero]
    exact Nat.zero_le _
  · have hle : m * n ≤ 2 ^ (i + j) := Nat.pow_add 2 i j ▸ Nat.mul_le_mul hm hn
    exact (Nat.pow_le_pow_iff_right Nat.one_lt_two).mp (Nat.le_trans (Nat.log2_self_le hz) hle)

/-- No integer of 64 bits is too great for a double. -/
theorem isFinite_ofInt {n : Int} (h : n.natAbs ≤ 2 ^ (64 : Nat)) :
    (ofInt n).isFinite = true := by
  have hunits : unitsPerOne ≤ 2 ^ (1074 : Nat) := Nat.le_of_eq (by rw [unitsPerOne])
  apply isFinite_roundRatio
  rw [Nat.div_one]
  exact Nat.le_trans (log2_mul_le h hunits) (by decide)

/-- The nearest double to `10 ^ k`. -/
def powerOfTen (k : Nat) : Binary64 := roundRatio false (10 ^ k * unitsPerOne) 1

/-- The product of two finite doubles, rounded once; NaN where one is not finite. -/
def mul : Binary64 → Binary64 → Binary64
  | finite s m e _, finite t n f _ =>
      roundRatio (s != t) (m * n * 2 ^ (e + f)) unitsPerOne
  | _, _ => nan

/-- The quotient of two finite doubles, rounded once; NaN where one is not finite or the
divisor is zero. -/
def div : Binary64 → Binary64 → Binary64
  | finite s m e _, finite t n f _ =>
      if n = 0 then nan else roundRatio (s != t) (m * 2 ^ e * unitsPerOne) (n * 2 ^ f)
  | _, _ => nan

/-- The greatest integer below which every integer is a double of its own. -/
def maxSafeInteger : Nat := 2 ^ (53 : Nat) - 1

/-- The integer equal to a double, if its magnitude is safe. -/
def safeInteger? (x : Binary64) : Option Int :=
  match x.toInt? with
  | some n =>
      let q := n / unitsPerOne
      if n % unitsPerOne = 0 ∧ q.natAbs ≤ maxSafeInteger then some q else none
  | none => none

/-- Both zeros are the integer zero. -/
theorem safeInteger?_of_zero {x : Binary64} (h : x.toInt? = some 0) : x.safeInteger? = some 0 := by
  unfold safeInteger?
  simp only [h, Int.zero_ediv, Int.zero_emod, Int.natAbs_zero, Nat.zero_le, and_self, if_true]

/-- A safe integer is within the safe bounds. -/
theorem natAbs_le_of_safeInteger? {x : Binary64} {n : Int} (h : x.safeInteger? = some n) :
    n.natAbs ≤ maxSafeInteger := by
  unfold safeInteger? at h
  cases hx : x.toInt? with
  | none => simp [hx] at h
  | some k =>
      simp only [hx] at h
      split at h
      case isTrue hc => obtain rfl := Option.some.inj h; exact hc.2
      case isFalse => exact absurd h (by simp)

/-! ## exact integers -/

/-- An integer is not rounded. -/
theorem halfEven_of_dvd {num den : Nat} (hden : 0 < den) (h : den ∣ num) :
    halfEven num den = num / den := by
  unfold halfEven
  simp only [Nat.mod_eq_zero_of_dvd h, Nat.mul_zero, if_pos hden]

/-- Of a number with 53 bits and some zeros behind them, rounding drops zeros only. -/
theorem log2_mul_two_pow_le {m k : Nat} (hm : m < 2 ^ (53 : Nat)) :
    (m * 2 ^ k).log2 - 52 ≤ k := by
  by_cases hz : m = 0
  · rw [hz, Nat.zero_mul, Nat.log2_zero, Nat.zero_sub]
    exact Nat.zero_le k
  · have hne : m * 2 ^ k ≠ 0 := Nat.mul_ne_zero hz (Nat.ne_of_gt (Nat.two_pow_pos k))
    have hlt : (m * 2 ^ k).log2 < 53 + k := by
      rw [Nat.log2_lt hne, Nat.pow_add]
      exact Nat.mul_lt_mul_of_pos_right hm (Nat.two_pow_pos k)
    omega

/-- A number of 53 bits at some scale is a double. -/
theorem toInt?_roundRatio {negative : Bool} {m k : Nat} (hm : m < 2 ^ (53 : Nat))
    (hk : k ≤ 2045) :
    (roundRatio negative (m * 2 ^ k) 1).toInt? = some (signed negative (m * 2 ^ k)) := by
  have hscale : (m * 2 ^ k).log2 - 52 ≤ k := log2_mul_two_pow_le hm
  generalize hnum : m * 2 ^ k = num at hscale
  have hdvd : 2 ^ (num.log2 - 52) ∣ num :=
    Nat.dvd_trans (Nat.pow_dvd_pow 2 hscale) (hnum ▸ Nat.dvd_mul_left (2 ^ k) m)
  have hrounded : halfEven num (1 * 2 ^ (num.log2 - 52)) = num / 2 ^ (num.log2 - 52) := by
    rw [Nat.one_mul, halfEven_of_dvd (Nat.two_pow_pos _) hdvd]
  have hlt : num / 2 ^ (num.log2 - 52) < 2 ^ (53 : Nat) := by
    rw [Nat.div_lt_iff_lt_mul (Nat.two_pow_pos _), ← Nat.pow_add]
    exact Nat.lt_of_lt_of_le Nat.lt_log2_self (Nat.pow_le_pow_right (by decide) (by omega))
  unfold roundRatio
  simp only [Nat.div_one, hrounded, dif_pos hlt, dif_pos (Nat.le_trans hscale hk), toInt?,
    Nat.div_mul_cancel hdvd]

theorem signed_natAbs_mul (n : Int) (m : Nat) :
    signed (n < 0) (n.natAbs * m : Nat) = n * m := by
  unfold signed
  by_cases h : n < 0
  · have hn : (n.natAbs : Int) = -n := by omega
    rw [if_pos (decide_eq_true h), Int.natCast_mul, hn, Int.neg_mul, Int.neg_neg]
  · have hn : (n.natAbs : Int) = n := by omega
    rw [if_neg (by simpa using h), Int.natCast_mul, hn]

/-- A safe integer is a double. -/
theorem toInt?_ofInt {n : Int} (h : n.natAbs ≤ maxSafeInteger) :
    (ofInt n).toInt? = some (n * unitsPerOne) := by
  have hlt : n.natAbs < 2 ^ (53 : Nat) := by
    rw [maxSafeInteger] at h
    omega
  -- for a variable exponent, so that no power is worked out
  have hexact : ∀ k, k ≤ 2045 → (roundRatio (n < 0) (n.natAbs * 2 ^ k) 1).toInt? =
      some (signed (n < 0) (n.natAbs * 2 ^ k)) := fun _ => toInt?_roundRatio hlt
  rw [← signed_natAbs_mul]
  unfold ofInt unitsPerOne
  apply hexact
  decide

theorem unitsPerOne_pos : 0 < unitsPerOne := by
  have hpow : ∀ k : Nat, 0 < 2 ^ k := Nat.two_pow_pos
  rw [unitsPerOne]
  exact hpow 1074

/-- Whether a double is a given safe integer depends on its value alone. -/
theorem safeInteger?_eq_some_iff {x : Binary64} {n : Int} :
    x.safeInteger? = some n ↔
      x.toInt? = some (n * unitsPerOne) ∧ n.natAbs ≤ maxSafeInteger := by
  have hunits : (unitsPerOne : Int) ≠ 0 := Int.natCast_ne_zero.mpr (Nat.ne_of_gt unitsPerOne_pos)
  unfold safeInteger?
  cases x.toInt? with
  | none => exact ⟨nofun, nofun⟩
  | some k =>
      dsimp only
      constructor
      · intro h
        split at h
        case isTrue hc =>
            obtain rfl := Option.some.inj h
            exact ⟨congrArg some (Int.ediv_mul_cancel_of_emod_eq_zero hc.1).symm, hc.2⟩
        case isFalse => cases h
      · rintro ⟨h, hn⟩
        obtain rfl := Option.some.inj h
        rw [Int.mul_ediv_cancel n hunits, if_pos ⟨Int.mul_emod_left n _, hn⟩]

/-- A safe integer is read back from the double next to it. -/
theorem safeInteger?_ofInt {n : Int} (h : n.natAbs ≤ maxSafeInteger) :
    (ofInt n).safeInteger? = some n :=
  safeInteger?_eq_some_iff.mpr ⟨toInt?_ofInt h, h⟩

/-- The infinities are too great to be safe. -/
theorem isFinite_of_safeInteger? {x : Binary64} {n : Int} (h : x.safeInteger? = some n) :
    x.isFinite = true := by
  obtain ⟨hx, hn⟩ := safeInteger?_eq_some_iff.mp h
  by_cases hz : n = 0
  · cases x with
    | nan => cases hx
    | infinite negative =>
        have hbeyond : beyond = 0 := by
          rw [← natAbs_signed negative beyond, Option.some.inj hx, hz, Int.zero_mul,
            Int.natAbs_zero]
        have hzero : Canonical 0 0 := by decide
        exact absurd hbeyond (Nat.ne_of_gt (Nat.zero_lt_of_lt hzero.mul_pow_lt_beyond))
    | finite negative m e hm => rfl
  · have hunits : (unitsPerOne : Int) ≠ 0 :=
      Int.natCast_ne_zero.mpr (Nat.ne_of_gt unitsPerOne_pos)
    rw [eq_of_toInt?_eq hx (toInt?_ofInt hn) (Int.mul_ne_zero hz hunits)]
    exact isFinite_ofInt (Nat.le_trans hn (by decide))

end Casebook.Binary64
