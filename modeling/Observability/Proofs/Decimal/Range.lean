import Mathlib.Algebra.Order.Field.Power
import Mathlib.Data.Rat.Cast.Order
import Mathlib.Tactic.FieldSimp
import Mathlib.Tactic.GCongr
import Mathlib.Tactic.Linarith
import Mathlib.Tactic.NormNum
import Mathlib.Tactic.Positivity
import Mathlib.Tactic.Ring
import Observability.Decimal.Shortest

/-!
# The range of doubles

The reals from `Binary64.overflow` on are nearest to an infinity; all below are nearest to a finite
double.  The conversions compare naturals; here the comparisons are read in the rationals, where
`Binary64.power base e` is `base ^ e`.

* `Binary64.ofDecimal_isFinite` -- decimals below the bound are read as finite doubles.
* `Shortest.digits_bounded` -- the shortest digits of a finite double stand for a number below the bound.
-/

namespace Observability.Binary64

/-- The least real that is nearest to an infinity: `2^1024 - 2^970`. -/
def overflow : ℚ := (2 ^ 53 - 1 / 2) * 2 ^ 971

theorem overflow_le : overflow ≤ (2 : ℚ) ^ (1024 : Int) := by
  have hsum : (2 : ℚ) ^ 53 * 2 ^ 971 = 2 ^ (1024 : Int) := by
    rw [← pow_add]
    exact (zpow_natCast (2 : ℚ) 1024).symm
  rw [← hsum, overflow]
  gcongr
  norm_num

theorem overflow_le_ten : overflow ≤ (10 : ℚ) ^ (400 : Int) := by
  have hpowers : ((2 : ℚ) ^ 64) ^ 16 ≤ (10 ^ 25) ^ 16 := pow_le_pow_left₀ (by norm_num) (by norm_num) 16
  rw [← pow_mul, ← pow_mul] at hpowers
  exact overflow_le.trans hpowers

/-- No double with the greatest exponent or a smaller one goes beyond the bound. -/
theorem largest_le_overflow {exponent : Int} (h : exponent ≤ 971) :
    ((2 : ℚ) ^ 53 - 1 / 2) * 2 ^ exponent ≤ overflow := by
  have hle : (2 : ℚ) ^ exponent ≤ 2 ^ (971 : Int) := zpow_le_zpow_right₀ (by norm_num) h
  rw [show (2 : ℚ) ^ (971 : Int) = 2 ^ 971 from zpow_natCast 2 971] at hle
  exact mul_le_mul_of_nonneg_left hle (by norm_num)

/-- The double is neither an infinity nor NaN. -/
def IsFinite (x : Binary64) : Prop :=
  ∃ negative mantissa exponent, x.view = .finite negative mantissa exponent

/-! ## Comparisons in the rationals -/

theorem power_fst_pos {base : Nat} (hbase : 0 < base) (e : Int) : 0 < (power base e).1 := by
  rw [power]
  split
  · exact Nat.pow_pos hbase
  · exact Nat.one_pos

theorem power_snd_pos {base : Nat} (hbase : 0 < base) (e : Int) : 0 < (power base e).2 := by
  rw [power]
  split
  · exact Nat.one_pos
  · exact Nat.pow_pos hbase

/-- The fraction is the power. -/
theorem power_eq (base : Nat) (e : Int) :
    ((power base e).1 : ℚ) / (power base e).2 = (base : ℚ) ^ e := by
  rw [power]
  split
  · next h =>
    obtain ⟨k, rfl⟩ := Int.eq_ofNat_of_zero_le h
    simp
  · next h =>
    obtain ⟨k, hk⟩ : ∃ k : Nat, e = -(k : Int) := ⟨(-e).toNat, by omega⟩
    subst hk
    simp

theorem ratioLe_iff {n d a b : Nat} (hd : 0 < d) (hb : 0 < b) :
    ratioLe n d a b = true ↔ (n : ℚ) / d ≤ a / b := by
  have hdq : (0 : ℚ) < d := by exact_mod_cast hd
  have hbq : (0 : ℚ) < b := by exact_mod_cast hb
  rw [ratioLe, decide_eq_true_iff, div_le_div_iff₀ hdq hbq]
  exact_mod_cast Iff.rfl

/-- A fraction is above the quotient of a power that its numerator reaches by one that its denominator
does not. -/
theorem zpow_lt_ratio {base : Nat} (n d : Nat) {a b : Nat} (hbase : 0 < base) (hd : 0 < d) (hn : base ^ a ≤ n)
    (hdb : d < base ^ b) : (base : ℚ) ^ ((a : Int) - b) < (n : ℚ) / d := by
  have hB : (0 : ℚ) < base := by exact_mod_cast hbase
  have hdq : (0 : ℚ) < d := by exact_mod_cast hd
  have hnq : (base : ℚ) ^ a ≤ n := by exact_mod_cast hn
  have hdbq : (d : ℚ) < (base : ℚ) ^ b := by exact_mod_cast hdb
  rw [zpow_sub₀ hB.ne', zpow_natCast, zpow_natCast, div_lt_div_iff₀ (by positivity) hdq]
  calc (base : ℚ) ^ a * d < (base : ℚ) ^ a * (base : ℚ) ^ b := by gcongr
    _ ≤ n * (base : ℚ) ^ b := by gcongr

/-- A fraction is below the quotient of a power that its numerator does not reach by one that its
denominator does. -/
theorem ratio_lt_zpow {base : Nat} (n d : Nat) {a b : Nat} (hbase : 0 < base) (hd : 0 < d) (hn : n < base ^ a)
    (hdb : base ^ b ≤ d) : (n : ℚ) / d < (base : ℚ) ^ ((a : Int) - b) := by
  have hB : (0 : ℚ) < base := by exact_mod_cast hbase
  have hdq : (0 : ℚ) < d := by exact_mod_cast hd
  have hnq : (n : ℚ) < (base : ℚ) ^ a := by exact_mod_cast hn
  have hdbq : (base : ℚ) ^ b ≤ d := by exact_mod_cast hdb
  rw [zpow_sub₀ hB.ne', zpow_natCast, zpow_natCast, div_lt_div_iff₀ hdq (by positivity)]
  calc (n : ℚ) * (base : ℚ) ^ b ≤ n * d := by gcongr
    _ < (base : ℚ) ^ a * d := by gcongr

/-! ## Ratios are read as finite doubles -/

/-- Bits below those of an infinity are a finite double. -/
theorem ofMagnitude_isFinite (negative : Bool) {magnitude : Nat} (h : magnitude < infinityMagnitude) :
    (ofMagnitude negative magnitude).IsFinite := by
  have hmagnitude : magnitude < 0x7FF0000000000000 := h
  have hfield : (ofMagnitude negative magnitude).exponentField ≠ 2047 := by
    cases negative with
    | false =>
      have hbits : (UInt64.ofNat magnitude).toNat = magnitude := by
        rw [UInt64.toNat_ofNat']; omega
      simp only [exponentField, ofMagnitude, Bool.false_eq_true, if_false, hbits, hiddenBit]
      omega
    | true =>
      have hbits : (UInt64.ofNat (signBit + magnitude)).toNat = signBit + magnitude := by
        rw [UInt64.toNat_ofNat', signBit]; omega
      simp only [exponentField, ofMagnitude, if_true, hbits, hiddenBit]
      simp only [signBit]
      omega
  rw [IsFinite, view, if_neg hfield]
  split
  · exact ⟨_, _, _, rfl⟩
  · exact ⟨_, _, _, rfl⟩

theorem zero_isFinite (negative : Bool) : (zero negative).IsFinite :=
  ofMagnitude_isFinite negative (by decide)

/-- What is nearer to `k` than to `k + 1` is not rounded beyond `k`. -/
theorem roundDiv_le {n d k : Nat} (hd : 0 < d) (h : (n : ℚ) / d < k + 1 / 2) : roundDiv n d ≤ k := by
  have hdq : (0 : ℚ) < d := by exact_mod_cast hd
  have htwice : 2 * n < (2 * k + 1) * d := by
    rw [div_lt_iff₀ hdq] at h
    have htwiceq : (2 : ℚ) * n < (2 * k + 1) * d := by linarith
    exact_mod_cast htwiceq
  have hn : 2 * n = (2 * (n / d)) * d + 2 * (n % d) := by
    have hdiv := Nat.div_add_mod n d
    calc 2 * n = 2 * (d * (n / d) + n % d) := by rw [hdiv]
      _ = _ := by ring
  rw [roundDiv]
  generalize n / d = below at *
  generalize n % d = rest at *
  have hbelow : 2 * below < 2 * k + 1 := by
    refine Nat.lt_of_mul_lt_mul_right (a := d) ?_
    omega
  have habove : d ≤ 2 * rest → 2 * below + 1 < 2 * k + 1 := by
    intro hrest
    refine Nat.lt_of_mul_lt_mul_right (a := d) ?_
    rw [Nat.add_mul, Nat.one_mul]
    omega
  split
  · omega
  · split
    · omega
    · omega

/-- The exponent of the leading binary digit of a fraction. -/
theorem exists_floorLog {n d : Nat} (hn : 0 < n) (hd : 0 < d) :
    ∃ k : Int, (if ratioLe (power 2 ((n.log2 : Int) - d.log2)).1 (power 2 ((n.log2 : Int) - d.log2)).2
        n d then (n.log2 : Int) - d.log2 else (n.log2 : Int) - d.log2 - 1) = k ∧
      (2 : ℚ) ^ k ≤ (n : ℚ) / d ∧ (n : ℚ) / d < 2 ^ (k + 1) := by
  have htwo : 0 < 2 := by decide
  have hlow := zpow_lt_ratio n d htwo hd (Nat.log2_self_le hn.ne') Nat.lt_log2_self
  have hhigh := ratio_lt_zpow n d htwo hd Nat.lt_log2_self (Nat.log2_self_le hd.ne')
  push_cast at hlow hhigh
  have hunit := ratioLe_iff (n := (power 2 ((n.log2 : Int) - d.log2)).1) (a := n)
    (power_snd_pos htwo ((n.log2 : Int) - d.log2)) hd
  rw [power_eq] at hunit
  refine ⟨_, rfl, ?_⟩
  split
  · next hle =>
    have hexponent : (n.log2 : Int) - d.log2 + 1 = n.log2 + 1 - d.log2 := by omega
    exact ⟨by exact_mod_cast hunit.mp hle, by rw [hexponent]; exact hhigh⟩
  · next hgt =>
    have hexponent : (n.log2 : Int) - d.log2 - 1 = n.log2 - (d.log2 + 1) := by omega
    refine ⟨by rw [hexponent]; exact hlow.le, ?_⟩
    rw [hunit, not_le] at hgt
    rw [sub_add_cancel]
    exact_mod_cast hgt

/-- A fraction in units of a power. -/
theorem div_power_eq (n d : Nat) (q : Int) :
    ((n * (power 2 q).2 : Nat) : ℚ) / ((d * (power 2 q).1 : Nat) : ℚ) = (n : ℚ) / d / 2 ^ q := by
  have hpower := power_eq 2 q
  push_cast at hpower ⊢
  rw [← hpower]
  field_simp

/-- Fractions below the bound are read as finite doubles. -/
theorem ofRatio_isFinite (negative : Bool) {n d : Nat} (hd : 0 < d) (h : (n : ℚ) / d < overflow) :
    (ofRatio negative n d).IsFinite := by
  rw [ofRatio]
  split
  · exact zero_isFinite negative
  · next hne =>
    obtain ⟨hn, -⟩ := not_or.mp hne
    obtain ⟨k, hk, hlow, hhigh⟩ := exists_floorLog (Nat.pos_of_ne_zero hn) hd
    simp only [hk]
    generalize hq : max (k - 52) (-1074) = q
    have hunit : (0 : ℚ) < 2 ^ q := by positivity
    have hpos : 0 < d * (power 2 q).1 := Nat.mul_pos hd (power_fst_pos (by decide) q)
    refine ofMagnitude_isFinite negative (min_lt_iff.mpr (.inl ?_))
    -- in units of `2^q` the value has at most fifty-three digits
    have hunits : (n : ℚ) / d / 2 ^ q < 2 ^ 53 := by
      rw [div_lt_iff₀ hunit]
      have hexponent : k + 1 ≤ 53 + q := by omega
      calc (n : ℚ) / d < 2 ^ (k + 1) := hhigh
        _ ≤ 2 ^ (53 + q) := zpow_le_zpow_right₀ (by norm_num) hexponent
        _ = 2 ^ 53 * 2 ^ q := by rw [zpow_add₀ (by norm_num)]; norm_num
    have hround : roundDiv (n * (power 2 q).2) (d * (power 2 q).1) ≤ 2 ^ 53 := by
      refine roundDiv_le hpos ?_
      rw [div_power_eq]
      push_cast
      linarith
    rcases lt_trichotomy q 971 with hsmall | hlast | hlarge
    · have hfield : (q + 1074).toNat ≤ 2044 := by omega
      norm_num at hround
      simp only [hiddenBit, infinityMagnitude]
      omega
    · have hround' : roundDiv (n * (power 2 q).2) (d * (power 2 q).1) ≤ 2 ^ 53 - 1 := by
        refine roundDiv_le hpos ?_
        rw [div_power_eq, div_lt_iff₀ hunit, hlast]
        have hexact : (((2 ^ 53 - 1 : Nat) : ℚ) + 1 / 2) * 2 ^ (971 : Int) = overflow := by
          rw [overflow, show (2 : ℚ) ^ (971 : Int) = 2 ^ 971 from zpow_natCast 2 971]
          norm_num
        rwa [hexact]
      subst hlast
      norm_num at hround'
      simp only [hiddenBit, infinityMagnitude]
      omega
    · have hexponent : 1024 ≤ k := by omega
      have habove : (2 : ℚ) ^ (1024 : Int) ≤ (n : ℚ) / d :=
        (zpow_le_zpow_right₀ (by norm_num) hexponent).trans hlow
      exact absurd (overflow_le.trans habove) (not_le.mpr h)

/-! ## Decimals are read as finite doubles -/

/-- A number reaches the power of ten of all its digits but one. -/
theorem pow_length_toDigits_le {n : Nat} (hn : 0 < n) :
    10 ^ ((Nat.toDigits 10 n).length - 1) ≤ n := by
  rcases Nat.eq_zero_or_pos ((Nat.toDigits 10 n).length - 1) with hone | hmore
  · rw [hone]
    exact hn
  · by_contra hlt
    have hshort := (Nat.length_toDigits_le_iff (b := 10) (by decide) hmore).mpr (not_le.mp hlt)
    omega

theorem lt_pow_length_toDigits (n : Nat) : n < 10 ^ (Nat.toDigits 10 n).length :=
  (Nat.length_toDigits_le_iff (b := 10) (by decide) Nat.length_toDigits_pos).mp le_rfl

/-- Decimals below the bound are read as finite doubles. -/
theorem ofDecimal_isFinite (negative : Bool) {digits : Nat} {exponent : Int}
    (h : (digits : ℚ) * 10 ^ exponent < overflow) :
    (ofDecimal negative digits exponent).IsFinite := by
  rw [ofDecimal]
  split
  · exact zero_isFinite negative
  · next hne =>
    obtain ⟨hdigits, -⟩ := not_or.mp hne
    have hpos := Nat.pos_of_ne_zero hdigits
    split
    · next hlong =>
      -- so long a number is beyond the bound
      have hlead := pow_length_toDigits_le hpos
      have hleadq : (10 : ℚ) ^ ((Nat.toDigits 10 digits).length - 1 : Nat) ≤ digits := by
        exact_mod_cast hlead
      have hsize : (400 : Int) ≤ ((Nat.toDigits 10 digits).length - 1 : Nat) + exponent := by omega
      have habove : (10 : ℚ) ^ (400 : Int) ≤ digits * 10 ^ exponent := by
        calc (10 : ℚ) ^ (400 : Int)
            ≤ 10 ^ (((Nat.toDigits 10 digits).length - 1 : Nat) + exponent) :=
              zpow_le_zpow_right₀ (by norm_num) hsize
          _ = 10 ^ ((Nat.toDigits 10 digits).length - 1 : Nat) * 10 ^ exponent := by
              rw [zpow_add₀ (by norm_num), zpow_natCast]
          _ ≤ digits * 10 ^ exponent := by gcongr
      exact absurd (overflow_le_ten.trans habove) (not_le.mpr h)
    · refine ofRatio_isFinite negative (power_snd_pos (by decide) exponent) ?_
      have hpower := power_eq 10 exponent
      push_cast at hpower ⊢
      rwa [mul_div_assoc, hpower]

end Observability.Binary64

/-! ## The shortest digits of a finite double -/

namespace Observability.Decimal

open Binary64 (power power_eq power_fst_pos power_snd_pos overflow largest_le_overflow)

/-- The number that a decimal stands for. -/
def Scaled.value (x : Scaled) : ℚ := x.digits * 10 ^ x.exponent

namespace Shortest

/-- The naturals compare as the decimal does with so many units. -/
theorem sides_eq (i : Interval) (x : Scaled) (count : Nat) :
    ∃ scale : ℚ, 0 < scale ∧ ((i.sides x count).1 : ℚ) = x.value * scale ∧
      ((i.sides x count).2 : ℚ) = count * 2 ^ i.unit * scale := by
  have hten : (0 : ℚ) < (power 10 x.exponent).2 := by
    exact_mod_cast power_snd_pos (show 0 < 10 by decide) x.exponent
  have htwo : (0 : ℚ) < (power 2 i.unit).2 := by
    exact_mod_cast power_snd_pos (show 0 < 2 by decide) i.unit
  have hpowerTen := power_eq 10 x.exponent
  have hpowerTwo := power_eq 2 i.unit
  push_cast at hpowerTen hpowerTwo
  refine ⟨(power 10 x.exponent).2 * (power 2 i.unit).2, by positivity, ?_, ?_⟩
  · rw [Scaled.value, ← hpowerTen, Interval.sides]
    push_cast
    field_simp
  · rw [← hpowerTwo, Interval.sides]
    push_cast
    field_simp

theorem sides_le_iff (i : Interval) (x : Scaled) (count : Nat) :
    (i.sides x count).1 ≤ (i.sides x count).2 ↔ x.value ≤ count * 2 ^ i.unit := by
  obtain ⟨scale, hscale, hleft, hright⟩ := sides_eq i x count
  rw [← Nat.cast_le (α := ℚ), hleft, hright, mul_le_mul_iff_left₀ hscale]

theorem sides_lt_iff (i : Interval) (x : Scaled) (count : Nat) :
    (i.sides x count).1 < (i.sides x count).2 ↔ x.value < count * 2 ^ i.unit := by
  obtain ⟨scale, hscale, hleft, hright⟩ := sides_eq i x count
  rw [← Nat.cast_lt (α := ℚ), hleft, hright, mul_lt_mul_iff_left₀ hscale]

theorem holds_eq (i : Interval) (x : Scaled) :
    i.holds x =
      if i.closed then
        (i.sides x i.low).2 ≤ (i.sides x i.low).1 && (i.sides x i.high).1 ≤ (i.sides x i.high).2
      else (i.sides x i.low).2 < (i.sides x i.low).1 && (i.sides x i.high).1 < (i.sides x i.high).2 :=
  rfl

/-- The decimal is above zero and below the bound of the doubles. -/
def Bounded (x : Scaled) : Prop := 0 < x.digits ∧ x.value < overflow

/-- What reads back as a finite double above zero is below the bound. -/
theorem bounded_of_holds {mantissa : Nat} {exponent : Int} {boundary : Bool} {x : Scaled}
    (hpos : 0 < mantissa) (hmantissa : mantissa < 2 ^ 53) (hexponent : exponent ≤ 971)
    (h : (interval mantissa exponent boundary).holds x = true) : Bounded x := by
  have hunit : (0 : ℚ) < 2 ^ exponent := by positivity
  have hhalf : (2 : ℚ) ^ (exponent - 2) * 4 = 2 ^ exponent := by
    rw [zpow_sub₀ (by norm_num)]
    norm_num
  have hhigh : (((interval mantissa exponent boundary).high : Nat) : ℚ) * 2 ^ (exponent - 2) =
      (mantissa + 1 / 2) * 2 ^ exponent := by
    rw [← hhalf, interval]
    push_cast
    ring
  have hlow : 0 < (interval mantissa exponent boundary).low := by
    cases boundary <;> simp only [interval, if_true, Bool.false_eq_true, if_false] <;> omega
  have hlowq : (0 : ℚ) < (interval mantissa exponent boundary).low * 2 ^ (exponent - 2) := by
    have hcast : (0 : ℚ) < (interval mantissa exponent boundary).low := by exact_mod_cast hlow
    positivity
  have hpositive (habove : (interval mantissa exponent boundary).low * 2 ^ (exponent - 2) ≤ x.value) :
      0 < x.digits := by
    refine Nat.pos_of_ne_zero fun hzero => ?_
    rw [Scaled.value, hzero, Nat.cast_zero, zero_mul] at habove
    exact absurd habove (not_le.mpr hlowq)
  rw [holds_eq] at h
  split at h
  · next hclosed =>
    -- the end belongs to the interval, but then the mantissa is even and so not the greatest
    obtain ⟨habove, hbelow⟩ := Bool.and_eq_true_iff.mp h
    have habove' := mt (sides_lt_iff _ _ _).mpr (not_lt.mpr (of_decide_eq_true habove))
    have hbelow' := (sides_le_iff _ _ _).mp (of_decide_eq_true hbelow)
    refine ⟨hpositive (not_lt.mp habove'), ?_⟩
    have heven : mantissa % 2 = 0 := of_decide_eq_true hclosed
    have hsmall : (mantissa : ℚ) + 1 ≤ 2 ^ 53 - 1 := by
      have hnat : mantissa + 2 ≤ 2 ^ 53 := by omega
      have hcast : (mantissa : ℚ) + 2 ≤ 2 ^ 53 := by exact_mod_cast hnat
      linarith
    calc x.value ≤ (mantissa + 1 / 2) * 2 ^ exponent := hbelow'.trans_eq hhigh
      _ < (2 ^ 53 - 1 / 2) * 2 ^ exponent := by gcongr; linarith
      _ ≤ overflow := largest_le_overflow hexponent
  · obtain ⟨habove, hbelow⟩ := Bool.and_eq_true_iff.mp h
    have habove' := mt (sides_le_iff _ _ _).mpr (not_le.mpr (of_decide_eq_true habove))
    have hbelow' := (sides_lt_iff _ _ _).mp (of_decide_eq_true hbelow)
    refine ⟨hpositive (not_le.mp habove').le, ?_⟩
    have hlargest : (mantissa : ℚ) + 1 ≤ 2 ^ 53 := by exact_mod_cast hmantissa
    calc x.value < (mantissa + 1 / 2) * 2 ^ exponent := hbelow'.trans_eq hhigh
      _ ≤ (2 ^ 53 - 1 / 2) * 2 ^ exponent := by gcongr; linarith
      _ ≤ overflow := largest_le_overflow hexponent

/-- A fraction reaches the power of ten of its logarithm. -/
theorem zpow_floorLog10_le {n d : Nat} (hn : 0 < n) (hd : 0 < d) :
    (10 : ℚ) ^ floorLog10 n d ≤ (n : ℚ) / d := by
  rw [floorLog10]
  generalize hguess : ((Nat.toDigits 10 n).length : Int) - (Nat.toDigits 10 d).length = guess
  have hunit := Binary64.ratioLe_iff (n := (power 10 guess).1) (a := n)
    (power_snd_pos (show 0 < 10 by decide) guess) hd
  rw [power_eq] at hunit
  split
  · next hle => exact_mod_cast hunit.mp hle
  · have hlen := Nat.length_toDigits_pos (b := 10) (n := n)
    have hlow := Binary64.zpow_lt_ratio n d (show 0 < 10 by decide) hd
      (Binary64.pow_length_toDigits_le hn) (Binary64.lt_pow_length_toDigits d)
    have hexponent : (((Nat.toDigits 10 n).length - 1 : Nat) : Int) - (Nat.toDigits 10 d).length =
        guess - 1 := by omega
    rw [hexponent] at hlow
    exact_mod_cast hlow.le

/-- A neighbour on a grid is only taken if it reads back. -/
theorem holds_of_onGrid {tie : Tie} {i : Interval} {p : Int} {x : Scaled}
    (h : onGrid tie i p = some x) : i.holds x = true := by
  have hpick (best other : Nat) (h : (if i.holds ⟨best, p⟩ then some (⟨best, p⟩ : Scaled)
      else if i.holds ⟨other, p⟩ then some ⟨other, p⟩ else none) = some x) : i.holds x = true := by
    split at h
    · next hbest => exact Option.some.inj h ▸ hbest
    · split at h
      · next hother => exact Option.some.inj h ▸ hother
      · cases h
  exact hpick _ _ h

/-- All that a search finds is below the bound; if it found nothing, what it gives is below the value. -/
theorem bounded_search {mantissa : Nat} {exponent : Int} {boundary : Bool}
    (hpos : 0 < mantissa) (hmantissa : mantissa < 2 ^ 53) (hexponent : exponent ≤ 971) (tie : Tie)
    (fuel : Nat) (p : Int)
    (hlast : Bounded ⟨4 * mantissa, p - fuel⟩) :
    Bounded (search tie (interval mantissa exponent boundary) fuel p) := by
  induction fuel generalizing p with
  | zero =>
    rw [Nat.cast_zero, sub_zero] at hlast
    exact hlast
  | succ fuel ih =>
    rw [search]
    cases hgrid : onGrid tie (interval mantissa exponent boundary) p with
    | none =>
      refine ih (p - 1) ?_
      rwa [show p - 1 - (fuel : Int) = p - ((fuel + 1 : Nat) : Int) by push_cast; ring]
    | some x =>
      exact bounded_of_holds hpos hmantissa hexponent (holds_of_onGrid hgrid)

/-- Trailing zeros carry no value. -/
theorem bounded_strip (fuel : Nat) {x : Scaled} (h : Bounded x) : Bounded (strip fuel x) := by
  induction fuel generalizing x with
  | zero => exact h
  | succ fuel ih =>
    rw [strip]
    split
    · next hzero =>
      obtain ⟨hpos, hvalue⟩ := h
      refine ih ⟨by simp only; omega, ?_⟩
      have hdigits : (x.digits : ℚ) = (x.digits / 10 : Nat) * 10 := by
        have hnat : x.digits = x.digits / 10 * 10 := by omega
        exact_mod_cast hnat
      have hsame : Scaled.value ⟨x.digits / 10, x.exponent + 1⟩ = x.value := by
        rw [Scaled.value, Scaled.value, hdigits, zpow_add₀ (by norm_num)]
        simp only [zpow_one]
        ring
      rwa [hsame]
    · exact h

/-- The shortest digits of a finite double above zero stand for a number below the bound. -/
theorem digits_bounded {mantissa : Nat} {exponent : Int} (hpos : 0 < mantissa)
    (hmantissa : mantissa < 2 ^ 53) (hexponent : exponent ≤ 971) (tie : Tie) :
    Bounded (digits tie mantissa exponent) := by
  rw [digits]
  refine bounded_strip 20 (bounded_search hpos hmantissa hexponent tie 17 _ ⟨by simp only; omega, ?_⟩)
  have hvaluePos : 0 < mantissa * (power 2 exponent).1 :=
    Nat.mul_pos hpos (power_fst_pos (by decide) exponent)
  have hlead := zpow_floorLog10_le hvaluePos (power_snd_pos (show 0 < 2 by decide) exponent)
  have hpower := power_eq 2 exponent
  push_cast at hlead hpower
  rw [mul_div_assoc, hpower] at hlead
  generalize floorLog10 (mantissa * (power 2 exponent).1) (power 2 exponent).2 = lead at hlead
  have hfour : (4 * mantissa : ℚ) ≤ 10 ^ 17 := by
    have hnat : 4 * mantissa ≤ 10 ^ 17 := by omega
    exact_mod_cast hnat
  have hlarge : (mantissa : ℚ) < 2 ^ 53 - 1 / 2 := by
    have hcast : (mantissa : ℚ) + 1 ≤ 2 ^ 53 := by exact_mod_cast hmantissa
    linarith
  calc Scaled.value ⟨4 * mantissa, lead - 17⟩ = 4 * mantissa * 10 ^ (lead - 17) := by
        rw [Scaled.value]; push_cast; rfl
    _ ≤ 10 ^ 17 * 10 ^ (lead - 17) := by gcongr
    _ = 10 ^ lead := by
        rw [show ((10 : ℚ) ^ 17) = 10 ^ (17 : Int) from (zpow_natCast 10 17).symm, ← zpow_add₀ (by norm_num)]
        congr 1
        ring
    _ ≤ mantissa * 2 ^ exponent := hlead
    _ < (2 ^ 53 - 1 / 2) * 2 ^ exponent := by gcongr
    _ ≤ overflow := largest_le_overflow hexponent

end Shortest

end Observability.Decimal
