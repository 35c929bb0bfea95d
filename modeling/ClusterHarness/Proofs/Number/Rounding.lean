import ClusterHarness.Number.Binary64
import Mathlib.Data.Nat.Log
import Mathlib.Data.Rat.Cast.Order
import Mathlib.Algebra.Order.Field.Power
import Mathlib.Tactic.FieldSimp
import Mathlib.Tactic.Linarith
import Mathlib.Tactic.NormNum
import Mathlib.Tactic.Positivity
import Mathlib.Tactic.Ring

/-!
Rounding to the nearest double-precision number. What a fraction is rounded to depends on its value
only, and a value that is a number is rounded to it.
-/

namespace ClusterHarness.Binary64

/-- The value of a finite number without its sign. -/
def magnitude (x : Binary64) : ℚ := x.mantissa * 2 ^ x.exponent

/-- The exponent at which a value has 53 bits, or the least one. -/
structure Fits (q : ℚ) (e : ℤ) : Prop where
  least : -1074 ≤ e
  below : q < 2 ^ (53 + e)
  full : e = -1074 ∨ 2 ^ (52 + e) ≤ q

theorem Fits.le_of {q : ℚ} {e e' : ℤ} (h : Fits q e) (h' : Fits q e') : e ≤ e' := by
  by_contra hlt
  rcases h.full with heq | hfull
  · have := h'.least
    omega
  · have hpow : (2 : ℚ) ^ (53 + e') ≤ 2 ^ (52 + e) := zpow_le_zpow_right₀ (by norm_num) (by omega)
    linarith [h'.below]

theorem Fits.unique {q : ℚ} {e e' : ℤ} (h : Fits q e) (h' : Fits q e') : e = e' :=
  le_antisymm (h.le_of h') (h'.le_of h)

theorem scale_pos {num den : ℕ} (hden : 0 < den) (e : ℤ) : 0 < (scale num den e).2 := by
  cases e with
  | ofNat k => exact Nat.mul_pos hden (Nat.pow_pos (by decide))
  | negSucc k => exact hden

theorem scale_value (num den : ℕ) (e : ℤ) :
    ((scale num den e).1 : ℚ) / (scale num den e).2 = num / den / 2 ^ e := by
  cases e with
  | ofNat k =>
    have hpow : (2 : ℚ) ^ Int.ofNat k = 2 ^ k := zpow_natCast 2 k
    rw [hpow, div_div]
    simp [scale]
  | negSucc k =>
    rw [zpow_negSucc, div_inv_eq_mul]
    simp [scale]
    ring

theorem roundHalfEven_congr {n d n' d' : ℕ} (hd : 0 < d) (hd' : 0 < d')
    (h : (n : ℚ) / d = n' / d') : roundHalfEven n d = roundHalfEven n' d' := by
  have hcross : n * d' = n' * d := by
    rw [div_eq_div_iff (by positivity) (by positivity)] at h
    exact_mod_cast h
  have hq : n / d = n' / d' := by
    rw [← Nat.mul_div_mul_right n d hd', ← Nat.mul_div_mul_right n' d' hd, hcross, Nat.mul_comm d d']
  have hr : n % d * d' = n' % d' * d := by
    rw [← Nat.mul_mod_mul_right, ← Nat.mul_mod_mul_right, hcross, Nat.mul_comm d d']
  have hlt : 2 * (n % d) < d ↔ 2 * (n' % d') < d' := by
    rw [← Nat.mul_lt_mul_right hd', ← Nat.mul_lt_mul_right (b := 2 * (n' % d')) hd, Nat.mul_assoc, hr,
      Nat.mul_assoc, Nat.mul_comm d d']
  have hgt : d < 2 * (n % d) ↔ d' < 2 * (n' % d') := by
    rw [← Nat.mul_lt_mul_right hd', ← Nat.mul_lt_mul_right (b := d') hd, Nat.mul_assoc, hr,
      Nat.mul_assoc, Nat.mul_comm d d']
  simp only [roundHalfEven, hq, hlt, hgt]

theorem roundHalfEven_one (n : ℕ) : roundHalfEven n 1 = n := by
  simp [roundHalfEven, Nat.mod_one]

theorem log2_bounds {n : ℕ} (hn : 0 < n) :
    (2 : ℚ) ^ (Nat.log2 n : ℤ) ≤ n ∧ (n : ℚ) < 2 ^ ((Nat.log2 n : ℤ) + 1) := by
  constructor
  · rw [zpow_natCast]
    exact_mod_cast Nat.log2_self_le (by omega)
  · have h : n < 2 ^ (Nat.log2 n + 1) := Nat.lt_log2_self
    have hpow : (2 : ℚ) ^ ((Nat.log2 n : ℤ) + 1) = 2 ^ (Nat.log2 n + 1) := by
      rw [← zpow_natCast]
      push_cast
      rfl
    rw [hpow]
    exact_mod_cast h

theorem ratio_bounds {num den : ℕ} (hnum : 0 < num) (hden : 0 < den) :
    (2 : ℚ) ^ ((Nat.log2 num : ℤ) - Nat.log2 den - 1) ≤ num / den ∧
      (num : ℚ) / den < 2 ^ ((Nat.log2 num : ℤ) - Nat.log2 den + 1) := by
  obtain ⟨hnum_le, hnum_lt⟩ := log2_bounds hnum
  obtain ⟨hden_le, hden_lt⟩ := log2_bounds hden
  have hpos : (0 : ℚ) < den := by exact_mod_cast hden
  constructor
  · rw [le_div_iff₀ hpos]
    calc (2 : ℚ) ^ ((Nat.log2 num : ℤ) - Nat.log2 den - 1) * den
        ≤ 2 ^ ((Nat.log2 num : ℤ) - Nat.log2 den - 1) * 2 ^ ((Nat.log2 den : ℤ) + 1) := by gcongr
      _ = 2 ^ (Nat.log2 num : ℤ) := by
        rw [← zpow_add₀ (by norm_num)]
        congr 1
        ring
      _ ≤ num := hnum_le
  · rw [div_lt_iff₀ hpos]
    calc (num : ℚ) < 2 ^ ((Nat.log2 num : ℤ) + 1) := hnum_lt
      _ = 2 ^ ((Nat.log2 num : ℤ) - Nat.log2 den + 1) * 2 ^ (Nat.log2 den : ℤ) := by
        rw [← zpow_add₀ (by norm_num)]
        congr 1
        ring
      _ ≤ 2 ^ ((Nat.log2 num : ℤ) - Nat.log2 den + 1) * den := by gcongr

theorem fits_max {q : ℚ} {e : ℤ} (hfull : 2 ^ (52 + e) ≤ q) (hbelow : q < 2 ^ (53 + e)) :
    Fits q (max e (-1074)) := by
  rcases le_or_gt (-1074) e with he | he
  · rw [max_eq_left he]
    exact ⟨he, hbelow, .inr hfull⟩
  · rw [max_eq_right he.le]
    exact ⟨le_rfl, hbelow.trans (zpow_lt_zpow_right₀ (by norm_num) (by omega)), .inl rfl⟩

theorem scale_lt_hidden (num : ℕ) {den : ℕ} (hden : 0 < den) (e : ℤ) :
    (scale num den e).1 < (scale num den e).2 * hidden ↔ (num : ℚ) / den < 2 ^ (52 + e) := by
  have hpos : (0 : ℚ) < (scale num den e).2 := by exact_mod_cast scale_pos hden e
  have hpow : (2 : ℚ) ^ (52 + e) = hidden * 2 ^ e := by
    rw [zpow_add₀ (by norm_num)]
    norm_num [hidden]
  rw [hpow, ← div_lt_iff₀ (by positivity), ← scale_value, div_lt_iff₀ hpos, mul_comm (hidden : ℚ)]
  exact_mod_cast Iff.rfl

theorem fitExponent_fits {num den : ℕ} (hnum : 0 < num) (hden : 0 < den) :
    Fits (num / den) (fitExponent num den) := by
  obtain ⟨hlow, hhigh⟩ := ratio_bounds hnum hden
  have hhidden := scale_lt_hidden num hden ((Nat.log2 num : ℤ) - Nat.log2 den - 52)
  simp only [fitExponent]
  split
  · next h =>
    refine fits_max ?_ ?_
    · rw [show (52 : ℤ) + ((Nat.log2 num : ℤ) - Nat.log2 den - 52 - 1) =
        (Nat.log2 num : ℤ) - Nat.log2 den - 1 by ring]
      exact hlow
    · rw [show (53 : ℤ) + ((Nat.log2 num : ℤ) - Nat.log2 den - 52 - 1) =
        52 + ((Nat.log2 num : ℤ) - Nat.log2 den - 52) by ring]
      exact hhidden.mp h
  · next h =>
    refine fits_max (not_lt.mp (mt hhidden.mpr h)) ?_
    rw [show (53 : ℤ) + ((Nat.log2 num : ℤ) - Nat.log2 den - 52) =
      (Nat.log2 num : ℤ) - Nat.log2 den + 1 by ring]
    exact hhigh

theorem ofRatio_eq_pack {num den n d : ℕ} {e : ℤ} (negative : Bool) (hnum : 0 < num) (hden : 0 < den)
    (hd : 0 < d) (hfits : Fits (num / den) e) (hscaled : (n : ℚ) / d = num / den / 2 ^ e) :
    ofRatio negative num den = pack negative (roundHalfEven n d) e := by
  have he : fitExponent num den = e := (fitExponent_fits hnum hden).unique hfits
  have hround : roundHalfEven (scale num den e).1 (scale num den e).2 = roundHalfEven n d :=
    roundHalfEven_congr (scale_pos hden e) hd ((scale_value num den e).trans hscaled.symm)
  rw [ofRatio, if_neg (by omega)]
  simp only [he, hround]

theorem ofRatio_zero (negative : Bool) (den : ℕ) : ofRatio negative 0 den = .finite negative 0 0 :=
  if_pos rfl

theorem ofRatio_congr {num den num' den' : ℕ} (negative : Bool) (hden : 0 < den) (hden' : 0 < den')
    (h : (num : ℚ) / den = num' / den') : ofRatio negative num den = ofRatio negative num' den' := by
  have hcross : num * den' = num' * den := by
    rw [div_eq_div_iff (by positivity) (by positivity)] at h
    exact_mod_cast h
  rcases Nat.eq_zero_or_pos num with rfl | hnum
  · have hzero : num' = 0 := by
      rw [Nat.zero_mul] at hcross
      rcases Nat.mul_eq_zero.mp hcross.symm with h0 | h0 <;> omega
    rw [hzero, ofRatio_zero, ofRatio_zero]
  · have hnum' : 0 < num' := by
      rcases Nat.eq_zero_or_pos num' with rfl | h0
      · rw [Nat.zero_mul] at hcross
        rcases Nat.mul_eq_zero.mp hcross with h0 | h0 <;> omega
      · exact h0
    rw [ofRatio_eq_pack negative hnum hden (scale_pos hden' _) (fitExponent_fits hnum hden)
      ((scale_value num' den' _).trans (by rw [h])),
      ofRatio_eq_pack negative hnum' hden' (scale_pos hden' _) (h ▸ fitExponent_fits hnum hden)
      (scale_value num' den' _)]

section Finite

variable (negative : Bool) {biased : Fin 2047} (fraction : Fin 0x10000000000000)

theorem mantissa_subnormal (h : biased.val = 0) :
    (finite negative biased fraction).mantissa = fraction := if_pos h

theorem mantissa_normal (h : biased.val ≠ 0) :
    (finite negative biased fraction).mantissa = hidden + fraction := if_neg h

theorem exponent_subnormal (h : biased.val = 0) :
    (finite negative biased fraction).exponent = -1074 := if_pos h

theorem exponent_normal (h : biased.val ≠ 0) :
    (finite negative biased fraction).exponent = (biased : ℤ) - 1075 := if_neg h

end Finite

theorem ofMantissa_small {m : ℕ} (negative : Bool) (e : ℤ) (h : m < hidden) :
    ofMantissa negative m e = finite negative 0 ⟨m, h⟩ := dif_pos h

theorem ofMantissa_large {m b : ℕ} {e : ℤ} (negative : Bool) (h : hidden ≤ m)
    (he : (e + 1075).toNat = b) (hb : b < 2047) :
    ofMantissa negative m e = finite negative ⟨b, hb⟩ (Fin.ofNat _ (m - hidden)) := by
  subst he
  exact (dif_neg (by omega)).trans (dif_pos hb)

theorem ofMantissa_finite (negative : Bool) (biased : Fin 2047) (fraction : Fin 0x10000000000000) :
    ofMantissa negative (finite negative biased fraction).mantissa
      (finite negative biased fraction).exponent = finite negative biased fraction := by
  by_cases hzero : biased.val = 0
  · have hbiased : biased = 0 := Fin.ext hzero
    rw [mantissa_subnormal negative fraction hzero, ofMantissa_small negative _ fraction.isLt, hbiased]
  · rw [mantissa_normal negative fraction hzero, exponent_normal negative fraction hzero,
      ofMantissa_large negative (by omega) (by omega) biased.isLt, Nat.add_sub_cancel_left]
    rw [finite.injEq]
    exact ⟨rfl, rfl, Fin.ext (Nat.mod_eq_of_lt fraction.isLt)⟩

theorem mantissa_lt (x : Binary64) : x.mantissa < 2 * hidden := by
  cases x with
  | finite negative biased fraction =>
    have hfraction : fraction.val < hidden := fraction.isLt
    by_cases hzero : biased.val = 0
    · rw [mantissa_subnormal negative fraction hzero]
      omega
    · rw [mantissa_normal negative fraction hzero]
      omega
  | _ => exact (by decide : 0 < 2 * hidden)

theorem pack_finite (negative : Bool) (biased : Fin 2047) (fraction : Fin 0x10000000000000) :
    pack negative (finite negative biased fraction).mantissa
      (finite negative biased fraction).exponent = finite negative biased fraction := by
  have hlt := mantissa_lt (finite negative biased fraction)
  rw [pack, if_neg (by omega), ofMantissa_finite]

theorem fits_magnitude (negative : Bool) (biased : Fin 2047) (fraction : Fin 0x10000000000000) :
    Fits (finite negative biased fraction).magnitude (finite negative biased fraction).exponent := by
  have hhidden : (hidden : ℚ) = 2 ^ (52 : ℤ) := by norm_num [hidden]
  have hlt : ((finite negative biased fraction).mantissa : ℚ) < 2 ^ (53 : ℤ) := by
    have := mantissa_lt (finite negative biased fraction)
    calc ((finite negative biased fraction).mantissa : ℚ) < (2 * hidden : ℕ) := by exact_mod_cast this
      _ = 2 ^ (53 : ℤ) := by norm_num [hidden]
  have hbelow : (finite negative biased fraction).magnitude <
      2 ^ (53 + (finite negative biased fraction).exponent) := by
    rw [magnitude, zpow_add₀ (by norm_num)]
    gcongr
  by_cases hzero : biased.val = 0
  · have hexponent := exponent_subnormal negative fraction hzero
    exact ⟨hexponent.ge, hbelow, .inl hexponent⟩
  · have hexponent := exponent_normal negative fraction hzero
    refine ⟨by omega, hbelow, .inr ?_⟩
    rw [magnitude, zpow_add₀ (by norm_num), ← hhidden, mantissa_normal negative fraction hzero, Nat.cast_add]
    gcongr
    exact le_add_of_nonneg_right (Nat.cast_nonneg _)

theorem eq_zero_of_mantissa {negative : Bool} {biased : Fin 2047} {fraction : Fin 0x10000000000000}
    (h : (finite negative biased fraction).mantissa = 0) :
    finite negative biased fraction = finite negative 0 0 := by
  have hzero : biased.val = 0 := by
    by_contra hne
    rw [mantissa_normal negative fraction hne] at h
    exact absurd h (by simp [hidden])
  rw [mantissa_subnormal negative fraction hzero] at h
  rw [(Fin.ext hzero : biased = 0), (Fin.ext h : fraction = 0)]

theorem magnitude_pos {x : Binary64} (hfinite : x.isFinite) (hzero : x.isZero = false) : 0 < x.magnitude := by
  cases x with
  | finite negative biased fraction =>
    have hmantissa : 0 < (finite negative biased fraction).mantissa := by
      refine Nat.pos_of_ne_zero fun h => ?_
      rw [eq_zero_of_mantissa h] at hzero
      cases hzero
    rw [magnitude]
    positivity
  | _ => cases hfinite

/-- The value of a number is rounded to the number. -/
theorem ofRatio_magnitude {x : Binary64} {num den : ℕ} (hfinite : x.isFinite) (hden : 0 < den)
    (h : (num : ℚ) / den = x.magnitude) : ofRatio x.isNegative num den = x := by
  cases x with
  | finite negative biased fraction =>
    rcases Nat.eq_zero_or_pos num with rfl | hnum
    · have hmantissa : (finite negative biased fraction).mantissa = 0 := by
        rw [Nat.cast_zero, zero_div, magnitude, eq_comm, mul_eq_zero] at h
        exact_mod_cast h.resolve_right (by positivity)
      rw [ofRatio_zero, eq_zero_of_mantissa hmantissa]
      rfl
    · rw [ofRatio_eq_pack (n := (finite negative biased fraction).mantissa) (d := 1) _ hnum hden one_pos
        (h ▸ fits_magnitude negative biased fraction), roundHalfEven_one]
      · exact pack_finite negative biased fraction
      · rw [h, magnitude, Nat.cast_one, div_one, mul_div_assoc, div_self (by positivity), mul_one]
  | _ => cases hfinite

/-! ### Bounds -/

theorem ofMantissa_overflow {m : ℕ} {e : ℤ} (negative : Bool) (h : hidden ≤ m) (he : 972 ≤ e) :
    ofMantissa negative m e = infinite negative :=
  (dif_neg (by omega)).trans (dif_neg (by omega))

theorem le_roundHalfEven {k n d : ℕ} (hd : 0 < d) (h : k * d ≤ n) : k ≤ roundHalfEven n d := by
  have hdiv : k ≤ n / d := (Nat.le_div_iff_mul_le hd).mpr h
  unfold roundHalfEven
  dsimp only
  split
  · exact hdiv
  · split <;> omega

theorem hidden_le_roundHalfEven {n d : ℕ} (hd : 0 < d) (h : (2 : ℚ) ^ (52 : ℤ) ≤ n / d) :
    hidden ≤ roundHalfEven n d := by
  have hmul : hidden * d ≤ n := by
    rw [le_div_iff₀ (by exact_mod_cast hd)] at h
    have hpow : (2 : ℚ) ^ (52 : ℤ) = (hidden : ℕ) := by norm_num [hidden]
    rw [hpow] at h
    exact_mod_cast h
  exact le_roundHalfEven hd hmul

theorem roundHalfEven_small {n d : ℕ} (h : 2 * n < d) : roundHalfEven n d = 0 := by
  have hdiv : n / d = 0 := Nat.div_eq_of_lt (by omega)
  have hmod : n % d = n := Nat.mod_eq_of_lt (by omega)
  rw [roundHalfEven, hmod, if_pos h, hdiv]

theorem lt_of_ofRatio_finite (negative : Bool) {num den : ℕ} (hden : 0 < den)
    (h : (ofRatio negative num den).isFinite) : (num : ℚ) / den < 2 ^ (1024 : ℤ) := by
  by_contra hle
  rw [not_lt] at hle
  have hnum : 0 < num := by
    rcases Nat.eq_zero_or_pos num with rfl | hnum
    · rw [Nat.cast_zero, zero_div] at hle
      exact absurd hle (not_le.mpr (by positivity))
    · exact hnum
  have hfits := fitExponent_fits hnum hden
  have hlarge : 972 ≤ fitExponent num den := by
    have hlt := (zpow_lt_zpow_iff_right₀ (by norm_num : (1 : ℚ) < 2)).mp (hle.trans_lt hfits.below)
    omega
  have hfull := hfits.full.resolve_left (by omega)
  have hround : hidden ≤ roundHalfEven (scale num den (fitExponent num den)).1
      (scale num den (fitExponent num den)).2 := by
    refine hidden_le_roundHalfEven (scale_pos hden _) ?_
    rw [scale_value, le_div_iff₀ (by positivity), ← zpow_add₀ (by norm_num)]
    exact hfull
  rw [ofRatio_eq_pack negative hnum hden (scale_pos hden _) hfits (scale_value num den _), pack] at h
  split at h
  · rw [ofMantissa_overflow negative le_rfl (by omega)] at h
    cases h
  · rw [ofMantissa_overflow negative hround hlarge] at h
    cases h

theorem ofMantissa_isFinite (negative : Bool) (m : ℕ) {e : ℤ} (he : e < 972) :
    (ofMantissa negative m e).isFinite = true := by
  unfold ofMantissa
  dsimp only
  split
  · rfl
  · rw [dif_pos (by omega)]
    rfl

theorem fitExponent_lt {num den : ℕ} (hnum : 0 < num) (hden : 0 < den) (h : (num : ℚ) / den < 2 ^ (1023 : ℤ)) :
    fitExponent num den < 971 := by
  rcases (fitExponent_fits hnum hden).full with hleast | hfull
  · omega
  · have hlt := (zpow_lt_zpow_iff_right₀ (by norm_num : (1 : ℚ) < 2)).mp (hfull.trans_lt h)
    omega

theorem ofRatio_isFinite (negative : Bool) {num den : ℕ} (hden : 0 < den)
    (h : (num : ℚ) / den < 2 ^ (1023 : ℤ)) : (ofRatio negative num den).isFinite = true := by
  rcases Nat.eq_zero_or_pos num with rfl | hnum
  · rw [ofRatio_zero]
    rfl
  have hsmall := fitExponent_lt hnum hden h
  rw [ofRatio_eq_pack negative hnum hden (scale_pos hden _) (fitExponent_fits hnum hden) (scale_value num den _), pack]
  split
  · exact ofMantissa_isFinite negative _ (by omega)
  · exact ofMantissa_isFinite negative _ (by omega)

theorem isNegative_ofMantissa (negative : Bool) (m : ℕ) (e : ℤ) :
    (ofMantissa negative m e).isNegative = negative := by
  unfold ofMantissa
  dsimp only
  split
  · rfl
  · split <;> rfl

theorem isNegative_ofRatio (negative : Bool) (num den : ℕ) :
    (ofRatio negative num den).isNegative = negative := by
  rw [ofRatio]
  split
  · rfl
  · rw [pack]
    split <;> exact isNegative_ofMantissa _ _ _

theorem isNegative_mul (x y : Binary64) : (x.mul y).isNegative = (x.isNegative != y.isNegative) := by
  unfold mul
  exact isNegative_ofRatio _ _ _

theorem isNegative_ofInt? {n : ℤ} {x : Binary64} (hn : 0 ≤ n) (h : ofInt? n = some x) :
    x.isNegative = false := by
  unfold ofInt? at h
  dsimp only at h
  split at h
  · rw [← Option.some.inj h, isNegative_ofRatio]
    exact decide_eq_false (not_lt.mpr hn)
  · cases h

theorem le_of_ofRatio_nonzero (negative : Bool) {num den : ℕ} (hden : 0 < den)
    (h : (ofRatio negative num den).isZero = false) : 2 ^ (-1075 : ℤ) ≤ (num : ℚ) / den := by
  by_contra hlt
  rw [not_le] at hlt
  rcases Nat.eq_zero_or_pos num with rfl | hnum
  · rw [ofRatio_zero] at h
    cases h
  have hfits : Fits ((num : ℚ) / den) (-1074) :=
    ⟨le_rfl, hlt.trans (zpow_lt_zpow_right₀ (by norm_num) (by norm_num)), .inl rfl⟩
  have hsmall : 2 * (scale num den (-1074)).1 < (scale num den (-1074)).2 := by
    have hvalue := scale_value num den (-1074)
    have hpos : (0 : ℚ) < (scale num den (-1074)).2 := by exact_mod_cast scale_pos hden _
    have hhalf : ((scale num den (-1074)).1 : ℚ) / (scale num den (-1074)).2 < 1 / 2 := by
      rw [hvalue, div_lt_iff₀ (by positivity)]
      calc (num : ℚ) / den < 2 ^ (-1075 : ℤ) := hlt
        _ = 1 / 2 * 2 ^ (-1074 : ℤ) := by
          rw [show (-1075 : ℤ) = -1 + -1074 by norm_num, zpow_add₀ (by norm_num)]
          norm_num
    rw [div_lt_iff₀ hpos] at hhalf
    have hcast : (2 : ℚ) * (scale num den (-1074)).1 < (scale num den (-1074)).2 := by linarith
    exact_mod_cast hcast
  rw [ofRatio_eq_pack negative hnum hden (scale_pos hden _) hfits (scale_value num den _),
    roundHalfEven_small hsmall, pack, if_neg (by decide), ofMantissa_small negative _ (by decide)] at h
  cases h

/-! ### Decimals -/

theorem pow_ten_le_pow_two (b : ℕ) : 10 ^ (b * 3 / 10) ≤ 2 ^ b := by
  have h : (10 ^ (b * 3 / 10)) ^ 10 ≤ (2 ^ b) ^ 10 := by
    calc (10 ^ (b * 3 / 10)) ^ 10 = 10 ^ (b * 3 / 10 * 10) := (Nat.pow_mul ..).symm
      _ ≤ 10 ^ (3 * b) := Nat.pow_le_pow_right (by norm_num) (by omega)
      _ = 1000 ^ b := by rw [Nat.pow_mul]
      _ ≤ 1024 ^ b := Nat.pow_le_pow_left (by norm_num) b
      _ = (2 ^ b) ^ 10 := by rw [← Nat.pow_mul, Nat.mul_comm, Nat.pow_mul]
  exact (Nat.pow_le_pow_iff_left (by norm_num)).mp h

theorem pow_two_le_pow_ten (b : ℕ) : 2 ^ (b + 1) ≤ 10 ^ (b / 3 + 1) := by
  calc 2 ^ (b + 1) ≤ 2 ^ (3 * (b / 3 + 1)) := Nat.pow_le_pow_right (by norm_num) (by omega)
    _ = 8 ^ (b / 3 + 1) := by rw [Nat.pow_mul]
    _ ≤ 10 ^ (b / 3 + 1) := Nat.pow_le_pow_left (by norm_num) _

theorem decimal_bounds {digits : ℕ} (h : digits ≠ 0) (exponent : ℤ) :
    (10 : ℚ) ^ ((Nat.log2 digits * 3 / 10 : ℕ) + exponent) ≤ digits * 10 ^ exponent ∧
      (digits : ℚ) * 10 ^ exponent < 10 ^ ((Nat.log2 digits / 3 + 1 : ℕ) + exponent) := by
  constructor
  · rw [zpow_add₀ (by norm_num), zpow_natCast]
    have hle : 10 ^ (Nat.log2 digits * 3 / 10) ≤ digits :=
      (pow_ten_le_pow_two _).trans (Nat.log2_self_le h)
    gcongr
    exact_mod_cast hle
  · rw [zpow_add₀ (by norm_num), zpow_natCast]
    have hlt : digits < 10 ^ (Nat.log2 digits / 3 + 1) :=
      Nat.lt_log2_self.trans_le (pow_two_le_pow_ten _)
    gcongr
    exact_mod_cast hlt

theorem two_pow_le_ten_pow : (2 : ℚ) ^ (1075 : ℤ) ≤ 10 ^ (400 : ℤ) := by
  rw [show (1075 : ℤ) = 43 * 25 by norm_num, show (400 : ℤ) = 16 * 25 by norm_num, zpow_mul, zpow_mul,
    zpow_ofNat _ 25, zpow_ofNat _ 25]
  exact pow_le_pow_left₀ (by positivity) (by norm_num) 25

/-- Neither of the answers that are known from the exponent is the one. -/
def Ordinary (digits : ℕ) (exponent : ℤ) : Prop :=
  ¬400 < (Nat.log2 digits * 3 / 10 : ℕ) + exponent ∧
    ¬(Nat.log2 digits / 3 + 1 : ℕ) + exponent < -400

theorem ordinary_of_bounds {digits : ℕ} {exponent : ℤ} (hdigits : digits ≠ 0)
    (hlow : 2 ^ (-1075 : ℤ) ≤ (digits : ℚ) * 10 ^ exponent)
    (hhigh : (digits : ℚ) * 10 ^ exponent < 2 ^ (1024 : ℤ)) : Ordinary digits exponent := by
  obtain ⟨hle, hlt⟩ := decimal_bounds hdigits exponent
  constructor
  · intro hcut
    have hpow : (10 : ℚ) ^ (400 : ℤ) ≤ 10 ^ ((Nat.log2 digits * 3 / 10 : ℕ) + exponent) :=
      zpow_le_zpow_right₀ (by norm_num) (by omega)
    have hbig : (2 : ℚ) ^ (1024 : ℤ) ≤ 2 ^ (1075 : ℤ) :=
      zpow_le_zpow_right₀ (by norm_num) (by norm_num)
    exact absurd (((hbig.trans two_pow_le_ten_pow).trans hpow).trans hle) (not_le.mpr hhigh)
  · intro hcut
    have hpow : (10 : ℚ) ^ ((Nat.log2 digits / 3 + 1 : ℕ) + exponent) ≤ 10 ^ (-400 : ℤ) :=
      zpow_le_zpow_right₀ (by norm_num) (by omega)
    have hsmall : (10 : ℚ) ^ (-400 : ℤ) ≤ 2 ^ (-1075 : ℤ) := by
      rw [zpow_neg, zpow_neg]
      exact inv_anti₀ (by positivity) two_pow_le_ten_pow
    exact absurd (hlt.trans_le (hpow.trans hsmall)) (not_lt.mpr hlow)

theorem ofDecimal_ordinary {digits num den : ℕ} {exponent : ℤ} (negative : Bool)
    (hdigits : digits ≠ 0) (hordinary : Ordinary digits exponent) (hden : 0 < den)
    (h : (num : ℚ) / den = digits * 10 ^ exponent) :
    ofDecimal negative digits exponent = ofRatio negative num den := by
  unfold ofDecimal
  dsimp only
  rw [if_neg hdigits, if_neg hordinary.1, if_neg hordinary.2]
  cases exponent with
  | ofNat k =>
    refine ofRatio_congr negative one_pos hden ?_
    rw [h]
    simp
  | negSucc k =>
    refine ofRatio_congr negative (Nat.pow_pos (by decide)) hden ?_
    rw [h, zpow_negSucc]
    simp [div_eq_mul_inv]

theorem ofDecimal_zero (negative : Bool) (exponent : ℤ) :
    ofDecimal negative 0 exponent = finite negative 0 0 := if_pos rfl

theorem ratio_value (digits : ℕ) (exponent : ℤ) :
    ∃ num den : ℕ, 0 < den ∧ (num : ℚ) / den = digits * 10 ^ exponent := by
  cases exponent with
  | ofNat k => exact ⟨digits * 10 ^ k, 1, one_pos, by simp⟩
  | negSucc k => exact ⟨digits, 10 ^ (k + 1), by positivity, by simp [zpow_negSucc, div_eq_mul_inv]⟩

theorem ofDecimal_congr {negative : Bool} {x : Binary64} {digits digits' : ℕ} {exponent exponent' : ℤ}
    (hfinite : x.isFinite) (hzero : x.isZero = false) (h : ofDecimal negative digits exponent = x)
    (hvalue : (digits' : ℚ) * 10 ^ exponent' = digits * 10 ^ exponent) :
    ofDecimal negative digits' exponent' = x := by
  have hdigits : digits ≠ 0 := by
    rintro rfl
    rw [ofDecimal_zero] at h
    rw [← h] at hzero
    cases hzero
  have hdigits' : digits' ≠ 0 := by
    rintro rfl
    rw [Nat.cast_zero, zero_mul, eq_comm, mul_eq_zero] at hvalue
    exact hdigits (by exact_mod_cast hvalue.resolve_right (by positivity))
  have hordinary : Ordinary digits exponent := by
    unfold ofDecimal at h
    dsimp only at h
    rw [if_neg hdigits] at h
    constructor
    · intro hcut
      rw [if_pos hcut] at h
      rw [← h] at hfinite
      cases hfinite
    · intro hcut
      rw [if_pos hcut] at h
      split at h <;> rw [← h] at hfinite hzero
      · cases hfinite
      · cases hzero
  obtain ⟨num, den, hden, hratio⟩ := ratio_value digits exponent
  rw [ofDecimal_ordinary negative hdigits hordinary hden hratio] at h
  have hlow := le_of_ofRatio_nonzero negative hden (h ▸ hzero)
  have hhigh := lt_of_ofRatio_finite negative hden (h ▸ hfinite)
  rw [hratio, ← hvalue] at hlow hhigh
  rw [ofDecimal_ordinary negative hdigits' (ordinary_of_bounds hdigits' hlow hhigh) hden
    (hratio.trans hvalue.symm), h]

/-- A decimal with the value of a number is read as the number. -/
theorem ofDecimal_magnitude {x : Binary64} {digits : ℕ} {exponent : ℤ} (hfinite : x.isFinite)
    (hzero : x.isZero = false) (h : (digits : ℚ) * 10 ^ exponent = x.magnitude) :
    ofDecimal x.isNegative digits exponent = x := by
  obtain ⟨num, den, hden, hratio⟩ := ratio_value digits exponent
  have hround := ofRatio_magnitude hfinite hden (hratio.trans h)
  have hlow := le_of_ofRatio_nonzero x.isNegative hden (hround.symm ▸ hzero)
  have hhigh := lt_of_ofRatio_finite x.isNegative hden (hround.symm ▸ hfinite)
  rw [hratio] at hlow hhigh
  have hdigits : digits ≠ 0 := by
    rintro rfl
    rw [Nat.cast_zero, zero_mul] at hlow
    exact absurd hlow (not_le.mpr (by positivity))
  rw [ofDecimal_ordinary x.isNegative hdigits (ordinary_of_bounds hdigits hlow hhigh) hden hratio, hround]

end ClusterHarness.Binary64
