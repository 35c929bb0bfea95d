import ClusterHarness.Proofs.Number.Rounding
import Mathlib.Data.Rat.Floor

/-!
Bounds of a rounded quotient. Rounding goes to a neighbour, so it does not go past a bound that is a number itself;
where a value keeps its distance from a whole number, rounding does not reach it.
-/

namespace ClusterHarness.Binary64

/-- The finite number with its sign. -/
def value (x : Binary64) : ℚ := if x.isNegative then -x.magnitude else x.magnitude

theorem ratio_pos (x : Binary64) : 0 < x.ratio.2 := by
  unfold ratio
  split
  · exact one_pos
  · exact Nat.pow_pos (by decide)

theorem ratio_magnitude (x : Binary64) : (x.ratio.1 : ℚ) / x.ratio.2 = x.magnitude := by
  unfold ratio magnitude
  split
  · next k hk =>
    rw [hk, Int.ofNat_eq_natCast, zpow_natCast]
    simp
  · next k hk =>
    rw [hk, zpow_negSucc, div_eq_mul_inv]
    simp

theorem magnitude_nonneg (x : Binary64) : 0 ≤ x.magnitude := by
  rw [magnitude]
  positivity

theorem floor_eq (x : Binary64) : x.floor = ⌊x.value⌋ := by
  have hvalue : x.value = ((if x.isNegative then -(x.ratio.1 : ℤ) else x.ratio.1 : ℤ) : ℚ) / (x.ratio.2 : ℕ) := by
    rw [value, ← ratio_magnitude]
    split
    · push_cast
      ring
    · push_cast
      rfl
  rw [hvalue, Rat.floor_intCast_div_natCast]
  exact Int.fdiv_eq_ediv_of_nonneg _ (Int.natCast_nonneg _)

/-! ### Neighbours -/

theorem roundHalfEven_le {k n d : ℕ} (hd : 0 < d) (h : n ≤ k * d) : roundHalfEven n d ≤ k := by
  have hparts : d * (n / d) + n % d = n := Nat.div_add_mod n d
  have hmod : n % d < d := Nat.mod_lt n hd
  rcases Nat.eq_zero_or_pos (n % d) with hzero | hpos
  · have hdiv : n / d ≤ k := Nat.div_le_of_le_mul (by rwa [Nat.mul_comm] at h)
    have hround : roundHalfEven n d = n / d := by rw [roundHalfEven, hzero, if_pos (by omega)]
    exact hround ▸ hdiv
  · have hdiv : n / d < k := by
      by_contra hle
      have hmul : d * k ≤ d * (n / d) := Nat.mul_le_mul_left d (not_lt.mp hle)
      rw [Nat.mul_comm d k] at hmul
      omega
    unfold roundHalfEven
    dsimp only
    split
    · omega
    · split <;> omega

/-- A number `m` times two to the `e` that is nearest to a value. -/
structure Nearest (q : ℚ) (m : ℕ) (e : ℤ) : Prop where
  fits : Fits q e
  above : ∀ k : ℕ, k * 2 ^ e ≤ q → k ≤ m
  below : ∀ k : ℕ, q ≤ k * 2 ^ e → m ≤ k

theorem magnitude_ofMantissa (negative : Bool) {m : ℕ} {e : ℤ} (hm : m < 2 * hidden)
    (hsmall : m < hidden → e = -1074) (hleast : -1074 ≤ e) (hhigh : e < 972) :
    (ofMantissa negative m e).magnitude = m * 2 ^ e := by
  by_cases h : m < hidden
  · rw [ofMantissa_small negative e h, magnitude, mantissa_subnormal negative _ rfl,
      exponent_subnormal negative _ rfl, hsmall h]
  · have hbiased : (e + 1075).toNat < 2047 := by omega
    have hnormal : (e + 1075).toNat ≠ 0 := by omega
    have hfraction : (m - hidden) % 0x10000000000000 = m - hidden := Nat.mod_eq_of_lt (by
      have hpow : hidden = 0x10000000000000 := rfl
      omega)
    rw [ofMantissa_large negative (not_lt.mp h) rfl hbiased, magnitude, mantissa_normal negative _ hnormal,
      exponent_normal negative _ hnormal]
    have hmantissa : hidden + (Fin.ofNat 0x10000000000000 (m - hidden)).val = m := by
      change hidden + (m - hidden) % 0x10000000000000 = m
      omega
    have hexponent : (((e + 1075).toNat : ℕ) : ℤ) - 1075 = e := by omega
    rw [hmantissa, hexponent]

theorem magnitude_pack (negative : Bool) {m : ℕ} {e : ℤ} (hm : m ≤ 2 * hidden)
    (hsmall : m < hidden → e = -1074) (hleast : -1074 ≤ e) (hhigh : e < 971) :
    (pack negative m e).magnitude = m * 2 ^ e := by
  rw [pack]
  split
  · next htop =>
    rw [magnitude_ofMantissa negative (by decide) (fun h => absurd h (lt_irrefl _)) (by omega) (by omega), htop,
      zpow_add₀ (by norm_num)]
    push_cast
    ring
  · next htop => exact magnitude_ofMantissa negative (by omega) hsmall hleast (by omega)

theorem ofRatio_nearest (negative : Bool) {num den : ℕ} (hnum : 0 < num) (hden : 0 < den)
    (hlt : (num : ℚ) / den < 2 ^ (1023 : ℤ)) :
    ∃ m e, Nearest (num / den) m e ∧ (ofRatio negative num den).magnitude = m * 2 ^ e := by
  have hfits := fitExponent_fits hnum hden
  set e := fitExponent num den with he
  have hscaled := scale_value num den e
  have hpos : 0 < (scale num den e).2 := scale_pos hden e
  have hposq : (0 : ℚ) < (scale num den e).2 := by exact_mod_cast hpos
  have hpow : (0 : ℚ) < 2 ^ e := by positivity
  have hnearest : Nearest (num / den) (roundHalfEven (scale num den e).1 (scale num den e).2) e := by
    refine ⟨hfits, fun k hk => le_roundHalfEven hpos ?_, fun k hk => roundHalfEven_le hpos ?_⟩
    · rw [← le_div_iff₀ hpow, ← hscaled, le_div_iff₀ hposq] at hk
      exact_mod_cast hk
    · rw [← div_le_iff₀ hpow, ← hscaled, div_le_iff₀ hposq] at hk
      exact_mod_cast hk
  refine ⟨_, e, hnearest, ?_⟩
  have htop : roundHalfEven (scale num den e).1 (scale num den e).2 ≤ 2 * hidden := by
    refine hnearest.below _ (hfits.below.le.trans_eq ?_)
    rw [zpow_add₀ (by norm_num)]
    norm_num [hidden]
  have hsmall : roundHalfEven (scale num den e).1 (scale num den e).2 < hidden → e = -1074 := by
    intro hround
    refine hfits.full.resolve_right fun hfull => ?_
    have hle := hnearest.above hidden (by
      rw [zpow_add₀ (by norm_num)] at hfull
      exact le_of_eq_of_le (by norm_num [hidden]) hfull)
    omega
  have hhigh : e < 971 := fitExponent_lt hnum hden hlt
  rw [ofRatio_eq_pack negative hnum hden hpos hfits hscaled,
    magnitude_pack negative htop hsmall hfits.least hhigh]

/-! ### Bounds that are numbers -/

section Bounds

variable {q : ℚ} {m k : ℕ} {e f : ℤ}

theorem Nearest.le_of_le (h : Nearest q m e) (hk : k < 2 * hidden) (hf : -1074 ≤ f) (hq : q ≤ k * 2 ^ f) :
    (m : ℚ) * 2 ^ e ≤ k * 2 ^ f := by
  have hsteps : e ≤ f := by
    rcases h.fits.full with hleast | hfull
    · omega
    · have hlt : (2 : ℚ) ^ (52 + e) < 2 ^ (53 + f) := by
        calc (2 : ℚ) ^ (52 + e) ≤ q := hfull
          _ ≤ k * 2 ^ f := hq
          _ < (2 * hidden : ℕ) * 2 ^ f := by gcongr
          _ = 2 ^ (53 + f) := by
            rw [zpow_add₀ (by norm_num)]
            norm_num [hidden]
      have hexponent := (zpow_lt_zpow_iff_right₀ (by norm_num : (1 : ℚ) < 2)).mp hlt
      omega
  obtain ⟨j, rfl⟩ := Int.le.dest hsteps
  have hgrid : (k : ℚ) * 2 ^ (e + j) = (k * 2 ^ j : ℕ) * 2 ^ e := by
    rw [zpow_add₀ (by norm_num), zpow_natCast]
    push_cast
    ring
  rw [hgrid] at hq ⊢
  gcongr
  exact h.below _ hq

theorem Nearest.le_of_ge (h : Nearest q m e) (hk : k < 2 * hidden) (hf : -1074 ≤ f) (hq : k * 2 ^ f ≤ q) :
    (k : ℚ) * 2 ^ f ≤ m * 2 ^ e := by
  rcases le_or_gt e f with hsteps | hfine
  · obtain ⟨j, rfl⟩ := Int.le.dest hsteps
    have hgrid : (k : ℚ) * 2 ^ (e + j) = (k * 2 ^ j : ℕ) * 2 ^ e := by
      rw [zpow_add₀ (by norm_num), zpow_natCast]
      push_cast
      ring
    rw [hgrid] at hq ⊢
    gcongr
    exact h.above _ hq
  · have hfull : (hidden : ℚ) * 2 ^ e ≤ q := by
      refine le_of_eq_of_le ?_ (h.fits.full.resolve_left (by omega))
      rw [zpow_add₀ (by norm_num)]
      norm_num [hidden]
    calc (k : ℚ) * 2 ^ f ≤ (2 * hidden : ℕ) * 2 ^ f := by gcongr
      _ = hidden * 2 ^ (f + 1) := by
        rw [zpow_add₀ (by norm_num)]
        push_cast
        ring
      _ ≤ hidden * 2 ^ e := by
        gcongr
        · norm_num
        · omega
      _ ≤ m * 2 ^ e := by
        gcongr
        exact h.above hidden hfull

end Bounds

section Rounded

variable {num den k : ℕ} {f : ℤ}

theorem ofRatio_le (negative : Bool) (hden : 0 < den) (hlt : (num : ℚ) / den < 2 ^ (1023 : ℤ))
    (hk : k < 2 * hidden) (hf : -1074 ≤ f) (h : (num : ℚ) / den ≤ k * 2 ^ f) :
    (ofRatio negative num den).magnitude ≤ k * 2 ^ f := by
  rcases Nat.eq_zero_or_pos num with rfl | hnum
  · rw [ofRatio_zero, magnitude, mantissa_subnormal negative 0 rfl, Fin.val_zero, Nat.cast_zero, zero_mul]
    exact mul_nonneg (Nat.cast_nonneg k) (zpow_nonneg (by norm_num) f)
  · obtain ⟨m, e, hnearest, hvalue⟩ := ofRatio_nearest negative hnum hden hlt
    rw [hvalue]
    exact hnearest.le_of_le hk hf h

theorem le_ofRatio (negative : Bool) (hden : 0 < den) (hlt : (num : ℚ) / den < 2 ^ (1023 : ℤ))
    (hk : k < 2 * hidden) (hf : -1074 ≤ f) (h : k * 2 ^ f ≤ (num : ℚ) / den) :
    k * 2 ^ f ≤ (ofRatio negative num den).magnitude := by
  rcases Nat.eq_zero_or_pos num with rfl | hnum
  · rw [Nat.cast_zero, zero_div] at h
    exact h.trans (magnitude_nonneg _)
  · obtain ⟨m, e, hnearest, hvalue⟩ := ofRatio_nearest negative hnum hden hlt
    rw [hvalue]
    exact hnearest.le_of_ge hk hf h

variable {x : Binary64}

theorem quotient_eq (x : Binary64) (den : ℕ) :
    x.quotient den = ofRatio x.isNegative x.ratio.1 (x.ratio.2 * den) := rfl

theorem isNegative_quotient (x : Binary64) (den : ℕ) : (x.quotient den).isNegative = x.isNegative := by
  rw [quotient_eq, isNegative_ofRatio]

theorem ratio_div (x : Binary64) (den : ℕ) : (x.ratio.1 : ℚ) / (x.ratio.2 * den : ℕ) = x.magnitude / den := by
  rw [Nat.cast_mul, ← div_div, ratio_magnitude]

theorem quotient_le (hden : 0 < den) (hlt : x.magnitude / den < 2 ^ (1023 : ℤ)) (hk : k < 2 * hidden)
    (hf : -1074 ≤ f) (h : x.magnitude / den ≤ k * 2 ^ f) : (x.quotient den).magnitude ≤ k * 2 ^ f := by
  rw [← ratio_div] at hlt h
  rw [quotient_eq]
  exact ofRatio_le x.isNegative (Nat.mul_pos x.ratio_pos hden) hlt hk hf h

theorem le_quotient (hden : 0 < den) (hlt : x.magnitude / den < 2 ^ (1023 : ℤ)) (hk : k < 2 * hidden)
    (hf : -1074 ≤ f) (h : k * 2 ^ f ≤ x.magnitude / den) : k * 2 ^ f ≤ (x.quotient den).magnitude := by
  rw [← ratio_div] at hlt h
  rw [quotient_eq]
  exact le_ofRatio x.isNegative (Nat.mul_pos x.ratio_pos hden) hlt hk hf h

end Rounded

end ClusterHarness.Binary64
