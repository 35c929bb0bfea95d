import ClusterHarness.Number.Shortest
import ClusterHarness.Proofs.Number.Rounding
import Mathlib.Data.List.TakeWhile

/-!
The shortest decimal of a number reads back as the number, and leaving out the zeros at the end of its
digits keeps its value.
-/

namespace ClusterHarness.Decimal

def value (d : Decimal) : ℚ := d.digits * 10 ^ d.exponent

theorem search_reads_back {x : Binary64} {num den : ℕ} {position : ℤ} {left count : ℕ} {d : Decimal}
    (h : search x num den position left count = some d) : d.toBinary64 x.isNegative = x := by
  induction left generalizing count with
  | zero => cases h
  | succ left ih =>
    rw [search] at h
    split at h
    · next found hfound =>
      cases h
      have hreads := List.find?_some hfound
      exact of_decide_eq_true hreads
    · exact ih h

theorem exact_value (x : Binary64) : (exact x).value = x.magnitude := by
  cases hexponent : x.exponent with
  | ofNat k =>
    have hexact : exact x = ⟨x.mantissa * Nat.pow 2 k, 0⟩ := by simp only [exact, hexponent]
    rw [hexact, value, Binary64.magnitude, hexponent]
    simp
  | negSucc k =>
    have hexact : exact x = ⟨x.mantissa * Nat.pow 5 (k + 1), .negSucc k⟩ := by
      simp only [exact, hexponent]
    rw [hexact, value, Binary64.magnitude, hexponent, zpow_negSucc, zpow_negSucc,
      show (10 : ℚ) = 2 * 5 by norm_num, mul_pow]
    simp only [Nat.pow_eq, Nat.cast_mul, Nat.cast_pow, Nat.cast_ofNat]
    field_simp

theorem exact_reads_back {x : Binary64} (hfinite : x.isFinite) (hzero : x.isZero = false) :
    (exact x).toBinary64 x.isNegative = x :=
  Binary64.ofDecimal_magnitude hfinite hzero (exact_value x)

theorem shortest_reads_back {x : Binary64} (hfinite : x.isFinite) (hzero : x.isZero = false) :
    (shortest x).toBinary64 x.isNegative = x := by
  rw [shortest, hzero, if_neg Bool.false_ne_true]
  dsimp only
  cases hsearch : search x x.ratio.1 x.ratio.2 (pointPosition x.ratio.1 x.ratio.2) 17 1 with
  | none => exact exact_reads_back hfinite hzero
  | some d => exact search_reads_back hsearch

theorem shortest_zero {x : Binary64} (hzero : x.isZero) : shortest x = ⟨0, 0⟩ := if_pos hzero

theorem eq_zero_of_isZero {x : Binary64} (h : x.isZero) : x = .finite x.isNegative 0 0 := by
  cases x with
  | finite negative biased fraction =>
    simp only [Binary64.isZero, Bool.and_eq_true, beq_iff_eq] at h
    rw [(Fin.ext h.1 : biased = 0), (Fin.ext h.2 : fraction = 0)]
    rfl
  | _ => cases h

theorem toBinary64_of_value {x : Binary64} {d : Decimal} (hfinite : x.isFinite)
    (h : d.value = (shortest x).value) : d.toBinary64 x.isNegative = x := by
  cases hzero : x.isZero with
  | true =>
    have hdigits : d.digits = 0 := by
      rw [shortest_zero hzero, value, value, Nat.cast_zero, zero_mul, mul_eq_zero] at h
      exact_mod_cast h.resolve_right (by positivity)
    rw [toBinary64, hdigits, Binary64.ofDecimal_zero]
    exact (eq_zero_of_isZero hzero).symm
  | false =>
    exact Binary64.ofDecimal_congr hfinite hzero (shortest_reads_back hfinite hzero) h

theorem significant_append_zeros {n : ℕ} (hn : 0 < n) :
    ∃ z, Nat.toDigits 10 n = significant n ++ zeros z ∧ significant n ≠ [] := by
  let ds := (Nat.toDigits 10 n).reverse
  have hzeros : (ds.takeWhile (· == '0')).reverse = zeros (ds.takeWhile (· == '0')).length := by
    refine List.eq_replicate_iff.mpr ⟨List.length_reverse, fun c hc => ?_⟩
    have hzero := List.mem_takeWhile_imp (List.mem_reverse.mp hc)
    exact eq_of_beq hzero
  have hsplit : Nat.toDigits 10 n =
      (ds.dropWhile (· == '0')).reverse ++ zeros (ds.takeWhile (· == '0')).length := by
    rw [← hzeros, ← List.reverse_append, List.takeWhile_append_dropWhile, List.reverse_reverse]
  have hne : (ds.dropWhile (· == '0')).reverse ≠ [] := by
    intro hnil
    rw [hnil, List.nil_append] at hsplit
    have hvalue := congrArg (Nat.ofDigitChars 10 · 0) hsplit
    simp only [Nat.ofDigitChars_ten_toDigits, zeros, Nat.ofDigitChars_replicate_zero, Nat.mul_zero] at hvalue
    omega
  have hsignificant : significant n = (ds.dropWhile (· == '0')).reverse := by
    unfold significant
    split
    · next hnil => exact absurd hnil hne
    · rfl
  rw [hsignificant]
  exact ⟨_, hsplit, hne⟩

/-! ### Layout -/

def charsValue (cs : List Char) : ℚ := Nat.ofDigitChars 10 cs 0

theorem charsValue_zeros_append (n : ℕ) (cs : List Char) : charsValue (zeros n ++ cs) = charsValue cs := by
  rw [charsValue, zeros, Nat.ofDigitChars_append, Nat.ofDigitChars_replicate_zero, Nat.mul_zero, charsValue]

theorem charsValue_append_zeros (cs : List Char) (n : ℕ) :
    charsValue (cs ++ zeros n) = charsValue cs * 10 ^ n := by
  rw [charsValue, zeros, Nat.ofDigitChars_append, Nat.ofDigitChars_replicate_zero, charsValue]
  push_cast
  ring

theorem isDigit_zeros {n : ℕ} : ∀ c ∈ zeros n, c.isDigit := by
  intro c hc
  rw [List.eq_of_mem_replicate hc]
  rfl

/-- Digits before and after a point, with a value. -/
structure Pointed (cs whole fraction : List Char) (value : ℚ) : Prop where
  text : cs = whole ++ '.' :: fraction
  lead : whole = ['0'] ∨ whole ≠ [] ∧ whole.head? ≠ some '0'
  nonempty : fraction ≠ []
  digits : ∀ c ∈ whole ++ fraction, c.isDigit
  sum : charsValue (whole ++ fraction) * 10 ^ (-(fraction.length : ℤ)) = value

theorem isDigit_cons_zero {cs : List Char} (h : ∀ c ∈ cs, c.isDigit) : ∀ c ∈ '0' :: cs, c.isDigit := by
  intro c hc
  rcases List.mem_cons.mp hc with rfl | hc
  · rfl
  · exact h c hc

theorem charsValue_cons_zero (cs : List Char) : charsValue ('0' :: cs) = charsValue cs :=
  charsValue_zeros_append 1 cs

section Positional

variable {cs : List Char} (hdigits : ∀ c ∈ cs, c.isDigit) (hne : cs ≠ []) (hlead : cs.head? ≠ some '0')

include hdigits hne

theorem pointed_before (count : ℕ) :
    Pointed ('0' :: '.' :: (zeros count ++ cs)) ['0'] (zeros count ++ cs)
      (charsValue cs * 10 ^ (-(count : ℤ) - cs.length)) where
  text := rfl
  lead := .inl rfl
  nonempty := List.append_ne_nil_of_right_ne_nil _ hne
  digits := by
    rw [List.singleton_append]
    refine isDigit_cons_zero fun c hc => ?_
    rcases List.mem_append.mp hc with hc | hc
    · exact isDigit_zeros c hc
    · exact hdigits c hc
  sum := by
    rw [List.singleton_append, charsValue_cons_zero, charsValue_zeros_append]
    congr 2
    simp [zeros]
    omega

include hlead

theorem pointed_behind (count : ℕ) :
    Pointed (cs ++ zeros count ++ ['.', '0']) (cs ++ zeros count) ['0'] (charsValue cs * 10 ^ (count : ℤ)) where
  text := rfl
  lead := by
    refine .inr ⟨List.append_ne_nil_of_left_ne_nil hne _, ?_⟩
    rw [List.head?_append_of_ne_nil _ hne]
    exact hlead
  nonempty := List.cons_ne_nil _ _
  digits := by
    intro c hc
    rcases List.mem_append.mp hc with hc | hc
    · rcases List.mem_append.mp hc with hc | hc
      · exact hdigits c hc
      · exact isDigit_zeros c hc
    · exact isDigit_zeros (n := 1) c hc
  sum := by
    have hzeros : cs ++ zeros count ++ ['0'] = cs ++ zeros (count + 1) := by
      rw [zeros, zeros, List.replicate_succ', List.append_assoc]
    rw [hzeros, charsValue_append_zeros, mul_assoc, ← zpow_natCast, ← zpow_add₀ (by norm_num)]
    congr 2
    simp

omit hne in
theorem pointed_among {count : ℕ} (hcount : count + 1 < cs.length) :
    Pointed (cs.take (count + 1) ++ '.' :: cs.drop (count + 1)) (cs.take (count + 1)) (cs.drop (count + 1))
      (charsValue cs * 10 ^ ((count + 1 : ℕ) - (cs.length : ℤ))) where
  text := rfl
  lead := by
    cases cs with
    | nil => exact absurd hcount (Nat.not_lt_zero _)
    | cons c cs => exact .inr ⟨List.cons_ne_nil _ _, hlead⟩
  nonempty := by
    rw [ne_eq, List.drop_eq_nil_iff]
    omega
  digits := by
    rw [List.take_append_drop]
    exact hdigits
  sum := by
    rw [List.take_append_drop, List.length_drop]
    congr 2
    push_cast [Nat.cast_sub (Nat.le_of_lt hcount)]
    ring

theorem positional_pointed (position : ℤ) :
    ∃ whole fraction, Pointed (positional cs position) whole fraction
      (charsValue cs * 10 ^ (position - cs.length)) := by
  match position with
  | .ofNat 0 => exact ⟨['0'], cs, pointed_before hdigits hne 0⟩
  | .ofNat (k + 1) =>
    rcases Nat.lt_or_ge (k + 1) cs.length with hlong | hshort
    · have hzeros : zeros (k + 1 - cs.length) = [] := by
        rw [Nat.sub_eq_zero_of_le (Nat.le_of_lt hlong)]
        rfl
      have hdrop : cs.drop (k + 1) ≠ [] := by
        rw [ne_eq, List.drop_eq_nil_iff]
        omega
      refine ⟨cs.take (k + 1), cs.drop (k + 1), ?_⟩
      simp only [positional, hzeros, List.append_nil, List.isEmpty_iff, hdrop, if_false]
      exact pointed_among hdigits hlead hlong
    · have hpower : (k + 1 - cs.length : ℕ) = (Int.ofNat (k + 1) - cs.length : ℤ) := by
        simp
        omega
      refine ⟨cs ++ zeros (k + 1 - cs.length), ['0'], ?_⟩
      simp only [positional, List.take_of_length_le hshort, List.drop_of_length_le hshort]
      rw [← hpower]
      exact pointed_behind hdigits hne hlead _
  | .negSucc k => exact ⟨_, _, pointed_before hdigits hne (k + 1)⟩

end Positional

theorem significant_value {n : ℕ} (hn : 0 < n) (exponent : ℤ) :
    charsValue (significant n) * 10 ^ ((width n : ℤ) + exponent - (significant n).length) =
      value ⟨n, exponent⟩ := by
  obtain ⟨z, hdigits, -⟩ := significant_append_zeros hn
  have hvalue : (n : ℚ) = charsValue (significant n) * 10 ^ z := by
    rw [← charsValue_append_zeros, ← hdigits, charsValue, Nat.ofDigitChars_ten_toDigits]
  have hwidth : width n = (significant n).length + z := by
    rw [width, hdigits, List.length_append, zeros, List.length_replicate]
  rw [value, hvalue, mul_assoc, ← zpow_natCast, ← zpow_add₀ (by norm_num), hwidth]
  congr 2
  push_cast
  ring

end ClusterHarness.Decimal
