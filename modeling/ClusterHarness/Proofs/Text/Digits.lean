import ClusterHarness.Json.Reader
import Mathlib.Data.List.Basic
import Mathlib.Data.Nat.Digits.Defs
import Mathlib.Tactic.IntervalCases

/-!
Decimal digits: the text of a natural number is digits without a zero at their head, and its digits
have the number for their value.
-/

namespace ClusterHarness

theorem foldl_digits_lt {α : Type} {value : α → Nat} {ds : List α} (h : ∀ d ∈ ds, value d < 10) :
    ds.foldl (fun n d => 10 * n + value d) 0 < 10 ^ ds.length := by
  have hall : ∀ n, ds.foldl (fun n d => 10 * n + value d) n < (n + 1) * 10 ^ ds.length := by
    induction ds with
    | nil => simp
    | cons d ds ih =>
      intro n
      have hd := h d List.mem_cons_self
      have hrest := ih (fun e he => h e (List.mem_cons_of_mem _ he)) (10 * n + value d)
      have hle : 10 * n + value d + 1 ≤ (n + 1) * 10 := by omega
      rw [List.foldl_cons, List.length_cons, Nat.pow_succ']
      refine hrest.trans_le ?_
      rw [← Nat.mul_assoc]
      exact Nat.mul_le_mul_right _ hle
  have hzero := hall 0
  rw [Nat.zero_add, Nat.one_mul] at hzero
  exact hzero

namespace CodePoint

theorem val_ofChar (c : Char) : (ofChar c).val = c.toNat := rfl

theorem isAsciiDigit_ofChar {c : Char} (h : c.isDigit) : (ofChar c).isAsciiDigit := by
  simp only [Char.isDigit, Bool.and_eq_true, decide_eq_true_eq] at h
  have hlow : 48 ≤ c.toNat := UInt32.le_iff_toNat_le.mp h.1
  have hhigh : c.toNat ≤ 57 := UInt32.le_iff_toNat_le.mp h.2
  simp [isAsciiDigit, val_ofChar, hlow, hhigh]

theorem ofChar_inj {c d : Char} : ofChar c = ofChar d ↔ c = d := by
  refine ⟨fun h => ?_, congrArg _⟩
  have hval : c.toNat = d.toNat := by rw [← val_ofChar, ← val_ofChar, h]
  rw [← Char.ofNat_toNat c, ← Char.ofNat_toNat d, hval]

end CodePoint

namespace Text

theorem ofChars_append (cs ds : List Char) : ofChars (cs ++ ds) = ofChars cs ++ ofChars ds :=
  List.map_append

theorem digitsValue_ofChars (cs : List Char) :
    Json.digitsValue (ofChars cs) = Nat.ofDigitChars 10 cs 0 := by
  rw [Json.digitsValue, ofChars, List.foldl_map, Nat.ofDigitChars_eq_foldl]
  rfl

theorem isAsciiDigit_of_mem {cs : List Char} (h : ∀ c ∈ cs, c.isDigit) :
    ∀ c ∈ ofChars cs, CodePoint.isAsciiDigit c := by
  intro c hc
  obtain ⟨d, hd, rfl⟩ := List.mem_map.mp hc
  exact CodePoint.isAsciiDigit_ofChar (h d hd)

theorem isDigit_toDigits (n : Nat) : ∀ c ∈ Nat.toDigits 10 n, c.isDigit := fun _ hc =>
  Nat.isDigit_of_mem_toDigits (by decide) (by decide) hc

theorem digitChar_ne_zero {d : Nat} (h : 0 < d) (hd : d < 10) : d.digitChar ≠ '0' := by
  interval_cases d <;> decide

theorem head_toDigits_ne_zero {n : Nat} (hn : 0 < n) : (Nat.toDigits 10 n).head? ≠ some '0' := by
  induction n using Nat.strongRecOn with
  | _ n ih =>
    rw [Nat.toDigits_eq_if (by decide)]
    split
    · next hlt =>
      rw [List.head?_cons, ne_eq, Option.some.injEq]
      exact digitChar_ne_zero hn hlt
    · next hge =>
      have hpos : 0 < n / 10 := Nat.div_pos (by omega) (by decide)
      rw [List.head?_append_of_ne_nil _ Nat.toDigits_ne_nil]
      exact ih (n / 10) (by omega) hpos

theorem digitsValue_ofNat (n : Nat) : Json.digitsValue (ofNat n) = n := by
  rw [ofNat, digitsValue_ofChars, Nat.ofDigitChars_ten_toDigits]

theorem ofNat_ne_nil (n : Nat) : ofNat n ≠ [] := by
  rw [ofNat, ofChars, ne_eq, List.map_eq_nil_iff]
  exact Nat.toDigits_ne_nil

theorem ofNat_digits (n : Nat) : ∀ c ∈ ofNat n, CodePoint.isAsciiDigit c :=
  isAsciiDigit_of_mem (isDigit_toDigits n)

theorem length_ofNat_le {n k : Nat} (hk : 0 < k) (h : n < 10 ^ k) : (ofNat n).length ≤ k := by
  rw [ofNat, ofChars, List.length_map]
  exact Nat.toDigits_length 10 n k hk h

theorem digitsValue_lt {ds : Text} (h : ∀ c ∈ ds, CodePoint.isAsciiDigit c) :
    Json.digitsValue ds < 10 ^ ds.length := by
  refine foldl_digits_lt fun c hc => ?_
  have hdigit := h c hc
  simp only [CodePoint.isAsciiDigit, Bool.and_eq_true, decide_eq_true_eq] at hdigit
  omega

theorem lt_length_ofNat {n k : Nat} (h : 10 ^ k ≤ n) : k < (ofNat n).length := by
  have hlt := digitsValue_lt (ofNat_digits n)
  rw [digitsValue_ofNat] at hlt
  exact (Nat.pow_lt_pow_iff_right (by decide)).mp (h.trans_lt hlt)

theorem ofNat_inj {m n : Nat} (h : ofNat m = ofNat n) : m = n := by
  rw [← digitsValue_ofNat m, h, digitsValue_ofNat]

end Text

end ClusterHarness
