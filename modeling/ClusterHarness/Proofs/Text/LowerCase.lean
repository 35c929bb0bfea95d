import ClusterHarness.Text.AsciiCase
import ClusterHarness.Text.Blank
import ClusterHarness.Text.Digit
import ClusterHarness.Text.LetterCase
import Mathlib.Data.List.Basic
import Mathlib.Order.Nat

/-!
Lower case of texts in plain code points: digits and blanks of every script, the minus sign and the letters
of units of time. Such a text is the lower case of the same texts in every script as in ASCII.
-/

namespace ClusterHarness

open CodePoint

namespace LetterCase

def plainRanges : List (Nat × Nat) :=
  [(0x2D, 0x2D), (0x61, 0x61), (0x63, 0x64), (0x68, 0x69), (0x6D, 0x6F), (0x72, 0x73), (0x1C, 0x1F)] ++
    (narrowBlankRanges ++ zeros.map fun z => (z, z + 9))

def isPlain (c : CodePoint) : Bool := c.inRanges plainRanges

/-- No code point of the inclusive range is plain. -/
def isApart (lo hi : Nat) : Bool := plainRanges.all fun (low, high) => Nat.blt hi low || Nat.blt high lo

theorem runs_apart : lowerRuns.all (fun (lo, hi, _, _) => isApart lo hi) = true := by decide +kernel

theorem sequences_apart : lowerSequences.all (fun (n, ns) => isApart n n &&
    ns.any fun m => decide (m < 0x110000) && isApart m m) = true := by decide +kernel

theorem images_apart : lowerRuns.all (fun (lo, hi, step, distance) =>
    lo == 65 && hi == 90 && step == 1 && distance == 32 ||
      decide (0 ≤ lo + distance) && decide (hi + distance < 0x110000) &&
        isApart (lo + distance).toNat (hi + distance).toNat) = true := by decide +kernel

theorem isPlain_iff {c : CodePoint} :
    isPlain c ↔ ∃ range ∈ plainRanges, range.1 ≤ c.val ∧ c.val ≤ range.2 := by
  simp [isPlain, inRanges]

theorem not_plain {lo hi : Nat} (h : isApart lo hi) {c : CodePoint} (hlo : lo ≤ c.val) (hhi : c.val ≤ hi) :
    ¬isPlain c := by
  intro hplain
  obtain ⟨range, hrange, hlow, hhigh⟩ := isPlain_iff.mp hplain
  have hapart := List.all_eq_true.mp h range hrange
  simp only [Bool.or_eq_true, Nat.blt_eq] at hapart
  omega

theorem isPlain_of_isDigit {c : CodePoint} (h : c.isDigit) : isPlain c := by
  rw [CodePoint.isDigit, digitValue?, Option.isSome_map, List.find?_isSome] at h
  obtain ⟨z, hz, hrange⟩ := h
  simp only [Bool.and_eq_true, decide_eq_true_eq] at hrange
  refine isPlain_iff.mpr ⟨(z, z + 9), ?_, hrange.1, Nat.le_of_lt_succ hrange.2⟩
  exact List.mem_append_right _ (List.mem_append_right _ (List.mem_map.mpr ⟨z, hz, rfl⟩))

theorem isPlain_of_isBlank {c : CodePoint} (h : c.isBlank) : isPlain c := by
  rw [CodePoint.isBlank, Bool.or_eq_true, isNarrowBlank, inRanges, inRanges] at h
  simp only [List.any_eq_true, Bool.and_eq_true, decide_eq_true_eq] at h
  rcases h with ⟨range, hrange, hin⟩ | ⟨range, hrange, hin⟩
  · exact isPlain_iff.mpr ⟨range, List.mem_append_right _ (List.mem_append_left _ hrange), hin⟩
  · exact isPlain_iff.mpr ⟨range, by simp [plainRanges, List.mem_singleton.mp hrange], hin⟩

/-! ### One code point -/

theorem toAsciiLower_of_not_upper {c : CodePoint} (h : c.isAsciiUpper = false) : c.toAsciiLower = c :=
  dif_neg fun hupper => by simp [isAsciiUpper, hupper] at h

theorem not_upper_of_isPlain {c : CodePoint} (h : isPlain c) : c.isAsciiUpper = false := by
  have hapart : isApart 65 90 := by decide +kernel
  rw [← Bool.not_eq_true]
  intro hupper
  simp only [isAsciiUpper, Bool.and_eq_true, decide_eq_true_eq] at hupper
  exact not_plain hapart hupper.1 hupper.2 h

theorem upper_mapped {c : CodePoint} (h : c.isAsciiUpper) :
    mapped lowerRuns lowerSequences c = [c.toAsciiLower] := by
  have hall : ∀ k < 26, mapped lowerRuns lowerSequences (Fin.ofNat 0x110000 (65 + k)) =
      [toAsciiLower (Fin.ofNat 0x110000 (65 + k))] := by decide +kernel
  simp only [isAsciiUpper, Bool.and_eq_true, decide_eq_true_eq] at h
  have hletter := hall (c.val - 65) (by omega)
  rwa [Nat.add_sub_cancel' h.1, Fin.ofNat_val_eq_self] at hletter

theorem mapped_sequence {c : CodePoint} {s : Nat × List Nat}
    (h : lowerSequences.find? (fun s => s.1 = c.val) = some s) :
    ¬isPlain c ∧ ∃ d ∈ mapped lowerRuns lowerSequences c, ¬isPlain d := by
  obtain ⟨n, ns⟩ := s
  have hn : n = c.val := by simpa using List.find?_some h
  have hapart := List.all_eq_true.mp sequences_apart _ (List.mem_of_find?_eq_some h)
  simp only [Bool.and_eq_true, List.any_eq_true, decide_eq_true_eq] at hapart
  obtain ⟨hself, m, hm, hlt, himage⟩ := hapart
  have hval : (Fin.ofNat 0x110000 m).val = m := Nat.mod_eq_of_lt hlt
  refine ⟨not_plain hself hn.le hn.ge, Fin.ofNat 0x110000 m, ?_, not_plain himage hval.ge hval.le⟩
  rw [mapped, h]
  exact List.mem_map_of_mem hm

theorem mapped_run {c : CodePoint} (hupper : c.isAsciiUpper = false) {run : Nat × Nat × Nat × Int}
    (hsequence : lowerSequences.find? (fun s => s.1 = c.val) = none)
    (hrun : (lowerRuns.find? fun (lo, hi, step, _) =>
      lo ≤ c.val && c.val ≤ hi && (c.val - lo) % step == 0) = some run) :
    ¬isPlain c ∧ ∃ d ∈ mapped lowerRuns lowerSequences c, ¬isPlain d := by
  obtain ⟨lo, hi, step, distance⟩ := run
  have hmem := List.mem_of_find?_eq_some hrun
  have hin := List.find?_some hrun
  have himage := List.all_eq_true.mp images_apart _ hmem
  simp only [Bool.and_eq_true, decide_eq_true_eq] at hin
  simp only [Bool.or_eq_true, Bool.and_eq_true, beq_iff_eq, decide_eq_true_eq] at himage
  rcases himage with ⟨⟨⟨rfl, rfl⟩, -⟩, -⟩ | ⟨⟨hlow, hhigh⟩, hapart⟩
  · simp [isAsciiUpper, hin] at hupper
  · have hval : (Fin.ofNat 0x110000 (c.val + distance).toNat).val = (c.val + distance).toNat := by
      simp only [Fin.val_ofNat]
      omega
    refine ⟨not_plain (List.all_eq_true.mp runs_apart _ hmem) hin.1.1 hin.1.2,
      Fin.ofNat 0x110000 (c.val + distance).toNat, ?_, not_plain hapart ?_ ?_⟩
    · rw [mapped, hsequence, hrun]
      exact List.mem_singleton_self _
    · omega
    · omega

/-- A code point is mapped as in ASCII, unless neither it nor what it is mapped to is plain. -/
theorem mapped_cases (c : CodePoint) : mapped lowerRuns lowerSequences c = [c.toAsciiLower] ∨
    ¬isPlain c.toAsciiLower ∧ ∃ d ∈ mapped lowerRuns lowerSequences c, ¬isPlain d := by
  cases hupper : c.isAsciiUpper with
  | true => exact .inl (upper_mapped hupper)
  | false =>
    rw [toAsciiLower_of_not_upper hupper]
    cases hsequence : lowerSequences.find? fun s => s.1 = c.val with
    | some s => exact .inr (mapped_sequence hsequence)
    | none =>
      cases hrun : lowerRuns.find? fun (lo, hi, step, _) =>
          lo ≤ c.val && c.val ≤ hi && (c.val - lo) % step == 0 with
      | some run => exact .inr (mapped_run hupper hsequence hrun)
      | none => exact .inl (by rw [mapped, hsequence, hrun])

theorem sigma_not_plain : ¬isPlain capitalSigma.toAsciiLower ∧ ¬isPlain smallSigma ∧ ¬isPlain finalSigma := by
  decide +kernel

/-! ### Texts -/

theorem lowerAfter_of_ascii {t : Text} (h : ∀ c ∈ t.toLower, isPlain c) (before : Text) :
    lowerAfter before t = t.toLower := by
  induction t generalizing before with
  | nil => rfl
  | cons c t ih =>
    obtain ⟨hc, ht⟩ := List.forall_mem_cons.mp h
    have hsigma : c ≠ capitalSigma := fun heq => sigma_not_plain.1 (heq ▸ hc)
    have hmapped := (mapped_cases c).resolve_right fun hnot => hnot.1 hc
    rw [lowerAfter, if_neg hsigma, hmapped, ih ht]
    rfl

theorem ascii_of_lowerAfter {before t : Text} (h : ∀ c ∈ lowerAfter before t, isPlain c) :
    lowerAfter before t = t.toLower := by
  induction t generalizing before with
  | nil => rfl
  | cons c t ih =>
    rw [lowerAfter, List.forall_mem_append] at h
    obtain ⟨hc, ht⟩ := h
    by_cases hsigma : c = capitalSigma
    · rw [if_pos hsigma, List.forall_mem_singleton] at hc
      split at hc
      · exact absurd hc sigma_not_plain.2.2
      · exact absurd hc sigma_not_plain.2.1
    · rw [if_neg hsigma] at hc
      have hmapped := (mapped_cases c).resolve_right fun ⟨_, d, hd, hnot⟩ => hnot (hc d hd)
      rw [lowerAfter, if_neg hsigma, hmapped, ih ht]
      rfl

/-- A text that is plain in lower case is so in every script as in ASCII. -/
theorem lowerCase_eq_iff {t plain : Text} (h : ∀ c ∈ plain, isPlain c) :
    t.lowerCase = plain ↔ t.toLower = plain := by
  constructor
  · rintro rfl
    exact (ascii_of_lowerAfter h).symm
  · rintro rfl
    exact lowerAfter_of_ascii h []

theorem lowerCase_of_plain {t : Text} (h : ∀ c ∈ t, isPlain c) : t.lowerCase = t := by
  have hself : t.map CodePoint.toAsciiLower = t.map id :=
    List.map_congr_left fun c hc => toAsciiLower_of_not_upper (not_upper_of_isPlain (h c hc))
  exact (lowerCase_eq_iff h).mpr (hself.trans (List.map_id t))

end LetterCase

end ClusterHarness
