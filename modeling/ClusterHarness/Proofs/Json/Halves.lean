import ClusterHarness.Proofs.Json.Reading

/-!
The two halves of a code point next to each other are written like the code point, so that a text with
such halves is read back with them joined. Every other text is read back as it was.
-/

namespace ClusterHarness.Json

/-- The text with every high surrogate and a low one right after it as one code point. -/
def joinHalves : Text → Text
  | [] => []
  | [c] => [c]
  | c :: d :: t =>
    if isHighSurrogate c ∧ isLowSurrogate d then joinSurrogates c d :: joinHalves t
    else c :: joinHalves (d :: t)

theorem escape_unprintable {c : CodePoint} (h : 126 < c.val) :
    escape c = if c.val < 0x10000 then escapeUnit c.val
      else escapeUnit (0xD800 + (c.val - 0x10000) / 0x400) ++
        escapeUnit (0xDC00 + (c.val - 0x10000) % 0x400) := by
  have hquote : ¬(c = .doubleQuote ∨ c = .backslash) := by
    rintro (rfl | rfl) <;> exact absurd h (by decide)
  rw [escape, if_neg hquote, if_neg (by omega), if_neg (by omega), if_neg (by omega), if_neg (by omega),
    if_neg (by omega), if_neg (by omega)]

theorem escape_surrogate {c : CodePoint} (h : 0xD800 ≤ c.val ∧ c.val ≤ 0xDFFF) :
    escape c = escapeUnit c.val := by
  rw [escape_unprintable (by omega), if_pos (by omega)]

theorem escape_joinSurrogates {high low : CodePoint} (hhigh : isHighSurrogate high)
    (hlow : isLowSurrogate low) : escape (joinSurrogates high low) = escape high ++ escape low := by
  have hlarge := joinSurrogates_val hhigh hlow
  have hval : (joinSurrogates high low).val =
      (0x10000 + (high.val - 0xD800) * 0x400 + (low.val - 0xDC00)) % 0x110000 := rfl
  have hh := isHighSurrogate_bounds.mp hhigh
  have hl := isLowSurrogate_bounds.mp hlow
  have hupper : 0xD800 + ((joinSurrogates high low).val - 0x10000) / 0x400 = high.val := by omega
  have hlower : 0xDC00 + ((joinSurrogates high low).val - 0x10000) % 0x400 = low.val := by omega
  rw [escape_unprintable (by omega), if_neg (Nat.not_lt.mpr hlarge), hupper, hlower,
    escape_surrogate (by omega), escape_surrogate (by omega)]

theorem joinHalves_pair {c d : CodePoint} {t : Text} (h : isHighSurrogate c ∧ isLowSurrogate d) :
    joinHalves (c :: d :: t) = joinSurrogates c d :: joinHalves t := by
  rw [joinHalves, if_pos h]

theorem joinHalves_other {c d : CodePoint} {t : Text} (h : ¬(isHighSurrogate c ∧ isLowSurrogate d)) :
    joinHalves (c :: d :: t) = c :: joinHalves (d :: t) := by
  rw [joinHalves, if_neg h]

theorem flatMap_escape_joinHalves (t : Text) : (joinHalves t).flatMap escape = t.flatMap escape := by
  induction t using joinHalves.induct with
  | case1 => rfl
  | case2 c => rfl
  | case3 c d t hpair ih =>
    simp only [joinHalves_pair hpair, List.flatMap_cons, ih, escape_joinSurrogates hpair.1 hpair.2,
      List.append_assoc]
  | case4 c d t hnot ih => rw [joinHalves_other hnot, List.flatMap_cons, ih, ← List.flatMap_cons]

theorem renderString_joinHalves (t : Text) : renderString (joinHalves t) = renderString t := by
  rw [renderString, flatMap_escape_joinHalves, renderString]

theorem joinHalves_head {c e : CodePoint} {t : Text} (h : (joinHalves (c :: t)).head? = some e)
    (hlow : isLowSurrogate e) : c = e := by
  cases t with
  | nil => exact Option.some.inj h
  | cons d t =>
    rw [joinHalves] at h
    split at h
    · next hpair =>
      have hjoined : joinSurrogates c d = e := Option.some.inj h
      have hlarge := joinSurrogates_val hpair.1 hpair.2
      have hbounds := isLowSurrogate_bounds.mp hlow
      rw [hjoined] at hlarge
      omega
    · exact Option.some.inj h

theorem joinHalves_paired (t : Text) : isPaired (joinHalves t) := by
  induction t using joinHalves.induct with
  | case1 => rfl
  | case2 c => rfl
  | case3 c d t hpair ih =>
    rw [joinHalves_pair hpair]
    refine isPaired_cons ih fun e _ hhigh => ?_
    have hlarge := joinSurrogates_val hpair.1 hpair.2
    have hbounds := isHighSurrogate_bounds.mp hhigh
    omega
  | case4 c d t hnot ih =>
    rw [joinHalves_other hnot]
    refine isPaired_cons ih fun e he hhigh hlow => hnot ⟨hhigh, ?_⟩
    rwa [joinHalves_head he hlow]

theorem joinHalves_of_isPaired {t : Text} (h : isPaired t) : joinHalves t = t := by
  induction t using joinHalves.induct with
  | case1 => rfl
  | case2 c => rfl
  | case3 c d t hpair ih =>
    have hnot := (Bool.and_eq_true_iff.mp h).1
    rw [hpair.1, hpair.2] at hnot
    cases hnot
  | case4 c d t hnot ih => rw [joinHalves_other hnot, ih (Bool.and_eq_true_iff.mp h).2]

end ClusterHarness.Json
