import ClusterHarness.Json.Printer
import ClusterHarness.Json.Reader
import ClusterHarness.Proofs.Text.Scalars
import Mathlib.Data.List.Basic

/-!
Strings in JSON text. The escapes of a text are read as its UTF-16 units, and the units are joined to
the text again unless it holds the two halves of a code point apart.
-/

namespace ClusterHarness

theorem CodePoint.hexValue?_ofHexDigit : ∀ n : Fin 16, (ofHexDigit n).hexValue? = some n.val := by
  decide

theorem Text.hex_four (n : Nat) : Text.hex 4 n =
    [CodePoint.ofHexDigit ⟨n / 16 / 16 / 16 % 16, Nat.mod_lt _ (by decide)⟩,
      CodePoint.ofHexDigit ⟨n / 16 / 16 % 16, Nat.mod_lt _ (by decide)⟩,
      CodePoint.ofHexDigit ⟨n / 16 % 16, Nat.mod_lt _ (by decide)⟩,
      CodePoint.ofHexDigit ⟨n % 16, Nat.mod_lt _ (by decide)⟩] := rfl

theorem Text.hexValue?_hex_four {n : Nat} (h : n < 0x10000) : Text.hexValue? (Text.hex 4 n) = some n := by
  rw [hex_four]
  simp only [Text.hexValue?, List.foldlM_cons, List.foldlM_nil, CodePoint.hexValue?_ofHexDigit,
    Option.map_some, bind, Option.bind, pure, Option.some.injEq]
  omega

namespace Json

/-- The units that stand for a code point. -/
def unitsOf (c : CodePoint) : List StringUnit :=
  if c = .doubleQuote ∨ c = .backslash then [⟨c, false⟩]
  else if c.val = 10 ∨ c.val = 13 ∨ c.val = 9 ∨ c.val = 12 ∨ c.val = 8 then [⟨c, false⟩]
  else if 32 ≤ c.val ∧ c.val ≤ 126 then [⟨c, false⟩]
  else if c.val < 0x10000 then [⟨c, true⟩]
  else
    let n := c.val - 0x10000
    [⟨Fin.ofNat _ (0xD800 + n / 0x400), true⟩, ⟨Fin.ofNat _ (0xDC00 + n % 0x400), true⟩]

section Units

variable {start s : Text}

/-- What is read, after some units. -/
def after (us : List StringUnit) (r : Except Fault (List StringUnit × Text)) :
    Except Fault (List StringUnit × Text) := r.map fun p => (us ++ p.1, p.2)

theorem after_after (us vs : List StringUnit) (r : Except Fault (List StringUnit × Text)) :
    after us (after vs r) = after (us ++ vs) r := by
  cases r with
  | error e => rfl
  | ok p => simp [after, Except.map]

theorem stringUnits_plain {c : CodePoint} (hquote : c ≠ .doubleQuote) (hslash : c ≠ .backslash)
    (hc : 32 ≤ c.val) : stringUnits start (c :: s) = after [⟨c, false⟩] (stringUnits start s) := by
  rw [stringUnits.eq_def]
  simp only [if_neg hquote, if_neg hslash, if_neg (Nat.not_lt.mpr hc)]
  rfl

theorem stringUnits_short {e p : CodePoint} (he : e ≠ CodePoint.ofChar 'u')
    (hp : shortEscape? e = some p) :
    stringUnits start (.backslash :: e :: s) = after [⟨p, false⟩] (stringUnits start s) := by
  rw [stringUnits.eq_def]
  have hquote : CodePoint.backslash ≠ .doubleQuote := by decide
  simp only [if_neg hquote, if_true, if_neg he, hp]
  rfl

theorem stringUnits_hex {n : Nat} (hn : n < 0x10000) (hs : s ≠ []) :
    stringUnits start (escapeUnit n ++ s) = after [⟨Fin.ofNat _ n, true⟩] (stringUnits start s) := by
  have hquote : CodePoint.backslash ≠ .doubleQuote := by decide
  have hvalue := Text.hexValue?_hex_four hn
  have htext : escapeUnit n ++ s = .backslash :: CodePoint.ofChar 'u' :: (Text.hex 4 n ++ s) := rfl
  have hempty : s.isEmpty = false := by
    cases s with
    | nil => exact absurd rfl hs
    | cons c s => rfl
  rw [htext, stringUnits.eq_def]
  rw [Text.hex_four] at hvalue ⊢
  simp only [if_neg hquote, if_true, List.cons_append, List.nil_append, hvalue, hempty]
  rfl

/-- The code points that have an escape of their own. -/
def shortEscaped : List CodePoint := [.doubleQuote, .backslash, 10, 13, 9, 12, 8]

theorem stringUnits_escape_short {c : CodePoint} (h : c ∈ shortEscaped) :
    stringUnits start (escape c ++ s) = after (unitsOf c) (stringUnits start s) := by
  simp only [shortEscaped, List.mem_cons, List.not_mem_nil, or_false] at h
  rcases h with rfl | rfl | rfl | rfl | rfl | rfl | rfl
  · exact stringUnits_short (by decide) rfl
  · exact stringUnits_short (by decide) rfl
  · exact stringUnits_short (by decide) rfl
  · exact stringUnits_short (by decide) rfl
  · exact stringUnits_short (by decide) rfl
  · exact stringUnits_short (by decide) rfl
  · exact stringUnits_short (by decide) rfl

theorem not_shortEscaped {c : CodePoint} (h : c ∉ shortEscaped) :
    ¬(c = .doubleQuote ∨ c = .backslash) ∧ ¬c.val = 10 ∧ ¬c.val = 13 ∧ ¬c.val = 9 ∧ ¬c.val = 12 ∧
      ¬c.val = 8 := by
  simp only [shortEscaped, List.mem_cons, List.not_mem_nil, or_false, not_or] at h
  obtain ⟨hquote, hslash, h10, h13, h9, h12, h8⟩ := h
  exact ⟨not_or.mpr ⟨hquote, hslash⟩, fun h => h10 (Fin.ext h), fun h => h13 (Fin.ext h),
    fun h => h9 (Fin.ext h), fun h => h12 (Fin.ext h), fun h => h8 (Fin.ext h)⟩

theorem stringUnits_escape (c : CodePoint) (hs : s ≠ []) :
    stringUnits start (escape c ++ s) = after (unitsOf c) (stringUnits start s) := by
  by_cases hshort : c ∈ shortEscaped
  · exact stringUnits_escape_short hshort
  obtain ⟨hquote, h10, h13, h9, h12, h8⟩ := not_shortEscaped hshort
  simp only [escape, unitsOf, if_neg hquote, h10, h13, h9, h12, h8, or_self, if_false]
  split
  · next hprintable =>
    rw [not_or] at hquote
    exact stringUnits_plain hquote.1 hquote.2 hprintable.1
  · split
    · next hbasic =>
      have hpoint : Fin.ofNat 0x110000 c.val = c := Fin.ext (Nat.mod_eq_of_lt c.isLt)
      rw [stringUnits_hex hbasic hs, hpoint]
    · next hlarge =>
      have hlt := c.isLt
      rw [List.append_assoc, stringUnits_hex (by omega) (by simp [hs]),
        stringUnits_hex (by omega) hs, after_after]
      rfl

theorem stringUnits_text (t rest : Text) :
    stringUnits start (t.flatMap escape ++ .doubleQuote :: rest) = .ok (t.flatMap unitsOf, rest) := by
  induction t with
  | nil =>
    rw [List.flatMap_nil, List.flatMap_nil, List.nil_append, stringUnits.eq_def]
    rfl
  | cons c t ih =>
    rw [List.flatMap_cons, List.flatMap_cons, List.append_assoc,
      stringUnits_escape c (by simp), ih]
    rfl

end Units

/-- No high surrogate stands right before a low one. -/
def isPaired : Text → Bool
  | c :: d :: t => !(isHighSurrogate c && isLowSurrogate d) && isPaired (d :: t)
  | _ => true

theorem unitsOf_small {c : CodePoint} (h : c.val < 0x10000) :
    ∃ escaped, unitsOf c = [⟨c, escaped⟩] := by
  unfold unitsOf
  split
  · exact ⟨_, rfl⟩
  · split
    · exact ⟨_, rfl⟩
    · split
      · exact ⟨_, rfl⟩
      · exact ⟨_, rfl⟩

theorem unitsOf_large {c : CodePoint} (h : 0x10000 ≤ c.val) :
    ∃ high low, unitsOf c = [⟨high, true⟩, ⟨low, true⟩] ∧ isHighSurrogate high ∧ isLowSurrogate low ∧
      isLowSurrogate high = false ∧ joinSurrogates high low = c := by
  have hlt := c.isLt
  have hunits : unitsOf c = [⟨Fin.ofNat _ (0xD800 + (c.val - 0x10000) / 0x400), true⟩,
      ⟨Fin.ofNat _ (0xDC00 + (c.val - 0x10000) % 0x400), true⟩] := by
    have hquote : ¬(c = .doubleQuote ∨ c = .backslash) := by
      rintro (rfl | rfl) <;> exact absurd h (by decide)
    rw [unitsOf, if_neg hquote, if_neg (by omega), if_neg (by omega), if_neg (by omega)]
  have hhigh : (0xD800 + (c.val - 0x10000) / 0x400) % 0x110000 =
      0xD800 + (c.val - 0x10000) / 0x400 := Nat.mod_eq_of_lt (by omega)
  have hlow : (0xDC00 + (c.val - 0x10000) % 0x400) % 0x110000 =
      0xDC00 + (c.val - 0x10000) % 0x400 := Nat.mod_eq_of_lt (by omega)
  refine ⟨_, _, hunits, ?_, ?_, ?_, ?_⟩
  · simp only [isHighSurrogate, Fin.ofNat, hhigh, Bool.and_eq_true, decide_eq_true_eq]
    omega
  · simp only [isLowSurrogate, Fin.ofNat, hlow, Bool.and_eq_true, decide_eq_true_eq]
    omega
  · simp only [isLowSurrogate, Fin.ofNat, hhigh, Bool.and_eq_false_iff, decide_eq_false_iff_not]
    omega
  · refine Fin.ext ?_
    simp only [joinSurrogates, Fin.ofNat, hhigh, hlow]
    omega

theorem unitsOf_head (c : CodePoint) :
    ∃ u us, unitsOf c = u :: us ∧ (isLowSurrogate u.point → isLowSurrogate c) := by
  rcases Nat.lt_or_ge c.val 0x10000 with hsmall | hlarge
  · obtain ⟨escaped, hunits⟩ := unitsOf_small hsmall
    exact ⟨_, _, hunits, id⟩
  · obtain ⟨high, low, hunits, -, -, hnot, -⟩ := unitsOf_large hlarge
    exact ⟨_, _, hunits, fun h => absurd h (by rw [hnot]; exact Bool.false_ne_true)⟩

theorem joinUnits_flatMap {t : Text} (h : isPaired t) : joinUnits (t.flatMap unitsOf) = t := by
  induction t with
  | nil => rfl
  | cons c t ih =>
    have htail : isPaired t := by
      cases t with
      | nil => rfl
      | cons d t => exact (Bool.and_eq_true_iff.mp h).2
    rw [List.flatMap_cons]
    rcases Nat.lt_or_ge c.val 0x10000 with hsmall | hlarge
    · obtain ⟨escaped, hunits⟩ := unitsOf_small hsmall
      rw [hunits, List.singleton_append]
      cases t with
      | nil => rfl
      | cons d t =>
        obtain ⟨u, us, hd, hlow⟩ := unitsOf_head d
        have hpair := (Bool.and_eq_true_iff.mp h).1
        have hih := ih htail
        rw [List.flatMap_cons, hd, List.cons_append] at hih ⊢
        rw [joinUnits, if_neg, hih]
        rintro ⟨-, -, hhigh, hu⟩
        simp [hhigh, hlow hu] at hpair
    · obtain ⟨high, low, hunits, hhigh, hlow, -, hjoin⟩ := unitsOf_large hlarge
      rw [hunits, List.cons_append, List.cons_append, List.nil_append, joinUnits, if_pos, hjoin, ih htail]
      exact ⟨rfl, rfl, hhigh, hlow⟩

/-- Whether a text can be read in a dialect from what is written for it. -/
def Dialect.admits (dialect : Dialect) (t : Text) : Bool :=
  isPaired t && (dialect.loneSurrogates || !t.any CodePoint.isSurrogate)

theorem isPaired_of_scalars {t : Text} (h : t.Scalars) : isPaired t := by
  induction t with
  | nil => rfl
  | cons c t ih =>
    cases t with
    | nil => rfl
    | cons d t =>
      have hc := CodePoint.isSurrogate_eq_false.mp (h c List.mem_cons_self)
      have hhigh : isHighSurrogate c = false := by
        simp only [isHighSurrogate, Bool.and_eq_false_iff, decide_eq_false_iff_not]
        omega
      rw [isPaired, hhigh, ih h.tail]
      rfl

theorem Dialect.admits_of_scalars (dialect : Dialect) {t : Text} (h : t.Scalars) : dialect.admits t := by
  rw [admits, isPaired_of_scalars h, Text.scalars_iff.mp h, Bool.not_false, Bool.or_true]
  rfl

theorem readString_text {dialect : Dialect} {t : Text} (h : dialect.admits t) (start rest : Text) :
    readString dialect start (t.flatMap escape ++ .doubleQuote :: rest) = .ok (t, rest) := by
  obtain ⟨hpaired, hlone⟩ := Bool.and_eq_true_iff.mp h
  have hrefused : (!dialect.loneSurrogates && t.any CodePoint.isSurrogate) = false := by
    revert hlone
    cases dialect.loneSurrogates <;> cases t.any CodePoint.isSurrogate <;> simp
  rw [readString, stringUnits_text]
  simp only [bind, Except.bind, joinUnits_flatMap hpaired, hrefused]
  rfl

theorem renderString_append (t rest : Text) :
    renderString t ++ rest = .doubleQuote :: (t.flatMap escape ++ .doubleQuote :: rest) := by
  simp [renderString]

end Json

end ClusterHarness
