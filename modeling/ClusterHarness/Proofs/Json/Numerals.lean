import ClusterHarness.Json.Printer
import ClusterHarness.Proofs.Number.Shortest
import ClusterHarness.Proofs.Text.Digits

/-!
Numbers in JSON text. A numeral that is followed by something that cannot belong to it is read to its
end, and the text of a number is a numeral that has the number for its value.
-/

namespace ClusterHarness.Json

/-- Digits, at least one. -/
def Digits (ds : Text) : Prop := ds ≠ [] ∧ ∀ c ∈ ds, c.isAsciiDigit

/-- A text whose head cannot belong to a number before it. -/
def Stops (rest : Text) : Prop :=
  ∀ c, rest.head? = some c → c.isAsciiDigit = false ∧ c ≠ CodePoint.ofChar '.' ∧
    c ≠ CodePoint.ofChar 'e' ∧ c ≠ CodePoint.ofChar 'E'

namespace Numeral

def fractionText : Option Text → Text
  | none => []
  | some ds => CodePoint.ofChar '.' :: ds

def exponentText : Option (Bool × Text) → Text
  | none => []
  | some (negative, ds) =>
    CodePoint.ofChar 'e' :: CodePoint.ofChar (if negative then '-' else '+') :: ds

def unsignedText (n : Numeral) : Text := n.whole ++ (fractionText n.fraction ++ exponentText n.exponent)

def text (n : Numeral) : Text :=
  if n.negative then CodePoint.ofChar '-' :: n.unsignedText else n.unsignedText

structure WellFormed (n : Numeral) : Prop where
  whole : Digits n.whole
  lead : n.whole = [48] ∨ n.whole.head? ≠ some 48
  fraction : ∀ ds ∈ n.fraction, Digits ds
  exponent : ∀ p ∈ n.exponent, Digits p.2

end Numeral

/-- A text whose head is no digit. -/
def DigitFree (rest : Text) : Prop := ∀ c, rest.head? = some c → c.isAsciiDigit = false

theorem Stops.digitFree {rest : Text} (h : Stops rest) : DigitFree rest := fun c hc => (h c hc).1

theorem digitFree_cons {c : CodePoint} {rest : Text} (h : c.isAsciiDigit = false) :
    DigitFree (c :: rest) := by
  intro d hd
  cases hd
  exact h

section Digits

variable {ds rest : Text}

theorem takeWhile_digits (hds : ∀ c ∈ ds, c.isAsciiDigit) (hrest : DigitFree rest) :
    (ds ++ rest).takeWhile CodePoint.isAsciiDigit = ds := by
  rw [List.takeWhile_append_of_pos hds]
  cases rest with
  | nil => simp
  | cons c rest => simp [hrest c rfl]

theorem dropWhile_digits (hds : ∀ c ∈ ds, c.isAsciiDigit) (hrest : DigitFree rest) :
    (ds ++ rest).dropWhile CodePoint.isAsciiDigit = rest := by
  rw [List.dropWhile_append_of_pos hds]
  cases rest with
  | nil => rfl
  | cons c rest => simp [hrest c rfl]

theorem wholeDigits?_append (hds : Digits ds) (hlead : ds = [48] ∨ ds.head? ≠ some 48)
    (hrest : DigitFree rest) : wholeDigits? (ds ++ rest) = some (ds, rest) := by
  obtain ⟨hne, hdigits⟩ := hds
  rcases hlead with rfl | hlead
  · rfl
  · cases ds with
    | nil => exact absurd rfl hne
    | cons c ds =>
      have hc : ¬c.val = 48 := by
        intro hval
        exact hlead (congrArg some (Fin.ext hval))
      have htail : ∀ d ∈ ds, CodePoint.isAsciiDigit d := fun d hd =>
        hdigits d (List.mem_cons_of_mem _ hd)
      rw [List.cons_append, wholeDigits?, if_neg hc, if_pos (hdigits c List.mem_cons_self),
        takeWhile_digits htail hrest, dropWhile_digits htail hrest]

theorem fractionDigits_append {fraction : Option Text} (hds : ∀ ds ∈ fraction, Digits ds)
    (hrest : DigitFree rest) (hpoint : rest.head? ≠ some (CodePoint.ofChar '.')) :
    fractionDigits (Numeral.fractionText fraction ++ rest) = (fraction, rest) := by
  cases fraction with
  | none =>
    cases rest with
    | nil => rfl
    | cons c rest =>
      have hc : ¬(c = CodePoint.ofChar '.' ∧ rest.takeWhile CodePoint.isAsciiDigit ≠ []) := by
        rintro ⟨rfl, -⟩
        exact hpoint rfl
      exact if_neg hc
  | some ds =>
    obtain ⟨hne, hdigits⟩ := hds ds rfl
    rw [Numeral.fractionText, List.cons_append, fractionDigits, takeWhile_digits hdigits hrest, dropWhile_digits hdigits hrest, if_pos ⟨rfl, hne⟩]

theorem signOf_sign (negative : Bool) (s : Text) :
    signOf (CodePoint.ofChar (if negative then '-' else '+') :: s) = (negative, s) := by
  cases negative <;> rfl

theorem exponentDigits_append {exponent : Option (Bool × Text)} (hds : ∀ p ∈ exponent, Digits p.2)
    (hrest : Stops rest) : exponentDigits (Numeral.exponentText exponent ++ rest) = (exponent, rest) := by
  cases exponent with
  | none =>
    cases rest with
    | nil => rfl
    | cons c rest =>
      obtain ⟨-, -, hlower, hupper⟩ := hrest c rfl
      have hc : ¬((c = CodePoint.ofChar 'e' ∨ c = CodePoint.ofChar 'E') ∧
          (signOf rest).2.takeWhile CodePoint.isAsciiDigit ≠ []) := by
        rintro ⟨rfl | rfl, -⟩
        · exact hlower rfl
        · exact hupper rfl
      exact if_neg hc
  | some p =>
    obtain ⟨negative, ds⟩ := p
    obtain ⟨hne, hdigits⟩ := hds (negative, ds) rfl
    rw [Numeral.exponentText, List.cons_append, List.cons_append, exponentDigits, signOf_sign]
    dsimp only
    rw [takeWhile_digits hdigits hrest.digitFree, dropWhile_digits hdigits hrest.digitFree,
      if_pos ⟨.inl rfl, hne⟩]

end Digits

namespace Numeral

variable {n : Numeral} {rest : Text}

theorem exponentText_append_head (exponent : Option (Bool × Text)) (hrest : Stops rest) :
    DigitFree (exponentText exponent ++ rest) ∧
      (exponentText exponent ++ rest).head? ≠ some (CodePoint.ofChar '.') := by
  rcases exponent with _ | ⟨negative, ds⟩
  · exact ⟨hrest.digitFree, fun h => (hrest _ h).2.1 rfl⟩
  · exact ⟨digitFree_cons (by decide), fun h => absurd (Option.some.inj h) (by decide)⟩

theorem fractionText_append_head (fraction : Option Text) (h : DigitFree rest) :
    DigitFree (fractionText fraction ++ rest) := by
  cases fraction with
  | none => exact h
  | some ds => exact digitFree_cons (by decide)

theorem unsigned_parts (hn : n.WellFormed) (hrest : Stops rest) :
    wholeDigits? (n.unsignedText ++ rest) =
        some (n.whole, fractionText n.fraction ++ (exponentText n.exponent ++ rest)) ∧
      fractionDigits (fractionText n.fraction ++ (exponentText n.exponent ++ rest)) =
        (n.fraction, exponentText n.exponent ++ rest) := by
  obtain ⟨hfree, hpoint⟩ := exponentText_append_head n.exponent hrest
  rw [unsignedText, List.append_assoc, List.append_assoc]
  exact ⟨wholeDigits?_append hn.whole hn.lead (fractionText_append_head n.fraction hfree),
    fractionDigits_append hn.fraction hfree hpoint⟩

theorem unsigned_head (hn : n.WellFormed) (rest : Text) :
    ∃ c s, n.unsignedText ++ rest = c :: s ∧ c.isAsciiDigit := by
  obtain ⟨hne, hdigits⟩ := hn.whole
  cases hwhole : n.whole with
  | nil => exact absurd hwhole hne
  | cons c ds =>
    rw [hwhole] at hdigits
    exact ⟨c, _, by rw [unsignedText, hwhole, List.cons_append, List.cons_append],
      hdigits c List.mem_cons_self⟩

theorem numeral?_text (hn : n.WellFormed) (hrest : Stops rest) :
    numeral? (n.text ++ rest) = some (n, rest) := by
  obtain ⟨hwhole, hfraction⟩ := unsigned_parts hn hrest
  have hexponent := exponentDigits_append hn.exponent hrest
  obtain ⟨negative, whole, fraction, exponent⟩ := n
  cases negative with
  | true =>
    rw [text, if_pos rfl, List.cons_append, numeral?]
    simp only [if_true, bind, Option.bind, hwhole, hfraction, hexponent]
    rfl
  | false =>
    obtain ⟨c, s, hhead, hdigit⟩ := unsigned_head hn rest
    have hc : ¬c = CodePoint.ofChar '-' := by
      rintro rfl
      cases hdigit
    rw [text, if_neg Bool.false_ne_true, hhead, numeral?]
    simp only [hc, if_false]
    rw [← hhead]
    simp only [bind, Option.bind, hwhole, hfraction, hexponent]
    rfl

end Numeral

/-! ### Numerals as values -/

theorem after?_eq_none {s w : Text} {i : ℕ} {a b : CodePoint} (hw : w[i]? = some a)
    (hs : s[i]? = some b) (h : a ≠ b) : Text.after? s w = none := by
  refine if_neg fun hstarts => h ?_
  have hprefix : w <+: s := List.isPrefixOf_iff_prefix.mp hstarts
  obtain ⟨t, rfl⟩ := hprefix
  have hlt : i < w.length := (List.getElem?_eq_some_iff.mp hw).1
  rw [List.getElem?_append_left hlt, hw] at hs
  exact Option.some.inj hs

theorem word?_eq_none {s : Text} {a b : CodePoint} (ha : s[0]? = some a)
    (hdigit : a.isAsciiDigit ∨ a = CodePoint.ofChar '-' ∧ s[1]? = some b ∧ b.isAsciiDigit) :
    word? s = none := by
  have head : ∀ {w : Text} {c : CodePoint}, w[0]? = some c → c.isAsciiDigit = false →
      c ≠ CodePoint.ofChar '-' → Text.after? s w = none := by
    intro w c hw hc hsign
    refine after?_eq_none hw ha ?_
    rintro rfl
    rcases hdigit with hdigit | ⟨rfl, -, -⟩
    · rw [hc] at hdigit
      cases hdigit
    · exact hsign rfl
  have infinity : Text.after? s "-Infinity" = none := by
    rcases hdigit with hdigit | ⟨rfl, hb, hdigit⟩
    · refine after?_eq_none (i := 0) rfl ha ?_
      rintro rfl
      cases hdigit
    · refine after?_eq_none (i := 1) rfl hb ?_
      rintro rfl
      cases hdigit
  rw [word?, List.findSome?_eq_none_iff]
  intro p hp
  simp only [words, List.mem_cons, List.not_mem_nil, or_false] at hp
  rcases hp with rfl | rfl | rfl | rfl | rfl | rfl
  · exact Option.map_eq_none_iff.mpr (head rfl (by decide) (by decide))
  · exact Option.map_eq_none_iff.mpr (head rfl (by decide) (by decide))
  · exact Option.map_eq_none_iff.mpr (head rfl (by decide) (by decide))
  · exact Option.map_eq_none_iff.mpr (head rfl (by decide) (by decide))
  · exact Option.map_eq_none_iff.mpr (head rfl (by decide) (by decide))
  · exact Option.map_eq_none_iff.mpr infinity

namespace Numeral

variable {n : Numeral} {rest : Text}

theorem word?_text (hn : n.WellFormed) (rest : Text) : word? (n.text ++ rest) = none := by
  obtain ⟨c, s, hhead, hdigit⟩ := unsigned_head hn rest
  cases hnegative : n.negative with
  | true =>
    have htext : n.text ++ rest = CodePoint.ofChar '-' :: c :: s := by
      rw [text, if_pos hnegative, List.cons_append, hhead]
    rw [htext]
    exact word?_eq_none (b := c) rfl (.inr ⟨rfl, rfl, hdigit⟩)
  | false =>
    have htext : n.text ++ rest = c :: s := by
      rw [text, if_neg (by rw [hnegative]; exact Bool.false_ne_true), hhead]
    rw [htext]
    exact word?_eq_none (b := c) rfl (.inl hdigit)

theorem readScalar_text (hn : n.WellFormed) (hrest : Stops rest) :
    readScalar (n.text ++ rest) = n.value.map (·, rest) := by
  rw [readScalar, word?_text hn, numeral?_text hn hrest]

def power : Option (Bool × Text) → ℤ
  | none => 0
  | some (negative, es) => if negative then -(digitsValue es : ℤ) else digitsValue es

/-- The decimal that a numeral stands for. -/
def decimal (n : Numeral) : Decimal :=
  let ds := n.fraction.getD []
  ⟨digitsValue (n.whole ++ ds), power n.exponent - ds.length⟩

theorem value_eq_float (h : n.fraction ≠ none ∨ n.exponent ≠ none) :
    n.value = .ok (.float (n.decimal.toBinary64 n.negative)) := by
  obtain ⟨negative, whole, fraction, exponent⟩ := n
  rcases exponent with _ | ⟨sign, es⟩
  · cases fraction with
    | none => exact absurd rfl (h.resolve_left (absurd rfl))
    | some ds => rfl
  · cases fraction <;> cases sign <;> rfl

def ofInt (k : ℤ) : Numeral := ⟨k < 0, Text.ofNat k.natAbs, none, none⟩

theorem ofNat_lead (k : ℕ) : Text.ofNat k = [48] ∨ (Text.ofNat k).head? ≠ some 48 := by
  rcases Nat.eq_zero_or_pos k with rfl | hk
  · exact .inl rfl
  · right
    intro hhead
    rw [Text.ofNat, Text.ofChars, List.head?_map, Option.map_eq_some_iff] at hhead
    obtain ⟨c, hc, hc48⟩ := hhead
    have hzero : c = '0' := CodePoint.ofChar_inj.mp hc48
    exact Text.head_toDigits_ne_zero hk (hc.trans (congrArg some hzero))

theorem ofInt_wellFormed (k : ℤ) : (ofInt k).WellFormed where
  whole := ⟨Text.ofNat_ne_nil _, Text.ofNat_digits _⟩
  lead := ofNat_lead _
  fraction := nofun
  exponent := nofun

theorem ofInt_text (k : ℤ) : (ofInt k).text = Text.ofInt k := by
  cases k with
  | ofNat k =>
    have hsign : (ofInt (.ofNat k)).negative = false :=
      decide_eq_false (Int.not_lt.mpr (Int.natCast_nonneg k))
    rw [text, hsign, if_neg Bool.false_ne_true]
    exact List.append_nil _
  | negSucc k =>
    have hsign : (ofInt (.negSucc k)).negative = true := decide_eq_true (Int.negSucc_lt_zero k)
    rw [text, hsign, if_pos rfl]
    exact congrArg _ (List.append_nil _)

theorem ofInt_value {k : ℤ} (h : (Text.ofNat k.natAbs).length ≤ maxDigits) :
    (ofInt k).value = .ok (.int k) := by
  simp only [value, ofInt, if_neg (Nat.not_lt.mpr h), Text.digitsValue_ofNat, decide_eq_true_eq]
  congr 2
  split <;> omega

theorem digits_ofChars {cs : List Char} (hne : cs ≠ []) (h : ∀ c ∈ cs, c.isDigit) :
    Digits (Text.ofChars cs) :=
  ⟨mt List.map_eq_nil_iff.mp hne, Text.isAsciiDigit_of_mem h⟩

theorem head_ofChars {cs : List Char} (h : cs.head? ≠ some '0') : (Text.ofChars cs).head? ≠ some 48 := by
  intro hhead
  rw [Text.ofChars, List.head?_map, Option.map_eq_some_iff] at hhead
  obtain ⟨c, hc, hc48⟩ := hhead
  have hzero : c = '0' := CodePoint.ofChar_inj.mp hc48
  exact h (hc.trans (congrArg some hzero))

theorem decimal_value {negative : Bool} {whole fraction : List Char} {parts : Option Text}
    {exponent : Option (Bool × Text)} (power : ℤ) (hparts : parts.getD [] = Text.ofChars fraction)
    (hpower : (decimal ⟨negative, Text.ofChars whole, parts, exponent⟩).exponent =
      power - fraction.length) :
    (decimal ⟨negative, Text.ofChars whole, parts, exponent⟩).value =
      Decimal.charsValue (whole ++ fraction) * 10 ^ (power - fraction.length) := by
  rw [Decimal.value, hpower]
  simp only [decimal, hparts, ← Text.ofChars_append, Text.digitsValue_ofChars]
  rfl

theorem ofPointed {cs whole fraction : List Char} {value : ℚ}
    (h : Decimal.Pointed cs whole fraction value) (negative : Bool) :
    ∃ n : Numeral, n.WellFormed ∧ n.negative = negative ∧ n.unsignedText = Text.ofChars cs ∧
      (n.fraction ≠ none ∨ n.exponent ≠ none) ∧ n.decimal.value = value := by
  have hlead : Text.ofChars whole = [48] ∨ (Text.ofChars whole).head? ≠ some 48 := by
    rcases h.lead with rfl | ⟨-, hhead⟩
    · exact .inl rfl
    · exact .inr (head_ofChars hhead)
  have hwhole : whole ≠ [] := by
    rcases h.lead with rfl | ⟨hne, -⟩
    · exact List.cons_ne_nil _ _
    · exact hne
  refine ⟨⟨negative, Text.ofChars whole, some (Text.ofChars fraction), none⟩, ?_, rfl, ?_,
    .inl (Option.some_ne_none _), ?_⟩
  · exact {
      whole := digits_ofChars hwhole fun c hc => h.digits c (List.mem_append_left _ hc)
      lead := hlead
      fraction := by
        rintro ds ⟨⟩
        exact digits_ofChars h.nonempty fun c hc => h.digits c (List.mem_append_right _ hc)
      exponent := nofun }
  · rw [h.text, Text.ofChars_append]
    exact congrArg _ (List.append_nil _)
  · rw [decimal_value 0 rfl ?_, zero_sub, h.sum]
    simp [decimal, power, Text.ofChars]

/-- The digits of an exponent, at least two of them. -/
def exponentChars (exponent : ℤ) : List Char :=
  Decimal.zeros (2 - (Nat.toDigits 10 exponent.natAbs).length) ++ Nat.toDigits 10 exponent.natAbs

theorem exponentChars_digits (exponent : ℤ) : Digits (Text.ofChars (exponentChars exponent)) := by
  refine digits_ofChars (by simp [exponentChars, Nat.toDigits_ne_nil]) fun d hd => ?_
  rcases List.mem_append.mp hd with hd | hd
  · exact Decimal.isDigit_zeros d hd
  · exact Text.isDigit_toDigits _ d hd

theorem digitsValue_exponentChars (exponent : ℤ) :
    (digitsValue (Text.ofChars (exponentChars exponent)) : ℤ) = exponent.natAbs := by
  rw [exponentChars, Text.digitsValue_ofChars, Nat.ofDigitChars_append, Decimal.zeros,
    Nat.ofDigitChars_replicate_zero, Nat.mul_zero, Nat.ofDigitChars_ten_toDigits]

/-- One digit before the point and the others after it. -/
def scientificNumeral (negative : Bool) (lead : Char) (tail : List Char) (exponent : ℤ) : Numeral :=
  ⟨negative, Text.ofChars [lead], if tail.isEmpty then none else some (Text.ofChars tail),
    some (exponent < 0, Text.ofChars (exponentChars exponent))⟩

section Scientific

variable (negative : Bool) {lead : Char} {tail : List Char} (exponent : ℤ)

theorem scientificNumeral_wellFormed (hdigits : ∀ c ∈ lead :: tail, c.isDigit) (hlead : lead ≠ '0') :
    (scientificNumeral negative lead tail exponent).WellFormed where
  whole := digits_ofChars (List.cons_ne_nil _ _) fun d hd =>
    hdigits d (List.mem_cons.mpr (.inl (List.mem_singleton.mp hd)))
  lead := .inr (head_ofChars fun h => hlead (Option.some.inj h))
  fraction := by
    intro ds hds
    cases tail with
    | nil => cases hds
    | cons d tail =>
      cases hds
      exact digits_ofChars (List.cons_ne_nil _ _) fun e he => hdigits e (List.mem_cons_of_mem _ he)
  exponent := by
    rintro p ⟨⟩
    exact exponentChars_digits exponent

theorem scientificNumeral_text : (scientificNumeral negative lead tail exponent).unsignedText =
    Text.ofChars (Decimal.scientific (lead :: tail) exponent) := by
  have hsign : CodePoint.ofChar (if (decide (exponent < 0)) then '-' else '+') =
      CodePoint.ofChar (if exponent < 0 then '-' else '+') := by
    simp only [decide_eq_true_eq]
  simp only [scientificNumeral, unsignedText, exponentText, exponentChars, hsign, Decimal.scientific]
  cases tail with
  | nil => rfl
  | cons d tail =>
    simp only [Text.ofChars, List.map_append, List.map_cons, List.take_succ_cons, List.take_zero,
      List.drop_succ_cons, List.drop_zero, List.isEmpty_cons, fractionText,
      List.map_nil, List.cons_append, List.nil_append]
    rfl

theorem scientificNumeral_value : (scientificNumeral negative lead tail exponent).decimal.value =
    Decimal.charsValue (lead :: tail) * 10 ^ (exponent + 1 - (lead :: tail).length) := by
  have hparts : (if tail.isEmpty then none else some (Text.ofChars tail)).getD [] = Text.ofChars tail := by
    cases tail <;> rfl
  have hpower : power (some (decide (exponent < 0), Text.ofChars (exponentChars exponent))) = exponent := by
    simp only [power, decide_eq_true_eq, digitsValue_exponentChars]
    split <;> omega
  rw [scientificNumeral, decimal_value exponent hparts ?_]
  · congr 2
    simp only [List.length_cons]
    push_cast
    ring
  · simp only [decimal, hparts, hpower]
    rw [Text.ofChars, List.length_map]

end Scientific

theorem ofScientific {cs : List Char} (hdigits : ∀ c ∈ cs, c.isDigit) (hne : cs ≠ [])
    (hlead : cs.head? ≠ some '0') (exponent : ℤ) (negative : Bool) :
    ∃ n : Numeral, n.WellFormed ∧ n.negative = negative ∧
      n.unsignedText = Text.ofChars (Decimal.scientific cs exponent) ∧
      (n.fraction ≠ none ∨ n.exponent ≠ none) ∧
      n.decimal.value = Decimal.charsValue cs * 10 ^ (exponent + 1 - cs.length) := by
  obtain ⟨lead, tail, rfl⟩ := List.exists_cons_of_ne_nil hne
  have hzero : lead ≠ '0' := fun h => hlead (congrArg some h)
  exact ⟨scientificNumeral negative lead tail exponent, scientificNumeral_wellFormed negative exponent hdigits hzero,
    rfl, scientificNumeral_text negative exponent, .inr (Option.some_ne_none _),
    scientificNumeral_value negative exponent⟩

theorem ofLayout (d : Decimal) (negative : Bool) :
    ∃ n : Numeral, n.WellFormed ∧ n.negative = negative ∧ n.unsignedText = Text.ofChars d.layout ∧
      (n.fraction ≠ none ∨ n.exponent ≠ none) ∧ n.decimal.value = d.value := by
  rcases Nat.eq_zero_or_pos d.digits with hzero | hpos
  · have hlayout : d.layout = ['0', '.', '0'] := by
      rw [Decimal.layout, hzero]
      rfl
    have hvalue : d.value = 0 := by
      rw [Decimal.value, hzero, Nat.cast_zero, zero_mul]
    rw [hlayout, hvalue]
    refine ofPointed ⟨rfl, .inl rfl, List.cons_ne_nil _ _, ?_, ?_⟩ negative
    · exact Decimal.isDigit_zeros (n := 2)
    · rw [show ['0'] ++ ['0'] = Decimal.zeros 2 ++ [] from rfl, Decimal.charsValue_zeros_append]
      exact zero_mul _
  · obtain ⟨z, hdigits, hne⟩ := Decimal.significant_append_zeros hpos
    have hall : ∀ c ∈ Decimal.significant d.digits, c.isDigit := fun c hc =>
      Text.isDigit_toDigits d.digits c (hdigits ▸ List.mem_append_left _ hc)
    have hlead : (Decimal.significant d.digits).head? ≠ some '0' := by
      rw [← List.head?_append_of_ne_nil _ hne, ← hdigits]
      exact Text.head_toDigits_ne_zero hpos
    rw [← Decimal.significant_value hpos d.exponent, Decimal.layout]
    simp only [if_neg (Nat.pos_iff_ne_zero.mp hpos)]
    split
    · obtain ⟨whole, fraction, hpointed⟩ := Decimal.positional_pointed hall hne hlead
        ((Decimal.width d.digits : ℤ) + d.exponent)
      exact ofPointed hpointed negative
    · have hscientific := ofScientific hall hne hlead ((Decimal.width d.digits : ℤ) + d.exponent - 1) negative
      rwa [sub_add_cancel] at hscientific

theorem ofFloat {x : Binary64} (hfinite : x.isFinite) :
    ∃ n : Numeral, n.WellFormed ∧ n.text = renderNumber x ∧ n.value = .ok (.float x) := by
  obtain ⟨n, hformed, hnegative, htext, hparts, hvalue⟩ := ofLayout (Decimal.shortest x) x.isNegative
  refine ⟨n, hformed, ?_, ?_⟩
  · rw [text, hnegative, htext]
    cases x with
    | finite negative biased fraction => cases negative <;> rfl
    | _ => cases hfinite
  · rw [value_eq_float hparts, hnegative, Decimal.toBinary64_of_value hfinite hvalue]

end Numeral

end ClusterHarness.Json
