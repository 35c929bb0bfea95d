import ClusterHarness.Number.Numeral
import ClusterHarness.Proofs.Text.Digits

/-!
Numerals: which texts are read as one, and that what is read from the decimal text of a number is the
number. A text whose digits are followed by something else is no numeral, but for a line feed at its end.
-/

namespace ClusterHarness

namespace CodePoint

theorem digitValue?_ascii {c : CodePoint} (h : c.isAsciiDigit) : c.digitValue? = some (c.val - 48) := by
  have hzero : (zeros.find? fun z => z ≤ c.val && c.val < z + 10) = some 0x30 := by
    simp only [isAsciiDigit, Bool.and_eq_true, decide_eq_true_eq] at h
    rw [zeros, List.find?_cons_of_pos]
    simp only [Bool.and_eq_true, decide_eq_true_eq]
    omega
  rw [digitValue?, hzero]
  rfl

theorem ne_sign {c : CodePoint} {d : Nat} (h : c.digitValue? = some d) : c ≠ ofChar '-' ∧ c ≠ ofChar '+' := by
  constructor
  · rintro rfl
    cases h
  · rintro rfl
    cases h

end CodePoint

theorem isLong_iff {n : Int} : isLong n = true ↔ -2 ^ 63 ≤ n ∧ n ≤ 2 ^ 63 - 1 := by
  simp only [isLong, Bool.and_eq_true, decide_eq_true_eq]
  omega

namespace Numeral

variable {t rest : Text} {n m : Numeral}

def digitValues (t : Text) : List Nat := t.map fun c => c.val - 48

theorem magnitude_digitValues (t : Text) : magnitude (digitValues t) = Json.digitsValue t := List.foldl_map

theorem magnitude_eq_ofDigits (ds : List Nat) : magnitude ds = Nat.ofDigits 10 ds.reverse := by
  rw [Nat.ofDigits_eq_foldr, List.foldr_reverse, magnitude]
  congr 1
  funext k d
  simp [Nat.add_comm]

/-- What follows the digits does not start with one. -/
def Stopped (rest : Text) : Prop := ∀ c ∈ rest.head?, c.digitValue? = none

theorem stopped_nil : Stopped [] := nofun

/-- Digits of any script, with their values. -/
def Spells (t : Text) (ds : List Nat) : Prop := t.map CodePoint.digitValue? = ds.map some

theorem leadingDigits_spelled {ds : List Nat} (h : Spells t ds) (hrest : Stopped rest) :
    leadingDigits (t ++ rest) = (ds, rest) := by
  induction t generalizing ds with
  | nil =>
    rw [Spells, List.map_nil, eq_comm, List.map_eq_nil_iff] at h
    cases rest with
    | nil => rw [h]; rfl
    | cons c rest =>
      have hstop : c.digitValue? = none := hrest c rfl
      simp [leadingDigits, hstop, h]
  | cons c t ih =>
    cases ds with
    | nil => cases h
    | cons d ds =>
      obtain ⟨hc, ht⟩ := List.cons.inj h
      simp [leadingDigits, hc, ih ht]

theorem leadingDigits_eq {ds : List Nat} (h : leadingDigits t = (ds, rest)) :
    Stopped rest ∧ ∃ digits, t = digits ++ rest ∧ Spells digits ds := by
  induction t generalizing ds with
  | nil =>
    cases h
    exact ⟨stopped_nil, [], rfl, rfl⟩
  | cons c t ih =>
    rw [leadingDigits] at h
    cases hc : c.digitValue? with
    | none =>
      rw [hc] at h
      cases h
      refine ⟨fun d hd => ?_, [], rfl, rfl⟩
      rwa [← Option.some.inj hd]
    | some d =>
      rw [hc] at h
      cases h
      obtain ⟨hstop, digits, ht, hdigits⟩ := ih rfl
      refine ⟨hstop, c :: digits, congrArg _ ht, ?_⟩
      rw [Spells, List.map_cons, hc, hdigits, List.map_cons]

theorem spelled_digitValues (h : ∀ c ∈ t, c.isAsciiDigit) : Spells t (digitValues t) := by
  rw [Spells, digitValues, List.map_map]
  exact List.map_congr_left fun c hc => CodePoint.digitValue?_ascii (h c hc)

theorem ne_nil_of_spelled {ds : List Nat} (h : Spells t ds) : t ≠ [] ↔ ds ≠ [] := by
  have hlength : t.length = ds.length := by simpa using congrArg List.length h
  rw [← List.length_pos_iff, ← List.length_pos_iff, hlength]

theorem digit_of_spelled {ds : List Nat} (h : Spells t ds) {c : CodePoint} (hc : c ∈ t) :
    ∃ d, c.digitValue? = some d := by
  have hmem : c.digitValue? ∈ ds.map some := h ▸ List.mem_map_of_mem hc
  obtain ⟨d, -, hd⟩ := List.mem_map.mp hmem
  exact ⟨d, hd.symm⟩

/-! ### Signs -/

def signs : List (Text × Bool) :=
  [([], false), ([CodePoint.ofChar '+'], false), ([CodePoint.ofChar '-'], true)]

/-- What is read behind the sign. -/
def unsigned? (negative : Bool) (t : Text) : Option Numeral :=
  let (digits, rest) := leadingDigits t
  if digits ≠ [] ∧ (rest = [] ∨ rest = [10]) then some ⟨negative, digits⟩ else none

theorem ofText?_plus (t : Text) : ofText? (CodePoint.ofChar '+' :: t) = unsigned? false t := by
  have hplus : CodePoint.ofChar '+' ≠ CodePoint.ofChar '-' := by decide
  simp only [ofText?, unsigned?, if_neg hplus, if_true]

theorem ofText?_minus (t : Text) : ofText? (CodePoint.ofChar '-' :: t) = unsigned? true t := by
  simp only [ofText?, unsigned?, if_true]

theorem ofText?_plain (h : ∀ c ∈ t.head?, c ≠ CodePoint.ofChar '-' ∧ c ≠ CodePoint.ofChar '+') :
    ofText? t = unsigned? false t := by
  cases t with
  | nil => rfl
  | cons c t =>
    obtain ⟨hminus, hplus⟩ := h c rfl
    simp only [ofText?, unsigned?, if_neg hminus, if_neg hplus]

theorem ofText?_spelled {ds : List Nat} (h : Spells t ds) (hsome : ds ≠ []) (rest : Text) :
    ofText? (t ++ rest) = unsigned? false (t ++ rest) := by
  obtain ⟨c, t, rfl⟩ := List.exists_cons_of_ne_nil ((ne_nil_of_spelled h).mpr hsome)
  obtain ⟨d, hd⟩ := digit_of_spelled h List.mem_cons_self
  refine ofText?_plain fun b hb => ?_
  obtain rfl : c = b := Option.some.inj hb
  exact CodePoint.ne_sign hd

theorem exists_sign (t : Text) : ∃ lead negative rest, t = lead ++ rest ∧ (lead, negative) ∈ signs ∧
    ofText? t = unsigned? negative rest := by
  cases t with
  | nil => exact ⟨[], false, [], rfl, by simp [signs], rfl⟩
  | cons c t =>
    by_cases hminus : c = CodePoint.ofChar '-'
    · subst hminus
      exact ⟨[CodePoint.ofChar '-'], true, t, rfl, by simp [signs], ofText?_minus t⟩
    · by_cases hplus : c = CodePoint.ofChar '+'
      · subst hplus
        exact ⟨[CodePoint.ofChar '+'], false, t, rfl, by simp [signs], ofText?_plus t⟩
      · refine ⟨[], false, c :: t, rfl, by simp [signs], ofText?_plain fun b hb => ?_⟩
        obtain rfl : c = b := Option.some.inj hb
        exact ⟨hminus, hplus⟩

theorem unsigned?_spelled {negative : Bool} {ds : List Nat} (h : Spells t ds) (hsome : ds ≠ [])
    (hstop : Stopped rest) :
    unsigned? negative (t ++ rest) = if rest = [] ∨ rest = [10] then some ⟨negative, ds⟩ else none := by
  simp only [unsigned?, leadingDigits_spelled h hstop, ne_eq, hsome, not_false_eq_true, true_and]

theorem unsigned?_eq_some {negative : Bool} (h : unsigned? negative t = some n) :
    n.negative = negative ∧ n.digits ≠ [] ∧
      ∃ digits rest, t = digits ++ rest ∧ Spells digits n.digits ∧ (rest = [] ∨ rest = [10]) := by
  rcases hdigits : leadingDigits t with ⟨ds, rest⟩
  simp only [unsigned?, hdigits] at h
  split at h
  · next hwhole =>
    obtain ⟨-, digits, ht, hspelled⟩ := leadingDigits_eq hdigits
    cases h
    exact ⟨rfl, hwhole.1, digits, rest, ht, hspelled, hwhole.2⟩
  · cases h

/-! ### What is read -/

/-- A sign or none, then decimal digits of any script, at least one, and nothing else. -/
inductive WrittenAs (n : Numeral) : Text → Prop
  | mk {lead digits : Text} (signed : (lead, n.negative) ∈ signs) (spelled : Spells digits n.digits)
      (some : n.digits ≠ []) : WrittenAs n (lead ++ digits)

def lineFeed : CodePoint := 10

/-- A line feed may follow the numeral. -/
def IsLine (n : Numeral) (t : Text) : Prop :=
  n.WrittenAs t ∨ ∃ s, t = s ++ [lineFeed] ∧ n.WrittenAs s

theorem stopped_lineFeed : Stopped [lineFeed] := by
  intro c hc
  rw [← Option.some.inj hc]
  rfl

theorem WrittenAs.ofText? (h : n.WrittenAs t) (hrest : rest = [] ∨ rest = [lineFeed]) :
    Numeral.ofText? (t ++ rest) = some n := by
  cases h with
  | @mk lead digits signed spelled hsome =>
    have hstop : Stopped rest := by
      rcases hrest with rfl | rfl
      · exact stopped_nil
      · exact stopped_lineFeed
    have hread : unsigned? n.negative (digits ++ rest) = some n :=
      (unsigned?_spelled spelled hsome hstop).trans (if_pos hrest)
    rw [List.append_assoc, ← hread]
    simp only [signs, List.mem_cons, Prod.mk.injEq, List.not_mem_nil, or_false] at signed
    rcases signed with ⟨rfl, hsign⟩ | ⟨rfl, hsign⟩ | ⟨rfl, hsign⟩
    · rw [hsign, List.nil_append, ofText?_spelled spelled hsome]
    · rw [hsign, List.singleton_append, ofText?_plus]
    · rw [hsign, List.singleton_append, ofText?_minus]

theorem ofText?_eq_some : ofText? t = some n ↔ n.IsLine t := by
  constructor
  · intro h
    obtain ⟨lead, negative, s, rfl, hlead, hread⟩ := exists_sign t
    rw [hread] at h
    obtain ⟨hnegative, hsome, digits, rest, rfl, hspelled, hrest⟩ := unsigned?_eq_some h
    have hwritten : n.WrittenAs (lead ++ digits) := .mk (hnegative ▸ hlead) hspelled hsome
    rcases hrest with rfl | rfl
    · rw [List.append_nil]
      exact .inl hwritten
    · exact .inr ⟨lead ++ digits, (List.append_assoc ..).symm, hwritten⟩
  · rintro (h | ⟨s, rfl, h⟩)
    · rw [← List.append_nil t]
      exact h.ofText? (.inl rfl)
    · exact h.ofText? (.inr rfl)

theorem IsLine.unique (h : n.IsLine t) (h' : m.IsLine t) : n = m :=
  Option.some.inj ((ofText?_eq_some.mpr h).symm.trans (ofText?_eq_some.mpr h'))

theorem not_writtenAs_lineFeed : ¬n.WrittenAs (t ++ [lineFeed]) := by
  intro h
  generalize htext : t ++ [lineFeed] = text at h
  cases h with
  | @mk lead digits signed spelled hsome =>
    -- the last code point is a digit
    have hlast : digits.getLast? = some lineFeed := by
      rw [← List.getLast?_append_of_ne_nil lead ((ne_nil_of_spelled spelled).mpr hsome), ← htext,
        List.getLast?_concat]
    obtain ⟨d, hd⟩ := digit_of_spelled spelled (List.mem_of_getLast? hlast)
    cases hd

theorem ofText?_unsigned (h : ∀ c ∈ t, c.isAsciiDigit) (hne : t ≠ []) (hrest : Stopped rest) :
    ofText? (t ++ rest) = if rest = [] ∨ rest = [10] then some ⟨false, digitValues t⟩ else none := by
  have hspelled := spelled_digitValues h
  have hsome := (ne_nil_of_spelled hspelled).mp hne
  rw [ofText?_spelled hspelled hsome, unsigned?_spelled hspelled hsome hrest]

theorem ofText?_signed (negative : Bool) (h : ∀ c ∈ t, c.isAsciiDigit) (hne : t ≠ []) :
    ofText? (CodePoint.ofChar (if negative then '-' else '+') :: t) = some ⟨negative, digitValues t⟩ := by
  have hspelled := spelled_digitValues h
  refine ofText?_eq_some.mpr (.inl ?_)
  refine @WrittenAs.mk ⟨negative, digitValues t⟩ [_] t ?_ hspelled ((ne_nil_of_spelled hspelled).mp hne)
  cases negative <;> simp [signs]

def ofInt : Int → Numeral
  | .ofNat k => ⟨false, digitValues (Text.ofNat k)⟩
  | .negSucc k => ⟨true, digitValues (Text.ofNat (k + 1))⟩

theorem ofText?_ofInt (n : Int) : ofText? (Text.ofInt n) = some (ofInt n) := by
  cases n with
  | ofNat k =>
    have hread := ofText?_unsigned (Text.ofNat_digits k) (Text.ofNat_ne_nil k) stopped_nil
    rwa [List.append_nil, if_pos (.inl rfl)] at hread
  | negSucc k => exact ofText?_signed true (Text.ofNat_digits (k + 1)) (Text.ofNat_ne_nil (k + 1))

theorem value_ofInt (n : Int) : (ofInt n).value = n := by
  cases n with
  | ofNat k => simp [ofInt, value, magnitude_digitValues, Text.digitsValue_ofNat]
  | negSucc k =>
    simp only [ofInt, value, magnitude_digitValues, Text.digitsValue_ofNat, if_true]
    omega

theorem length_digits_ofInt (n : Int) : (ofInt n).digits.length = (Text.ofNat n.natAbs).length := by
  cases n <;> exact List.length_map _

end Numeral

end ClusterHarness
