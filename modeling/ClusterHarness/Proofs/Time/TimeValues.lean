import ClusterHarness.Proofs.Json.Fields
import ClusterHarness.Proofs.Number.Numeral
import ClusterHarness.Proofs.Results
import ClusterHarness.Proofs.Text.LowerCase
import ClusterHarness.Proofs.Text.Trim
import ClusterHarness.Time.Interval

/-!
Time values: how they are written, what number of seconds they are, and which errors tell of those that
are none. A text is taken as it is in lower case without the blanks around it.
-/

namespace ClusterHarness.Time

open CodePoint Numeral

def minus : CodePoint := ofChar '-'

def sign (negative : Bool) : Text := if negative then [minus] else []

/-- An amount and a unit, written one after the other with nothing but blanks between them. -/
inductive Written : Text → Numeral → TimeUnit → Prop
  | mk {digits gap name : Text} {amount : Numeral} {unit : TimeUnit} (spelled : Spells digits amount.digits)
      (some : amount.digits ≠ []) (blank : ∀ c ∈ gap, c.isBlank) (named : (name, unit) ∈ timeUnits) :
      Written (sign amount.negative ++ (digits ++ (gap ++ name))) amount unit

theorem timeUnits_nodup : (timeUnits.map Prod.fst).Nodup := by decide +kernel

theorem unit_letters : timeUnits.all (fun u => !u.1.isEmpty && u.1.all fun c =>
    LetterCase.isPlain c && !c.isBlank && !c.isDigit) = true := by decide +kernel

theorem letter_of_unit {name : Text} {unit : TimeUnit} (h : (name, unit) ∈ timeUnits) :
    name ≠ [] ∧ ∀ c ∈ name, LetterCase.isPlain c ∧ c.isBlank = false ∧ c.digitValue? = none := by
  have hname := List.all_eq_true.mp unit_letters _ h
  simpa [CodePoint.isDigit, and_assoc] using hname

theorem blanks_apart : ((0x1C, 0x1F) :: narrowBlankRanges).all (fun (lo, hi) =>
    zeros.all fun z => hi < z || z + 9 < lo) = true := by decide +kernel

theorem digitValue?_of_isBlank {c : CodePoint} (h : c.isBlank) : c.digitValue? = none := by
  have hblank : ∃ range ∈ (0x1C, 0x1F) :: narrowBlankRanges, range.1 ≤ c.val ∧ c.val ≤ range.2 := by
    rw [CodePoint.isBlank, Bool.or_eq_true, isNarrowBlank, inRanges, inRanges] at h
    simp only [List.any_eq_true, Bool.and_eq_true, decide_eq_true_eq] at h
    rcases h with ⟨range, hrange, hin⟩ | ⟨range, hrange, hin⟩
    · exact ⟨range, List.mem_cons_of_mem _ hrange, hin⟩
    · exact ⟨range, by simp [List.mem_singleton.mp hrange], hin⟩
  obtain ⟨range, hrange, hlo, hhi⟩ := hblank
  rw [digitValue?, Option.map_eq_none_iff, List.find?_eq_none]
  intro z hz hin
  have hapart := List.all_eq_true.mp (List.all_eq_true.mp blanks_apart range hrange) z hz
  simp only [Bool.or_eq_true, Bool.and_eq_true, decide_eq_true_eq] at hapart hin
  omega

section Parts

variable {digits gap name : Text} {amount : Numeral} {unit : TimeUnit}

theorem name_cons (h : (name, unit) ∈ timeUnits) :
    ∃ c rest, name = c :: rest ∧ c.isBlank = false ∧ c.digitValue? = none := by
  obtain ⟨hne, hletters⟩ := letter_of_unit h
  obtain ⟨c, rest, rfl⟩ := List.exists_cons_of_ne_nil hne
  exact ⟨c, rest, rfl, (hletters c List.mem_cons_self).2⟩

theorem stopped_gap (hgap : ∀ c ∈ gap, c.isBlank) (hname : (name, unit) ∈ timeUnits) : Stopped (gap ++ name) := by
  intro c hc
  cases gap with
  | nil =>
    obtain ⟨d, rest, rfl, -, hd⟩ := name_cons hname
    rwa [← Option.some.inj hc]
  | cons b gap =>
    rw [← Option.some.inj hc]
    exact digitValue?_of_isBlank (hgap b List.mem_cons_self)

theorem dropWhile_gap (hgap : ∀ c ∈ gap, c.isBlank) (hname : (name, unit) ∈ timeUnits) :
    (gap ++ name).dropWhile CodePoint.isBlank = name := by
  obtain ⟨d, rest, rfl, hd, -⟩ := name_cons hname
  rw [List.dropWhile_append_of_pos hgap, List.dropWhile_cons_of_neg (by simp [hd])]

theorem Written.plain {t : Text} (h : Written t amount unit) : ∀ c ∈ t, LetterCase.isPlain c := by
  obtain ⟨spelled, -, blank, named⟩ := h
  intro c hc
  simp only [List.mem_append] at hc
  rcases hc with hsign | hdigit | hgap | hname
  · rw [sign] at hsign
    split at hsign
    · rw [List.mem_singleton.mp hsign]
      decide
    · cases hsign
  · obtain ⟨d, hd⟩ := digit_of_spelled spelled hdigit
    exact LetterCase.isPlain_of_isDigit (by rw [CodePoint.isDigit, hd]; rfl)
  · exact LetterCase.isPlain_of_isBlank (blank c hgap)
  · exact ((letter_of_unit named).2 c hname).1

end Parts

/-! ### Reading a time value -/

/-- What is read of a time value behind its sign. -/
def unsignedValue? (negative : Bool) (t : Text) : Option (Numeral × TimeUnit) := do
  let (digits, t) := leadingDigits t
  guard (digits ≠ [])
  let unit ← Fields.get? (t.dropWhile CodePoint.isBlank) timeUnits
  return (⟨negative, digits⟩, unit)

section Reading

variable {t s : Text} {negative : Bool} {amount : Numeral} {unit : TimeUnit}

theorem timeValue?_minus (h : t.trim.toLower = minus :: s) : timeValue? t = unsignedValue? true s := by
  simp only [timeValue?, h]
  rfl

theorem timeValue?_plain (h : ∀ s, t.trim.toLower ≠ minus :: s) :
    timeValue? t = unsignedValue? false t.trim.toLower := by
  cases hlower : t.trim.toLower with
  | nil =>
    simp only [timeValue?, hlower]
    rfl
  | cons c s =>
    have hc : c ≠ ofChar '-' := fun hc => h s (by rw [hlower, hc]; rfl)
    simp only [timeValue?, hlower, if_neg hc]
    rfl

theorem unsignedValue?_eq_some :
    unsignedValue? negative t = some (amount, unit) ↔
      amount.negative = negative ∧ Written (sign negative ++ t) amount unit := by
  constructor
  · intro h
    rcases hdigits : leadingDigits t with ⟨ds, rest⟩
    simp only [unsignedValue?, hdigits, guard, Option.bind_eq_bind, Option.bind_eq_some_iff] at h
    obtain ⟨_, hguard, found, hfound, hresult⟩ := h
    cases hresult
    have hsome : ds ≠ [] := by
      split at hguard
      · assumption
      · cases hguard
    obtain ⟨-, digits, rfl, hspelled⟩ := leadingDigits_eq hdigits
    refine ⟨rfl, ?_⟩
    have hwritten : Written (sign negative ++ (digits ++
        (rest.takeWhile CodePoint.isBlank ++ rest.dropWhile CodePoint.isBlank))) ⟨negative, ds⟩ unit :=
      @Written.mk _ _ _ ⟨negative, ds⟩ _ hspelled hsome (fun _ => List.mem_takeWhile_imp) (Fields.mem_of_get? hfound)
    rwa [List.takeWhile_append_dropWhile] at hwritten
  · rintro ⟨rfl, hwritten⟩
    generalize htext : sign amount.negative ++ t = text at hwritten
    obtain ⟨hspelled, hsome, hblank, hnamed⟩ := hwritten
    rw [List.append_cancel_left htext, unsignedValue?, leadingDigits_spelled hspelled (stopped_gap hblank hnamed)]
    simp only [guard, if_pos hsome, dropWhile_gap hblank hnamed,
      (Fields.get?_eq_some_iff timeUnits_nodup).mpr hnamed]
    rfl

theorem Written.negative_iff (h : Written t amount unit) : amount.negative = true ↔ ∃ s, t = minus :: s := by
  cases h with
  | @mk digits gap name _ _ hspelled hsome _ _ =>
    cases hsign : amount.negative with
    | true => simp [sign]
    | false =>
      refine iff_of_false Bool.false_ne_true ?_
      rintro ⟨s, hs⟩
      cases digits with
      | nil => exact hsome (List.map_eq_nil_iff.mp hspelled.symm)
      | cons c digits =>
        obtain ⟨d, hd⟩ := digit_of_spelled hspelled List.mem_cons_self
        have hc : c = minus := (List.cons.inj hs).1
        rw [hc] at hd
        cases hd

theorem timeValue?_eq_some : timeValue? t = some (amount, unit) ↔ Written t.trim.toLower amount unit := by
  by_cases hminus : ∃ s, t.trim.toLower = minus :: s
  · obtain ⟨s, hs⟩ := hminus
    rw [timeValue?_minus hs, unsignedValue?_eq_some, hs]
    exact and_iff_right_of_imp fun h => h.negative_iff.mpr ⟨s, rfl⟩
  · rw [timeValue?_plain (not_exists.mp hminus), unsignedValue?_eq_some]
    refine and_iff_right_of_imp fun h => ?_
    rw [← Bool.not_eq_true, h.negative_iff]
    exact hminus

theorem written_lowerCase : Written t.lowerCase amount unit ↔ Written t.toLower amount unit := by
  constructor
  · intro h
    rwa [(LetterCase.lowerCase_eq_iff h.plain).mp rfl]
  · intro h
    rwa [(LetterCase.lowerCase_eq_iff h.plain).mpr rfl]

theorem timeValue?_eq_some_lowerCase :
    timeValue? t = some (amount, unit) ↔ Written t.trim.lowerCase amount unit :=
  timeValue?_eq_some.trans written_lowerCase.symm

end Reading

/-! ### Intervals -/

/-- The text that is given is a time value, of an amount that may be below zero. -/
def Denotes (value : Option Text) (amount : Numeral) (unit : TimeUnit) : Prop :=
  ∃ t, value = some t ∧ Written t.trim.lowerCase amount unit

/-- The error is one of the configuration and names the setting. -/
structure IntervalError.Blames (setting : Text) (e : IntervalError) : Prop where
  configured : (∃ value, e = .malformed setting value) ∨ ∃ value, e = .negative setting value
  named : e.message.contains (Text.ofString "[" ++ setting ++ Text.ofString "]")

theorem Written.trim {t : Text} {amount : Numeral} {unit : TimeUnit} (h : Written t amount unit) : t.trim = t := by
  cases h with
  | @mk digits gap name _ _ hspelled hsome _ hnamed =>
    obtain ⟨hname, hletters⟩ := letter_of_unit hnamed
    refine Text.trimBy_eq_self (fun c hc => ?_) (fun c hc => ?_)
    · cases hsign : amount.negative with
      | true =>
        rw [sign, hsign] at hc
        rw [← Option.some.inj hc]
        decide
      | false =>
        cases digits with
        | nil => exact absurd (List.map_eq_nil_iff.mp hspelled.symm) hsome
        | cons b digits =>
          obtain ⟨d, hd⟩ := digit_of_spelled hspelled List.mem_cons_self
          rw [sign, hsign] at hc
          rw [← Option.some.inj hc, ← Bool.not_eq_true]
          intro hblank
          cases (digitValue?_of_isBlank hblank).symm.trans hd
    · rw [List.getLast?_append_of_ne_nil _ (by simp [hname]), List.getLast?_append_of_ne_nil _ (by simp [hname]),
        List.getLast?_append_of_ne_nil _ hname] at hc
      exact (hletters c (List.mem_of_getLast? hc)).2.1

theorem Written.denotes {t : Text} {amount : Numeral} {unit : TimeUnit} (h : Written t amount unit) :
    Denotes (some t) amount unit :=
  ⟨t, rfl, by rwa [h.trim, LetterCase.lowerCase_of_plain h.plain]⟩

section Intervals

variable {setting : Text} {value : Option Text} {amount : Numeral} {unit : TimeUnit}

theorem quoted_setting (setting rest : Text) :
    (Text.ofString "failed to parse setting [" ++ setting ++ Text.ofString "] with value [" ++ rest).contains
      (Text.ofString "[" ++ setting ++ Text.ofString "]") := by
  have hlead : Text.ofString "failed to parse setting [" =
      Text.ofString "failed to parse setting " ++ Text.ofString "[" := by decide +kernel
  have hvalue : Text.ofString "] with value [" = Text.ofString "]" ++ Text.ofString " with value [" := by
    decide +kernel
  refine Text.contains_iff.mpr ⟨"failed to parse setting ", Text.ofString " with value [" ++ rest, ?_⟩
  rw [hlead, hvalue]
  simp only [List.append_assoc]

theorem blames_malformed : (IntervalError.malformed setting value).Blames setting where
  configured := .inl ⟨value, rfl⟩
  named := by
    rw [IntervalError.message, List.append_assoc]
    exact quoted_setting setting _

theorem blames_negative {t : Text} : (IntervalError.negative setting t).Blames setting where
  configured := .inr ⟨t, rfl⟩
  named := by
    rw [IntervalError.message, List.append_assoc]
    exact quoted_setting setting _

theorem parseInterval_other (h : ∀ amount unit, ¬Denotes value amount unit) :
    parseInterval setting value = .error (.malformed setting value) := by
  have hnone : value.bind (fun t => (timeValue? t).map (t, ·)) = none := by
    cases value with
    | none => rfl
    | some t =>
      rw [Option.bind_some, Option.map_eq_none_iff, Option.eq_none_iff_forall_ne_some]
      rintro ⟨amount, unit⟩ hread
      exact h amount unit ⟨t, rfl, timeValue?_eq_some_lowerCase.mp hread⟩
  rw [parseInterval, hnone]

theorem parseInterval_of_denotes (setting : Text) (h : Denotes value amount unit) : ∃ t, parseInterval setting value =
    if amount.tooLong then .error (.tooManyDigits ⟨amount.digits.length⟩)
    else if amount.value < 0 then .error (.negative setting t)
    else match inSeconds amount.value unit with
      | some seconds => .ok seconds
      | none => .error .tooLarge := by
  obtain ⟨t, rfl, hwritten⟩ := h
  refine ⟨t, ?_⟩
  rw [parseInterval, Option.bind_some, timeValue?_eq_some_lowerCase.mpr hwritten]
  rfl

theorem Denotes.unique {other : Numeral} {unit' : TimeUnit} (h : Denotes value amount unit)
    (h' : Denotes value other unit') : amount = other ∧ unit = unit' := by
  obtain ⟨t, rfl, hwritten⟩ := h
  obtain ⟨_, heq, hwritten'⟩ := h'
  cases heq
  have hread := (timeValue?_eq_some_lowerCase.mpr hwritten).symm.trans (timeValue?_eq_some_lowerCase.mpr hwritten')
  rw [Option.some.injEq, Prod.mk.injEq] at hread
  exact hread

/-- The amount has more digits than are turned into a number, or it is of a unit whose amounts become
floating numbers and is beyond the largest of them. -/
def IsExcessive (amount : Numeral) (unit : TimeUnit) : Prop :=
  amount.tooLong = true ∨
    (∃ power, unit = .decimal power) ∧ 0 ≤ amount.value ∧ Binary64.ofInt? amount.value = none

/-- What comes of a time value, by the amount and the unit that it denotes. -/
inductive Reading (setting : Text) (value : Option Text) : Except IntervalError Seconds → Prop
  | malformed (h : ∀ amount unit, ¬Denotes value amount unit) :
      Reading setting value (.error (.malformed setting value))
  | tooManyDigits {amount : Numeral} {unit : TimeUnit} (h : Denotes value amount unit)
      (hlong : amount.tooLong = true) : Reading setting value (.error (.tooManyDigits ⟨amount.digits.length⟩))
  | negative {amount : Numeral} {unit : TimeUnit} (h : Denotes value amount unit)
      (hlong : amount.tooLong = false) (hneg : amount.value < 0) (t : Text) :
      Reading setting value (.error (.negative setting t))
  | read {amount : Numeral} {unit : TimeUnit} {s : Seconds} (h : Denotes value amount unit)
      (hlong : amount.tooLong = false) (hpos : 0 ≤ amount.value) (hs : inSeconds amount.value unit = some s) :
      Reading setting value (.ok s)
  | tooLarge {amount : Numeral} {unit : TimeUnit} (h : Denotes value amount unit)
      (hlong : amount.tooLong = false) (hpos : 0 ≤ amount.value) (hs : inSeconds amount.value unit = none) :
      Reading setting value (.error .tooLarge)

theorem parseInterval_reading (setting : Text) (value : Option Text) :
    Reading setting value (parseInterval setting value) := by
  by_cases hdenotes : ∃ amount unit, Denotes value amount unit
  · obtain ⟨amount, unit, h⟩ := hdenotes
    obtain ⟨t, hparse⟩ := parseInterval_of_denotes setting h
    rw [hparse]
    cases hlong : amount.tooLong with
    | true => exact .tooManyDigits h hlong
    | false =>
      rw [if_neg Bool.false_ne_true]
      split
      · next hneg => exact .negative h hlong hneg t
      · next hpos =>
        split
        · next s hs => exact .read h hlong (not_lt.mp hpos) hs
        · next hs => exact .tooLarge h hlong (not_lt.mp hpos) hs
  · rw [parseInterval_other fun amount unit h => hdenotes ⟨amount, unit, h⟩]
    exact .malformed fun amount unit h => hdenotes ⟨amount, unit, h⟩

theorem inSeconds_eq_none {amount : Int} : inSeconds amount unit = none ↔
    (∃ power, unit = .decimal power) ∧ Binary64.ofInt? amount = none := by
  cases unit with
  | seconds count => simp [inSeconds]
  | decimal power => simp [inSeconds]

theorem parseInterval_eq_ok {s : Seconds} : parseInterval setting value = .ok s ↔
    ∃ amount unit, Denotes value amount unit ∧ amount.tooLong = false ∧ 0 ≤ amount.value ∧
      inSeconds amount.value unit = some s := by
  constructor
  · intro h
    have hreading := parseInterval_reading setting value
    rw [h] at hreading
    cases hreading with
    | read h hlong hpos hs => exact ⟨_, _, h, hlong, hpos, hs⟩
  · rintro ⟨amount, unit, h, hlong, hpos, hs⟩
    obtain ⟨t, hparse⟩ := parseInterval_of_denotes setting h
    rw [hparse, hlong, if_neg Bool.false_ne_true, if_neg (not_lt.mpr hpos), hs]

theorem not_blames_tooManyDigits {limit : DigitLimit} : ¬(IntervalError.tooManyDigits limit).Blames setting := by
  rintro ⟨⟨_, h⟩ | ⟨_, h⟩, -⟩ <;> cases h

theorem not_blames_tooLarge : ¬IntervalError.tooLarge.Blames setting := by
  rintro ⟨⟨_, h⟩ | ⟨_, h⟩, -⟩ <;> cases h

theorem parseInterval_escapes : Escapes (IntervalError.Blames setting) (parseInterval setting value) ↔
    ∃ amount unit, Denotes value amount unit ∧ IsExcessive amount unit := by
  constructor
  · intro h
    have hreading := parseInterval_reading setting value
    generalize parseInterval setting value = result at h hreading
    cases hreading with
    | malformed => exact absurd blames_malformed (escapes_error.mp h)
    | negative => exact absurd blames_negative (escapes_error.mp h)
    | read => exact absurd h (not_escapes_ok _)
    | tooManyDigits hdenotes hlong => exact ⟨_, _, hdenotes, .inl hlong⟩
    | tooLarge hdenotes hlong hpos hs =>
      obtain ⟨hunit, hlarge⟩ := inSeconds_eq_none.mp hs
      exact ⟨_, _, hdenotes, .inr ⟨hunit, hpos, hlarge⟩⟩
  · rintro ⟨amount, unit, hdenotes, hexcessive⟩
    obtain ⟨t, hparse⟩ := parseInterval_of_denotes setting hdenotes
    rw [hparse]
    cases hlong : amount.tooLong with
    | true => exact escapes_error.mpr not_blames_tooManyDigits
    | false =>
      obtain ⟨hunit, hpos, hlarge⟩ := hexcessive.resolve_left (by simp [hlong])
      rw [if_neg Bool.false_ne_true, if_neg (not_lt.mpr hpos), inSeconds_eq_none.mpr ⟨hunit, hlarge⟩]
      exact escapes_error.mpr not_blames_tooLarge

/-- What a time value comes to: a number of seconds, or an error that names the setting, unless the amount is
excessive. -/
structure ReadsInterval (setting : Text) (value : Option Text) : Prop where
  accepted : (∀ amount unit, Denotes value amount unit → ¬IsExcessive amount unit) →
    ((∃ s, parseInterval setting value = .ok s) ↔ ∃ amount unit, Denotes value amount unit ∧ 0 ≤ amount.value)
  seconds : ∀ s, parseInterval setting value = .ok s →
    ∃ amount unit, Denotes value amount unit ∧ 0 ≤ amount.value ∧ inSeconds amount.value unit = some s
  exact : ∀ amount count, Denotes value amount (.seconds count) → 0 ≤ amount.value → amount.tooLong = false →
    parseInterval setting value = .ok (.whole (amount.value * count))
  blamed : (∀ amount unit, Denotes value amount unit → amount.value < 0 ∧ amount.tooLong = false) →
    ∃ e, parseInterval setting value = .error e ∧ e.Blames setting
  escapes : Escapes (IntervalError.Blames setting) (parseInterval setting value) ↔
    ∃ amount unit, Denotes value amount unit ∧ IsExcessive amount unit

theorem readsInterval (setting : Text) (value : Option Text) : ReadsInterval setting value where
  accepted hsmall := by
    constructor
    · rintro ⟨s, hs⟩
      obtain ⟨amount, unit, hdenotes, -, hpos, -⟩ := parseInterval_eq_ok.mp hs
      exact ⟨amount, unit, hdenotes, hpos⟩
    · rintro ⟨amount, unit, hdenotes, hpos⟩
      obtain ⟨hlong, hlarge⟩ := not_or.mp (hsmall amount unit hdenotes)
      cases hs : inSeconds amount.value unit with
      | some s => exact ⟨s, parseInterval_eq_ok.mpr ⟨amount, unit, hdenotes, by simpa using hlong, hpos, hs⟩⟩
      | none =>
        obtain ⟨hunit, hnone⟩ := inSeconds_eq_none.mp hs
        exact absurd ⟨hunit, hpos, hnone⟩ hlarge
  seconds s hs := by
    obtain ⟨amount, unit, hdenotes, -, hpos, hseconds⟩ := parseInterval_eq_ok.mp hs
    exact ⟨amount, unit, hdenotes, hpos, hseconds⟩
  exact amount count hdenotes hpos hlong :=
    parseInterval_eq_ok.mpr ⟨amount, .seconds count, hdenotes, hlong, hpos, rfl⟩
  blamed hnone := by
    cases hresult : parseInterval setting value with
    | ok s =>
      obtain ⟨amount, unit, hdenotes, -, hpos, -⟩ := parseInterval_eq_ok.mp hresult
      exact absurd (hnone amount unit hdenotes).1 (not_lt.mpr hpos)
    | error e =>
      refine ⟨e, rfl, Classical.byContradiction fun hblames => ?_⟩
      have hescapes : Escapes (IntervalError.Blames setting) (parseInterval setting value) := ⟨e, hblames, hresult⟩
      obtain ⟨amount, unit, hdenotes, hlong | ⟨-, hpos, -⟩⟩ := parseInterval_escapes.mp hescapes
      · exact absurd ((hnone amount unit hdenotes).2.symm.trans hlong) Bool.false_ne_true
      · exact absurd (hnone amount unit hdenotes).1 (not_lt.mpr hpos)
  escapes := parseInterval_escapes

end Intervals

end ClusterHarness.Time
