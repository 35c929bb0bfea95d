import ClusterHarness.Proofs.Settings.Selection
import ClusterHarness.Proofs.Time.TimeValues

/-!
Timeouts that are no time values. Settings are refused for them by an error of the configuration that names
the setting of the timeout, but for amounts that are beyond what is turned into a number.
-/

namespace ClusterHarness

open Time Validation Validated

namespace RuntimeFlags

variable {files : FileTree} {flags : RuntimeFlags} {admin : Bool} {t : Transport}

def timeoutText (flags : RuntimeFlags) : Text := flags.socketTimeout.getD defaultTimeout

def Denotes (flags : RuntimeFlags) (amount : Numeral) (unit : TimeUnit) : Prop :=
  Time.Denotes (some flags.timeoutText) amount unit

/-! ### Settings whose transport is known -/

theorem clientSettings_of_intervalError (h : flags.transport files admin = .ok t) {e : IntervalError}
    (he : parseInterval timeoutSetting (some flags.timeoutText) = .error e) :
    flags.clientSettings files admin = .error (intervalError e) := by
  have htimeout : flags.timeout = .error (intervalError e) := mapError_eq_error.mpr ⟨e, he, rfl⟩
  exact bind_eq_error.mpr (.inr ⟨t, h, bind_eq_error.mpr (.inl htimeout)⟩)

theorem clientSettings_of_number (h : flags.transport files admin = .ok t) {s : Seconds}
    (hs : parseInterval timeoutSetting (some flags.timeoutText) = .ok s) {x : Binary64}
    (hx : s.toBinary64? = some x) : ∃ settings, flags.clientSettings files admin = .ok settings := by
  obtain ⟨timeout, hchecked⟩ := secondsTimeout_of_number (parseInterval_nonneg hs) hx
  obtain ⟨settings, hsettings, -⟩ := clientSettings_of_seconds (mapError_eq_ok.mpr hs) hchecked h
  exact ⟨settings, hsettings⟩

theorem clientSettings_of_no_number (h : flags.transport files admin = .ok t) {s : Seconds}
    (hs : parseInterval timeoutSetting (some flags.timeoutText) = .ok s) (hx : s.toBinary64? = none) :
    ∃ issues, flags.clientSettings files admin = .error (.invalid issues) := by
  have htimeout : flags.timeout = .ok s := mapError_eq_ok.mpr hs
  have hhosts : within (.name "hosts") (ClientSettings.normalHosts flags.clientHosts) =
      .ok flags.clientHosts := within_eq_ok.mpr flags.normalHosts_clientHosts
  obtain ⟨issues, hissues⟩ : ∃ issues, both (within (.name "hosts")
      (ClientSettings.normalHosts flags.clientHosts)) (secondsTimeout s) = .error issues := by
    rw [hhosts, secondsTimeout, hx]
    exact ⟨_, rfl⟩
  refine ⟨issues, bind_eq_error.mpr (.inr ⟨t, h, bind_eq_error.mpr (.inr ⟨s, htimeout, ?_⟩)⟩)⟩
  exact bind_eq_error.mpr (.inl (mapError_eq_error.mpr ⟨issues, hissues, rfl⟩))

theorem clientSettings_cases (h : flags.transport files admin = .ok t) :
    (∃ settings, flags.clientSettings files admin = .ok settings) ∨
      (∃ s issues, parseInterval timeoutSetting (some flags.timeoutText) = .ok s ∧ s.toBinary64? = none ∧
        flags.clientSettings files admin = .error (.invalid issues)) ∨
      ∃ e, parseInterval timeoutSetting (some flags.timeoutText) = .error e ∧
        flags.clientSettings files admin = .error (intervalError e) := by
  cases hparse : parseInterval timeoutSetting (some flags.timeoutText) with
  | error e => exact .inr (.inr ⟨e, rfl, clientSettings_of_intervalError h hparse⟩)
  | ok s =>
    cases hx : s.toBinary64? with
    | some x => exact .inl (clientSettings_of_number h hparse hx)
    | none =>
      obtain ⟨issues, hissues⟩ := clientSettings_of_no_number h hparse hx
      exact .inr (.inl ⟨s, issues, rfl, hx, hissues⟩)

theorem intervalError_of_blames {e : IntervalError} (h : e.Blames timeoutSetting) :
    ∃ c, intervalError e = .configuration c ∧ c.message = e.message := by
  rcases h.configured with ⟨value, rfl⟩ | ⟨value, rfl⟩
  · exact ⟨.malformedInterval timeoutSetting value, rfl, rfl⟩
  · exact ⟨.negativeInterval timeoutSetting value, rfl, rfl⟩

theorem intervalError_of_not_blames {e : IntervalError}
    (he : parseInterval timeoutSetting (some flags.timeoutText) = .error e) (h : ¬e.Blames timeoutSetting) :
    intervalError e = .interval e := by
  have hreading := parseInterval_reading timeoutSetting (some flags.timeoutText)
  rw [he] at hreading
  cases hreading with
  | malformed => exact absurd blames_malformed h
  | negative => exact absurd blames_negative h
  | tooManyDigits => rfl
  | tooLarge => rfl

/-- How settings are refused for their timeout. -/
structure RefusesTimeout (files : FileTree) (flags : RuntimeFlags) (admin : Bool) : Prop where
  blamed : (∀ amount unit, flags.Denotes amount unit → amount.value < 0 ∧ amount.tooLong = false) →
    ∃ c, flags.clientSettings files admin = .error (.configuration c) ∧
      c.message.contains (Text.ofString "[" ++ timeoutSetting ++ Text.ofString "]")
  escapes : (∃ e, flags.clientSettings files admin = .error (.interval e)) ↔
    ∃ amount unit, flags.Denotes amount unit ∧ IsExcessive amount unit
  invalid : (∃ issues, flags.clientSettings files admin = .error (.invalid issues)) ↔
    ∃ amount count, flags.Denotes amount (.seconds count) ∧ amount.tooLong = false ∧ 0 ≤ amount.value ∧
      Binary64.ofInt? (amount.value * count) = none

theorem toBinary64?_eq_none {amount : Int} {unit : TimeUnit} {s : Seconds} (h : inSeconds amount unit = some s) :
    s.toBinary64? = none ↔ ∃ count, unit = .seconds count ∧ Binary64.ofInt? (amount * count) = none := by
  cases unit with
  | seconds count =>
    rw [inSeconds, Option.some.injEq] at h
    subst h
    simp [Seconds.toBinary64?]
  | decimal power =>
    rw [inSeconds, Option.map_eq_some_iff] at h
    obtain ⟨x, -, rfl⟩ := h
    simp [Seconds.toBinary64?]

theorem refusesTimeout (h : flags.transport files admin = .ok t) : RefusesTimeout files flags admin where
  blamed hbad := by
    obtain ⟨e, he, hblames⟩ := (readsInterval timeoutSetting (some flags.timeoutText)).blamed hbad
    obtain ⟨c, hc, hmessage⟩ := intervalError_of_blames hblames
    exact ⟨c, (clientSettings_of_intervalError h he).trans (congrArg _ hc), hmessage ▸ hblames.named⟩
  escapes := by
    constructor
    · rintro ⟨e, he⟩
      obtain ⟨settings, hsettings⟩ | ⟨s, issues, -, -, hissues⟩ | ⟨d, hparse, hd⟩ := clientSettings_cases h
      · cases hsettings.symm.trans he
      · cases hissues.symm.trans he
      · have hescapes : ¬d.Blames timeoutSetting := by
          intro hblames
          obtain ⟨c, hc, -⟩ := intervalError_of_blames hblames
          rw [hd, hc] at he
          cases he
        exact parseInterval_escapes.mp ⟨d, hescapes, hparse⟩
    · intro hexcessive
      obtain ⟨e, hblames, he⟩ : Escapes (IntervalError.Blames timeoutSetting) _ :=
        parseInterval_escapes.mpr hexcessive
      have herror := intervalError_of_not_blames he hblames
      exact ⟨e, (clientSettings_of_intervalError h he).trans (congrArg _ herror)⟩
  invalid := by
    constructor
    · rintro ⟨issues, hissues⟩
      obtain ⟨settings, hsettings⟩ | ⟨s, _, hparse, hx, -⟩ | ⟨d, -, hd⟩ := clientSettings_cases h
      · cases hsettings.symm.trans hissues
      · obtain ⟨amount, unit, hdenotes, hlong, hpos, hs⟩ := parseInterval_eq_ok.mp hparse
        obtain ⟨count, rfl, hnone⟩ := (toBinary64?_eq_none hs).mp hx
        exact ⟨amount, count, hdenotes, hlong, hpos, hnone⟩
      · rw [hd] at hissues
        cases d <;> cases hissues
    · rintro ⟨amount, count, hdenotes, hlong, hpos, hnone⟩
      have hs := (readsInterval timeoutSetting (some flags.timeoutText)).exact amount count hdenotes hpos hlong
      exact clientSettings_of_no_number h hs hnone

/-- A time value is read exactly or blamed on its setting, and settings are refused for a timeout by an error
of the configuration, unless the amount is beyond what is turned into a number. -/
theorem time_values_are_read_or_blamed (setting : Text) (value : Option Text) (files : FileTree)
    (given : Given flags) (admin : Bool) : ReadsInterval setting value ∧
      (∀ t, flags.transport files admin = .ok t → RefusesTimeout files flags admin) ∧
      ∀ e, flags.transport files admin = .error e → flags.clientSettings files admin = .error e ∧
        ((∃ c, e = .configuration c) ∨ ∃ o, e = .opening o) := by
  refine ⟨readsInterval setting value, fun t ht => refusesTimeout ht, fun e he => ?_⟩
  refine ⟨clientSettings_of_error he, ?_⟩
  have hroute := transport_route files admin given
  rw [he] at hroute
  generalize flags.https = https at hroute
  cases hroute with
  | misconfigured => exact .inl ⟨_, rfl⟩
  | unsearchable => exact .inr ⟨_, rfl⟩

theorem time_values_are_read_or_blamed_of_admin :
    Given (ofEnvironment (securedEnvironment "res")) ∧
      ReadsInterval "index.refresh_interval" (some " -0Micros ") ∧
      (∀ t, (ofEnvironment (securedEnvironment "res")).transport keystoreTree true = .ok t →
        RefusesTimeout keystoreTree (ofEnvironment (securedEnvironment "res")) true) ∧
      ∀ e, (ofEnvironment (securedEnvironment "res")).transport keystoreTree true = .error e →
        (ofEnvironment (securedEnvironment "res")).clientSettings keystoreTree true = .error e ∧
          ((∃ c, e = .configuration c) ∨ ∃ o, e = .opening o) :=
  ⟨.environment _, time_values_are_read_or_blamed _ _ keystoreTree (.environment _) true⟩

end RuntimeFlags

namespace Time

/-- One second, with zeros before it. -/
def paddedSecond (zeros : Nat) : Text := List.replicate zeros (CodePoint.ofChar '0') ++ "1s"

def paddedOne (zeros : Nat) : Numeral := ⟨false, List.replicate zeros 0 ++ [1]⟩

theorem paddedSecond_denotes (zeros : Nat) : Denotes (some (paddedSecond zeros)) (paddedOne zeros) (.seconds 1) := by
  have hwritten : Written (sign false ++ (List.replicate zeros (CodePoint.ofChar '0') ++ [CodePoint.ofChar '1'] ++
      ([] ++ Text.ofString "s"))) (paddedOne zeros) (.seconds 1) := by
    refine @Written.mk _ _ _ (paddedOne zeros) _ ?_ (by simp [paddedOne]) (by simp) (by decide +kernel)
    simp only [Numeral.Spells, paddedOne, List.map_append, List.map_replicate]
    rfl
  rw [List.append_assoc] at hwritten
  exact hwritten.denotes

theorem value_paddedOne (zeros : Nat) : (paddedOne zeros).value = 1 := by
  have hmagnitude : Numeral.magnitude (List.replicate zeros 0 ++ [1]) = 1 := by
    induction zeros with
    | zero => rfl
    | succ zeros ih => exact ih
  rw [Numeral.value, paddedOne, hmagnitude]
  rfl

theorem length_paddedOne (zeros : Nat) : (paddedOne zeros).digits.length = zeros + 1 := by
  simp [paddedOne]

/-- An amount of one that is written in too many digits is an error that names no setting. -/
theorem padded_second_is_not_blamed :
    Denotes (some (paddedSecond 4300)) (paddedOne 4300) (.seconds 1) ∧ (paddedOne 4300).value = 1 ∧
      parseInterval "client.socket.timeout" (some (paddedSecond 4300)) = .error (.tooManyDigits ⟨4301⟩) := by
  refine ⟨paddedSecond_denotes 4300, value_paddedOne 4300, ?_⟩
  obtain ⟨t, hparse⟩ := parseInterval_of_denotes "client.socket.timeout" (paddedSecond_denotes 4300)
  rw [hparse, Numeral.tooLong, length_paddedOne]
  rfl

end Time

end ClusterHarness
