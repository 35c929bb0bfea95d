import ClusterHarness.Proofs.Number.Bounds
import ClusterHarness.Proofs.Time.CalendarEdge
import ClusterHarness.Security.TrustMaterial
import Mathlib.Data.Option.Basic

/-!
When certificates expire. The hours that are left are rounded twice before they are counted, yet the count is that
of whole microseconds: a microsecond is far more than what rounding takes from the hours of a day.
-/

namespace ClusterHarness

open Time

/-! ### Hours -/

namespace Certificate

def hourMicros : ℕ := 3600000000

/-- The hours that so many microseconds are, as they are worked out. -/
def hours (micros : ℤ) : Binary64 := (Binary64.ofQuotient micros 1000000).quotient 3600

section Hours

variable {micros : ℤ} {k j : ℕ} {f g : ℤ}

theorem isNegative_hours (micros : ℤ) : (hours micros).isNegative = decide (micros < 0) := by
  rw [hours, Binary64.isNegative_quotient, Binary64.ofQuotient, Binary64.isNegative_ofRatio]

theorem seconds_small (h : micros.natAbs < endOfTime) : (micros.natAbs : ℚ) / (1000000 : ℕ) < 2 ^ (1023 : ℤ) := by
  have hmicros : (micros.natAbs : ℚ) < endOfTime := by exact_mod_cast h
  calc (micros.natAbs : ℚ) / (1000000 : ℕ) ≤ micros.natAbs := div_le_self (Nat.cast_nonneg _) (by norm_num)
    _ < 2 ^ (59 : ℤ) := hmicros.trans (by norm_num [endOfTime])
    _ ≤ 2 ^ (1023 : ℤ) := zpow_le_zpow_right₀ (by norm_num) (by norm_num)

theorem hours_small (h : micros.natAbs < endOfTime) :
    (Binary64.ofQuotient micros 1000000).magnitude / (3600 : ℕ) < 2 ^ (1023 : ℤ) := by
  have hmicros : (micros.natAbs : ℚ) < endOfTime := by exact_mod_cast h
  have hseconds : (Binary64.ofQuotient micros 1000000).magnitude ≤ (1 : ℕ) * 2 ^ (59 : ℤ) := by
    refine Binary64.ofRatio_le _ (by decide) (seconds_small h) (by decide) (by norm_num) ?_
    rw [div_le_iff₀ (by norm_num)]
    refine hmicros.le.trans ?_
    norm_num [endOfTime]
  calc (Binary64.ofQuotient micros 1000000).magnitude / (3600 : ℕ)
      ≤ (Binary64.ofQuotient micros 1000000).magnitude := div_le_self (Binary64.magnitude_nonneg _) (by norm_num)
    _ ≤ (1 : ℕ) * 2 ^ (59 : ℤ) := hseconds
    _ < 2 ^ (1023 : ℤ) := by
      rw [Nat.cast_one, one_mul]
      exact zpow_lt_zpow_right₀ (by norm_num) (by norm_num)

theorem hours_le (hmicros : micros.natAbs < endOfTime) (hk : k < 2 * Binary64.hidden) (hf : -1074 ≤ f)
    (hj : j < 2 * Binary64.hidden) (hg : -1074 ≤ g) (hseconds : (micros.natAbs : ℚ) / (1000000 : ℕ) ≤ k * 2 ^ f)
    (h : (k : ℚ) * 2 ^ f / (3600 : ℕ) ≤ j * 2 ^ g) : (hours micros).magnitude ≤ j * 2 ^ g := by
  refine Binary64.quotient_le (by decide) (hours_small hmicros) hj hg (le_trans ?_ h)
  gcongr
  exact Binary64.ofRatio_le _ (by decide) (seconds_small hmicros) hk hf hseconds

theorem le_hours (hmicros : micros.natAbs < endOfTime) (hk : k < 2 * Binary64.hidden) (hf : -1074 ≤ f)
    (hj : j < 2 * Binary64.hidden) (hg : -1074 ≤ g) (hseconds : k * 2 ^ f ≤ (micros.natAbs : ℚ) / (1000000 : ℕ))
    (h : (j : ℚ) * 2 ^ g ≤ k * 2 ^ f / (3600 : ℕ)) : j * 2 ^ g ≤ (hours micros).magnitude := by
  refine Binary64.le_quotient (by decide) (hours_small hmicros) hj hg (h.trans ?_)
  gcongr
  exact Binary64.le_ofRatio _ (by decide) (seconds_small hmicros) hk hf hseconds

theorem hours_neg (hmicros : micros.natAbs < endOfTime) (h : micros < 0) : (hours micros).floor < 0 := by
  have hsome : (1 : ℚ) ≤ micros.natAbs := by
    have hpos : 1 ≤ micros.natAbs := Int.natAbs_pos.mpr h.ne
    exact_mod_cast hpos
  have hpos : ((1 : ℕ) : ℚ) * 2 ^ (-32 : ℤ) ≤ (hours micros).magnitude := by
    refine le_hours hmicros (k := 1) (f := -20) (by decide) (by norm_num) (by decide) (by norm_num) ?_ (by norm_num)
    rw [le_div_iff₀ (by norm_num)]
    exact le_trans (by norm_num) hsome
  have hvalue : (hours micros).value < 0 := by
    rw [Binary64.value, isNegative_hours, decide_eq_true h, if_pos rfl, neg_lt_zero]
    exact lt_of_lt_of_le (by norm_num) hpos
  rw [Binary64.floor_eq]
  exact Int.floor_lt.mpr (by rwa [Int.cast_zero])

theorem hours_value (h : 0 ≤ micros) : (hours micros).value = (hours micros).magnitude := by
  rw [Binary64.value, isNegative_hours, decide_eq_false (not_lt.mpr h)]
  rfl

/-- Whole hours up to a day are numbers, and so are the seconds in them. -/
theorem le_hours_floor (hmicros : micros.natAbs < endOfTime) {n : ℕ} (hn : n ≤ 24) (h : (n * hourMicros : ℕ) ≤ micros) :
    n ≤ (hours micros).floor := by
  have hnonneg : 0 ≤ micros := le_trans (Int.natCast_nonneg _) h
  have habs : 3600 * n * 1000000 ≤ micros.natAbs := by
    simp only [hourMicros] at h
    omega
  have hle : (n : ℚ) * 2 ^ (0 : ℤ) ≤ (hours micros).magnitude := by
    refine le_hours hmicros (k := 3600 * n) (f := 0) ?_ (by norm_num) ?_ (by norm_num) ?_ ?_
    · simp only [Binary64.hidden]
      omega
    · simp only [Binary64.hidden]
      omega
    · rw [le_div_iff₀ (by norm_num), zpow_zero, mul_one, ← Nat.cast_mul]
      exact Nat.cast_le.mpr habs
    · rw [le_div_iff₀ (by norm_num)]
      push_cast
      linarith
  rw [Binary64.floor_eq, hours_value hnonneg, Int.le_floor]
  rw [zpow_zero, mul_one] at hle
  exact_mod_cast hle

/-- A microsecond before a whole hour, the hours are still so far from it that rounding does not reach it. -/
theorem hours_floor_lt (hmicros : micros.natAbs < endOfTime) {n : ℕ} (hn : n ≤ 24) (hnonneg : 0 ≤ micros)
    (h : micros < (n * hourMicros : ℕ)) : (hours micros).floor < n := by
  have hpos : 1 ≤ n := by
    by_contra hzero
    have hzero : n = 0 := by omega
    subst hzero
    omega
  have habs : micros.natAbs + 1 ≤ 3600 * n * 1000000 := by
    simp only [hourMicros] at h
    omega
  have hcast : (micros.natAbs : ℚ) + 1 ≤ 3600 * n * 1000000 := by exact_mod_cast habs
  have hseconds : ((3600 * n * 2 ^ 20 - 1 : ℕ) : ℚ) = 3600 * n * 2 ^ 20 - 1 := by
    rw [Nat.cast_sub (by omega)]
    push_cast
    ring
  have hbelow : ((n * 2 ^ 32 - 1 : ℕ) : ℚ) = n * 2 ^ 32 - 1 := by
    rw [Nat.cast_sub (by omega)]
    push_cast
    ring
  have hsteps : (2 : ℚ) ^ (-20 : ℤ) = 1 / 2 ^ 20 ∧ (2 : ℚ) ^ (-32 : ℤ) = 1 / 2 ^ 32 := by norm_num
  have hle : (hours micros).magnitude ≤ (n * 2 ^ 32 - 1 : ℕ) * 2 ^ (-32 : ℤ) := by
    refine hours_le hmicros (k := 3600 * n * 2 ^ 20 - 1) (f := -20) ?_ (by norm_num) ?_ (by norm_num) ?_ ?_
    · simp only [Binary64.hidden]
      omega
    · simp only [Binary64.hidden]
      omega
    · rw [hseconds, hsteps.1, div_le_iff₀ (by norm_num), Nat.cast_ofNat]
      linarith
    · rw [hseconds, hbelow, hsteps.1, hsteps.2, div_le_iff₀ (by norm_num), Nat.cast_ofNat]
      linarith
  rw [hbelow, hsteps.2] at hle
  rw [Binary64.floor_eq, hours_value hnonneg, Int.floor_lt, Int.cast_natCast]
  linarith

/-- The hours that are counted while so many microseconds are left. -/
structure Counts (left hours : ℤ) : Prop where
  past : hours < 0 ↔ left < 0
  soon : hours < 24 ↔ left < dayMicros
  within : 0 ≤ left → left < dayMicros → hours = left / hourMicros

theorem hours_counts (hmicros : micros.natAbs < endOfTime) : Counts micros (hours micros).floor := by
  have hday : (dayMicros : ℤ) = (24 * hourMicros : ℕ) := rfl
  rcases lt_or_ge micros 0 with hneg | hnonneg
  · have hpast := hours_neg hmicros hneg
    have hlt : micros < dayMicros := hneg.trans_le (Int.natCast_nonneg _)
    exact ⟨iff_of_true hpast hneg, iff_of_true (by omega) hlt, fun hnonneg => absurd hneg (not_lt.mpr hnonneg)⟩
  rcases lt_or_ge micros dayMicros with hlt | hlate
  · have hwhole : 0 ≤ micros / hourMicros ∧ micros / hourMicros < 24 := by
      simp only [hourMicros, dayMicros] at hlt ⊢
      omega
    obtain ⟨n, hn⟩ := Int.eq_ofNat_of_zero_le hwhole.1
    have hlow : (n * hourMicros : ℕ) ≤ micros ∧ micros < ((n + 1) * hourMicros : ℕ) := by
      simp only [hourMicros] at hn ⊢
      omega
    have hfloor := le_hours_floor hmicros (by omega) hlow.1
    have hceil := hours_floor_lt hmicros (by omega) hnonneg hlow.2
    rw [Nat.cast_add_one] at hceil
    exact ⟨by omega, iff_of_true (by omega) hlt, fun _ _ => by omega⟩
  · have hfloor := le_hours_floor hmicros le_rfl (hday ▸ hlate)
    rw [Nat.cast_ofNat] at hfloor
    exact ⟨by omega, iff_of_false (by omega) (not_lt.mpr hlate), fun _ hlt => absurd hlt (not_lt.mpr hlate)⟩

end Hours

theorem civil?_micro {year : ℕ} {bs : Bytes} {t : Civil} (h : civil? year bs = some t) : t.micro = 0 := by
  simp only [civil?, Option.bind_eq_bind, Option.bind_eq_some_iff, Option.pure_def, Option.some.injEq] at h
  obtain ⟨-, -, month, -, day, -, hour, -, minute, -, second, -, rfl⟩ := h
  rfl

theorem time?_sound {e : Asn1.Element} {t : Civil} (h : time? e = some t) (hyear : t.date.year ≠ 0) : t.Sound := by
  have hread : ∃ year bs, civil? year bs = some t ∧ t.fault? = none := by
    unfold time? at h
    simp only [Option.bind_eq_bind, Option.pure_def] at h
    split at h <;>
      simp only [Option.bind_eq_some_iff, Option.some.injEq, Option.guard_eq_some', exists_const] at h <;>
      obtain ⟨y, -, c, hcivil, hfault, rfl⟩ := h <;>
      rw [if_neg hyear, Option.isNone_iff_eq_none] at hfault <;>
      exact ⟨_, _, hcivil, hfault⟩
  obtain ⟨year, bs, hcivil, hfault⟩ := hread
  have hmicro := civil?_micro hcivil
  exact Civil.sound_of_fault? hfault (by omega)

theorem expiry_bounds {c : Certificate} {micros : ℤ} (h : c.expiry = .ok micros) :
    0 ≤ micros ∧ micros < endOfTime := by
  unfold expiry at h
  split at h
  · cases h
  next t ht =>
  split at h
  · cases h
  next hyear =>
  cases h
  have hsound := time?_sound ht hyear
  have hdays := hsound.toDays_lt
  have htime := hsound.time
  rw [Civil.toMicros_eq]
  refine ⟨Int.natCast_nonneg _, Int.ofNat_lt.mpr ?_⟩
  simp only [dayMicros, endOfTime] at htime ⊢
  omega

theorem remainingHours_counts {c : Certificate} {micros : ℤ} (h : c.expiry = .ok micros) (now : Instant) :
    ∃ n, c.remainingHours now = .ok n ∧ Counts (micros - now.micros) n := by
  obtain ⟨hnonneg, hend⟩ := expiry_bounds h
  have hnow := now.inCalendar
  refine ⟨(hours (micros - now.micros)).floor, ?_, hours_counts (by omega)⟩
  rw [remainingHours, h]
  rfl

end Certificate

/-! ### Verdicts -/

namespace TrustMaterial

/-- What a check tells of a certificate. -/
structure Reading where
  path : Path
  expiry : ℤ
  subject : Text

namespace Reading

def left (r : Reading) (now : Instant) : ℤ := r.expiry - now.micros

def isExpired (r : Reading) (now : Instant) : Bool := r.expiry < now.micros

def isExpiring (r : Reading) (now : Instant) : Bool := 0 ≤ r.left now && r.left now < dayMicros

def notice (r : Reading) (now : Instant) : Notice :=
  .expiring r.subject r.path (r.left now / Certificate.hourMicros)

def error (r : Reading) : TrustError := .configuration (.expired r.subject r.path)

variable {r : Reading} {now : Instant}

theorem isExpired_iff : r.isExpired now = true ↔ r.left now < 0 := by
  rw [isExpired, decide_eq_true_iff, left, sub_neg]

theorem isExpiring_iff : r.isExpiring now = true ↔ 0 ≤ r.left now ∧ r.left now < dayMicros := by
  rw [isExpiring, Bool.and_eq_true, decide_eq_true_iff, decide_eq_true_iff]

end Reading

/-- What is read of a certificate; the subject matters only if there is something to tell. -/
structure Reads (now : Instant) (path : Path) (c : Certificate) (r : Reading) : Prop where
  place : r.path = path
  expiry : c.expiry = .ok r.expiry
  subject : r.left now < dayMicros → c.subjectText = .ok r.subject

/-- The certificates before the first that has expired are announced if they expire within a day. -/
def verdict (now : Instant) (rs : List Reading) : List Notice × Except TrustError Unit :=
  (((rs.takeWhile fun r => !r.isExpired now).filter (·.isExpiring now)).map (·.notice now),
    match rs.find? (·.isExpired now) with
    | none => .ok ()
    | some r => .error r.error)

section Verdict

variable {now : Instant} {path : Path} {c : Certificate} {r : Reading} {cs : List Certificate} {rs ss : List Reading}

theorem checkCertificate_reads (h : Reads now path c r) :
    checkCertificate now path c =
      if r.isExpired now then .error r.error
      else .ok (if r.isExpiring now then some (r.notice now) else none) := by
  obtain ⟨n, hn, hcounts⟩ := Certificate.remainingHours_counts h.expiry now
  have hsoon : n < warningHours ↔ r.left now < dayMicros := hcounts.soon
  simp only [checkCertificate, hn, mapError_ok, bind, Except.bind, pure, Except.pure]
  by_cases hday : r.left now < dayMicros
  · rw [if_pos (hsoon.mpr hday), h.subject hday, mapError_ok]
    by_cases hneg : r.left now < 0
    · have hpast : n < 0 := hcounts.past.mpr hneg
      simp only [if_pos hpast, if_pos (Reading.isExpired_iff.mpr hneg), Reading.error, h.place]
      rfl
    · have hpast : ¬n < 0 := mt hcounts.past.mp hneg
      have hnonneg := not_lt.mp hneg
      have hhours : n = r.left now / Certificate.hourMicros := hcounts.within hnonneg hday
      simp only [if_neg hpast, if_neg (mt Reading.isExpired_iff.mp hneg),
        if_pos (Reading.isExpiring_iff.mpr ⟨hnonneg, hday⟩), Reading.notice, h.place, ← hhours]
  · have hneg : ¬r.left now < 0 := fun hneg => hday (hneg.trans_le (Int.natCast_nonneg _))
    rw [if_neg (mt hsoon.mp hday), if_neg (mt Reading.isExpired_iff.mp hneg),
      if_neg fun h => hday (Reading.isExpiring_iff.mp h).2]

theorem verdict_cons :
    verdict now (r :: rs) =
      if r.isExpired now then ([], .error r.error)
      else ((if r.isExpiring now then some (r.notice now) else none).toList ++ (verdict now rs).1,
        (verdict now rs).2) := by
  cases hexpired : r.isExpired now <;> cases hexpiring : r.isExpiring now <;>
    simp [verdict, hexpired, hexpiring]

theorem verdict_append :
    verdict now (rs ++ ss) =
      match verdict now rs with
      | (notices, .error e) => (notices, .error e)
      | (notices, .ok ()) => (notices ++ (verdict now ss).1, (verdict now ss).2) := by
  induction rs with
  | nil => rfl
  | cons r rs ih =>
    rw [List.cons_append, verdict_cons, verdict_cons, ih]
    split
    · rfl
    · rcases verdict now rs with ⟨notices, e | ⟨⟩⟩
      · rfl
      · simp only [List.append_assoc]

theorem checkCertificates_reads (h : List.Forall₂ (Reads now path) cs rs) :
    checkCertificates now path cs = verdict now rs := by
  induction h with
  | nil => rfl
  | @cons c r cs rs hr _ ih =>
    rw [checkCertificates, checkCertificate_reads hr, verdict_cons, ih]
    cases r.isExpired now <;> rfl

theorem verdict_raises : (∃ e, (verdict now rs).2 = .error e) ↔ ∃ r ∈ rs, r.expiry < now.micros := by
  have hfind : (rs.find? (·.isExpired now)).isSome = true ↔ ∃ r ∈ rs, r.expiry < now.micros := by
    simp only [List.find?_isSome, Reading.isExpired, decide_eq_true_iff]
  rw [← hfind, verdict]
  cases rs.find? (·.isExpired now) with
  | none => exact iff_of_false nofun nofun
  | some r => exact iff_of_true ⟨r.error, rfl⟩ rfl

variable {w : World} {k : Keystore}

theorem checkFile_of_ok (h : loadCertificates w.files path = .ok cs) :
    checkFile w path = checkCertificates w.now path cs := by
  unfold checkFile
  rw [h]

theorem checkFile_reads (hload : loadCertificates w.files path = .ok cs) (h : List.Forall₂ (Reads w.now path) cs rs) :
    checkFile w path = verdict w.now rs := (checkFile_of_ok hload).trans (checkCertificates_reads h)

theorem check_eq (w : World) (k : Keystore) :
    check w k =
      match checkFile w k.caCert with
      | (notices, .error e) => (notices, .error e)
      | (notices, .ok ()) => (notices ++ (checkFile w k.clientCert).1, (checkFile w k.clientCert).2) := by
  have hcons : ∀ path paths, checkFiles w (path :: paths) =
      match checkFile w path with
      | (notices, .error e) => (notices, .error e)
      | (notices, .ok ()) => (notices ++ (checkFiles w paths).1, (checkFiles w paths).2) := fun _ _ => rfl
  have hnil : checkFiles w [] = ([], .ok ()) := rfl
  have hclient : checkFiles w [k.clientCert] = checkFile w k.clientCert := by
    rw [hcons, hnil]
    rcases checkFile w k.clientCert with ⟨notices, e | ⟨⟩⟩
    · rfl
    · exact Prod.ext (List.append_nil notices) rfl
  change checkFiles w [k.caCert, k.clientCert] = _
  rw [hcons, hclient]

theorem check_raises (hload : loadCertificates w.files k.caCert = .ok cs)
    (h : List.Forall₂ (Reads w.now k.caCert) cs rs) (hexpired : ∃ r ∈ rs, r.expiry < w.now.micros) :
    check w k = verdict w.now rs := by
  obtain ⟨e, he⟩ := verdict_raises.mpr hexpired
  have hverdict : verdict w.now rs = ((verdict w.now rs).1, .error e) := Prod.ext rfl he
  rw [check_eq, checkFile_reads hload h, hverdict]

/-- The check goes through the certificates of both files in order. It announces those that expire within a day,
up to the first one that is expired, and after an expired one of the authorities it reads no other file. -/
theorem check_tells_expiry {ds : List Certificate} (hca : loadCertificates w.files k.caCert = .ok cs)
    (hclient : loadCertificates w.files k.clientCert = .ok ds) (hcs : List.Forall₂ (Reads w.now k.caCert) cs rs)
    (hds : List.Forall₂ (Reads w.now k.clientCert) ds ss) :
    check w k = verdict w.now (rs ++ ss) ∧
      ((∃ e, (check w k).2 = .error e) ↔ ∃ r ∈ rs ++ ss, r.expiry < w.now.micros) ∧
      ((∃ r ∈ rs, r.expiry < w.now.micros) → ∀ (files : FileTree) (clientCert : Path),
        loadCertificates files k.caCert = .ok cs →
          check ⟨files, w.now⟩ { k with clientCert } = check w k) := by
  have hcheck : check w k = verdict w.now (rs ++ ss) := by
    rw [check_eq, checkFile_reads hca hcs, checkFile_reads hclient hds, verdict_append]
  refine ⟨hcheck, hcheck ▸ verdict_raises, fun hexpired files clientCert hload => ?_⟩
  have hother : check ⟨files, w.now⟩ { k with clientCert } = verdict w.now rs := check_raises hload hcs hexpired
  exact hother.trans (check_raises hca hcs hexpired).symm

/-- What a certificate has to tell, if it can be read. -/
def seen? (c : Certificate) : Option (ℤ × Text) := do return (← c.expiry.toOption, ← c.subjectText.toOption)

theorem reads_of_seen? (files : FileTree) (path : Path) (seen : List (ℤ × Text))
    (h : (loadCertificates files path).toOption.map (·.map seen?) = some (seen.map some)) :
    ∃ cs, loadCertificates files path = .ok cs ∧
      ∀ now, List.Forall₂ (Reads now path) cs (seen.map fun s => ⟨path, s.1, s.2⟩) := by
  obtain ⟨cs, hcs, hseen⟩ := Option.map_eq_some_iff.mp h
  have hload : loadCertificates files path = .ok cs := by
    cases hresult : loadCertificates files path with
    | error e => rw [hresult] at hcs; cases hcs
    | ok ds => rw [hresult] at hcs; cases hcs; rfl
  refine ⟨cs, hload, fun now => ?_⟩
  have hforall : List.Forall₂ (fun c s => seen? c = some s) cs seen := by
    have hmaps : List.Forall₂ (· = ·) (cs.map seen?) (seen.map some) := hseen ▸ List.forall₂_refl _
    exact List.forall₂_map_right_iff.mp (List.forall₂_map_left_iff.mp hmaps)
  rw [List.forall₂_map_right_iff]
  refine hforall.imp fun c s hs => ?_
  simp only [seen?, Option.bind_eq_bind, Option.bind_eq_some_iff, Option.pure_def, Option.some.injEq] at hs
  obtain ⟨e, he, t, ht, rfl⟩ := hs
  have hok : ∀ {α : Type} {x : Except CertificateError α} {a : α}, x.toOption = some a → x = .ok a := by
    rintro α (e | b) a h
    · cases h
    · exact congrArg _ (Option.some.inj h)
  exact ⟨rfl, hok he, fun _ => hok ht⟩

end Verdict

/-- A certificate of CN=ed that expires when the year 2029 starts. -/
def edLines : List Text :=
  ["-----BEGIN CERTIFICATE-----", "MIHZMIGMoAMCAQICFB/dbqrpXeS+roHDaysLkDIZE0IhMAUGAytlcDANMQswCQYD",
    "VQQDDAJlZDAeFw0yMDAxMDEwMDAwMDBaFw0yOTAxMDEwMDAwMDBaMA0xCzAJBgNV",
    "BAMMAmVkMCowBQYDK2VwAyEAtRsDY3tbCZe/28N5goJ8YiRcS2R2FtdTFvC1zDBe",
    "zG0wBQYDK2VwA0EAM9CgjO4GDdl8vlBKwEUOjWwaz9VXXqf+ckdDDl3ZKKvK+NQi",
    "LHNyeBdHFx1g5CS9vaMhMvEMMJ1ytwJqziPOBA==", "-----END CERTIFICATE-----"]

/-- A certificate of CN=mo that expires twelve hours earlier. -/
def moLines : List Text :=
  ["-----BEGIN CERTIFICATE-----", "MIHZMIGMoAMCAQICFB/dbqrpXeS+roHDaysLkDIZE0IhMAUGAytlcDANMQswCQYD",
    "VQQDDAJtbzAeFw0yMDAxMDEwMDAwMDBaFw0yODEyMzExMjAwMDBaMA0xCzAJBgNV",
    "BAMMAm1vMCowBQYDK2VwAyEAtRsDY3tbCZe/28N5goJ8YiRcS2R2FtdTFvC1zDBe",
    "zG0wBQYDK2VwA0EAM9CgjO4GDdl8vlBKwEUOjWwaz9VXXqf+ckdDDl3ZKKvK+NQi",
    "LHNyeBdHFx1g5CS9vaMhMvEMMJ1ytwJqziPOBA==", "-----END CERTIFICATE-----"]

/-- The authorities have two certificates, and the client one. -/
def edTree : FileTree :=
  ⟨.ofText "/h", [([Utf8.encode "a"], .bytes (Utf8.encode (Text.join "\n" (edLines ++ moLines)))),
    ([Utf8.encode "b"], .bytes (Utf8.encode (Text.join "\n" edLines)))]⟩

def edKeystore : Keystore := ⟨.ofText "/h/a", .ofText "/h/b", .ofText "/h/c", true⟩

def edExpiry : ℕ := 63997516800000000

def moExpiry : ℕ := 63997473600000000

def authorityReadings : List Reading :=
  [⟨edKeystore.caCert, edExpiry, "CN=ed"⟩, ⟨edKeystore.caCert, moExpiry, "CN=mo"⟩]

def clientReadings : List Reading := [⟨edKeystore.clientCert, edExpiry, "CN=ed"⟩]

set_option maxRecDepth 4000 in
theorem edTree_loads_authorities : ∃ cs, loadCertificates edTree edKeystore.caCert = .ok cs ∧
    ∀ now, List.Forall₂ (Reads now edKeystore.caCert) cs authorityReadings := by
  refine reads_of_seen? edTree edKeystore.caCert [(edExpiry, "CN=ed"), (moExpiry, "CN=mo")] ?_
  rw [edTree, edLines, moLines]
  repeat rw [Text.ofString_ofList]
  decide +kernel

set_option maxRecDepth 4000 in
theorem edTree_loads_client : ∃ ds, loadCertificates edTree edKeystore.clientCert = .ok ds ∧
    ∀ now, List.Forall₂ (Reads now edKeystore.clientCert) ds clientReadings := by
  refine reads_of_seen? edTree edKeystore.clientCert [(edExpiry, "CN=ed")] ?_
  rw [edTree, edLines, moLines]
  repeat rw [Text.ofString_ofList]
  decide +kernel

/-- A microsecond before a whole day is left to the first certificate; a microsecond after the expiry of the
second one, when the first is still announced; and a microsecond after that of the first, which is blamed. -/
theorem check_tells_expiry_at_the_bounds :
    ∃ cs ds, loadCertificates edTree edKeystore.caCert = .ok cs ∧ loadCertificates edTree edKeystore.clientCert = .ok ds ∧
      (∀ now, List.Forall₂ (Reads now edKeystore.caCert) cs authorityReadings ∧
        List.Forall₂ (Reads now edKeystore.clientCert) ds clientReadings) ∧
      check ⟨edTree, edExpiry - dayMicros + 1, by decide⟩ edKeystore =
        ([.expiring "CN=ed" edKeystore.caCert 23, .expiring "CN=mo" edKeystore.caCert 11,
          .expiring "CN=ed" edKeystore.clientCert 23], .ok ()) ∧
      check ⟨edTree, moExpiry + 1, by decide⟩ edKeystore =
        ([.expiring "CN=ed" edKeystore.caCert 11],
          .error (.configuration (.expired "CN=mo" edKeystore.caCert))) ∧
      check ⟨edTree, edExpiry + 1, by decide⟩ edKeystore =
        ([], .error (.configuration (.expired "CN=ed" edKeystore.caCert))) := by
  obtain ⟨cs, hca, hcs⟩ := edTree_loads_authorities
  obtain ⟨ds, hclient, hds⟩ := edTree_loads_client
  refine ⟨cs, ds, hca, hclient, fun now => ⟨hcs now, hds now⟩, ?_, ?_, ?_⟩
  · exact (check_tells_expiry (w := ⟨edTree, edExpiry - dayMicros + 1, by decide⟩) hca hclient (hcs _) (hds _)).1.trans rfl
  · exact (check_tells_expiry (w := ⟨edTree, moExpiry + 1, by decide⟩) hca hclient (hcs _) (hds _)).1.trans rfl
  · exact (check_tells_expiry (w := ⟨edTree, edExpiry + 1, by decide⟩) hca hclient (hcs _) (hds _)).1.trans rfl

end TrustMaterial

end ClusterHarness
