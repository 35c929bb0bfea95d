import ClusterHarness.Proofs.Ingestion.Polling
import ClusterHarness.Proofs.Http.Reply
import Mathlib.Logic.Function.Iterate

/-!
What the waiting for a document decides, told from the replies to its searches and refreshes. The first
search that shows the document confirms it, the first failure ends the waiting, and when all rounds are
in vain the waiting is given up. An interval that nobody can wait for leaves one round.
-/

namespace ClusterHarness

open Http Time ClusterHarness.Action

namespace Visibility

/-- A reply to a search: its hits may be missing or null, or a list of objects. -/
inductive IsSearchReply : Json → Prop
  | noPart {fields : Fields Json} : (Fields.get? "hits" fields).getD .null = .null → IsSearchReply (.obj fields)
  | noHits {fields part : Fields Json} : Fields.get? "hits" fields = some (.obj part) →
      (Fields.get? "hits" part).getD .null = .null → IsSearchReply (.obj fields)
  | listed {fields part : Fields Json} {found : List (Fields Json)} :
      Fields.get? "hits" fields = some (.obj part) →
      Fields.get? "hits" part = some (.arr (found.map .obj)) → IsSearchReply (.obj fields)

theorem isDocument_total (id : Text) (found : List (Fields Json)) :
    ∃ visible, isDocument id (.arr (found.map .obj)) = .ok visible := by
  rcases found with _ | ⟨hit, _ | ⟨other, more⟩⟩
  · exact ⟨_, rfl⟩
  · exact ⟨_, rfl⟩
  · exact ⟨_, rfl⟩

theorem IsSearchReply.hits_total {v : Json} (h : IsSearchReply v) (id : Text) :
    ∃ part visible, hits v = .ok part ∧ isDocument id part = .ok visible := by
  have hnone : isDocument id .null = .ok false := rfl
  cases h with
  | @noPart fields hpart =>
    have hmember : (Json.obj fields).member "hits" = .ok .null := Json.member_eq_ok.mpr ⟨_, rfl, hpart⟩
    exact ⟨.null, false, hits_eq_ok.mpr ⟨.null, hmember, .inl ⟨rfl, rfl⟩⟩, hnone⟩
  | @noHits fields part hpart hhits =>
    have houter : (Json.obj fields).member "hits" = .ok (.obj part) :=
      Json.member_eq_ok.mpr ⟨_, rfl, by rw [hpart, Option.getD_some]⟩
    have hinner : (Json.obj part).member "hits" = .ok .null := Json.member_eq_ok.mpr ⟨_, rfl, hhits⟩
    exact ⟨.null, false, hits_eq_ok.mpr ⟨.obj part, houter, .inr ⟨nofun, hinner⟩⟩, hnone⟩
  | @listed fields part found hpart hhits =>
    obtain ⟨visible, hvisible⟩ := isDocument_total id found
    have hholds : HoldsHits (.obj fields) (found.map .obj) := ⟨fields, part, rfl, hpart, hhits⟩
    exact ⟨_, visible, hholds.hits, hvisible⟩

theorem IsSearchReply.decides {v : Json} (h : IsSearchReply v) (id : Text) :
    ∃ part visible, hits v = .ok part ∧ isDocument id part = .ok visible ∧
      (visible = true ↔ Confirms id v) := by
  obtain ⟨part, visible, hpart, hvisible⟩ := h.hits_total id
  refine ⟨part, visible, hpart, hvisible, ?_⟩
  rw [confirms_iff]
  constructor
  · rintro rfl
    exact ⟨part, hpart, hvisible⟩
  · rintro ⟨found, hfound, htrue⟩
    rw [hpart, Except.ok.injEq] at hfound
    subst hfound
    rw [hvisible, Except.ok.injEq] at htrue
    exact htrue

theorem Confirms.isSearchReply {id : Text} {v : Json} (h : Confirms id v) : IsSearchReply v := by
  obtain ⟨fields, part, hit, rfl, hpart, hhits, -⟩ := h
  have hlist : Fields.get? "hits" part = some (.arr ([hit].map .obj)) := hhits
  exact .listed hpart hlist

variable {σ : Type}

section Supply

variable (c : Client σ) (index : Text) (pause : Seconds) (s : Session σ) (n : Nat)

def searchRun : Except Failure Json × Session σ := (c.json (latestRequest index) none).run s

def refreshRun : Except Failure Json × Session σ :=
  (c.json (refreshRequest index) none).run (searchRun c index s).2

def nextRound : Session σ :=
  { (refreshRun c index s).2 with trace := (refreshRun c index s).2.trace ++ [.sleep pause] }

/-- The session in which a search is made after so many vain rounds. -/
def roundStart : Session σ := (nextRound c index pause)^[n] s

def searchReply : Except Failure Json := (searchRun c index (roundStart c index pause s n)).1

def refreshReply : Except Failure Json := (refreshRun c index (roundStart c index pause s n)).1

end Supply

section Rounds

variable (c : Client σ) (index id : Text) (pause : Seconds) (s : Session σ) (n : Nat)

def Confirming : Prop := ∃ v, searchReply c index pause s n = .ok v ∧ Confirms id v

def Missing : Prop := ∃ v, searchReply c index pause s n = .ok v ∧ IsSearchReply v ∧ ¬Confirms id v

def Vain : Prop := Missing c index id pause s n ∧ ∃ w, refreshReply c index pause s n = .ok w

def Reached : Prop := ∀ i < n, Vain c index id pause s i

end Rounds

variable {c : Client σ} {index id : Text} {pause : Seconds} {s : Session σ}

theorem searchRun_eq {x : Except Failure Json} (h : (searchRun c index s).1 = x) :
    (c.json (latestRequest index) none).run s = (x, (searchRun c index s).2) := by
  rw [← h]
  rfl

theorem search_decides {v : Json} (h : (searchRun c index s).1 = .ok v) (hreply : IsSearchReply v) (id : Text) :
    ∃ visible, (visible = true ↔ Confirms id v) ∧ (attempt c index id).run s =
      (if visible = true then pure true else do
        let _ ← c.json (refreshRequest index) none
        return false : Action σ Bool).run (searchRun c index s).2 := by
  obtain ⟨part, visible, hpart, hdocument, hvisible⟩ := hreply.decides id
  have hsearch : (search c index Dataset.latestDocumentQuery).run s =
      (.ok part, (searchRun c index s).2) := by
    refine (run_bind_ok (searchRun_eq h) _).trans ?_
    rw [hpart]
    rfl
  refine ⟨visible, hvisible, ?_⟩
  rw [attempt, run_bind_ok hsearch, hdocument]
  rfl

theorem attempt_seen {v : Json} (h : (searchRun c index s).1 = .ok v) (hconfirms : Confirms id v) :
    (attempt c index id).run s = (.ok true, (searchRun c index s).2) := by
  obtain ⟨visible, hvisible, hrun⟩ := search_decides h hconfirms.isSearchReply id
  rw [hrun, if_pos (hvisible.mpr hconfirms)]
  rfl

theorem attempt_unseen {v : Json} (h : (searchRun c index s).1 = .ok v) (hreply : IsSearchReply v)
    (hnot : ¬Confirms id v) : (attempt c index id).run s =
      ((refreshRun c index s).1.map fun _ => false, (refreshRun c index s).2) := by
  obtain ⟨visible, hvisible, hrun⟩ := search_decides h hreply id
  rw [hrun, if_neg (mt hvisible.mp hnot), run_bind]
  unfold refreshRun
  rcases (c.json (refreshRequest index) none).run (searchRun c index s).2 with ⟨e | w, t⟩ <;> rfl

theorem attempt_searchFailed {e : Failure} (h : (searchRun c index s).1 = .error e) (id : Text) :
    (attempt c index id).run s = (.error e, (searchRun c index s).2) := by
  have hsearch : (search c index Dataset.latestDocumentQuery).run s =
      (.error e, (searchRun c index s).2) := by
    change (c.json (latestRequest index) none >>= _).run s = _
    rw [run_bind, searchRun_eq h]
  rw [attempt, run_bind, hsearch]

theorem searchRun_takes (c : Client σ) (index : Text) (s : Session σ) :
    Takes c s [.json (latestRequest index) none] (searchRun c index s).2 :=
  .ofJson rfl

theorem refreshRun_takes (c : Client σ) (index : Text) (s : Session σ) :
    Takes c s [.json (latestRequest index) none, .json (refreshRequest index) none]
      (refreshRun c index s).2 :=
  (searchRun_takes c index s).append (.ofJson rfl)

theorem Vain.attempt_run (h : Vain c index id pause s 0) :
    (attempt c index id).run s = (.ok false, (refreshRun c index s).2) := by
  obtain ⟨⟨v, hv, hreply, hnot⟩, w, hw⟩ := h
  have hsearch : (searchRun c index s).1 = .ok v := hv
  have hrefresh : (refreshRun c index s).1 = .ok w := hw
  rw [attempt_unseen hsearch hreply hnot, hrefresh]
  rfl

theorem Missing.not_confirming {n : Nat} (h : Missing c index id pause s n) :
    ¬Confirming c index id pause s n := by
  rintro ⟨v, hv, hconfirms⟩
  obtain ⟨w, hw, -, hnot⟩ := h
  rw [hv, Except.ok.injEq] at hw
  exact hnot (hw ▸ hconfirms)

theorem Reached.attempts_run {more n : Nat} (hpauses : 0 < n → pause.IsPause)
    (h : Reached c index id pause s n) :
    (attempts c index id pause (more + n)).run s =
      (attempts c index id pause more).run (roundStart c index pause s n) := by
  -- on the vain rounds, the first of which is taken off and leaves the session that the others begin in
  induction n generalizing s with
  | zero => rfl
  | succ n ih =>
    have hfirst := (h 0 n.succ_pos).attempt_run
    have hrest : Reached c index id pause (nextRound c index pause s) n := fun i hi =>
      h (i + 1) (Nat.succ_lt_succ hi)
    rw [← Nat.add_assoc, attempts_next (hpauses n.succ_pos) hfirst]
    exact ih (fun _ => hpauses n.succ_pos) hrest

theorem roundStart_takes (c : Client σ) (index : Text) (s : Session σ) {n : Nat}
    (hpauses : 0 < n → pause.IsPause) :
    Takes c s (vainRounds index pause n) (roundStart c index pause s n) := by
  induction n generalizing s with
  | zero => exact ⟨[], .done s, rfl⟩
  | succ n ih =>
    have hpause := hpauses n.succ_pos
    exact ((refreshRun_takes c index s).append (.ofSleep c _ hpause)).append
      (ih (nextRound c index pause s) fun _ => hpause)

theorem confirming_or_reached {m : Nat} (h : ∀ n < m, Reached c index id pause s n →
      Confirming c index id pause s n ∨ Vain c index id pause s n) :
    (∃ n < m, Reached c index id pause s n ∧ Confirming c index id pause s n) ∨
      Reached c index id pause s m := by
  induction m with
  | zero => exact .inr fun i hi => absurd hi (Nat.not_lt_zero i)
  | succ m ih =>
    rcases ih fun n hn => h n (Nat.lt_succ_of_lt hn) with ⟨n, hn, hfirst⟩ | hreached
    · exact .inl ⟨n, Nat.lt_succ_of_lt hn, hfirst⟩
    · rcases h m m.lt_succ_self hreached with hconfirming | hvain
      · exact .inl ⟨m, m.lt_succ_self, hreached, hconfirming⟩
      · refine .inr fun i hi => ?_
        rcases Nat.lt_succ_iff_lt_or_eq.mp hi with hlt | rfl
        · exact hreached i hlt
        · exact hvain

/-- The attempts that so many cycles allow: one at least. -/
def budget (cycles : Int) : Nat := (max 1 (cycles + 1)).toNat

theorem budget_eq (cycles : Int) : budget cycles = cycles.toNat + 1 := by
  unfold budget
  omega

theorem attempts_ended {r : Except Failure Bool} {t : Session σ} (h : (attempt c index id).run s = (r, t))
    (hr : r ≠ .ok false) (more : Nat) : (attempts c index id pause more).run s = (r, t) := by
  cases more with
  | zero => exact h
  | succ more =>
    rw [attempts, run_bind, h]
    rcases r with e | _ | _
    · rfl
    · exact absurd rfl hr
    · rfl

theorem Reached.attempts_ended {r : Except Failure Bool} {t : Session σ} {n more : Nat}
    (hpauses : 0 < n → pause.IsPause) (h : Reached c index id pause s n) (hn : n ≤ more)
    (hround : (attempt c index id).run (roundStart c index pause s n) = (r, t)) (hr : r ≠ .ok false) :
    (attempts c index id pause more).run s = (r, t) := by
  obtain ⟨left, rfl⟩ := Nat.exists_eq_add_of_le' hn
  rw [h.attempts_run hpauses]
  exact Visibility.attempts_ended hround hr left

theorem Reached.attempts_exhausted {more : Nat} (hpauses : 0 < more → pause.IsPause)
    (h : Reached c index id pause s (more + 1)) :
    (attempts c index id pause more).run s =
      (.ok false, (refreshRun c index (roundStart c index pause s more)).2) := by
  have hreached : Reached c index id pause s more := fun i hi => h i (Nat.lt_succ_of_lt hi)
  have hlast : Vain c index id pause (roundStart c index pause s more) 0 := h more more.lt_succ_self
  have hrun : (attempts c index id pause (0 + more)).run s =
      (attempt c index id).run (roundStart c index pause s more) := hreached.attempts_run hpauses
  rw [Nat.zero_add] at hrun
  exact hrun.trans hlast.attempt_run

theorem await_run {expected cycles : Int} {interval : Seconds} (hpause : pauseOf interval = .ok pause) :
    (await c expected index cycles interval).run s =
      match (attempts c index (Text.ofInt (expected - 1)) pause cycles.toNat).run s with
      | (.ok true, t) => (.ok .confirmed, t)
      | (.ok false, t) => (.ok .exhausted, { t with trace := t.trace ++
          [.log .error (exhaustedNote (Text.ofInt (expected - 1)) index cycles)] })
      | (.error e, t) => (.error e, t) := by
  rw [await, hpause]
  change (attempts c index _ pause cycles.toNat >>= _).run s = _
  rw [run_bind]
  rcases (attempts c index (Text.ofInt (expected - 1)) pause cycles.toNat).run s with ⟨e | _ | _, t⟩ <;> rfl

section Decision

variable (c : Client σ) (expected : Int) (index : Text) (cycles : Int) (interval : Seconds) (s : Session σ)

def Ends (r : Except Failure PollOutcome) (moves : List Move) : Prop :=
  ∃ t, (await c expected index cycles interval).run s = (r, t) ∧ Takes c s moves t

/-- How the waiting ends, told from what the far side has in store for its rounds, if one can wait between
them. -/
structure Decision (id : Text) (pause : Seconds) : Prop where
  confirmed : ∀ n < budget cycles, Reached c index id pause s n → Confirming c index id pause s n →
    Ends c expected index cycles interval s (.ok .confirmed)
      (vainRounds index pause n ++ [.json (latestRequest index) none])
  exhausted : Reached c index id pause s (budget cycles) →
    Ends c expected index cycles interval s (.ok .exhausted)
      (vainRounds index pause (budget cycles - 1) ++
        [.json (latestRequest index) none, .json (refreshRequest index) none] ++
          [.log .error (exhaustedNote id index cycles)])
  searchFailed : ∀ n < budget cycles, Reached c index id pause s n →
    ∀ e, searchReply c index pause s n = .error e → Ends c expected index cycles interval s (.error e)
      (vainRounds index pause n ++ [.json (latestRequest index) none])
  refreshFailed : ∀ n < budget cycles, Reached c index id pause s n → Missing c index id pause s n →
    ∀ e, refreshReply c index pause s n = .error e → Ends c expected index cycles interval s (.error e)
      (vainRounds index pause n ++ [.json (latestRequest index) none, .json (refreshRequest index) none])
  verdict : (∀ n < budget cycles, Reached c index id pause s n →
      Confirming c index id pause s n ∨ Vain c index id pause s n) →
    (((await c expected index cycles interval).run s).1 = .ok .confirmed ↔
      ∃ n < budget cycles, Confirming c index id pause s n) ∧
    (((await c expected index cycles interval).run s).1 = .ok .exhausted ↔
      ∀ n < budget cycles, ¬Confirming c index id pause s n)

/-- How the waiting ends if nobody can wait for the pause: with the first round, even where it was in vain and
more are allowed. -/
structure BrokenOff (id : Text) (pause : Seconds) (e : PauseError) : Prop where
  confirmed : Confirming c index id pause s 0 → Ends c expected index cycles interval s (.ok .confirmed)
    [.json (latestRequest index) none]
  searchFailed : ∀ d, searchReply c index pause s 0 = .error d →
    Ends c expected index cycles interval s (.error d) [.json (latestRequest index) none]
  refreshFailed : Missing c index id pause s 0 → ∀ d, refreshReply c index pause s 0 = .error d →
    Ends c expected index cycles interval s (.error d)
      [.json (latestRequest index) none, .json (refreshRequest index) none]
  exhausted : Vain c index id pause s 0 → budget cycles = 1 →
    Ends c expected index cycles interval s (.ok .exhausted)
      [.json (latestRequest index) none, .json (refreshRequest index) none,
        .log .error (exhaustedNote id index cycles)]
  broken : Vain c index id pause s 0 → 1 < budget cycles →
    Ends c expected index cycles interval s (.error (.pause e))
      [.json (latestRequest index) none, .json (refreshRequest index) none]

end Decision

section Ends

variable {expected cycles : Int} {interval : Seconds} {n : Nat}

/-- A round that is not in vain ends the waiting. -/
theorem Reached.ends {r : Except Failure Bool} {t : Session σ} {moves : List Move}
    (hreached : Reached c index (Text.ofInt (expected - 1)) pause s n) (hpause : pauseOf interval = .ok pause)
    (hn : n < budget cycles) (hpauses : 0 < n → pause.IsPause)
    (hround : (attempt c index (Text.ofInt (expected - 1))).run (roundStart c index pause s n) = (r, t))
    (hr : r ≠ .ok false) (htakes : Takes c (roundStart c index pause s n) moves t) :
    Ends c expected index cycles interval s (r.map fun _ => .confirmed) (vainRounds index pause n ++ moves) := by
  rw [budget_eq] at hn
  have hrun := hreached.attempts_ended hpauses (Nat.le_of_lt_succ hn) hround hr
  refine ⟨t, ?_, (roundStart_takes c index s hpauses).append htakes⟩
  rw [await_run hpause, hrun]
  rcases r with e | _ | _
  · rfl
  · exact absurd rfl hr
  · rfl

theorem ends_confirmed (hpause : pauseOf interval = .ok pause) (hn : n < budget cycles)
    (hpauses : 0 < n → pause.IsPause) (hreached : Reached c index (Text.ofInt (expected - 1)) pause s n)
    (h : Confirming c index (Text.ofInt (expected - 1)) pause s n) :
    Ends c expected index cycles interval s (.ok .confirmed)
      (vainRounds index pause n ++ [.json (latestRequest index) none]) := by
  obtain ⟨v, hv, hconfirms⟩ := h
  exact hreached.ends hpause hn hpauses (attempt_seen hv hconfirms) nofun (searchRun_takes c index _)

theorem ends_exhausted (hpause : pauseOf interval = .ok pause)
    (hpauses : 1 < budget cycles → pause.IsPause)
    (hreached : Reached c index (Text.ofInt (expected - 1)) pause s (budget cycles)) :
    Ends c expected index cycles interval s (.ok .exhausted)
      (vainRounds index pause (budget cycles - 1) ++
        [.json (latestRequest index) none, .json (refreshRequest index) none] ++
          [.log .error (exhaustedNote (Text.ofInt (expected - 1)) index cycles)]) := by
  rw [budget_eq] at hreached hpauses ⊢
  have hmore : 0 < cycles.toNat → pause.IsPause := fun h => hpauses (Nat.succ_lt_succ h)
  have hrun := hreached.attempts_exhausted hmore
  have hmoves := (roundStart_takes c index s hmore).append (refreshRun_takes c index _)
  refine ⟨_, ?_, hmoves.append (.ofLog c _ .error _)⟩
  rw [await_run hpause, hrun]

theorem ends_searchFailed (hpause : pauseOf interval = .ok pause) (hn : n < budget cycles)
    (hpauses : 0 < n → pause.IsPause) (hreached : Reached c index (Text.ofInt (expected - 1)) pause s n) {e : Failure}
    (h : searchReply c index pause s n = .error e) :
    Ends c expected index cycles interval s (.error e)
      (vainRounds index pause n ++ [.json (latestRequest index) none]) :=
  hreached.ends hpause hn hpauses (attempt_searchFailed h _) nofun (searchRun_takes c index _)

theorem ends_refreshFailed (hpause : pauseOf interval = .ok pause) (hn : n < budget cycles)
    (hpauses : 0 < n → pause.IsPause) (hreached : Reached c index (Text.ofInt (expected - 1)) pause s n)
    (hmissing : Missing c index (Text.ofInt (expected - 1)) pause s n) {e : Failure}
    (h : refreshReply c index pause s n = .error e) :
    Ends c expected index cycles interval s (.error e)
      (vainRounds index pause n ++ [.json (latestRequest index) none, .json (refreshRequest index) none]) := by
  obtain ⟨v, hv, hreply, hnot⟩ := hmissing
  have hrefresh : (refreshRun c index (roundStart c index pause s n)).1 = .error e := h
  have hround := attempt_unseen hv hreply hnot
  rw [hrefresh] at hround
  exact hreached.ends hpause hn hpauses hround nofun (refreshRun_takes c index _)

theorem ends_broken {e : PauseError} (hpause : pauseOf interval = .ok pause)
    (hbroken : pause.pauseError? = some e) (hvain : Vain c index (Text.ofInt (expected - 1)) pause s 0)
    (hmany : 1 < budget cycles) :
    Ends c expected index cycles interval s (.error (.pause e))
      [.json (latestRequest index) none, .json (refreshRequest index) none] := by
  rw [budget_eq] at hmany
  obtain ⟨more, hmore⟩ := Nat.exists_eq_succ_of_ne_zero (by omega : cycles.toNat ≠ 0)
  refine ⟨_, ?_, refreshRun_takes c index s⟩
  rw [await_run hpause, hmore, attempts_broken hbroken hvain.attempt_run]

end Ends

theorem decision_of_pause {expected cycles : Int} {interval : Seconds} (hpause : pauseOf interval = .ok pause)
    (htaken : pause.IsPause) :
    Decision c expected index cycles interval s (Text.ofInt (expected - 1)) pause := by
  refine ⟨fun n hn => ends_confirmed hpause hn fun _ => htaken, ends_exhausted hpause fun _ => htaken,
    fun n hn hreached e => ends_searchFailed hpause hn (fun _ => htaken) hreached,
    fun n hn hreached hmissing e => ends_refreshFailed hpause hn (fun _ => htaken) hreached hmissing,
    fun hanswered => ?_⟩
  rcases confirming_or_reached hanswered with ⟨n, hn, hreached, hconfirming⟩ | hreached
  · obtain ⟨t, hrun, -⟩ := ends_confirmed hpause hn (fun _ => htaken) hreached hconfirming
    rw [hrun]
    refine ⟨⟨fun _ => ⟨n, hn, hconfirming⟩, fun _ => rfl⟩, nofun, fun hnone => ?_⟩
    exact absurd hconfirming (hnone n hn)
  · obtain ⟨t, hrun, -⟩ := ends_exhausted hpause (fun _ => htaken) hreached
    have hnone : ∀ n < budget cycles, ¬Confirming c index (Text.ofInt (expected - 1)) pause s n :=
      fun n hn => (hreached n hn).1.not_confirming
    rw [hrun]
    refine ⟨⟨nofun, ?_⟩, fun _ => hnone, fun _ => rfl⟩
    rintro ⟨n, hn, hconfirming⟩
    exact absurd hconfirming (hnone n hn)

theorem brokenOff_of_pauseError {expected cycles : Int} {interval : Seconds} {e : PauseError}
    (hpause : pauseOf interval = .ok pause) (hbroken : pause.pauseError? = some e) :
    BrokenOff c expected index cycles interval s (Text.ofInt (expected - 1)) pause e := by
  have hfirst : 0 < budget cycles := by
    rw [budget_eq]
    exact Nat.succ_pos _
  have hnone : Reached c index (Text.ofInt (expected - 1)) pause s 0 := fun i hi => absurd hi (Nat.not_lt_zero i)
  have hpauses : 0 < 0 → pause.IsPause := fun h => absurd h (Nat.lt_irrefl 0)
  refine ⟨ends_confirmed hpause hfirst hpauses hnone, fun d => ends_searchFailed hpause hfirst hpauses hnone,
    fun hmissing d => ends_refreshFailed hpause hfirst hpauses hnone hmissing, fun hvain hone => ?_,
    ends_broken hpause hbroken⟩
  have hreached : Reached c index (Text.ofInt (expected - 1)) pause s (budget cycles) := by
    intro i hi
    obtain rfl : i = 0 := by omega
    exact hvain
  have hends := ends_exhausted hpause (fun h => absurd hone (Nat.ne_of_gt h)) hreached
  rw [hone] at hends
  exact hends

/-- The first search that shows the document confirms it, the first failure ends the waiting, and when
every round that the cycles allow is in vain, the waiting is given up. If nobody can wait between two rounds,
the waiting is broken off after the first one. -/
theorem await_decides (c : Client σ) (expected : Int) (index : Text) (cycles : Int) (interval : Seconds)
    (s : Session σ) :
    match pauseOf interval with
    | .ok pause =>
      match pause.pauseError? with
      | none => Decision c expected index cycles interval s (Text.ofInt (expected - 1)) pause
      | some e => BrokenOff c expected index cycles interval s (Text.ofInt (expected - 1)) pause e
    | .error e => (await c expected index cycles interval).run s = (.error e, s) := by
  cases hpause : pauseOf interval with
  | error e =>
    rw [await, hpause]
    rfl
  | ok pause =>
    cases hbroken : pause.pauseError? with
    | none =>
      simp only [hbroken]
      exact decision_of_pause hpause hbroken
    | some e =>
      simp only [hbroken]
      exact brokenOff_of_pauseError hpause hbroken

def showing (id : Text) : Fields Json := [("hits", .obj [("hits", .arr [.obj [("_id", .str id)]])])]

theorem showing_confirms (id : Text) : Confirms id (.obj (showing id)) := ⟨_, _, _, rfl, rfl, rfl, rfl⟩

theorem id_of_showing {id other : Text} (h : Confirms id (.obj (showing other))) : other = id := by
  obtain ⟨fields, part, hit, hfields, hpart, hhits, hid⟩ := h
  cases hfields
  cases hpart
  cases hhits
  exact hid

def late : List Outcome := [.response (.holding (.obj (showing "6"))), .response (.holding (.obj [])),
  .response (.holding (.obj (showing "7")))]

theorem late_rounds (pause : Seconds) :
    Vain ⟨threeHosts, scripted⟩ "rule" "7" pause ⟨0, late, []⟩ 0 ∧
      Confirming ⟨threeHosts, scripted⟩ "rule" "7" pause ⟨0, late, []⟩ 1 := by
  have hosts : 0 < (Client.baseUrls ⟨threeHosts, scripted⟩).length := by decide
  obtain ⟨t, hsearch, ht⟩ := Client.json_scripted hosts (latestRequest_consists "rule").target
    (v := .obj (showing "6")) ⟨by decide, by decide⟩ (s := ⟨0, late, []⟩) rfl
  obtain ⟨u, hrefresh, hu⟩ := Client.json_scripted hosts (refreshRequest_consists "rule").target
    (v := .obj []) ⟨by decide, by decide⟩ ht
  obtain ⟨w, hagain, -⟩ := Client.json_scripted hosts (latestRequest_consists "rule").target
    (v := .obj (showing "7")) ⟨by decide, by decide⟩ (s := { u with trace := u.trace ++ [.sleep pause] }) hu
  have hfirst : searchRun ⟨threeHosts, scripted⟩ "rule" ⟨0, late, []⟩ = (.ok (.obj (showing "6")), t) :=
    hsearch
  have hrefreshed : refreshRun ⟨threeHosts, scripted⟩ "rule" ⟨0, late, []⟩ = (.ok (.obj []), u) := by
    rw [refreshRun, hfirst]
    exact hrefresh
  constructor
  · refine ⟨⟨_, congrArg Prod.fst hfirst, (showing_confirms "6").isSearchReply, fun h => ?_⟩, _,
      congrArg Prod.fst hrefreshed⟩
    exact absurd (id_of_showing h) (by decide)
  · refine ⟨.obj (showing "7"), ?_, showing_confirms "7"⟩
    change (searchRun _ _ (nextRound _ _ _ _)).1 = _
    rw [nextRound, hrefreshed]
    exact congrArg Prod.fst hagain

/-- Another document is found first, and the one that is waited for after a refresh. -/
theorem await_decides_late : Ends ⟨threeHosts, scripted⟩ 8 "rule" 1 defaultInterval ⟨0, late, []⟩
    (.ok .confirmed) (vainRounds "rule" defaultInterval 1 ++ [.json (latestRequest "rule") none]) := by
  have hdecision : ∀ interval pause, pauseOf interval = .ok pause → pause.IsPause →
      Decision ⟨threeHosts, scripted⟩ 8 "rule" 1 interval ⟨0, late, []⟩ "7" pause := by
    intro interval pause hinterval hpause
    have hdecides := await_decides ⟨threeHosts, scripted⟩ 8 "rule" 1 interval ⟨0, late, []⟩
    rw [hinterval] at hdecides
    simp only [show pause.pauseError? = none from hpause] at hdecides
    exact hdecides
  obtain ⟨hvain, hconfirming⟩ := late_rounds defaultInterval
  refine (hdecision _ _ rfl (by decide +kernel)).confirmed 1 (by decide) (fun i hi => ?_) hconfirming
  obtain rfl := Nat.lt_one_iff.mp hi
  exact hvain

/-- A negative second, as a pause. -/
def backwards : Seconds := .fraction (.ofRatio true 1 1)

/-- The document that is waited for is found by the second search, or even by the first one, and still the
waiting fails: nobody waits backwards, and a whole number can be too large for a floating one. -/
theorem unusable_intervals_confirm_nothing :
    (Confirming ⟨threeHosts, scripted⟩ "rule" "7" backwards ⟨0, late, []⟩ 1 ∧
      Ends ⟨threeHosts, scripted⟩ 8 "rule" 1 (.whole (-1)) ⟨0, late, []⟩ (.error (.pause .negative))
        [.json (latestRequest "rule") none, .json (refreshRequest "rule") none]) ∧
    ((∀ pause, Confirming ⟨threeHosts, scripted⟩ "rule" "7" pause
        ⟨0, [.response (.holding (.obj (showing "7")))], []⟩ 0) ∧
      Ends ⟨threeHosts, scripted⟩ 8 "rule" 1 (.whole (10 ^ 400))
        ⟨0, [.response (.holding (.obj (showing "7")))], []⟩ (.error .numberTooLarge) []) := by
  refine ⟨⟨(late_rounds backwards).2, ?_⟩, fun pause => ⟨.obj (showing "7"), ?_, showing_confirms "7"⟩, ?_⟩
  · have hminus : (Seconds.whole (-1)).toBinary64? = some (.ofRatio true 1 1) := by decide +kernel
    have hinterval : pauseOf (.whole (-1)) = .ok backwards := by
      rw [pauseOf, hminus]
      rfl
    exact ends_broken hinterval (by decide) (late_rounds backwards).1 (by decide)
  · have hosts : 0 < (Client.baseUrls ⟨threeHosts, scripted⟩).length := by decide
    obtain ⟨t, hsearch, -⟩ := Client.json_scripted hosts (latestRequest_consists "rule").target
      (v := .obj (showing "7")) ⟨by decide, by decide⟩
      (s := ⟨0, [.response (.holding (.obj (showing "7")))], []⟩) rfl
    exact congrArg Prod.fst hsearch
  · have hlarge : (Seconds.whole (10 ^ 400)).toBinary64? = none := by decide +kernel
    have hinterval : pauseOf (.whole (10 ^ 400)) = .error .numberTooLarge := by rw [pauseOf, hlarge]
    refine ⟨_, ?_, [], .done _, rfl⟩
    rw [await, hinterval]
    rfl

end Visibility

end ClusterHarness
