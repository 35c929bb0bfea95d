import ClusterHarness.Ingestion.Load
import ClusterHarness.Proofs.Http.Course

/-!
The rounds of waiting for a document: a search, a refresh if it was in vain, and a pause before the
next round.
-/

namespace ClusterHarness

theorem Json.member_eq_ok {key : Text} {v x : Json} :
    v.member key = .ok x ↔ ∃ fields, v = .obj fields ∧ (Fields.get? key fields).getD .null = x := by
  cases v <;> simp [Json.member, Json.members, Except.map]

namespace Visibility

open Http Time ClusterHarness.Action

variable {σ : Type}

/-- A search response with exactly one hit, whose id is written as the given text. -/
def Confirms (id : Text) (v : Json) : Prop :=
  ∃ fields part hit, v = .obj fields ∧ Fields.get? "hits" fields = some (.obj part) ∧
    Fields.get? "hits" part = some (.arr [.obj hit]) ∧
    ((Fields.get? "_id" hit).getD .null).plain = id

def latestRequest (index : Text) : Request := searchRequest index Dataset.latestDocumentQuery

theorem latestRequest_consists (index : Text) : Client.Consists (latestRequest index) "POST"
    (Client.path (index ++ "/_search")) none (.ofDocument Dataset.latestDocumentQuery) :=
  searchRequest_consists index _

theorem hits_eq_ok {v h : Json} :
    hits v = .ok h ↔ ∃ part, v.member "hits" = .ok part ∧
      (part = .null ∧ h = .null ∨ part ≠ .null ∧ part.member "hits" = .ok h) := by
  unfold hits
  cases v.member "hits" with
  | error e => simp [bind, Except.bind]
  | ok part =>
    cases part <;> simp [bind, Except.bind, pure, Except.pure, eq_comm]

theorem isDocument_ok {id : Text} {h : Json} (hd : isDocument id h = .ok true) :
    ∃ x, h.count = .ok 1 ∧ h.first = .ok x ∧ ∃ found, x.member "_id" = .ok found ∧ found.plain = id := by
  unfold isDocument at hd
  cases ht : h.truthy with
  | false => simp [ht, pure, Except.pure] at hd
  | true =>
    cases hc : h.count with
    | error e => simp [ht, hc, bind, Except.bind] at hd
    | ok n =>
      by_cases hn : n = 1
      · cases hf : h.first with
        | error e => simp [ht, hc, hn, hf, bind, Except.bind] at hd
        | ok x =>
          cases hm : x.member "_id" with
          | error e => simp [ht, hc, hn, hf, hm, bind, Except.bind] at hd
          | ok found =>
            simp [ht, hc, hn, hf, hm, bind, Except.bind, pure, Except.pure] at hd
            exact ⟨x, by rw [hn], rfl, found, hm, hd⟩
      · simp [ht, hc, hn, bind, Except.bind, pure, Except.pure] at hd

theorem isDocument_eq_true {id : Text} {h : Json} :
    isDocument id h = .ok true ↔
      ∃ hit, h = .arr [.obj hit] ∧ ((Fields.get? "_id" hit).getD .null).plain = id := by
  constructor
  · intro hd
    obtain ⟨x, hcount, hfirst, found, hfound, hid⟩ := isDocument_ok hd
    obtain ⟨hit, rfl, hit_id⟩ := Json.member_eq_ok.mp hfound
    cases h with
    | arr items =>
      have hlen : items.length = 1 := by simpa [Json.count, Json.elements, Except.map] using hcount
      obtain ⟨y, rfl⟩ := List.length_eq_one_iff.mp hlen
      have hy : y = .obj hit := by simpa [Json.first] using hfirst
      exact ⟨hit, by rw [hy], by rw [hit_id, hid]⟩
    | str t =>
      cases t with
      | nil => cases hfirst
      | cons c t => cases hfirst
    | _ => cases hfirst
  · rintro ⟨hit, rfl, hid⟩
    simp [isDocument, Json.truthy, Json.count, Json.elements, Json.first, Json.member, Json.members,
      Except.map, bind, Except.bind, pure, Except.pure, hid]

/-- A search response with the given hits. -/
def HoldsHits (v : Json) (hits : List Json) : Prop :=
  ∃ fields part, v = .obj fields ∧ Fields.get? "hits" fields = some (.obj part) ∧
    Fields.get? "hits" part = some (.arr hits)

theorem HoldsHits.hits {v : Json} {found : List Json} (h : HoldsHits v found) :
    hits v = .ok (.arr found) := by
  obtain ⟨fields, part, rfl, hpart, hfound⟩ := h
  refine hits_eq_ok.mpr ⟨.obj part, ?_, .inr ⟨nofun, ?_⟩⟩
  · exact Json.member_eq_ok.mpr ⟨fields, rfl, by rw [hpart, Option.getD_some]⟩
  · exact Json.member_eq_ok.mpr ⟨part, rfl, by rw [hfound, Option.getD_some]⟩

theorem confirms_iff {id : Text} {v : Json} :
    Confirms id v ↔ ∃ h, hits v = .ok h ∧ isDocument id h = .ok true := by
  constructor
  · rintro ⟨fields, part, hit, rfl, hpart, hhit, hid⟩
    have hholds : HoldsHits (.obj fields) [.obj hit] := ⟨fields, part, rfl, hpart, hhit⟩
    exact ⟨.arr [.obj hit], hholds.hits, isDocument_eq_true.mpr ⟨hit, rfl, hid⟩⟩
  · rintro ⟨h, hhits, hdoc⟩
    obtain ⟨hit, rfl, hid⟩ := isDocument_eq_true.mp hdoc
    obtain ⟨part, hpart, ⟨-, hnull⟩ | ⟨hne, hinner⟩⟩ := hits_eq_ok.mp hhits
    · cases hnull
    · obtain ⟨inner, rfl, hin⟩ := Json.member_eq_ok.mp hinner
      obtain ⟨fields, rfl, hout⟩ := Json.member_eq_ok.mp hpart
      refine ⟨fields, inner, hit, rfl, ?_, ?_, hid⟩
      · cases ho : Fields.get? "hits" fields with
        | none => simp [ho] at hout
        | some x => simpa [ho] using hout
      · cases hi : Fields.get? "hits" inner with
        | none => simp [hi] at hin
        | some x => simpa [hi] using hin

/-- The rounds of a first attempt and of so many more after it, if all are in vain. -/
def rounds (index : Text) (pause : Seconds) : Nat → List Move
  | 0 => [.json (latestRequest index) none, .json (refreshRequest index) none]
  | more + 1 =>
    .json (latestRequest index) none :: .json (refreshRequest index) none :: .sleep pause ::
      rounds index pause more

/-- Vain rounds with a pause after each. -/
def vainRounds (index : Text) (pause : Seconds) (count : Nat) : List Move :=
  (List.replicate count [.json (latestRequest index) none, .json (refreshRequest index) none,
    .sleep pause]).flatten

theorem vainRounds_succ (index : Text) (pause : Seconds) (count : Nat) (moves : List Move) :
    vainRounds index pause (count + 1) ++ moves =
      [.json (latestRequest index) none, .json (refreshRequest index) none] ++ [.sleep pause] ++
        (vainRounds index pause count ++ moves) := rfl

def searched (index : Text) (x : Except Failure Json) : Deed := .json (latestRequest index) none x

def refreshed (index : Text) (x : Except Failure Json) : Deed := .json (refreshRequest index) none x

variable {c : Client σ} {index id : Text} {s t : Session σ}

theorem search_course {r : Except Failure Json}
    (h : (search c index Dataset.latestDocumentQuery).run s = (r, t)) :
    (∃ e, r = .error e ∧ Course c s [searched index (.error e)] t) ∨
      (∃ v, r = (hits v).mapError .shape ∧ Course c s [searched index (.ok v)] t) := by
  rcases run_bind_eq h with ⟨e, he, rfl⟩ | ⟨v, u, hv, hr⟩
  · exact .inl ⟨e, rfl, .ofJson he⟩
  · cases hr
    exact .inr ⟨v, rfl, .ofJson hv⟩

theorem attempt_course {r : Except Failure Bool} (h : (attempt c index id).run s = (r, t)) :
    (∃ v, r = .ok true ∧ Confirms id v ∧ Course c s [searched index (.ok v)] t) ∨
      (∃ v w, r = .ok false ∧ ¬Confirms id v ∧
        Course c s [searched index (.ok v), refreshed index (.ok w)] t) ∨
      ∃ e ds, r = .error e ∧ Course c s ds t ∧ ds.map Deed.move <+: rounds index (.whole 0) 0 := by
  have hsearch : ∀ x, [searched index x].map Deed.move <+: rounds index (.whole 0) 0 :=
    fun _ => ⟨[_], rfl⟩
  rcases run_bind_eq h with ⟨e, he, rfl⟩ | ⟨found, u, hfound, hrest⟩
  · rcases search_course he with ⟨d, hd, hcourse⟩ | ⟨v, hv, hcourse⟩
    · exact .inr (.inr ⟨e, _, rfl, hcourse, hsearch _⟩)
    · exact .inr (.inr ⟨e, _, rfl, hcourse, hsearch _⟩)
  · rcases search_course hfound with ⟨d, hd, -⟩ | ⟨v, hv, hcourse⟩
    · cases hd
    · have hhits : hits v = .ok found := mapError_eq_ok.mp hv.symm
      rcases lift_bind_eq hrest with ⟨e, -, rfl, rfl⟩ | ⟨visible, hvisible, hrest⟩
      · exact .inr (.inr ⟨e, _, rfl, hcourse, hsearch _⟩)
      · have hdoc : isDocument id found = .ok visible := mapError_eq_ok.mp hvisible
        cases visible with
        | true =>
          cases hrest
          exact .inl ⟨v, rfl, confirms_iff.mpr ⟨found, hhits, hdoc⟩, hcourse⟩
        | false =>
          have hnot : ¬Confirms id v := by
            intro hc
            obtain ⟨x, hx, hxdoc⟩ := confirms_iff.mp hc
            rw [hhits] at hx
            cases hx
            rw [hdoc] at hxdoc
            cases hxdoc
          rcases run_bind_eq hrest with ⟨e, he, rfl⟩ | ⟨w, u', hw, hr⟩
          · exact .inr (.inr ⟨e, _, rfl, hcourse.append (.ofJson he), List.prefix_rfl⟩)
          · cases hr
            exact .inr (.inl ⟨v, w, rfl, hnot, hcourse.append (.ofJson hw)⟩)

theorem attempts_next {pause : Seconds} (hpause : pause.IsPause)
    (hvain : (attempt c index id).run s = (.ok false, t)) (more : Nat) :
    (attempts c index id pause (more + 1)).run s =
      (attempts c index id pause more).run { t with trace := t.trace ++ [.sleep pause] } := by
  rw [attempts, run_bind_ok hvain]
  exact run_bind_ok (run_sleep hpause t) _

theorem attempts_broken {pause : Seconds} {e : PauseError} (hpause : pause.pauseError? = some e)
    (hvain : (attempt c index id).run s = (.ok false, t)) (more : Nat) :
    (attempts c index id pause (more + 1)).run s = (.error (.pause e), t) := by
  rw [attempts, run_bind_ok hvain]
  change (sleep pause >>= fun _ => attempts c index id pause more).run t = _
  rw [run_bind, run_sleep_refused hpause]

theorem attempts_course {pause : Seconds} {more : Nat} {r : Except Failure Bool}
    (h : (attempts c index id pause more).run s = (r, t)) :
    ∃ ds, Course c s ds t ∧ ds.map Deed.move <+: rounds index pause more ∧
      (r = .ok true → ∃ v, searched index (.ok v) ∈ ds ∧ Confirms id v) ∧
      (r = .ok false → ds.map Deed.move = rounds index pause more) := by
  induction more generalizing s with
  | zero =>
    rcases attempt_course h with ⟨v, rfl, hv, hc⟩ | ⟨v, w, rfl, -, hc⟩ | ⟨e, ds, rfl, hc, hds⟩
    · exact ⟨_, hc, ⟨[_], rfl⟩, fun _ => ⟨v, by simp, hv⟩, nofun⟩
    · exact ⟨_, hc, List.prefix_rfl, nofun, fun _ => rfl⟩
    · exact ⟨_, hc, hds, nofun, nofun⟩
  | succ more ih =>
    have hstart : rounds index pause 0 <+: rounds index pause (more + 1) := ⟨_, rfl⟩
    obtain ⟨visible, u, hu, hrest⟩ := run_bind_split h
    rcases attempt_course hu with ⟨v, rfl, hv, hc⟩ | ⟨v, w, rfl, -, hc⟩ | ⟨d, ds, rfl, hc, hds⟩
    · cases hrest
      exact ⟨_, hc, ⟨_, rfl⟩, fun _ => ⟨v, by simp, hv⟩, nofun⟩
    · have hnext : (sleep pause >>= fun _ => attempts c index id pause more).run u = (r, t) := hrest
      rcases Course.sleep_bind c hnext with ⟨e, rfl, rfl⟩ | ⟨u', hsleep, hrest⟩
      · exact ⟨_, hc, hstart, nofun, nofun⟩
      obtain ⟨ds, hds, hprefix, hfound, hvain⟩ := ih hrest
      refine ⟨_, (hc.append hsleep).append hds, ?_, fun h => ?_, fun h => ?_⟩
      · obtain ⟨tail, htail⟩ := hprefix
        exact ⟨tail, by rw [rounds, ← htail]; rfl⟩
      · obtain ⟨x, hx, hconf⟩ := hfound h
        exact ⟨x, List.mem_append_right _ hx, hconf⟩
      · rw [rounds, ← hvain h]
        rfl
    · obtain ⟨rfl, rfl⟩ := hrest
      exact ⟨_, hc, hds.trans hstart, nofun, nofun⟩

def exhaustedNote (id index : Text) (cycles : Int) : Text :=
  "Document " ++ id ++ " of " ++ index ++ " not visible after " ++ Text.ofInt (cycles + 1) ++ " attempts."

/-- What is done to wait in vain. -/
def vainMoves (expected : Int) (index : Text) (cycles : Int) (interval : Seconds) : List Move :=
  match pauseOf interval with
  | .ok pause => rounds index pause cycles.toNat ++
      [.log .error (exhaustedNote (Text.ofInt (expected - 1)) index cycles)]
  | .error _ => []

theorem await_course {expected cycles : Int} {interval : Seconds} {r : Except Failure PollOutcome}
    (h : (await c expected index cycles interval).run s = (r, t)) :
    ∃ ds, Course c s ds t ∧ ds.map Deed.move <+: vainMoves expected index cycles interval ∧
      (r = .ok .confirmed →
        ∃ v, searched index (.ok v) ∈ ds ∧ Confirms (Text.ofInt (expected - 1)) v) ∧
      (r = .ok .exhausted → ds.map Deed.move = vainMoves expected index cycles interval) := by
  rcases lift_bind_eq h with ⟨e, -, rfl, rfl⟩ | ⟨pause, hpause, hrest⟩
  · exact ⟨[], .done t, List.nil_prefix, nofun, nofun⟩
  · rw [vainMoves, hpause]
    rcases run_bind_eq hrest with ⟨e, he, rfl⟩ | ⟨visible, u, hu, hrest⟩
    · obtain ⟨ds, hds, hprefix, -, -⟩ := attempts_course he
      exact ⟨ds, hds, hprefix.trans (List.prefix_append _ _), nofun, nofun⟩
    · obtain ⟨ds, hds, hprefix, hfound, hvain⟩ := attempts_course hu
      cases visible with
      | true =>
        cases hrest
        exact ⟨ds, hds, hprefix.trans (List.prefix_append _ _), fun _ => hfound rfl, nofun⟩
      | false =>
        cases hrest
        refine ⟨_, hds.append (.ofLog c u .error (exhaustedNote (Text.ofInt (expected - 1)) index cycles)),
          ?_, nofun, fun _ => ?_⟩ <;> rw [List.map_append, hvain rfl]
        · exact List.prefix_rfl
        · rfl

end Visibility

end ClusterHarness
