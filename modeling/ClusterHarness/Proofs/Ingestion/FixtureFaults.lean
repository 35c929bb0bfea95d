import ClusterHarness.Proofs.Ingestion.Loading
import ClusterHarness.Proofs.Ingestion.PollingDecision

/-!
When a faulty fixture is noticed. A file without enough records is refused before anything is asked of
the cluster; a last record without a time is noticed when the records are written already.
-/

namespace ClusterHarness

open Http Time ClusterHarness.Action

def Failure.IsOfTimestamp : Failure → Prop
  | .ingest (.noTimestamp _) | .ingest (.badTimestamp _ _) | .timestamp _ => True
  | _ => False

namespace Failure

variable {e : Failure}

theorem IsOfIngestion.not_ofTimestamp (h : e.IsOfIngestion) : ¬e.IsOfTimestamp := by
  cases e with
  | ingest d => cases d <;> first | exact h.elim | exact id
  | timestamp d => exact h.elim
  | _ => exact id

end Failure

namespace Ingestion

/-- The records that a file has for loading: the head of its array, as long as the split and of objects
only. -/
def Supplies (files : FileTree) (dataset : DatasetDefinition) (split : Int) (resources : Text)
    (records : List Json) : Prop :=
  ∃ items, Fixture.Holds files (Dataset.resource dataset.name Dataset.nameSpace) resources items ∧
    1 ≤ split ∧ split ≤ items.length ∧ records = items.take split.toNat ∧
    ∀ record ∈ records, ∃ fields, record = .obj fields

/-- The last of the training records has a readable time. -/
def Timed (records : List Json) (split : Int) : Prop :=
  ∃ fields raw i, records[(split - 1).toNat]? = some (.obj fields) ∧
    Fields.get? Dataset.timestampField fields = some raw ∧ instantOf raw = .ok i

section

variable {σ : Type} {c : Client σ} {s t : Session σ}
variable {files : FileTree} {dataset : DatasetDefinition} {split : Int} {resources : Text}
variable {pacing : Pacing} {records : List Json}

theorem supplies_iff : Supplies files dataset split resources records ↔
    Fixture.readRecords files (Dataset.resource dataset.name Dataset.nameSpace) split resources =
      .ok records ∧ checkSplit dataset.name (.arr records) split = .ok () := by
  constructor
  · rintro ⟨items, hholds, hpos, hle, rfl, hobjects⟩
    refine ⟨hholds.readRecords (by omega) hobjects, checkSplit_eq_ok.mpr ⟨hpos, ?_⟩⟩
    rw [List.length_take]
    omega
  · rintro ⟨hread, hcheck⟩
    obtain ⟨items, hholds, rfl, hobjects⟩ := Fixture.readRecords_eq_ok hread
    obtain ⟨hpos, hle⟩ := checkSplit_eq_ok.mp hcheck
    rw [List.length_take] at hle
    exact ⟨items, hholds, hpos, by omega, rfl, hobjects⟩

theorem load_unsupplied (h : ¬∃ records, Supplies files dataset split resources records) :
    ∃ e, ∀ {σ : Type} (c : Client σ) (pacing : Pacing) (s : Session σ),
      (load c files dataset split resources pacing).run s = (.error e, s) := by
  cases hread : Fixture.readRecords files (Dataset.resource dataset.name Dataset.nameSpace) split
      resources with
  | error e =>
    refine ⟨.ofRecords e, fun {σ} c pacing s => ?_⟩
    rw [load, hread]
    rfl
  | ok records =>
    cases hcheck : checkSplit dataset.name (.arr records) split with
    | error e =>
      refine ⟨e, fun {σ} c pacing s => ?_⟩
      rw [load, hread]
      change ((ingest c dataset.name (.arr records) split (.obj dataset.mapping) pacing) >>= _).run s = _
      rw [run_bind, ingest, hcheck]
      rfl
    | ok _ => exact absurd ⟨records, supplies_iff.mpr ⟨hread, hcheck⟩⟩ h

theorem Supplies.load_run (h : Supplies files dataset split resources records) (c : Client σ)
    (pacing : Pacing) (s : Session σ) : (load c files dataset split resources pacing).run s =
      (do match ← ingest c dataset.name (.arr records) split (.obj dataset.mapping) pacing with
        | .confirmed => lift (trainTime (.arr records) split)
        | .exhausted => fail (.ingestTimeout split dataset.name) : Action σ Instant).run s := by
  rw [load, (supplies_iff.mp h).1]
  rfl

theorem Supplies.ingests (h : Supplies files dataset split resources records)
    {r : Except Failure PollOutcome}
    (hrun : (ingest c dataset.name (.arr records) split (.obj dataset.mapping) pacing).run s = (r, t)) :
    ∃ x ds, Course c s (created dataset x :: ds) t := by
  rcases ingest_course_checked (supplies_iff.mp h).2 hrun with ⟨e, x, -, hcourse⟩ |
    ⟨e, v, x, -, hcourse⟩ | ⟨v, w, u, -, hcourse, hawait⟩
  · exact ⟨_, _, hcourse⟩
  · exact ⟨_, _, hcourse⟩
  · obtain ⟨poll, hpoll, -⟩ := Visibility.await_course hawait
    exact ⟨_, _, hcourse.append hpoll⟩

theorem Supplies.asks (h : Supplies files dataset split resources records) (c : Client σ)
    (pacing : Pacing) (s : Session σ) : ∃ x ds, Course c s (created dataset x :: ds)
      ((load c files dataset split resources pacing).run s).2 := by
  rcases hload : (load c files dataset split resources pacing).run s with ⟨r, t⟩
  rw [h.load_run] at hload
  rcases run_bind_eq hload with ⟨e, he, -⟩ | ⟨outcome, u, hu, hrest⟩
  · exact h.ingests he
  · obtain rfl : u = t := by cases outcome <;> exact congrArg Prod.snd hrest
    exact h.ingests hu

theorem Supplies.last (h : Supplies files dataset split resources records) :
    ∃ fields, records[(split - 1).toNat]? = some (.obj fields) := by
  obtain ⟨items, -, hpos, hle, hrecords, hobjects⟩ := h
  refine exists_last hpos ?_ hobjects
  rw [hrecords, List.length_take]
  omega

theorem Supplies.trainTime_error (h : Supplies files dataset split resources records) {e : Failure}
    (he : trainTime (.arr records) split = .error e) : ¬Timed records split ∧ e.IsOfTimestamp := by
  obtain ⟨fields, hlast⟩ := h.last
  obtain ⟨-, -, hpos, -⟩ := h
  rw [trainTime_of_last hpos hlast] at he
  constructor
  · rintro ⟨fields', raw, i, hlast', hget, hi⟩
    cases hlast.symm.trans hlast'
    rw [hget, Option.getD_some] at he
    cases raw with
    | null => cases hi
    | _ =>
      simp only [hi] at he
      cases he
  · split at he
    · cases he
      trivial
    · split at he <;> cases he <;> trivial

theorem Supplies.trainTime_cases (h : Supplies files dataset split resources records) :
    (Timed records split ∧ ∃ i, trainTime (.arr records) split = .ok i) ∨
      ¬Timed records split ∧ ∃ e, e.IsOfTimestamp ∧ trainTime (.arr records) split = .error e := by
  cases htime : trainTime (.arr records) split with
  | ok i =>
    obtain ⟨-, -, hpos, -⟩ := h
    obtain ⟨fields, raw, hlast, hget, hi⟩ := trainTime_eq_ok hpos htime
    exact .inl ⟨⟨fields, raw, i, hlast, hget, hi⟩, i, rfl⟩
  | error e =>
    obtain ⟨huntimed, hkind⟩ := h.trainTime_error htime
    exact .inr ⟨huntimed, e, hkind, rfl⟩

/-- The cluster took the records and showed the last of them. -/
def Ingested (c : Client σ) (dataset : DatasetDefinition) (records : List Json) (split : Int)
    (pacing : Pacing) (s t : Session σ) : Prop :=
  ∃ v w poll found, Bulk.Accepts w ∧ Course c s (opening dataset records split pacing v w ++ poll) t ∧
    Visibility.searched dataset.name (.ok found) ∈ poll ∧
    Visibility.Confirms (Text.ofInt (split - 1)) found

theorem Supplies.load_ends (h : Supplies files dataset split resources records)
    {r : Except Failure Instant} (hload : (load c files dataset split resources pacing).run s = (r, t)) :
    (∃ e, r = .error e ∧ ¬e.IsOfTimestamp) ∨
      r = trainTime (.arr records) split ∧ Ingested c dataset records split pacing s t := by
  rw [h.load_run] at hload
  -- no failure of ingestion blames a timestamp, which only the train time looks at
  rcases run_bind_eq hload with ⟨e, he, rfl⟩ | ⟨outcome, u, hu, hrest⟩
  · exact .inl ⟨e, rfl, (ingest_failsBy c _ _ _ _ _ s e t he).not_ofTimestamp⟩
  cases outcome with
  | exhausted =>
    cases hrest
    exact .inl ⟨_, rfl, id⟩
  | confirmed =>
    obtain ⟨rfl, rfl⟩ : trainTime (.arr records) split = r ∧ u = t := Prod.mk.inj hrest
    rcases ingest_course_checked (supplies_iff.mp h).2 hu with ⟨e, x, he, -⟩ | ⟨e, v, x, he, -⟩ |
      ⟨v, w, u', haccepts, hcourse, hawait⟩
    · cases he
    · cases he
    · obtain ⟨poll, hpoll, -, hfound, -⟩ := Visibility.await_course hawait
      obtain ⟨found, hmem, hconfirms⟩ := hfound rfl
      exact .inr ⟨rfl, v, w, poll, found, haccepts, hcourse.append hpoll, hmem, hconfirms⟩

end

/-- When loading notices what is wrong with its fixture. Too few records are noticed first, whatever the
client and its cluster. A last record without a readable time is noticed last. -/
structure NoticesFaults (files : FileTree) (dataset : DatasetDefinition) (split : Int) (resources : Text) :
    Prop where
  unsupplied : (¬∃ records, Supplies files dataset split resources records) →
    ∃ e, ∀ {σ : Type} (c : Client σ) (pacing : Pacing) (s : Session σ),
      (load c files dataset split resources pacing).run s = (.error e, s)
  supplied : ∀ records, Supplies files dataset split resources records →
    ∀ {σ : Type} (c : Client σ) (pacing : Pacing) (s : Session σ), ∃ x ds,
      Course c s (created dataset x :: ds) ((load c files dataset split resources pacing).run s).2
  timed : ∀ records, Supplies files dataset split resources records → Timed records split →
    ∀ {σ : Type} (c : Client σ) (pacing : Pacing) (s t : Session σ) (e : Failure),
      (load c files dataset split resources pacing).run s = (.error e, t) → ¬e.IsOfTimestamp
  untimed : ∀ records, Supplies files dataset split resources records → ¬Timed records split →
    ∃ e, e.IsOfTimestamp ∧ ∀ {σ : Type} (c : Client σ) (pacing : Pacing) (s : Session σ),
      (∃ d t, ¬d.IsOfTimestamp ∧ (load c files dataset split resources pacing).run s = (.error d, t)) ∨
      ∃ t, Ingested c dataset records split pacing s t ∧
        (load c files dataset split resources pacing).run s = (.error e, t)

/-- A fixture with too few records leaves the cluster alone. One whose last record has no readable time
does not: its failure comes when the cluster has taken the records and shown the last. -/
theorem load_notices_faults (files : FileTree) (dataset : DatasetDefinition) (split : Int)
    (resources : Text) : NoticesFaults files dataset split resources where
  unsupplied := load_unsupplied
  supplied records h := h.asks
  timed records h htimed := by
    intro σ c pacing s t e hload
    rcases h.load_ends hload with ⟨d, hd, hnot⟩ | ⟨htime, -⟩
    · cases hd
      exact hnot
    · rcases h.trainTime_cases with ⟨-, i, hi⟩ | ⟨hnot, -⟩
      · rw [hi] at htime
        cases htime
      · exact absurd htimed hnot
  untimed records h huntimed := by
    rcases h.trainTime_cases with ⟨htimed, -⟩ | ⟨-, e, hkind, he⟩
    · exact absurd htimed huntimed
    refine ⟨e, hkind, ?_⟩
    intro σ c pacing s
    rcases hload : (load c files dataset split resources pacing).run s with ⟨r, t⟩
    rcases h.load_ends hload with ⟨d, rfl, hnot⟩ | ⟨rfl, hingested⟩
    · exact .inl ⟨d, t, hnot, rfl⟩
    · exact .inr ⟨t, hingested, by rw [he]⟩

def untimedTree : FileTree :=
  ⟨.ofText "/h", [(["ad", "e2e", "data", "synthetic.data"].map fun name : Text => Utf8.encode name,
    .bytes (Utf8.encode "[\x7b\"Feature1\": 1\x7d]"))]⟩

/-- The cluster takes the record and shows it. -/
def willing : List Outcome :=
  [.response (.holding (.obj [("acknowledged", .bool true)])),
    .response (.holding (.obj [("errors", .bool false)])),
    .response (.holding (.obj (Visibility.showing "0")))]

def untimedRun : Except Failure Instant × Session (List Outcome) :=
  (load ⟨threeHosts, scripted⟩ untimedTree Dataset.synthetic 1 "/h" Pacing.standard).run ⟨0, willing, []⟩

/-- The fault of the fixture is told when the index is there and holds the record. -/
theorem untimed_record_is_written :
    untimedRun.1.mapError Failure.message = .error "Record 0 has no timestamp." ∧
      (callsOf untimedRun.2.trace).map (fun call => (call.method, call.url)) =
        [(("PUT" : Text), ("http://a/synthetic" : Text)), ("POST", "http://a/_bulk"),
          ("POST", "http://a/synthetic/_search")] := by
  decide +kernel

end Ingestion

end ClusterHarness
