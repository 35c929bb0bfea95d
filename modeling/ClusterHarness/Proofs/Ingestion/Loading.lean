import ClusterHarness.Proofs.Ingestion.BulkBody
import ClusterHarness.Proofs.Ingestion.FixtureReading
import ClusterHarness.Proofs.Ingestion.Polling

/-!
Loading a dataset, request by request: what is sent and when, what a train time that is answered with
stands for, and when loading runs out of time.
-/

namespace ClusterHarness

open Http Time ClusterHarness.Action

def Failure.IsIngestTimeout : Failure → Prop
  | .ingestTimeout _ _ => True
  | _ => False

/-- The failures of writing records and of waiting for them. -/
def Failure.IsOfIngestion : Failure → Prop
  | .ingest (.noRecords _) | .ingest (.badSplit _ _ _) | .ingest (.refusedItems _ _ _) => True
  | .shape _ | .numberTooLarge | .pause _ => True
  | e => e.IsOfRequest

namespace Failure

variable {e : Failure}

theorem IsOfRequest.not_ingestTimeout (h : e.IsOfRequest) : ¬e.IsIngestTimeout := by
  cases e <;> first | exact h.elim | exact id

theorem IsOfRequest.isOfIngestion (h : e.IsOfRequest) : e.IsOfIngestion := by
  cases e <;> first | exact h.elim | exact h

theorem IsOfIngestion.not_ingestTimeout (h : e.IsOfIngestion) : ¬e.IsIngestTimeout := by
  cases e <;> first | exact h.elim | exact id

end Failure

variable {σ : Type} {c : Client σ} {s t : Session σ}

theorem request_failsBy (c : Client σ) (r : Request) (strict : Option Bool) :
    FailsBy Failure.IsOfIngestion (c.json r strict) :=
  fun s e t h => (c.json_failsBy r strict s e t h).isOfIngestion

theorem shape_failsBy {α : Type} (x : Except ShapeError α) :
    FailsBy Failure.IsOfIngestion (lift (x.mapError .shape) : Action σ α) := by
  refine failsBy_lift fun e he => ?_
  obtain ⟨d, -, rfl⟩ := mapError_eq_error.mp he
  trivial

namespace Bulk

/-- A bulk response that takes all documents. -/
def Accepts (w : Json) : Prop := ∃ errors, w.member "errors" = .ok errors ∧ errors.truthy = false

theorem write_failsBy (c : Client σ) (records : List Json) (index : Text) (split : Int) :
    FailsBy Failure.IsOfIngestion (write c records index split) := by
  refine failsBy_bind (request_failsBy c _ _) fun w => failsBy_bind (shape_failsBy _) fun errors => ?_
  cases errors.truthy with
  | false => exact failsBy_pure ()
  | true => exact failsBy_bind (shape_failsBy _) fun failed => failsBy_fail trivial

theorem write_course {records : List Json} {index : Text} {split : Int} {r : Except Failure Unit}
    (h : (write c records index split).run s = (r, t)) :
    (∃ e x, r = .error e ∧ Course c s [.json (request records index split) none x] t) ∨
    ∃ w, r = .ok () ∧ Accepts w ∧ Course c s [.json (request records index split) none (.ok w)] t := by
  rcases run_bind_eq h with ⟨e, he, rfl⟩ | ⟨w, u, hw, hrest⟩
  · exact .inl ⟨e, _, rfl, .ofJson he⟩
  · have hcourse := Course.ofJson hw
    rcases lift_bind_eq hrest with ⟨e, -, rfl, rfl⟩ | ⟨errors, herrors, hrest⟩
    · exact .inl ⟨_, _, rfl, hcourse⟩
    · have hmember : w.member "errors" = .ok errors := mapError_eq_ok.mp herrors
      cases htruthy : errors.truthy with
      | false =>
        simp only [htruthy] at hrest
        cases hrest
        exact .inr ⟨w, rfl, ⟨errors, hmember, htruthy⟩, hcourse⟩
      | true =>
        simp only [htruthy] at hrest
        rcases lift_bind_eq hrest with ⟨e, -, rfl, rfl⟩ | ⟨failed, -, hrest⟩
        · exact .inl ⟨_, _, rfl, hcourse⟩
        · cases hrest
          exact .inl ⟨_, _, rfl, hcourse⟩

end Bulk

namespace Visibility

variable {index id : Text}

theorem attempt_failsBy (c : Client σ) (index id : Text) :
    FailsBy Failure.IsOfIngestion (attempt c index id) := by
  have hsearch : FailsBy Failure.IsOfIngestion (search c index Dataset.latestDocumentQuery) :=
    failsBy_bind (request_failsBy c _ _) fun v => shape_failsBy (hits v)
  refine failsBy_bind hsearch fun found => failsBy_bind (shape_failsBy _) fun visible => ?_
  cases visible with
  | true => exact failsBy_pure true
  | false => exact failsBy_bind (request_failsBy c _ _) fun _ => failsBy_pure false

theorem attempts_failsBy (c : Client σ) (index id : Text) (pause : Seconds) (more : Nat) :
    FailsBy Failure.IsOfIngestion (attempts c index id pause more) := by
  induction more with
  | zero => exact attempt_failsBy c index id
  | succ more ih =>
    refine failsBy_bind (attempt_failsBy c index id) fun visible => ?_
    cases visible with
    | true => exact failsBy_pure true
    | false => exact failsBy_bind (failsBy_sleep fun _ => trivial) fun _ => ih

theorem await_isOfIngestion (c : Client σ) (expected : Int) (index : Text) (cycles : Int)
    (interval : Seconds) : FailsBy Failure.IsOfIngestion (await c expected index cycles interval) := by
  refine failsBy_bind (failsBy_lift fun e he => ?_) fun pause =>
    failsBy_bind (attempts_failsBy c index _ pause _) fun visible => ?_
  · unfold pauseOf at he
    split at he <;> cases he
    trivial
  · cases visible with
    | true => exact failsBy_pure _
    | false => exact failsBy_bind (failsBy_log _ _) fun _ => failsBy_pure _

theorem await_failsBy (c : Client σ) (expected : Int) (index : Text) (cycles : Int)
    (interval : Seconds) : FailsBy (¬·.IsIngestTimeout) (await c expected index cycles interval) :=
  fun s e t h => (await_isOfIngestion c expected index cycles interval s e t h).not_ingestTimeout

end Visibility

namespace Ingestion

theorem checkSplit_eq_ok {index : Text} {records : List Json} {split : Int} :
    checkSplit index (.arr records) split = .ok () ↔ 0 < split ∧ split ≤ records.length := by
  cases records with
  | nil =>
    refine ⟨nofun, ?_⟩
    rintro ⟨hpos, hle⟩
    rw [List.length_nil] at hle
    omega
  | cons record records =>
    refine ⟨fun h => ?_, fun hsplit => if_pos hsplit⟩
    by_contra hsplit
    simp only [checkSplit, Json.truthy, Json.count, Json.elements, Except.map, mapError_ok, bind, Except.bind,
      hsplit] at h
    cases h

theorem checkSplit_isOfIngestion {index : Text} {records : Json} {split : Int} {e : Failure}
    (h : checkSplit index records split = .error e) : e.IsOfIngestion := by
  unfold checkSplit at h
  split at h
  · cases h
    trivial
  · rcases bind_eq_error.mp h with he | ⟨count, -, h⟩
    · obtain ⟨d, -, rfl⟩ := mapError_eq_error.mp he
      trivial
    · split at h <;> cases h
      trivial

theorem ofRecords_not_ingestTimeout (e : RecordsError) : ¬(Failure.ofRecords e).IsIngestTimeout := by
  cases e <;> exact id

theorem trainTime_not_ingestTimeout {records : Json} {split : Int} {e : Failure}
    (h : trainTime records split = .error e) : ¬e.IsIngestTimeout := by
  rcases bind_eq_error.mp h with he | ⟨record, -, h⟩
  · obtain ⟨d, -, rfl⟩ := mapError_eq_error.mp he
    exact id
  · rcases bind_eq_error.mp h with he | ⟨raw, -, h⟩
    · obtain ⟨d, -, rfl⟩ := mapError_eq_error.mp he
      exact id
    · split at h
      · cases h
        exact id
      · split at h <;> cases h <;> exact id

theorem atPosition_natCast_eq_ok {items : List Json} {n : Nat} {x : Json} :
    (Json.arr items).atPosition (n : Int) = .ok x ↔ items[n]? = some x := by
  cases hn : items[n]? <;>
    simp [Json.atPosition, Json.elements, bind, Except.bind, hn, pure, Except.pure, throw, throwThe,
      MonadExceptOf.throw]

theorem exists_last {records : List Json} {split : Int} (hpos : 1 ≤ split) (hle : split ≤ records.length)
    (hobjects : ∀ record ∈ records, ∃ fields, record = .obj fields) :
    ∃ fields, records[(split - 1).toNat]? = some (.obj fields) := by
  have hlt : (split - 1).toNat < records.length := by omega
  obtain ⟨fields, hfields⟩ := hobjects _ (List.getElem_mem hlt)
  exact ⟨fields, by rw [List.getElem?_eq_getElem hlt, hfields]⟩

theorem trainTime_of_last {records : List Json} {split : Int} {fields : Fields Json} (hpos : 1 ≤ split)
    (hlast : records[(split - 1).toNat]? = some (.obj fields)) :
    trainTime (.arr records) split =
      match (Fields.get? Dataset.timestampField fields).getD .null with
      | .null => .error (.ingest (.noTimestamp (split - 1)))
      | raw => match instantOf raw with
        | .ok i => .ok i
        | .error .beyondCalendar => .error (.timestamp .beyondCalendar)
        | .error e => .error (.ingest (.badTimestamp raw e)) := by
  have hat : (Json.arr records).atPosition (split - 1) = .ok (.obj fields) := by
    rw [← Int.toNat_of_nonneg (by omega : 0 ≤ split - 1)]
    exact atPosition_natCast_eq_ok.mpr hlast
  have hmember : (Json.obj fields).member Dataset.timestampField =
      .ok ((Fields.get? Dataset.timestampField fields).getD .null) := Json.member_eq_ok.mpr ⟨fields, rfl, rfl⟩
  rw [trainTime, hat]
  simp only [mapError_ok, bind, Except.bind, hmember]
  rfl

theorem trainTime_eq_ok {records : List Json} {split : Int} {i : Instant} (hsplit : 0 < split)
    (h : trainTime (.arr records) split = .ok i) :
    ∃ fields raw, records[(split - 1).toNat]? = some (.obj fields) ∧
      Fields.get? Dataset.timestampField fields = some raw ∧ instantOf raw = .ok i := by
  obtain ⟨n, hn⟩ : ∃ n : Nat, split - 1 = n := ⟨(split - 1).toNat, by omega⟩
  rw [trainTime, hn] at h
  obtain ⟨record, hrecord, hlast⟩ := bind_eq_ok.mp h
  obtain ⟨raw, hraw, htime⟩ := bind_eq_ok.mp hlast
  have hat := atPosition_natCast_eq_ok.mp (mapError_eq_ok.mp hrecord)
  obtain ⟨fields, hobj, hfields⟩ := Json.member_eq_ok.mp (mapError_eq_ok.mp hraw)
  refine ⟨fields, raw, by rw [hn, Int.toNat_natCast, hat, hobj], ?_, ?_⟩
  · cases hget : Fields.get? Dataset.timestampField fields with
    | none =>
      rw [hget] at hfields
      cases hfields
      cases htime
    | some x => simpa [hget] using hfields
  · split at htime
    · cases htime
    · split at htime <;> simp_all [pure, Except.pure, throw, throwThe, MonadExceptOf.throw]

theorem createIndex_course {index : Text} {mapping : Json} {settle : Seconds} {r : Except Failure Unit}
    (h : (createIndex c index mapping settle).run s = (r, t)) :
    (∃ e x, r = .error e ∧ Course c s [.json (createRequest index mapping) (some false) x] t) ∨
    ∃ v, r = .ok () ∧
      Course c s [.json (createRequest index mapping) (some false) (.ok v), .sleep settle] t := by
  rcases run_bind_eq h with ⟨e, he, rfl⟩ | ⟨v, u, hv, hrest⟩
  · exact .inl ⟨e, _, rfl, .ofJson he⟩
  · rw [← bind_pure (sleep settle)] at hrest
    rcases Course.sleep_bind c hrest with ⟨e, rfl, rfl⟩ | ⟨u', hsleep, hrest⟩
    · exact .inl ⟨_, _, rfl, .ofJson hv⟩
    · cases hrest
      exact .inr ⟨v, rfl, (Course.ofJson hv).append hsleep⟩

section Protocol

variable (dataset : DatasetDefinition) (records : List Json) (split : Int) (pacing : Pacing)

def created (x : Except Failure Json) : Deed :=
  .json (createRequest dataset.name (.obj dataset.mapping)) (some false) x

def written (x : Except Failure Json) : Deed := .json (Bulk.request records dataset.name split) none x

/-- The deeds before the first search, when all goes well. -/
def opening (v w : Json) : List Deed :=
  [created dataset (.ok v), .sleep pacing.settle, written dataset records split (.ok w),
    .sleep pacing.settle]

/-- All that loading ever does, in order: the waiting is in vain. -/
def loadMoves : List Move :=
  (opening dataset records split pacing .null .null).map Deed.move ++
    Visibility.vainMoves split dataset.name pacing.cycles pacing.interval

end Protocol

variable {dataset : DatasetDefinition} {split : Int} {pacing : Pacing}

theorem ingest_failsBy (c : Client σ) (index : Text) (records : Json) (split : Int) (mapping : Json)
    (pacing : Pacing) : FailsBy Failure.IsOfIngestion (ingest c index records split mapping pacing) := by
  refine failsBy_bind (failsBy_lift fun e => checkSplit_isOfIngestion) fun _ => ?_
  refine failsBy_bind (failsBy_bind (request_failsBy c _ _) fun _ => failsBy_sleep fun _ => trivial) fun _ => ?_
  refine failsBy_bind (shape_failsBy _) fun items => failsBy_bind (Bulk.write_failsBy c _ _ _) fun _ => ?_
  exact failsBy_bind (failsBy_sleep fun _ => trivial) fun _ => Visibility.await_isOfIngestion c _ _ _ _

/-- What ingestion does once the split is right. -/
theorem ingest_course_checked {records : List Json} {r : Except Failure PollOutcome}
    (hcheck : checkSplit dataset.name (.arr records) split = .ok ())
    (h : (ingest c dataset.name (.arr records) split (.obj dataset.mapping) pacing).run s = (r, t)) :
    (∃ e x, r = .error e ∧ Course c s [created dataset x] t) ∨
    (∃ e v x, r = .error e ∧ Course c s [created dataset (.ok v), .sleep pacing.settle,
      written dataset records split x] t) ∨
    ∃ v w u, Bulk.Accepts w ∧ Course c s (opening dataset records split pacing v w) u ∧
      (Visibility.await c split dataset.name pacing.cycles pacing.interval).run u = (r, t) := by
  have hsequence : (lift (((Json.arr records).sequence).mapError Failure.shape) : Action σ _) =
      pure records := rfl
  rcases lift_bind_eq h with ⟨e, he, -⟩ | ⟨_, -, h⟩
  · rw [hcheck] at he
    cases he
  obtain ⟨result, u, hcreated, h⟩ := run_bind_split h
  rcases createIndex_course hcreated with ⟨e, x, rfl, hcourse⟩ | ⟨v, rfl, hcreate⟩
  · obtain ⟨rfl, rfl⟩ := h
    exact .inl ⟨e, x, rfl, hcourse⟩
  refine .inr ?_
  simp only [hsequence, pure_bind] at h
  obtain ⟨result, u', hwritten, h⟩ := run_bind_split h
  rcases Bulk.write_course hwritten with ⟨e, x, rfl, hcourse⟩ | ⟨w, rfl, haccepts, hwrite⟩
  · obtain ⟨rfl, rfl⟩ := h
    exact .inl ⟨e, v, x, rfl, hcreate.append hcourse⟩
  rcases Course.sleep_bind c h with ⟨e, rfl, rfl⟩ | ⟨u'', hsleep, h⟩
  · exact .inl ⟨_, v, _, rfl, hcreate.append hwrite⟩
  exact .inr ⟨v, w, _, haccepts, (hcreate.append hwrite).append hsleep, h⟩

theorem ingest_course {records : List Json} {r : Except Failure PollOutcome}
    (h : (ingest c dataset.name (.arr records) split (.obj dataset.mapping) pacing).run s = (r, t)) :
    (∃ e, r = .error e ∧ ¬e.IsIngestTimeout ∧ t = s) ∨
    0 < split ∧ split ≤ records.length ∧
      ((∃ e x, r = .error e ∧ ¬e.IsIngestTimeout ∧ Course c s [created dataset x] t) ∨
      (∃ e v x, r = .error e ∧ ¬e.IsIngestTimeout ∧ Course c s [created dataset (.ok v),
        .sleep pacing.settle, written dataset records split x] t) ∨
      ∃ v w u, Bulk.Accepts w ∧ Course c s (opening dataset records split pacing v w) u ∧
        (Visibility.await c split dataset.name pacing.cycles pacing.interval).run u = (r, t)) := by
  have hkind : ∀ e, r = .error e → ¬e.IsIngestTimeout := by
    rintro e rfl
    exact (ingest_failsBy c _ _ _ _ _ s e t h).not_ingestTimeout
  rcases lift_bind_eq h with ⟨e, -, rfl, rfl⟩ | ⟨_, hcheck, -⟩
  · exact .inl ⟨e, rfl, hkind e rfl, rfl⟩
  obtain ⟨hpos, hle⟩ := checkSplit_eq_ok.mp hcheck
  refine .inr ⟨hpos, hle, ?_⟩
  rcases ingest_course_checked hcheck h with ⟨e, x, he, hcourse⟩ | ⟨e, v, x, he, hcourse⟩ | hpolling
  · exact .inl ⟨e, x, he, hkind e he, hcourse⟩
  · exact .inr (.inl ⟨e, v, x, he, hkind e he, hcourse⟩)
  · exact .inr (.inr hpolling)

/-! ### Which request is which -/

theorem endsWith_ne {x y t : Text} {a b : CodePoint} (hx : x.getLast? = some a)
    (hy : y.getLast? = some b) (hab : a ≠ b) : t ++ x ≠ y := by
  intro h
  have hlast := congrArg List.getLast? h
  rw [List.getLast?_append, hx, hy] at hlast
  exact hab (Option.some.inj hlast)

theorem bulk_ne_latest (records : List Json) (index : Text) (split : Int) (name : Text) :
    Bulk.request records index split ≠ Visibility.latestRequest name := by
  intro h
  have hend : some ("_bulk" : Text) = some (name ++ "/_search") := congrArg Request.endpoint h
  exact endsWith_ne (a := CodePoint.ofChar 'h') (b := CodePoint.ofChar 'k') rfl rfl (by decide)
    (Option.some.inj hend).symm

theorem bulk_ne_refresh (records : List Json) (index : Text) (split : Int) (name : Text) :
    Bulk.request records index split ≠ Visibility.refreshRequest name := by
  intro h
  have hend : some ("_bulk" : Text) = some (name ++ "/_refresh") := congrArg Request.endpoint h
  exact endsWith_ne (a := CodePoint.ofChar 'h') (b := CodePoint.ofChar 'k') rfl rfl (by decide)
    (Option.some.inj hend).symm

theorem create_ne_post (index : Text) (mapping : Json) {r : Request}
    (hr : r.method = some ("POST" : Text)) : createRequest index mapping ≠ r := by
  intro h
  have hmethod : some ("PUT" : Text) = some ("POST" : Text) := (congrArg Request.method h).trans hr
  exact absurd hmethod (by decide)

theorem mem_rounds {index : Text} {pause : Seconds} {more : Nat} {m : Move}
    (h : m ∈ Visibility.rounds index pause more) :
    m = .json (Visibility.latestRequest index) none ∨ m = .json (Visibility.refreshRequest index) none ∨
      m = .sleep pause := by
  induction more with
  | zero =>
    rw [Visibility.rounds, List.mem_cons, List.mem_singleton] at h
    exact h.imp_right .inl
  | succ more ih =>
    rw [Visibility.rounds, List.mem_cons, List.mem_cons, List.mem_cons] at h
    rcases h with h | h | h | h
    · exact .inl h
    · exact .inr (.inl h)
    · exact .inr (.inr h)
    · exact ih h

theorem bulk_not_mem_vainMoves (records : List Json) (split : Int) {expected : Int} {index : Text}
    {cycles : Int} {interval : Seconds} :
    Move.json (Bulk.request records index split) none ∉
      Visibility.vainMoves expected index cycles interval := by
  intro h
  unfold Visibility.vainMoves at h
  split at h
  · rcases List.mem_append.mp h with h | h
    · rcases mem_rounds h with h | h | h
      · exact bulk_ne_latest _ _ _ _ (Move.json_inj h)
      · exact bulk_ne_refresh _ _ _ _ (Move.json_inj h)
      · cases h
    · rw [List.mem_singleton] at h
      cases h
  · cases h

/-- The order in which loading does things. -/
structure Ordered (dataset : DatasetDefinition) (records : List Json) (split : Int) (pacing : Pacing)
    (ds : List Deed) : Prop where
  planned : ds.map Deed.move <+: loadMoves dataset records split pacing
  bulkAfterCreation : ∀ before x after, ds = before ++ written dataset records split x :: after →
    ∃ v, before = [created dataset (.ok v), .sleep pacing.settle]
  searchAfterBulk : ∀ before x after, ds = before ++ Visibility.searched dataset.name x :: after →
    ∃ v w rest, before = opening dataset records split pacing v w ++ rest ∧ Bulk.Accepts w

namespace Ordered

variable {records : List Json}

theorem created_ne_written {x y : Except Failure Json} :
    created dataset x ≠ written dataset records split y := by
  intro h
  exact create_ne_post _ _ rfl (Move.json_inj (congrArg Deed.move h))

theorem created_ne_searched {x y : Except Failure Json} :
    created dataset x ≠ Visibility.searched dataset.name y := by
  intro h
  exact create_ne_post _ _ rfl (Move.json_inj (congrArg Deed.move h))

theorem written_ne_searched {x y : Except Failure Json} :
    written dataset records split x ≠ Visibility.searched dataset.name y := by
  intro h
  exact bulk_ne_latest _ _ _ _ (Move.json_inj (congrArg Deed.move h))

theorem nothing : Ordered dataset records split pacing [] where
  planned := List.nil_prefix
  bulkAfterCreation before x after h := by
    cases before <;> cases h
  searchAfterBulk before x after h := by
    cases before <;> cases h

theorem ofCreation (x : Except Failure Json) :
    Ordered dataset records split pacing [created dataset x] where
  planned := ⟨_, rfl⟩
  bulkAfterCreation before y after h := by
    rcases before with _ | ⟨a, before⟩ <;>
      simp only [List.nil_append, List.cons_append, List.cons.injEq] at h
    · exact absurd h.1 created_ne_written
    · cases before <;> cases h.2
  searchAfterBulk before y after h := by
    rcases before with _ | ⟨a, before⟩ <;>
      simp only [List.nil_append, List.cons_append, List.cons.injEq] at h
    · exact absurd h.1 created_ne_searched
    · cases before <;> cases h.2

theorem ofWriting (v : Json) (x : Except Failure Json) :
    Ordered dataset records split pacing
      [created dataset (.ok v), .sleep pacing.settle, written dataset records split x] where
  planned := ⟨_, rfl⟩
  bulkAfterCreation before y after h := by
    rcases before with _ | ⟨a, _ | ⟨b, _ | ⟨d, before⟩⟩⟩ <;>
      simp only [List.cons_append, List.nil_append, List.cons.injEq] at h
    · exact absurd h.1 created_ne_written
    · cases h.2.1
    · exact ⟨v, by rw [← h.1, ← h.2.1]⟩
    · cases before <;> cases h.2.2.2
  searchAfterBulk before y after h := by
    rcases before with _ | ⟨a, _ | ⟨b, _ | ⟨d, before⟩⟩⟩ <;>
      simp only [List.cons_append, List.nil_append, List.cons.injEq] at h
    · exact absurd h.1 created_ne_searched
    · cases h.2.1
    · exact absurd h.2.2.1 written_ne_searched
    · cases before <;> cases h.2.2.2

theorem ofPolling {v w : Json} {poll : List Deed} (haccepts : Bulk.Accepts w)
    (hpoll : poll.map Deed.move <+:
      Visibility.vainMoves split dataset.name pacing.cycles pacing.interval) :
    Ordered dataset records split pacing (opening dataset records split pacing v w ++ poll) where
  planned := by
    obtain ⟨tail, htail⟩ := hpoll
    refine ⟨tail, ?_⟩
    rw [loadMoves, ← htail, List.map_append, List.append_assoc]
    rfl
  bulkAfterCreation before x after h := by
    rcases before with _ | ⟨a, _ | ⟨b, _ | ⟨d, before⟩⟩⟩ <;>
      simp only [opening, List.cons_append, List.nil_append, List.cons.injEq] at h
    · exact absurd h.1 created_ne_written
    · cases h.2.1
    · exact ⟨v, by rw [← h.1, ← h.2.1]⟩
    · have hmem : written dataset records split x ∈ Deed.sleep pacing.settle :: poll := by
        rw [h.2.2.2]
        simp
      rcases List.mem_cons.mp hmem with hmem | hmem
      · cases hmem
      · exact absurd (hpoll.subset (List.mem_map_of_mem hmem)) (bulk_not_mem_vainMoves _ _)
  searchAfterBulk before x after h := by
    rcases before with _ | ⟨a, _ | ⟨b, _ | ⟨d, _ | ⟨e, before⟩⟩⟩⟩ <;>
      simp only [opening, List.cons_append, List.nil_append, List.cons.injEq] at h
    · exact absurd h.1 created_ne_searched
    · cases h.2.1
    · exact absurd h.2.2.1 written_ne_searched
    · cases h.2.2.2.1
    · refine ⟨v, w, before, ?_, haccepts⟩
      rw [← h.1, ← h.2.1, ← h.2.2.1, ← h.2.2.2.1]
      rfl

end Ordered

/-- What a train time stands for, given the deeds of loading. -/
structure Loaded (files : FileTree) (dataset : DatasetDefinition) (split : Int) (resources : Text)
    (records : List Json) (ds : List Deed) (time : Instant) : Prop where
  fixture : ∃ items, 1 ≤ split ∧ split ≤ items.length ∧ records = items.take split.toNat ∧
    Fixture.Holds files (Dataset.resource dataset.name Dataset.nameSpace) resources items
  objects : ∀ record ∈ records, ∃ fields, record = .obj fields
  body : (Bulk.request records dataset.name split).payload = .body (.text
    (records.zipIdx.flatMap fun p => Bulk.recordLines dataset.name p.1 p.2))
  accepted : ∃ w, written dataset records split (.ok w) ∈ ds ∧ Bulk.Accepts w
  confirmed : ∃ v, Visibility.searched dataset.name (.ok v) ∈ ds ∧
    Visibility.Confirms (Text.ofInt (split - 1)) v
  timed : ∃ fields raw, records[(split - 1).toNat]? = some (.obj fields) ∧
    Fields.get? Dataset.timestampField fields = some raw ∧ instantOf raw = .ok time

/-- The poller gave up after the cluster had taken the documents. -/
def RanOut (c : Client σ) (dataset : DatasetDefinition) (records : List Json) (split : Int)
    (pacing : Pacing) (ds : List Deed) (s t : Session σ) : Prop :=
  ∃ v w poll u, ds = opening dataset records split pacing v w ++ poll ∧ Bulk.Accepts w ∧
    Course c s (opening dataset records split pacing v w) u ∧ Course c u poll t ∧
    poll.map Deed.move = Visibility.vainMoves split dataset.name pacing.cycles pacing.interval ∧
    (Visibility.await c split dataset.name pacing.cycles pacing.interval).run u = (.ok .exhausted, t)

theorem not_ranOut {records : List Json} {ds : List Deed} (h : ds.length < 4) :
    ¬RanOut c dataset records split pacing ds s t := by
  rintro ⟨v, w, poll, u, rfl, -⟩
  rw [List.length_append] at h
  exact absurd h (by simp [opening])

theorem ranOut_iff {records : List Json} {v w : Json} {poll : List Deed} {u : Session σ}
    {r : Except Failure PollOutcome} (haccepts : Bulk.Accepts w)
    (hopening : Course c s (opening dataset records split pacing v w) u)
    (hawait : (Visibility.await c split dataset.name pacing.cycles pacing.interval).run u = (r, t))
    (hpoll : Course c u poll t) (hvain : r = .ok .exhausted → poll.map Deed.move =
      Visibility.vainMoves split dataset.name pacing.cycles pacing.interval) :
    RanOut c dataset records split pacing (opening dataset records split pacing v w ++ poll) s t ↔
      r = .ok .exhausted := by
  constructor
  · rintro ⟨v', w', poll', u', heq, -, hopening', -, -, hawait'⟩
    obtain ⟨hsame, -⟩ := List.append_inj heq rfl
    rw [← hsame] at hopening'
    rw [← hopening.unique hopening', hawait] at hawait'
    exact congrArg Prod.fst hawait'
  · intro hr
    subst hr
    exact ⟨v, w, poll, u, rfl, haccepts, hopening, hpoll, hvain rfl, hawait⟩

theorem body_of_split {records : List Json} {index : Text} (hpos : 0 < split)
    (hle : split ≤ records.length) (hall : records.take split.toNat = records) :
    (Bulk.request records index split).payload = .body (.text
      (records.zipIdx.flatMap fun p => Bulk.recordLines index p.1 p.2)) := by
  obtain ⟨n, rfl⟩ : ∃ n : Nat, split = n := ⟨split.toNat, by omega⟩
  have hne : records.take n ≠ [] := by
    intro hnil
    have hlen := congrArg List.length hnil
    simp only [List.length_take, List.length_nil] at hlen
    omega
  have hencode := Bulk.encode_eq_lines index hne
  rw [Int.toNat_natCast] at hall
  rw [hall] at hencode
  rw [← hencode]
  rfl

/-- A run of loading: what it does on the way, and what follows from how it ends. -/
structure LoadRun (c : Client σ) (files : FileTree) (dataset : DatasetDefinition) (split : Int)
    (resources : Text) (pacing : Pacing) (records : List Json) (ds : List Deed) (s : Session σ)
    (r : Except Failure Instant) (t : Session σ) : Prop where
  course : Course c s ds t
  readFirst : ds ≠ [] → Fixture.readRecords files (Dataset.resource dataset.name Dataset.nameSpace)
    split resources = .ok records
  ordered : Ordered dataset records split pacing ds
  loaded : ∀ time, r = .ok time → Loaded files dataset split resources records ds time
  ranOut : RanOut c dataset records split pacing ds s t → r = .error (.ingestTimeout split dataset.name)
  onlyThen : ∀ e, r = .error e → e.IsIngestTimeout → RanOut c dataset records split pacing ds s t

theorem LoadRun.ofFailure {files : FileTree} {resources : Text} {records : List Json} {ds : List Deed}
    {e : Failure} (hread : ds ≠ [] → Fixture.readRecords files
      (Dataset.resource dataset.name Dataset.nameSpace) split resources = .ok records)
    (hcourse : Course c s ds t) (hordered : Ordered dataset records split pacing ds)
    (hnot : ¬e.IsIngestTimeout) (hran : ¬RanOut c dataset records split pacing ds s t) :
    LoadRun c files dataset split resources pacing records ds s (.error e) t where
  course := hcourse
  readFirst := hread
  ordered := hordered
  loaded := nofun
  ranOut h := absurd h hran
  onlyThen d hd h := by
    cases hd
    exact absurd h hnot

/-- However the cluster replies, loading does what is planned in the order that is planned, and how it
ends follows from what the cluster replied. -/
theorem load_follows_protocol (c : Client σ) (files : FileTree) (dataset : DatasetDefinition)
    (split : Int) (resources : Text) (pacing : Pacing) (s : Session σ) :
    ∃ records ds, LoadRun c files dataset split resources pacing records ds s
      ((load c files dataset split resources pacing).run s).1
      ((load c files dataset split resources pacing).run s).2 := by
  rcases hload : (load c files dataset split resources pacing).run s with ⟨r, t⟩
  rcases lift_bind_eq hload with ⟨e, he, rfl, rfl⟩ | ⟨records, hrecords, hrest⟩
  · obtain ⟨d, -, rfl⟩ := mapError_eq_error.mp he
    exact ⟨[], [], .ofFailure (absurd rfl) (.done t) .nothing (ofRecords_not_ingestTimeout d)
      (not_ranOut (by decide))⟩
  have hread := mapError_eq_ok.mp hrecords
  obtain ⟨items, hholds, htake, hobjects⟩ := Fixture.readRecords_eq_ok hread
  obtain ⟨outcome, t', houtcome, hend⟩ := run_bind_split hrest
  rcases ingest_course houtcome with ⟨d, rfl, hnot, rfl⟩ | ⟨hpos, hle, ⟨d, x, rfl, hnot, hcourse⟩ |
    ⟨d, v, x, rfl, hnot, hcourse⟩ | ⟨v, w, u, haccepts, hcourse, hawait⟩⟩
  · obtain ⟨rfl, rfl⟩ := hend
    exact ⟨records, [], .ofFailure (fun _ => hread) (.done _) .nothing hnot (not_ranOut (by simp))⟩
  · obtain ⟨rfl, rfl⟩ := hend
    exact ⟨records, _, .ofFailure (fun _ => hread) hcourse (.ofCreation _) hnot (not_ranOut (by simp))⟩
  · obtain ⟨rfl, rfl⟩ := hend
    exact ⟨records, _, .ofFailure (fun _ => hread) hcourse (.ofWriting _ _) hnot (not_ranOut (by simp))⟩
  obtain ⟨poll, hpoll, hprefix, hfound, hvain⟩ := Visibility.await_course hawait
  have hran := ranOut_iff haccepts hcourse hawait hpoll hvain
  rcases outcome with e | outcome
  · obtain ⟨rfl, rfl⟩ := hend
    exact ⟨records, _, .ofFailure (fun _ => hread) (hcourse.append hpoll) (.ofPolling haccepts hprefix)
      (Visibility.await_failsBy c _ _ _ _ _ _ _ hawait) (fun h => nomatch hran.mp h)⟩
  cases outcome with
  | exhausted =>
    cases hend
    exact ⟨records, _, hcourse.append hpoll, fun _ => hread, .ofPolling haccepts hprefix, nofun,
      fun _ => rfl, fun _ _ _ => hran.mpr rfl⟩
  | confirmed =>
    obtain ⟨rfl, rfl⟩ : trainTime (.arr records) split = r ∧ t' = t := Prod.mk.inj hend
    have hnot : ¬RanOut c dataset records split pacing _ s t' := fun h => nomatch hran.mp h
    cases htime : trainTime (.arr records) split with
    | error e =>
      exact ⟨records, _, .ofFailure (fun _ => hread) (hcourse.append hpoll) (.ofPolling haccepts hprefix)
        (trainTime_not_ingestTimeout htime) hnot⟩
    | ok time =>
      refine ⟨records, _, hcourse.append hpoll, fun _ => hread, .ofPolling haccepts hprefix, ?_,
        fun h => absurd h hnot, nofun⟩
      intro i hi
      cases hi
      have hlength : records.length ≤ items.length := by
        rw [htake]
        exact List.length_take_le' _ _
      have hall : records.take split.toNat = records := by
        rw [htake, List.take_take, min_self]
      obtain ⟨v', hv', hconfirms⟩ := hfound rfl
      exact {
        fixture := ⟨items, hpos, by omega, htake, hholds⟩
        objects := hobjects
        body := body_of_split hpos hle hall
        accepted := ⟨w, List.mem_append_left _ (by simp [opening]), haccepts⟩
        confirmed := ⟨v', List.mem_append_right _ hv', hconfirms⟩
        timed := trainTime_eq_ok hpos htime }

end Ingestion

end ClusterHarness
