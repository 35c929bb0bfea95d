import ClusterHarness.Proofs.Ingestion.Loading
import ClusterHarness.Proofs.Ingestion.Shard

/-!
Ingestion into a cluster that lags behind: what is written can be found only after a number of
refreshes. The waiting confirms what was written exactly when that number is within the cycles it is
given, and it asks and refreshes no more often than it has to.
-/

namespace ClusterHarness

open Http Time ClusterHarness.Action Client

variable {σ : Type}

section Runs

variable {c : Client σ} {index : Text} {lag : Nat} {shard : σ → Shard} {documents : Fields Json}

theorem createIndex_run (hosts : 0 < c.baseUrls.length) (lagging : Lagging c index lag shard)
    (mapping : Json) {settle : Seconds} (hsettle : settle.IsPause) (s : Session σ) :
    ∃ t, (Ingestion.createIndex c index mapping settle).run s = (.ok (), t) ∧
      Takes c s [.json (Ingestion.createRequest index mapping) (some false), .sleep settle] t ∧
      shard t.far = .empty := by
  obtain ⟨v, t, hrun, hempty⟩ := json_run (some false) hosts
    (Ingestion.createRequest_consists index mapping).target
    (lagging.creating _ s.far rfl (c.reaches_hostCall hosts _ _ _ s))
  refine ⟨_, ?_, (Takes.ofJson hrun).append (.ofSleep c t hsettle), hempty⟩
  exact (run_bind_ok hrun _).trans (run_sleep hsettle t)

theorem write_run (hosts : 0 < c.baseUrls.length) (lagging : Lagging c index lag shard)
    (hindex : Json.Dialect.document.admits index) {records : List Json} {split : Nat}
    (hsome : records.take split ≠ []) (hkept : ∀ record ∈ records.take split, Json.Kept record)
    {s : Session σ} (hs : shard s.far = .empty) :
    ∃ t, (Bulk.write c records index split).run s = (.ok (), t) ∧
      Takes c s [.json (Bulk.request records index split) none] t ∧
      shard t.far = .waiting (Bulk.numbered 0 (records.take split)) lag := by
  obtain ⟨v, t, hrun, ⟨errors, hmember, herrors⟩, hwritten⟩ := json_run none hosts
    (Bulk.request_consists records index split).target
    (lagging.writing _ s.far _ _ rfl (c.reaches_hostCall hosts _ _ _ s) rfl
      (Bulk.bodyDocuments_encode hindex hsome hkept))
  refine ⟨t, ?_, .ofJson hrun, ?_⟩
  · have hlift : (lift ((v.member "errors").mapError Failure.shape) : Action σ Json).run t =
        (.ok errors, t) := by
      rw [hmember]
      rfl
    rw [Bulk.write, run_bind_ok hrun, run_bind_ok hlift, herrors]
    rfl
  · rw [hwritten, hs, Shard.written_empty lag (Bulk.numbered_nodup 0 _)]

namespace Visibility

variable {s : Session σ}

theorem search_run (hosts : 0 < c.baseUrls.length) (lagging : Lagging c index lag shard) (s : Session σ) :
    ∃ found t, (search c index Dataset.latestDocumentQuery).run s = (.ok (.arr found), t) ∧
      Takes c s [.json (latestRequest index) none] t ∧ shard t.far = shard s.far ∧
      ((shard s.far).visible = [] → found = []) ∧
      ∀ entry, Dataset.Latest (shard s.far).visible entry →
        ∃ hit, found = [.obj hit] ∧ Fields.get? "_id" hit = some (.str entry.1) := by
  obtain ⟨v, t, hrun, ⟨found, hholds, hnone, hlatest⟩, hsame⟩ := json_run none hosts
    (latestRequest_consists index).target
    (lagging.searching _ s.far rfl (c.reaches_hostCall hosts _ _ _ s) rfl)
  refine ⟨found, t, ?_, .ofJson hrun, hsame, hnone, hlatest⟩
  refine (run_bind_ok hrun _).trans ?_
  rw [hholds.hits]
  rfl

theorem attempt_found (hosts : 0 < c.baseUrls.length) (lagging : Lagging c index lag shard)
    {entry : Text × Json} (hentry : Dataset.Latest documents entry)
    (hs : shard s.far = .waiting documents 0) :
    ∃ t, (attempt c index entry.1).run s = (.ok true, t) ∧
      Takes c s [.json (latestRequest index) none] t ∧ shard t.far = .waiting documents 0 := by
  obtain ⟨found, t, hrun, htakes, hsame, -, hlatest⟩ := search_run hosts lagging s
  obtain ⟨hit, rfl, hid⟩ := hlatest entry (by rw [hs]; exact hentry)
  have hdocument : isDocument entry.1 (.arr [.obj hit]) = .ok true :=
    isDocument_eq_true.mpr ⟨hit, rfl, by rw [hid]; rfl⟩
  refine ⟨t, ?_, htakes, hsame.trans hs⟩
  rw [attempt, run_bind_ok hrun, hdocument]
  rfl

theorem attempt_vain (hosts : 0 < c.baseUrls.length) (lagging : Lagging c index lag shard) (id : Text)
    {due : Nat} (hs : shard s.far = .waiting documents (due + 1)) :
    ∃ t, (attempt c index id).run s = (.ok false, t) ∧
      Takes c s [.json (latestRequest index) none, .json (refreshRequest index) none] t ∧
      shard t.far = .waiting documents due := by
  obtain ⟨found, t, hrun, htakes, hsame, hnone, -⟩ := search_run hosts lagging s
  obtain rfl := hnone (by rw [hs]; rfl)
  obtain ⟨v, u, hrefresh, hrefreshed⟩ := json_run none hosts (refreshRequest_consists index).target
    (lagging.refreshing _ t.far rfl (c.reaches_hostCall hosts _ _ _ t))
  refine ⟨u, ?_, htakes.append (.ofJson hrefresh), ?_⟩
  · have hdocument : isDocument id (.arr []) = .ok false := rfl
    rw [attempt, run_bind_ok hrun, hdocument]
    exact run_bind_ok hrefresh _
  · rw [hrefreshed, hsame, hs, Shard.refreshed_waiting]

theorem attempts_found (hosts : 0 < c.baseUrls.length) (lagging : Lagging c index lag shard)
    {entry : Text × Json} (hentry : Dataset.Latest documents entry) {pause : Seconds} (hpause : pause.IsPause)
    {due more : Nat} (hle : due ≤ more) (hs : shard s.far = .waiting documents due) :
    ∃ t, (attempts c index entry.1 pause more).run s = (.ok true, t) ∧
      Takes c s (vainRounds index pause due ++ [.json (latestRequest index) none]) t ∧
      shard t.far = .waiting documents 0 := by
  -- on the refreshes to come: a vain round is one of them, and one of the attempts that are left
  induction due generalizing more s with
  | zero =>
    obtain ⟨t, hrun, htakes, ht⟩ := attempt_found hosts lagging hentry hs
    refine ⟨t, ?_, htakes, ht⟩
    cases more with
    | zero => exact hrun
    | succ more =>
      rw [attempts, run_bind, hrun]
      rfl
  | succ due ih =>
    cases more with
    | zero => exact absurd hle (Nat.not_succ_le_zero due)
    | succ more =>
      obtain ⟨u, hvain, hround, hu⟩ := attempt_vain hosts lagging _ hs
      obtain ⟨t, hrun, htakes, ht⟩ := ih (s := { u with trace := u.trace ++ [.sleep pause] })
        (Nat.le_of_succ_le_succ hle) hu
      refine ⟨t, ?_, ?_, ht⟩
      · rw [attempts_next hpause hvain, hrun]
      · rw [vainRounds_succ]
        exact (hround.append (.ofSleep c u hpause)).append htakes

theorem attempts_exhausted (hosts : 0 < c.baseUrls.length) (lagging : Lagging c index lag shard)
    (id : Text) {pause : Seconds} (hpause : pause.IsPause) {due more : Nat} (hlt : more < due)
    (hs : shard s.far = .waiting documents due) :
    ∃ t, (attempts c index id pause more).run s = (.ok false, t) ∧
      Takes c s (vainRounds index pause more ++
        [.json (latestRequest index) none, .json (refreshRequest index) none]) t := by
  -- on the attempts that are left: there are fewer of them than refreshes to come, before and after
  induction more generalizing due s with
  | zero =>
    obtain ⟨due, rfl⟩ := Nat.exists_eq_succ_of_ne_zero (Nat.ne_of_gt hlt)
    obtain ⟨t, hrun, htakes, -⟩ := attempt_vain hosts lagging id hs
    exact ⟨t, hrun, htakes⟩
  | succ more ih =>
    obtain ⟨due, rfl⟩ := Nat.exists_eq_succ_of_ne_zero (Nat.ne_of_gt (Nat.zero_lt_of_lt hlt))
    obtain ⟨u, hvain, hround, hu⟩ := attempt_vain hosts lagging _ hs
    obtain ⟨t, hrun, htakes⟩ := ih (s := { u with trace := u.trace ++ [.sleep pause] })
      (Nat.lt_of_succ_lt_succ hlt) hu
    refine ⟨t, ?_, ?_⟩
    · rw [attempts_next hpause hvain, hrun]
    · rw [vainRounds_succ]
      exact (hround.append (.ofSleep c u hpause)).append htakes

theorem expected_id (last : Nat) : Text.ofInt ((last + 1 : Nat) - 1 : Int) = Text.ofNat last := by
  have hpred : ((last + 1 : Nat) : Int) - 1 = (last : Int) := by omega
  rw [hpred]
  rfl

theorem await_confirmed (hosts : 0 < c.baseUrls.length) (lagging : Lagging c index lag shard) {last : Nat}
    {record : Json} (hlatest : Dataset.Latest documents (Text.ofNat last, record)) {interval pause : Seconds}
    (hinterval : pauseOf interval = .ok pause) (hpause : pause.IsPause) {due cycles : Nat} (hle : due ≤ cycles)
    (hs : shard s.far = .waiting documents due) :
    ∃ t, (await c (last + 1 : Nat) index cycles interval).run s = (.ok .confirmed, t) ∧
      Takes c s (vainRounds index pause due ++ [.json (latestRequest index) none]) t ∧
      shard t.far = .waiting documents 0 := by
  obtain ⟨t, hrun, htakes, ht⟩ := attempts_found hosts lagging hlatest hpause hle hs
  refine ⟨t, ?_, htakes, ht⟩
  rw [await, hinterval, expected_id]
  exact run_bind_ok hrun _

theorem await_exhausted (hosts : 0 < c.baseUrls.length) (lagging : Lagging c index lag shard) (last : Nat)
    {interval pause : Seconds} (hinterval : pauseOf interval = .ok pause) (hpause : pause.IsPause)
    {due cycles : Nat} (hlt : cycles < due) (hs : shard s.far = .waiting documents due) :
    ∃ t, (await c (last + 1 : Nat) index cycles interval).run s = (.ok .exhausted, t) ∧
      Takes c s (vainRounds index pause cycles ++ [.json (latestRequest index) none,
        .json (refreshRequest index) none] ++
          [.log .error (exhaustedNote (Text.ofNat last) index cycles)]) t := by
  obtain ⟨u, hrun, htakes⟩ := attempts_exhausted hosts lagging (Text.ofNat last) hpause hlt hs
  refine ⟨_, ?_, htakes.append (.ofLog c u .error _)⟩
  rw [await, hinterval, expected_id]
  exact run_bind_ok hrun _

end Visibility

namespace Ingestion

/-- What is done before the waiting. -/
def openingMoves (index : Text) (records : List Json) (split : Int) (mapping : Json) (settle : Seconds) :
    List Move :=
  [.json (createRequest index mapping) (some false), .sleep settle,
    .json (Bulk.request records index split) none, .sleep settle]

theorem ingest_opens (hosts : 0 < c.baseUrls.length) (lagging : Lagging c index lag shard)
    (hindex : Json.Dialect.document.admits index) {records : List Json} {split : Nat}
    (hpositive : 0 < split) (hle : split ≤ records.length)
    (hkept : ∀ record ∈ records.take split, Json.Kept record) (mapping : Json) (pacing : Pacing)
    (hsettle : pacing.settle.IsPause) (s : Session σ) :
    ∃ t, (ingest c index (.arr records) split mapping pacing).run s =
        (Visibility.await c split index pacing.cycles pacing.interval).run t ∧
      Takes c s (openingMoves index records split mapping pacing.settle) t ∧
      shard t.far = .waiting (Bulk.numbered 0 (records.take split)) lag := by
  have hsome : records.take split ≠ [] := by
    rw [ne_eq, List.take_eq_nil_iff]
    rintro (rfl | rfl)
    · exact Nat.lt_irrefl 0 hpositive
    · exact Nat.lt_irrefl 0 (hpositive.trans_le hle)
  obtain ⟨u, hcreate, hcreated, hempty⟩ := createIndex_run hosts lagging mapping hsettle s
  obtain ⟨w, hwrite, hwritten, hw⟩ := write_run hosts lagging hindex hsome hkept hempty
  refine ⟨_, ?_, (hcreated.append hwritten).append (.ofSleep c w hsettle), hw⟩
  have hcheck : (lift (checkSplit index (.arr records) split) : Action σ Unit).run s = (.ok (), s) := by
    rw [checkSplit_eq_ok.mpr ⟨by omega, by omega⟩]
    rfl
  rw [ingest, run_bind_ok hcheck, run_bind_ok hcreate]
  exact (run_bind_ok hwrite _).trans (run_bind_ok (run_sleep hsettle w) _)

/-- The waiting confirms the records exactly when the lag is within the cycles, after as many vain rounds
as the lag is long; all of the records and nothing else can be found then. That the settling time and the
interval are pauses is all that is asked of them. -/
theorem ingest_confirms_iff (hosts : 0 < c.baseUrls.length) (lagging : Lagging c index lag shard)
    (hindex : Json.Dialect.document.admits index) {records : List Json} {split : Nat}
    (hpositive : 0 < split) (hle : split ≤ records.length)
    (hkept : ∀ record ∈ records.take split, Json.Kept record)
    (hlatest : Dataset.EndsLatest records split) (mapping : Json) (settle : Seconds)
    (hsettle : settle.IsPause) (cycles : Nat) (interval : Seconds) {pause : Seconds}
    (hinterval : Visibility.pauseOf interval = .ok pause) (hpause : pause.IsPause) (s : Session σ) :
    ∃ outcome t, (ingest c index (.arr records) split mapping ⟨settle, cycles, interval⟩).run s =
        (.ok outcome, t) ∧
      (outcome = .confirmed ↔ lag ≤ cycles) ∧
      (lag ≤ cycles →
        Takes c s (openingMoves index records split mapping settle ++
          (Visibility.vainRounds index pause lag ++ [.json (Visibility.latestRequest index) none])) t ∧
        (shard t.far).visible = Bulk.numbered 0 (records.take split)) ∧
      (cycles < lag →
        Takes c s (openingMoves index records split mapping settle ++
          (Visibility.vainRounds index pause cycles ++ [.json (Visibility.latestRequest index) none,
            .json (Visibility.refreshRequest index) none] ++
            [.log .error (Visibility.exhaustedNote (Text.ofNat (split - 1)) index cycles)])) t) := by
  obtain ⟨u, hopen, hopening, hu⟩ :=
    ingest_opens hosts lagging hindex hpositive hle hkept mapping ⟨settle, cycles, interval⟩ hsettle s
  obtain ⟨last, rfl⟩ := Nat.exists_eq_succ_of_ne_zero (Nat.ne_of_gt hpositive)
  rw [hopen]
  rcases Nat.lt_or_ge cycles lag with hlt | hge
  · obtain ⟨t, hrun, htakes⟩ := Visibility.await_exhausted hosts lagging last hinterval hpause hlt hu
    exact ⟨.exhausted, t, hrun, ⟨nofun, fun h => absurd h (Nat.not_le.mpr hlt)⟩,
      fun h => absurd h (Nat.not_le.mpr hlt), fun _ => hopening.append htakes⟩
  · obtain ⟨record, hrecord⟩ := hlatest.latest
    obtain ⟨t, hrun, htakes, ht⟩ := Visibility.await_confirmed hosts lagging hrecord hinterval hpause hge hu
    refine ⟨.confirmed, t, hrun, ⟨fun _ => hge, fun _ => rfl⟩, fun _ => ⟨hopening.append htakes, ?_⟩,
      fun h => absurd h (Nat.not_lt.mpr hge)⟩
    rw [ht]
    rfl

end Ingestion

end Runs

/-! ### A cluster that lags behind -/

namespace Shard

def rank (entry : Text × Json) : Dataset.Rank :=
  ⟨(Dataset.millis? entry.2).getD 0, Json.digitsValue entry.1⟩

theorem rank_eq {entry : Text × Json} {r : Dataset.Rank} (h : Dataset.HasRank entry r) : rank entry = r := by
  rw [rank, h.1, h.2, Text.digitsValue_ofNat]
  rfl

/-- A document of the highest rank. -/
def highest? : Fields Json → Option (Text × Json)
  | [] => none
  | entry :: entries =>
    match highest? entries with
    | some best => if rank entry ≤ rank best then some best else some entry
    | none => some entry

theorem highest?_spec (documents : Fields Json) :
    (highest? documents = none → documents = []) ∧ ∀ best, highest? documents = some best →
      best ∈ documents ∧ ∀ entry ∈ documents, rank entry ≤ rank best := by
  induction documents with
  | nil => exact ⟨fun _ => rfl, nofun⟩
  | cons entry entries ih =>
    rw [highest?]
    cases hbest : highest? entries with
    | none =>
      obtain rfl := ih.1 hbest
      refine ⟨nofun, fun best h => ?_⟩
      obtain rfl := Option.some.inj h
      exact ⟨List.mem_singleton_self _, List.forall_mem_singleton.mpr (Dataset.Rank.le_refl _)⟩
    | some best =>
      obtain ⟨hmem, hall⟩ := ih.2 best hbest
      dsimp only
      split
      · next hle =>
        refine ⟨nofun, fun found h => ?_⟩
        obtain rfl := Option.some.inj h
        exact ⟨List.mem_cons_of_mem _ hmem, List.forall_mem_cons.mpr ⟨hle, hall⟩⟩
      · next hgt =>
        refine ⟨nofun, fun found h => ?_⟩
        obtain rfl := Option.some.inj h
        have hbelow := Dataset.Rank.le_of_not_le hgt
        exact ⟨List.mem_cons_self, List.forall_mem_cons.mpr
          ⟨Dataset.Rank.le_refl _, fun other hother => Dataset.Rank.le_trans (hall other hother) hbelow⟩⟩

def latestHits (documents : Fields Json) : List Json :=
  match highest? documents with
  | some entry => [.obj [("_id", .str (Text.ofNat (rank entry).number))]]
  | none => []

def searchReply (documents : Fields Json) : Json :=
  .obj [("hits", .obj [("hits", .arr (latestHits documents))])]

theorem searchReply_showsLatest (documents : Fields Json) :
    Visibility.ShowsLatest documents (searchReply documents) := by
  refine ⟨latestHits documents, ⟨_, _, rfl, rfl, rfl⟩, ?_, ?_⟩
  · rintro rfl
    rfl
  · rintro entry ⟨hmem, r, hrank, hgreatest⟩
    obtain ⟨hnone, hsome⟩ := highest?_spec documents
    cases hbest : highest? documents with
    | none => exact absurd (hnone hbest) (List.ne_nil_of_mem hmem)
    | some best =>
      obtain ⟨hin, hall⟩ := hsome best hbest
      obtain ⟨lower, hlower, hle⟩ := hgreatest best hin
      have hge := hall entry hmem
      rw [rank_eq hrank, rank_eq hlower] at hge
      have hnumber := Dataset.Rank.number_eq hle hge
      refine ⟨_, by rw [latestHits, hbest], ?_⟩
      rw [rank_eq hlower, hnumber, hrank.2]
      rfl

theorem searchReply_kept (documents : Fields Json) : Json.Kept (searchReply documents) := by
  unfold searchReply latestHits
  cases highest? documents with
  | none => exact ⟨by decide, by decide⟩
  | some entry =>
    have hid := Json.admits_ofNat (rank entry).number
    refine ⟨?_, (by decide : 4 ≤ 990)⟩
    simp [Json.isPortable, Json.isPortableFields, Json.isPortableItems, hid]
    decide

def urls (path : Text) : List Text := threeHosts.baseUrls.map fun base => base ++ ClientSettings.slash :: path

/-- Serves the index of the rule dataset. -/
def wire (lag : Nat) (call : Call) (shard : Shard) : Outcome × Shard :=
  if call.method = ("PUT" : Text) then (.response (.holding (.obj [])), .empty)
  else if call.url ∈ urls "_bulk" then
    match call.body with
    | some (.text body) =>
      match Bulk.bodyDocuments Dataset.ruleName body with
      | some documents =>
        (.response (.holding (.obj [("errors", .bool false)])), shard.written lag documents)
      | none => (.fault .silence "no documents", shard)
    | _ => (.fault .silence "no text", shard)
  else if call.url ∈ urls "rule/_search" then (.response (.holding (searchReply shard.visible)), shard)
  else (.response (.holding (.obj [])), shard.refreshed)

def client (lag : Nat) : Client Shard := ⟨threeHosts, wire lag⟩

theorem mem_urls {lag : Nat} {path : Text} {call : Call} (h : (client lag).Reaches path call) :
    call.url ∈ urls path := by
  obtain ⟨base, hbase, hurl⟩ := h
  exact List.mem_map.mpr ⟨base, hbase, hurl.symm⟩

theorem urls_distinct : (∀ url ∈ urls "rule/_search", url ∉ urls "_bulk") ∧
    ∀ url ∈ urls "rule/_refresh", url ∉ urls "_bulk" ∧ url ∉ urls "rule/_search" := by decide

theorem client_lagging (lag : Nat) : Lagging (client lag) Dataset.ruleName lag id := by
  have hempty : (Response.holding (.obj [])).Gives (.obj []) := Response.holding_gives (by decide) (by decide)
  have hpost : ("POST" : Text) ≠ "PUT" := by decide
  refine ⟨?_, ?_, ?_, ?_⟩
  · intro call shard hmethod _
    exact ⟨_, .empty, _, if_pos hmethod, hempty, rfl⟩
  · intro call shard body documents hmethod hreach hbody hdocuments
    refine ⟨.holding (.obj [("errors", .bool false)]), shard.written lag documents, _, ?_,
      Response.holding_gives (by decide) (by decide), ⟨.bool false, rfl, rfl⟩, rfl⟩
    change wire lag call shard = _
    rw [wire, hmethod, if_neg hpost, if_pos (mem_urls hreach), hbody]
    simp only [hdocuments]
  · intro call shard hmethod hreach _
    have hkept := searchReply_kept shard.visible
    have hurl : call.url ∈ urls "rule/_search" := mem_urls hreach
    refine ⟨_, shard, _, ?_, Response.holding_gives hkept.portable hkept.shallow,
      searchReply_showsLatest shard.visible, rfl⟩
    change wire lag call shard = _
    rw [wire, hmethod, if_neg hpost, if_neg (urls_distinct.1 _ hurl), if_pos hurl]
  · intro call shard hmethod hreach
    have hurl := urls_distinct.2 _ (mem_urls hreach)
    refine ⟨_, shard.refreshed, _, ?_, hempty, rfl⟩
    change wire lag call shard = _
    rw [wire, hmethod, if_neg hpost, if_neg hurl.1, if_neg hurl.2]

/-- Two records, their times written in different ways. -/
def records : List Json :=
  [.obj [("timestamp", .int 1000)], .obj [("timestamp", .str "1970-01-01T00:00:01Z")]]

theorem records_endLatest : Dataset.EndsLatest records 2 := by
  refine ⟨1000, by decide, ?_⟩
  intro record hrecord
  rcases List.mem_cons.mp hrecord with rfl | hrecord
  · exact ⟨1000, by decide, le_rfl⟩
  · rw [List.mem_singleton.mp hrecord]
    exact ⟨1000, by decide, le_rfl⟩

end Shard

open Shard in
/-- With a lag of two, two cycles are enough and one is not. -/
theorem ingest_confirms_at_the_boundary :
    0 < (client 2).baseUrls.length ∧ Lagging (client 2) Dataset.ruleName 2 id ∧
      Json.Dialect.document.admits Dataset.ruleName ∧ 0 < 2 ∧ 2 ≤ records.length ∧
      (∀ record ∈ records.take 2, Json.Kept record) ∧ Dataset.EndsLatest records 2 ∧
      Ingestion.defaultSettle.IsPause ∧
      Visibility.pauseOf Visibility.defaultInterval = .ok Visibility.defaultInterval ∧
      Visibility.defaultInterval.IsPause ∧
      (∃ t, (Ingestion.ingest (client 2) Dataset.ruleName (.arr records) (2 : Nat) .null
          ⟨Ingestion.defaultSettle, (2 : Nat), Visibility.defaultInterval⟩).run ⟨0, .empty, []⟩ =
          (.ok .confirmed, t) ∧ t.far.visible = Bulk.numbered 0 (records.take 2)) ∧
      ∃ t, (Ingestion.ingest (client 2) Dataset.ruleName (.arr records) (2 : Nat) .null
          ⟨Ingestion.defaultSettle, (1 : Nat), Visibility.defaultInterval⟩).run ⟨0, .empty, []⟩ =
          (.ok .exhausted, t) := by
  have hosts : 0 < (client 2).baseUrls.length := by decide
  have hadmits : Json.Dialect.document.admits Dataset.ruleName := by decide
  have hkept : ∀ record ∈ records.take 2, Json.Kept record := by
    intro record hrecord
    rcases List.mem_cons.mp hrecord with rfl | hrecord
    · exact ⟨by decide, by decide⟩
    · rw [List.mem_singleton.mp hrecord]
      exact ⟨by decide, by decide⟩
  have hsettle : Ingestion.defaultSettle.IsPause := by decide +kernel
  have hpause : Visibility.defaultInterval.IsPause := by decide +kernel
  refine ⟨hosts, client_lagging 2, hadmits, by decide, by decide, hkept, records_endLatest, hsettle, rfl,
    hpause, ?_, ?_⟩
  · obtain ⟨outcome, t, hrun, houtcome, hfound, -⟩ :=
      Ingestion.ingest_confirms_iff hosts (client_lagging 2) hadmits (by decide) (by decide) hkept
        records_endLatest .null Ingestion.defaultSettle hsettle 2 Visibility.defaultInterval rfl hpause
        ⟨0, .empty, []⟩
    rw [houtcome.mpr le_rfl] at hrun
    exact ⟨t, hrun, (hfound le_rfl).2⟩
  · obtain ⟨outcome, t, hrun, houtcome, -⟩ :=
      Ingestion.ingest_confirms_iff hosts (client_lagging 2) hadmits (by decide) (by decide) hkept
        records_endLatest .null Ingestion.defaultSettle hsettle 1 Visibility.defaultInterval rfl hpause
        ⟨0, .empty, []⟩
    cases outcome with
    | confirmed => exact absurd (houtcome.mp rfl) (by decide)
    | exhausted => exact ⟨t, hrun⟩

end ClusterHarness
