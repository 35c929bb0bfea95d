import ClusterHarness.Proofs.Http.Reply
import ClusterHarness.Proofs.Ingestion.BulkReading

/-!
A cluster that lags behind: it keeps the documents of an index, but they can be found only after a
number of refreshes, and a search finds the latest of those that can be.
-/

namespace ClusterHarness

open Http Time

/-- What a cluster keeps of an index: the documents by their ids, those of them that can be found, and
how many refreshes it takes until all can be. -/
structure Shard where
  stored : Fields Json
  visible : Fields Json
  due : Nat

namespace Shard

def empty : Shard := ⟨[], [], 0⟩

def written (lag : Nat) (documents : Fields Json) (shard : Shard) : Shard :=
  let stored := documents.foldl (fun fields (id, v) => Fields.put id v fields) shard.stored
  ⟨stored, if lag = 0 then stored else shard.visible, lag⟩

def refreshed (shard : Shard) : Shard :=
  ⟨shard.stored, if shard.due - 1 = 0 then shard.stored else shard.visible, shard.due - 1⟩

/-- The documents were written to an empty index, and so many refreshes are to come. -/
def waiting (documents : Fields Json) (due : Nat) : Shard :=
  ⟨documents, if due = 0 then documents else [], due⟩

theorem written_empty {documents : Fields Json} (lag : Nat) (h : (documents.map Prod.fst).Nodup) :
    empty.written lag documents = waiting documents lag := by
  have hstored : documents.foldl (fun fields (id, v) => Fields.put id v fields) empty.stored = documents :=
    Fields.ofList_of_nodup h
  rw [written, hstored]
  rfl

theorem refreshed_waiting (documents : Fields Json) (due : Nat) :
    (waiting documents (due + 1)).refreshed = waiting documents due := rfl

end Shard

namespace Dataset

/-- The time of a document in milliseconds. -/
def millis? : Json → Option Int
  | .obj fields => (Fields.get? timestampField fields).bind fun raw =>
    (instantOf raw).toOption.map Instant.epochMillis
  | _ => none

/-- A document comes at a time, under a number. -/
structure Rank where
  millis : Int
  number : Nat

namespace Rank

instance : LE Rank := ⟨fun a b => a.millis < b.millis ∨ a.millis = b.millis ∧ a.number ≤ b.number⟩

instance (a b : Rank) : Decidable (a ≤ b) :=
  inferInstanceAs (Decidable (a.millis < b.millis ∨ a.millis = b.millis ∧ a.number ≤ b.number))

variable {a b c : Rank}

theorem le_iff : a ≤ b ↔ a.millis < b.millis ∨ a.millis = b.millis ∧ a.number ≤ b.number := .rfl

theorem le_refl (a : Rank) : a ≤ a := .inr ⟨rfl, Nat.le_refl _⟩

theorem le_trans (hab : a ≤ b) (hbc : b ≤ c) : a ≤ c := by
  rw [le_iff] at *
  omega

theorem le_of_not_le (h : ¬a ≤ b) : b ≤ a := by
  rw [le_iff] at *
  omega

theorem number_eq (hab : a ≤ b) (hba : b ≤ a) : a.number = b.number := by
  rw [le_iff] at *
  omega

end Rank

def HasRank (entry : Text × Json) (rank : Rank) : Prop :=
  millis? entry.2 = some rank.millis ∧ entry.1 = Text.ofNat rank.number

/-- The latest of some documents, of those of the same time the one with the greatest number. -/
def Latest (documents : Fields Json) (entry : Text × Json) : Prop :=
  entry ∈ documents ∧ ∃ rank, HasRank entry rank ∧
    ∀ other ∈ documents, ∃ lower, HasRank other lower ∧ lower ≤ rank

/-- All of the first records have a time, and the last of them has the latest. -/
def EndsLatest (records : List Json) (split : Nat) : Prop :=
  ∃ latest, (records[split - 1]?).bind millis? = some latest ∧
    ∀ record ∈ records.take split, ∃ millis, millis? record = some millis ∧ millis ≤ latest

theorem EndsLatest.latest {records : List Json} {last : Nat} (h : EndsLatest records (last + 1)) :
    ∃ record, Latest (Bulk.numbered 0 (records.take (last + 1))) (Text.ofNat last, record) := by
  obtain ⟨latest, hlast, hall⟩ := h
  obtain ⟨record, hrecord, htime⟩ := Option.bind_eq_some_iff.mp hlast
  have htaken : (records.take (last + 1))[last]? = some record := by
    rw [List.getElem?_take_of_lt (Nat.lt_succ_self last)]
    exact hrecord
  refine ⟨record, Bulk.mem_numbered.mpr ⟨last, htaken, by rw [Nat.zero_add]⟩, ⟨latest, last⟩,
    ⟨htime, rfl⟩, ?_⟩
  intro other hother
  obtain ⟨i, hi, hid⟩ := Bulk.mem_numbered.mp hother
  rw [Nat.zero_add] at hid
  obtain ⟨millis, hmillis, hle⟩ := hall other.2 (List.mem_of_getElem? hi)
  have hbound : i < (records.take (last + 1)).length := (List.getElem?_eq_some_iff.mp hi).1
  have hindex : i ≤ last := by
    rw [List.length_take] at hbound
    omega
  refine ⟨⟨millis, i⟩, ⟨hmillis, hid⟩, Rank.le_iff.mpr ?_⟩
  dsimp only
  omega

end Dataset

namespace Visibility

/-- The hits show the latest of the documents, if there is one. -/
def ShowsLatest (documents : Fields Json) (v : Json) : Prop :=
  ∃ found, HoldsHits v found ∧ (documents = [] → found = []) ∧
    ∀ entry, Dataset.Latest documents entry →
      ∃ hit, found = [.obj hit] ∧ Fields.get? "_id" hit = some (.str entry.1)

end Visibility

variable {σ : Type}

/-- A cluster that keeps an index and makes what a bulk request writes to it visible after a number of
refreshes. -/
structure Lagging (c : Client σ) (index : Text) (lag : Nat) (shard : σ → Shard) : Prop where
  creating : ∀ call far, call.method = ("PUT" : Text) → c.Reaches (Client.path index) call →
    c.Answers call far fun _ far' => shard far' = .empty
  writing : ∀ call far body documents, call.method = ("POST" : Text) → c.Reaches "_bulk" call →
    call.body = some (.text body) → Bulk.bodyDocuments index body = some documents →
    c.Answers call far fun v far' => Bulk.Accepts v ∧ shard far' = (shard far).written lag documents
  searching : ∀ call far, call.method = ("POST" : Text) →
    c.Reaches (Client.path (index ++ "/_search")) call →
    call.body = some (.text Dataset.latestDocumentQuery.render) →
    c.Answers call far fun v far' =>
      Visibility.ShowsLatest (shard far).visible v ∧ shard far' = shard far
  refreshing : ∀ call far, call.method = ("POST" : Text) →
    c.Reaches (Client.path (index ++ "/_refresh")) call →
    c.Answers call far fun _ far' => shard far' = (shard far).refreshed

end ClusterHarness
