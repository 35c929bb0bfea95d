import ClusterHarness.Ingestion.Bulk
import ClusterHarness.Proofs.Text.Pieces

/-!
The body of a bulk request: for each record the line that names its document and the line that holds
it, every line ended by a line feed.
-/

namespace ClusterHarness

namespace Bulk

/-- The two lines of a record at its position. -/
def recordLines (index : Text) (record : Json) (position : Nat) : Text :=
  (actionLine index position).render ++ [10] ++ (record.render ++ [10])

theorem documents_lines (index : Text) (records : List Json) (position : Nat) :
    ((documents index position records).map Json.render).flatMap (· ++ [10]) =
      (records.zipIdx position).flatMap fun p => recordLines index p.1 p.2 := by
  induction records generalizing position with
  | nil => rfl
  | cons record records ih =>
    rw [documents, List.map_cons, List.map_cons, List.flatMap_cons, List.flatMap_cons, ih,
      List.zipIdx_cons, List.flatMap_cons, recordLines]
    simp only [List.append_assoc]

theorem documents_ne_nil {records : List Json} (index : Text) (position : Nat) (h : records ≠ []) :
    documents index position records ≠ [] := by
  cases records with
  | nil => exact absurd rfl h
  | cons record records => exact List.cons_ne_nil _ _

theorem head_natCast {α : Type} (split : Nat) (items : List α) :
    head (split : Int) items = items.take split := rfl

theorem encode_eq_flatMap (index : Text) {records : List Json} {split : Nat} (h : records.take split ≠ []) :
    encode records index split =
      ((documents index 0 (records.take split)).map Json.render).flatMap (· ++ [10]) := by
  rw [encode, head_natCast, Text.join_append_mark]
  intro hnil
  exact documents_ne_nil index 0 h (List.map_eq_nil_iff.mp hnil)

theorem encode_eq_lines (index : Text) {records : List Json} {split : Nat}
    (h : records.take split ≠ []) :
    encode records index split =
      (records.take split).zipIdx.flatMap fun p => recordLines index p.1 p.2 := by
  rw [encode_eq_flatMap index h, documents_lines]

end Bulk

end ClusterHarness
