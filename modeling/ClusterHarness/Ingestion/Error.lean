import ClusterHarness.Ingestion.Dataset
import ClusterHarness.Time.Timestamp

/-!
Errors of ingestion: records that cannot be taken, items that the cluster refused, and training data
without a readable end.
-/

namespace ClusterHarness

inductive IngestError where
  | noRecords (dataset : Text)
  | badSplit (split : Int) (dataset : Text) (loaded : Nat)
  | refusedItems (count : Nat) (dataset : Text) (shown : List Json)
  | noTimestamp (position : Int)
  | badTimestamp (raw : Json) (e : Time.TimestampError)

def IngestError.message : IngestError → Text
  | .noRecords dataset => "No records to ingest into " ++ dataset ++ "."
  | .badSplit split dataset loaded =>
    "Cannot ingest " ++ Text.ofInt split ++ " records into " ++ dataset ++ ", only " ++ Text.ofNat loaded
      ++ " were loaded."
  | .refusedItems count dataset shown =>
    Text.ofNat count ++ " documents failed to be indexed in " ++ dataset ++ ": " ++ (Json.arr shown).literal
  | .noTimestamp position => "Record " ++ Text.ofInt position ++ " has no " ++ Dataset.timestampField ++ "."
  | .badTimestamp raw e =>
    "Invalid " ++ Dataset.timestampField ++ " " ++ raw.literal ++ ": " ++ e.message

end ClusterHarness
