import ClusterHarness.Proofs.Ingestion.Loading
import ClusterHarness.Proofs.Json.Reading
import ClusterHarness.Proofs.Json.RoundTrip

/-!
Reading the body of a bulk request, line pair by line pair: what comes out are the records that were
written, each under the number of its position.
-/

namespace ClusterHarness

namespace Json

theorem feed_not_mem_render (v : Json) : (10 : CodePoint) ∉ render v := by
  intro h
  have hlow := (render_printable v 10 h).1
  exact absurd hlow (by decide)

theorem admits_ofNat (n : Nat) : Dialect.document.admits (Text.ofNat n) := by
  refine Dialect.document.admits_of_scalars fun c hc => CodePoint.isSurrogate_eq_false.mpr (.inl ?_)
  have hdigit := Text.ofNat_digits n c hc
  simp only [CodePoint.isAsciiDigit, Bool.and_eq_true, decide_eq_true_eq] at hdigit
  omega

end Json

namespace Bulk

/-- The lines of a body that have something in them. -/
def bodyLines (body : Text) : List Text := (Text.splitOn body [10]).filter fun line => !line.isEmpty

/-- The index and the id that an action line names. -/
def target? : Json → Option (Text × Text)
  | .obj fields =>
    match Fields.get? "index" fields with
    | some (.obj target) =>
      match Fields.get? "_index" target, Fields.get? "_id" target with
      | some (.str name), some (.str id) => some (name, id)
      | _, _ => none
    | _ => none
  | _ => none

/-- The documents for an index, each by its id, from pairs of an action line and a source line. -/
def pairDocuments (index : Text) : List Text → Option (Fields Json)
  | [] => some []
  | [_] => none
  | action :: source :: lines =>
    match Json.read .document action, Json.read .document source with
    | .ok action, .ok document => do
      let (name, id) ← target? action
      let documents ← pairDocuments index lines
      return if name = index then (id, document) :: documents else documents
    | _, _ => none

/-- The documents that a body holds for an index. -/
def bodyDocuments (index body : Text) : Option (Fields Json) := pairDocuments index (bodyLines body)

/-- Records under the numbers of their positions. -/
def numbered (position : Nat) : List Json → Fields Json
  | [] => []
  | record :: records => (Text.ofNat position, record) :: numbered (position + 1) records

theorem mem_numbered {position : Nat} {records : List Json} {entry : Text × Json} :
    entry ∈ numbered position records ↔
      ∃ i, records[i]? = some entry.2 ∧ entry.1 = Text.ofNat (position + i) := by
  induction records generalizing position with
  | nil => simp [numbered]
  | cons record records ih =>
    rw [numbered, List.mem_cons, ih]
    constructor
    · rintro (rfl | ⟨i, hi, hid⟩)
      · exact ⟨0, rfl, rfl⟩
      · exact ⟨i + 1, hi, by rw [hid, Nat.add_right_comm, Nat.add_assoc]⟩
    · rintro ⟨_ | i, hi, hid⟩
      · exact .inl (Prod.ext hid (Option.some.inj hi).symm)
      · exact .inr ⟨i, hi, by rw [hid, Nat.add_right_comm, Nat.add_assoc]⟩

theorem numbered_nodup (position : Nat) (records : List Json) :
    ((numbered position records).map Prod.fst).Nodup := by
  induction records generalizing position with
  | nil => exact List.nodup_nil
  | cons record records ih =>
    refine List.nodup_cons.mpr ⟨fun hmem => ?_, ih (position + 1)⟩
    obtain ⟨entry, hentry, hid⟩ := List.mem_map.mp hmem
    obtain ⟨i, -, hi⟩ := mem_numbered.mp hentry
    have hsame : position + 1 + i = position := Text.ofNat_inj (hi.symm.trans hid)
    omega

theorem actionLine_kept {index : Text} (hindex : Json.Dialect.document.admits index) (position : Nat) :
    Json.Kept (actionLine index position) where
  portable := by
    have hnames : Json.Dialect.document.admits "index" ∧ Json.Dialect.document.admits "_index" ∧
        Json.Dialect.document.admits "_id" := by decide
    have hdistinct : (["_index", "_id"] : List Text).Nodup := by decide
    refine Json.isPortable_obj.mpr ⟨.inr (List.nodup_singleton _), fun f hf => ?_⟩
    rw [List.mem_singleton.mp hf]
    refine ⟨hnames.1, Json.isPortable_obj.mpr ⟨.inr hdistinct, fun g hg => ?_⟩⟩
    rcases List.mem_cons.mp hg with rfl | hg
    · exact ⟨hnames.2.1, hindex⟩
    · rw [List.mem_singleton.mp hg]
      exact ⟨hnames.2.2, Json.admits_ofNat position⟩
  shallow := (by decide : 2 ≤ 990)

theorem target?_actionLine (index : Text) (position : Nat) :
    target? (actionLine index position) = some (index, Text.ofNat position) := rfl

theorem pairDocuments_documents {index : Text} (hindex : Json.Dialect.document.admits index)
    {records : List Json} (hrecords : ∀ record ∈ records, Json.Kept record) (position : Nat) :
    pairDocuments index ((documents index position records).map Json.render) =
      some (numbered position records) := by
  induction records generalizing position with
  | nil => rfl
  | cons record records ih =>
    have haction := (actionLine_kept hindex position).read_render
    have hrecord := (hrecords record List.mem_cons_self).read_render
    have hrest := ih (fun r hr => hrecords r (List.mem_cons_of_mem _ hr)) (position + 1)
    rw [documents, List.map_cons, List.map_cons, pairDocuments, haction, hrecord]
    simp only [target?_actionLine, hrest, numbered]
    exact congrArg some (if_pos rfl)

theorem splitOn_encode (index : Text) {records : List Json} {split : Nat} (h : records.take split ≠ []) :
    Text.splitOn (encode records index split) [10] =
      (documents index 0 (records.take split)).map Json.render ++ [[]] := by
  have hfeed : ∀ line ∈ (documents index 0 (records.take split)).map Json.render,
      (10 : CodePoint) ∉ line := by
    intro line hline
    obtain ⟨v, -, rfl⟩ := List.mem_map.mp hline
    exact Json.feed_not_mem_render v
  rw [encode_eq_flatMap index h, Text.splitOn_lines hfeed]

theorem line_ne_nil {documents : List Json} {line : Text} (h : line ∈ documents.map Json.render) :
    line ≠ [] := by
  obtain ⟨v, -, rfl⟩ := List.mem_map.mp h
  exact (Json.render_opens v).nonempty

theorem bodyLines_encode (index : Text) {records : List Json} {split : Nat}
    (h : records.take split ≠ []) :
    bodyLines (encode records index split) =
      (documents index 0 (records.take split)).map Json.render := by
  rw [bodyLines, splitOn_encode index h, List.filter_append,
    List.filter_eq_self.mpr fun line hline => ?_]
  · exact List.append_nil _
  · simpa using line_ne_nil hline

/-- The body of a bulk request holds the records it was made of, and nothing else. -/
theorem bodyDocuments_encode {index : Text} (hindex : Json.Dialect.document.admits index)
    {records : List Json} {split : Nat} (h : records.take split ≠ [])
    (hrecords : ∀ record ∈ records.take split, Json.Kept record) :
    bodyDocuments index (encode records index split) = some (numbered 0 (records.take split)) := by
  rw [bodyDocuments, bodyLines_encode index h]
  exact pairDocuments_documents hindex hrecords 0

end Bulk

/-- The records of a fixture are read from what is written for them. -/
theorem Fixture.readRecords_kept {tree : FileTree} {resource dir : Text} {limit : Int} {records : List Json}
    (h : readRecords tree resource limit dir = .ok records) : ∀ record ∈ records, Json.Kept record := by
  obtain ⟨items, ⟨content, text, -, hdecode, hread⟩, rfl, -⟩ := readRecords_eq_ok h
  have hwithin := Json.read_within (Utf8.decode_scalars hdecode).unifyLineEnds hread
  intro record hrecord
  have hmem := List.mem_of_mem_take hrecord
  exact ⟨Json.isPortableItems_iff.mp hwithin.portable record hmem,
    Nat.le_of_lt (Json.nestingItems_le.mp hwithin.shallow record hmem)⟩

end ClusterHarness
