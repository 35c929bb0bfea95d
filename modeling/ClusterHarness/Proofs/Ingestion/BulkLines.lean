import ClusterHarness.Proofs.Ingestion.BulkReading
import ClusterHarness.Proofs.Json.Halves

/-!
The lines of a bulk body, one by one. Whatever the records and the name of the index have in them, each
record has two lines, the first of which names the document and the second of which is read as it.
-/

namespace ClusterHarness

namespace Bulk

section Lines

variable (index : Text) (records : List Json)

theorem render_actionLine_joinHalves (position : Nat) :
    (actionLine (Json.joinHalves index) position).render = (actionLine index position).render := by
  simp only [actionLine, Json.render, Json.renderFields, Json.renderString_joinHalves]

theorem render_documents_joinHalves (position : Nat) :
    (documents (Json.joinHalves index) position records).map Json.render =
      (documents index position records).map Json.render := by
  induction records generalizing position with
  | nil => rfl
  | cons record records ih =>
    simp only [documents, List.map_cons, render_actionLine_joinHalves, ih]

theorem encode_joinHalves (split : Int) :
    encode records (Json.joinHalves index) split = encode records index split := by
  rw [encode, render_documents_joinHalves, encode]

theorem length_documents (position : Nat) : (documents index position records).length = 2 * records.length := by
  induction records generalizing position with
  | nil => rfl
  | cons record records ih =>
    rw [documents, List.length_cons, List.length_cons, ih, List.length_cons]
    omega

theorem documents_pair {position i : Nat} {record : Json} (h : records[i]? = some record) :
    (documents index position records)[2 * i]? = some (actionLine index (position + i)) ∧
      (documents index position records)[2 * i + 1]? = some record := by
  induction records generalizing position i with
  | nil => cases h
  | cons head records ih =>
    cases i with
    | zero => exact ⟨rfl, h⟩
    | succ i =>
      have hpair := @ih (position + 1) i h
      rw [Nat.add_right_comm, Nat.add_assoc] at hpair
      exact hpair

theorem encode_ascii (split : Nat) : ∀ c ∈ encode records index split, c.val < 128 := by
  have hfeed : ∀ c ∈ ([10] : Text), c.val < 128 := by
    intro c hc
    rw [List.mem_singleton.mp hc]
    decide
  by_cases h : records.take split = []
  · rw [encode, head_natCast, h]
    exact hfeed
  intro c hc
  rw [encode_eq_flatMap index h] at hc
  obtain ⟨line, hline, hmem⟩ := List.mem_flatMap.mp hc
  rcases List.mem_append.mp hmem with hmem | hmem
  · obtain ⟨v, -, rfl⟩ := List.mem_map.mp hline
    have hprintable := (Json.render_printable v c hmem).2
    omega
  · exact hfeed c hmem

end Lines

/-- The body is ASCII text of whole lines, two for each record: the first one names the index and the
number of the record, and the second one is read as the record. -/
structure Decodes (records : List Json) (index : Text) (split : Nat) (body : Text) : Prop where
  ascii : ∀ c ∈ body, c.val < 128
  ended : body.getLast? = some 10
  lines : 0 < split → records ≠ [] → ∃ lines : List Text, Text.splitOn body [10] = lines ++ [[]] ∧
    lines.length = 2 * min split records.length ∧ (∀ line ∈ lines, line ≠ []) ∧
    ∀ i record, i < split → records[i]? = some record → ∃ action source : Text,
      lines[2 * i]? = some action ∧ lines[2 * i + 1]? = some source ∧
      Json.read .document action = .ok (.obj [("index", .obj
        [("_index", .str (Json.joinHalves index)), ("_id", .str (Text.ofNat i))])]) ∧
      Json.read .document source = .ok record

theorem encode_decodes {records : List Json} (hkept : ∀ record ∈ records, Json.Kept record) (index : Text)
    (split : Nat) : Decodes records index split (encode records index split) where
  ascii := encode_ascii index records split
  ended := List.getLast?_concat
  lines hsplit hrecords := by
    have hadmits : Json.Dialect.document.admits (Json.joinHalves index) := by
      rw [Json.Dialect.admits, Json.joinHalves_paired]
      rfl
    have hsome : records.take split ≠ [] := by
      rw [ne_eq, List.take_eq_nil_iff]
      rintro (rfl | hnil)
      · exact Nat.lt_irrefl 0 hsplit
      · exact hrecords hnil
    rw [← encode_joinHalves]
    refine ⟨_, splitOn_encode _ hsome, ?_, fun line => line_ne_nil, fun i record hi hrecord => ?_⟩
    · rw [List.length_map, length_documents, List.length_take]
    have htaken : (records.take split)[i]? = some record := by rwa [List.getElem?_take_of_lt hi]
    have hpair := @documents_pair (Json.joinHalves index) (records.take split) 0 i record htaken
    rw [Nat.zero_add] at hpair
    obtain ⟨haction, hsource⟩ := hpair
    refine ⟨_, _, ?_, ?_, (actionLine_kept hadmits i).read_render,
      (hkept record (List.mem_of_getElem? hrecord)).read_render⟩
    · rw [List.getElem?_map, haction]
      rfl
    · rw [List.getElem?_map, hsource]
      rfl

/-- The body for records of a fixture decodes to them. Only the halves of a code point next to each other
in the name of the index come back as one. -/
theorem fixture_records_decode {tree : FileTree} {resource dir : Text} {limit : Int} {records : List Json}
    (h : Fixture.readRecords tree resource limit dir = .ok records) (index : Text) (split : Nat) :
    Decodes records index split (encode records index split) ∧
      (Json.isPaired index → Json.joinHalves index = index) :=
  ⟨encode_decodes (Fixture.readRecords_kept h) index split, Json.joinHalves_of_isPaired⟩

def oddText : Text :=
  Text.ofString "[\x7b\"a\\n\\\"b\": [1, -2.5, \"\\ud800\", \x7b\"c\": null\x7d]\x7d, " ++
    Text.ofString "\x7b\"b\": \"\\ud83d\\ude00\", \"a\": \"é\"\x7d, 3]"

def oddRecords : List Json :=
  [.obj [("a\n\"b", .arr [.int 1, .float (.ofDecimal true 25 (-1)), .str [0xD800], .obj [("c", .null)]])],
    .obj [("b", .str [0x1F600]), ("a", .str "é")]]

def oddTree : FileTree := ⟨.ofText "/h", [([Utf8.encode "odd"], .bytes (Utf8.encode oddText))]⟩

theorem oddRecords_kept : ∀ record ∈ oddRecords, Json.Kept record := by
  intro record hrecord
  rcases List.mem_cons.mp hrecord with rfl | hrecord
  · exact ⟨by decide, by decide⟩
  · rw [List.mem_singleton.mp hrecord]
    exact ⟨by decide, by decide⟩

theorem oddRecords_read : Fixture.readRecords oddTree "odd" 2 "/h" = .ok oddRecords := by
  have hrenders : (Fixture.readRecords oddTree "odd" 2 "/h").toOption.map (·.map Json.render) =
      some (oddRecords.map Json.render) := by decide +kernel
  cases hread : Fixture.readRecords oddTree "odd" 2 "/h" with
  | error e =>
    rw [hread] at hrenders
    cases hrenders
  | ok records =>
    rw [hread] at hrenders
    rw [Json.eq_of_map_render (Fixture.readRecords_kept hread) oddRecords_kept (Option.some.inj hrenders)]

/-- Line feeds, quotes and half a code point stay within their lines. -/
theorem fixture_records_decode_odd : Fixture.readRecords oddTree "odd" 2 "/h" = .ok oddRecords ∧
    Decodes oddRecords [0xDC00, 10, 0xD800] 5 (encode oddRecords [0xDC00, 10, 0xD800] (5 : Nat)) ∧
    Json.joinHalves [0xDC00, 10, 0xD800] = [0xDC00, 10, 0xD800] := by
  obtain ⟨hdecodes, hnamed⟩ := fixture_records_decode oddRecords_read [0xDC00, 10, 0xD800] 5
  exact ⟨oddRecords_read, hdecodes, hnamed (by decide)⟩

/-- Two halves of a code point, one right after the other. -/
def halves : Text := [0xD83D, 0xDE00]

/-- In the body for a name with the halves of a code point next to each other, the first line names another
index, that of the code point. A record with such halves in it has the body of another record, too. -/
theorem halves_come_back_joined : Fixture.readRecords oddTree "odd" 2 "/h" = .ok oddRecords ∧
    (∃ lines action, Text.splitOn (encode oddRecords halves (2 : Nat)) [10] = lines ++ [[]] ∧
      lines[0]? = some action ∧ Json.read .document action = .ok (actionLine [0x1F600] 0) ∧
      actionLine [0x1F600] 0 ≠ actionLine halves 0) ∧
    encode [.obj [("a", .str halves)]] "rule" 1 = encode [.obj [("a", .str [0x1F600])]] "rule" 1 := by
  obtain ⟨lines, hlines, -, -, hread⟩ :=
    (encode_decodes oddRecords_kept halves 2).lines (Nat.succ_pos 1) (List.cons_ne_nil _ _)
  obtain ⟨action, -, haction, -, hnamed, -⟩ := hread 0 _ (Nat.succ_pos 1) rfl
  refine ⟨oddRecords_read, ⟨lines, action, hlines, haction, hnamed, fun hsame => ?_⟩, by decide +kernel⟩
  have htargets : some (([0x1F600] : Text), Text.ofNat 0) = some (halves, Text.ofNat 0) :=
    congrArg target? hsame
  exact absurd htargets (by decide)

end Bulk

end ClusterHarness
