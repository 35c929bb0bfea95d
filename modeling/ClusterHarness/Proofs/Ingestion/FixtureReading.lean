import ClusterHarness.Fixture
import ClusterHarness.Proofs.Json.Limits
import ClusterHarness.Proofs.Text.Ascii

/-!
Reading the records of a fixture resource. What is read is the head of the array in its file, whatever
stands after the head. What is wrong with the file is an error of the fixture, unless its text is over the
limits of reading.
-/

namespace ClusterHarness

theorem FileTree.readBytes_fault {tree : FileTree} {p : Path} {fault : PathFault} :
    tree.readBytes p = .error (.path fault) ↔ locate p = .error fault := by
  unfold readBytes find
  cases locate p with
  | error e => simp
  | ok l => cases hwalk : tree.walkFrom l with
    | error problem => simp [hwalk]
    | ok content => cases content <;> simp [hwalk, Except.mapError]

def RecordsError.IsFixture : RecordsError → Prop
  | .fixture _ => True
  | _ => False

namespace Fixture

open RecordsError (IsFixture)

variable {tree : FileTree} {resource dir : Text} {path : Path} {content : Bytes} {limit : Int}
  {items records : List Json}

/-! ### Steps -/

theorem checkRecords_eq_ok {position : Nat} {vs : List Json} :
    checkRecords path position vs = .ok () ↔ ∀ v ∈ vs, ∃ fields, v = .obj fields := by
  induction vs generalizing position with
  | nil => simp [checkRecords]
  | cons v vs ih => cases v <;> simp [checkRecords, isObject, ih]

theorem checkRecords_not_escapes (path : Path) (position : Nat) (vs : List Json) :
    ¬Escapes IsFixture (checkRecords path position vs) := by
  induction vs generalizing position with
  | nil => exact not_escapes_ok ()
  | cons v vs ih =>
    rw [checkRecords]
    split
    · exact ih (position + 1)
    · exact not_escapes_error trivial

theorem parse_eq_ok {v : Json} : parse path content = .ok v ↔
    ∃ text, Utf8.decode content = .ok text ∧ Json.read .document text.unifyLineEnds = .ok v := by
  unfold parse
  cases Utf8.decode content with
  | error e => simp
  | ok text => cases hread : Json.read .document text.unifyLineEnds with
    | error e => cases e <;> simp [hread]
    | ok w => simp [hread]

theorem parse_escapes : Escapes IsFixture (parse path content) ↔
    ∃ text, Utf8.decode content = .ok text ∧ Json.OverLimits .document text.unifyLineEnds := by
  unfold parse
  cases Utf8.decode content with
  | error e => exact iff_of_false (not_escapes_error trivial) nofun
  | ok text =>
    simp only [Except.ok.injEq, exists_eq_left', Json.OverLimits]
    cases Json.read .document text.unifyLineEnds with
    | error e => cases e <;> simp [IsFixture]
    | ok w => simp

theorem fetch_eq_ok : fetch tree resource dir path = .ok content ↔ tree.readBytes path = .ok content := by
  unfold fetch
  cases tree.readBytes path with
  | ok found => simp
  | error e => cases e with
    | path fault => simp
    | system problem place => cases problem <;> simp

theorem fetch_escapes :
    Escapes IsFixture (fetch tree resource dir path) ↔ ∃ fault, FileTree.locate path = .error fault := by
  have hfault : ∀ fault, FileTree.locate path = .error fault ↔ tree.readBytes path = .error (.path fault) :=
    fun _ => FileTree.readBytes_fault.symm
  simp only [hfault]
  unfold fetch
  cases tree.readBytes path with
  | ok found => simp
  | error e => cases e with
    | path fault => simp [IsFixture]
    | system problem place => cases problem <;> simp [IsFixture]

/-! ### What a file holds -/

/-- The file of a resource holds an array of the given items. -/
def Holds (tree : FileTree) (resource dir : Text) (items : List Json) : Prop :=
  ∃ content text, tree.readBytes ((Path.ofText dir).child resource) = .ok content ∧
    Utf8.decode content = .ok text ∧ Json.read .document text.unifyLineEnds = .ok (.arr items)

def HoldsText (tree : FileTree) (resource dir : Text) (text : Text) : Prop :=
  ∃ content raw, tree.readBytes ((Path.ofText dir).child resource) = .ok content ∧
    Utf8.decode content = .ok raw ∧ text = raw.unifyLineEnds

theorem readRecords_eq_ok (h : readRecords tree resource limit dir = .ok records) :
    ∃ items, Holds tree resource dir items ∧ records = items.take limit.toNat ∧
      ∀ record ∈ records, ∃ fields, record = .obj fields := by
  unfold readRecords at h
  by_cases hlimit : limit < 0
  · simp only [hlimit, if_true] at h
    cases h
  · simp only [hlimit, if_false] at h
    obtain ⟨content, hcontent, h⟩ := bind_eq_ok.mp h
    obtain ⟨v, hv, h⟩ := bind_eq_ok.mp h
    obtain ⟨text, htext, hread⟩ := parse_eq_ok.mp hv
    cases v with
    | arr items =>
      obtain ⟨_, hcheck, h⟩ := bind_eq_ok.mp h
      cases h
      exact ⟨items, ⟨content, text, fetch_eq_ok.mp hcontent, htext, hread⟩, rfl, checkRecords_eq_ok.mp hcheck⟩
    | _ => cases h

theorem Holds.readRecords (h : Holds tree resource dir items) (hlimit : 0 ≤ limit)
    (hobjects : ∀ v ∈ items.take limit.toNat, ∃ fields, v = .obj fields) :
    readRecords tree resource limit dir = .ok (items.take limit.toNat) := by
  obtain ⟨content, text, hcontent, htext, hread⟩ := h
  rw [Fixture.readRecords, if_neg (by omega)]
  refine bind_eq_ok.mpr ⟨content, fetch_eq_ok.mpr hcontent, ?_⟩
  refine bind_eq_ok.mpr ⟨_, parse_eq_ok.mpr ⟨text, htext, hread⟩, ?_⟩
  exact bind_eq_ok.mpr ⟨(), checkRecords_eq_ok.mpr hobjects, rfl⟩

namespace HoldsText

variable {text : Text}

theorem readRecords_error {e : RecordsError} (h : HoldsText tree resource dir text) (hlimit : 0 ≤ limit)
    (he : ∀ path content raw, Utf8.decode content = .ok raw → text = raw.unifyLineEnds →
      parse path content = .error e) : readRecords tree resource limit dir = .error e := by
  obtain ⟨content, raw, hcontent, hraw, htext⟩ := h
  rw [readRecords, if_neg (by omega)]
  refine bind_eq_error.mpr (.inr ⟨content, fetch_eq_ok.mpr hcontent, ?_⟩)
  exact bind_eq_error.mpr (.inl (he _ content raw hraw htext))

theorem tooDeep (h : HoldsText tree resource dir text) (hlimit : 0 ≤ limit)
    (hread : Json.read .document text = .error .tooDeep) :
    readRecords tree resource limit dir = .error .tooDeep := by
  refine h.readRecords_error hlimit fun path content raw hraw htext => ?_
  simp only [parse, hraw, ← htext, hread]

theorem tooManyDigits {count : Nat} (h : HoldsText tree resource dir text) (hlimit : 0 ≤ limit)
    (hread : Json.read .document text = .error (.tooManyDigits count)) :
    readRecords tree resource limit dir = .error (.tooManyDigits count) := by
  refine h.readRecords_error hlimit fun path content raw hraw htext => ?_
  simp only [parse, hraw, ← htext, hread]

end HoldsText

theorem readRecords_escapes (hlimit : 0 ≤ limit) :
    Escapes IsFixture (readRecords tree resource limit dir) ↔
      (∃ fault, FileTree.locate ((Path.ofText dir).child resource) = .error fault) ∨
        ∃ text, HoldsText tree resource dir text ∧ Json.OverLimits .document text := by
  rw [readRecords, if_neg (by omega), escapes_bind, fetch_escapes]
  refine or_congr Iff.rfl ?_
  simp only [fetch_eq_ok, escapes_bind, parse_escapes]
  constructor
  · rintro ⟨content, hcontent, ⟨raw, hraw, hover⟩ | ⟨v, -, hv⟩⟩
    · exact ⟨_, ⟨content, raw, hcontent, hraw, rfl⟩, hover⟩
    -- the rest of the steps look at a document, and blame the fixture for it
    · cases v with
      | arr items =>
        rcases escapes_bind.mp hv with hcheck | ⟨_, -, hhead⟩
        · exact absurd hcheck (checkRecords_not_escapes _ _ _)
        · exact absurd hhead (not_escapes_ok _)
      | _ => exact absurd hv (not_escapes_error trivial)
  · rintro ⟨text, ⟨content, raw, hcontent, hraw, rfl⟩, hover⟩
    exact ⟨content, hcontent, .inl ⟨raw, hraw, hover⟩⟩

/-! ### The head of the array -/

/-- What comes of reading the records of a resource. Only a name that is none to the file system, and a text
over the limits of reading, are not blamed on the fixture. -/
structure ReadsHead (tree : FileTree) (resource dir : Text) (limit : Int) : Prop where
  head : ∀ records, readRecords tree resource limit dir = .ok records ↔
    ∃ items, Holds tree resource dir items ∧ records = items.take limit.toNat ∧
      ∀ record ∈ records, ∃ fields, record = .obj fields
  shorter : ∀ shorter records, 0 ≤ shorter → shorter ≤ limit →
    readRecords tree resource limit dir = .ok records →
      readRecords tree resource shorter dir = .ok (records.take shorter.toNat)
  escapes : Escapes IsFixture (readRecords tree resource limit dir) ↔
    (∃ fault, FileTree.locate ((Path.ofText dir).child resource) = .error fault) ∨
      ∃ text, HoldsText tree resource dir text ∧ Json.OverLimits .document text
  excess : ∀ text, HoldsText tree resource dir text → Json.OverLimits .document text →
    990 < Json.openings text ∨ ∃ count, 4300 < count ∧ Json.HasDigits text count

/-- The records are the head of the array in the resource, up to the limit, and a smaller limit gives a head of
them. -/
theorem records_are_the_head (tree : FileTree) (resource dir : Text) (limit : Int) (hlimit : 0 ≤ limit) :
    ReadsHead tree resource dir limit where
  head records := by
    refine ⟨readRecords_eq_ok, ?_⟩
    rintro ⟨items, hholds, rfl, hobjects⟩
    exact hholds.readRecords hlimit hobjects
  shorter shorter records hshorter hle hread := by
    obtain ⟨items, hholds, rfl, hobjects⟩ := readRecords_eq_ok hread
    have htake : (items.take limit.toNat).take shorter.toNat = items.take shorter.toNat := by
      rw [List.take_take, Nat.min_eq_left (Int.toNat_le_toNat hle)]
    rw [htake]
    refine hholds.readRecords hshorter fun v hv => hobjects v ?_
    rw [← htake] at hv
    exact List.mem_of_mem_take hv
  escapes := readRecords_escapes hlimit
  excess text _ hover := hover.excess

def treeOf (content : Bytes) : FileTree := ⟨.ofText "/h", [([Utf8.encode "r.data"], .bytes content)]⟩

theorem treeOf_readBytes (content : Bytes) :
    (treeOf content).readBytes ((Path.ofText "/h").child "r.data") = .ok content := rfl

theorem treeOf_holds {items : List Json} (h : Json.Kept (.arr items)) :
    Holds (treeOf (Utf8.encode (Json.arr items).render)) "r.data" "/h" items := by
  have hreturn : ∀ c ∈ (Json.arr items).render, c.val ≠ 13 := by
    intro c hc
    have hprintable := (Json.render_printable (.arr items) c hc).1
    omega
  refine ⟨_, _, treeOf_readBytes _, Utf8.decode_encode (Json.render_ascii _), ?_⟩
  rw [Text.unifyLineEnds_eq_self hreturn, h.read_render]

/-- The last element is no object, but it is not in the head. -/
def threeElements : List Json := [.obj [], .obj [("a", .int 1)], .int 3]

theorem records_are_the_head_of_two :
    (0 : Int) ≤ 2 ∧ ReadsHead (treeOf (Utf8.encode (Json.arr threeElements).render)) "r.data" "/h" 2 ∧
      readRecords (treeOf (Utf8.encode (Json.arr threeElements).render)) "r.data" 2 "/h" =
        .ok [.obj [], .obj [("a", .int 1)]] := by
  have hhead := records_are_the_head (treeOf (Utf8.encode (Json.arr threeElements).render)) "r.data" "/h" 2
    (by decide)
  have hkept : Json.Kept (.arr threeElements) := ⟨by decide +kernel, by decide +kernel⟩
  exact ⟨by decide, hhead, (hhead.head _).mpr ⟨threeElements, treeOf_holds hkept, rfl, by simp⟩⟩

theorem treeOf_holdsText {c : CodePoint} (hascii : c.val < 0x80) (hreturn : c.val ≠ 13) (count : Nat) :
    HoldsText (treeOf (Utf8.encode (List.replicate count c))) "r.data" "/h" (List.replicate count c) := by
  have hdecode := Utf8.decode_encode (Text.isAscii_replicate hascii count)
  have hlines : Text.unifyLineEnds (List.replicate count c) = List.replicate count c :=
    Text.unifyLineEnds_eq_self fun d hd => List.eq_of_mem_replicate hd ▸ hreturn
  exact ⟨_, _, treeOf_readBytes _, hdecode, hlines.symm⟩

/-- A number of too many digits, and brackets nested too deeply, are no faults of the fixture. -/
theorem overlong_number_is_not_blamed :
    readRecords (treeOf (Utf8.encode (List.replicate 4301 (CodePoint.ofChar '1')))) "r.data" 1 "/h" =
        .error (.tooManyDigits 4301) ∧
      readRecords (treeOf (Utf8.encode (List.replicate 5000 (CodePoint.ofChar '[')))) "r.data" 1 "/h" =
        .error .tooDeep := by
  constructor
  · refine (treeOf_holdsText (by decide) (by decide) 4301).tooManyDigits (by decide) ?_
    exact Json.read_repunit (by decide)
  · refine (treeOf_holdsText (by decide) (by decide) 5000).tooDeep (by decide) ?_
    exact Json.read_nested (by decide)

end Fixture

end ClusterHarness
