import ClusterHarness.Cluster.IndexListing
import ClusterHarness.Proofs.Json.Merging
import ClusterHarness.Proofs.Validation.Checks

/-!
The names in a listing of indices. A response is a listing if each of its rows is an object whose known
columns are texts or null, and a row names an index if its column for the name is a text that is not
empty.
-/

namespace ClusterHarness

open Validation Validated

namespace IndexListing

def IsColumn (fields : Fields Json) (name : Text) : Prop :=
  ∀ v, fields.get? name = some v → v = .null ∨ ∃ t, v = .str t

def columnText (fields : Fields Json) (name : Text) : Option Text :=
  match fields.get? name with
  | some (.str t) => some t
  | _ => none

theorem column_eq_ok {fields : Fields Json} {name : Text} {x : Option Text} :
    withDefault fields name none (optional text) = .ok x ↔
      IsColumn fields name ∧ columnText fields name = x := by
  unfold withDefault IsColumn columnText
  cases fields.get? name with
  | none => simp
  | some v => cases v <;> simp [within_eq_ok, Validation.optional, text, refuse, Except.map]

def knownColumns (fields : Fields Json) : List Text :=
  ["index", "health", "status", IndexInfo.docsName fields]

def HasColumns (fields : Fields Json) : Prop :=
  (∀ f ∈ fields, f.1.Scalars) ∧ ∀ name ∈ knownColumns fields, IsColumn fields name

def infoOf (fields : Fields Json) : IndexInfo where
  index := columnText fields "index"
  health := columnText fields "health"
  status := columnText fields "status"
  docsCount := columnText fields (IndexInfo.docsName fields)
  extra := (fields.filter fun f => !(knownColumns fields).elem f.1).map Json.mergeMember

theorem check_eq_ok (source : Source) {fields : Fields Json} {info : IndexInfo} :
    IndexInfo.check source fields = .ok info ↔ HasColumns fields ∧ infoOf fields = info := by
  simp only [IndexInfo.check, HasColumns, knownColumns, List.forall_mem_cons]
  split
  next hbad =>
    constructor
    · intro h
      cases h
    · rintro ⟨⟨hnames, -⟩, -⟩
      obtain ⟨f, hf, hname⟩ := List.any_eq_true.mp hbad
      rw [Text.scalars_iff.mp (hnames f hf)] at hname
      cases hname
  next hgood =>
    have hnames : ∀ f ∈ fields, f.1.Scalars := by simpa [Text.Scalars] using hgood
    rw [map_eq_ok]
    constructor
    · rintro ⟨⟨index, health, status, docs⟩, hcolumns, rfl⟩
      simp only [both_eq_ok, column_eq_ok] at hcolumns
      obtain ⟨⟨hindex, rfl⟩, ⟨hhealth, rfl⟩, ⟨hstatus, rfl⟩, hdocs, rfl⟩ := hcolumns
      exact ⟨⟨hnames, hindex, hhealth, hstatus, hdocs, List.forall_mem_nil _⟩, rfl⟩
    · rintro ⟨⟨-, hindex, hhealth, hstatus, hdocs, -⟩, rfl⟩
      exact ⟨(_, _, _, _), both_eq_ok.mpr ⟨column_eq_ok.mpr ⟨hindex, rfl⟩, both_eq_ok.mpr
        ⟨column_eq_ok.mpr ⟨hhealth, rfl⟩, both_eq_ok.mpr
          ⟨column_eq_ok.mpr ⟨hstatus, rfl⟩, column_eq_ok.mpr ⟨hdocs, rfl⟩⟩⟩⟩, rfl⟩

def IsRow : Json → Prop
  | .obj fields => (∀ f ∈ Fields.ofList fields, ∀ c ∈ f.1, c.isSurrogate = false) ∧
      ∀ name ∈ knownColumns (Fields.ofList fields), IsColumn (Fields.ofList fields) name
  | _ => False

/-- The index that a row names. -/
def rowName : Json → Option Text
  | .obj fields => (columnText (Fields.ofList fields) "index").filter (!·.isEmpty)
  | _ => none

/-- The rows of a response: those of an array, and any other document itself. -/
def rowsOf : Json → List Json
  | .arr rows => rows
  | v => [v]

def IsListing (v : Json) : Prop := ∀ row ∈ rowsOf v, IsRow row

def listedNames (v : Json) : List Text := (rowsOf v).filterMap rowName

theorem ofRow_eq_ok {row : Json} {info : IndexInfo} (h : IndexInfo.ofRow .value row = .ok info) :
    IsRow row ∧ info.index.filter (!·.isEmpty) = rowName row := by
  cases row with
  | obj fields =>
    obtain ⟨hcolumns, rfl⟩ := (check_eq_ok .value).mp h
    exact ⟨hcolumns, rfl⟩
  | _ => cases h

theorem ofRow_isRow {row : Json} (h : IsRow row) : ∃ info, IndexInfo.ofRow .value row = .ok info := by
  cases row with
  | obj fields => exact ⟨_, (check_eq_ok .value).mpr ⟨h, rfl⟩⟩
  | _ => cases h

/-! ### Whole listings -/

theorem rows_eq_ok {v : Json} {rows : List Json} (h : IndexListing.rows v = .ok rows) :
    (IsListing v ↔ ∀ row ∈ rows, IsRow row) ∧ listedNames v = rows.filterMap rowName := by
  cases v with
  | arr items =>
    cases h
    exact ⟨Iff.rfl, rfl⟩
  | obj fields =>
    cases fields with
    | nil =>
      cases h
      simp [IsListing, rowsOf, IsRow, Fields.ofList, IsColumn, Fields.get?, listedNames, rowName, columnText]
    | cons field fields =>
      cases h
      exact ⟨Iff.rfl, rfl⟩
  | _ => cases h

theorem rows_isListing {v : Json} (h : IsListing v) : ∃ rows, IndexListing.rows v = .ok rows := by
  cases v with
  | arr items => exact ⟨items, rfl⟩
  | obj fields => cases fields <;> exact ⟨_, rfl⟩
  | _ => exact (h _ (List.mem_singleton_self _)).elim

theorem infos_eq {rows : List Json} {infos : List IndexInfo}
    (h : rows.mapM (IndexInfo.ofRow .value) = .ok infos) :
    (∀ row ∈ rows, IsRow row) ∧ IndexListing.names ⟨infos⟩ = rows.filterMap rowName := by
  rw [mapM_eq_ok] at h
  induction h with
  | nil => exact ⟨fun row hrow => absurd hrow List.not_mem_nil, rfl⟩
  | cons hrow _ ih =>
    obtain ⟨hshape, hname⟩ := ofRow_eq_ok hrow
    refine ⟨List.forall_mem_cons.mpr ⟨hshape, ih.1⟩, ?_⟩
    have hrest := ih.2
    unfold IndexListing.names at hrest ⊢
    rw [List.filterMap_cons, List.filterMap_cons, hname, hrest]

theorem ofResponse_eq_ok {v : Json} {listing : IndexListing} (h : ofResponse v = .ok listing) :
    IsListing v ∧ listing.names = listedNames v := by
  obtain ⟨rows, hrows, hrest⟩ := bind_eq_ok.mp h
  obtain ⟨infos, hinfos, hpure⟩ := bind_eq_ok.mp hrest
  cases hpure
  obtain ⟨hall, hnames⟩ := infos_eq (mapError_eq_ok.mp hinfos)
  obtain ⟨hlisting, hlisted⟩ := rows_eq_ok hrows
  exact ⟨hlisting.mpr hall, hnames.trans hlisted.symm⟩

theorem ofResponse_isListing {v : Json} (h : IsListing v) : ∃ listing, ofResponse v = .ok listing := by
  obtain ⟨rows, hrows⟩ := rows_isListing h
  have hall : ∀ row ∈ rows, IsRow row := (rows_eq_ok hrows).1.mp h
  obtain ⟨infos, hinfos⟩ := exists_mapM_eq_ok fun row hrow => ofRow_isRow (hall row hrow)
  refine ⟨⟨infos⟩, bind_eq_ok.mpr ⟨rows, hrows, bind_eq_ok.mpr ⟨infos, ?_, rfl⟩⟩⟩
  exact mapError_eq_ok.mpr hinfos

end IndexListing

end ClusterHarness
