import ClusterHarness.Proofs.Cluster.Listing
import ClusterHarness.Proofs.Validation.Loose
import Mathlib.Data.Set.List

/-!
A listing of indices loses nothing of its rows. It names their indices in order, its dump has their
columns, and what is dumped is read as the same listing.
-/

namespace ClusterHarness

open Validation

namespace IndexListing

section Columns

variable {fields : Fields Json} {name : Text}

theorem column_nullable {t : Option Text} (h : fields.get? name = some (nullable t)) :
    IsColumn fields name ∧ columnText fields name = t := by
  unfold IsColumn columnText
  rw [h]
  cases t with
  | none => exact ⟨fun v hv => .inl (Option.some.inj hv).symm, rfl⟩
  | some t => exact ⟨fun v hv => .inr ⟨t, (Option.some.inj hv).symm⟩, rfl⟩

theorem nullable_columnText {v : Json} (h : IsColumn fields name) (hv : fields.get? name = some v) :
    nullable (columnText fields name) = v := by
  unfold columnText
  rw [hv]
  rcases h v hv with rfl | ⟨t, rfl⟩ <;> rfl

end Columns

/-! ### Repeated names -/

section Merging

variable (fields : Fields Json) (name : Text)

theorem get?_mergeMember :
    Fields.get? name (fields.map Json.mergeMember) = (fields.get? name).map Json.merged :=
  Fields.get?_map (fun _ => Json.merged) fields name

theorem isColumn_merge : IsColumn (fields.map Json.mergeMember) name ↔ IsColumn fields name := by
  unfold IsColumn
  rw [get?_mergeMember]
  cases fields.get? name with
  | none => simp
  | some v => cases v <;> simp [Json.merged]

theorem columnText_merge : columnText (fields.map Json.mergeMember) name = columnText fields name := by
  unfold columnText
  rw [get?_mergeMember]
  cases fields.get? name with
  | none => rfl
  | some v => cases v <;> rfl

theorem docsName_merge : IndexInfo.docsName (fields.map Json.mergeMember) = IndexInfo.docsName fields := by
  unfold IndexInfo.docsName
  rw [get?_mergeMember, Option.isSome_map]

theorem hasColumns_merge : HasColumns (fields.map Json.mergeMember) ↔ HasColumns fields := by
  simp only [HasColumns, knownColumns, docsName_merge, isColumn_merge, List.forall_mem_map, Json.mergeMember]

theorem infoOf_merge : infoOf (fields.map Json.mergeMember) = infoOf fields := by
  have hextra : Json.mergeMember ∘ Json.mergeMember = Json.mergeMember :=
    funext fun f => Prod.ext rfl f.2.merged_merged
  simp only [infoOf, knownColumns, docsName_merge, columnText_merge, List.filter_map, List.map_map, hextra]
  rfl

end Merging

theorem ofRow_merged {row : Json} {info : IndexInfo} (h : IndexInfo.ofRow .value row = .ok info) :
    IndexInfo.ofRow .value row.merged = .ok info := by
  cases row with
  | obj fields =>
    obtain ⟨hcolumns, rfl⟩ := (check_eq_ok .value).mp h
    rw [Json.merged_obj, IndexInfo.ofRow, Fields.ofList_of_nodup (Json.nodup_mergeMember fields)]
    exact (check_eq_ok .value).mpr ⟨(hasColumns_merge _).mpr hcolumns, infoOf_merge _⟩
  | _ => cases h

theorem rows_merged {v : Json} {rows : List Json} (h : IndexListing.rows v = .ok rows) :
    IndexListing.rows v.merged = .ok (rows.map Json.merged) := by
  cases v with
  | arr items =>
    cases h
    rw [Json.merged_arr]
    rfl
  | obj fields =>
    cases fields with
    | nil =>
      cases h
      rfl
    | cons f fields =>
      cases h
      have hmembers : (Fields.ofList (f :: fields)).map Json.mergeMember ≠ [] := by
        rw [ne_eq, List.map_eq_nil_iff]
        exact Fields.ofList_ne_nil (List.cons_ne_nil f fields)
      obtain ⟨g, members, hg⟩ := List.exists_cons_of_ne_nil hmembers
      rw [List.map_singleton, Json.merged_obj, hg]
      rfl
  | _ => cases h

theorem ofResponse_merged {v : Json} {listing : IndexListing} (h : ofResponse v = .ok listing) :
    ofResponse v.merged = .ok listing := by
  obtain ⟨rows, hrows, hrest⟩ := bind_eq_ok.mp h
  obtain ⟨infos, hinfos, hpure⟩ := bind_eq_ok.mp hrest
  refine bind_eq_ok.mpr ⟨_, rows_merged hrows, bind_eq_ok.mpr ⟨infos, mapError_eq_ok.mpr ?_, hpure⟩⟩
  rw [mapM_eq_ok, List.forall₂_map_left_iff]
  exact (mapM_eq_ok.mp (mapError_eq_ok.mp hinfos)).imp fun _ _ => ofRow_merged

end IndexListing

/-! ### Rows that are dumped -/

namespace IndexInfo

def columns : List Text := ["index", "health", "status", docsColumn]

/-- The loose columns stand apart from the others and are dumped as they are. -/
structure IsSettled (info : IndexInfo) : Prop where
  apart : ∀ f ∈ info.extra, f.1 ∉ columns
  nodup : (info.extra.map Prod.fst).Nodup
  names : ∀ f ∈ info.extra, f.1.Scalars
  values : ∀ f ∈ info.extra, IsTidy f.2

def ownColumns (info : IndexInfo) : Fields Json :=
  [("index", nullable info.index), ("health", nullable info.health), ("status", nullable info.status),
    (docsColumn, nullable info.docsCount)]

def dumped (info : IndexInfo) : Fields Json := info.ownColumns ++ info.extra

theorem columns_scalars : ∀ name ∈ columns, name.Scalars := by decide

theorem ownColumns_names (info : IndexInfo) : info.ownColumns.map Prod.fst = columns := rfl

theorem mem_columns {info : IndexInfo} {f : Text × Json} (h : f ∈ info.ownColumns) : f.1 ∈ columns :=
  List.mem_map_of_mem h

namespace IsSettled

variable {info : IndexInfo} (h : info.IsSettled)
include h

theorem dumped_nodup : (info.dumped.map Prod.fst).Nodup := by
  rw [dumped, List.map_append, List.nodup_append, ownColumns_names]
  refine ⟨by decide, h.nodup, ?_⟩
  rintro name hname _ hextra rfl
  obtain ⟨f, hf, rfl⟩ := List.mem_map.mp hextra
  exact h.apart f hf hname

theorem dump_eq : info.dump true = .ok (.obj info.dumped) := by
  rw [dump, dumpLooseFields_self h.values]
  exact congrArg (fun fields => Except.ok (Json.obj fields)) (Fields.foldl_put_of_nodup h.dumped_nodup)

theorem get?_dumped {name : Text} {v : Json} : info.dumped.get? name = some v ↔ (name, v) ∈ info.dumped :=
  Fields.get?_eq_some_iff h.dumped_nodup

end IsSettled

end IndexInfo

namespace IndexListing

open IndexInfo

theorem docsName_cases (row : Fields Json) :
    docsName row = docsColumn ∧ (row.get? docsColumn).isSome ∨
      docsName row = docsField ∧ docsColumn ∉ row.map Prod.fst := by
  unfold docsName
  split
  · next h => exact .inl ⟨rfl, h⟩
  · next h => exact .inr ⟨rfl, Fields.get?_eq_none_iff.mp (by simpa using h)⟩

theorem mem_knownColumns {row : Fields Json} {name : Text} (hrow : name ∈ row.map Prod.fst)
    (hname : name ∈ columns) : name ∈ knownColumns row := by
  simp only [columns, knownColumns, List.mem_cons, List.not_mem_nil, or_false] at hname ⊢
  rcases hname with hname | hname | hname | rfl
  · exact .inl hname
  · exact .inr (.inl hname)
  · exact .inr (.inr (.inl hname))
  · rcases docsName_cases row with ⟨hdocs, -⟩ | ⟨-, hnone⟩
    · exact .inr (.inr (.inr hdocs.symm))
    · exact absurd hrow hnone

theorem ofRow_of_nodup {row : Fields Json} {info : IndexInfo} (h : (row.map Prod.fst).Nodup) :
    IndexInfo.ofRow .value (.obj row) = .ok info ↔ HasColumns row ∧ infoOf row = info := by
  rw [IndexInfo.ofRow, Fields.ofList_of_nodup h, check_eq_ok]

section Dumped

variable {info : IndexInfo} (h : info.IsSettled)
include h

theorem columns_dumped :
    (IsColumn info.dumped "index" ∧ columnText info.dumped "index" = info.index) ∧
    (IsColumn info.dumped "health" ∧ columnText info.dumped "health" = info.health) ∧
    (IsColumn info.dumped "status" ∧ columnText info.dumped "status" = info.status) ∧
    (IsColumn info.dumped docsColumn ∧ columnText info.dumped docsColumn = info.docsCount) := by
  have hcolumn : ∀ name t, (name, nullable t) ∈ info.ownColumns →
      IsColumn info.dumped name ∧ columnText info.dumped name = t := fun name t hmem =>
    column_nullable (h.get?_dumped.mpr (List.mem_append_left _ hmem))
  refine ⟨hcolumn _ _ ?_, hcolumn _ _ ?_, hcolumn _ _ ?_, hcolumn _ _ ?_⟩ <;> simp [ownColumns]

theorem docsName_dumped : docsName info.dumped = docsColumn := by
  have hmem : (docsColumn, nullable info.docsCount) ∈ info.dumped :=
    List.mem_append_left _ (by simp [ownColumns])
  rw [docsName, h.get?_dumped.mpr hmem]
  rfl

theorem knownColumns_dumped : knownColumns info.dumped = columns := by
  rw [knownColumns, docsName_dumped h]
  rfl

theorem extra_dumped : (infoOf info.dumped).extra = info.extra := by
  have hown : info.ownColumns.filter (fun f => !columns.elem f.1) = [] := by
    rw [List.filter_eq_nil_iff]
    intro f hf
    simp [mem_columns hf]
  have hextra : info.extra.filter (fun f => !columns.elem f.1) = info.extra := by
    rw [List.filter_eq_self]
    intro f hf
    simpa using h.apart f hf
  rw [infoOf, knownColumns_dumped h, dumped, List.filter_append, hown, hextra, List.nil_append]
  refine (List.map_congr_left fun f hf => ?_).trans (List.map_id _)
  exact Prod.ext rfl (h.values f hf).merged

theorem hasColumns_dumped : HasColumns info.dumped := by
  constructor
  · intro f hf
    rcases List.mem_append.mp hf with hf | hf
    · exact columns_scalars f.1 (mem_columns hf)
    · exact h.names f hf
  · obtain ⟨⟨hindex, -⟩, ⟨hhealth, -⟩, ⟨hstatus, -⟩, hdocs, -⟩ := columns_dumped h
    rw [knownColumns_dumped h]
    simp only [columns, List.forall_mem_cons]
    exact ⟨hindex, hhealth, hstatus, hdocs, List.forall_mem_nil _⟩

theorem infoOf_dumped : infoOf info.dumped = info := by
  obtain ⟨⟨-, hindex⟩, ⟨-, hhealth⟩, ⟨-, hstatus⟩, -, hdocs⟩ := columns_dumped h
  rw [← docsName_dumped h] at hdocs
  calc infoOf info.dumped = ⟨columnText info.dumped "index", columnText info.dumped "health",
        columnText info.dumped "status", columnText info.dumped (docsName info.dumped),
        (infoOf info.dumped).extra⟩ := rfl
    _ = info := by rw [hindex, hhealth, hstatus, hdocs, extra_dumped h]

theorem ofRow_dumped : IndexInfo.ofRow .value (.obj info.dumped) = .ok info :=
  (ofRow_of_nodup h.dumped_nodup).mpr ⟨hasColumns_dumped h, infoOf_dumped h⟩

end Dumped

/-! ### Rows that are read -/

/-- Each column of a row is in its dump. The document count is there under the column's name, unless
the row gives another count under that one. -/
structure KeepsColumns (row dump : Fields Json) : Prop where
  columns : ∀ name v, name ≠ docsField → row.get? name = some v → dump.get? name = some v
  count : ∀ v, row.get? docsField = some v →
    dump.get? (if (row.get? docsColumn).isSome then docsField else docsColumn) = some v

section Rows

variable {row : Fields Json} (h : IsTidy (.obj row))
include h

theorem extra_infoOf : (infoOf row).extra = row.filter fun f => !(knownColumns row).elem f.1 := by
  refine (List.map_congr_left fun f hf => ?_).trans (List.map_id _)
  exact h.mergeMember (List.mem_filter.mp hf).1

theorem mem_extra_infoOf {f : Text × Json} : f ∈ (infoOf row).extra ↔ f ∈ row ∧ f.1 ∉ knownColumns row := by
  rw [extra_infoOf h]
  simp

theorem infoOf_isSettled : (infoOf row).IsSettled where
  apart f hf := by
    obtain ⟨hrow, hunknown⟩ := (mem_extra_infoOf h).mp hf
    exact fun hmem => hunknown (mem_knownColumns (List.mem_map_of_mem hrow) hmem)
  nodup := by
    rw [extra_infoOf h]
    exact h.nodup.sublist (List.filter_sublist.map Prod.fst)
  names f hf := h.name ((mem_extra_infoOf h).mp hf).1
  values f hf := h.value ((mem_extra_infoOf h).mp hf).1

theorem get?_dumped_infoOf (hcolumns : HasColumns row) {name : Text} {v : Json} (hv : row.get? name = some v) :
    (infoOf row).dumped.get? (if name = docsName row then docsColumn else name) = some v := by
  rw [(infoOf_isSettled h).get?_dumped, dumped, List.mem_append]
  by_cases hknown : name ∈ knownColumns row
  · left
    have hvalue : nullable (columnText row name) = v := nullable_columnText (hcolumns.2 name hknown) hv
    subst hvalue
    simp only [knownColumns, List.mem_cons, List.not_mem_nil, or_false] at hknown
    by_cases hdocs : name = docsName row
    · simp [ownColumns, infoOf, hdocs]
    · rw [if_neg hdocs]
      rcases hknown with rfl | rfl | rfl | hsame
      · simp [ownColumns, infoOf]
      · simp [ownColumns, infoOf]
      · simp [ownColumns, infoOf]
      · exact absurd hsame hdocs
  · right
    have hdocs : name ≠ docsName row := fun hsame => hknown (by simp [knownColumns, hsame])
    rw [if_neg hdocs, mem_extra_infoOf h]
    exact ⟨Fields.mem_of_get? hv, hknown⟩

theorem keepsColumns (hcolumns : HasColumns row) : KeepsColumns row (infoOf row).dumped where
  columns name v hname hv := by
    have hkept := get?_dumped_infoOf h hcolumns hv
    rcases docsName_cases row with ⟨hdocs, -⟩ | ⟨hdocs, -⟩
    · rw [hdocs] at hkept
      split at hkept
      · next hsame => rwa [hsame]
      · exact hkept
    · rwa [hdocs, if_neg hname] at hkept
  count v hv := by
    have hkept := get?_dumped_infoOf h hcolumns hv
    rcases docsName_cases row with ⟨hdocs, hsome⟩ | ⟨hdocs, hnone⟩
    · rw [hdocs, if_neg (by decide)] at hkept
      rwa [if_pos hsome]
    · rw [hdocs, if_pos rfl] at hkept
      rwa [Fields.get?_eq_none_iff.mpr hnone]

end Rows

/-! ### Whole listings -/

/-- The rows of a response: those of an array, or one object alone, unless it is empty. -/
inductive HasRows : Json → List (Fields Json) → Prop
  | many (rows : List (Fields Json)) : HasRows (.arr (rows.map .obj)) rows
  | one {row : Fields Json} : row ≠ [] → HasRows (.obj row) [row]
  | none : HasRows (.obj []) []

structure LosesNothing (rows : List (Fields Json)) (listing : IndexListing) : Prop where
  array : ofResponse (.arr (rows.map .obj)) = .ok listing
  names : listing.names = rows.filterMap fun row => (columnText row "index").filter (!·.isEmpty)
  dumped : ∃ dumps : List (Fields Json),
    listing.dump true = .ok (.obj [("indices", .arr (dumps.map .obj))]) ∧
      List.Forall₂ KeepsColumns rows dumps ∧ ofResponse (.arr (dumps.map .obj)) = .ok listing

theorem ofResponse_arr {items : List Json} {infos : List IndexInfo} :
    ofResponse (.arr items) = .ok ⟨infos⟩ ↔
      List.Forall₂ (fun row info => IndexInfo.ofRow .value row = .ok info) items infos := by
  rw [← mapM_eq_ok, ofResponse, bind_eq_ok]
  constructor
  · rintro ⟨_, hrows, hrest⟩
    cases hrows
    obtain ⟨_, hinfos, hpure⟩ := bind_eq_ok.mp hrest
    cases hpure
    exact mapError_eq_ok.mp hinfos
  · intro hinfos
    exact ⟨items, rfl, bind_eq_ok.mpr ⟨infos, mapError_eq_ok.mpr hinfos, rfl⟩⟩

theorem infos_eq_map {rows : List (Fields Json)} {infos : List IndexInfo}
    (htidy : ∀ row ∈ rows, IsTidy (.obj row)) (h : ofResponse (.arr (rows.map .obj)) = .ok ⟨infos⟩) :
    (∀ row ∈ rows, HasColumns row) ∧ infos = rows.map infoOf := by
  rw [ofResponse_arr, List.forall₂_map_left_iff] at h
  induction h with
  | nil => exact ⟨nofun, rfl⟩
  | cons hrow _ ih =>
    obtain ⟨htidyRow, htidyRows⟩ := List.forall_mem_cons.mp htidy
    obtain ⟨hcolumns, rfl⟩ := (ofRow_of_nodup htidyRow.nodup).mp hrow
    obtain ⟨hrest, rfl⟩ := ih htidyRows
    exact ⟨List.forall_mem_cons.mpr ⟨hcolumns, hrest⟩, rfl⟩

theorem losesNothing {rows : List (Fields Json)} {listing : IndexListing}
    (htidy : ∀ row ∈ rows, IsTidy (.obj row)) (h : ofResponse (.arr (rows.map .obj)) = .ok listing) :
    LosesNothing rows listing := by
  obtain ⟨infos⟩ := listing
  obtain ⟨hcolumns, rfl⟩ := infos_eq_map htidy h
  refine ⟨h, List.filterMap_map, rows.map fun row => (infoOf row).dumped, ?_, ?_, ?_⟩
  · refine map_eq_ok.mpr ⟨_, mapM_eq_ok.mpr ?_, rfl⟩
    rw [List.forall₂_map_left_iff, List.forall₂_map_right_iff, List.forall₂_map_right_iff, List.forall₂_same]
    intro row hrow
    exact (infoOf_isSettled (htidy row hrow)).dump_eq
  · rw [List.forall₂_map_right_iff, List.forall₂_same]
    intro row hrow
    exact keepsColumns (htidy row hrow) (hcolumns row hrow)
  · rw [ofResponse_arr, List.forall₂_map_left_iff, List.forall₂_map_left_iff, List.forall₂_map_right_iff,
      List.forall₂_same]
    intro row hrow
    exact ofRow_dumped (infoOf_isSettled (htidy row hrow))

theorem exists_rows {v : Json} {listing : IndexListing} (htidy : IsTidy v) (h : ofResponse v = .ok listing) :
    ∃ rows, HasRows v rows ∧ (∀ row ∈ rows, IsTidy (.obj row)) ∧
      ofResponse (.arr (rows.map .obj)) = .ok listing := by
  cases v with
  | arr items =>
    obtain ⟨rows, rfl⟩ : items ∈ Set.range (List.map Json.obj) := by
      rw [Set.range_list_map]
      intro item hitem
      have hrow : IsRow item := (ofResponse_eq_ok h).1 item hitem
      cases item with
      | obj fields => exact ⟨fields, rfl⟩
      | _ => cases hrow
    exact ⟨rows, .many rows, fun row hrow => htidy.item (List.mem_map_of_mem hrow), h⟩
  | obj fields =>
    cases fields with
    | nil => exact ⟨[], .none, nofun, h⟩
    | cons f fields => exact ⟨[f :: fields], .one (List.cons_ne_nil f fields), by simpa using htidy, h⟩
  | _ => cases h

/-- The rows are those of the response as it is read, where no name of an object repeats. -/
theorem listing_loses_nothing {v : Json} {listing : IndexListing} (hclean : v.isClean) (hdepth : v.nesting < 100)
    (h : ofResponse v = .ok listing) : ∃ rows, HasRows v.merged rows ∧ LosesNothing rows listing := by
  have htidy : IsTidy v.merged := .of_merged hclean (Nat.lt_trans hdepth (by decide))
  obtain ⟨rows, hrows, htidyRows, hlisting⟩ := exists_rows htidy (ofResponse_merged h)
  exact ⟨rows, hrows, losesNothing htidyRows hlisting⟩

def threeRows : Json := .arr [
  .obj [("index", .str "logs"), ("docs.count", .str "7"), ("docs_count", .str "8"), ("shards", .arr [.int 1, .float .zero])],
  .obj [("index", .str ""), ("docs_count", .str "3")],
  .obj [("index", .str "logs"), ("health", .null)]]

def threeIndices : IndexListing := ⟨[
  ⟨some "logs", none, none, some "7", [("docs_count", .str "8"), ("shards", .arr [.int 1, .float .zero])]⟩,
  ⟨some "", none, none, some "3", []⟩,
  ⟨some "logs", none, none, none, []⟩]⟩

theorem listing_loses_nothing_of_three : threeRows.isClean ∧ threeRows.nesting < 100 ∧
    ofResponse threeRows = .ok threeIndices ∧
    ∃ rows, HasRows threeRows.merged rows ∧ LosesNothing rows threeIndices := by
  have hclean : threeRows.isClean := by decide
  have hdepth : threeRows.nesting < 100 := by decide
  have hlisting : ofResponse threeRows = .ok threeIndices := by rfl
  exact ⟨hclean, hdepth, hlisting, listing_loses_nothing hclean hdepth hlisting⟩

end IndexListing

end ClusterHarness
