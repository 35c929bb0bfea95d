import ClusterHarness.Detector
import Mathlib.Data.List.FinRange
import Mathlib.Data.List.Permutation

/-!
The orderings in which features are reported. There is one for each order of the positions, in lexicographic
order of these, so that a name that is listed twice is reported in every order twice over.
-/

namespace ClusterHarness.Detector

variable {α β : Type}

/-! ### Selections -/

theorem mem_selections {xs rest : List α} {x : α} :
    (x, rest) ∈ selections xs ↔ ∃ before after, xs = before ++ x :: after ∧ rest = before ++ after := by
  induction xs generalizing rest with
  | nil => simp [selections]
  | cons y xs ih =>
    simp only [selections, List.mem_cons, Prod.mk.injEq, List.mem_map, Prod.exists]
    constructor
    · rintro (⟨rfl, rfl⟩ | ⟨z, zs, hz, rfl, rfl⟩)
      · exact ⟨[], rest, rfl, rfl⟩
      · obtain ⟨before, after, rfl, rfl⟩ := ih.mp hz
        exact ⟨y :: before, after, rfl, rfl⟩
    · rintro ⟨before, after, hxs, rfl⟩
      cases before with
      | nil =>
        cases hxs
        exact .inl ⟨rfl, rfl⟩
      | cons b before =>
        cases hxs
        exact .inr ⟨x, before ++ after, ih.mpr ⟨before, after, rfl, rfl⟩, rfl, rfl⟩

theorem firsts_selections (xs : List α) : (selections xs).map Prod.fst = xs := by
  induction xs with
  | nil => rfl
  | cons x xs ih => simpa [selections, Function.comp_def] using ih

theorem selections_map (f : α → β) (xs : List α) :
    selections (xs.map f) = (selections xs).map (Prod.map f (List.map f)) := by
  induction xs with
  | nil => rfl
  | cons x xs ih => simp [selections, ih, Function.comp_def]

/-! ### Arrangements of all items -/

theorem mem_arrangements {count : Nat} {xs ys : List α} (hcount : xs.length = count) :
    ys ∈ arrangements count xs ↔ ys.Perm xs := by
  induction count generalizing xs ys with
  | zero =>
    rw [List.length_eq_zero_iff.mp hcount, List.perm_nil]
    simp [arrangements]
  | succ count ih =>
    simp only [arrangements, List.mem_flatMap, List.mem_map, Prod.exists]
    constructor
    · rintro ⟨x, rest, hx, zs, hzs, rfl⟩
      obtain ⟨before, after, rfl, rfl⟩ := mem_selections.mp hx
      have hrest : (before ++ after).length = count := by simpa [← Nat.add_assoc] using hcount
      exact ((ih hrest).mp hzs).cons x |>.trans List.perm_middle.symm
    · intro hperm
      cases ys with
      | nil => rw [← hperm.length_eq] at hcount; cases hcount
      | cons y zs =>
        obtain ⟨before, after, rfl⟩ := List.append_of_mem (hperm.subset List.mem_cons_self)
        have hrest : (before ++ after).length = count := by simpa [← Nat.add_assoc] using hcount
        have hzs : zs.Perm (before ++ after) := (hperm.trans List.perm_middle).cons_inv
        exact ⟨y, before ++ after, mem_selections.mpr ⟨before, after, rfl, rfl⟩, zs, (ih hrest).mpr hzs, rfl⟩

theorem arrangements_map (f : α → β) (count : Nat) (xs : List α) :
    arrangements count (xs.map f) = (arrangements count xs).map (List.map f) := by
  induction count generalizing xs with
  | zero => rfl
  | succ count ih =>
    simp only [arrangements, selections_map, List.flatMap_map, List.map_flatMap, Prod.map, ih, List.map_map]
    rfl

theorem arrangements_increasing [LT α] {count : Nat} {xs : List α} (h : xs.Pairwise (· < ·)) :
    (arrangements count xs).Pairwise (· < ·) := by
  induction count generalizing xs with
  | zero => exact List.pairwise_singleton _ _
  | succ count ih =>
    rw [arrangements, List.pairwise_flatMap]
    constructor
    · rintro ⟨x, rest⟩ hx
      obtain ⟨before, after, rfl, rfl⟩ := mem_selections.mp hx
      have hrest : (before ++ after).Pairwise (· < ·) :=
        h.sublist ((List.sublist_cons_self x after).append_left before)
      rw [List.pairwise_map]
      exact (ih hrest).imp fun hless => List.Lex.cons hless
    · -- Those that begin with different items differ there first.
      have hfirsts : (selections xs).Pairwise fun s t => s.1 < t.1 := by
        rw [← firsts_selections xs, List.pairwise_map] at h
        exact h
      refine hfirsts.imp fun {s t} hless ys hys zs hzs => ?_
      obtain ⟨ys, -, rfl⟩ := List.mem_map.mp hys
      obtain ⟨zs, -, rfl⟩ := List.mem_map.mp hzs
      exact List.Lex.rel hless

/-! ### Orders of positions -/

/-- All orders of so many positions, each once; of two, the one that is less where they first differ comes
first. -/
structure AreOrders {count : Nat} (orders : List (List (Fin count))) : Prop where
  all : ∀ order, order ∈ orders ↔ order.Perm (List.finRange count)
  increasing : orders.Pairwise (· < ·)

theorem permutations_areOrders (count : Nat) : AreOrders (permutations (List.finRange count)) where
  all _ := mem_arrangements rfl
  increasing := arrangements_increasing (List.pairwise_lt_finRange count)

theorem AreOrders.nodup {count : Nat} {orders : List (List (Fin count))} (h : AreOrders orders) :
    orders.Nodup := by
  refine h.increasing.imp fun {order order'} hless hsame => ?_
  rw [hsame] at hless
  exact List.lt_irrefl order' hless

theorem permutations_eq_map (xs : List α) :
    permutations xs = (permutations (List.finRange xs.length)).map (List.map xs.get) := by
  rw [permutations, permutations, ← arrangements_map, List.length_finRange, List.map_get_finRange]

theorem permutations_perm (xs : List α) : (permutations xs).Perm xs.permutations := by
  have horders := permutations_areOrders xs.length
  have hpositions : (permutations (List.finRange xs.length)).Perm (List.finRange xs.length).permutations := by
    rw [List.perm_ext_iff_of_nodup horders.nodup (List.nodup_permutations _ (List.nodup_finRange _))]
    intro order
    rw [horders.all, List.mem_permutations]
  have hnames := hpositions.map (List.map xs.get)
  rwa [← permutations_eq_map, List.map_permutations, List.map_get_finRange] at hnames

/-! ### Messages -/

/-- The messages that may report some features, one for each order of them. -/
structure ReportsInAnyOrder (names : List Text) (messages : List Text) : Prop where
  count : messages.length = names.length.factorial
  ordered : ∃ orders : List (List (Fin names.length)), AreOrders orders ∧
    messages = orders.map fun order => combinedMessage (order.map names.get)
  complete : ∀ message, message ∈ messages ↔ ∃ ordering : List Text, ordering.Perm names ∧
    message = Text.join ", " (ordering.map fun name => sparseMessage ++ ": " ++ name)
  reordered : ∀ names', names'.Perm names → (sparseMessages names').Perm messages

/-- There is one message for each order of the features, in the order of their positions, and which messages
there are does not hang on the order that the features are given in. -/
theorem sparse_messages_report_in_any_order (names : List Text) :
    ReportsInAnyOrder names (sparseMessages names) where
  count := by
    rw [sparseMessages, List.length_map, (permutations_perm names).length_eq, List.length_permutations]
  ordered := by
    refine ⟨permutations (List.finRange names.length), permutations_areOrders _, ?_⟩
    rw [sparseMessages, permutations_eq_map, List.map_map]
    rfl
  complete message := by
    simp only [sparseMessages, List.mem_map, (permutations_perm names).mem_iff, List.mem_permutations]
    exact exists_congr fun ordering => and_congr_right fun _ => eq_comm
  reordered names' hperm := by
    have hsame : (permutations names').Perm (permutations names) :=
      (permutations_perm names').trans (hperm.permutations.trans (permutations_perm names).symm)
    exact hsame.map combinedMessage

example : permutations ["a", "b", "a"] = [["a", "b", "a"], ["a", "a", "b"], ["b", "a", "a"], ["b", "a", "a"],
    ["a", "a", "b"], ["a", "b", "a"]] := by decide

end ClusterHarness.Detector
