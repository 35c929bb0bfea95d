import ClusterHarness.Files.Path
import ClusterHarness.Proofs.Text.Pieces

/-!
Paths and their texts: a path is read back from its text.
-/

namespace ClusterHarness.Path

def slash : CodePoint := CodePoint.ofChar '/'

/-- Every part of the path is a name. -/
def Named (p : Path) : Prop := ∀ part ∈ p.parts, part ≠ [] ∧ part ≠ dot ∧ slash ∉ part

theorem ofText_named (t : Text) : Named (ofText t) := by
  intro part hpart
  obtain ⟨hmem, hkept⟩ := List.mem_filter.mp hpart
  simp only [Bool.and_eq_true, Bool.not_eq_true', List.isEmpty_eq_false_iff, bne_iff_ne] at hkept
  exact ⟨hkept.1, hkept.2, Text.not_mem_of_mem_splitOn hmem⟩

theorem slashCount_append (slashes : Fin 3) {body : Text} (h : body.head? ≠ some slash) :
    slashCount (List.replicate slashes.val slash ++ body) = slashes := by
  have hbody : body.takeWhile (· = slash) = [] := by
    cases body with
    | nil => rfl
    | cons c body => exact List.takeWhile_cons_of_neg (by simpa using h)
  have hcount : ((List.replicate slashes.val slash ++ body).takeWhile (· = slash)).length = slashes.val := by
    rw [List.takeWhile_append_of_pos (by simp), hbody, List.append_nil, List.length_replicate]
  rw [slashCount, ← slash, hcount]
  clear hcount
  revert slashes
  decide

variable {p : Path}

theorem filter_named (h : Named p) : p.parts.filter (fun part => !part.isEmpty && part != dot) = p.parts := by
  refine List.filter_eq_self.mpr fun part hpart => ?_
  obtain ⟨hne, hdot, -⟩ := h part hpart
  simp [hne, hdot]

theorem head_join (h : Named p) (hne : p.parts ≠ []) : (Text.join separator p.parts).head? ≠ some slash := by
  obtain ⟨part, parts, hparts⟩ := List.exists_cons_of_ne_nil hne
  obtain ⟨hpart, -, hslash⟩ := h part (by rw [hparts]; exact List.mem_cons_self)
  obtain ⟨c, part, rfl⟩ := List.exists_cons_of_ne_nil hpart
  have hc : c ≠ slash := fun hc => hslash (hc ▸ List.mem_cons_self)
  rw [hparts]
  cases parts with
  | nil => simpa [Text.join] using hc
  | cons next parts => simpa [Text.join_cons_cons] using hc

theorem ofText_toText_parts (h : Named p) (hne : p.parts ≠ []) : ofText p.toText = p := by
  have htext : p.toText = List.replicate p.slashes.val slash ++ Text.join separator p.parts := by
    rw [toText, List.isEmpty_eq_false_iff.mpr hne, Bool.and_false]
    rfl
  have hsplit : Text.splitOn p.toText separator = List.replicate p.slashes.val [] ++ p.parts := by
    rw [htext]
    change Text.splitOn _ [slash] = _
    rw [Text.splitOn_marks]
    exact congrArg _ (Text.splitOn_join hne fun part hpart => (h part hpart).2.2)
  have hempty : (List.replicate p.slashes.val ([] : Text)).filter (fun part => !part.isEmpty && part != dot) = [] := by
    simp
  rw [ofText, hsplit, List.filter_append, hempty, List.nil_append, filter_named h, htext,
    slashCount_append p.slashes (head_join h hne)]

theorem ofText_toText (h : Named p) : ofText p.toText = p := by
  by_cases hne : p.parts = []
  · obtain ⟨slashes, parts⟩ := p
    cases hne
    clear h
    revert slashes
    decide +kernel
  · exact ofText_toText_parts h hne

end ClusterHarness.Path
