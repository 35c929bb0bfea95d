import ClusterHarness.Text.Basic
import Mathlib.Data.List.Infix

/-!
The pieces of a text between the occurrences of a mark. Occurrences are found from the left and do not overlap,
so a piece is found again where the mark that follows it is the first to occur. For a mark that is one code
point, these are the pieces that do not hold it.
-/

namespace ClusterHarness.Text

section Marks

variable {mark : Text}

/-- The mark stands at the end of the text, and nowhere else in it. -/
structure ClosedBy (mark t : Text) : Prop where
  ends : mark <:+ t
  once : ∀ before after, t = before ++ (mark ++ after) → after = []

theorem not_infix_append {lead t : Text} (hhead : ∀ c ∈ mark.head?, c ∉ lead) (h : ¬mark <:+: t) :
    ¬mark <:+: lead ++ t := by
  induction lead with
  | nil => exact h
  | cons c lead ih =>
    have hlead : ¬mark <:+: lead ++ t := ih fun d hd hmem => hhead d hd (List.mem_cons_of_mem _ hmem)
    rw [List.cons_append, List.infix_cons_iff, not_or]
    refine ⟨fun hstart => ?_, hlead⟩
    cases mark with
    | nil => exact h (List.nil_infix)
    | cons d mark =>
      rw [List.cons_prefix_cons] at hstart
      exact hhead d rfl (hstart.1 ▸ List.mem_cons_self)

/-- An occurrence that goes beyond a part without the mark cannot go over a code point that the mark does not have. -/
theorem closedBy_apart {part : Text} {c : CodePoint} (hc : c ∉ mark) (h : ¬mark <:+: part) :
    ClosedBy mark (part ++ c :: mark) where
  ends := ⟨part ++ [c], by simp⟩
  once before after heq := by
    rcases List.append_eq_append_iff.mp heq with ⟨middle, -, hmark⟩ | ⟨middle, hpart, hmark⟩
    · cases middle with
      | nil =>
        cases mark with
        | nil => exact absurd List.nil_infix h
        | cons d mark => exact absurd (List.cons.inj hmark).1 (fun hcd => hc (hcd ▸ List.mem_cons_self))
      | cons d middle =>
        rw [List.cons_append, List.cons.injEq] at hmark
        have hlength := congrArg List.length hmark.2
        simp only [List.length_append] at hlength
        exact List.eq_nil_of_length_eq_zero (by omega)
    · rcases List.append_eq_append_iff.mp hmark with ⟨more, hmore, -⟩ | ⟨more, hmore, hrest⟩
      · exact absurd ⟨before, more, by rw [hpart, hmore, List.append_assoc]⟩ h
      · cases more with
        | nil =>
          rw [List.append_nil] at hmore
          exact absurd ⟨before, [], by rw [hpart, hmore, List.append_nil]⟩ h
        | cons d more =>
          have hd : c = d := (List.cons.inj hrest).1
          exact absurd (hmore ▸ List.mem_append_right _ (hd ▸ List.mem_cons_self)) hc

theorem not_infix_apart {part : Text} {c : CodePoint} (hc : c ∉ mark) (h : ¬mark <:+: part) :
    ¬mark <:+: part ++ [c] := by
  rintro ⟨before, after, heq⟩
  have hclosed : part ++ c :: mark = before ++ (mark ++ (after ++ mark)) := by
    calc part ++ c :: mark = (part ++ [c]) ++ mark := List.append_cons part c mark
      _ = before ++ mark ++ after ++ mark := by rw [heq]
      _ = before ++ (mark ++ (after ++ mark)) := by simp only [List.append_assoc]
  have hnil := (closedBy_apart hc h).once before _ hclosed
  rw [(List.append_eq_nil_iff.mp hnil).2] at h
  exact h List.nil_infix

theorem splitFrom_skip (mark skipped rest : Text) :
    splitFrom mark skipped.length (skipped ++ rest) = splitFrom mark 0 rest := by
  induction skipped with
  | nil => rfl
  | cons c skipped ih => rwa [List.length_cons, List.cons_append, splitFrom]

theorem splitFrom_mark (hne : mark ≠ []) (rest : Text) :
    splitFrom mark 0 (mark ++ rest) = ([], splitOn rest mark) := by
  cases mark with
  | nil => exact absurd rfl hne
  | cons c mark =>
    have hstart : (c :: mark).isPrefixOf (c :: (mark ++ rest)) = true :=
      List.isPrefixOf_iff_prefix.mpr ⟨rest, rfl⟩
    rw [List.cons_append, splitFrom, if_pos hstart, List.length_cons, Nat.add_sub_cancel, splitFrom_skip]
    rfl

/-- The piece before the first occurrence of a mark. -/
theorem splitFrom_first (hne : mark ≠ []) {piece : Text} (h : ClosedBy mark (piece ++ mark)) (rest : Text) :
    splitFrom mark 0 (piece ++ (mark ++ rest)) = (piece, splitOn rest mark) := by
  induction piece with
  | nil => exact splitFrom_mark hne rest
  | cons c piece ih =>
    have hlater : ClosedBy mark (piece ++ mark) :=
      ⟨⟨piece, rfl⟩, fun before after heq => h.once (c :: before) after (congrArg (List.cons c) heq)⟩
    have hstart : ¬mark.isPrefixOf (c :: (piece ++ (mark ++ rest))) = true := by
      rw [List.isPrefixOf_iff_prefix]
      intro hmark
      have hwithin : mark <+: c :: piece ++ mark := by
        refine List.prefix_of_prefix_length_le hmark ⟨rest, by simp⟩ ?_
        rw [List.length_append]
        exact Nat.le_add_left _ _
      obtain ⟨after, hafter⟩ := hwithin
      have hlength := congrArg List.length hafter
      rw [h.once [] after hafter.symm] at hlength
      simp only [List.append_nil, List.length_append, List.length_cons] at hlength
      omega
    rw [List.cons_append, splitFrom, if_neg hstart, ih hlater]

theorem splitFrom_unmarked {t : Text} (h : ¬mark <:+: t) : splitFrom mark 0 t = (t, []) := by
  induction t with
  | nil => rfl
  | cons c t ih =>
    rw [List.infix_cons_iff, not_or] at h
    rw [splitFrom, if_neg (mt List.isPrefixOf_iff_prefix.mp h.1), ih h.2]

theorem splitFrom_spec (hne : mark ≠ []) (skip : Nat) (t : Text) :
    (splitFrom mark skip t).1 <+: t.drop skip ∧ ¬mark <:+: (splitFrom mark skip t).1 ∧
      ∀ piece ∈ (splitFrom mark skip t).2, ¬mark <:+: piece := by
  have hnil : ¬mark <:+: [] := mt List.infix_nil.mp hne
  induction t generalizing skip with
  | nil => cases skip <;> exact ⟨List.nil_prefix, hnil, nofun⟩
  | cons c t ih =>
    cases skip with
    | succ skip => exact ih skip
    | zero =>
      rw [splitFrom]
      split
      · obtain ⟨-, hfirst, hmore⟩ := ih (mark.length - 1)
        exact ⟨List.nil_prefix, hnil, List.forall_mem_cons.mpr ⟨hfirst, hmore⟩⟩
      · next hmark =>
        obtain ⟨hstart, hfirst, hmore⟩ := ih 0
        have hwhole : c :: (splitFrom mark 0 t).1 <+: c :: t := List.cons_prefix_cons.mpr ⟨rfl, hstart⟩
        refine ⟨hwhole, List.infix_cons_iff.not.mpr (not_or.mpr ⟨fun hsooner => hmark ?_, hfirst⟩), hmore⟩
        exact List.isPrefixOf_iff_prefix.mpr (hsooner.trans hwhole)

theorem not_infix_of_mem_splitOn (hne : mark ≠ []) {t piece : Text} (h : piece ∈ splitOn t mark) :
    ¬mark <:+: piece := by
  obtain ⟨-, hfirst, hmore⟩ := splitFrom_spec hne 0 t
  rcases List.mem_cons.mp h with rfl | h
  · exact hfirst
  · exact hmore piece h

end Marks

/-! ### Marks of one code point -/

variable {mark : CodePoint}

theorem splitFrom_line {line : Text} (h : mark ∉ line) (rest : Text) :
    splitFrom [mark] 0 (line ++ mark :: rest) = (line, splitOn rest [mark]) := by
  have hclosed : ClosedBy [mark] (line ++ [mark]) := by
    refine ⟨⟨line, rfl⟩, fun before after heq => ?_⟩
    rcases List.append_eq_append_iff.mp heq with ⟨middle, -, hmark⟩ | ⟨middle, hline, hmark⟩
    · have hlength := congrArg List.length hmark
      simp only [List.length_append, List.length_singleton] at hlength
      exact List.eq_nil_of_length_eq_zero (by omega)
    · cases middle with
      | nil => exact (List.cons.inj hmark).2
      | cons c middle =>
        have hc : mark = c := (List.cons.inj hmark).1
        exact absurd (hline ▸ List.mem_append_right _ (hc ▸ List.mem_cons_self)) h
  exact splitFrom_first (List.cons_ne_nil _ _) hclosed rest

theorem splitOn_lines {lines : List Text} (h : ∀ line ∈ lines, mark ∉ line) :
    splitOn (lines.flatMap (· ++ [mark])) [mark] = lines ++ [[]] := by
  induction lines with
  | nil => rfl
  | cons line lines ih =>
    rw [List.flatMap_cons, List.append_assoc, List.singleton_append, splitOn,
      splitFrom_line (h line List.mem_cons_self), ih fun l hl => h l (List.mem_cons_of_mem _ hl)]
    rfl

theorem splitOn_mark (rest : Text) : splitOn (mark :: rest) [mark] = [] :: splitOn rest [mark] := by
  rw [← List.nil_append (mark :: rest), splitOn, splitFrom_line List.not_mem_nil]

theorem splitOn_marks (count : Nat) (rest : Text) :
    splitOn (List.replicate count mark ++ rest) [mark] = List.replicate count [] ++ splitOn rest [mark] := by
  induction count with
  | zero => rfl
  | succ count ih => rw [List.replicate_succ, List.cons_append, splitOn_mark, ih]; rfl

theorem join_cons_cons (mark piece next : Text) (pieces : List Text) :
    join mark (piece :: next :: pieces) = piece ++ (mark ++ join mark (next :: pieces)) := by
  simp [join, List.intersperse]

theorem join_append_mark (mark : Text) {pieces : List Text} (h : pieces ≠ []) :
    join mark pieces ++ mark = pieces.flatMap (· ++ mark) := by
  induction pieces with
  | nil => exact absurd rfl h
  | cons piece pieces ih =>
    cases pieces with
    | nil => simp [join]
    | cons next pieces =>
      rw [List.flatMap_cons, ← ih (List.cons_ne_nil _ _), join_cons_cons]
      simp only [List.append_assoc]

theorem splitOn_join {pieces : List Text} (hne : pieces ≠ []) (h : ∀ piece ∈ pieces, mark ∉ piece) :
    splitOn (join [mark] pieces) [mark] = pieces := by
  induction pieces with
  | nil => exact absurd rfl hne
  | cons piece pieces ih =>
    obtain ⟨hpiece, hpieces⟩ := List.forall_mem_cons.mp h
    cases pieces with
    | nil =>
      have hjoin : join [mark] [piece] = piece := by simp [join]
      rw [hjoin, splitOn, splitFrom_unmarked (mt (List.singleton_infix_iff mark piece).mp hpiece)]
    | cons next pieces =>
      rw [join_cons_cons, List.singleton_append, splitOn, splitFrom_line hpiece, ih (List.cons_ne_nil _ _) hpieces]

theorem not_mem_of_mem_splitOn {t piece : Text} (h : piece ∈ splitOn t [mark]) : mark ∉ piece :=
  mt (List.singleton_infix_iff mark piece).mpr (not_infix_of_mem_splitOn (List.cons_ne_nil _ _) h)

end ClusterHarness.Text
