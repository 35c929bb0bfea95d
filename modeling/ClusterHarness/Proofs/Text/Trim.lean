import ClusterHarness.Text.Blank
import Mathlib.Data.List.DropRight

/-!
Trimming, and finding a part. What is trimmed stays as it is when trimmed again, and what does not have
to go at an end is kept whatever stands before it.
-/

namespace ClusterHarness.Text

variable {p : CodePoint → Bool}

theorem trimEnd_prefix (p : CodePoint → Bool) (t : Text) : trimEnd p t <+: t := List.rdropWhile_prefix p t

theorem trimEnd_trimEnd (p : CodePoint → Bool) (t : Text) : trimEnd p (trimEnd p t) = trimEnd p t :=
  List.rdropWhile_idempotent p t

theorem last_trimEnd {t : Text} : ∀ c ∈ (trimEnd p t).getLast?, p c = false := by
  intro c hc
  obtain ⟨hne, rfl⟩ := List.mem_getLast?_eq_getLast hc
  exact Bool.not_eq_true _ ▸ List.rdropWhile_last_not p t hne

theorem trimEnd_cons_of_not {c : CodePoint} (h : p c = false) (t : Text) :
    trimEnd p (c :: t) = c :: trimEnd p t := by
  rw [trimEnd, List.reverse_cons, List.dropWhile_append]
  split
  · next hall => simp [trimEnd, List.isEmpty_iff.mp hall, h]
  · simp [trimEnd]

theorem trimEnd_append {t : Text} (h : ∃ c ∈ t, p c = false) (s : Text) :
    trimEnd p (s ++ t) = s ++ trimEnd p t := by
  obtain ⟨c, hc, hp⟩ := h
  have hne : (t.reverse.dropWhile p).isEmpty = false := by
    rw [Bool.eq_false_iff, ne_eq, List.isEmpty_iff, List.dropWhile_eq_nil_iff]
    intro hall
    rw [hall c (List.mem_reverse.mpr hc)] at hp
    cases hp
  rw [trimEnd, List.reverse_append, List.dropWhile_append, hne, if_neg Bool.false_ne_true,
    List.reverse_append, List.reverse_reverse]
  rfl

theorem trimEnd_append_of_all {t : Text} (h : ∀ c ∈ t, p c = true) (s : Text) :
    trimEnd p (s ++ t) = trimEnd p s := by
  have hall : t.reverse.dropWhile p = [] :=
    List.dropWhile_eq_nil_iff.mpr fun c hc => h c (List.mem_reverse.mp hc)
  rw [trimEnd, List.reverse_append, List.dropWhile_append, hall]
  rfl

/-- What goes at the end is all of the kind that goes. -/
theorem exists_trimEnd (p : CodePoint → Bool) (t : Text) :
    ∃ rest, t = trimEnd p t ++ rest ∧ ∀ c ∈ rest, p c = true :=
  ⟨t.rtakeWhile p, List.rdropWhile_append_rtakeWhile.symm, fun _ => List.mem_rtakeWhile_imp⟩

theorem trimBy_cases (p : CodePoint → Bool) (t : Text) :
    t.all p = true ∧ trimBy p t = [] ∨
      t.all p = false ∧ ∃ c s, p c = false ∧ trimBy p t = c :: trimEnd p s := by
  induction t with
  | nil => exact .inl ⟨rfl, rfl⟩
  | cons c t ih =>
    cases hc : p c with
    | true =>
      have hdrop : trimBy p (c :: t) = trimBy p t := by rw [trimBy, List.dropWhile_cons_of_pos hc, trimBy]
      simpa only [hdrop, List.all_cons, hc, Bool.true_and] using ih
    | false =>
      refine .inr ⟨by rw [List.all_cons, hc, Bool.false_and], c, t, hc, ?_⟩
      rw [trimBy, List.dropWhile_cons_of_neg (by simp [hc]), trimEnd_cons_of_not hc]

theorem trimBy_trimBy (p : CodePoint → Bool) (t : Text) : trimBy p (trimBy p t) = trimBy p t := by
  rcases trimBy_cases p t with ⟨-, ht⟩ | ⟨-, c, s, hc, ht⟩
  · rw [ht]
    rfl
  · rw [ht, trimBy, List.dropWhile_cons_of_neg (by simp [hc]), trimEnd_cons_of_not hc, trimEnd_trimEnd]

theorem head_trimBy {t : Text} : ∀ c ∈ (trimBy p t).head?, p c = false := by
  intro c hc
  rcases trimBy_cases p t with ⟨-, ht⟩ | ⟨-, d, s, hd, ht⟩
  · rw [ht] at hc
    cases hc
  · rw [ht] at hc
    rwa [← Option.some.inj hc]

theorem last_trimBy {t : Text} : ∀ c ∈ (trimBy p t).getLast?, p c = false := last_trimEnd

theorem all_trimBy (p : CodePoint → Bool) (t : Text) : (trimBy p t).all p = t.all p := by
  rcases trimBy_cases p t with ⟨hall, ht⟩ | ⟨hall, c, s, hc, ht⟩
  · rw [ht, hall]
    rfl
  · rw [ht, hall, List.all_cons, hc, Bool.false_and]

theorem trimBy_eq_self {t : Text} (hhead : ∀ c ∈ t.head?, p c = false) (hlast : ∀ c ∈ t.getLast?, p c = false) :
    trimBy p t = t := by
  have hdrop : t.dropWhile p = t := by
    cases t with
    | nil => rfl
    | cons c t => exact List.dropWhile_cons_of_neg (by simp [hhead c rfl])
  rw [trimBy, hdrop]
  refine List.rdropWhile_eq_self_iff.mpr fun hne hp => ?_
  rw [hlast _ (List.getLast_mem_getLast? hne)] at hp
  cases hp

theorem trimBy_append {s : Text} (h : ∀ c ∈ s, p c = true) (t : Text) : trimBy p (s ++ t) = trimBy p t := by
  rw [trimBy, List.dropWhile_append_of_pos h, trimBy]

theorem trimBy_append_of_all {s : Text} (h : ∀ c ∈ s, p c = true) (t : Text) : trimBy p (t ++ s) = trimBy p t := by
  rw [trimBy, List.dropWhile_append]
  split
  · next hall => rw [trimBy, List.isEmpty_iff.mp hall, List.dropWhile_eq_nil_iff.mpr h]
  · exact trimEnd_append_of_all h _

theorem trimBy_isInfix (p : CodePoint → Bool) (t : Text) : trimBy p t <:+: t :=
  List.IsInfix.trans (List.IsPrefix.isInfix <| trimEnd_prefix p _) (List.dropWhile_suffix p).isInfix

theorem trimBy_eq_nil {t : Text} : trimBy p t = [] ↔ t.all p = true := by
  rcases trimBy_cases p t with ⟨hall, ht⟩ | ⟨hall, c, s, -, ht⟩
  · exact iff_of_true ht hall
  · exact iff_of_false (by rw [ht]; nofun) (by rw [hall]; nofun)

theorem trim_trim (t : Text) : t.trim.trim = t.trim := trimBy_trimBy _ t

theorem isBlank_trim (t : Text) : t.trim.isBlank = t.isBlank := all_trimBy _ t

theorem contains_iff {t part : Text} : t.contains part = true ↔ part <:+: t := by
  induction t with
  | nil => rw [contains, List.isEmpty_iff, List.infix_nil]
  | cons c t ih => rw [contains, Bool.or_eq_true, ih, List.isPrefixOf_iff_prefix, List.infix_cons_iff]

end ClusterHarness.Text
