import ClusterHarness.Proofs.Json.Numerals
import ClusterHarness.Proofs.Json.Portable
import ClusterHarness.Proofs.Text.Ascii

/-!
What is written for a document: printable ASCII, in one line, whose head neither is a space nor closes
a container.
-/

namespace ClusterHarness.Json

def separator : Text := Text.ofString ", "

def renderField (f : Text × Json) : Text := renderString f.1 ++ (Text.ofString ": " ++ render f.2)

theorem renderItems_cons (v : Json) (items : List Json) :
    renderItems (v :: items) = render v ++ items.flatMap fun w => separator ++ render w := by
  induction items generalizing v with
  | nil => simp [renderItems]
  | cons w items ih =>
    rw [renderItems, ih, List.flatMap_cons, separator, List.append_assoc]
    exact nofun

theorem renderFields_cons (f : Text × Json) (fields : List (Text × Json)) :
    renderFields (f :: fields) = renderField f ++ fields.flatMap fun g => separator ++ renderField g := by
  induction fields generalizing f with
  | nil => simp [renderFields, renderField]
  | cons g fields ih =>
    rw [renderFields, ih, List.flatMap_cons, separator, renderField, renderField]
    · simp only [List.append_assoc]
    · exact nofun

/-- The head of what is written for a value is no space and closes nothing. -/
structure Opens (s : Text) : Prop where
  nonempty : s ≠ []
  space : ∀ c, s.head? = some c → isSpace c = false
  bracket : s.head? ≠ some (CodePoint.ofChar ']')
  brace : s.head? ≠ some (CodePoint.ofChar '\x7d')

theorem opens_cons {c : CodePoint} {s : Text}
    (hc : isSpace c = false ∧ c ≠ CodePoint.ofChar ']' ∧ c ≠ CodePoint.ofChar '\x7d') :
    Opens (c :: s) where
  nonempty := List.cons_ne_nil _ _
  space d hd := by
    cases hd
    exact hc.1
  bracket h := hc.2.1 (Option.some.inj h)
  brace h := hc.2.2 (Option.some.inj h)

theorem digit_opens {c : CodePoint} (h : c.isAsciiDigit) :
    isSpace c = false ∧ c ≠ CodePoint.ofChar ']' ∧ c ≠ CodePoint.ofChar '\x7d' := by
  refine ⟨?_, ?_, ?_⟩
  · simp only [CodePoint.isAsciiDigit, Bool.and_eq_true, decide_eq_true_eq] at h
    simp only [isSpace, Bool.or_eq_false_iff, decide_eq_false_iff_not]
    omega
  · rintro rfl
    cases h
  · rintro rfl
    cases h

theorem Numeral.text_opens {n : Numeral} (hn : n.WellFormed) : Opens n.text := by
  obtain ⟨c, s, hhead, hdigit⟩ := unsigned_head hn []
  rw [List.append_nil] at hhead
  cases hnegative : n.negative with
  | true =>
    rw [text, if_pos hnegative]
    exact opens_cons (by decide)
  | false =>
    rw [text, if_neg (by rw [hnegative]; exact Bool.false_ne_true), hhead]
    exact opens_cons (digit_opens hdigit)

theorem render_int_opens (n : ℤ) : Opens (render (.int n)) := by
  rw [render, ← Numeral.ofInt_text]
  exact Numeral.text_opens (Numeral.ofInt_wellFormed n)

theorem render_float_opens (x : Binary64) : Opens (render (.float x)) := by
  rw [render]
  cases x with
  | finite negative biased fraction =>
    obtain ⟨n, hformed, htext, -⟩ := Numeral.ofFloat (x := .finite negative biased fraction) rfl
    rw [← htext]
    exact Numeral.text_opens hformed
  | infinite negative => cases negative <;> exact opens_cons (by decide)
  | nan => exact opens_cons (by decide)

theorem render_opens (v : Json) : Opens (render v) := by
  cases v with
  | null => exact opens_cons (by decide)
  | bool b => cases b <;> exact opens_cons (by decide)
  | int n => exact render_int_opens n
  | float x => exact render_float_opens x
  | str t => exact opens_cons (by decide)
  | arr items => exact opens_cons (by decide)
  | obj fields => exact opens_cons (by decide)

theorem Opens.append {s : Text} (h : Opens s) (t : Text) : Opens (s ++ t) := by
  obtain ⟨c, s, rfl⟩ := List.exists_cons_of_ne_nil h.nonempty
  exact opens_cons ⟨h.space c rfl, fun hc => h.bracket (congrArg some hc),
    fun hc => h.brace (congrArg some hc)⟩

theorem Opens.skipSpace {s : Text} (h : Opens s) : skipSpace s = s := by
  obtain ⟨c, s, rfl⟩ := List.exists_cons_of_ne_nil h.nonempty
  rw [Json.skipSpace, List.dropWhile_cons, h.space c rfl, if_neg Bool.false_ne_true]

/-- What stands in one line of ASCII. -/
def Printable (t : Text) : Prop := ∀ c ∈ t, 32 ≤ c.val ∧ c.val ≤ 126

section Printable

variable {s t : Text}

theorem printable_append (hs : Printable s) (ht : Printable t) : Printable (s ++ t) := by
  intro c hc
  rcases List.mem_append.mp hc with hc | hc
  · exact hs c hc
  · exact ht c hc

theorem printable_cons {c : CodePoint} (hc : 32 ≤ c.val ∧ c.val ≤ 126) (ht : Printable t) :
    Printable (c :: t) := by
  intro d hd
  rcases List.mem_cons.mp hd with rfl | hd
  · exact hc
  · exact ht d hd

theorem printable_nil : Printable [] := nofun

theorem printable_flatMap {α : Type} {f : α → Text} {l : List α} (h : ∀ a ∈ l, Printable (f a)) :
    Printable (l.flatMap f) := by
  intro c hc
  obtain ⟨a, ha, hca⟩ := List.mem_flatMap.mp hc
  exact h a ha c hca

theorem printable_digits (h : ∀ c ∈ t, c.isAsciiDigit) : Printable t := by
  intro c hc
  have hdigit := h c hc
  simp only [CodePoint.isAsciiDigit, Bool.and_eq_true, decide_eq_true_eq] at hdigit
  omega

theorem Numeral.printable {n : Numeral} (hn : n.WellFormed) : Printable n.text := by
  have hfraction : Printable (fractionText n.fraction) := by
    cases hf : n.fraction with
    | none => exact printable_nil
    | some ds => exact printable_cons (by decide) (printable_digits (hn.fraction ds hf).2)
  have hexponent : Printable (exponentText n.exponent) := by
    cases he : n.exponent with
    | none => exact printable_nil
    | some p =>
      have hds := printable_digits (hn.exponent p he).2
      obtain ⟨negative, ds⟩ := p
      cases negative <;> exact printable_cons (by decide) (printable_cons (by decide) hds)
  have hunsigned : Printable n.unsignedText :=
    printable_append (printable_digits hn.whole.2) (printable_append hfraction hexponent)
  rw [text]
  split
  · exact printable_cons (by decide) hunsigned
  · exact hunsigned

theorem ofHexDigit_printable : ∀ n : Fin 16,
    32 ≤ (CodePoint.ofHexDigit n).val ∧ (CodePoint.ofHexDigit n).val ≤ 126 := by
  decide

theorem escapeUnit_printable (n : ℕ) : Printable (escapeUnit n) := by
  rw [escapeUnit, Text.hex_four]
  refine printable_cons (by decide) (printable_cons (by decide) ?_)
  exact printable_cons (ofHexDigit_printable _) (printable_cons (ofHexDigit_printable _)
    (printable_cons (ofHexDigit_printable _) (printable_cons (ofHexDigit_printable _) printable_nil)))

theorem escape_printable (c : CodePoint) : Printable (escape c) := by
  by_cases hshort : c ∈ shortEscaped
  · simp only [shortEscaped, List.mem_cons, List.not_mem_nil, or_false] at hshort
    rcases hshort with rfl | rfl | rfl | rfl | rfl | rfl | rfl <;>
      exact printable_cons (by decide) (printable_cons (by decide) printable_nil)
  · obtain ⟨hquote, h10, h13, h9, h12, h8⟩ := not_shortEscaped hshort
    simp only [escape, if_neg hquote, if_neg h10, if_neg h13, if_neg h9, if_neg h12, if_neg h8]
    split
    · next hc => exact printable_cons hc printable_nil
    · split
      · exact escapeUnit_printable _
      · exact printable_append (escapeUnit_printable _) (escapeUnit_printable _)

theorem renderString_printable (t : Text) : Printable (renderString t) :=
  printable_cons (by decide) (printable_append (printable_flatMap fun c _ => escape_printable c)
    (printable_cons (by decide) printable_nil))

theorem separator_printable : Printable separator :=
  printable_cons (by decide) (printable_cons (by decide) printable_nil)

theorem renderField_printable {f : Text × Json} (h : Printable (render f.2)) :
    Printable (renderField f) :=
  printable_append (renderString_printable f.1)
    (printable_append (printable_cons (by decide) (printable_cons (by decide) printable_nil)) h)

theorem word_printable {w : Text} (h : w.all fun c => 32 ≤ c.val && c.val ≤ 126) : Printable w := by
  intro c hc
  have hc := List.all_eq_true.mp h c hc
  simpa using hc

theorem render_printable (v : Json) : Printable (render v) := by
  induction v using nested_induction with
  | null => exact word_printable rfl
  | bool b => cases b <;> exact word_printable rfl
  | int n =>
    rw [render, ← Numeral.ofInt_text]
    exact Numeral.printable (Numeral.ofInt_wellFormed n)
  | float x =>
    rw [render]
    cases x with
    | finite negative biased fraction =>
      obtain ⟨n, hformed, htext, -⟩ := Numeral.ofFloat (x := .finite negative biased fraction) rfl
      rw [← htext]
      exact Numeral.printable hformed
    | infinite negative => cases negative <;> exact word_printable rfl
    | nan => exact word_printable rfl
  | str t => exact renderString_printable t
  | arr items ih =>
    refine printable_cons (by decide) (printable_append ?_ (printable_cons (by decide) printable_nil))
    cases items with
    | nil => exact printable_nil
    | cons v items =>
      rw [renderItems_cons]
      exact printable_append (ih v List.mem_cons_self) (printable_flatMap fun w hw =>
        printable_append separator_printable (ih w (List.mem_cons_of_mem _ hw)))
  | obj fields ih =>
    refine printable_cons (by decide) (printable_append ?_ (printable_cons (by decide) printable_nil))
    cases fields with
    | nil => exact printable_nil
    | cons f fields =>
      rw [renderFields_cons]
      exact printable_append (renderField_printable (ih f List.mem_cons_self)) (printable_flatMap fun g hg =>
        printable_append separator_printable (renderField_printable (ih g (List.mem_cons_of_mem _ hg))))

theorem render_ascii (v : Json) : Text.IsAscii (render v) := fun c hc =>
  Nat.lt_of_le_of_lt (render_printable v c hc).2 (by decide)

end Printable

end ClusterHarness.Json
