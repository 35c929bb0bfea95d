import ClusterHarness.Text.Lines
import ClusterHarness.Text.Utf8

/-!
Texts without surrogates. All that UTF-8 is decoded to is such a text.
-/

namespace ClusterHarness

namespace CodePoint

theorem isSurrogate_eq_false {c : CodePoint} :
    c.isSurrogate = false ↔ c.val < 0xD800 ∨ 0xDFFF < c.val := by
  simp only [isSurrogate, Bool.and_eq_false_iff, decide_eq_false_iff_not]
  omega

end CodePoint

def Text.Scalars (t : Text) : Prop := ∀ c ∈ t, CodePoint.isSurrogate c = false

theorem Text.scalars_iff {t : Text} : t.Scalars ↔ t.any CodePoint.isSurrogate = false := by
  simp [Text.Scalars, List.any_eq_false]

instance (t : Text) : Decidable t.Scalars := decidable_of_iff _ Text.scalars_iff.symm

namespace Text.Scalars

variable {s t : Text}

theorem tail {c : CodePoint} (h : Scalars (c :: t)) : Scalars t := fun d hd =>
  h d (List.mem_cons_of_mem c hd)

theorem of_subset (h : Scalars t) (hsub : s ⊆ t) : Scalars s := fun c hc => h c (hsub hc)

theorem unifyLineEnds (h : Scalars t) : Scalars t.unifyLineEnds := by
  fun_induction Text.unifyLineEnds t with
  | case1 => exact h
  | case2 c hc =>
    intro d hd
    rw [List.mem_singleton.mp hd]
    rfl
  | case3 c hc => exact h
  | case4 c d t hc hd ih =>
    intro e he
    rcases List.mem_cons.mp he with rfl | he
    · rfl
    · exact ih h.tail.tail e he
  | case5 c d t hc hd ih =>
    intro e he
    rcases List.mem_cons.mp he with rfl | he
    · rfl
    · exact ih h.tail e he
  | case6 c d t hc ih =>
    intro e he
    rcases List.mem_cons.mp he with rfl | he
    · exact h e List.mem_cons_self
    · exact ih h.tail e he

end Text.Scalars

namespace Utf8

theorem codePoint_scalar {n : Nat} (h : n < 0xD800 ∨ 0xDFFF < n ∧ n < 0x110000) :
    (codePoint n).isSurrogate = false := by
  have hval : (codePoint n).val = n % 0x110000 := rfl
  rw [CodePoint.isSurrogate_eq_false, hval]
  omega

theorem isContinuation_bounds {b : UInt8} (h : isContinuation b = true) :
    0x80 ≤ b.toNat ∧ b.toNat ≤ 0xBF := by
  simpa [isContinuation, UInt8.le_iff_toNat_le] using h

theorem maySecond_bounds {a b : UInt8} (h : maySecond a b = true) :
    (0x80 ≤ b.toNat ∧ b.toNat ≤ 0xBF) ∧ (a.toNat = 0xED → b.toNat < 0xA0) ∧
      (a.toNat = 0xF0 → 0x90 ≤ b.toNat) ∧ (a.toNat = 0xF4 → b.toNat < 0x90) := by
  simp only [maySecond, Bool.and_eq_true, Bool.not_eq_true', Bool.and_eq_false_iff, beq_eq_false_iff_ne,
    ne_eq, decide_eq_false_iff_not, UInt8.lt_iff_toNat_lt, UInt8.le_iff_toNat_le, ge_iff_le,
    ← UInt8.toNat_inj] at h
  obtain ⟨⟨⟨⟨hcont, -⟩, hED⟩, hF0⟩, hF4⟩ := h
  refine ⟨isContinuation_bounds hcont, ?_, ?_, ?_⟩
  · intro ha
    simpa using hED.resolve_left (by simp [ha])
  · intro ha
    simpa using hF0.resolve_left (by simp [ha])
  · intro ha
    simpa using hF4.resolve_left (by simp [ha])

theorem head_scalar {a : UInt8} {rest : Bytes} {c : CodePoint} {width : Nat}
    (h : head a rest = .scalar c width) : c.isSurrogate = false := by
  simp only [head] at h
  split at h
  · next hascii =>
    rw [← (Head.scalar.inj h).1]
    exact codePoint_scalar (by omega)
  split at h
  · cases h
  next hlow hlead =>
  split at h
  · cases h
  next b rest =>
  split at h
  · cases h
  next hsecond =>
  obtain ⟨hb, hED, hF0, hF4⟩ := maySecond_bounds (by simpa using hsecond)
  split at h
  · next htwo =>
    rw [← (Head.scalar.inj h).1]
    exact codePoint_scalar (by omega)
  split at h
  · cases h
  next e rest =>
  split at h
  · cases h
  next hthird =>
  have he := isContinuation_bounds (b := e) (by simpa using hthird)
  split at h
  · rw [← (Head.scalar.inj h).1]
    exact codePoint_scalar (by omega)
  split at h
  · cases h
  next d rest =>
  split at h
  · cases h
  next hfourth =>
  have hd := isContinuation_bounds (b := d) (by simpa using hfourth)
  rw [← (Head.scalar.inj h).1]
  exact codePoint_scalar (by omega)

theorem decodeFrom_scalars {skip start : Nat} {bs : Bytes} {t : Text}
    (h : decodeFrom skip start bs = .ok t) : t.Scalars := by
  induction bs generalizing skip start t with
  | nil =>
    rw [decodeFrom] at h
    cases h
    exact nofun
  | cons b bs ih =>
    cases skip with
    | succ skip => exact ih h
    | zero =>
      rw [decodeFrom] at h
      cases hhead : head b bs with
      | defect d width => simp [hhead] at h
      | scalar c width =>
        simp only [hhead] at h
        cases hrest : decodeFrom (width - 1) (start + 1) bs with
        | error e =>
          rw [hrest] at h
          cases h
        | ok u =>
          rw [hrest] at h
          cases h
          intro d hd
          rcases List.mem_cons.mp hd with rfl | hd
          · exact head_scalar hhead
          · exact ih hrest d hd

theorem decode_scalars {bs : Bytes} {t : Text} (h : decode bs = .ok t) : t.Scalars := decodeFrom_scalars h

end Utf8

end ClusterHarness
