import ClusterHarness.Text.Lines
import ClusterHarness.Text.Utf8

/-!
ASCII text. A byte stands for each code point, and reading gives the text back as it was written.
-/

namespace ClusterHarness

namespace Text

/-- A literal is its characters, and need not be taken apart by its bytes. -/
theorem ofString_ofList (cs : List Char) : ofString (String.ofList cs) = ofChars cs :=
  congrArg ofChars String.toList_ofList

def IsAscii (t : Text) : Prop := ∀ c ∈ t, c.val < 0x80

theorem isAscii_singleton {c : CodePoint} (h : c.val < 0x80) : IsAscii [c] := List.forall_mem_singleton.mpr h

theorem isAscii_append {s t : Text} : IsAscii (s ++ t) ↔ IsAscii s ∧ IsAscii t := List.forall_mem_append

theorem isAscii_replicate {c : CodePoint} (h : c.val < 0x80) (count : Nat) :
    IsAscii (List.replicate count c) := fun _ hd => List.eq_of_mem_replicate hd ▸ h

theorem isAscii_of_digits {t : Text} (h : ∀ c ∈ t, c.isAsciiDigit) : t.IsAscii := by
  intro c hc
  have hdigit := h c hc
  simp only [CodePoint.isAsciiDigit, Bool.and_eq_true, decide_eq_true_eq] at hdigit
  omega

theorem IsAscii.tail {c : CodePoint} {t : Text} (h : IsAscii (c :: t)) : IsAscii t := fun d hd =>
  h d (List.mem_cons_of_mem c hd)

theorem IsAscii.not_surrogate {t : Text} (h : t.IsAscii) : t.any CodePoint.isSurrogate = false := by
  rw [List.any_eq_false]
  intro c hc
  have hval := h c hc
  simp only [CodePoint.isSurrogate, Bool.and_eq_true, decide_eq_true_eq]
  omega

theorem unifyLineEnds_eq_self {t : Text} (h : ∀ c ∈ t, c.val ≠ 13) : t.unifyLineEnds = t := by
  fun_induction Text.unifyLineEnds t with
  | case1 => rfl
  | case2 c hc => exact absurd hc (h c List.mem_cons_self)
  | case3 => rfl
  | case4 c d t hc => exact absurd hc (h c List.mem_cons_self)
  | case5 c d t hc => exact absurd hc (h c List.mem_cons_self)
  | case6 c d t hc ih => rw [ih fun e he => h e (List.mem_cons_of_mem _ he)]

end Text

namespace Utf8

theorem encode_append (s t : Text) : encode (s ++ t) = encode s ++ encode t := List.flatMap_append

theorem encode_cons {c : CodePoint} (h : c.val < 0x80) (t : Text) :
    encode (c :: t) = UInt8.ofNat c.val :: encode t := by
  have hone : encodeOne c = [UInt8.ofNat c.val] := if_pos h
  rw [encode, List.flatMap_cons, hone, List.singleton_append]
  rfl

theorem encode_ascii {t : Text} (h : t.IsAscii) : encode t = t.map fun c => UInt8.ofNat c.val := by
  induction t with
  | nil => rfl
  | cons c t ih => rw [encode_cons (h c List.mem_cons_self), ih h.tail, List.map_cons]

theorem length_encode_ascii {t : Text} (h : t.IsAscii) : (encode t).length = t.length := by
  rw [encode_ascii h, List.length_map]

theorem head_ascii {c : CodePoint} (h : c.val < 0x80) (rest : Bytes) :
    head (UInt8.ofNat c.val) rest = .scalar c 1 := by
  have hval : (UInt8.ofNat c.val).toNat = c.val := by
    rw [UInt8.toNat_ofNat']
    omega
  have hpoint : codePoint c.val = c := Fin.ext (Nat.mod_eq_of_lt c.isLt)
  unfold head
  simp only [hval, if_pos h, hpoint]

theorem decodeFrom_encode {t : Text} (h : t.IsAscii) (start : Nat) : decodeFrom 0 start (encode t) = .ok t := by
  induction t generalizing start with
  | nil => rfl
  | cons c t ih =>
    have hc := h c List.mem_cons_self
    rw [encode_cons hc, decodeFrom, head_ascii hc]
    exact congrArg (Except.map (c :: ·)) (ih h.tail (start + 1))

theorem decode_encode {t : Text} (h : t.IsAscii) : decode (encode t) = .ok t := decodeFrom_encode h 0

theorem decodeLenient_encode {t : Text} (h : t.IsAscii) : decodeLenient (encode t) = t := by
  induction t with
  | nil => rfl
  | cons c t ih =>
    have hc := h c List.mem_cons_self
    rw [encode_cons hc, decodeLenient, decodeLenientFrom, head_ascii hc]
    exact congrArg _ (ih h.tail)

end Utf8

end ClusterHarness
