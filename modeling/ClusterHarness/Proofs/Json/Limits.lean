import ClusterHarness.Proofs.Json.Reading
import ClusterHarness.Proofs.Json.RoundTrip

/-!
The limits of reading. A text is too deep only with more opening brackets than the dialect allows, and it
holds an integer that is too long only with more digits in a row than an integer may have.
-/

namespace ClusterHarness.Json

def isOpening (c : CodePoint) : Bool := c = CodePoint.ofChar '[' || c = CodePoint.ofChar '\x7b'

def openings (s : Text) : Nat := s.countP isOpening

def HasDigits (s : Text) (count : Nat) : Prop :=
  ∃ ds, ds <:+: s ∧ ds.length = count ∧ ∀ c ∈ ds, CodePoint.isAsciiDigit c

/-- The text is as deep, or its digits are as many, as the fault says. -/
def Fault.IsDue (depth : Nat) (s : Text) : Fault → Prop
  | .malformed _ _ => True
  | .tooManyDigits count => maxDigits < count ∧ HasDigits s count
  | .tooDeep => depth < openings s

theorem openings_le {r s : Text} (h : r <:+ s) : openings r ≤ openings s := h.sublist.countP_le

theorem Fault.IsDue.of_suffix {depth : Nat} {r s : Text} {f : Fault} (h : f.IsDue depth r) (hr : r <:+ s) :
    f.IsDue depth s := by
  cases f with
  | malformed problem rest => trivial
  | tooManyDigits count =>
    obtain ⟨hcount, ds, hds, hlength, hdigits⟩ := h
    exact ⟨hcount, ds, hds.trans hr.isInfix, hlength, hdigits⟩
  | tooDeep => exact Nat.lt_of_lt_of_le h (openings_le hr)

theorem Fault.IsDue.within {depth : Nat} {s : Text} {c : CodePoint} {f : Fault} (h : f.IsDue depth s)
    (hc : isOpening c = true) : f.IsDue (depth + 1) (c :: s) := by
  cases f with
  | tooDeep =>
    have hcount : openings (c :: s) = openings s + 1 := List.countP_cons_of_pos hc
    rw [IsDue, hcount]
    exact Nat.succ_lt_succ h
  | malformed problem rest => trivial
  | tooManyDigits count =>
    have hsame : IsDue (depth + 1) s (.tooManyDigits count) := h
    exact hsame.of_suffix (List.suffix_cons c s)

/-- An end of the text is left, or the fault is due. -/
def Keeps {α : Type} (depth : Nat) (s : Text) : Except Fault (α × Text) → Prop
  | .ok (_, r) => r <:+ s
  | .error f => f.IsDue depth s

namespace Keeps

variable {α β : Type} {depth : Nat} {r s : Text} {x : Except Fault (α × Text)}

theorem of_suffix (h : Keeps depth r x) (hr : r <:+ s) : Keeps depth s x := by
  cases x with
  | ok p => exact List.IsSuffix.trans h hr
  | error f => exact Fault.IsDue.of_suffix h hr

theorem within {c : CodePoint} (h : Keeps depth s x) (hc : isOpening c = true) :
    Keeps (depth + 1) (c :: s) x := by
  cases x with
  | ok p => exact List.IsSuffix.trans h (List.suffix_cons c s)
  | error f => exact Fault.IsDue.within h hc

theorem bind {f : α × Text → Except Fault (β × Text)} (hx : Keeps depth s x)
    (hf : ∀ a r, r <:+ s → Keeps depth s (f (a, r))) : Keeps depth s (x >>= f) := by
  cases x with
  | ok p => exact hf p.1 p.2 hx
  | error e => exact hx

theorem map {f : α × Text → β × Text} (hx : Keeps depth s x) (hf : ∀ a r, (f (a, r)).2 = r) :
    Keeps depth s (x.map f) := by
  cases x with
  | ok p =>
    have hr : (f p).2 <:+ s := (hf p.1 p.2).symm ▸ hx
    exact hr
  | error e => exact hx

end Keeps

variable {dialect : Dialect} {depth : Nat}

/-! ### Strings and numbers -/

theorem skipSpace_suffix (s : Text) : skipSpace s <:+ s := List.dropWhile_suffix _

theorem stringUnits_keeps (start s : Text) : Keeps depth s (stringUnits start s) := by
  fun_induction stringUnits start s with
  | case2 => exact List.suffix_cons _ _
  | case5 _ _ _ _ _ _ _ _ _ ih =>
    exact (ih.map fun _ _ => rfl).of_suffix (List.suffix_append [_, _, _, _, _, _] _)
  | case8 _ _ _ _ _ _ ih => exact (ih.map fun _ _ => rfl).of_suffix (List.suffix_append [_, _] _)
  | case11 _ _ _ _ _ ih => exact (ih.map fun _ _ => rfl).of_suffix (List.suffix_cons _ _)
  | _ => trivial

theorem readString_keeps (start s : Text) : Keeps depth s (readString dialect start s) := by
  refine (stringUnits_keeps start s).bind fun units rest hrest => ?_
  dsimp only
  split
  · trivial
  · exact hrest

theorem readScalar_keeps (s : Text) : Keeps depth s (readScalar s) := by
  unfold readScalar
  split
  · next p hword =>
    obtain ⟨⟨w, v⟩, -, hafter⟩ := List.exists_of_findSome?_eq_some hword
    obtain ⟨rest, hrest, rfl⟩ := Option.map_eq_some_iff.mp hafter
    unfold Text.after? at hrest
    split at hrest
    · rw [← Option.some.inj hrest]
      exact List.drop_suffix _ _
    · cases hrest
  split
  · next n rest hnumeral =>
    obtain ⟨⟨-, hdigits⟩, hwhole, hrest⟩ := numeral?_spec hnumeral
    unfold Numeral.value
    split
    · split
      · next hcount => exact ⟨hcount, n.whole, hwhole, rfl, hdigits⟩
      · exact hrest
    · exact hrest
  · trivial

/-! ### Values -/

section Containers

variable {item : Text → Except Fault (Json × Text)}

theorem readItems_keeps (hitem : ∀ s, Keeps depth s (item s)) (budget : Nat) (s : Text) :
    Keeps depth s (readItems item budget s) := by
  induction budget generalizing s with
  | zero => trivial
  | succ budget ih =>
    rw [readItems]
    refine (hitem s).bind fun v r hr => ?_
    have hspace := (skipSpace_suffix r).trans hr
    dsimp only
    split
    · trivial
    next c t ht =>
    rw [ht] at hspace
    have htail := (List.suffix_cons c t).trans hspace
    split
    · exact htail
    split
    · have hmore := (ih (skipSpace t)).of_suffix ((skipSpace_suffix t).trans htail)
      exact hmore.bind fun vs w hw => hw
    · trivial

theorem readMember_keeps (hitem : ∀ s, Keeps depth s (item s)) (s : Text) :
    Keeps depth s (readMember dialect item s) := by
  unfold readMember
  split
  · trivial
  next c s =>
  split
  · refine Keeps.bind ((readString_keeps _ s).of_suffix (List.suffix_cons c s)) fun key r hr => ?_
    have hspace := (skipSpace_suffix r).trans hr
    dsimp only
    split
    · trivial
    next d t ht =>
    rw [ht] at hspace
    have htail := (List.suffix_cons d t).trans hspace
    split
    · have hvalue := (hitem (skipSpace t)).of_suffix ((skipSpace_suffix t).trans htail)
      exact hvalue.bind fun v w hw => hw
    · trivial
  · trivial

theorem readMembers_keeps (hitem : ∀ s, Keeps depth s (item s)) (budget : Nat) (s : Text) :
    Keeps depth s (readMembers dialect item budget s) := by
  induction budget generalizing s with
  | zero => trivial
  | succ budget ih =>
    rw [readMembers]
    refine (readMember_keeps hitem s).bind fun m r hr => ?_
    have hspace := (skipSpace_suffix r).trans hr
    dsimp only
    split
    · trivial
    next c t ht =>
    rw [ht] at hspace
    have htail := (List.suffix_cons c t).trans hspace
    split
    · exact htail
    split
    · have hmore := (ih (skipSpace t)).of_suffix ((skipSpace_suffix t).trans htail)
      exact hmore.bind fun ms w hw => hw
    · trivial

end Containers

/-- Each level down is paid for by the bracket or the brace in front of it. -/
theorem readValue_step_keeps {budget depth : Nat}
    (below : ∀ d, depth = d + 1 → ∀ s, Keeps d s (readValue dialect budget d s)) (s : Text) :
    Keeps depth s (readValue dialect budget depth s) := by
  rw [readValue.eq_def]
  cases s with
  | nil => trivial
  | cons c s =>
    dsimp only
    split
    · exact ((readString_keeps _ s).map fun _ _ => rfl).of_suffix (List.suffix_cons c s)
    have hspace := skipSpace_suffix s
    split
    · next hbracket =>
      have hopening : isOpening c = true := by simp [isOpening, hbracket]
      split
      · trivial
      next d t ht =>
      rw [ht] at hspace
      split
      · exact ((List.suffix_cons d t).trans hspace).trans (List.suffix_cons c s)
      split
      · exact List.countP_pos_iff.mpr ⟨c, List.mem_cons_self, hopening⟩
      next depth =>
      have hitems := (readItems_keeps (below depth rfl) budget (d :: t)).of_suffix hspace
      exact (hitems.map fun _ _ => rfl).within hopening
    split
    · next hbrace =>
      have hopening : isOpening c = true := by simp [isOpening, hbrace]
      split
      · trivial
      next d t ht =>
      rw [ht] at hspace
      split
      · exact ((List.suffix_cons d t).trans hspace).trans (List.suffix_cons c s)
      split
      · exact List.countP_pos_iff.mpr ⟨c, List.mem_cons_self, hopening⟩
      next depth =>
      have hread : Keeps depth (d :: t) (readMembers dialect (readValue dialect budget depth) budget (d :: t)) :=
        readMembers_keeps (below depth rfl) budget (d :: t)
      have hmembers := hread.of_suffix hspace
      exact (hmembers.map fun _ _ => rfl).within hopening
    · exact readScalar_keeps (c :: s)

theorem readValue_keeps (dialect : Dialect) (budget depth : Nat) (s : Text) :
    Keeps depth s (readValue dialect budget depth s) := by
  induction depth generalizing s with
  | zero => exact readValue_step_keeps (fun d hd => absurd hd (Nat.zero_ne_add_one d)) s
  | succ depth ih =>
    refine readValue_step_keeps (fun d hd => ?_) s
    obtain rfl := Nat.succ.inj hd
    exact ih

/-! ### Whole texts -/

variable {s : Text}

theorem readWhole_isDue {f : Fault} (h : readWhole dialect s = .error f) : f.IsDue dialect.maxDepth s := by
  unfold readWhole at h
  split at h
  · cases h
    trivial
  have hvalue := (readValue_keeps dialect (s.length + 1) dialect.maxDepth _).of_suffix (skipSpace_suffix s)
  rcases bind_eq_error.mp h with he | ⟨⟨v, rest⟩, -, hrest⟩
  · rw [he] at hvalue
    exact hvalue
  · dsimp only at hrest
    split at hrest
    · cases hrest
    · cases hrest
      trivial

theorem openings_of_tooDeep (h : read dialect s = .error .tooDeep) : dialect.maxDepth < openings s := by
  obtain ⟨f, hf, hlocated⟩ := mapError_eq_error.mp h
  cases f <;> cases hlocated
  exact readWhole_isDue hf

theorem hasDigits_of_tooManyDigits {count : Nat} (h : read dialect s = .error (.tooManyDigits count)) :
    maxDigits < count ∧ HasDigits s count := by
  obtain ⟨f, hf, hlocated⟩ := mapError_eq_error.mp h
  cases f <;> cases hlocated
  exact readWhole_isDue hf

def OverLimits (dialect : Dialect) (s : Text) : Prop :=
  read dialect s = .error .tooDeep ∨ ∃ count, read dialect s = .error (.tooManyDigits count)

theorem OverLimits.excess (h : OverLimits dialect s) :
    dialect.maxDepth < openings s ∨ ∃ count, maxDigits < count ∧ HasDigits s count := by
  rcases h with h | ⟨count, h⟩
  · exact .inl (openings_of_tooDeep h)
  · exact .inr ⟨count, hasDigits_of_tooManyDigits h⟩

/-! ### Texts over the limits -/

theorem brackets_open {n : Nat} (h : n ≠ 0) : Opens (List.replicate n (CodePoint.ofChar '[')) := by
  obtain ⟨n, rfl⟩ := Nat.exists_eq_succ_of_ne_zero h
  exact opens_cons (by decide)

theorem readValue_nested {budget depth n : Nat} (h : depth + 2 ≤ n) :
    readValue dialect (budget + 1) depth (List.replicate n (CodePoint.ofChar '[')) = .error .tooDeep := by
  induction depth generalizing n with
  | zero =>
    obtain ⟨n, rfl⟩ := Nat.exists_eq_add_of_le' h
    have hskip := (brackets_open (Nat.succ_ne_zero n)).skipSpace
    rw [List.replicate_succ] at hskip
    rw [readValue.eq_def]
    simp only [List.replicate_succ, hskip]
    rfl
  | succ depth ih =>
    obtain ⟨n, rfl⟩ : ∃ m, n = m + 1 := ⟨n - 1, by omega⟩
    have hn : depth + 2 ≤ n := Nat.le_of_succ_le_succ h
    rw [List.replicate_succ, readValue_arr (brackets_open (by omega)), readItems, ih hn]
    rfl

theorem read_nested {n : Nat} (h : dialect.maxDepth + 2 ≤ n) :
    read dialect (List.replicate n (CodePoint.ofChar '[')) = .error .tooDeep := by
  have hmark : ¬(List.replicate n (CodePoint.ofChar '[')).head? = some byteOrderMark := by
    intro hhead
    have hmem := List.mem_of_mem_head? hhead
    exact absurd (List.eq_of_mem_replicate hmem) (by decide)
  rw [read, readWhole, if_neg hmark, (brackets_open (by omega)).skipSpace, readValue_nested h]
  rfl

theorem Numeral.read_of_error {n : Numeral} (hn : n.WellFormed) {f : Fault} (hf : n.value = .error f) :
    read dialect n.text = .error (f.locate n.text) := by
  have hmark : ¬n.text.head? = some byteOrderMark := by
    obtain ⟨c, s, hhead, hdigit⟩ := unsigned_head hn []
    rw [List.append_nil] at hhead
    unfold text
    split
    · exact fun h => absurd (Option.some.inj h) (by decide)
    · rw [hhead]
      rintro h
      cases h
      cases hdigit
  have hread := readValue_text dialect (n.text.length + 1) dialect.maxDepth hn stops_nil
  rw [List.append_nil, hf] at hread
  rw [read, readWhole, if_neg hmark, (text_opens hn).skipSpace, hread]
  rfl

def repunit (count : Nat) : Numeral := ⟨false, List.replicate count (CodePoint.ofChar '1'), none, none⟩

theorem read_repunit {count : Nat} (h : maxDigits < count) :
    read dialect (List.replicate count (CodePoint.ofChar '1')) = .error (.tooManyDigits count) := by
  have hone : CodePoint.isAsciiDigit (CodePoint.ofChar '1') := rfl
  have hformed : (repunit count).WellFormed := {
    whole := ⟨by simp [repunit]; omega, fun c hc => List.eq_of_mem_replicate hc ▸ hone⟩
    lead := .inr fun hhead => by
      have hmem := List.mem_of_mem_head? hhead
      exact absurd (List.eq_of_mem_replicate hmem) (by decide)
    fraction := nofun
    exponent := nofun }
  have hvalue : (repunit count).value = .error (.tooManyDigits count) := by
    have hlength : (repunit count).whole.length = count := List.length_replicate
    rw [Numeral.value, hlength, if_pos h]
    rfl
  have htext : (repunit count).text = List.replicate count (CodePoint.ofChar '1') := by
    simp [repunit, Numeral.text, Numeral.unsignedText, Numeral.fractionText, Numeral.exponentText]
  rw [← htext, Numeral.read_of_error hformed hvalue]
  rfl

end ClusterHarness.Json
