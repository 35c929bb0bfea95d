import ClusterHarness.Proofs.Json.Fields
import ClusterHarness.Proofs.Json.Portable
import ClusterHarness.Proofs.Results
import ClusterHarness.Proofs.Text.Digits
import ClusterHarness.Proofs.Text.Scalars
import Mathlib.Data.List.TakeWhile

/-!
Whatever is read from a text without surrogates can be written and read again.
-/

namespace ClusterHarness

theorem CodePoint.hexValue?_lt {c : CodePoint} {n : Nat} (h : c.hexValue? = some n) : n < 16 := by
  unfold hexValue? at h
  split at h
  · rw [← Option.some.inj h]
    omega
  split at h
  · rw [← Option.some.inj h]
    omega
  split at h
  · rw [← Option.some.inj h]
    omega
  · cases h

theorem Text.hexValue?_four_lt {a b c d : CodePoint} {n : Nat}
    (h : Text.hexValue? [a, b, c, d] = some n) : n < 0x10000 := by
  simp only [Text.hexValue?, List.foldlM_cons, List.foldlM_nil, Option.bind_eq_bind, Option.bind_eq_some_iff,
    Option.map_eq_some_iff, Option.pure_def, Option.some.injEq] at h
  obtain ⟨_, ⟨w, hw, rfl⟩, _, ⟨x, hx, rfl⟩, _, ⟨y, hy, rfl⟩, _, ⟨z, hz, rfl⟩, rfl⟩ := h
  have hw := CodePoint.hexValue?_lt hw
  have hx := CodePoint.hexValue?_lt hx
  have hy := CodePoint.hexValue?_lt hy
  have hz := CodePoint.hexValue?_lt hz
  omega

namespace Json

/-! ### Strings -/

/-- A unit as it comes from a text without surrogates. -/
def StringUnit.Sound (u : StringUnit) : Prop :=
  if u.escaped then u.point.val < 0x10000 else u.point.isSurrogate = false

theorem StringUnit.sound_plain {c : CodePoint} (h : c.isSurrogate = false) : Sound ⟨c, false⟩ :=
  (if_neg Bool.false_ne_true).mpr h

theorem StringUnit.sound_escaped {c : CodePoint} (h : c.val < 0x10000) : Sound ⟨c, true⟩ :=
  (if_pos rfl).mpr h

theorem shortEscape?_scalar {e p : CodePoint} (h : shortEscape? e = some p) : p.isSurrogate = false := by
  unfold shortEscape? at h
  split at h
  · next he =>
    rw [← Option.some.inj h]
    rcases he with rfl | rfl | rfl <;> rfl
  · split_ifs at h <;> rw [← Option.some.inj h] <;> rfl

theorem units_cons {u : StringUnit} {x : Except Fault (List StringUnit × Text)} {us : List StringUnit}
    {r : Text} (hu : u.Sound) (hx : ∀ {r us}, x = .ok (us, r) → (∀ v ∈ us, v.Sound) ∧ r.Scalars)
    (h : x.map (fun (us, r) => (u :: us, r)) = .ok (us, r)) : (∀ v ∈ us, v.Sound) ∧ r.Scalars := by
  obtain ⟨⟨vs, r'⟩, hok, heq⟩ := map_eq_ok.mp h
  obtain ⟨rfl, rfl⟩ := Prod.mk.inj heq
  obtain ⟨hvs, hr⟩ := hx hok
  exact ⟨List.forall_mem_cons.mpr ⟨hu, hvs⟩, hr⟩

theorem stringUnits_sound {start s r : Text} {us : List StringUnit} (hs : s.Scalars)
    (h : stringUnits start s = .ok (us, r)) : (∀ u ∈ us, u.Sound) ∧ r.Scalars := by
  fun_induction stringUnits start s generalizing us r with
  | case1 | case3 | case4 | case6 | case7 | case9 | case10 => cases h
  | case2 =>
    cases h
    exact ⟨nofun, hs.tail⟩
  | case5 _ _ _ _ _ n hn _ _ ih =>
    have hlt := Text.hexValue?_four_lt hn
    have hsound : StringUnit.Sound ⟨Fin.ofNat _ n, true⟩ :=
      StringUnit.sound_escaped (Nat.lt_of_le_of_lt (Nat.mod_le n 0x110000) hlt)
    exact units_cons hsound (ih hs.tail.tail.tail.tail.tail.tail) h
  | case8 _ _ _ p hp _ ih => exact units_cons (StringUnit.sound_plain (shortEscape?_scalar hp)) (ih hs.tail.tail) h
  | case11 c s _ _ _ ih => exact units_cons (StringUnit.sound_plain (hs c List.mem_cons_self)) (ih hs.tail) h

theorem joinSurrogates_val {high low : CodePoint} (hhigh : isHighSurrogate high) (hlow : isLowSurrogate low) :
    0x10000 ≤ (joinSurrogates high low).val := by
  simp only [isHighSurrogate, isLowSurrogate, Bool.and_eq_true, decide_eq_true_eq] at hhigh hlow
  have hval : (joinSurrogates high low).val =
      (0x10000 + (high.val - 0xD800) * 0x400 + (low.val - 0xDC00)) % 0x110000 := rfl
  omega

theorem isLowSurrogate_bounds {c : CodePoint} : isLowSurrogate c ↔ 0xDC00 ≤ c.val ∧ c.val ≤ 0xDFFF := by
  simp [isLowSurrogate]

theorem isHighSurrogate_bounds {c : CodePoint} : isHighSurrogate c ↔ 0xD800 ≤ c.val ∧ c.val ≤ 0xDBFF := by
  simp [isHighSurrogate]

theorem StringUnit.Sound.escaped_of_surrogate {u : StringUnit} (hu : u.Sound)
    (h : u.point.isSurrogate = true) : u.escaped = true := by
  cases hescaped : u.escaped with
  | true => rfl
  | false =>
    rw [Sound, hescaped, if_neg Bool.false_ne_true] at hu
    rw [h] at hu
    cases hu

theorem joinUnits_head {u : StringUnit} {us : List StringUnit} {c : CodePoint}
    (hc : (joinUnits (u :: us)).head? = some c) (hlow : isLowSurrogate c) : u.point = c := by
  cases us with
  | nil => exact Option.some.inj hc
  | cons v us =>
    rw [joinUnits] at hc
    split at hc
    · next hpair =>
      have hjoined : joinSurrogates u.point v.point = c := Option.some.inj hc
      have hlarge := joinSurrogates_val hpair.2.2.1 hpair.2.2.2
      have hbounds := isLowSurrogate_bounds.mp hlow
      rw [hjoined] at hlarge
      omega
    · exact Option.some.inj hc

theorem isPaired_cons {c : CodePoint} {t : Text} (ht : isPaired t)
    (h : ∀ d, t.head? = some d → isHighSurrogate c → ¬isLowSurrogate d) : isPaired (c :: t) := by
  cases t with
  | nil => rfl
  | cons d t =>
    rw [isPaired, ht, Bool.and_true, Bool.not_eq_true', Bool.and_eq_false_imp]
    intro hc
    exact Bool.eq_false_of_not_eq_true (h d rfl hc)

theorem joinUnits_paired {us : List StringUnit} (hus : ∀ u ∈ us, u.Sound) : isPaired (joinUnits us) := by
  fun_induction joinUnits us with
  | case1 => rfl
  | case2 u => rfl
  | case3 u v us hpair ih =>
    have hlarge := joinSurrogates_val hpair.2.2.1 hpair.2.2.2
    refine isPaired_cons (ih fun w hw => hus w (List.mem_cons_of_mem _ (List.mem_cons_of_mem _ hw))) ?_
    intro d _ hhigh
    have hbounds := isHighSurrogate_bounds.mp hhigh
    omega
  | case4 u v us hpair ih =>
    refine isPaired_cons (ih fun w hw => hus w (List.mem_cons_of_mem _ hw)) ?_
    intro d hd hhigh hlow
    have hv := joinUnits_head hd hlow
    have hhighs := isHighSurrogate_bounds.mp hhigh
    have hlows := isLowSurrogate_bounds.mp hlow
    have hu : u.escaped = true := by
      refine (hus u List.mem_cons_self).escaped_of_surrogate ?_
      simp only [CodePoint.isSurrogate, Bool.and_eq_true, decide_eq_true_eq]
      omega
    have hv' : v.escaped = true := by
      refine (hus v (List.mem_cons_of_mem _ List.mem_cons_self)).escaped_of_surrogate ?_
      rw [hv]
      simp only [CodePoint.isSurrogate, Bool.and_eq_true, decide_eq_true_eq]
      omega
    exact hpair ⟨hu, hv', hhigh, hv ▸ hlow⟩

theorem readString_admits {dialect : Dialect} {start s r t : Text} (hs : s.Scalars)
    (h : readString dialect start s = .ok (t, r)) : dialect.admits t ∧ r.Scalars := by
  obtain ⟨⟨units, rest⟩, hunits, hrest⟩ := bind_eq_ok.mp h
  obtain ⟨hsound, hscalars⟩ := stringUnits_sound hs hunits
  dsimp only at hrest
  cases hlone : !dialect.loneSurrogates && (joinUnits units).any CodePoint.isSurrogate with
  | true => simp [hlone, bind, Except.bind, throw, throwThe, MonadExceptOf.throw] at hrest
  | false =>
    rw [hlone] at hrest
    obtain ⟨rfl, rfl⟩ := Prod.mk.inj (Except.ok.inj hrest)
    refine ⟨?_, hscalars⟩
    rw [Dialect.admits, joinUnits_paired hsound]
    revert hlone
    cases dialect.loneSurrogates <;> cases (joinUnits units).any CodePoint.isSurrogate <;> simp

/-! ### Numbers and words -/

theorem wholeDigits?_spec {s ds r : Text} (h : wholeDigits? s = some (ds, r)) :
    s = ds ++ r ∧ ds ≠ [] ∧ ∀ c ∈ ds, CodePoint.isAsciiDigit c := by
  unfold wholeDigits? at h
  split at h
  · cases h
  next c t =>
  split at h
  · next hzero =>
    obtain ⟨rfl, rfl⟩ := Prod.mk.inj (Option.some.inj h)
    refine ⟨rfl, List.cons_ne_nil _ _, fun d hd => ?_⟩
    rw [List.mem_singleton.mp hd, CodePoint.isAsciiDigit, hzero]
    rfl
  split at h
  · next hdigit =>
    obtain ⟨rfl, rfl⟩ := Prod.mk.inj (Option.some.inj h)
    refine ⟨?_, List.cons_ne_nil _ _, List.forall_mem_cons.mpr ⟨hdigit, fun d => List.mem_takeWhile_imp⟩⟩
    rw [List.cons_append, List.takeWhile_append_dropWhile]
  · cases h

theorem fractionDigits_suffix (s : Text) : (fractionDigits s).2 <:+ s := by
  unfold fractionDigits
  split
  · exact List.suffix_rfl
  · dsimp only
    split
    · exact (List.dropWhile_suffix _).trans (List.suffix_cons _ _)
    · exact List.suffix_rfl

theorem signOf_suffix (s : Text) : (signOf s).2 <:+ s := by
  unfold signOf
  split
  · exact List.suffix_rfl
  split
  · exact List.suffix_cons _ _
  split
  · exact List.suffix_cons _ _
  · exact List.suffix_rfl

theorem exponentDigits_suffix (s : Text) : (exponentDigits s).2 <:+ s := by
  unfold exponentDigits
  split
  · exact List.suffix_rfl
  · dsimp only
    split
    · exact (List.dropWhile_suffix _).trans ((signOf_suffix _).trans (List.suffix_cons _ _))
    · exact List.suffix_rfl

theorem numeral?_parts {s r : Text} {n : Numeral} (h : numeral? s = some (n, r)) :
    ∃ t u, t <:+ s ∧ wholeDigits? t = some (n.whole, u) ∧ r = (exponentDigits (fractionDigits u).2).2 := by
  unfold numeral? at h
  cases s with
  | nil => cases h
  | cons c t =>
    dsimp only at h
    split at h
    · obtain ⟨⟨whole, u⟩, hwhole, hrest⟩ := Option.bind_eq_some_iff.mp h
      obtain ⟨rfl, rfl⟩ := Prod.mk.inj (Option.some.inj hrest)
      exact ⟨t, u, List.suffix_cons c t, hwhole, rfl⟩
    · obtain ⟨⟨whole, u⟩, hwhole, hrest⟩ := Option.bind_eq_some_iff.mp h
      obtain ⟨rfl, rfl⟩ := Prod.mk.inj (Option.some.inj hrest)
      exact ⟨c :: t, u, List.suffix_rfl, hwhole, rfl⟩

theorem numeral?_spec {s r : Text} {n : Numeral} (h : numeral? s = some (n, r)) :
    (n.whole ≠ [] ∧ ∀ c ∈ n.whole, CodePoint.isAsciiDigit c) ∧ n.whole <:+: s ∧ r <:+ s := by
  obtain ⟨t, u, hsuffix, hwhole, rfl⟩ := numeral?_parts h
  obtain ⟨rfl, hdigits⟩ := wholeDigits?_spec hwhole
  have hrest : (exponentDigits (fractionDigits u).2).2 <:+ u :=
    (exponentDigits_suffix _).trans (fractionDigits_suffix u)
  exact ⟨hdigits, (List.prefix_append _ _).isInfix.trans hsuffix.isInfix,
    (hrest.trans (List.suffix_append _ _)).trans hsuffix⟩

variable {dialect : Dialect}

theorem Numeral.value_within {n : Numeral} {v : Json} (depth : Nat)
    (hn : n.whole ≠ [] ∧ ∀ c ∈ n.whole, CodePoint.isAsciiDigit c) (h : n.value = .ok v) :
    Within dialect depth v := by
  unfold value at h
  split at h
  · split at h
    · cases h
    next hcount =>
    have hlength : (Text.ofNat (digitsValue n.whole)).length ≤ maxDigits :=
      (Text.length_ofNat_le (List.length_pos_iff.mpr hn.1) (Text.digitsValue_lt hn.2)).trans (Nat.le_of_not_lt hcount)
    rw [← Except.ok.inj h]
    refine ⟨decide_eq_true ?_, Nat.zero_le _⟩
    cases n.negative
    · exact hlength
    · simpa using hlength
  · rw [← Except.ok.inj h]
    exact ⟨rfl, Nat.zero_le _⟩

theorem word?_within {s r : Text} {v : Json} (depth : Nat) (hs : s.Scalars) (h : word? s = some (v, r)) :
    Within dialect depth v ∧ r.Scalars := by
  obtain ⟨⟨w, u⟩, hmem, hafter⟩ := List.exists_of_findSome?_eq_some h
  obtain ⟨rest, hrest, heq⟩ := Option.map_eq_some_iff.mp hafter
  obtain ⟨rfl, rfl⟩ := Prod.mk.inj heq
  have hwords : ∀ p ∈ words, isPortable dialect p.2 ∧ nesting p.2 ≤ depth := by
    simp [words, isPortable, nesting]
  refine ⟨⟨(hwords _ hmem).1, (hwords _ hmem).2⟩, ?_⟩
  unfold Text.after? at hrest
  split at hrest
  · rw [← Option.some.inj hrest]
    exact hs.of_subset (List.drop_subset _ _)
  · cases hrest

/-! ### Values -/

/-- From a text without surrogates, a reader yields such values, and such a text is left. -/
def Yields (item : Text → Except Fault (Json × Text)) (p : Json → Prop) : Prop :=
  ∀ {s r : Text} {v : Json}, s.Scalars → item s = .ok (v, r) → p v ∧ r.Scalars

theorem skipSpace_scalars {s : Text} (hs : s.Scalars) : (skipSpace s).Scalars :=
  hs.of_subset (List.dropWhile_suffix _).subset

theorem readScalar_yields (dialect : Dialect) (depth : Nat) : Yields readScalar (Within dialect depth) := by
  intro s r v hs h
  unfold readScalar at h
  split at h
  · next p hword =>
    rw [Except.ok.inj h] at hword
    exact word?_within depth hs hword
  split at h
  · next n rest hnumeral =>
    obtain ⟨u, hvalue, hu⟩ := map_eq_ok.mp h
    obtain ⟨rfl, rfl⟩ := Prod.mk.inj hu
    obtain ⟨hdigits, -, hrest⟩ := numeral?_spec hnumeral
    exact ⟨Numeral.value_within depth hdigits hvalue, hs.of_subset hrest.subset⟩
  · cases h

section Containers

variable {item : Text → Except Fault (Json × Text)} {p : Json → Prop}

theorem readItems_yields (hitem : Yields item p) {budget : Nat} {s r : Text} {vs : List Json}
    (hs : s.Scalars) (h : readItems item budget s = .ok (vs, r)) : (∀ v ∈ vs, p v) ∧ r.Scalars := by
  induction budget generalizing s vs with
  | zero => cases h
  | succ budget ih =>
    rw [readItems] at h
    obtain ⟨⟨v, t⟩, hv, h⟩ := bind_eq_ok.mp h
    obtain ⟨hp, ht⟩ := hitem hs hv
    have hspace := skipSpace_scalars ht
    dsimp only at h
    split at h
    · cases h
    next c u hu =>
    rw [hu] at hspace
    split at h
    · obtain ⟨rfl, rfl⟩ := Prod.mk.inj (Except.ok.inj h)
      exact ⟨List.forall_mem_singleton.mpr hp, hspace.tail⟩
    split at h
    · obtain ⟨⟨ws, w⟩, hws, hrest⟩ := bind_eq_ok.mp h
      obtain ⟨rfl, rfl⟩ := Prod.mk.inj (Except.ok.inj hrest)
      obtain ⟨hall, hw⟩ := ih (skipSpace_scalars hspace.tail) hws
      exact ⟨List.forall_mem_cons.mpr ⟨hp, hall⟩, hw⟩
    · cases h

theorem readMember_yields (hitem : Yields item p) {s r : Text} {m : Text × Json} (hs : s.Scalars)
    (h : readMember dialect item s = .ok (m, r)) : (dialect.admits m.1 ∧ p m.2) ∧ r.Scalars := by
  unfold readMember at h
  split at h
  · cases h
  split at h
  · obtain ⟨⟨key, t⟩, hkey, h⟩ := bind_eq_ok.mp h
    obtain ⟨hadmits, ht⟩ := readString_admits hs.tail hkey
    have hspace := skipSpace_scalars ht
    dsimp only at h
    split at h
    · cases h
    next c u hu =>
    rw [hu] at hspace
    split at h
    · obtain ⟨⟨v, w⟩, hv, hrest⟩ := bind_eq_ok.mp h
      obtain ⟨rfl, rfl⟩ := Prod.mk.inj (Except.ok.inj hrest)
      obtain ⟨hp, hw⟩ := hitem (skipSpace_scalars hspace.tail) hv
      exact ⟨⟨hadmits, hp⟩, hw⟩
    · cases h
  · cases h

theorem readMembers_yields (hitem : Yields item p) {budget : Nat} {s r : Text} {ms : List (Text × Json)}
    (hs : s.Scalars) (h : readMembers dialect item budget s = .ok (ms, r)) :
    (∀ m ∈ ms, dialect.admits m.1 ∧ p m.2) ∧ r.Scalars := by
  induction budget generalizing s ms with
  | zero => cases h
  | succ budget ih =>
    rw [readMembers] at h
    obtain ⟨⟨m, t⟩, hm, h⟩ := bind_eq_ok.mp h
    obtain ⟨hp, ht⟩ := readMember_yields hitem hs hm
    have hspace := skipSpace_scalars ht
    dsimp only at h
    split at h
    · cases h
    next c u hu =>
    rw [hu] at hspace
    split at h
    · obtain ⟨rfl, rfl⟩ := Prod.mk.inj (Except.ok.inj h)
      exact ⟨List.forall_mem_singleton.mpr hp, hspace.tail⟩
    split at h
    · obtain ⟨⟨ws, w⟩, hws, hrest⟩ := bind_eq_ok.mp h
      obtain ⟨rfl, rfl⟩ := Prod.mk.inj (Except.ok.inj hrest)
      obtain ⟨hall, hw⟩ := ih (skipSpace_scalars hspace.tail) hws
      exact ⟨List.forall_mem_cons.mpr ⟨hp, hall⟩, hw⟩
    · cases h

theorem arr_within {depth : Nat} {items : List Json} (h : ∀ v ∈ items, Within dialect depth v) :
    Within dialect (depth + 1) (.arr items) :=
  ⟨isPortableItems_iff.mpr fun v hv => (h v hv).portable,
    nestingItems_le.mpr fun v hv => Nat.lt_succ_of_le (h v hv).shallow⟩

theorem obj_within {depth : Nat} {members : List (Text × Json)}
    (h : ∀ m ∈ members, dialect.admits m.1 ∧ Within dialect depth m.2) :
    Within dialect (depth + 1) (.obj (dialect.members members)) := by
  obtain ⟨hnodup, hmem⟩ := Fields.ofList_spec members
  unfold Dialect.members
  cases hrepeats : dialect.repeats with
  | true =>
    refine ⟨isPortable_obj.mpr ⟨.inl hrepeats, fun f hf => ?_⟩, nestingFields_le.mpr fun f hf => ?_⟩
    · exact ⟨(h f hf).1, (h f hf).2.portable⟩
    · exact Nat.lt_succ_of_le (h f hf).2.shallow
  | false =>
    refine ⟨isPortable_obj.mpr ⟨.inr hnodup, fun f hf => ?_⟩, nestingFields_le.mpr fun f hf => ?_⟩
    · exact ⟨(h f (hmem f hf)).1, (h f (hmem f hf)).2.portable⟩
    · exact Nat.lt_succ_of_le (h f (hmem f hf)).2.shallow

end Containers

theorem readValue_step {budget depth : Nat}
    (below : ∀ d, depth = d + 1 → Yields (readValue dialect budget d) (Within dialect d)) :
    Yields (readValue dialect budget depth) (Within dialect depth) := by
  intro s r v hs h
  rw [readValue.eq_def] at h
  cases s with
  | nil => cases h
  | cons c s =>
    dsimp only at h
    split at h
    · obtain ⟨⟨t, u⟩, ht, heq⟩ := map_eq_ok.mp h
      obtain ⟨rfl, rfl⟩ := Prod.mk.inj heq
      obtain ⟨hadmits, hu⟩ := readString_admits hs.tail ht
      exact ⟨⟨hadmits, Nat.zero_le _⟩, hu⟩
    have hspace := skipSpace_scalars hs.tail
    split at h
    · split at h
      · cases h
      next d t hd =>
      rw [hd] at hspace
      split at h
      · obtain ⟨rfl, rfl⟩ := Prod.mk.inj (Except.ok.inj h)
        exact ⟨⟨rfl, Nat.zero_le _⟩, hspace.tail⟩
      split at h
      · cases h
      next depth =>
      obtain ⟨⟨vs, u⟩, hvs, heq⟩ := map_eq_ok.mp h
      obtain ⟨rfl, rfl⟩ := Prod.mk.inj heq
      obtain ⟨hall, hu⟩ := readItems_yields (below depth rfl) hspace hvs
      exact ⟨arr_within hall, hu⟩
    split at h
    · split at h
      · cases h
      next d t hd =>
      rw [hd] at hspace
      split at h
      · obtain ⟨rfl, rfl⟩ := Prod.mk.inj (Except.ok.inj h)
        refine ⟨⟨isPortable_obj.mpr ⟨.inr List.nodup_nil, nofun⟩, Nat.zero_le _⟩, hspace.tail⟩
      split at h
      · cases h
      next depth =>
      obtain ⟨⟨ms, u⟩, hms, heq⟩ := map_eq_ok.mp h
      obtain ⟨rfl, rfl⟩ := Prod.mk.inj heq
      obtain ⟨hall, hu⟩ := readMembers_yields (below depth rfl) hspace hms
      exact ⟨obj_within hall, hu⟩
    · exact readScalar_yields dialect depth hs h

theorem readValue_yields (dialect : Dialect) (budget depth : Nat) :
    Yields (readValue dialect budget depth) (Within dialect depth) := by
  induction depth with
  | zero => exact readValue_step fun d hd => absurd hd (Nat.zero_ne_add_one d)
  | succ depth ih =>
    refine readValue_step fun d hd => ?_
    obtain rfl := Nat.succ.inj hd
    exact ih

/-- What is read from a text without surrogates is read again from what is written for it. -/
theorem read_within {s : Text} {v : Json} (hs : s.Scalars) (h : read dialect s = .ok v) :
    Within dialect dialect.maxDepth v := by
  have hwhole := mapError_eq_ok.mp h
  unfold readWhole at hwhole
  split at hwhole
  · cases hwhole
  obtain ⟨⟨w, rest⟩, hw, hrest⟩ := bind_eq_ok.mp hwhole
  dsimp only at hrest
  split at hrest
  · rw [← Except.ok.inj hrest]
    exact (readValue_yields _ _ _ (skipSpace_scalars hs) hw).1
  · cases hrest

end Json

end ClusterHarness
