import ClusterHarness.Proofs.Json.Fields
import ClusterHarness.Proofs.Json.Writing

/-!
Writing a document and reading it gives the document, if its names, its texts, its integers and its
depth are such as can be read.
-/

namespace ClusterHarness.Json

/-- A reader reads what is written for a value, up to a text that stops a number. -/
def Reads (item : Text → Except Fault (Json × Text)) (v : Json) : Prop :=
  ∀ rest, Stops rest → item (render v ++ rest) = .ok (v, rest)

theorem stops_cons {c : CodePoint} {s : Text} (h : c.isAsciiDigit = false ∧ c ≠ CodePoint.ofChar '.' ∧
    c ≠ CodePoint.ofChar 'e' ∧ c ≠ CodePoint.ofChar 'E') : Stops (c :: s) := by
  intro d hd
  cases hd
  exact h

theorem stops_nil : Stops [] := nofun

section Steps

variable {dialect : Dialect} {item : Text → Except Fault (Json × Text)} {v : Json} {s rest : Text}
  {budget : Nat}

theorem separator_append (t : Text) :
    separator ++ t = CodePoint.ofChar ',' :: CodePoint.ofChar ' ' :: t := rfl

theorem skipSpace_cons {c : CodePoint} (h : isSpace c = false) : skipSpace (c :: s) = c :: s := by
  rw [skipSpace, List.dropWhile_cons, h, if_neg Bool.false_ne_true]

theorem skipSpace_space (h : Opens s) : skipSpace (CodePoint.ofChar ' ' :: s) = s := h.skipSpace

theorem readItems_last (h : item s = .ok (v, CodePoint.ofChar ']' :: rest)) :
    readItems item (budget + 1) s = .ok ([v], rest) := by
  have hskip : skipSpace (CodePoint.ofChar ']' :: rest) = CodePoint.ofChar ']' :: rest :=
    skipSpace_cons (by decide)
  simp only [readItems, h, bind, Except.bind, hskip, if_true]
  rfl

theorem readItems_next (h : item s = .ok (v, separator ++ rest)) (hrest : Opens rest) :
    readItems item (budget + 1) s = (readItems item budget rest).map fun p => (v :: p.1, p.2) := by
  have hskip : skipSpace (separator ++ rest) = separator ++ rest := skipSpace_cons (by decide)
  have hbracket : CodePoint.ofChar ',' ≠ CodePoint.ofChar ']' := by decide
  simp only [readItems, h, bind, Except.bind, hskip]
  simp only [separator_append, if_neg hbracket, if_true, skipSpace_space hrest]
  cases readItems item budget rest <;> rfl

theorem readMembers_last {m : Text × Json} (h : readMember dialect item s =
    .ok (m, CodePoint.ofChar '\x7d' :: rest)) :
    readMembers dialect item (budget + 1) s = .ok ([m], rest) := by
  have hskip : skipSpace (CodePoint.ofChar '\x7d' :: rest) = CodePoint.ofChar '\x7d' :: rest :=
    skipSpace_cons (by decide)
  simp only [readMembers, h, bind, Except.bind, hskip, if_true]
  rfl

theorem readMembers_next {m : Text × Json} (h : readMember dialect item s = .ok (m, separator ++ rest))
    (hrest : Opens rest) : readMembers dialect item (budget + 1) s =
      (readMembers dialect item budget rest).map fun p => (m :: p.1, p.2) := by
  have hskip : skipSpace (separator ++ rest) = separator ++ rest := skipSpace_cons (by decide)
  have hbrace : CodePoint.ofChar ',' ≠ CodePoint.ofChar '\x7d' := by decide
  simp only [readMembers, h, bind, Except.bind, hskip]
  simp only [separator_append, if_neg hbrace, if_true, skipSpace_space hrest]
  cases readMembers dialect item budget rest <;> rfl

theorem readMember_render {k : Text} (hk : dialect.admits k) (hv : Reads item v) (hrest : Stops rest) :
    readMember dialect item (renderField (k, v) ++ rest) = .ok ((k, v), rest) := by
  have htext : renderField (k, v) ++ rest = .doubleQuote :: (k.flatMap escape ++
      .doubleQuote :: (CodePoint.ofChar ':' :: CodePoint.ofChar ' ' :: (render v ++ rest))) := by
    rw [renderField, List.append_assoc, renderString_append]
    rfl
  have hskip : skipSpace (CodePoint.ofChar ':' :: CodePoint.ofChar ' ' :: (render v ++ rest)) =
      CodePoint.ofChar ':' :: CodePoint.ofChar ' ' :: (render v ++ rest) := skipSpace_cons (by decide)
  rw [htext]
  simp only [readMember, if_true, readString_text hk, bind, Except.bind, hskip,
    skipSpace_space ((render_opens v).append rest), hv rest hrest]
  rfl

theorem readValue_arr {depth : Nat} (h : Opens s) :
    readValue dialect budget (depth + 1) (CodePoint.ofChar '[' :: s) =
      (readItems (readValue dialect budget depth) budget s).map fun p => (.arr p.1, p.2) := by
  obtain ⟨c, s, rfl⟩ := List.exists_cons_of_ne_nil h.nonempty
  have hquote : CodePoint.ofChar '[' ≠ .doubleQuote := by decide
  have hbracket : c ≠ CodePoint.ofChar ']' := fun hc => h.bracket (congrArg some hc)
  rw [readValue]
  simp only [if_neg hquote, if_true, h.skipSpace, if_neg hbracket]

theorem readValue_obj {depth : Nat} (h : Opens s) :
    readValue dialect budget (depth + 1) (CodePoint.ofChar '\x7b' :: s) =
      (readMembers dialect (readValue dialect budget depth) budget s).map
        fun p => (.obj (dialect.members p.1), p.2) := by
  obtain ⟨c, s, rfl⟩ := List.exists_cons_of_ne_nil h.nonempty
  have hquote : CodePoint.ofChar '\x7b' ≠ .doubleQuote := by decide
  have hbracket : CodePoint.ofChar '\x7b' ≠ CodePoint.ofChar '[' := by decide
  have hbrace : c ≠ CodePoint.ofChar '\x7d' := fun hc => h.brace (congrArg some hc)
  rw [readValue]
  simp only [if_neg hquote, if_neg hbracket, if_true, h.skipSpace, if_neg hbrace]

theorem readValue_scalar {depth : Nat} {c : CodePoint} (hquote : c ≠ .doubleQuote)
    (hbracket : c ≠ CodePoint.ofChar '[') (hbrace : c ≠ CodePoint.ofChar '\x7b') :
    readValue dialect budget depth (c :: s) = readScalar (c :: s) := by
  rw [readValue.eq_def]
  simp only [if_neg hquote, if_neg hbracket, if_neg hbrace]

end Steps

theorem readItems_render {item : Text → Except Fault (Json × Text)} {v : Json} {items : List Json}
    {budget : Nat} (hv : Reads item v) (hitems : ∀ w ∈ items, Reads item w)
    (hbudget : items.length < budget) (rest : Text) :
    readItems item budget (render v ++ ((items.flatMap fun w => separator ++ render w) ++
      CodePoint.ofChar ']' :: rest)) = .ok (v :: items, rest) := by
  obtain ⟨budget, rfl⟩ := Nat.exists_eq_succ_of_ne_zero (Nat.ne_of_gt (Nat.zero_lt_of_lt hbudget))
  induction items generalizing v budget with
  | nil =>
    rw [List.flatMap_nil, List.nil_append]
    exact readItems_last (hv _ (stops_cons (by decide)))
  | cons w items ih =>
    obtain ⟨budget, rfl⟩ := Nat.exists_eq_succ_of_ne_zero
      (Nat.ne_of_gt (Nat.zero_lt_of_lt (Nat.lt_of_succ_lt_succ hbudget)))
    have hw : Reads item w := hitems w List.mem_cons_self
    have hrest := ih hw (fun u hu => hitems u (List.mem_cons_of_mem _ hu)) budget
      (Nat.lt_of_succ_lt_succ hbudget)
    rw [List.flatMap_cons, List.append_assoc, List.append_assoc,
      readItems_next (hv _ (stops_cons (by decide))) ((render_opens w).append _), hrest]
    rfl

theorem renderField_opens (f : Text × Json) : Opens (renderField f) := opens_cons (by decide)

theorem readMembers_render {dialect : Dialect} {item : Text → Except Fault (Json × Text)}
    {f : Text × Json} {fields : List (Text × Json)} {budget : Nat}
    (hf : dialect.admits f.1 ∧ Reads item f.2)
    (hfields : ∀ g ∈ fields, dialect.admits g.1 ∧ Reads item g.2) (hbudget : fields.length < budget)
    (rest : Text) :
    readMembers dialect item budget (renderField f ++ ((fields.flatMap fun g => separator ++ renderField g) ++
      CodePoint.ofChar '\x7d' :: rest)) = .ok (f :: fields, rest) := by
  obtain ⟨budget, rfl⟩ := Nat.exists_eq_succ_of_ne_zero (Nat.ne_of_gt (Nat.zero_lt_of_lt hbudget))
  induction fields generalizing f budget with
  | nil =>
    rw [List.flatMap_nil, List.nil_append]
    exact readMembers_last (readMember_render hf.1 hf.2 (stops_cons (by decide)))
  | cons g fields ih =>
    obtain ⟨budget, rfl⟩ := Nat.exists_eq_succ_of_ne_zero
      (Nat.ne_of_gt (Nat.zero_lt_of_lt (Nat.lt_of_succ_lt_succ hbudget)))
    have hg := hfields g List.mem_cons_self
    have hrest := ih hg (fun h hh => hfields h (List.mem_cons_of_mem _ hh)) budget
      (Nat.lt_of_succ_lt_succ hbudget)
    rw [List.flatMap_cons, List.append_assoc, List.append_assoc,
      readMembers_next (readMember_render hf.1 hf.2 (stops_cons (by decide)))
        ((renderField_opens g).append _), hrest]
    rfl

section Scalars

variable (dialect : Dialect) (budget depth : Nat)

theorem Numeral.readValue_text {n : Numeral} (hn : n.WellFormed) {rest : Text} (hrest : Stops rest) :
    readValue dialect budget depth (n.text ++ rest) = n.value.map (·, rest) := by
  have hread := readScalar_text hn hrest
  obtain ⟨c, s, hhead, hdigit⟩ := unsigned_head hn rest
  cases hnegative : n.negative with
  | true =>
    have htext : n.text ++ rest = CodePoint.ofChar '-' :: c :: s := by
      rw [text, if_pos hnegative, List.cons_append, hhead]
    rw [htext] at hread ⊢
    rw [readValue_scalar (by decide) (by decide) (by decide), hread]
  | false =>
    have htext : n.text ++ rest = c :: s := by
      rw [text, if_neg (by rw [hnegative]; exact Bool.false_ne_true), hhead]
    rw [htext] at hread ⊢
    rw [readValue_scalar ?_ ?_ ?_, hread] <;>
    · rintro rfl
      cases hdigit

theorem word_reads {w : Text} {v : Json} {c : CodePoint} {t : Text} (hw : w = c :: t)
    (hword : ∀ rest, word? (w ++ rest) = some (v, rest)) (hquote : c ≠ .doubleQuote)
    (hbracket : c ≠ CodePoint.ofChar '[') (hbrace : c ≠ CodePoint.ofChar '\x7b') (rest : Text) :
    readValue dialect budget depth (w ++ rest) = .ok (v, rest) := by
  have hread := hword rest
  rw [hw, List.cons_append] at hread ⊢
  rw [readValue_scalar hquote hbracket hbrace, readScalar, hread]

theorem null_reads : Reads (readValue dialect budget depth) .null := fun rest _ =>
  word_reads dialect budget depth (w := render .null) rfl (fun _ => rfl) (by decide) (by decide)
    (by decide) rest

theorem bool_reads (b : Bool) : Reads (readValue dialect budget depth) (.bool b) := by
  intro rest _
  cases b with
  | true =>
    exact word_reads dialect budget depth (w := render (.bool true)) rfl (fun _ => rfl) (by decide)
      (by decide) (by decide) rest
  | false =>
    exact word_reads dialect budget depth (w := render (.bool false)) rfl (fun _ => rfl) (by decide)
      (by decide) (by decide) rest

theorem int_reads {n : ℤ} (h : (Text.ofNat n.natAbs).length ≤ maxDigits) :
    Reads (readValue dialect budget depth) (.int n) := by
  intro rest hrest
  rw [render, ← Numeral.ofInt_text, Numeral.readValue_text dialect budget depth
    (Numeral.ofInt_wellFormed n) hrest, Numeral.ofInt_value h]
  rfl

theorem float_reads (x : Binary64) : Reads (readValue dialect budget depth) (.float x) := by
  intro rest hrest
  cases x with
  | finite negative biased fraction =>
    obtain ⟨n, hformed, htext, hvalue⟩ := Numeral.ofFloat (x := .finite negative biased fraction) rfl
    rw [render, ← htext, Numeral.readValue_text dialect budget depth hformed hrest, hvalue]
    rfl
  | infinite negative =>
    cases negative with
    | true =>
      exact word_reads dialect budget depth (w := render (.float (.infinite true))) rfl (fun _ => rfl)
        (by decide) (by decide) (by decide) rest
    | false =>
      exact word_reads dialect budget depth (w := render (.float (.infinite false))) rfl (fun _ => rfl)
        (by decide) (by decide) (by decide) rest
  | nan =>
    exact word_reads dialect budget depth (w := render (.float .nan)) rfl (fun _ => rfl) (by decide)
      (by decide) (by decide) rest

theorem str_reads {dialect : Dialect} {t : Text} (h : dialect.admits t) :
    Reads (readValue dialect budget depth) (.str t) := by
  intro rest _
  rw [render, renderString_append, readValue.eq_def]
  simp only [if_true, readString_text h]
  rfl

end Scalars

theorem length_flatMap_le {α β : Type} {f : α → List β} (hf : ∀ a, f a ≠ []) (l : List α) :
    l.length ≤ (l.flatMap f).length := by
  induction l with
  | nil => exact Nat.zero_le _
  | cons a l ih =>
    have hpos := List.length_pos_iff.mpr (hf a)
    rw [List.flatMap_cons, List.length_append, List.length_cons]
    omega

theorem length_le_flatMap {α β : Type} (f : α → List β) {a : α} {l : List α} (h : a ∈ l) :
    (f a).length ≤ (l.flatMap f).length := by
  obtain ⟨before, after, rfl⟩ := List.append_of_mem h
  rw [List.flatMap_append, List.flatMap_cons, List.length_append, List.length_append]
  omega

theorem render_arr (v : Json) (items : List Json) (rest : Text) :
    render (.arr (v :: items)) ++ rest = CodePoint.ofChar '[' ::
      (render v ++ ((items.flatMap fun w => separator ++ render w) ++ CodePoint.ofChar ']' :: rest)) := by
  simp [render, renderItems_cons]

theorem render_obj (f : Text × Json) (fields : List (Text × Json)) (rest : Text) :
    render (.obj (f :: fields)) ++ rest = CodePoint.ofChar '\x7b' ::
      (renderField f ++ ((fields.flatMap fun g => separator ++ renderField g) ++
        CodePoint.ofChar '\x7d' :: rest)) := by
  simp [render, renderFields_cons]

theorem length_render_arr (v : Json) (items : List Json) :
    items.length < (render (.arr (v :: items))).length ∧
      ∀ w ∈ v :: items, (render w).length ≤ (render (.arr (v :: items))).length := by
  have htext := congrArg List.length (render_arr v items [])
  simp only [List.append_nil, List.length_cons, List.length_append, List.length_nil] at htext
  have hcount := length_flatMap_le (f := fun w => separator ++ render w) (fun _ => List.cons_ne_nil _ _) items
  refine ⟨by omega, fun w hw => ?_⟩
  rcases List.mem_cons.mp hw with rfl | hw
  · omega
  · have hle := length_le_flatMap (fun u => separator ++ render u) hw
    rw [List.length_append] at hle
    omega

theorem length_render_obj (f : Text × Json) (fields : List (Text × Json)) :
    fields.length < (render (.obj (f :: fields))).length ∧
      ∀ g ∈ f :: fields, (render g.2).length ≤ (render (.obj (f :: fields))).length := by
  have htext := congrArg List.length (render_obj f fields [])
  simp only [List.append_nil, List.length_cons, List.length_append, List.length_nil] at htext
  have hcount := length_flatMap_le (f := fun g => separator ++ renderField g)
    (fun _ => List.cons_ne_nil _ _) fields
  have hfield : ∀ g : Text × Json, (render g.2).length ≤ (renderField g).length := by
    intro g
    rw [renderField, List.length_append, List.length_append]
    omega
  refine ⟨by omega, fun g hg => ?_⟩
  rcases List.mem_cons.mp hg with rfl | hg
  · have := hfield g
    omega
  · have hle := length_le_flatMap (fun h => separator ++ renderField h) hg
    rw [List.length_append] at hle
    have := hfield g
    omega

theorem length_render_item {items : List Json} {v : Json} (h : v ∈ items) :
    (render v).length ≤ (render (.arr items)).length := by
  cases items with
  | nil => cases h
  | cons w items => exact (length_render_arr w items).2 v h

theorem length_render_field {fields : List (Text × Json)} {f : Text × Json} (h : f ∈ fields) :
    (render f.2).length ≤ (render (.obj fields)).length := by
  cases fields with
  | nil => cases h
  | cons g fields => exact (length_render_obj g fields).2 f h

section Containers

variable {dialect : Dialect} {budget depth : Nat}

theorem arr_reads {items : List Json} (hbudget : (render (.arr items)).length ≤ budget)
    (hitems : ∀ v ∈ items, ∃ d, depth = d + 1 ∧ Reads (readValue dialect budget d) v) :
    Reads (readValue dialect budget depth) (.arr items) := by
  intro rest hrest
  rcases items with _ | ⟨w, items⟩
  · rw [readValue.eq_def]
    rfl
  · obtain ⟨d, rfl, hw⟩ := hitems w List.mem_cons_self
    have hreads : ∀ u ∈ items, Reads (readValue dialect budget d) u := by
      intro u hu
      obtain ⟨e, he, hreads⟩ := hitems u (List.mem_cons_of_mem _ hu)
      exact Nat.succ.inj he ▸ hreads
    rw [render_arr, readValue_arr ((render_opens w).append _),
      readItems_render hw hreads ((length_render_arr w items).1.trans_le hbudget)]
    rfl

theorem obj_reads {fields : List (Text × Json)} (hbudget : (render (.obj fields)).length ≤ budget)
    (hnames : dialect.repeats ∨ (fields.map Prod.fst).Nodup)
    (hfields : ∀ f ∈ fields, dialect.admits f.1 ∧
      ∃ d, depth = d + 1 ∧ Reads (readValue dialect budget d) f.2) :
    Reads (readValue dialect budget depth) (.obj fields) := by
  intro rest hrest
  rcases fields with _ | ⟨f, fields⟩
  · rw [readValue.eq_def]
    rfl
  · obtain ⟨hadmits, d, rfl, hf⟩ := hfields f List.mem_cons_self
    have hreads : ∀ g ∈ fields, dialect.admits g.1 ∧ Reads (readValue dialect budget d) g.2 := by
      intro g hg
      obtain ⟨hadmits, e, he, hreads⟩ := hfields g (List.mem_cons_of_mem _ hg)
      exact ⟨hadmits, Nat.succ.inj he ▸ hreads⟩
    have hmembers : dialect.members (f :: fields) = f :: fields := by
      unfold Dialect.members
      cases hrepeats : dialect.repeats with
      | true => rfl
      | false =>
        exact Fields.ofList_of_nodup (hnames.resolve_left (by rw [hrepeats]; exact Bool.false_ne_true))
    rw [render_obj, readValue_obj ((renderField_opens f).append _),
      readMembers_render ⟨hadmits, hf⟩ hreads ((length_render_obj f fields).1.trans_le hbudget)]
    simp only [Except.map, hmembers]

end Containers

theorem exists_depth {n depth : Nat} (h : n < depth) : ∃ d, depth = d + 1 ∧ n ≤ d :=
  ⟨depth - 1, by omega, by omega⟩

/-- A document is read from what is written for it. -/
theorem readValue_render {dialect : Dialect} {budget depth : Nat} {v : Json}
    (hv : isPortable dialect v) (hdepth : nesting v ≤ depth) (hbudget : (render v).length ≤ budget) :
    Reads (readValue dialect budget depth) v := by
  -- on the document, for every depth: the parts of a container are read one level below it
  induction v using nested_induction generalizing depth with
  | null => exact null_reads dialect budget depth
  | bool b => exact bool_reads dialect budget depth b
  | int n => exact int_reads dialect budget depth (of_decide_eq_true hv)
  | float x => exact float_reads dialect budget depth x
  | str t => exact str_reads budget depth hv
  | arr items ih =>
    refine arr_reads hbudget fun u hu => ?_
    obtain ⟨d, hd, hle⟩ := exists_depth (nestingItems_le.mp hdepth u hu)
    exact ⟨d, hd, ih u hu (isPortableItems_iff.mp hv u hu) hle ((length_render_item hu).trans hbudget)⟩
  | obj fields ih =>
    obtain ⟨hnames, hfields⟩ := isPortable_obj.mp hv
    refine obj_reads hbudget hnames fun g hg => ⟨(hfields g hg).1, ?_⟩
    obtain ⟨d, hd, hle⟩ := exists_depth (nestingFields_le.mp hdepth g hg)
    exact ⟨d, hd, ih g hg (hfields g hg).2 hle ((length_render_field hg).trans hbudget)⟩

theorem read_render {dialect : Dialect} {v : Json} (hv : isPortable dialect v)
    (hdepth : nesting v ≤ dialect.maxDepth) : read dialect (render v) = .ok v := by
  have hopens := render_opens v
  have hmark : ¬(render v).head? = some byteOrderMark := by
    intro hhead
    have hbound := (render_printable v byteOrderMark (List.mem_of_mem_head? hhead)).2
    exact absurd hbound (by decide)
  have hreads := readValue_render hv hdepth (Nat.le_succ (render v).length) [] stops_nil
  rw [List.append_nil] at hreads
  rw [read, readWhole, if_neg hmark, hopens.skipSpace, hreads]
  rfl

theorem Kept.read_render {v : Json} (h : Kept v) : read .document (render v) = .ok v :=
  Json.read_render h.portable h.shallow

theorem map_read_render {vs : List Json} (h : ∀ v ∈ vs, Kept v) :
    (vs.map render).map (read .document) = vs.map .ok := by
  rw [List.map_map]
  exact List.map_congr_left fun v hv => (h v hv).read_render

theorem eq_of_map_render {vs ws : List Json} (hvs : ∀ v ∈ vs, Kept v) (hws : ∀ w ∈ ws, Kept w)
    (h : vs.map render = ws.map render) : vs = ws := by
  have hread := congrArg (List.map (read .document)) h
  rw [map_read_render hvs, map_read_render hws] at hread
  exact List.map_injective_iff.mpr (fun v w => Except.ok.inj) hread

end ClusterHarness.Json
