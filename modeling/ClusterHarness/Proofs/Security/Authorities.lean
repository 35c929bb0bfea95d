import ClusterHarness.Proofs.Text.Trim
import ClusterHarness.Security.TlsContext

/-!
Files of authorities with a block that is not ended. Whatever is read before it, such a block is broken, and a file
with a broken block is refused.
-/

namespace ClusterHarness

namespace PemFile

/-! ### Pieces -/

/-- A text that stops where a line does. -/
def IsLines (t : Text) : Prop := ∀ h : t ≠ [], t.getLast h = lineFeed

section Pieces

variable {budget n : ℕ} {c : CodePoint} {t u : Text}

theorem IsLines.tail (h : IsLines (c :: t)) : IsLines t := fun hne =>
  (List.getLast_cons hne).symm.trans (h (List.cons_ne_nil c t))

theorem firstPiece_split (n : ℕ) (t : Text) : (firstPiece n t).1 ++ (firstPiece n t).2 = t := by
  fun_induction firstPiece n t with
  | case1 t => rfl
  | case2 n => rfl
  | case3 n t => rfl
  | case4 n c t hc piece rest hpiece ih =>
    rw [hpiece] at ih
    exact congrArg (c :: ·) ih

theorem firstPiece_ne_nil (n : ℕ) (c : CodePoint) (t : Text) : (firstPiece (n + 1) (c :: t)).1 ≠ [] := by
  rw [firstPiece]
  split <;> exact List.cons_ne_nil _ _

theorem firstPiece_append (n : ℕ) (ht : IsLines t) (hne : t ≠ []) (u : Text) :
    firstPiece n (t ++ u) = ((firstPiece n t).1, (firstPiece n t).2 ++ u) ∧ IsLines (firstPiece n t).2 := by
  induction n generalizing t with
  | zero => exact ⟨rfl, ht⟩
  | succ n ih =>
    cases t with
    | nil => exact absurd rfl hne
    | cons c t =>
      rw [List.cons_append, firstPiece, firstPiece]
      split
      · exact ⟨rfl, ht.tail⟩
      · next hc =>
        have hmore : t ≠ [] := fun hnil => by
          subst hnil
          exact hc (ht hne)
        obtain ⟨hpiece, hrest⟩ := ih ht.tail hmore
        rw [hpiece]
        exact ⟨rfl, hrest⟩

theorem firstPiece_line {line : Text} (h : lineFeed ∉ line) (hn : line.length < n) (u : Text) :
    firstPiece n (line ++ lineFeed :: u) = (line ++ [lineFeed], u) := by
  induction line generalizing n with
  | nil =>
    cases n with
    | zero => cases hn
    | succ n => rw [List.nil_append, firstPiece, if_pos rfl, List.nil_append]
  | cons c line ih =>
    obtain ⟨hc, hline⟩ := List.ne_and_not_mem_of_not_mem_cons h
    cases n with
    | zero => cases hn
    | succ n =>
      rw [List.cons_append, firstPiece, if_neg (Ne.symm hc), ih hline (Nat.lt_of_succ_lt_succ hn)]
      rfl

/-- Whole lines without a zero byte are read to their end, and then what follows. -/
theorem pieces_lines (ht : IsLines t) (hzero : ∀ c ∈ t, c.val ≠ 0) (hbudget : (t ++ u).length ≤ budget) :
    ∃ ps left, piecesWithin budget (t ++ u) = ps ++ piecesWithin left u ∧ u.length ≤ left ∧ ∀ p ∈ ps, p ≠ [] := by
  induction budget generalizing t with
  | zero =>
    have hnil : t = [] ∧ u = [] := List.append_eq_nil_iff.mp (List.length_eq_zero_iff.mp (Nat.le_zero.mp hbudget))
    rw [hnil.1, hnil.2]
    exact ⟨[], 0, rfl, le_rfl, nofun⟩
  | succ budget ih =>
    cases t with
    | nil => exact ⟨[], budget + 1, rfl, hbudget, nofun⟩
    | cons c t =>
      have hsplit := firstPiece_split pieceLength (c :: t)
      have hpiece : (firstPiece pieceLength (c :: t)).1 ≠ [] := firstPiece_ne_nil 253 c t
      obtain ⟨happend, hlines⟩ := firstPiece_append pieceLength ht (List.cons_ne_nil c t) u
      set piece := (firstPiece pieceLength (c :: t)).1
      set rest := (firstPiece pieceLength (c :: t)).2
      have hlength : (rest ++ u).length ≤ budget := by
        have hpos : 0 < piece.length := List.length_pos_iff.mpr hpiece
        have htotal : piece.length + rest.length = t.length + 1 := by
          rw [← List.length_append, hsplit, List.length_cons]
        simp only [List.length_append, List.length_cons] at hbudget ⊢
        omega
      obtain ⟨hpieceZero, hrestZero⟩ := List.forall_mem_append.mp (hsplit ▸ hzero)
      obtain ⟨ps, left, hps, hleft, hne⟩ := ih hlines hrestZero hlength
      have hwhole : piece.takeWhile (·.val != 0) = piece :=
        List.takeWhile_eq_self_iff.mpr fun d hd => bne_iff_ne.mpr (hpieceZero d hd)
      refine ⟨piece :: ps, left, ?_, hleft, List.forall_mem_cons.mpr ⟨hpiece, hne⟩⟩
      rw [List.cons_append, piecesWithin, ← List.cons_append, happend]
      simp only [hwhole, hps, List.cons_append]

theorem infix_of_mem_pieces {p : Text} (h : p ∈ piecesWithin budget t) : p <:+: t := by
  induction budget generalizing t with
  | zero => cases h
  | succ budget ih =>
    cases t with
    | nil => cases h
    | cons c t =>
      have hsplit := firstPiece_split pieceLength (c :: t)
      rw [piecesWithin] at h
      rcases List.mem_cons.mp h with rfl | h
      · exact (List.takeWhile_prefix _).isInfix.trans ⟨[], _, hsplit⟩
      · exact (ih h).trans (List.IsSuffix.isInfix ⟨_, hsplit⟩)

end Pieces

/-! ### Blocks -/

/-- The line that begins a certificate. -/
def beginLine : Text := Text.ofString "-----BEGIN CERTIFICATE-----" ++ [lineFeed]

/-- Only the end of a block ends it. -/
theorem step_unended (b : Body) {p : Text} (h : ¬endMark <:+: p) : (∃ next, b.step p = .more next) ∨ b.step p = .broken := by
  have hmark : ¬(trimmed p).startsWith endMark = true := fun hstart =>
    h ((List.isPrefixOf_iff_prefix.mp hstart).isInfix.trans (List.IsPrefix.isInfix <| Text.trimEnd_prefix _ p))
  unfold Body.step
  dsimp only
  rw [if_neg hmark]
  split
  · exact .inr rfl
  split
  · split
    · exact .inl ⟨_, rfl⟩
    · split
      · exact .inr rfl
      · exact .inl ⟨_, rfl⟩
  · cases Body.add _ _ with
    | some next => exact .inl ⟨next, rfl⟩
    | none => exact .inr rfl

theorem read_unended (b : Body) {ps : List Text} (h : ∀ p ∈ ps, ¬endMark <:+: p) : none ∈ read (.inside b) ps := by
  induction ps generalizing b with
  | nil => exact List.mem_singleton_self none
  | cons p ps ih =>
    obtain ⟨hp, hps⟩ := List.forall_mem_cons.mp h
    rw [read]
    rcases step_unended b hp with ⟨next, hstep⟩ | hstep
    · rw [hstep]
      exact ih next hps
    · rw [hstep]
      exact List.mem_cons_self

theorem read_begun (s : State) {ps qs : List Text} (hps : ∀ p ∈ ps, p ≠ []) (hqs : ∀ q ∈ qs, ¬endMark <:+: q) :
    none ∈ read s (ps ++ beginLine :: qs) := by
  induction ps generalizing s with
  | nil =>
    cases s with
    | outside first =>
      have hlabel : ∀ first : Bool, label? (trimmed (if first then withoutMark beginLine else beginLine)) =
          some (Text.ofString "CERTIFICATE") := by decide +kernel
      rw [List.nil_append, read, if_neg (by decide), hlabel first]
      exact read_unended _ hqs
    | inside b =>
      have hbegin : ¬endMark <:+: beginLine := by decide +kernel
      exact read_unended b (List.forall_mem_cons.mpr ⟨hbegin, hqs⟩)
  | cons p ps ih =>
    obtain ⟨hp, hmore⟩ := List.forall_mem_cons.mp hps
    cases s with
    | outside first =>
      rw [List.cons_append, read, if_neg (by rwa [List.isEmpty_iff])]
      cases label? _ with
      | some label => exact ih _ hmore
      | none => exact ih _ hmore
    | inside b =>
      rw [List.cons_append, read]
      cases b.step p with
      | more next => exact ih _ hmore
      | block block => exact List.mem_cons_of_mem _ (ih _ hmore)
      | broken => exact List.mem_cons_self

theorem pieces_begun (budget : ℕ) (body : Text) :
    piecesWithin (budget + 1) (beginLine ++ body) = beginLine :: piecesWithin budget body := by
  have hline : lineFeed ∉ Text.ofString "-----BEGIN CERTIFICATE-----" := by decide +kernel
  have hlength : (Text.ofString "-----BEGIN CERTIFICATE-----").length < pieceLength := by decide +kernel
  have hfirst : firstPiece pieceLength (beginLine ++ body) = (beginLine, body) := by
    rw [beginLine, List.append_assoc]
    exact firstPiece_line hline hlength body
  have hwhole : beginLine.takeWhile (·.val != 0) = beginLine := by decide +kernel
  cases htext : beginLine ++ body with
  | nil =>
    have hbegin : beginLine ≠ [] := List.concat_ne_nil _ _
    exact absurd (List.append_eq_nil_iff.mp htext).1 hbegin
  | cons c t =>
    rw [piecesWithin, ← htext, hfirst]
    simp only [hwhole]

/-- A certificate that is begun and not ended is a broken block, whatever stands before it. -/
theorem blocks_unended {bs : Bytes} {before body : Text} (hbytes : ofBytes bs = before ++ (beginLine ++ body))
    (hlines : IsLines before) (hzero : ∀ c ∈ before, c.val ≠ 0) (hbody : ¬endMark <:+: body) : none ∈ blocks bs := by
  have hlength : (before ++ (beginLine ++ body)).length ≤ bs.length := by rw [← hbytes, ofBytes, List.length_map]
  obtain ⟨ps, left, hpieces, hleft, hne⟩ := pieces_lines hlines hzero hlength
  have hpos : 0 < left := by
    refine lt_of_lt_of_le ?_ hleft
    rw [beginLine, List.length_append, List.length_append, List.length_singleton]
    omega
  obtain ⟨budget, rfl⟩ := Nat.exists_eq_succ_of_ne_zero hpos.ne'
  rw [blocks, pieces, hbytes, hpieces, pieces_begun]
  exact read_begun _ hne fun q hq hmark => hbody (hmark.trans (infix_of_mem_pieces hq))

end PemFile

namespace TlsContext

theorem loadAuthorities_broken {bs : Bytes} (h : none ∈ PemFile.blocks bs) :
    loadAuthorities bs = .error .brokenBlock := by
  have hbroken : ((PemFile.blocks bs).map roleOf).elem .broken = true :=
    List.elem_eq_true_of_mem (List.mem_map.mpr ⟨none, h, rfl⟩)
  rw [loadAuthorities]
  exact if_pos hbroken

end TlsContext

end ClusterHarness
