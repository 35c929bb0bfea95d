import ClusterHarness.Proofs.Text.Pieces
import ClusterHarness.Proofs.Text.Trim
import ClusterHarness.Security.Pem

/-!
Splitting a chain of certificates at their ends. The end of a certificate overlaps itself, as it starts and ends
with dashes, but no occurrence of it goes over the line feed before another one: so what was put together is found
again, whatever stands between.
-/

namespace ClusterHarness.Pem

open Text

def lineFeed : CodePoint := CodePoint.ofChar '\n'

/-- What is left of the pieces between the ends of certificates. -/
def parts (content : Text) : List Text := ((content.splitOn endOfCertificate).map Text.trim).filter (!·.isEmpty)

/-- A part with the end of a certificate on a line of its own. -/
def closed (part : Text) : Text := part ++ lineFeed :: endOfCertificate

theorem splitChain_eq (content : Text) : splitChain content = (parts content).map closed := rfl

theorem end_ne_nil : endOfCertificate ≠ [] := by decide

theorem lineFeed_not_mem_end : lineFeed ∉ endOfCertificate := by decide

theorem blank_unmarked {t : Text} (h : t.isBlank = true) : ∀ c ∈ endOfCertificate.head?, c ∉ t := by
  intro c hc hmem
  have hblank : c.isBlank = true := List.all_eq_true.mp h c hmem
  have hdash : c = CodePoint.ofChar '-' := (Option.some.inj hc).symm
  rw [hdash] at hblank
  exact absurd hblank (by decide)

/-! ### The parts of a text -/

structure IsPart (part : Text) : Prop where
  trimmed : part.trim = part
  notBlank : part.isBlank = false
  unmarked : ¬endOfCertificate <:+: part

theorem parts_isPart {content part : Text} (h : part ∈ parts content) : IsPart part := by
  obtain ⟨hmem, hne⟩ := List.mem_filter.mp h
  obtain ⟨piece, hpiece, rfl⟩ := List.mem_map.mp hmem
  refine ⟨trim_trim piece, ?_, fun hmark => ?_⟩
  · rw [isBlank_trim, Bool.eq_false_iff]
    intro hblank
    rw [Text.trim, trimBy_eq_nil.mpr hblank] at hne
    cases hne
  · exact not_infix_of_mem_splitOn end_ne_nil hpiece (hmark.trans (trimBy_isInfix _ piece))

theorem closed_closedBy {part : Text} (h : IsPart part) : ClosedBy endOfCertificate (closed part) :=
  closedBy_apart lineFeed_not_mem_end h.unmarked

theorem parts_blank {t : Text} (h : t.isBlank = true) : parts t = [] := by
  have hunmarked : ¬endOfCertificate <:+: t := by
    rw [← List.append_nil t]
    exact not_infix_append (blank_unmarked h) (mt List.infix_nil.mp end_ne_nil)
  have hsplit : t.splitOn endOfCertificate = [t] := by rw [splitOn, splitFrom_unmarked hunmarked]
  have htrim : t.trim = [] := trimBy_eq_nil.mpr h
  rw [parts, hsplit, List.map_singleton, htrim]
  rfl

theorem parts_append {piece : Text} (hclosed : ClosedBy endOfCertificate (piece ++ endOfCertificate))
    (hblank : piece.isBlank = false) (rest : Text) :
    parts (piece ++ (endOfCertificate ++ rest)) = piece.trim :: parts rest := by
  have hne : piece.trim ≠ [] := by
    intro hnil
    rw [Text.isBlank, trimBy_eq_nil.mp hnil] at hblank
    cases hblank
  have hsplit : (piece ++ (endOfCertificate ++ rest)).splitOn endOfCertificate =
      piece :: rest.splitOn endOfCertificate := by rw [splitOn, splitFrom_first end_ne_nil hclosed]
  rw [parts, hsplit, List.map_cons, List.filter_cons_of_pos (by simpa using hne)]
  rfl

/-! ### Chains -/

/-- A certificate of a chain up to its end, and what stands between the end and the next one. -/
structure Link where
  body : Text
  gap : Text

namespace Link

def text (l : Link) : Text := l.body ++ (endOfCertificate ++ l.gap)

structure Sound (l : Link) : Prop where
  notBlank : l.body.isBlank = false
  lineEnd : l.body.getLast? = some lineFeed
  unmarked : ¬endOfCertificate <:+: l.body
  gapBlank : l.gap.isBlank = true

theorem Sound.closedBy {l : Link} (h : l.Sound) {lead : Text} (hlead : lead.isBlank = true) :
    ClosedBy endOfCertificate (lead ++ l.body ++ endOfCertificate) := by
  obtain ⟨part, hbody⟩ := List.getLast?_eq_some_iff.mp h.lineEnd
  have hpart : ¬endOfCertificate <:+: part := fun hmark =>
    h.unmarked (hbody ▸ hmark.trans (List.prefix_append part [lineFeed]).isInfix)
  have hline : lead ++ l.body ++ endOfCertificate = (lead ++ part) ++ lineFeed :: endOfCertificate := by
    rw [hbody]
    simp only [List.append_assoc, List.singleton_append]
  rw [hline]
  exact closedBy_apart lineFeed_not_mem_end (not_infix_append (blank_unmarked hlead) hpart)

end Link

theorem parts_links {lead : Text} {links : List Link} (hlead : lead.isBlank = true)
    (hlinks : ∀ l ∈ links, l.Sound) :
    parts (lead ++ links.flatMap Link.text) = links.map fun l => l.body.trim := by
  induction links generalizing lead with
  | nil => exact (congrArg parts (List.append_nil lead)).trans (parts_blank hlead)
  | cons l links ih =>
    obtain ⟨hl, hmore⟩ := List.forall_mem_cons.mp hlinks
    have htext : lead ++ (l :: links).flatMap Link.text =
        (lead ++ l.body) ++ (endOfCertificate ++ (l.gap ++ links.flatMap Link.text)) := by
      simp only [List.flatMap_cons, Link.text, List.append_assoc]
    have hblank : (lead ++ l.body).isBlank = false := by
      rw [Text.isBlank, List.all_append, Bool.and_eq_false_iff]
      exact .inr hl.notBlank
    have htrim : (lead ++ l.body).trim = l.body.trim := trimBy_append (List.all_eq_true.mp hlead) l.body
    rw [htext, parts_append (hl.closedBy hlead) hblank, htrim, ih hl.gapBlank hmore, List.map_cons]

/-- A part, as it is written into a chain. -/
def linkOf (part : Text) : Link := ⟨part ++ [lineFeed], []⟩

theorem linkOf_text (part : Text) : (linkOf part).text = closed part := by
  simp [linkOf, Link.text, closed]

theorem linkOf_sound {part : Text} (h : IsPart part) : (linkOf part).Sound where
  notBlank := by
    rw [linkOf, Text.isBlank, List.all_append, Bool.and_eq_false_iff]
    exact .inl h.notBlank
  lineEnd := List.getLast?_concat
  unmarked := not_infix_apart lineFeed_not_mem_end h.unmarked
  gapBlank := rfl

theorem linkOf_trim {part : Text} (h : IsPart part) : (linkOf part).body.trim = part := by
  have hline : ∀ c ∈ [lineFeed], c.isBlank = true := List.forall_mem_singleton.mpr (by decide)
  exact (trimBy_append_of_all hline part).trans h.trimmed

theorem parts_closed {ts : List Text} (h : ∀ t ∈ ts, IsPart t) : parts (ts.map closed).flatten = ts := by
  have hchain : (ts.map closed).flatten = [] ++ (ts.map linkOf).flatMap Link.text := by
    rw [List.nil_append, List.flatMap_map, ← List.flatMap_def]
    exact List.flatMap_congr fun t _ => (linkOf_text t).symm
  have hsound : ∀ l ∈ ts.map linkOf, l.Sound := List.forall_mem_map.mpr fun t ht => linkOf_sound (h t ht)
  rw [hchain, parts_links rfl hsound, List.map_map]
  exact (List.map_congr_left fun t ht => linkOf_trim (h t ht)).trans (List.map_id ts)

/-- A chain of certificates with nothing but blanks between them is split into the certificates. The pieces of
any text end where a certificate ends, and are not split any further. -/
theorem splitChain_finds_certificates :
    (∀ (lead : Text) (links : List Link), lead.isBlank = true → (∀ l ∈ links, l.Sound) →
      splitChain (lead ++ links.flatMap Link.text) =
        links.map fun l => l.body.trim ++ lineFeed :: endOfCertificate) ∧
      ∀ content, (∀ piece ∈ splitChain content, ClosedBy endOfCertificate piece) ∧
        splitChain (splitChain content).flatten = splitChain content := by
  refine ⟨fun lead links hlead hlinks => ?_, fun content => ⟨fun piece hpiece => ?_, ?_⟩⟩
  · rw [splitChain_eq, parts_links hlead hlinks, List.map_map]
    rfl
  · obtain ⟨part, hpart, rfl⟩ := List.mem_map.mp hpiece
    exact closed_closedBy (parts_isPart hpart)
  · rw [splitChain_eq, splitChain_eq, parts_closed fun part hpart => parts_isPart hpart]

/-- The second certificate goes on where the end of the first could overlap, and holds only a part of an end. -/
def overlapping : List Link :=
  [⟨"-----BEGIN CERTIFICATE-----\nAA==\n", ""⟩, ⟨"END CERTIFICATE-----\n -----END CERTIFICATE----\n", "\t\n"⟩]

theorem overlapping_sound : ∀ l ∈ overlapping, l.Sound := by
  intro l hl
  simp only [overlapping, List.mem_cons, List.not_mem_nil, or_false] at hl
  rcases hl with rfl | rfl <;> exact ⟨by decide, by decide, by decide, by decide⟩

theorem splitChain_finds_overlapping :
    (Text.isBlank " " = true ∧ ∀ l ∈ overlapping, l.Sound) ∧
      splitChain (Text.ofString " " ++ overlapping.flatMap Link.text) =
        overlapping.map fun l => l.body.trim ++ lineFeed :: endOfCertificate :=
  ⟨⟨by decide, overlapping_sound⟩, splitChain_finds_certificates.1 " " overlapping (by decide) overlapping_sound⟩

end ClusterHarness.Pem
