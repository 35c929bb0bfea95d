import ClusterHarness.Proofs.Http.Failover
import ClusterHarness.Proofs.Json.Fields
import ClusterHarness.Proofs.Json.RoundTrip

/-!
The headers of a call, as a connection reads them: in any letter case of their names, the last of several
counting. The client writes them by names in the letter case that the caller chose.
-/

namespace ClusterHarness

open Http ClusterHarness.Action Request

namespace Http

/-- What a header says to a connection. -/
def effective? (headers : Fields Text) (name : Text) : Option Text :=
  (headers.reverse.find? fun h => Text.sameName h.1 name).map Prod.snd

/-- No name is written in two letter cases. -/
def Unambiguous (headers : Fields Text) : Prop := headers.Pairwise fun g h => ¬Text.sameName g.1 h.1

section Names

variable {s t u : Text}

theorem sameName_self (s : Text) : Text.sameName s s := Text.sameName_iff.mpr rfl

theorem sameName_comm : Text.sameName s t ↔ Text.sameName t s := by
  rw [Text.sameName_iff, Text.sameName_iff, eq_comm]

theorem sameName_trans (h : Text.sameName s t) (h' : Text.sameName t u) : Text.sameName s u :=
  Text.sameName_iff.mpr ((Text.sameName_iff.mp h).trans (Text.sameName_iff.mp h'))

end Names

variable {headers : Fields Text} {key name value : Text}

@[simp] theorem effective?_nil (name : Text) : effective? [] name = none := rfl

theorem effective?_cons (key value : Text) (headers : Fields Text) (name : Text) :
    effective? ((key, value) :: headers) name =
      (effective? headers name).or (if Text.sameName key name then some value else none) := by
  unfold effective?
  rw [List.reverse_cons, List.find?_append, Option.map_or, List.find?_singleton]
  split <;> rfl

theorem effective?_eq_none_iff :
    effective? headers name = none ↔ ∀ h ∈ headers, ¬Text.sameName h.1 name := by
  simp [effective?]

/-- A header that is put among others counts, unless it takes the place of one that another spelling
of its name follows. -/
theorem effective?_put (value name : Text) (hnodup : (headers.map Prod.fst).Nodup)
    (hsole : key ∈ headers.map Prod.fst → ∀ h ∈ headers, Text.sameName h.1 key → h.1 = key) :
    effective? (Fields.put key value headers) name =
      if Text.sameName key name then some value else effective? headers name := by
  induction headers with
  | nil => exact effective?_cons key value [] name
  | cons header headers ih =>
    obtain ⟨k, v⟩ := header
    obtain ⟨hk, hnodup⟩ := List.nodup_cons.mp hnodup
    by_cases hplace : k = key
    · subst hplace
      rw [Fields.put, if_pos rfl, effective?_cons, effective?_cons]
      split
      · next hsame =>
        have hrest : effective? headers name = none := by
          refine effective?_eq_none_iff.mpr fun h hh hname => hk ?_
          have hplace := hsole List.mem_cons_self h (List.mem_cons_of_mem _ hh)
            (sameName_trans hname (sameName_comm.mp hsame))
          exact List.mem_map.mpr ⟨h, hh, hplace⟩
        rw [hrest, Option.none_or]
      · rfl
    · rw [Fields.put, if_neg hplace, effective?_cons, effective?_cons,
        ih hnodup fun hmem h hh => hsole (List.mem_cons_of_mem _ hmem) h (List.mem_cons_of_mem _ hh)]
      split <;> rfl

theorem Unambiguous.nodup (h : Unambiguous headers) : (headers.map Prod.fst).Nodup :=
  List.pairwise_map.mpr (h.imp fun hne heq => hne (Text.sameName_iff.mpr (congrArg _ heq)))

theorem Unambiguous.eq_of_sameName (h : Unambiguous headers) {f g : Text × Text} (hf : f ∈ headers)
    (hg : g ∈ headers) (hsame : Text.sameName f.1 g.1) : f = g := by
  induction headers with
  | nil => cases hf
  | cons header headers ih =>
    obtain ⟨hother, h⟩ := List.pairwise_cons.mp h
    rcases List.mem_cons.mp hf with rfl | hf' <;> rcases List.mem_cons.mp hg with rfl | hg'
    · rfl
    · exact absurd hsame (hother g hg')
    · exact absurd (sameName_comm.mp hsame) (hother f hf')
    · exact ih h hf' hg'

/-- Headers that are put one after another among others count before those. -/
theorem effective?_foldl_put (acc : Fields Text) (hnodup : (acc.map Prod.fst).Nodup) (hunambiguous : Unambiguous headers)
    (hsole : ∀ header ∈ headers, header.1 ∈ acc.map Prod.fst →
      ∀ h ∈ acc, Text.sameName h.1 header.1 → h.1 = header.1) (name : Text) :
    effective? (headers.foldl (fun fields (k, v) => Fields.put k v fields) acc) name =
      (effective? headers name).or (effective? acc name) := by
  induction headers generalizing acc with
  | nil => rfl
  | cons header headers ih =>
    obtain ⟨k, v⟩ := header
    obtain ⟨hother, hunambiguous⟩ := List.pairwise_cons.mp hunambiguous
    have hput := effective?_put v name hnodup (hsole (k, v) List.mem_cons_self)
    rw [List.foldl_cons, ih _ (Fields.nodup_put v hnodup) hunambiguous, hput, effective?_cons, Option.or_assoc]
    · congr 1
      split <;> rfl
    · intro header hheader hmem h hh hsame
      have hne : k ≠ header.1 := fun heq => hother header hheader (heq ▸ sameName_self _)
      rcases Fields.mem_of_mem_put hh with hh | rfl
      · exact hsole header (List.mem_cons_of_mem _ hheader)
          ((Fields.mem_names_put v).mp hmem |>.resolve_left hne) h hh hsame
      · exact absurd hsame (hother header hheader)

end Http

namespace Request

/-- The type of the payload is given under a name in another letter case. -/
def HasOddType (r : Request) : Prop := ∃ h ∈ r.headers, Text.sameName h.1 contentType ∧ h.1 ≠ contentType

/-- The headers of the caller, which take the place of the accepted type. -/
def ownHeaders (r : Request) : Fields Text :=
  r.headers.foldl (fun fields (k, v) => Fields.put k v fields) [(acceptHeader, jsonType)]

variable {r : Request}

theorem accept_ne_type : ¬Text.sameName acceptHeader contentType := by decide +kernel

theorem effective?_ownHeaders (h : Unambiguous r.headers) (name : Text) : effective? r.ownHeaders name =
    (effective? r.headers name).or (if Text.sameName acceptHeader name then some jsonType else none) := by
  have haccept := effective?_foldl_put [(acceptHeader, jsonType)] (List.nodup_singleton _) h
    (fun header _ hmem f hf _ => by
      rw [List.mem_singleton.mp hf]
      exact (List.mem_singleton.mp hmem).symm) name
  rw [ownHeaders, haccept, effective?_cons, effective?_nil, Option.none_or]

theorem type_mem_ownHeaders :
    contentType ∈ r.ownHeaders.map Prod.fst ↔ contentType ∈ r.headers.map Prod.fst := by
  rw [ownHeaders, Fields.mem_names_foldl_put]
  exact or_iff_right fun h => accept_ne_type (List.mem_singleton.mp h ▸ sameName_self _)

theorem ownHeaders_spec (r : Request) : (r.ownHeaders.map Prod.fst).Nodup ∧
    ∀ f ∈ r.ownHeaders, f = (acceptHeader, jsonType) ∨ f ∈ r.headers := by
  obtain ⟨hnodup, hmem⟩ := Fields.foldl_put_spec r.headers [(acceptHeader, jsonType)]
    (List.nodup_singleton _)
  exact ⟨hnodup, fun f hf => (hmem f hf).imp_left List.mem_singleton.mp⟩

/-- A type that is put among the caller's headers counts. -/
theorem effective?_put_type (h : Unambiguous r.headers) (name : Text) :
    effective? (Fields.put contentType jsonType r.ownHeaders) name =
      if Text.sameName contentType name then some jsonType else effective? r.ownHeaders name := by
  obtain ⟨hnodup, hmem⟩ := ownHeaders_spec r
  refine effective?_put _ _ hnodup fun htyped header hheader hsame => ?_
  obtain ⟨own, hown, htype⟩ := List.mem_map.mp (type_mem_ownHeaders.mp htyped)
  rcases hmem header hheader with rfl | hcaller
  · exact absurd hsame accept_ne_type
  · rw [← htype] at hsame ⊢
    rw [h.eq_of_sameName hcaller hown hsame]

theorem type_given_iff (h : Unambiguous r.headers) : contentType ∈ r.headers.map Prod.fst ↔
    ¬r.HasOddType ∧ ∃ t, effective? r.headers contentType = some t := by
  rw [← Option.ne_none_iff_exists', Ne, effective?_eq_none_iff, not_forall]
  constructor
  · intro htyped
    obtain ⟨own, hown, htype⟩ := List.mem_map.mp htyped
    have hsame : Text.sameName own.1 contentType := Text.sameName_iff.mpr (congrArg _ htype)
    refine ⟨fun ⟨odd, hodd, hname, hne⟩ => hne ?_, own, fun hnot => hnot hown hsame⟩
    rw [h.eq_of_sameName hodd hown (sameName_trans hname (sameName_comm.mp hsame)), htype]
  · rintro ⟨hodd, header, hheader⟩
    obtain ⟨hmem, hsame⟩ := Classical.not_imp.mp hheader
    rw [Classical.not_not] at hsame
    by_contra hnot
    exact hodd ⟨header, hmem, hsame, fun htype => hnot (List.mem_map.mpr ⟨header, hmem, htype⟩)⟩

theorem callHeaders_raw {b : Body} (hraw : r.payload = .body b) :
    r.callHeaders = if contentType ∈ r.headers.map Prod.fst then r.ownHeaders
      else Fields.put contentType jsonType r.ownHeaders := by
  have hgiven : (Fields.get? contentType r.ownHeaders).isSome = true ↔ contentType ∈ r.headers.map Prod.fst := by
    rw [Option.isSome_iff_ne_none, Ne, Fields.get?_eq_none_iff, Classical.not_not, type_mem_ownHeaders]
  simp only [callHeaders, hraw]
  exact if_congr hgiven rfl rfl

theorem callHeaders_json {v : Json} (hjson : r.payload = .json v) :
    r.callHeaders = Fields.put contentType jsonType r.ownHeaders := by
  simp only [callHeaders, hjson, ownHeaders]

theorem callHeaders_none (hnone : r.payload = .none) : r.callHeaders = r.ownHeaders := by
  simp only [callHeaders, hnone, ownHeaders]

/-- The headers of a call differ from the caller's in the two names alone that have a default. -/
theorem callHeaders_eq_or (r : Request) :
    r.callHeaders = r.ownHeaders ∨ r.callHeaders = Fields.put contentType jsonType r.ownHeaders := by
  cases hpayload : r.payload with
  | none => exact .inl (callHeaders_none hpayload)
  | json v => exact .inr (callHeaders_json hpayload)
  | body b =>
    rw [callHeaders_raw hpayload]
    split
    · exact .inl rfl
    · exact .inr rfl

theorem effective?_callHeaders (h : Unambiguous r.headers) {name : Text}
    (hname : ¬Text.sameName contentType name) : effective? r.callHeaders name =
      (effective? r.headers name).or (if Text.sameName acceptHeader name then some jsonType else none) := by
  rcases callHeaders_eq_or r with heq | heq
  · rw [heq, effective?_ownHeaders h]
  · rw [heq, effective?_put_type h, if_neg hname, effective?_ownHeaders h]

theorem effective?_type_own (h : Unambiguous r.headers) :
    effective? r.ownHeaders contentType = effective? r.headers contentType := by
  rw [effective?_ownHeaders h, if_neg accept_ne_type, Option.or_none]

theorem effective?_type_put (h : Unambiguous r.headers) :
    effective? (Fields.put contentType jsonType r.ownHeaders) contentType = some jsonType := by
  rw [effective?_put_type h, if_pos (sameName_self _)]

end Request

/-- A call says to the connection what the request says. A type that is given in another letter case is
not kept. -/
structure SaysHeaders (r : Request) (call : Call) : Prop where
  accept : effective? call.headers acceptHeader = some ((effective? r.headers acceptHeader).getD jsonType)
  json : ∀ v, r.payload = .json v → effective? call.headers contentType = some jsonType ∧
    ∃ text, call.body = some (.text text) ∧ (v.Kept → Json.read .document text = .ok v)
  raw : ∀ b, r.payload = .body b → ¬r.HasOddType → call.body = some b ∧
    effective? call.headers contentType = some ((effective? r.headers contentType).getD jsonType)
  overridden : ∀ b, r.payload = .body b → r.HasOddType → call.body = some b ∧
    effective? call.headers contentType = some jsonType
  bare : r.payload = .none → call.body = none ∧
    effective? call.headers contentType = effective? r.headers contentType
  others : ∀ name, ¬Text.sameName acceptHeader name → ¬Text.sameName contentType name →
    effective? call.headers name = effective? r.headers name

variable {σ : Type} {r : Request}

theorem saysHeaders (h : Unambiguous r.headers) (c : Client σ) (method path base : Text) :
    SaysHeaders r (c.call method path r base) where
  accept := by
    have hname : ¬Text.sameName contentType acceptHeader := fun hsame => accept_ne_type (sameName_comm.mp hsame)
    change effective? r.callHeaders acceptHeader = _
    rw [effective?_callHeaders h hname, if_pos (sameName_self _)]
    cases effective? r.headers acceptHeader <;> rfl
  json v hjson := by
    refine ⟨?_, v.render, ?_, fun hkept => hkept.read_render⟩
    · change effective? r.callHeaders contentType = _
      rw [callHeaders_json hjson, effective?_type_put h]
    · change r.callBody = _
      rw [callBody, hjson]
  raw b hraw hodd := by
    refine ⟨?_, ?_⟩
    · change r.callBody = _
      rw [callBody, hraw]
    · change effective? r.callHeaders contentType = _
      rw [callHeaders_raw hraw]
      split
      · next hgiven =>
        obtain ⟨-, t, ht⟩ := (type_given_iff h).mp hgiven
        rw [effective?_type_own h, ht, Option.getD_some]
      · next hgiven =>
        rw [type_given_iff h, not_and, ← Option.ne_none_iff_exists', Classical.not_not] at hgiven
        rw [effective?_type_put h, hgiven hodd, Option.getD_none]
  overridden b hraw hodd := by
    refine ⟨?_, ?_⟩
    · change r.callBody = _
      rw [callBody, hraw]
    · have hgiven : contentType ∉ r.headers.map Prod.fst := fun hgiven => ((type_given_iff h).mp hgiven).1 hodd
      change effective? r.callHeaders contentType = _
      rw [callHeaders_raw hraw, if_neg hgiven, effective?_type_put h]
  bare hnone := by
    refine ⟨?_, ?_⟩
    · change r.callBody = _
      rw [callBody, hnone]
    · change effective? r.callHeaders contentType = _
      rw [callHeaders_none hnone, effective?_type_own h]
  others name haccept htype := by
    change effective? r.callHeaders name = _
    rw [effective?_callHeaders h htype, if_neg haccept, Option.or_none]

/-- Every call that a request makes is the call of that request on some host. -/
theorem ask_calls (c : Client σ) (q : Inquiry) (s : Session σ) :
    ∃ calls, callsOf ((q.ask c).run s).2.trace = callsOf s.trace ++ calls ∧
      (q.request.method ≠ none → q.request.endpoint ≠ none → 0 < c.baseUrls.length → calls ≠ []) ∧
      ∀ call ∈ calls, ∃ method path base, call = c.call method path q.request base := by
  obtain ⟨-, -, hcalls, -⟩ := ask_of_send c q s
  rcases htarget : Client.target q.request with e | ⟨method, path⟩
  · rw [Client.send_untargeted c s htarget] at hcalls
    refine ⟨[], hcalls.trans (List.append_nil _).symm, fun hmethod hendpoint => ?_, by simp⟩
    obtain ⟨method, hmethod⟩ := Option.ne_none_iff_exists'.mp hmethod
    obtain ⟨endpoint, hendpoint⟩ := Option.ne_none_iff_exists'.mp hendpoint
    rw [Client.target, hmethod, hendpoint] at htarget
    cases htarget
  · rw [Client.send_run c s htarget] at hcalls
    obtain ⟨attempts, trial⟩ := Client.tryHosts_trial c method path q.request
      (Client.rotation c.baseUrls.length s.host) "None" s
    refine ⟨attempts.map Attempt.call, hcalls.trans trial.sent, fun _ _ hhosts hnone => ?_, ?_⟩
    · have hended := trial.ended
      rw [List.map_eq_nil_iff.mp hnone] at hended
      exact rotation_ne_nil _ hhosts hended.1
    · intro call hcall
      obtain ⟨attempt, hattempt, rfl⟩ := List.mem_map.mp hcall
      exact ⟨method, path, _, trial.calls attempt hattempt⟩

/-- What a request says in its headers is what every one of its calls says, whatever the letter case of the
names, but for the type of a payload that is sent as it is and is named in another letter case. -/
theorem client_says_headers (c : Client σ) (q : Inquiry) (s : Session σ) (h : Unambiguous q.request.headers) :
    ∃ calls, callsOf ((q.ask c).run s).2.trace = callsOf s.trace ++ calls ∧
      (q.request.method ≠ none → q.request.endpoint ≠ none → 0 < c.baseUrls.length → calls ≠ []) ∧
      ∀ call ∈ calls, SaysHeaders q.request call := by
  obtain ⟨calls, htrace, hsome, hall⟩ := ask_calls c q s
  refine ⟨calls, htrace, hsome, fun call hcall => ?_⟩
  obtain ⟨method, path, base, rfl⟩ := hall call hcall
  exact saysHeaders h c method path base

/-- A bulk request whose headers are as given. -/
def bulkWith (headers : Fields Text) : Inquiry :=
  ⟨⟨some "POST", some "_bulk", .body (.text "\x7b\x7d\n"), none, headers, none⟩, .json, none⟩

def linesType : Text := "application/x-ndjson"

def mixedBulk : Inquiry := bulkWith [("accept", "text/plain"), ("Content-Type", linesType)]

theorem mixedBulk_unambiguous : Unambiguous mixedBulk.request.headers := by
  unfold Unambiguous
  decide +kernel

theorem client_says_headers_of_mixed : Unambiguous mixedBulk.request.headers ∧
    ∃ calls, callsOf ((mixedBulk.ask ⟨threeHosts, scripted⟩).run ⟨0, stumbling, []⟩).2.trace =
        callsOf [] ++ calls ∧
      (mixedBulk.request.method ≠ none → mixedBulk.request.endpoint ≠ none →
        0 < (Client.baseUrls ⟨threeHosts, scripted⟩).length → calls ≠ []) ∧
      ∀ call ∈ calls, SaysHeaders mixedBulk.request call :=
  ⟨mixedBulk_unambiguous,
    client_says_headers ⟨threeHosts, scripted⟩ mixedBulk ⟨0, stumbling, []⟩ mixedBulk_unambiguous⟩

/-- The type of a payload that is named in small letters is overridden. -/
theorem small_type_is_overridden :
    effective? (bulkWith [("content-type", linesType)]).request.headers contentType = some linesType ∧
      ∃ call, callsOf (((bulkWith [("content-type", linesType)]).ask ⟨threeHosts, scripted⟩).run
          ⟨0, [.response (.utf8 200 [] [] false)], []⟩).2.trace = [call] ∧
        effective? call.headers contentType = some jsonType :=
  ⟨by decide +kernel, _, rfl, by decide +kernel⟩

end ClusterHarness
