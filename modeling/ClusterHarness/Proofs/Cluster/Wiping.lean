import ClusterHarness.Proofs.Cluster.Listing
import ClusterHarness.Proofs.Http.FarSide
import ClusterHarness.Proofs.Http.Reply
import ClusterHarness.Suite
import Mathlib.Data.Finset.Basic

/-!
Wiping a cluster. The indices that a listing names are deleted in its order, but for the protected one,
up to the first deletion that fails. Once all went well, the protected index is the only one left, and
wiping again finds nothing to delete.
-/

namespace ClusterHarness

open Http ClusterHarness.Action Client IndexListing

variable {σ : Type} {c : Client σ} {s t : Session σ}

namespace Action

variable {α : Type} {body : Action σ α} {look : Failure → Action σ Unit}

theorem run_onFailure_ok {x : α} (h : body.run s = (.ok x, t)) :
    (body.onFailure look).run s = (.ok x, t) := by
  unfold run at h ⊢
  rw [onFailure, h]

theorem run_onFailure_error {e : Failure} (h : body.run s = (.error e, t)) :
    (body.onFailure look).run s = (look e >>= fun _ => fail e).run t := by
  unfold run at h ⊢
  rw [onFailure, h]
  rfl

end Action

namespace Indices

/-! ### What is sent -/

def listDeed (reply : Except Failure Json) : Deed := .json listRequest none reply

def deleteDeed (name : Text) (reply : Except Failure Json) : Deed := .json (deleteRequest name) none reply

/-- Deletions of the names in order, up to the first that fails. -/
inductive Deletes : List Text → List Deed → Except Failure Unit → Prop
  | done : Deletes [] [] (.ok ())
  | stopped {name : Text} {names : List Text} (e : Failure) :
      Deletes (name :: names) [deleteDeed name (.error e)] (.error e)
  | next {name : Text} {names : List Text} {ds : List Deed} {r : Except Failure Unit} (v : Json) :
      Deletes names ds r → Deletes (name :: names) (deleteDeed name (.ok v) :: ds) r

def unprotected (v : Json) : List Text := (listedNames v).filter (· ≠ securityIndex)

inductive Wipes : List Deed → Except Failure (List Text) → Prop
  | unanswered (e : Failure) : Wipes [listDeed (.error e)] (.error e)
  | unlisted {v : Json} (e : Failure) : ¬IsListing v → Wipes [listDeed (.ok v)] (.error e)
  | listed {v : Json} {ds : List Deed} {r : Except Failure Unit} : IsListing v →
      Deletes (unprotected v) ds r → Wipes (listDeed (.ok v) :: ds) (r.map fun _ => unprotected v)

theorem deletable_eq (names : List Text) : deletable names = names.filter (· ≠ securityIndex) := by
  unfold deletable protectedNames
  exact List.filter_congr fun name _ => by simp

theorem delete_course {name : Text} {r : Except Failure Unit} (h : (delete c name).run s = (r, t)) :
    ∃ reply, Course c s [deleteDeed name reply] t ∧ r = reply.map fun _ => () := by
  rcases run_bind_eq h with ⟨e, he, rfl⟩ | ⟨v, u, hv, hpure⟩
  · exact ⟨.error e, .ofJson he, rfl⟩
  · cases hpure
    exact ⟨.ok v, .ofJson hv, rfl⟩

theorem deleteAll_course {names : List Text} {r : Except Failure Unit}
    (h : (deleteAll c names).run s = (r, t)) : ∃ ds, Course c s ds t ∧ Deletes names ds r := by
  induction names generalizing s with
  | nil =>
    cases h
    exact ⟨[], .done _, .done⟩
  | cons name names ih =>
    rcases run_bind_eq h with ⟨e, he, rfl⟩ | ⟨_, u, hone, hrest⟩
    · obtain ⟨reply, hcourse, hreply⟩ := delete_course he
      cases reply with
      | ok v => cases hreply
      | error d =>
        cases hreply
        exact ⟨_, hcourse, .stopped e⟩
    · obtain ⟨reply, hcourse, hreply⟩ := delete_course hone
      obtain ⟨ds, hds, hdeletes⟩ := ih hrest
      cases reply with
      | ok v => exact ⟨_, hcourse.append hds, .next v hdeletes⟩
      | error d => cases hreply

/-- What a reply to the listing is taken for. -/
inductive Read : Except Failure Json → Except Failure IndexListing → Prop
  | unanswered (e : Failure) : Read (.error e) (.error e)
  | unlisted {v : Json} (e : Failure) : ¬IsListing v → Read (.ok v) (.error e)
  | listed {v : Json} {listing : IndexListing} : IsListing v → listing.names = listedNames v →
      Read (.ok v) (.ok listing)

theorem list_course {r : Except Failure IndexListing} (h : (list c).run s = (r, t)) :
    ∃ reply, Course c s [listDeed reply] t ∧ Read reply r := by
  rcases run_bind_eq h with ⟨e, he, rfl⟩ | ⟨v, u, hv, hread⟩
  · exact ⟨.error e, .ofJson he, .unanswered e⟩
  · cases hread
    refine ⟨.ok v, .ofJson hv, ?_⟩
    cases hlisting : ofResponse v with
    | error e =>
      refine .unlisted _ fun hshape => ?_
      obtain ⟨listing, hok⟩ := ofResponse_isListing hshape
      rw [hlisting] at hok
      cases hok
    | ok listing =>
      obtain ⟨hshape, hnames⟩ := ofResponse_eq_ok hlisting
      exact .listed hshape hnames

theorem wipe_course {r : Except Failure (List Text)} (h : (wipe c).run s = (r, t)) :
    ∃ ds, Course c s ds t ∧ Wipes ds r := by
  rcases run_bind_eq h with ⟨e, he, rfl⟩ | ⟨listing, u, hlist, hrest⟩
  · obtain ⟨reply, hcourse, hread⟩ := list_course he
    cases hread with
    | unanswered => exact ⟨_, hcourse, .unanswered e⟩
    | unlisted _ hshape => exact ⟨_, hcourse, .unlisted e hshape⟩
  · obtain ⟨reply, hcourse, hread⟩ := list_course hlist
    cases hread with
    | listed hshape hnames =>
      rw [deletable_eq, hnames] at hrest
      rcases run_bind_eq hrest with ⟨e, he, rfl⟩ | ⟨_, w, hall, hpure⟩
      · obtain ⟨ds, hds, hdeletes⟩ := deleteAll_course he
        exact ⟨_, hcourse.append hds, .listed hshape hdeletes⟩
      · cases hpure
        obtain ⟨ds, hds, hdeletes⟩ := deleteAll_course hall
        exact ⟨_, hcourse.append hds, .listed hshape hdeletes⟩

/-! ### What is left -/

section Left

/-- The far side is a cluster with the given indices, by their names. It lists them all, and a deletion
touches no index but its own, which is gone if the deletion is not refused. -/
structure KeepsIndices (c : Client σ) (indices : σ → Finset Text) : Prop where
  slashFree : ∀ far, ∀ name ∈ indices far, ClientSettings.slash ∉ name
  listing : ∀ call far, call.method = ("GET" : Text) → c.Reaches "_cat/indices" call →
    call.params = listRequest.params → indices (c.wire call far).2 = indices far ∧
      ∀ response v, (c.wire call far).1 = .response response → ¬response.IsRefusal →
        response.json = .ok v → IsListing v →
          ∀ name, name ∈ listedNames v ↔ name ∈ indices far ∧ name ≠ []
  deleting : ∀ call far name, call.method = ("DELETE" : Text) → c.Reaches name call →
    ClientSettings.slash ∉ name → (indices (c.wire call far).2 = indices far ∨
      indices (c.wire call far).2 = (indices far).erase name) ∧
      ∀ response, (c.wire call far).1 = .response response → ¬response.IsRefusal →
        name ∉ indices (c.wire call far).2

variable {indices : σ → Finset Text}

theorem placed {method path : Text} {r : Request} {call : Call} (h : c.Places method path r call) :
    call.method = method ∧ c.Reaches path call ∧ call.params = r.params := by
  obtain ⟨base, hbase, rfl⟩ := h
  exact ⟨rfl, ⟨base, hbase, rfl⟩, rfl⟩

theorem list_leads (keeps : KeepsIndices c indices) {far far' : σ}
    (h : c.Leads "GET" "_cat/indices" listRequest far far') : indices far' = indices far := by
  induction h with
  | refl => rfl
  | tail _ hstep ih =>
    obtain ⟨call, hcall, rfl⟩ := hstep
    obtain ⟨hmethod, hreaches, hparams⟩ := placed hcall
    exact ((keeps.listing _ _ hmethod hreaches hparams).1).trans ih

theorem list_run (keeps : KeepsIndices c indices) {listing : IndexListing}
    (h : (list c).run s = (.ok listing, t)) : indices t.far = indices s.far ∧
      ∀ name, name ∈ listing.names ↔ name ∈ indices s.far ∧ name ≠ [] := by
  rcases run_bind_eq h with ⟨e, -, he⟩ | ⟨v, u, hv, hread⟩
  · cases he
  rw [run_lift, Prod.mk.injEq, mapError_eq_ok] at hread
  obtain ⟨hlisting, rfl⟩ := hread
  obtain ⟨hshape, hnames⟩ := ofResponse_eq_ok hlisting
  obtain ⟨response, ⟨call, mid, hcall, hleads, hanswer⟩, hpassed, hjson⟩ := json_ended listRequest_consists.target hv
  obtain ⟨hmethod, hreaches, hparams⟩ := placed hcall
  obtain ⟨hkept, hlisted⟩ := keeps.listing call mid hmethod hreaches hparams
  rw [hanswer] at hkept hlisted
  have hmid := list_leads keeps hleads
  refine ⟨hkept.trans hmid, fun name => ?_⟩
  rw [hnames, hlisted response v rfl hpassed hjson hshape name, hmid]

theorem delete_leads (keeps : KeepsIndices c indices) {name : Text} (hname : ClientSettings.slash ∉ name)
    {far far' : σ} (h : c.Leads "DELETE" name (deleteRequest name) far far') :
    indices far' = indices far ∨ indices far' = (indices far).erase name := by
  induction h with
  | refl => exact .inl rfl
  | tail _ hstep ih =>
    obtain ⟨call, hcall, rfl⟩ := hstep
    obtain ⟨hmethod, hreaches, -⟩ := placed hcall
    rcases (keeps.deleting _ _ name hmethod hreaches hname).1 with hsame | herased
    · rw [hsame]
      exact ih
    · rw [herased]
      rcases ih with ih | ih
      · exact .inr (by rw [ih])
      · exact .inr (by rw [ih, Finset.erase_idem])

theorem path_of_slashFree {name : Text} (h : ClientSettings.slash ∉ name) : Client.path name = name := by
  cases name with
  | nil => rfl
  | cons a name =>
    have ha : ¬ClientSettings.isSlash a = true := by
      rw [ClientSettings.isSlash, decide_eq_true_iff]
      exact fun hsame => h (hsame ▸ List.mem_cons_self)
    rw [Client.path, List.dropWhile_cons_of_neg ha]

theorem delete_run (keeps : KeepsIndices c indices) {name : Text} (hname : ClientSettings.slash ∉ name)
    (h : (delete c name).run s = (.ok (), t)) : indices t.far = (indices s.far).erase name := by
  rcases run_bind_eq h with ⟨e, -, he⟩ | ⟨v, u, hv, hpure⟩
  · cases he
  cases hpure
  have htarget := (deleteRequest_consists name).target
  rw [path_of_slashFree hname] at htarget
  obtain ⟨response, ⟨call, mid, hcall, hleads, hanswer⟩, hpassed, -⟩ := json_ended htarget hv
  obtain ⟨hmethod, hreaches, -⟩ := placed hcall
  have hgone := (keeps.deleting call mid name hmethod hreaches hname).2 response
  have hall := delete_leads keeps hname (hleads.tail ⟨call, hcall, congrArg Prod.snd hanswer⟩)
  rw [hanswer] at hgone
  rcases hall with hsame | herased
  · rw [hsame, Finset.erase_eq_of_notMem (hsame ▸ hgone rfl hpassed)]
  · exact herased

theorem deleteAll_run (keeps : KeepsIndices c indices) {names : List Text}
    (hnames : ∀ name ∈ names, ClientSettings.slash ∉ name) (h : (deleteAll c names).run s = (.ok (), t)) :
    ∀ name, name ∈ indices t.far ↔ name ∈ indices s.far ∧ name ∉ names := by
  induction names generalizing s with
  | nil =>
    cases h
    simp
  | cons first names ih =>
    rw [List.forall_mem_cons] at hnames
    rcases run_bind_eq h with ⟨e, -, he⟩ | ⟨_, u, hone, hrest⟩
    · cases he
    intro name
    rw [ih hnames.2 hrest, delete_run keeps hnames.1 hone, Finset.mem_erase, List.mem_cons, not_or]
    tauto

structure Wiped (c : Client σ) (indices : σ → Finset Text) (s : Session σ) (names : List Text)
    (t : Session σ) : Prop where
  left : ∀ name, name ∈ indices t.far ↔ name ∈ indices s.far ∧ (name = securityIndex ∨ name = [])
  deleted : ∀ name, name ∈ names ↔ name ∈ indices s.far ∧ name ≠ [] ∧ name ≠ securityIndex
  again : (wipe c).run t = (((list c).run t).1.map fun _ => [], ((list c).run t).2)

theorem wipe_finds_nothing (keeps : KeepsIndices c indices)
    (hleft : ∀ name ∈ indices t.far, name = securityIndex ∨ name = []) :
    (wipe c).run t = (((list c).run t).1.map fun _ => [], ((list c).run t).2) := by
  rw [wipe, run_bind]
  rcases hlist : (list c).run t with ⟨e | listing, u⟩
  · rfl
  · have hnone : deletable listing.names = [] := by
      rw [deletable_eq, List.filter_eq_nil_iff]
      intro name hname
      obtain ⟨hindex, hnonempty⟩ := ((list_run keeps hlist).2 name).mp hname
      simpa using (hleft name hindex).resolve_right hnonempty
    simp only [hnone]
    rfl

theorem wiped_of_run (keeps : KeepsIndices c indices) {names : List Text}
    (h : (wipe c).run s = (.ok names, t)) : Wiped c indices s names t := by
  rcases run_bind_eq h with ⟨e, -, he⟩ | ⟨listing, u, hlist, hrest⟩
  · cases he
  rcases run_bind_eq hrest with ⟨e, -, he⟩ | ⟨_, w, hall, hpure⟩
  · cases he
  cases hpure
  obtain ⟨hsame, hlisted⟩ := list_run keeps hlist
  have hdeleted : ∀ name, name ∈ deletable listing.names ↔
      name ∈ indices s.far ∧ name ≠ [] ∧ name ≠ securityIndex := fun name => by
    rw [deletable_eq, List.mem_filter, hlisted, decide_eq_true_iff, and_assoc]
  have hfree : ∀ name ∈ deletable listing.names, ClientSettings.slash ∉ name := fun name hname =>
    keeps.slashFree s.far name ((hdeleted name).mp hname).1
  have hleft : ∀ name, name ∈ indices t.far ↔
      name ∈ indices s.far ∧ (name = securityIndex ∨ name = []) := fun name => by
    rw [deleteAll_run keeps hfree hall, hdeleted, hsame]
    tauto
  exact ⟨hleft, hdeleted, wipe_finds_nothing keeps fun name hname => ((hleft name).mp hname).2⟩

end Left

/-- The cluster is wiped in the order of its listing, a teardown wipes it just so, and at a cluster that keeps
what is not deleted the protected index is left. -/
structure WipesAll (c : Client σ) (s : Session σ) : Prop where
  course : ∃ ds, Course c s ds ((wipe c).run s).2 ∧ Wipes ds ((wipe c).run s).1
  teardown : ∀ value,
    ((SuiteFixture.teardown c value .wipeIndices).run s).1 = ((wipe c).run s).1.map (fun _ => ()) ∧
      callsOf ((SuiteFixture.teardown c value .wipeIndices).run s).2.trace = callsOf ((wipe c).run s).2.trace
  wiped : ∀ indices, KeepsIndices c indices → ∀ names t, (wipe c).run s = (.ok names, t) →
    Wiped c indices s names t

theorem teardown_wipes (c : Client σ) (s : Session σ) (value : Json) :
    ((SuiteFixture.teardown c value .wipeIndices).run s).1 = ((wipe c).run s).1.map (fun _ => ()) ∧
      callsOf ((SuiteFixture.teardown c value .wipeIndices).run s).2.trace =
        callsOf ((wipe c).run s).2.trace := by
  have hteardown : SuiteFixture.teardown c value .wipeIndices = SuiteFixture.wipe c := rfl
  rw [hteardown, SuiteFixture.wipe]
  rcases hwipe : (wipe c).run s with ⟨e | names, t⟩
  · have hbody : (wipe c >>= fun _ => pure ()).run s = (.error e, t) := by rw [run_bind, hwipe]
    rw [run_onFailure_error hbody]
    cases e with
    | http e => exact ⟨rfl, callsOf_log _ _ _⟩
    | deprecation warnings code => exact ⟨rfl, callsOf_log _ _ _⟩
    | _ => exact ⟨rfl, rfl⟩
  · have hbody : (wipe c >>= fun _ => pure ()).run s = (.ok (), t) := run_bind_ok hwipe _
    rw [run_onFailure_ok hbody]
    exact ⟨rfl, rfl⟩

/-- Wiping deletes what is listed and not protected, up to the first failure. -/
theorem wipe_leaves_protected (c : Client σ) (s : Session σ) : WipesAll c s where
  course := wipe_course rfl
  teardown := teardown_wipes c s
  wiped _ keeps _ _ h := wiped_of_run keeps h

/-! ### A cluster with one index besides the protected one -/

/-- Whether the index is there. -/
abbrev SmallCluster := Bool

namespace SmallCluster

def logs : Text := "logs"

def names (there : SmallCluster) : List Text := if there then [logs, securityIndex] else [securityIndex]

def indices (there : SmallCluster) : Finset Text := (names there).toFinset

def document (there : SmallCluster) : Json := .arr ((names there).map fun name => .obj [("index", .str name)])

/-- Answers with the listing, or deletes the index; no other is deleted. -/
def wire (call : Call) (there : SmallCluster) : Outcome × SmallCluster :=
  if call.method = ("GET" : Text) then (.response (.holding (document there)), there)
  else if call.url.drop 9 = logs then (.response (.holding (.obj [("acknowledged", .bool true)])), false)
  else (.response (.utf8 403 [] [] false), there)

def client : Client SmallCluster := ⟨threeHosts, wire⟩

theorem drop_url {path : Text} {call : Call} (h : client.Reaches path call) : call.url.drop 9 = path := by
  obtain ⟨base, hbase, hurl⟩ := h
  have hlength : ∀ base ∈ client.baseUrls, base.length = 8 := by decide
  rw [hurl, List.drop_append, hlength base hbase, List.drop_eq_nil_of_le (by rw [hlength base hbase]; decide)]
  rfl

theorem document_gives (there : SmallCluster) : (Response.holding (document there)).Gives (document there) := by
  cases there
  · exact Response.holding_gives (by decide) (by decide)
  · exact Response.holding_gives (by decide) (by decide)

theorem document_lists (there : SmallCluster) (name : Text) :
    name ∈ listedNames (document there) ↔ name ∈ indices there ∧ name ≠ [] := by
  have hnames : listedNames (document there) = names there := by cases there <;> rfl
  have hnonempty : ∀ name ∈ names there, name ≠ [] := by cases there <;> decide
  rw [hnames, indices, List.mem_toFinset]
  exact ⟨fun h => ⟨h, hnonempty name h⟩, And.left⟩

theorem client_keepsIndices : KeepsIndices client indices where
  slashFree there := by cases there <;> decide
  listing call there hmethod _ _ := by
    have hwire : client.wire call there = (.response (.holding (document there)), there) := if_pos hmethod
    rw [hwire]
    refine ⟨rfl, ?_⟩
    rintro response v ⟨⟩ - hjson - name
    rw [(document_gives there).document, Except.ok.injEq] at hjson
    rw [← hjson, document_lists]
  deleting call there name hmethod hreaches _ := by
    have hget : call.method ≠ ("GET" : Text) := by
      rw [hmethod]
      decide
    have hwire : client.wire call there = if name = logs then
        (.response (.holding (.obj [("acknowledged", .bool true)])), false)
        else (.response (.utf8 403 [] [] false), there) := by
      rw [← drop_url hreaches]
      exact if_neg hget
    rw [hwire]
    by_cases hname : name = logs
    · rw [if_pos hname, hname]
      refine ⟨.inr ?_, fun _ _ _ => by decide⟩
      cases there <;> decide
    · rw [if_neg hname]
      refine ⟨.inl rfl, ?_⟩
      rintro response ⟨⟩ hpassed
      exact absurd ⟨by decide, by decide⟩ hpassed

theorem client_wipes : ∃ t, (wipe client).run ⟨0, true, []⟩ = (.ok [logs], t) := by
  have hresult : ((wipe client).run ⟨0, true, []⟩).1.toOption = some [logs] := by decide +kernel
  rcases hwipe : (wipe client).run ⟨0, true, []⟩ with ⟨e | names, t⟩
  · rw [hwipe] at hresult
    cases hresult
  · rw [hwipe] at hresult
    cases hresult
    exact ⟨t, rfl⟩

end SmallCluster

open SmallCluster in
theorem wipe_leaves_protected_of_small : KeepsIndices client indices ∧
    ∃ t, (wipe client).run ⟨0, true, []⟩ = (.ok [logs], t) ∧ Wiped client indices ⟨0, true, []⟩ [logs] t := by
  obtain ⟨t, hwipe⟩ := client_wipes
  have hall := wipe_leaves_protected client ⟨0, true, []⟩
  exact ⟨client_keepsIndices, t, hwipe, hall.wiped indices client_keepsIndices [logs] t hwipe⟩

end Indices

end ClusterHarness
