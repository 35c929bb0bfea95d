import ClusterHarness.Proofs.Http.Inquiry

/-!
Clients that act alike. Of its settings a client looks at the addresses, the timeout, whether certificates are
trusted unchecked and whether warnings are errors. Clients that have these in common do the same with every
request, whatever the far side answers.
-/

namespace ClusterHarness

open Http ClusterHarness.Action

structure ActAlike (a b : ClientSettings) : Prop where
  baseUrls : b.baseUrls = a.baseUrls
  socketTimeout : b.socketTimeout = a.socketTimeout
  trustsAll : b.transport.trustsAll = a.transport.trustsAll
  strict : b.strictDeprecationMode = a.strictDeprecationMode

namespace ActAlike

variable {σ : Type} {a b : ClientSettings} (h : ActAlike a b) (wire : Call → σ → Outcome × σ)

include h

theorem call (method path : Text) (r : Request) (base : Text) :
    Client.call ⟨b, wire⟩ method path r base = Client.call ⟨a, wire⟩ method path r base := by
  simp only [Client.call, Client.timeout, h.socketTimeout, h.trustsAll]

theorem tryHosts (method path : Text) (r : Request) (last : Text) (hosts : List Nat) :
    Client.tryHosts ⟨b, wire⟩ method path r last hosts = Client.tryHosts ⟨a, wire⟩ method path r last hosts := by
  induction hosts generalizing last with
  | nil => rfl
  | cons host hosts ih =>
    simp only [Client.tryHosts, Client.baseUrls, h.baseUrls, h.call, ih]
    rfl

theorem send (r : Request) : Client.send ⟨b, wire⟩ r = Client.send ⟨a, wire⟩ r := by
  simp only [Client.send, Client.baseUrls, h.baseUrls, h.tryHosts]

theorem check (r : Request) (strict : Option Bool) (response : Response) :
    Client.check ⟨b, wire⟩ r strict response = Client.check ⟨a, wire⟩ r strict response := by
  simp only [Client.check, Client.isStrict, h.strict]
  rfl

theorem ask (q : Inquiry) : q.ask ⟨b, wire⟩ = q.ask ⟨a, wire⟩ := by
  have hconclude : q.conclude ⟨b, wire⟩ = q.conclude ⟨a, wire⟩ := by
    funext response
    simp only [Inquiry.conclude, h.check]
  rw [Inquiry.ask_eq, Inquiry.ask_eq, hconclude, h.send]

theorem askAll (qs : List Inquiry) (s : Session σ) :
    Inquiry.askAll ⟨b, wire⟩ qs s = Inquiry.askAll ⟨a, wire⟩ qs s := by
  induction qs generalizing s with
  | nil => rfl
  | cons q qs ih => simp only [Inquiry.askAll, h.ask, ih]

end ActAlike

end ClusterHarness
