import ClusterHarness.Proofs.Settings.NormalForm
import ClusterHarness.Settings.Bootstrap

/-!
Flags as they are given. However they are read, a text that is set is not blank, and the cluster's
addresses are trimmed.
-/

namespace ClusterHarness

open Validation Validated

namespace RuntimeFlags

theorem setText_not_blank {given : Option Text} {t : Text} (h : setText given = some t) :
    t.isBlank = false := by
  rw [setText, Option.filter_eq_some_iff] at h
  simpa using h.2

theorem flag_not_blank {v : Json} {t : Text} (h : flag v = .ok (some t)) : t.isBlank = false := by
  obtain ⟨given, -, hset⟩ := map_eq_ok.mp h
  exact setText_not_blank hset

/-- Flags that come from the environment or from a document. -/
inductive Given : RuntimeFlags → Prop
  | environment (env : Fields Text) : Given (ofEnvironment env)
  | document {source : Source} {fields : Fields Json} {flags : RuntimeFlags} :
      check source fields = .ok flags → Given flags

theorem Given.user_not_blank {flags : RuntimeFlags} (h : Given flags) {user : Text}
    (huser : flags.user = some user) : user.isBlank = false := by
  cases h with
  | environment env => exact setText_not_blank huser
  | document hcheck =>
    obtain ⟨⟨https, cluster, name, password, timeout, lead, dir⟩, hfields, rfl⟩ := map_eq_ok.mp hcheck
    simp only [both_eq_ok] at hfields huser
    obtain ⟨-, -, hname, -⟩ := hfields
    subst huser
    rcases withDefault_eq_ok hname with hnone | ⟨v, -, hflag⟩
    · cases hnone
    · exact flag_not_blank hflag

/-- There is an address among the pieces between commas. -/
def NamesCluster (flags : RuntimeFlags) : Prop :=
  ∃ cluster, flags.cluster = some cluster ∧ ∃ address ∈ cluster.splitOn ",", address.isBlank = false

theorem mem_hosts {flags : RuntimeFlags} {host : Text} : host ∈ flags.hosts ↔
    ∃ cluster, flags.cluster = some cluster ∧
      ∃ address ∈ cluster.splitOn ",", address.isBlank = false ∧ address.trim = host := by
  unfold hosts
  cases flags.cluster with
  | none => simp
  | some cluster => simp [and_assoc]

theorem hosts_ne_nil {flags : RuntimeFlags} : flags.hosts ≠ [] ↔ flags.NamesCluster := by
  constructor
  · intro hne
    obtain ⟨host, hhost⟩ := List.exists_mem_of_ne_nil _ hne
    obtain ⟨cluster, hcluster, address, haddress, hblank, -⟩ := mem_hosts.mp hhost
    exact ⟨cluster, hcluster, address, haddress, hblank⟩
  · rintro ⟨cluster, hcluster, address, haddress, hblank⟩
    exact List.ne_nil_of_mem (mem_hosts.mpr ⟨cluster, hcluster, address, haddress, hblank, rfl⟩)

theorem host_trimmed {flags : RuntimeFlags} {host : Text} (h : host ∈ flags.hosts) :
    host.trim = host ∧ host.isBlank = false := by
  obtain ⟨_, -, address, -, hblank, rfl⟩ := mem_hosts.mp h
  exact ⟨Text.trim_trim address, by rw [Text.isBlank_trim, hblank]⟩

theorem normalHosts_clientHosts (flags : RuntimeFlags) :
    ClientSettings.normalHosts flags.clientHosts = .ok flags.clientHosts := by
  unfold clientHosts
  split
  · rfl
  · next hhosts =>
    exact ClientSettings.normalHosts_self (by simpa using hhosts) fun host hhost => (host_trimmed hhost).symm

end RuntimeFlags

end ClusterHarness
