import Teleport.Teleterm.Daemon.Gateways

/-!
# The gateway registry's invariant

`Service.WF`: every key of `gateways` is the URI string of the gateway stored under it, and no
two keys hold gateways with one kube target. Each method keeps it, given a contract on its
collaborators (`Env.Faithful`), so it holds of every service reachable from `New`
(`reachable_registry`), and `CreateGateway` for a kube target then returns the gateway already
registered for it. The freshness of created URIs and the URIs kept by `NewWithLocalPort` are not
enough: a creator that returns a gateway for another target than the one asked for can register
two gateways for one kube cluster (`registry_needs_created_targets`).
-/

namespace Teleport.Teleterm.Daemon

variable {URI : Type} (u : UriFns URI)

theorem lookup_insert_eq_some {m : AList fun _ : String => Gateway URI} {k k' : String}
    {g g' : Gateway URI} :
    (m.insert k g).lookup k' = some g' ↔ (k' = k ∧ g = g') ∨ (k' ≠ k ∧ m.lookup k' = some g') := by
  by_cases h : k' = k
  · subst h
    simp [AList.lookup_insert]
  · simp [AList.lookup_insert_ne h, h]

/-- The registry invariant. -/
structure Service.WF (s : Service URI) : Prop where
  keyed : ∀ k g, s.gateways.lookup k = some g → u.string g.uri = k
  kubeUnique : ∀ k₁ k₂ g₁ g₂, s.gateways.lookup k₁ = some g₁ → s.gateways.lookup k₂ = some g₂ →
    u.isKube g₁.targetURI = true → g₁.targetURI = g₂.targetURI → k₁ = k₂

/-- The contract of one call's collaborators on the service it runs on: the creator returns a
gateway whose URI is not yet a key, and `NewWithLocalPort` keeps the old gateway's URI and
target. -/
structure Env.Assumed (env : Env URI) (s : Service URI) : Prop where
  fresh : ∀ p g, env.createGateway p = .ok g → s.gateways.lookup (u.string g.uri) = none
  newWithLocalPort_keeps : ∀ old port g, env.newWithLocalPort old port = .ok g →
    g.uri = old.uri ∧ g.targetURI = old.targetURI

/-- `Env.Assumed`, and a created gateway targets the URI it was created for. -/
structure Env.Faithful (env : Env URI) (s : Service URI) extends Env.Assumed u env s : Prop where
  targets : ∀ p g, env.createGateway p = .ok g → g.targetURI = p.targetURI

/-- The services reachable from `New` by calls whose collaborators satisfy `P`. -/
inductive Reachable [DecidableEq URI] (P : Env URI → Service URI → Prop) : Service URI → Prop
  | new (kubeconfigsDir : String) : Reachable P (Service.new kubeconfigsDir)
  | step {s : Service URI} {env : Env URI} (c : Call) :
    Reachable P s → P env s → Reachable P (c.run u env s).2

namespace Service

variable {u} {s : Service URI}

theorem findGateway_eq_ok {gatewayURI : String} {g : Gateway URI}
    (h : s.findGateway gatewayURI = .ok g) : s.gateways.lookup gatewayURI = some g := by
  unfold findGateway at h
  split at h <;> cases h
  assumption

protected theorem WF.new (kubeconfigsDir : String) :
    (Service.new kubeconfigsDir : Service URI).WF u :=
  ⟨fun _ _ h => (by cases h), fun _ _ _ _ h => (by cases h)⟩

theorem WF.erase (hs : s.WF u) (k : String) : ({ s with gateways := s.gateways.erase k }).WF u := by
  have hsub : ∀ {k' g}, (s.gateways.erase k).lookup k' = some g → s.gateways.lookup k' = some g :=
    fun {k'} _ h => by
      by_cases hk : k' = k
      · rw [hk, AList.lookup_erase] at h
        cases h
      · rwa [AList.lookup_erase_ne hk] at h
  exact ⟨fun k' g h => hs.keyed k' g (hsub h),
    fun k₁ k₂ g₁ g₂ h₁ h₂ => hs.kubeUnique k₁ k₂ g₁ g₂ (hsub h₁) (hsub h₂)⟩

/-- Storing `g` under its own URI string keeps the invariant when no other key holds a gateway
with `g`'s target, if that target is a kube cluster. -/
theorem WF.insert (hs : s.WF u) {k : String} {g : Gateway URI} (hk : u.string g.uri = k)
    (huniq : u.isKube g.targetURI = true →
      ∀ k' g', s.gateways.lookup k' = some g' → g'.targetURI = g.targetURI → k' = k) :
    ({ s with gateways := s.gateways.insert k g }).WF u := by
  refine ⟨fun k' g' h => ?_, fun k₁ k₂ g₁ g₂ h₁ h₂ hkube ht => ?_⟩
  · rcases lookup_insert_eq_some.mp h with ⟨rfl, rfl⟩ | ⟨-, h⟩
    · exact hk
    · exact hs.keyed k' g' h
  · rcases lookup_insert_eq_some.mp h₁ with ⟨rfl, rfl⟩ | ⟨-, h₁'⟩ <;>
      rcases lookup_insert_eq_some.mp h₂ with ⟨rfl, rfl⟩ | ⟨-, h₂'⟩
    · rfl
    · exact (huniq hkube k₂ g₂ h₂' ht.symm).symm
    · exact huniq (ht ▸ hkube) k₁ g₁ h₁' ht
    · exact hs.kubeUnique k₁ k₂ g₁ g₂ h₁' h₂' hkube ht

/-! ## Each method keeps the invariant -/

variable {env : Env URI}

theorem WF.removeGateway (hs : s.WF u) (g : Gateway URI) : (s.removeGateway u env g).2.WF u := by
  unfold Service.removeGateway
  split
  · exact hs
  · exact hs.erase _

theorem WF.removeGatewayByURI (hs : s.WF u) (gatewayURI : String) :
    (s.removeGatewayByURI u env gatewayURI).2.WF u := by
  unfold Service.removeGatewayByURI
  split
  · exact hs
  · exact hs.removeGateway _

theorem WF.setGatewayTargetSubresourceName (hs : s.WF u) (gatewayURI name : String) :
    (s.setGatewayTargetSubresourceName gatewayURI name).2.WF u := by
  unfold Service.setGatewayTargetSubresourceName
  split
  · exact hs
  · rename_i g hg
    have hfind := findGateway_eq_ok hg
    exact hs.insert (hs.keyed _ g hfind) fun hkube k' g' h' ht' =>
      (hs.kubeUnique _ _ _ _ hfind h' hkube ht'.symm).symm

theorem WF.setGatewayLocalPort (hs : s.WF u) (henv : Env.Assumed u env s)
    (gatewayURI localPort : String) :
    (s.setGatewayLocalPort u env gatewayURI localPort).2.WF u := by
  unfold Service.setGatewayLocalPort
  split
  · exact hs
  · rename_i old hold
    have hfind := findGateway_eq_ok hold
    split
    · exact hs
    · split
      · exact hs
      · rename_i new hnew
        obtain ⟨huri, htarget⟩ := henv.newWithLocalPort_keeps _ _ _ hnew
        cases hc : env.close old with
        | error e => simpa [Service.removeGateway, hc] using hs
        | ok _ =>
          simp only [Service.removeGateway, hc]
          refine (hs.erase _).insert (huri ▸ hs.keyed _ _ hfind) fun hkube k' g' h' ht' => ?_
          have h'' : s.gateways.lookup k' = some g' := by
            by_cases hk : k' = u.string old.uri
            · rw [hk, AList.lookup_erase] at h'
              cases h'
            · rwa [AList.lookup_erase_ne hk] at h'
          exact (hs.kubeUnique _ _ _ _ hfind h'' (htarget ▸ hkube) (ht'.trans htarget).symm).symm

variable [DecidableEq URI]

theorem findGatewayByTargetURI_eq_none {targetURI : URI}
    (h : s.findGatewayByTargetURI targetURI = none) {k : String} {g : Gateway URI}
    (hg : s.gateways.lookup k = some g) : g.targetURI ≠ targetURI := by
  have := List.find?_eq_none.mp (Option.map_eq_none'.mp h) _ (AList.mem_lookup_iff.mp hg)
  simpa using this

/-- Under the invariant, a gateway registered for a kube target is the one the range loop finds. -/
theorem WF.findGatewayByTargetURI_eq (hs : s.WF u) {k : String} {g : Gateway URI}
    (hg : s.gateways.lookup k = some g) (hkube : u.isKube g.targetURI = true) :
    s.findGatewayByTargetURI g.targetURI = some g := by
  have hsome : (s.gateways.entries.find? fun e => e.2.targetURI = g.targetURI).isSome :=
    List.find?_isSome.mpr ⟨⟨k, g⟩, AList.mem_lookup_iff.mp hg, by simp⟩
  obtain ⟨⟨k', g'⟩, he⟩ := Option.isSome_iff_exists.mp hsome
  have ht : g'.targetURI = g.targetURI := by simpa using List.find?_some he
  have hg' : s.gateways.lookup k' = some g' :=
    AList.mem_lookup_iff.mpr (List.mem_of_find?_eq_some he)
  obtain rfl := hs.kubeUnique k k' g g' hg hg' hkube ht.symm
  rw [findGatewayByTargetURI, he]
  exact hg'.symm.trans hg

theorem WF.createGateway (hs : s.WF u) (henv : Env.Faithful u env s)
    (params : CreateGatewayParams) : (s.createGateway u env params).2.WF u := by
  unfold Service.createGateway
  split
  · exact hs
  · rename_i targetURI _
    split
    · exact hs
    · rename_i hreuse
      split
      · exact hs
      · rename_i g hg
        have ht : g.targetURI = targetURI := henv.targets _ g hg
        refine hs.insert rfl fun hkube k' g' h' ht' => ?_
        have hnone : s.findGatewayByTargetURI targetURI = none := by
          simpa [shouldReuseGateway, ← ht, hkube] using hreuse
        exact absurd (ht' ▸ ht) (findGatewayByTargetURI_eq_none hnone h')

end Service

variable {u} [DecidableEq URI]

theorem Service.WF.run {s : Service URI} {env : Env URI} (hs : s.WF u) (henv : Env.Faithful u env s)
    (c : Call) : (c.run u env s).2.WF u := by
  cases c with
  | createGateway params => exact hs.createGateway henv params
  | removeGateway gatewayURI => exact hs.removeGatewayByURI gatewayURI
  | setGatewayLocalPort gatewayURI localPort =>
    exact hs.setGatewayLocalPort henv.toAssumed gatewayURI localPort
  | setGatewayTargetSubresourceName gatewayURI name =>
    exact hs.setGatewayTargetSubresourceName gatewayURI name
  | stop => exact hs

/-- Every service reachable by calls whose collaborators are faithful keeps the invariant. -/
theorem Reachable.wf {s : Service URI} (h : Reachable u (Env.Faithful u) s) : s.WF u := by
  induction h with
  | new kubeconfigsDir => exact Service.WF.new kubeconfigsDir
  | step c _ henv ih => exact ih.run henv c

/-- On every service reachable with faithful collaborators the invariant holds, and
`CreateGateway` for a kube target already registered returns its gateway and changes nothing. -/
theorem reachable_registry {s : Service URI} (h : Reachable u (Env.Faithful u) s) :
    s.WF u ∧ ∀ (env : Env URI) (params : CreateGatewayParams) (k : String) (g : Gateway URI),
      u.parseGatewayTargetURI params.targetURI = .ok g.targetURI → u.isKube g.targetURI = true →
      s.gateways.lookup k = some g → s.createGateway u env params = (.ok g, s) := by
  have hs := h.wf
  refine ⟨hs, fun env params k g hparse hkube hg => ?_⟩
  simp [Service.createGateway, hparse, Service.shouldReuseGateway, hkube,
    hs.findGatewayByTargetURI_eq hg hkube]

/-- A package `uri` over path strings whose one kube target is `/clusters/c/kubes/k`. -/
def pathUri : UriFns String :=
  ⟨id, fun path => decide (path = "/clusters/c/kubes/k"), .ok⟩

/-- Collaborators that open `/gateways/1` on the target and port asked for, move a gateway to
any port, and close without error. -/
def faithfulEnv : Env String :=
  ⟨fun p => .ok ⟨"/gateways/1", p.targetURI, p.localPort, p.targetSubresourceName⟩,
    fun old port => .ok { old with localPort := port }, fun _ => .ok ()⟩

/-- `New`, then `CreateGateway` for the kube cluster `/clusters/c/kubes/k` on port 1. -/
def kubeRegistered : Service String :=
  ((Call.createGateway ⟨"/clusters/c/kubes/k", "", "", "1"⟩).run pathUri faithfulEnv
    (Service.new "")).2

theorem kubeRegistered_reachable : Reachable pathUri (Env.Faithful pathUri) kubeRegistered :=
  .step _ (.new "")
    ⟨⟨fun _ _ h => by cases h; rfl, fun _ _ _ h => by cases h; exact ⟨rfl, rfl⟩⟩,
      fun _ _ h => by cases h; rfl⟩

theorem kube_registry :
    Reachable pathUri (Env.Faithful pathUri) kubeRegistered ∧ kubeRegistered.WF pathUri ∧
      kubeRegistered.createGateway pathUri faithfulEnv ⟨"/clusters/c/kubes/k", "", "", "2"⟩ =
        (.ok ⟨"/gateways/1", "/clusters/c/kubes/k", "1", ""⟩, kubeRegistered) :=
  ⟨kubeRegistered_reachable, (reachable_registry kubeRegistered_reachable).1,
    (reachable_registry kubeRegistered_reachable).2 _ _ "/gateways/1" _ rfl (by decide) rfl⟩

/-- Collaborators whose creator returns `g`, whatever it was asked for. -/
def createsEnv (g : Gateway String) : Env String :=
  ⟨fun _ => .ok g, fun _ _ => .error (.other "port unavailable"), fun _ => .ok ()⟩

theorem registry_needs_created_targets :
    ¬ ∀ s : Service String, Reachable pathUri (Env.Assumed pathUri) s → s.WF pathUri := by
  intro h
  let kube : Gateway String := ⟨"/gateways/1", "/clusters/c/kubes/k", "1", ""⟩
  let kube' : Gateway String := ⟨"/gateways/2", "/clusters/c/kubes/k", "2", ""⟩
  let create : Call := .createGateway ⟨"/clusters/c/dbs/d", "", "", ""⟩
  have h₁ : Reachable pathUri (Env.Assumed pathUri)
      (create.run pathUri (createsEnv kube) (Service.new "")).2 :=
    .step create (.new "")
      (⟨fun _ _ h => by cases h; rfl, fun _ _ _ h => by cases h⟩ :
        Env.Assumed pathUri (createsEnv kube) (Service.new ""))
  have h₂ := h _ (.step create h₁
    (⟨fun _ _ h => by cases h; decide, fun _ _ _ h => by cases h⟩ :
      Env.Assumed pathUri (createsEnv kube')
        (create.run pathUri (createsEnv kube) (Service.new "")).2))
  exact absurd
    (h₂.kubeUnique "/gateways/1" "/gateways/2" kube kube' (by decide) (by decide) rfl rfl)
    (by decide)

end Teleport.Teleterm.Daemon
