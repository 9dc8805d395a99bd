import Teleport.Teleterm.Daemon.Verify.Registry

/-!
# What one call changes

`SetGatewayLocalPort` deletes the old gateway under the old gateway's own URI string and stores
the new one under the caller's `gatewayURI`. Under the registry invariant the two are one key, so
every call changes the map at one key at most, and a gateway a call returns is the one stored at
that key afterwards (`call_run_changes_one_key`): no call leaves a stale entry behind or returns a
gateway the map does not hold.
-/

namespace Teleport.Teleterm.Daemon

namespace Service

variable {URI : Type} (s : Service URI)

/-- `s'` holds what `s` holds at every key but `k`. -/
def ChangesAt (s' : Service URI) (k : String) : Prop :=
  ∀ k', k' ≠ k → s'.gateways.lookup k' = s.gateways.lookup k'

theorem changesAt_refl (k : String) : s.ChangesAt s k := fun _ _ => rfl

theorem changesAt_insert (k : String) (g : Gateway URI) :
    s.ChangesAt { s with gateways := s.gateways.insert k g } k :=
  fun _ h => AList.lookup_insert_ne h

theorem changesAt_erase (k : String) : s.ChangesAt { s with gateways := s.gateways.erase k } k :=
  fun _ h => AList.lookup_erase_ne h

/-- `res` changes the map of `s` at one key at most, and a gateway it returns (as `stored` reads
the result) is the one stored at that key afterwards. -/
def ChangesOne {α : Type} (res : Except Error α × Service URI)
    (stored : α → Option (Gateway URI)) : Prop :=
  ∃ k, s.ChangesAt res.2 k ∧
    ∀ a g, res.1 = .ok a → stored a = some g → res.2.gateways.lookup k = some g

theorem changesOne_error {α : Type} (e : Error) (stored : α → Option (Gateway URI)) :
    s.ChangesOne (.error e, s) stored :=
  ⟨"", s.changesAt_refl _, fun _ _ h => by cases h⟩

theorem changesOne_insert (k : String) (g : Gateway URI) :
    s.ChangesOne (.ok g, { s with gateways := s.gateways.insert k g }) some :=
  ⟨k, s.changesAt_insert k g, fun _ _ h hg => by cases h; cases hg; exact AList.lookup_insert _⟩

/-- Mapping a call's result keeps `ChangesOne`, read through the map. -/
theorem ChangesOne.map {s : Service URI} {α β : Type} {res : Except Error α × Service URI}
    {stored : α → Option (Gateway URI)} (h : s.ChangesOne res stored) (f : α → β)
    (stored' : β → Option (Gateway URI)) (hf : ∀ a, stored' (f a) = stored a) :
    s.ChangesOne (Prod.map (Except.map f) id res) stored' := by
  obtain ⟨k, hk, hret⟩ := h
  refine ⟨k, hk, fun b g hb hg => ?_⟩
  obtain ⟨r, s'⟩ := res
  cases r with
  | error e => cases hb
  | ok a => cases hb; exact hret a g rfl ((hf a).symm.trans hg)

variable {s} (u : UriFns URI) (env : Env URI)

theorem changesOne_removeGatewayByURI (gatewayURI : String) :
    s.ChangesOne (s.removeGatewayByURI u env gatewayURI) fun _ => none := by
  unfold removeGatewayByURI removeGateway
  split
  · exact s.changesOne_error _ _
  · split
    · exact s.changesOne_error _ _
    · exact ⟨_, s.changesAt_erase _, fun _ _ _ h => by cases h⟩

theorem changesOne_setGatewayTargetSubresourceName (gatewayURI name : String) :
    s.ChangesOne (s.setGatewayTargetSubresourceName gatewayURI name) some := by
  unfold setGatewayTargetSubresourceName
  split
  · exact s.changesOne_error _ _
  · exact s.changesOne_insert _ _

/-- Under the registry invariant the old gateway's key is `gatewayURI`, so `SetGatewayLocalPort`
deletes and stores at one key. -/
theorem changesOne_setGatewayLocalPort {u : UriFns URI} (hs : s.WF u)
    (gatewayURI localPort : String) :
    s.ChangesOne (s.setGatewayLocalPort u env gatewayURI localPort) some := by
  unfold setGatewayLocalPort
  split
  · exact s.changesOne_error _ _
  · rename_i old hold
    have hfind := findGateway_eq_ok hold
    split
    · exact ⟨gatewayURI, s.changesAt_refl _, fun _ _ h hg => by cases h; cases hg; exact hfind⟩
    · split
      · exact s.changesOne_error _ _
      · cases hc : env.close old with
        | error e => simpa only [removeGateway, hc] using s.changesOne_error e some
        | ok _ =>
          simp only [removeGateway, hc, hs.keyed _ _ hfind]
          refine ⟨gatewayURI, fun k' hk' => ?_, fun _ _ h hg => by
            cases h; cases hg; exact AList.lookup_insert _⟩
          exact (AList.lookup_insert_ne hk').trans (AList.lookup_erase_ne hk')

variable [DecidableEq URI]

theorem findGatewayByTargetURI_registered {targetURI : URI} {g : Gateway URI}
    (h : s.findGatewayByTargetURI targetURI = some g) : ∃ k, s.gateways.lookup k = some g := by
  obtain ⟨⟨k, g'⟩, he, rfl⟩ := Option.map_eq_some'.mp h
  exact ⟨k, AList.mem_lookup_iff.mpr (List.mem_of_find?_eq_some he)⟩

theorem changesOne_createGateway (params : CreateGatewayParams) :
    s.ChangesOne (s.createGateway u env params) some := by
  unfold createGateway shouldReuseGateway
  split
  · exact s.changesOne_error _ _
  · split
    · rename_i g hreuse
      split at hreuse
      · obtain ⟨k, hk⟩ := findGatewayByTargetURI_registered hreuse
        exact ⟨k, s.changesAt_refl k, fun _ _ h hg => by cases h; cases hg; exact hk⟩
      · cases hreuse
    · split
      · exact s.changesOne_error _ _
      · exact s.changesOne_insert _ _

end Service

variable {URI : Type} [DecidableEq URI] {u : UriFns URI} {env : Env URI} {s : Service URI}

/-- Under the registry invariant, a call changes the gateways map at one key at most, and a
gateway it returns is the one stored at that key afterwards. -/
theorem call_run_changes_one_key (hs : s.WF u) (c : Call) :
    ∃ k, s.ChangesAt (c.run u env s).2 k ∧
      ∀ g, (c.run u env s).1 = .ok (some g) → (c.run u env s).2.gateways.lookup k = some g := by
  have hone : s.ChangesOne (c.run u env s) id := by
    cases c with
    | createGateway params =>
      exact (s.changesOne_createGateway u env params).map some id fun _ => rfl
    | removeGateway gatewayURI =>
      exact (s.changesOne_removeGatewayByURI u env gatewayURI).map _ id fun _ => rfl
    | setGatewayLocalPort gatewayURI localPort =>
      exact (Service.changesOne_setGatewayLocalPort env hs gatewayURI localPort).map some id
        fun _ => rfl
    | setGatewayTargetSubresourceName gatewayURI name =>
      exact (s.changesOne_setGatewayTargetSubresourceName gatewayURI name).map some id
        fun _ => rfl
    | stop => exact ⟨"", s.changesAt_refl _, fun _ _ h hg => by cases h; cases hg⟩
  obtain ⟨k, hk, hret⟩ := hone
  exact ⟨k, hk, fun g h => hret _ g h rfl⟩

/-- `SetGatewayLocalPort` of the registered kube gateway to port 2, which deletes the key of the
old gateway's URI and stores the new gateway under the caller's URI. -/
theorem setGatewayLocalPort_changes_one_key :
    kubeRegistered.WF pathUri ∧
      ∃ k, kubeRegistered.ChangesAt
          ((Call.setGatewayLocalPort "/gateways/1" "2").run pathUri faithfulEnv
            kubeRegistered).2 k ∧
        ∀ g, ((Call.setGatewayLocalPort "/gateways/1" "2").run pathUri faithfulEnv
            kubeRegistered).1 = .ok (some g) →
          ((Call.setGatewayLocalPort "/gateways/1" "2").run pathUri faithfulEnv
            kubeRegistered).2.gateways.lookup k = some g :=
  ⟨kubeRegistered_reachable.wf, call_run_changes_one_key kubeRegistered_reachable.wf _⟩

end Teleport.Teleterm.Daemon
