import Teleport.Teleterm.Daemon.Lifecycle
import Teleport.Teleterm.Daemon.Verify.Registry

/-!
# No gateway leaks

`Objects.Owned`: the open gateway objects are exactly what `ListGateways` lists, each once, and
each gateway is stored under its own URI string. Every method keeps it, with no assumption on
`Close`, except `SetGatewayLocalPort` to another port when `Close` fails on the old gateway and
then on the new one: the new gateway then serves with no key in the map, so no later call can
close it (`run_owned_iff`). The `Close` of the new gateway after a failed `removeGateway` is what
keeps a single failing `Close` from leaking it.

So with a `Close` that returns no error on an open gateway, every run of calls from `New` keeps
`Owned`, and `Stop` then leaves open exactly the gateways whose `Close` fails, so none when each
`Close` returns no error (`reachable_owned`). Every run of the objects model is also a run of the
map model (`reachable_svc`, from the step `Objects.run_svc`), so the results of `Verify.Registry`
and `Verify.Frame` hold of it too.
-/

namespace Teleport.Teleterm.Daemon

variable {URI : Type} (u : UriFns URI)

/-! ## The map's gateways -/

section ListGateways

variable {s : Service URI}

theorem listGateways_erase_of_lookup {k : String} {g : Gateway URI}
    (h : s.gateways.lookup k = some g) :
    s.listGateways.Perm
      (g :: ({ s with gateways := s.gateways.erase k } : Service URI).listGateways) := by
  have hmem := AList.mem_lookup_iff.mp h
  obtain ⟨b, l₁, l₂, -, heq, herase⟩ := List.exists_of_kerase (List.mem_keys_of_mem hmem)
  have hb : b = g := s.gateways.nodupKeys.eq_of_mk_mem (by simp [heq]) hmem
  subst hb
  show (s.gateways.entries.map Sigma.snd).Perm (b :: (s.gateways.entries.kerase k).map Sigma.snd)
  rw [herase, heq, List.map_append, List.map_cons, List.map_append]
  exact List.perm_middle

theorem listGateways_erase_of_lookup_none {k : String} (h : s.gateways.lookup k = none) :
    ({ s with gateways := s.gateways.erase k } : Service URI).listGateways = s.listGateways := by
  show (s.gateways.entries.kerase k).map Sigma.snd = s.gateways.entries.map Sigma.snd
  rw [List.kerase_of_not_mem_keys (AList.lookup_eq_none.mp h)]

@[simp] theorem listGateways_insert (k : String) (g : Gateway URI) :
    ({ s with gateways := s.gateways.insert k g } : Service URI).listGateways =
      g :: ({ s with gateways := s.gateways.erase k } : Service URI).listGateways := rfl

/-- Erasing a key before storing under it changes nothing. -/
theorem insert_erase_eq (m : AList fun _ : String => Gateway URI) (k : String) (g : Gateway URI) :
    (m.erase k).insert k g = m.insert k g :=
  AList.ext (congrArg (List.cons _)
    (List.kerase_of_not_mem_keys (AList.lookup_eq_none.mp (AList.lookup_erase k m))))

end ListGateways

/-- Replacing the first `a` of a list that holds it is erasing it and adding `b`. -/
theorem List.replace_perm {α : Type} [DecidableEq α] {a b : α} :
    ∀ {l : List α}, a ∈ l → (l.replace a b).Perm (b :: l.erase a)
  | [], h => absurd h (List.not_mem_nil a)
  | x :: l, h => by
    by_cases hx : x = a
    · subst hx; simp
    · have hl : a ∈ l := (List.mem_cons.mp h).resolve_left (Ne.symm hx)
      rw [List.replace_cons, beq_eq_false_iff_ne.mpr (Ne.symm hx),
        List.erase_cons_tail (by simpa using hx)]
      exact ((List.replace_perm hl).cons x).trans (List.Perm.swap b x _)

/-- Adding `b` in front, then erasing an `a` the list holds, is erasing `a` then adding `b`. -/
theorem List.erase_cons_perm {α : Type} [DecidableEq α] {a b : α} {l : List α} (h : a ∈ l) :
    ((b :: l).erase a).Perm (b :: l.erase a) := by
  by_cases hb : b = a
  · subst hb; simpa using List.perm_cons_erase h
  · rw [List.erase_cons_tail (by simpa using hb)]

/-! ## The invariant, method by method -/

/-- The open gateways are exactly the gateways in the map, each once, and each gateway is stored
under its own URI string. -/
structure Objects.Owned (o : Objects URI) : Prop where
  keyed : ∀ k g, o.svc.gateways.lookup k = some g → u.string g.uri = k
  perm : o.opened.Perm o.svc.listGateways

namespace Objects

variable {u} {env : Env URI} {o : Objects URI}

/-- `New` opens no gateway. -/
theorem Owned.new (kubeconfigsDir : String) :
    (⟨Service.new kubeconfigsDir, []⟩ : Objects URI).Owned u :=
  ⟨fun _ _ h => (nomatch h), List.Perm.nil⟩

/-- Two lists of open gateways that differ by one gateway are not both the map's. -/
theorem Owned.not_cons (ho : o.Owned u) (g : Gateway URI) :
    ¬ (⟨o.svc, g :: o.opened⟩ : Objects URI).Owned u := fun h =>
  absurd (h.perm.trans ho.perm.symm).length_eq (by simp)

/-- Each open gateway is open once: two keys of the map hold two gateways with two URIs. -/
theorem Owned.nodup (ho : o.Owned u) : o.opened.Nodup := by
  refine ho.perm.nodup_iff.mpr (o.svc.gateways.nodupKeys.nodup.map_on fun x hx y hy hxy => ?_)
  have hk : x.1 = y.1 := by
    rw [← ho.keyed x.1 x.2 (AList.mem_lookup_iff.mpr hx),
      ← ho.keyed y.1 y.2 (AList.mem_lookup_iff.mpr hy), hxy]
  exact Sigma.ext hk (heq_of_eq hxy)

theorem Owned.mem_opened (ho : o.Owned u) {k : String} {g : Gateway URI}
    (h : o.svc.gateways.lookup k = some g) : g ∈ o.opened :=
  ho.perm.symm.subset ((listGateways_erase_of_lookup h).symm.subset (List.mem_cons_self g _))

/-- Storing `g` under its URI string `k`, a key the map does not hold, and opening it. -/
theorem Owned.insert (ho : o.Owned u) {k : String} {g : Gateway URI} (hk : u.string g.uri = k)
    (hnone : o.svc.gateways.lookup k = none) {opened : List (Gateway URI)}
    (hopened : opened.Perm (g :: o.opened)) :
    Owned u ⟨{ o.svc with gateways := o.svc.gateways.insert k g }, opened⟩ := by
  refine ⟨fun k' g' h' => ?_, ?_⟩
  · rcases lookup_insert_eq_some.mp h' with ⟨rfl, rfl⟩ | ⟨-, h'⟩
    · exact hk
    · exact ho.keyed k' g' h'
  · rw [listGateways_insert, listGateways_erase_of_lookup_none hnone]
    exact hopened.trans (ho.perm.cons g)

variable [DecidableEq URI]

theorem Owned.erase (ho : o.Owned u) {k : String} {g : Gateway URI}
    (h : o.svc.gateways.lookup k = some g) :
    Owned u ⟨{ o.svc with gateways := o.svc.gateways.erase k }, o.opened.erase g⟩ := by
  refine ⟨fun k' g' h' => ho.keyed k' g' ?_, ?_⟩
  · by_cases hk : k' = k
    · subst hk; simp at h'
    · rwa [AList.lookup_erase_ne hk] at h'
  · simpa using (ho.perm.erase g).trans ((listGateways_erase_of_lookup h).erase g)

/-- Storing `g` under its URI string `k` in place of the gateway `old` there, and opening it in
`old`'s place. -/
theorem Owned.replace (ho : o.Owned u) {k : String} {old g : Gateway URI}
    (h : o.svc.gateways.lookup k = some old) (hk : u.string g.uri = k) {opened : List (Gateway URI)}
    (hopened : opened.Perm (g :: o.opened.erase old)) :
    Owned u ⟨{ o.svc with gateways := o.svc.gateways.insert k g }, opened⟩ := by
  rw [← insert_erase_eq]
  exact (ho.erase h).insert hk (AList.lookup_erase k _) hopened

theorem Owned.removeGatewayByURI (ho : o.Owned u) (gatewayURI : String) :
    (o.run u env (.removeGateway gatewayURI)).2.Owned u := by
  simp only [Objects.run, Call.run, Service.removeGatewayByURI, Opened.run,
    Opened.removeGatewayByURI]
  cases hg : o.svc.findGateway gatewayURI with
  | error e => exact ho
  | ok g =>
    have h := Service.findGateway_eq_ok hg
    simp only [Service.removeGateway, Opened.close]
    cases env.close g with
    | error e => exact ho
    | ok _ => exact ho.keyed _ g h ▸ ho.erase h

theorem Owned.createGateway (ho : o.Owned u) (henv : Env.Assumed u env o.svc)
    (params : CreateGatewayParams) : (o.run u env (.createGateway params)).2.Owned u := by
  simp only [Objects.run, Call.run, Service.createGateway, Opened.run, Opened.createGateway]
  cases u.parseGatewayTargetURI params.targetURI with
  | error e => exact ho
  | ok targetURI =>
  dsimp only
  cases o.svc.shouldReuseGateway u targetURI with
  | some g => exact ho
  | none =>
  dsimp only
  cases hg : env.createGateway ⟨targetURI, params.targetUser, params.targetSubresourceName,
    params.localPort, o.svc.kubeconfigsDir⟩ with
  | error e => exact ho
  | ok g => exact ho.insert rfl (henv.fresh _ g hg) (List.Perm.refl _)

theorem Owned.setGatewayTargetSubresourceName (ho : o.Owned u) (gatewayURI name : String) :
    (o.run u env (.setGatewayTargetSubresourceName gatewayURI name)).2.Owned u := by
  simp only [Objects.run, Call.run, Service.setGatewayTargetSubresourceName, Opened.run,
    Opened.setGatewayTargetSubresourceName]
  cases hg : o.svc.findGateway gatewayURI with
  | error e => exact ho
  | ok g =>
    have h := Service.findGateway_eq_ok hg
    exact ho.replace (g := { g with targetSubresourceName := name }) h (ho.keyed _ g h)
      (List.replace_perm (ho.mem_opened h))

/-- `SetGatewayLocalPort` to another port whose `Close` fails on the old gateway and then on the
new one leaves the map as it was and the new gateway open. -/
theorem setGatewayLocalPort_leak {gatewayURI localPort : String} {old new : Gateway URI}
    {e e' : Error} (hold : o.svc.gateways.lookup gatewayURI = some old)
    (hport : localPort ≠ old.localPort) (hnew : env.newWithLocalPort old localPort = .ok new)
    (he : env.close old = .error e) (he' : env.close new = .error e') :
    o.run u env (.setGatewayLocalPort gatewayURI localPort) =
      (.error e, ⟨o.svc, new :: o.opened⟩) := by
  simp [Objects.run, Call.run, Service.setGatewayLocalPort, Opened.run,
    Opened.setGatewayLocalPort, Service.findGateway, hold, hport, hnew, Service.removeGateway,
    Opened.close, he, he', Except.map]

/-- `SetGatewayLocalPort` keeps the invariant unless it moves to another port and `Close` fails
on the old gateway and then on the new one, which then serves with no key in the map. -/
theorem Owned.setGatewayLocalPort (ho : o.Owned u) (henv : Env.Assumed u env o.svc)
    (gatewayURI localPort : String) :
    (o.run u env (.setGatewayLocalPort gatewayURI localPort)).2.Owned u ∨
      ∃ old new, o.svc.gateways.lookup gatewayURI = some old ∧ localPort ≠ old.localPort ∧
        env.newWithLocalPort old localPort = .ok new ∧
        (∃ e, env.close old = .error e) ∧ ∃ e, env.close new = .error e := by
  simp only [Objects.run, Call.run, Service.setGatewayLocalPort, Opened.run,
    Opened.setGatewayLocalPort]
  cases hold : o.svc.findGateway gatewayURI with
  | error e => exact .inl ho
  | ok old =>
  have h := Service.findGateway_eq_ok hold
  by_cases hport : localPort = old.localPort
  · simp only [if_pos hport]; exact .inl ho
  simp only [if_neg hport]
  cases hnew : env.newWithLocalPort old localPort with
  | error e => exact .inl ho
  | ok new =>
  dsimp only
  have hk : u.string new.uri = gatewayURI := by
    rw [(henv.newWithLocalPort_keeps _ _ _ hnew).1]; exact ho.keyed _ old h
  simp only [Service.removeGateway, Opened.close]
  cases hold' : env.close old with
  | ok _ =>
    refine .inl ?_
    rw [ho.keyed _ old h]
    exact (ho.erase h).insert hk (AList.lookup_erase _ _) (List.erase_cons_perm (ho.mem_opened h))
  | error e =>
    cases hclose : env.close new with
    | ok _ => exact .inl (by simpa only [List.erase_cons_head] using ho)
    | error e' => exact .inr ⟨old, new, h, hport, hnew, ⟨e, hold'⟩, e', hclose⟩

/-- Every call but `Stop` keeps the invariant, whatever `Close` returns, except a
`SetGatewayLocalPort` to another port whose `Close` fails on the old gateway and then on the new
one. -/
theorem Owned.run (ho : o.Owned u) (henv : Env.Assumed u env o.svc) (c : Call) (hc : c ≠ .stop) :
    (o.run u env c).2.Owned u ∨
      ∃ gatewayURI localPort old new, c = .setGatewayLocalPort gatewayURI localPort ∧
        o.svc.gateways.lookup gatewayURI = some old ∧ localPort ≠ old.localPort ∧
        env.newWithLocalPort old localPort = .ok new ∧
        (∃ e, env.close old = .error e) ∧ ∃ e, env.close new = .error e := by
  cases c with
  | createGateway params => exact .inl (ho.createGateway henv params)
  | removeGateway gatewayURI => exact .inl (ho.removeGatewayByURI gatewayURI)
  | setGatewayLocalPort gatewayURI localPort =>
    rcases ho.setGatewayLocalPort henv gatewayURI localPort with h | ⟨old, new, h⟩
    · exact .inl h
    · exact .inr ⟨gatewayURI, localPort, old, new, rfl, h⟩
  | setGatewayTargetSubresourceName gatewayURI name =>
    exact .inl (ho.setGatewayTargetSubresourceName gatewayURI name)
  | stop => exact absurd rfl hc

/-- A call other than `Stop` breaks the invariant exactly when it is a `SetGatewayLocalPort` to
another port whose `Close` fails on the old gateway and then on the new one: the new gateway then
serves with no key in the map, and no later call closes it. -/
theorem run_owned_iff (ho : o.Owned u) (henv : Env.Assumed u env o.svc) (c : Call)
    (hc : c ≠ .stop) :
    (o.run u env c).2.Owned u ↔
      ¬ ∃ gatewayURI localPort old new, c = .setGatewayLocalPort gatewayURI localPort ∧
        o.svc.gateways.lookup gatewayURI = some old ∧ localPort ≠ old.localPort ∧
        env.newWithLocalPort old localPort = .ok new ∧
        (∃ e, env.close old = .error e) ∧ ∃ e, env.close new = .error e := by
  refine ⟨?_, (ho.run henv c hc).resolve_right⟩
  rintro h ⟨gatewayURI, localPort, old, new, rfl, hold, hport, hnew, ⟨e, he⟩, e', he'⟩
  rw [setGatewayLocalPort_leak hold hport hnew he he'] at h
  exact ho.not_cons new h

/-- A database gateway on port 1. -/
def dbGateway : Gateway String := ⟨"/gateways/1", "/clusters/c/dbs/d", "1", ""⟩

/-- A new service after `CreateGateway` has opened `dbGateway`. -/
def dbOpen : Objects String :=
  ((⟨Service.new "", []⟩ : Objects String).run pathUri (createsEnv dbGateway)
    (.createGateway ⟨"/clusters/c/dbs/d", "", "", "1"⟩)).2

/-- Collaborators that move a gateway to any port and whose `Close` always fails. -/
def closeFailsEnv : Env String :=
  ⟨fun _ => .error (.other "no creator"), fun old port => .ok { old with localPort := port },
    fun _ => .error (.other "close failed")⟩

theorem dbOpen_owned : dbOpen.Owned pathUri :=
  (Owned.new "").createGateway
    (⟨fun _ _ h => by cases h; rfl, fun _ _ _ h => (by cases h)⟩ :
      Env.Assumed pathUri (createsEnv dbGateway) (Service.new ""))
    ⟨"/clusters/c/dbs/d", "", "", "1"⟩

theorem set_port_close_fails_leaks :
    ¬ (dbOpen.run pathUri closeFailsEnv (.setGatewayLocalPort "/gateways/1" "2")).2.Owned pathUri :=
  fun h => (run_owned_iff dbOpen_owned
    ⟨fun _ _ h => (by cases h), fun _ _ _ h => by cases h; exact ⟨rfl, rfl⟩⟩ _ (by decide)).mp h
    ⟨"/gateways/1", "2", dbGateway, { dbGateway with localPort := "2" }, rfl, rfl, by decide, rfl,
      ⟨_, rfl⟩, _, rfl⟩

/-- `Close` closes the gateway when it returns no error: the others stay open. -/
theorem close_nodup {opened : List (Gateway URI)} (hnd : opened.Nodup) (a : Gateway URI) :
    (Opened.close env opened a).2.Nodup := by
  unfold Opened.close
  cases env.close a
  · exact hnd
  · exact hnd.erase a

theorem mem_close {opened : List (Gateway URI)} (hnd : opened.Nodup) (a g : Gateway URI) :
    g ∈ (Opened.close env opened a).2 ↔ g ∈ opened ∧ (g = a → ∃ e, env.close g = .error e) := by
  unfold Opened.close
  by_cases hg : g = a
  · subst hg
    cases env.close g <;> simp [hnd.mem_erase_iff]
  · cases env.close a <;> simp [hg, hnd.mem_erase_iff]

/-- `Stop` closes the map's gateways in turn: an open gateway stays open exactly when it is not
in the map or its `Close` fails. -/
theorem mem_stop_fold {entries : List (Σ _ : String, Gateway URI)} :
    ∀ {opened : List (Gateway URI)}, opened.Nodup → ∀ g,
      g ∈ entries.foldl (fun opened e => (Opened.close env opened e.2).2) opened ↔
        g ∈ opened ∧ (g ∈ entries.map Sigma.snd → ∃ e, env.close g = .error e) := by
  induction entries with
  | nil => simp
  | cons e entries ih =>
    intro opened hnd g
    rw [List.foldl_cons, ih (close_nodup hnd e.2), mem_close hnd, List.map_cons, List.mem_cons,
      or_imp, and_assoc]

/-- `Stop` leaves open exactly the open gateways whose `Close` fails. -/
theorem Owned.mem_stop (ho : o.Owned u) (g : Gateway URI) :
    g ∈ Opened.stop env o.svc o.opened ↔ g ∈ o.opened ∧ ∃ e, env.close g = .error e :=
  (mem_stop_fold ho.nodup g).trans
    (and_congr_right fun hg => ⟨fun h => h (ho.perm.subset hg), fun h _ => h⟩)

end Objects

/-! ## Every run -/

variable [DecidableEq URI]

/-- The collaborators of one call: as `Env.Assumed`, and a `Close` that returns no error on a
gateway that is open. -/
structure Env.Closing (env : Env URI) (o : Objects URI) : Prop where
  assumed : Env.Assumed u env o.svc
  close_open : ∀ g ∈ o.opened, env.close g = .ok ()

/-- The objects reachable from `New` by calls other than `Stop` whose collaborators satisfy
`P`. -/
inductive Objects.Reachable (P : Env URI → Objects URI → Prop) : Objects URI → Prop
  | new (kubeconfigsDir : String) : Objects.Reachable P ⟨Service.new kubeconfigsDir, []⟩
  | step {o : Objects URI} {env : Env URI} (c : Call) (hc : c ≠ .stop) :
    Objects.Reachable P o → P env o → Objects.Reachable P (o.run u env c).2

theorem dbOpen_reachable : Objects.Reachable pathUri (Env.Closing pathUri) Objects.dbOpen :=
  .step (.createGateway ⟨"/clusters/c/dbs/d", "", "", "1"⟩) (by decide) (.new "")
    ⟨⟨fun _ _ h => by cases h; rfl, fun _ _ _ h => (by cases h)⟩, fun _ h => (nomatch h)⟩

/-- Every run of the objects model is a run of the map model: the map of each state it reaches is
reached by `Call.run`, under collaborators that satisfy `Q` whenever they satisfy `P`. So every
result about the reachable maps holds of the objects model. -/
theorem reachable_svc {P : Env URI → Objects URI → Prop} {Q : Env URI → Service URI → Prop}
    (hPQ : ∀ env o, P env o → Q env o.svc) {o : Objects URI} (h : Objects.Reachable u P o) :
    Reachable u Q o.svc := by
  induction h with
  | new kubeconfigsDir => exact .new kubeconfigsDir
  | @step o env c _ _ hP ih =>
    rw [Objects.run_svc]
    exact .step c ih (hPQ env o hP)

theorem dbOpen_svc_reachable : Reachable pathUri (Env.Assumed pathUri) Objects.dbOpen.svc :=
  reachable_svc pathUri (fun _ _ h => h.assumed) dbOpen_reachable

theorem Objects.Reachable.owned {o : Objects URI} (h : Objects.Reachable u (Env.Closing u) o) :
    o.Owned u := by
  induction h with
  | new kubeconfigsDir => exact Objects.Owned.new kubeconfigsDir
  | @step o env c hc _ henv ho =>
    rcases ho.run henv.assumed c hc with h | ⟨_, _, old, _, _, hold, _, _, ⟨e, he⟩, _⟩
    · exact h
    · exact nomatch he.symm.trans (henv.close_open old (ho.mem_opened hold))

/-- After any run of gateway calls from `New` whose collaborators create gateways under new URIs,
keep the URI on a new port, and close an open gateway without error: the open gateways are
exactly the gateways `ListGateways` lists, each once, and each is stored under its own URI string;
and `Stop`, whatever `Close` then returns, leaves open exactly the gateways whose `Close` fails. -/
theorem reachable_owned {o : Objects URI} (h : Objects.Reachable u (Env.Closing u) o) :
    (o.opened.Nodup ∧ o.opened.Perm o.svc.listGateways ∧
        ∀ k g, o.svc.gateways.lookup k = some g → u.string g.uri = k) ∧
      ∀ (env : Env URI) (g : Gateway URI),
        g ∈ (o.run u env .stop).2.opened ↔ g ∈ o.opened ∧ ∃ e, env.close g = .error e := by
  have ho := h.owned
  exact ⟨⟨ho.nodup, ho.perm, ho.keyed⟩, fun _ => ho.mem_stop⟩

theorem dbOpen_reachable_owned :
    (Objects.dbOpen.opened.Nodup ∧ Objects.dbOpen.opened.Perm Objects.dbOpen.svc.listGateways ∧
        ∀ k g, Objects.dbOpen.svc.gateways.lookup k = some g → pathUri.string g.uri = k) ∧
      ∀ (env : Env String) (g : Gateway String),
        g ∈ (Objects.dbOpen.run pathUri env .stop).2.opened ↔
          g ∈ Objects.dbOpen.opened ∧ ∃ e, env.close g = .error e :=
  reachable_owned pathUri dbOpen_reachable

end Teleport.Teleterm.Daemon
