import Teleport.Teleterm.Daemon.Gateways

/-!
# Failed calls leave the gateways

`SetGatewayLocalPort` must keep the current gateway when `NewWithLocalPort` fails, so that the
user can pick another port. `call_run_error_keeps` proves more: on every service and whatever the
collaborators return, a call that returns an error leaves the map as it was, whether the target
URI did not parse, the gateway URI was unknown, or creating, replacing or closing a gateway
failed.
-/

namespace Teleport.Teleterm.Daemon

namespace Service

variable {URI : Type} (u : UriFns URI) (env : Env URI) (s : Service URI)

/-- `res` is an error that left `s`, or a success. -/
def KeepsOnError {α : Type} (res : Except Error α × Service URI) : Prop :=
  ∀ err, res.1 = .error err → res.2 = s

theorem keepsOnError_error {α : Type} (e : Error) :
    s.KeepsOnError ((.error e : Except Error α), s) := fun _ _ => rfl

theorem keepsOnError_ok {α : Type} (a : α) (s' : Service URI) : s.KeepsOnError (.ok a, s') :=
  fun _ h => by cases h

theorem keepsOnError_removeGateway (g : Gateway URI) :
    s.KeepsOnError (s.removeGateway u env g) := by
  unfold removeGateway
  split
  · exact keepsOnError_error s _
  · exact keepsOnError_ok s _ _

theorem keepsOnError_removeGatewayByURI (gatewayURI : String) :
    s.KeepsOnError (s.removeGatewayByURI u env gatewayURI) := by
  unfold removeGatewayByURI
  split
  · exact keepsOnError_error s _
  · exact keepsOnError_removeGateway u env s _

theorem keepsOnError_setGatewayTargetSubresourceName (gatewayURI name : String) :
    s.KeepsOnError (s.setGatewayTargetSubresourceName gatewayURI name) := by
  unfold setGatewayTargetSubresourceName
  split
  · exact keepsOnError_error s _
  · exact keepsOnError_ok s _ _

theorem keepsOnError_setGatewayLocalPort (gatewayURI localPort : String) :
    s.KeepsOnError (s.setGatewayLocalPort u env gatewayURI localPort) := by
  unfold setGatewayLocalPort
  split
  · exact keepsOnError_error s _
  · split
    · exact keepsOnError_ok s _ _
    · split
      · exact keepsOnError_error s _
      · split
        · rename_i e s' hremove
          have := keepsOnError_removeGateway u env s _ e (by rw [hremove])
          rw [hremove] at this
          exact this ▸ keepsOnError_error s e
        · exact keepsOnError_ok s _ _

variable [DecidableEq URI]

theorem keepsOnError_createGateway (params : CreateGatewayParams) :
    s.KeepsOnError (s.createGateway u env params) := by
  unfold createGateway
  split
  · exact keepsOnError_error s _
  · split
    · exact keepsOnError_ok s _ _
    · split
      · exact keepsOnError_error s _
      · exact keepsOnError_ok s _ _

end Service

/-- A call that returns an error leaves the gateways map exactly as it was. -/
theorem call_run_error_keeps {URI : Type} [DecidableEq URI] (u : UriFns URI) (env : Env URI)
    (s : Service URI) (c : Call) (err : Error) (h : (c.run u env s).1 = .error err) :
    (c.run u env s).2 = s := by
  have hmap : ∀ {α β : Type} (f : α → β) {res : Except Error α × Service URI}, s.KeepsOnError res →
      s.KeepsOnError (Prod.map (Except.map f) id res) := by
    intro α β f res hres err' h'
    obtain ⟨r, s'⟩ := res
    cases r with
    | error e => exact hres e rfl
    | ok a => cases h'
  revert err
  cases c with
  | createGateway params => exact hmap _ (s.keepsOnError_createGateway u env params)
  | removeGateway gatewayURI => exact hmap _ (s.keepsOnError_removeGatewayByURI u env gatewayURI)
  | setGatewayLocalPort gatewayURI localPort =>
    exact hmap _ (s.keepsOnError_setGatewayLocalPort u env gatewayURI localPort)
  | setGatewayTargetSubresourceName gatewayURI name =>
    exact hmap _ (s.keepsOnError_setGatewayTargetSubresourceName gatewayURI name)
  | stop => exact Service.keepsOnError_ok s _ _

/-- `SetGatewayLocalPort` to a port `NewWithLocalPort` cannot obtain keeps the gateway. -/
theorem setGatewayLocalPort_unavailable_keeps :
    let u : UriFns String := ⟨id, fun _ => false, .ok⟩
    let env : Env String :=
      ⟨fun _ => .error (.other "no creator"), fun _ _ => .error (.other "port unavailable"),
        fun _ => .ok ()⟩
    let s : Service String :=
      ⟨"", (∅ : AList _).insert "/gateways/1" ⟨"/gateways/1", "/t", "1", ""⟩⟩
    ((Call.setGatewayLocalPort "/gateways/1" "2").run u env s).1 =
        .error (.other "port unavailable") ∧
      ((Call.setGatewayLocalPort "/gateways/1" "2").run u env s).2 = s :=
  ⟨rfl, call_run_error_keeps _ _ _ _ _ rfl⟩

end Teleport.Teleterm.Daemon
