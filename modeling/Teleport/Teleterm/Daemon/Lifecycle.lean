import Teleport.Teleterm.Daemon.Gateways

/-!
# Gateway objects

A gateway is an object that serves connections from the moment `GatewayCreator.CreateGateway` or
`gateway.NewWithLocalPort` returns it until a `Close` of it returns no error. `Gateways.lean`
models what the gateway methods do to the map; `Opened` is what each method does, on the same
branches, to the open objects: the gateway it opens, and every `Close` it calls. That includes the
`Close` of the new gateway in `SetGatewayLocalPort` when closing the old one fails, and `Stop`'s
`Close` of every gateway, whose results the daemon only logs or ignores.

`Objects.run` is `Call.run` on the map, with `Opened.run` kept beside it as a ghost that no method
reads (`run_svc`, `run_opened`).

A gateway is a value here, as in `Gateways.lean`: `SetGatewayTargetSubresourceName` changes the
open object in place, so the open value is replaced by the changed one.
-/

namespace Teleport.Teleterm.Daemon

namespace Opened

variable {URI : Type} [DecidableEq URI] (u : UriFns URI) (env : Env URI) (s : Service URI)

/-- `gateway.Close()`: a gateway whose `Close` returns no error is closed. -/
def close (opened : List (Gateway URI)) (gateway : Gateway URI) :
    Except Error Unit × List (Gateway URI) :=
  match env.close gateway with
  | .error e => (.error e, opened)
  | .ok () => (.ok (), opened.erase gateway)

/-- `createGateway`: the gateway the creator returns is new, and served. -/
def createGateway (params : CreateGatewayParams) (opened : List (Gateway URI)) :
    List (Gateway URI) :=
  match u.parseGatewayTargetURI params.targetURI with
  | .error _ => opened
  | .ok targetURI =>
    match s.shouldReuseGateway u targetURI with
    | some _ => opened
    | none =>
      match env.createGateway ⟨targetURI, params.targetUser, params.targetSubresourceName,
          params.localPort, s.kubeconfigsDir⟩ with
      | .error _ => opened
      | .ok gateway => gateway :: opened

/-- `RemoveGateway`: `removeGateway` closes the gateway it finds. -/
def removeGatewayByURI (gatewayURI : String) (opened : List (Gateway URI)) : List (Gateway URI) :=
  match s.findGateway gatewayURI with
  | .error _ => opened
  | .ok gateway => (close env opened gateway).2

/-- `SetGatewayTargetSubresourceName`: the open gateway changes in place. -/
def setGatewayTargetSubresourceName (gatewayURI targetSubresourceName : String)
    (opened : List (Gateway URI)) : List (Gateway URI) :=
  match s.findGateway gatewayURI with
  | .error _ => opened
  | .ok gateway =>
    opened.replace gateway { gateway with targetSubresourceName := targetSubresourceName }

/-- `SetGatewayLocalPort`: the new gateway is open from `NewWithLocalPort` on; `removeGateway`
closes the old one, and when that fails the new one is closed, the result of that `Close` only
logged. -/
def setGatewayLocalPort (gatewayURI localPort : String) (opened : List (Gateway URI)) :
    List (Gateway URI) :=
  match s.findGateway gatewayURI with
  | .error _ => opened
  | .ok oldGateway =>
    if localPort = oldGateway.localPort then opened
    else
      match env.newWithLocalPort oldGateway localPort with
      | .error _ => opened
      | .ok newGateway =>
        match close env (newGateway :: opened) oldGateway with
        | (.error _, opened) => (close env opened newGateway).2
        | (.ok (), opened) => opened

/-- `Stop`: `Close` of every gateway in the map, whatever it returns. -/
def stop (opened : List (Gateway URI)) : List (Gateway URI) :=
  s.gateways.entries.foldl (fun opened e => (close env opened e.2).2) opened

/-- What one call under `mu` does to the open gateways, from the map it starts on. -/
def run : Call → List (Gateway URI) → List (Gateway URI)
  | .createGateway params => createGateway u env s params
  | .removeGateway gatewayURI => removeGatewayByURI env s gatewayURI
  | .setGatewayLocalPort gatewayURI localPort => setGatewayLocalPort env s gatewayURI localPort
  | .setGatewayTargetSubresourceName gatewayURI name =>
    setGatewayTargetSubresourceName s gatewayURI name
  | .stop => stop env s

end Opened

/-- The service, and the gateway objects that are open: returned by the creator or by
`NewWithLocalPort` and not closed since. -/
structure Objects (URI : Type) where
  svc : Service URI
  opened : List (Gateway URI)

namespace Objects

variable {URI : Type} [DecidableEq URI] (u : UriFns URI) (env : Env URI)

/-- One call under `mu`, with what its collaborators return: `Call.run` on the map, and what the
call does to the open gateways. -/
def run (c : Call) (o : Objects URI) : Except Error (Option (Gateway URI)) × Objects URI :=
  Prod.map id (fun svc => ⟨svc, Opened.run u env o.svc c o.opened⟩) (c.run u env o.svc)

@[simp] theorem run_fst (c : Call) (o : Objects URI) : (o.run u env c).1 = (c.run u env o.svc).1 :=
  rfl

/-- Each call leaves the map `Call.run` leaves. -/
@[simp] theorem run_svc (c : Call) (o : Objects URI) :
    (o.run u env c).2.svc = (c.run u env o.svc).2 :=
  rfl

@[simp] theorem run_opened (c : Call) (o : Objects URI) :
    (o.run u env c).2.opened = Opened.run u env o.svc c o.opened :=
  rfl

end Objects

end Teleport.Teleterm.Daemon
