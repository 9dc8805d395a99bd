import Mathlib.Data.List.AList

/-!
# The daemon's gateways

`daemon.Service` keeps its long-running gateways in `gateways`, a map from URI strings, and
changes it only while holding `mu`. So each public method below is one step on the map: a
function of the service and of what its collaborators return during the call
(`GatewayCreator.CreateGateway`, `gateway.NewWithLocalPort`, `Gateway.Close`).

A gateway is an object the map points to, and `SetGatewayTargetSubresourceName` changes it in
place; here a gateway is a value and that change stores the changed value under the key it was
found at. Package `uri` is not part of this model: `UriFns` takes the three functions of it the
daemon calls.
-/

namespace Teleport.Teleterm.Daemon

/-- An error: `trace.NotFound` with its format and arguments, or one a collaborator or package
`uri` returned, which the daemon passes on wrapped. -/
inductive Error where
  | notFound (format : String) (args : List String)
  | other (message : String)
deriving DecidableEq, Repr

/-- What the daemon calls of package `uri`: `ResourceURI.String`, `ResourceURI.IsKube` and
`ParseGatewayTargetURI`. -/
structure UriFns (URI : Type) where
  string : URI → String
  isKube : URI → Bool
  parseGatewayTargetURI : String → Except Error URI

/-- What the daemon reads of a `gateway.Gateway`. -/
structure Gateway (URI : Type) where
  uri : URI
  targetURI : URI
  localPort : String
  targetSubresourceName : String
deriving DecidableEq, Repr

/-- `daemon.CreateGatewayParams`. -/
structure CreateGatewayParams where
  targetURI : String
  targetUser : String
  targetSubresourceName : String
  localPort : String
deriving DecidableEq, Repr

/-- `clusters.CreateGatewayParams`, without the `OnExpiredCert` callback. -/
structure ClusterCreateGatewayParams (URI : Type) where
  targetURI : URI
  targetUser : String
  targetSubresourceName : String
  localPort : String
  kubeconfigsDir : String
deriving DecidableEq, Repr

/-- What the collaborators return during one call. -/
structure Env (URI : Type) where
  createGateway : ClusterCreateGatewayParams URI → Except Error (Gateway URI)
  newWithLocalPort : Gateway URI → String → Except Error (Gateway URI)
  close : Gateway URI → Except Error Unit

/-- The part of `daemon.Service` the gateway methods read and write: `cfg.KubeconfigsDir` and
`gateways`. -/
structure Service (URI : Type) where
  kubeconfigsDir : String
  gateways : AList fun _ : String => Gateway URI

namespace Service

variable {URI : Type} [DecidableEq URI] (u : UriFns URI) (env : Env URI)

/-- `New`: no gateway yet. -/
def new (kubeconfigsDir : String) : Service URI := ⟨kubeconfigsDir, ∅⟩

/-- `findGateway`. -/
def findGateway (s : Service URI) (gatewayURI : String) : Except Error (Gateway URI) :=
  match s.gateways.lookup gatewayURI with
  | some gateway => .ok gateway
  | none => .error (.notFound "gateway is not found: %v" [gatewayURI])

/-- `findGatewayByTargetURI`: the first gateway of the range loop whose target is `targetURI`.
Go ranges over a map in no fixed order; the invariant of `Verify.Registry` leaves at most one
such gateway for a kube target. -/
def findGatewayByTargetURI (s : Service URI) (targetURI : URI) : Option (Gateway URI) :=
  (s.gateways.entries.find? fun e => e.2.targetURI = targetURI).map Sigma.snd

/-- `shouldReuseGateway`: a kube cluster's terminals share one gateway. -/
def shouldReuseGateway (s : Service URI) (targetURI : URI) : Option (Gateway URI) :=
  if u.isKube targetURI then s.findGatewayByTargetURI targetURI else none

/-- `ListGateways`: every gateway of the map. Go ranges over the map in no fixed order; here it is
the order of the map's entries. -/
def listGateways (s : Service URI) : List (Gateway URI) := s.gateways.entries.map Sigma.snd

/-- `createGateway`, and `CreateGateway`, which runs it under `mu`. -/
def createGateway (s : Service URI) (params : CreateGatewayParams) :
    Except Error (Gateway URI) × Service URI :=
  match u.parseGatewayTargetURI params.targetURI with
  | .error e => (.error e, s)
  | .ok targetURI =>
    match s.shouldReuseGateway u targetURI with
    | some gateway => (.ok gateway, s)
    | none =>
      match env.createGateway ⟨targetURI, params.targetUser, params.targetSubresourceName,
          params.localPort, s.kubeconfigsDir⟩ with
      | .error e => (.error e, s)
      | .ok gateway =>
        (.ok gateway, { s with gateways := s.gateways.insert (u.string gateway.uri) gateway })

/-- `removeGateway`: closes the gateway, then deletes the key of its URI. -/
def removeGateway (s : Service URI) (gateway : Gateway URI) : Except Error Unit × Service URI :=
  match env.close gateway with
  | .error e => (.error e, s)
  | .ok () => (.ok (), { s with gateways := s.gateways.erase (u.string gateway.uri) })

/-- `RemoveGateway`. -/
def removeGatewayByURI (s : Service URI) (gatewayURI : String) : Except Error Unit × Service URI :=
  match s.findGateway gatewayURI with
  | .error e => (.error e, s)
  | .ok gateway => s.removeGateway u env gateway

/-- `SetGatewayTargetSubresourceName`. -/
def setGatewayTargetSubresourceName (s : Service URI) (gatewayURI targetSubresourceName : String) :
    Except Error (Gateway URI) × Service URI :=
  match s.findGateway gatewayURI with
  | .error e => (.error e, s)
  | .ok gateway =>
    let gateway := { gateway with targetSubresourceName := targetSubresourceName }
    (.ok gateway, { s with gateways := s.gateways.insert gatewayURI gateway })

/-- `SetGatewayLocalPort`: a no-op for the current port; otherwise a new gateway on the port
replaces the old one, which is closed and deleted under its own URI before the new one is stored
under the caller's `gatewayURI`. When closing the old gateway fails, the new one is closed too
and that result only logged. -/
def setGatewayLocalPort (s : Service URI) (gatewayURI localPort : String) :
    Except Error (Gateway URI) × Service URI :=
  match s.findGateway gatewayURI with
  | .error e => (.error e, s)
  | .ok oldGateway =>
    if localPort = oldGateway.localPort then (.ok oldGateway, s)
    else
      match env.newWithLocalPort oldGateway localPort with
      | .error e => (.error e, s)
      | .ok newGateway =>
        match s.removeGateway u env oldGateway with
        | (.error e, s') => (.error e, s')
        | (.ok (), s') =>
          (.ok newGateway, { s' with gateways := s'.gateways.insert gatewayURI newGateway })

end Service

/-- A call of `daemon.Service` on its gateways. `Stop` closes every gateway and leaves the map. -/
inductive Call where
  | createGateway (params : CreateGatewayParams)
  | removeGateway (gatewayURI : String)
  | setGatewayLocalPort (gatewayURI localPort : String)
  | setGatewayTargetSubresourceName (gatewayURI targetSubresourceName : String)
  | stop
deriving DecidableEq, Repr

/-- One call under `mu`, with what its collaborators return; the gateway it returns, if any. -/
def Call.run {URI : Type} [DecidableEq URI] (u : UriFns URI) (env : Env URI) :
    Call → Service URI → Except Error (Option (Gateway URI)) × Service URI
  | .createGateway params, s => Prod.map (Except.map some) id (s.createGateway u env params)
  | .removeGateway gatewayURI, s =>
    Prod.map (Except.map fun _ => none) id (s.removeGatewayByURI u env gatewayURI)
  | .setGatewayLocalPort gatewayURI localPort, s =>
    Prod.map (Except.map some) id (s.setGatewayLocalPort u env gatewayURI localPort)
  | .setGatewayTargetSubresourceName gatewayURI name, s =>
    Prod.map (Except.map some) id (s.setGatewayTargetSubresourceName gatewayURI name)
  | .stop, s => (.ok none, s)

end Teleport.Teleterm.Daemon
