import Teleport.Backend.Pgbk.Config

/-!
# Starting the backend

`NewWithConfig` checks the configuration and sets its defaults, parses the connection string,
installs the Azure AD hook in the `azure` mode, makes `serializable` the default transaction
isolation of the pool's connections unless the connection string sets one, opens the pool,
creates or migrates the `kv` table, and starts the background goroutines. Its calls into other
packages are parameters (`Env`), and each of them may fail.

`newWithConfig_ok`: a backend is returned only for a configuration that passes its check, and it
keeps that configuration with its defaults; its pool runs transactions `serializable` unless the
connection string asks for another isolation. That is the premise of the serial-order model of
`Teleport.Backend.Pgbk.Verify.Runs`. `newWithConfig_effects`: a start that fails leaks no pool
and starts no goroutine; one that succeeds owns the one pool it opened, and starts the change
feed and, unless `DisableExpiry`, the expiry sweeper.
-/

namespace Teleport.Backend.Pgbk

/-- `defaultTxIsoParamName`. -/
def defaultTxIsoParamName : String := "default_transaction_isolation"

/-- The part of `pgxpool.Config` that `NewWithConfig` reads and sets: `ConnConfig.RuntimeParams`,
a Go map, which reads `""` at a missing key, and whether `BeforeConnect` is the Azure AD hook. -/
structure PoolConfig where
  runtimeParams : String → String
  azureBeforeConnect : Bool

/-- The background goroutines of a backend. -/
inductive Goroutine where
  | backgroundExpiry
  | backgroundChangeFeed
deriving DecidableEq, Repr

/-- What `NewWithConfig` does besides returning, in order. -/
inductive Effect where
  /-- `pgcommon.TryEnsureDatabase`. -/
  | tryEnsureDatabase
  /-- `pgxpool.NewWithConfig` opens the pool. -/
  | openPool
  /-- `pool.Close()`. -/
  | closePool
  /-- A `go` statement starts the goroutine. -/
  | start (g : Goroutine)
deriving DecidableEq, Repr

/-- The calls of `NewWithConfig` into other packages, with what each returns:
`pgxpool.ParseConfig`, `pgcommon.AzureBeforeConnect`, `pgxpool.NewWithConfig` and
`pgcommon.SetupAndMigrate`. -/
structure Env (ε : Type) where
  parseConfig : String → Except ε PoolConfig
  azureBeforeConnect : Except ε Unit
  newPool : PoolConfig → Except ε Unit
  setupAndMigrate : Except ε Unit

/-- An error of `NewWithConfig`, by where it comes from: the check's `BadParameter`, or the
wrapped error of a call into another package. `trace.Wrap` keeps that error's kind, which is part
of `ε` here. -/
inductive NewError (ε : Type) where
  | badParameter (e : BadParameter)
  | wrap (e : ε)
deriving DecidableEq, Repr

/-- `Backend`: the configuration it keeps, and the configuration its pool was opened with. -/
structure Backend where
  cfg : Config
  poolConfig : PoolConfig

/-- The Azure AD block of `NewWithConfig`: in the `azure` mode, `pgcommon.AzureBeforeConnect`
gives the hook run before each connection. -/
def withAuthMode {ε : Type} (env : Env ε) (authMode : AuthMode) (p : PoolConfig) :
    Except ε PoolConfig :=
  if authMode = .azureADAuth then
    env.azureBeforeConnect.map fun () => { p with azureBeforeConnect := true }
  else .ok p

/-- The isolation block of `NewWithConfig`: a `default_transaction_isolation` set in the
connection string stays (an error is logged), and otherwise it is set to `serializable`. -/
def setDefaultTxIso (p : PoolConfig) : PoolConfig :=
  if p.runtimeParams defaultTxIsoParamName ≠ "" then p
  else { p with
    runtimeParams := Function.update p.runtimeParams defaultTxIsoParamName "serializable" }

/-- The goroutines `NewWithConfig` starts, in order. -/
def startGoroutines (cfg : Config) : List Effect :=
  (if cfg.disableExpiry then [] else [.start .backgroundExpiry]) ++ [.start .backgroundChangeFeed]

/-- `NewWithConfig`, for `backend.DefaultPollStreamPeriod = defaultChangeFeedInterval`: the
backend or the error, with what it did. -/
def newWithConfig {ε : Type} (defaultChangeFeedInterval : Int) (env : Env ε) (cfg : Config) :
    Except (NewError ε) Backend × List Effect :=
  match cfg.checkAndSetDefaults defaultChangeFeedInterval with
  | (.error e, _) => (.error (.badParameter e), [])
  | (.ok (), cfg) =>
  match env.parseConfig cfg.connString with
  | .error e => (.error (.wrap e), [])
  | .ok poolConfig =>
  match withAuthMode env cfg.authMode poolConfig with
  | .error e => (.error (.wrap e), [])
  | .ok poolConfig =>
  let poolConfig := setDefaultTxIso poolConfig
  match env.newPool poolConfig with
  | .error e => (.error (.wrap e), [.tryEnsureDatabase])
  | .ok () =>
  match env.setupAndMigrate with
  | .error e => (.error (.wrap e), [.tryEnsureDatabase, .openPool, .closePool])
  | .ok () => (.ok ⟨cfg, poolConfig⟩, [.tryEnsureDatabase, .openPool] ++ startGoroutines cfg)

/-! ## The blocks -/

@[simp] theorem withDefaults_connString (d : Int) (c : Config) :
    (c.withDefaults d).connString = c.connString := rfl

@[simp] theorem withDefaults_authMode (d : Int) (c : Config) :
    (c.withDefaults d).authMode = c.authMode := rfl

@[simp] theorem withDefaults_disableExpiry (d : Int) (c : Config) :
    (c.withDefaults d).disableExpiry = c.disableExpiry := rfl

theorem withAuthMode_ok {ε : Type} {env : Env ε} {a : AuthMode} {p p' : PoolConfig}
    (h : withAuthMode env a p = .ok p') :
    p'.runtimeParams = p.runtimeParams ∧
      p'.azureBeforeConnect = (p.azureBeforeConnect || decide (a = .azureADAuth)) := by
  unfold withAuthMode at h
  split_ifs at h with ha
  · cases hb : env.azureBeforeConnect with
    | error e => simp [hb, Except.map] at h
    | ok u =>
      simp only [hb, Except.map, Except.ok.injEq] at h
      subst h
      simp [ha]
  · cases h
    simp [ha]

theorem setDefaultTxIso_self (p : PoolConfig) :
    (setDefaultTxIso p).runtimeParams defaultTxIsoParamName =
      if p.runtimeParams defaultTxIsoParamName = "" then "serializable"
      else p.runtimeParams defaultTxIsoParamName := by
  unfold setDefaultTxIso
  by_cases h : p.runtimeParams defaultTxIsoParamName = "" <;> simp [h]

@[simp] theorem setDefaultTxIso_azureBeforeConnect (p : PoolConfig) :
    (setDefaultTxIso p).azureBeforeConnect = p.azureBeforeConnect := by
  unfold setDefaultTxIso
  split_ifs <;> rfl

theorem setDefaultTxIso_of_ne (p : PoolConfig) {k : String} (hk : k ≠ defaultTxIsoParamName) :
    (setDefaultTxIso p).runtimeParams k = p.runtimeParams k := by
  unfold setDefaultTxIso
  split_ifs
  · rfl
  · exact Function.update_noteq hk _ _

/-! ## What a start can do -/

section Outcomes

variable {ε : Type} (d : Int) (env : Env ε) (cfg : Config)

/-- Every outcome of `NewWithConfig`: the check fails with no call made; or, the check passed, a
call into another package fails before the pool is opened, or when it is opened, or the
migration fails and the pool is closed; or the backend is returned. -/
theorem newWithConfig_cases :
    (∃ e, (cfg.checkAndSetDefaults d).1 = .error e ∧
      newWithConfig d env cfg = (.error (.badParameter e), [])) ∨
    cfg.Valid ∧
      ((∃ e, newWithConfig d env cfg = (.error (.wrap e), [])) ∨
      (∃ e, newWithConfig d env cfg = (.error (.wrap e), [.tryEnsureDatabase])) ∨
      (∃ e, newWithConfig d env cfg =
        (.error (.wrap e), [.tryEnsureDatabase, .openPool, .closePool])) ∨
      ∃ p p', env.parseConfig cfg.connString = .ok p ∧ withAuthMode env cfg.authMode p = .ok p' ∧
        newWithConfig d env cfg = (.ok ⟨cfg.withDefaults d, setDefaultTxIso p'⟩,
          [.tryEnsureDatabase, .openPool] ++ startGoroutines cfg)) := by
  by_cases hv : cfg.Valid
  swap
  · rcases hc : cfg.checkAndSetDefaults d with ⟨_ | _, c⟩
    · exact .inl ⟨_, rfl, by simp only [newWithConfig, hc]⟩
    · exact absurd (Config.valid_of_checkAndSetDefaults_ok (congrArg Prod.fst hc)) hv
  refine .inr ⟨hv, ?_⟩
  simp only [newWithConfig, Config.checkAndSetDefaults_of_valid d hv, withDefaults_connString,
    withDefaults_authMode]
  cases env.parseConfig cfg.connString with
  | error e => exact .inl ⟨e, rfl⟩
  | ok p =>
  dsimp only
  cases ha : withAuthMode env cfg.authMode p with
  | error e => exact .inl ⟨e, rfl⟩
  | ok p' =>
  dsimp only
  cases env.newPool (setDefaultTxIso p') with
  | error e => exact .inr (.inl ⟨e, rfl⟩)
  | ok u =>
  dsimp only
  cases env.setupAndMigrate with
  | error e => exact .inr (.inr (.inl ⟨e, rfl⟩))
  | ok u' => exact .inr (.inr (.inr ⟨p, p', rfl, ha, rfl⟩))

end Outcomes

/-! ## The backend, its errors and what a start leaves running -/

/-- `NewWithConfig` returns a backend only for a configuration that passes its check, and the
backend keeps it with its defaults set. The pool's connections run transactions `serializable` by
default unless the connection string sets another default isolation, which is kept; no other
runtime parameter of the connection string changes; the Azure AD hook is installed in the
`azure` mode. -/
theorem newWithConfig_ok {ε : Type} (d : Int) (env : Env ε) (cfg : Config) (b : Backend)
    (h : (newWithConfig d env cfg).1 = .ok b) :
    cfg.Valid ∧ b.cfg = cfg.withDefaults d ∧
      ∃ p, env.parseConfig cfg.connString = .ok p ∧
        b.poolConfig.runtimeParams defaultTxIsoParamName =
          (if p.runtimeParams defaultTxIsoParamName = "" then "serializable"
          else p.runtimeParams defaultTxIsoParamName) ∧
        (∀ k, k ≠ defaultTxIsoParamName → b.poolConfig.runtimeParams k = p.runtimeParams k) ∧
        b.poolConfig.azureBeforeConnect =
          (p.azureBeforeConnect || decide (cfg.authMode = .azureADAuth)) := by
  rcases newWithConfig_cases d env cfg with
    ⟨e, -, he⟩ | ⟨hv, ⟨e, he⟩ | ⟨e, he⟩ | ⟨e, he⟩ | ⟨p, p', hp, ha, he⟩⟩ <;> rw [he] at h <;>
    cases h
  obtain ⟨hparams, hazure⟩ := withAuthMode_ok ha
  refine ⟨hv, rfl, p, hp, ?_, fun k hk => ?_, (setDefaultTxIso_azureBeforeConnect p').trans hazure⟩
  · rw [setDefaultTxIso_self, hparams]
  · rw [setDefaultTxIso_of_ne p' hk, hparams]

theorem newWithConfig_serializable_default :
    let env : Env String := ⟨fun _ => .ok ⟨fun _ => "", false⟩, .ok (), fun _ => .ok (), .ok ()⟩
    let cfg : Config := ⟨"postgres://localhost/teleport", .staticAuth, 0, 0, false, 0, 0⟩
    let b : Backend := ⟨cfg.withDefaults 1000000000, setDefaultTxIso ⟨fun _ => "", false⟩⟩
    (newWithConfig 1000000000 env cfg).1 = .ok b ∧
      cfg.Valid ∧ b.cfg = cfg.withDefaults 1000000000 ∧
      ∃ p, env.parseConfig cfg.connString = .ok p ∧
        b.poolConfig.runtimeParams defaultTxIsoParamName =
          (if p.runtimeParams defaultTxIsoParamName = "" then "serializable"
          else p.runtimeParams defaultTxIsoParamName) ∧
        (∀ k, k ≠ defaultTxIsoParamName → b.poolConfig.runtimeParams k = p.runtimeParams k) ∧
        b.poolConfig.azureBeforeConnect =
          (p.azureBeforeConnect || decide (cfg.authMode = .azureADAuth)) :=
  ⟨rfl, newWithConfig_ok 1000000000 _ _ _ rfl⟩

/-- A start that fails has closed every pool it opened and started no goroutine; one that
succeeds owns the one pool it opened, and has started the change feed and, unless
`DisableExpiry`, the expiry sweeper. -/
theorem newWithConfig_effects {ε : Type} (d : Int) (env : Env ε) (cfg : Config) :
    (∀ err, (newWithConfig d env cfg).1 = .error err →
      (newWithConfig d env cfg).2.count .openPool = (newWithConfig d env cfg).2.count .closePool ∧
        ∀ g, .start g ∉ (newWithConfig d env cfg).2) ∧
    (∀ b, (newWithConfig d env cfg).1 = .ok b →
      (newWithConfig d env cfg).2.count .openPool = 1 ∧
        .closePool ∉ (newWithConfig d env cfg).2 ∧
        ∀ g, .start g ∈ (newWithConfig d env cfg).2 ↔
          g = .backgroundChangeFeed ∨ g = .backgroundExpiry ∧ cfg.disableExpiry = false) := by
  cases hx : cfg.disableExpiry <;>
  rcases newWithConfig_cases d env cfg with
    ⟨e, -, he⟩ | ⟨-, ⟨e, he⟩ | ⟨e, he⟩ | ⟨e, he⟩ | ⟨p, p', -, -, he⟩⟩ <;> rw [he] <;>
    refine ⟨fun err h => ?_, fun b h => ?_⟩ <;> (try cases h) <;>
    simp [startGoroutines, hx, or_comm]

end Teleport.Backend.Pgbk
