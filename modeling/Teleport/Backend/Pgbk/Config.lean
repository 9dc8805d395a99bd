import Mathlib.Tactic.Common

/-!
# The backend's configuration

`Config.CheckAndSetDefaults` of `pgbk.go` checks the authentication mode, then four numeric
fields, each in the same block: a negative value is a `BadParameter` naming the field, zero
becomes the field's default. The method has a pointer receiver, so a failing check leaves the
defaults already set; the model returns the configuration it leaves with its result.

`ConnString` and `DisableExpiry` are not checked; `NewWithConfig` reads them
(`Teleport.Backend.Pgbk.New`).

`checkAndSetDefaults_ok_iff`: the check passes exactly when the mode is one of the two and no
field is negative. `checkAndSetDefaults_error`: every error is the mode's, or names a negative
field. `checkAndSetDefaults_idem`: the configuration a passing check leaves passes again,
unchanged, so every default passes its own check.
-/

namespace Teleport.Backend.Pgbk

/-- `trace.BadParameter` with its format and `%q` arguments. -/
structure BadParameter where
  format : String
  args : List String
deriving DecidableEq, Repr

/-- `AuthMode`. -/
structure AuthMode where
  mode : String
deriving DecidableEq, Repr

namespace AuthMode

/-- `StaticAuth`. -/
def staticAuth : AuthMode := ⟨""⟩

/-- `AzureADAuth`. -/
def azureADAuth : AuthMode := ⟨"azure"⟩

/-- `AuthMode.Check`. -/
def check (a : AuthMode) : Except BadParameter Unit :=
  if a = staticAuth ∨ a = azureADAuth then .ok ()
  else .error ⟨"invalid authentication mode %q, should be %q or %q",
    [a.mode, staticAuth.mode, azureADAuth.mode]⟩

end AuthMode

/-- `Config`; durations are in nanoseconds. -/
structure Config where
  connString : String
  authMode : AuthMode
  changeFeedPollInterval : Int
  changeFeedBatchSize : Int
  disableExpiry : Bool
  expiryInterval : Int
  expiryBatchSize : Int
deriving DecidableEq, Repr

/-- `defaultChangeFeedBatchSize`. -/
def defaultChangeFeedBatchSize : Int := 1000

/-- `defaultExpiryInterval`, `30 * time.Second`. -/
def defaultExpiryInterval : Int := 30 * 1000000000

/-- `defaultExpiryBatchSize`. -/
def defaultExpiryBatchSize : Int := 1000

namespace Config

/-- One field's block of `CheckAndSetDefaults`: a negative value fails with `message`, zero
becomes `default`; the value the field is left with. -/
def checkField (message : String) (default x : Int) : Except BadParameter Int :=
  if x < 0 then .error ⟨message, []⟩
  else if x = 0 then .ok default
  else .ok x

/-- `CheckAndSetDefaults`; `defaultChangeFeedInterval` is `backend.DefaultPollStreamPeriod`. -/
def checkAndSetDefaults (defaultChangeFeedInterval : Int) (c : Config) :
    Except BadParameter Unit × Config :=
  match c.authMode.check with
  | .error e => (.error e, c)
  | .ok () =>
  match checkField "change feed poll interval must be non-negative" defaultChangeFeedInterval
      c.changeFeedPollInterval with
  | .error e => (.error e, c)
  | .ok v =>
  let c := { c with changeFeedPollInterval := v }
  match checkField "change feed batch size must be non-negative" defaultChangeFeedBatchSize
      c.changeFeedBatchSize with
  | .error e => (.error e, c)
  | .ok v =>
  let c := { c with changeFeedBatchSize := v }
  match checkField "expiry interval must be non-negative" defaultExpiryInterval
      c.expiryInterval with
  | .error e => (.error e, c)
  | .ok v =>
  let c := { c with expiryInterval := v }
  match checkField "expiry batch size must be non-negative" defaultExpiryBatchSize
      c.expiryBatchSize with
  | .error e => (.error e, c)
  | .ok v => (.ok (), { c with expiryBatchSize := v })

/-- The configuration a passing check leaves: every zero field replaced by its default. -/
def withDefaults (defaultChangeFeedInterval : Int) (c : Config) : Config :=
  { c with
    changeFeedPollInterval :=
      if c.changeFeedPollInterval = 0 then defaultChangeFeedInterval else c.changeFeedPollInterval
    changeFeedBatchSize :=
      if c.changeFeedBatchSize = 0 then defaultChangeFeedBatchSize else c.changeFeedBatchSize
    expiryInterval := if c.expiryInterval = 0 then defaultExpiryInterval else c.expiryInterval
    expiryBatchSize := if c.expiryBatchSize = 0 then defaultExpiryBatchSize else c.expiryBatchSize }

/-- The mode is one of the two and no field is negative. -/
def Valid (c : Config) : Prop :=
  (c.authMode = .staticAuth ∨ c.authMode = .azureADAuth) ∧ 0 ≤ c.changeFeedPollInterval ∧
    0 ≤ c.changeFeedBatchSize ∧ 0 ≤ c.expiryInterval ∧ 0 ≤ c.expiryBatchSize

instance (c : Config) : Decidable c.Valid := inferInstanceAs (Decidable (_ ∧ _))

/-! ## What the check does -/

theorem checkField_of_nonneg {message : String} {default x : Int} (h : 0 ≤ x) :
    checkField message default x = .ok (if x = 0 then default else x) := by
  rw [checkField, if_neg (Int.not_lt.mpr h)]
  split <;> rfl

theorem checkField_eq_error {message : String} {default x : Int} {e : BadParameter} :
    checkField message default x = .error e ↔ x < 0 ∧ e = ⟨message, []⟩ := by
  unfold checkField
  split_ifs with h h0 <;> simp [h, eq_comm]

theorem nonneg_of_checkField_eq_ok {message : String} {default x v : Int}
    (h : checkField message default x = .ok v) : 0 ≤ x := by
  unfold checkField at h
  split_ifs at h <;> omega

theorem checkAndSetDefaults_of_valid (d : Int) {c : Config} (h : c.Valid) :
    c.checkAndSetDefaults d = (.ok (), c.withDefaults d) := by
  obtain ⟨ha, h1, h2, h3, h4⟩ := h
  simp only [checkAndSetDefaults, AuthMode.check, if_pos ha, checkField_of_nonneg h1,
    checkField_of_nonneg h2, checkField_of_nonneg h3, checkField_of_nonneg h4]
  rfl

/-- Every error of the check is the mode's, or names a field that is negative. -/
theorem checkAndSetDefaults_error (d : Int) (c : Config) (e : BadParameter)
    (h : (c.checkAndSetDefaults d).1 = .error e) :
    c.authMode.check = .error e ∨
      (c.changeFeedPollInterval < 0 ∧ e = ⟨"change feed poll interval must be non-negative", []⟩) ∨
      (c.changeFeedBatchSize < 0 ∧ e = ⟨"change feed batch size must be non-negative", []⟩) ∨
      (c.expiryInterval < 0 ∧ e = ⟨"expiry interval must be non-negative", []⟩) ∨
      (c.expiryBatchSize < 0 ∧ e = ⟨"expiry batch size must be non-negative", []⟩) := by
  unfold checkAndSetDefaults at h
  split at h
  · next ha => cases h; exact .inl ha
  split at h
  · next h1 => cases h; exact .inr (.inl (checkField_eq_error.mp h1))
  dsimp only at h
  split at h
  · next h2 => cases h; exact .inr (.inr (.inl (checkField_eq_error.mp h2)))
  split at h
  · next h3 => cases h; exact .inr (.inr (.inr (.inl (checkField_eq_error.mp h3))))
  split at h
  · next h4 => cases h; exact .inr (.inr (.inr (.inr (checkField_eq_error.mp h4))))
  · cases h

theorem checkAndSetDefaults_negative_batch_size :
    let c : Config := ⟨"", .staticAuth, 0, -5, false, 0, 0⟩
    (c.checkAndSetDefaults 1000000000).1 =
        .error ⟨"change feed batch size must be non-negative", []⟩ ∧
      (AuthMode.staticAuth.check = .error ⟨"change feed batch size must be non-negative", []⟩ ∨
        ((0 : Int) < 0 ∧ (⟨"change feed batch size must be non-negative", []⟩ : BadParameter) =
          ⟨"change feed poll interval must be non-negative", []⟩) ∨
        ((-5 : Int) < 0 ∧ (⟨"change feed batch size must be non-negative", []⟩ : BadParameter) =
          ⟨"change feed batch size must be non-negative", []⟩) ∨
        ((0 : Int) < 0 ∧ (⟨"change feed batch size must be non-negative", []⟩ : BadParameter) =
          ⟨"expiry interval must be non-negative", []⟩) ∨
        ((0 : Int) < 0 ∧ (⟨"change feed batch size must be non-negative", []⟩ : BadParameter) =
          ⟨"expiry batch size must be non-negative", []⟩)) :=
  ⟨rfl, checkAndSetDefaults_error 1000000000 ⟨"", .staticAuth, 0, -5, false, 0, 0⟩ _ rfl⟩

/-- Defaults change no field that is set. -/
theorem withDefaults_of_pos {d : Int} {c : Config} (h1 : 0 < c.changeFeedPollInterval)
    (h2 : 0 < c.changeFeedBatchSize) (h3 : 0 < c.expiryInterval) (h4 : 0 < c.expiryBatchSize) :
    c.withDefaults d = c := by
  rw [withDefaults, if_neg (Int.ne_of_gt h1), if_neg (Int.ne_of_gt h2), if_neg (Int.ne_of_gt h3),
    if_neg (Int.ne_of_gt h4)]

theorem valid_of_checkAndSetDefaults_ok {d : Int} {c : Config}
    (h : (c.checkAndSetDefaults d).1 = .ok ()) : c.Valid := by
  unfold checkAndSetDefaults at h
  split at h
  · cases h
  next ha =>
  have ha : c.authMode = .staticAuth ∨ c.authMode = .azureADAuth := by
    by_contra hn
    simp [AuthMode.check, hn] at ha
  split at h
  · cases h
  next h1 =>
  dsimp only at h
  split at h
  · cases h
  next h2 =>
  split at h
  · cases h
  next h3 =>
  split at h
  · cases h
  next h4 =>
  exact ⟨ha, nonneg_of_checkField_eq_ok h1, nonneg_of_checkField_eq_ok h2,
    nonneg_of_checkField_eq_ok h3, nonneg_of_checkField_eq_ok h4⟩

/-- The check passes exactly when the mode is one of the two and no field is negative. -/
theorem checkAndSetDefaults_ok_iff (d : Int) (c : Config) :
    (c.checkAndSetDefaults d).1 = .ok () ↔ c.Valid :=
  ⟨valid_of_checkAndSetDefaults_ok, fun h => by rw [checkAndSetDefaults_of_valid d h]⟩

/-- With a positive default poll interval, a passing check leaves every field positive, and
checking again passes and changes nothing. -/
theorem checkAndSetDefaults_idem (d : Int) (hd : 0 < d) (c : Config)
    (h : (c.checkAndSetDefaults d).1 = .ok ()) :
    (0 < (c.checkAndSetDefaults d).2.changeFeedPollInterval ∧
      0 < (c.checkAndSetDefaults d).2.changeFeedBatchSize ∧
      0 < (c.checkAndSetDefaults d).2.expiryInterval ∧
      0 < (c.checkAndSetDefaults d).2.expiryBatchSize) ∧
    (c.checkAndSetDefaults d).2.checkAndSetDefaults d = (.ok (), (c.checkAndSetDefaults d).2) := by
  obtain ⟨ha, h1, h2, h3, h4⟩ := valid_of_checkAndSetDefaults_ok h
  rw [checkAndSetDefaults_of_valid d ⟨ha, h1, h2, h3, h4⟩]
  have hpos : 0 < (c.withDefaults d).changeFeedPollInterval ∧
      0 < (c.withDefaults d).changeFeedBatchSize ∧ 0 < (c.withDefaults d).expiryInterval ∧
      0 < (c.withDefaults d).expiryBatchSize := by
    simp only [withDefaults, defaultChangeFeedBatchSize, defaultExpiryInterval,
      defaultExpiryBatchSize]
    split_ifs <;> omega
  obtain ⟨p1, p2, p3, p4⟩ := hpos
  refine ⟨⟨p1, p2, p3, p4⟩, ?_⟩
  dsimp only
  rw [checkAndSetDefaults_of_valid (c := c.withDefaults d) d
    ⟨ha, Int.le_of_lt p1, Int.le_of_lt p2, Int.le_of_lt p3, Int.le_of_lt p4⟩,
    withDefaults_of_pos p1 p2 p3 p4]

theorem checkAndSetDefaults_idem_zero :
    let c : Config := ⟨"", .staticAuth, 0, 0, false, 0, 0⟩
    (0 : Int) < 1000000000 ∧ (c.checkAndSetDefaults 1000000000).1 = .ok () ∧
      (0 < (c.checkAndSetDefaults 1000000000).2.changeFeedPollInterval ∧
        0 < (c.checkAndSetDefaults 1000000000).2.changeFeedBatchSize ∧
        0 < (c.checkAndSetDefaults 1000000000).2.expiryInterval ∧
        0 < (c.checkAndSetDefaults 1000000000).2.expiryBatchSize) ∧
      (c.checkAndSetDefaults 1000000000).2.checkAndSetDefaults 1000000000 =
        (.ok (), (c.checkAndSetDefaults 1000000000).2) :=
  ⟨by decide, rfl, checkAndSetDefaults_idem 1000000000 (by decide) _ rfl⟩

end Config

end Teleport.Backend.Pgbk
