import Mathlib.Logic.Function.Basic

/-!
# Important modals: `relogin` and `waitSemaphore`

The Electron app shows one important modal at a time. `relogin` asks it for a relogin modal: it
takes `reloginMu` with `TryLock`, so that a relogin requested while another is in progress fails
at once with `AlreadyExists`; it then takes `importantModalSemaphore`, a `waitSemaphore` with
`maxConcurrentImportantModals` slots whose `Acquire` sleeps until `imporantModalWaitDuraiton` has
passed since the last `Release`; it sends the `Relogin` event, and the modal is up until the RPC
returns. Its deferred calls release the semaphore, then unlock `reloginMu`. The other important
modals (headless login) take the same semaphore around their event.

Goroutines are `Fin n`; each is idle or at one point of that code (`Phase`). A step (`Action`)
is one goroutine's next atomic action, or the clock advancing. `Modals.step` gives the state it
leaves, with what `relogin` returns when it returns, or `none` when the step cannot be taken now
(a send on a full `semC`, a sleep not yet over). Times and durations are `Int` nanoseconds.
-/

namespace Teleport.Teleterm.Daemon

/-- `imporantModalWaitDuraiton = time.Second / 2`, in nanoseconds. -/
def imporantModalWaitDuraiton : Int := 1000000000 / 2

/-- `maxConcurrentImportantModals`: the app shows one important modal at a time. -/
def maxConcurrentImportantModals : Nat := 1

/-- The zero `time.Time`, January 1 of year 1 UTC, in nanoseconds from the Unix epoch: the
`lastRelease` of a new `waitSemaphore`. -/
def zeroTime : Int := -62135596800 * 1000000000

/-- `waitSemaphore`: the number of values in `semC` and its capacity, `lastRelease` and
`waitDuration`. -/
structure WaitSemaphore where
  held : Nat
  maxConcurrency : Nat
  lastRelease : Int
  waitDuration : Int
deriving DecidableEq, Repr

/-- `newWaitSemaphore`. -/
def newWaitSemaphore (maxConcurrency : Nat) (waitDuration : Int) : WaitSemaphore :=
  ⟨0, maxConcurrency, zeroTime, waitDuration⟩

namespace WaitSemaphore

/-- `Acquire`'s `s.semC <- struct{}{}` case at time `now`, which blocks while `semC` is full: the
semaphore after the send, and the time at which
`time.Sleep(s.waitDuration - time.Since(s.lastRelease))` returns. -/
def acquire (s : WaitSemaphore) (now : Int) : Option (WaitSemaphore × Int) :=
  if s.held < s.maxConcurrency then
    some ({ s with held := s.held + 1 }, now + (s.waitDuration - (now - s.lastRelease)))
  else none

/-- `Release` at time `now`: `s.lastRelease = time.Now()`, then `<-s.semC`, which blocks while
`semC` is empty. -/
def release (s : WaitSemaphore) (now : Int) : Option WaitSemaphore :=
  if 0 < s.held then some { s with lastRelease := now, held := s.held - 1 } else none

end WaitSemaphore

/-- What `tshdEventsClient.Relogin` returns: no error, or an error; `deadlineExceeded` when its
status code is `codes.DeadlineExceeded`. -/
inductive RpcResult where
  | ok
  | error (deadlineExceeded : Bool)
deriving DecidableEq, Repr

/-- An error `relogin` returns. -/
inductive ReloginError where
  /-- `trace.AlreadyExists(message)`. -/
  | alreadyExists (message : String)
  /-- `trace.Wrap` of `Acquire`'s `trace.Wrap(ctx.Err())`. -/
  | canceled
  /-- `trace.Wrap(err, format, args...)` of the RPC's error. -/
  | wrap (format : String) (args : List String)
deriving DecidableEq, Repr

/-- `reloginUserTimeout.String()`, for `reloginUserTimeout = time.Minute`. -/
def reloginUserTimeout : String := "1m0s"

/-- What `relogin` returns once `tshdEventsClient.Relogin` returned `r`. -/
def reloginResult : RpcResult → Except ReloginError Unit
  | .ok => .ok ()
  | .error true =>
    .error (.wrap "the user did not refresh the session within %s" [reloginUserTimeout])
  | .error false => .error (.wrap "could not refresh the session" [])

/-- Where a goroutine is. `relogin` says whether it runs `relogin`, holding `reloginMu`, or
another important modal's code. -/
inductive Phase where
  /-- Not asking for an important modal. -/
  | idle
  /-- In `Acquire`'s `select`. -/
  | acquiring (relogin : Bool)
  /-- Sent on `semC`; in `time.Sleep` until `wakeAt`. -/
  | sleeping (relogin : Bool) (wakeAt : Int)
  /-- `Acquire` returned at `shownAt`, and the modal's RPC is in flight. -/
  | modal (relogin : Bool) (shownAt : Int)
  /-- `relogin` after its deferred `Release` and before its deferred `reloginMu.Unlock()`, the
  RPC having returned `result`. -/
  | unlocking (result : RpcResult)
deriving DecidableEq, Repr

/-- The goroutines that ask for important modals, with the clock and the two fields of `Service`
they share. -/
structure Modals (n : Nat) where
  now : Int
  reloginMu : Bool
  importantModalSemaphore : WaitSemaphore
  phase : Fin n → Phase

/-- The next atomic action of a goroutine, or of the clock. -/
inductive Action (n : Nat) where
  /-- Goroutine `g` calls `relogin`: `s.reloginMu.TryLock()`. -/
  | relogin (g : Fin n)
  /-- Goroutine `g` calls `Acquire` for another important modal. -/
  | importantModal (g : Fin n)
  /-- `Acquire`'s `select` takes the send on `semC`. -/
  | send (g : Fin n)
  /-- `Acquire`'s `select` takes `<-ctx.Done()`. -/
  | cancel (g : Fin n)
  /-- `time.Sleep` returns: `Acquire` returns and the modal's event is sent. -/
  | wake (g : Fin n)
  /-- The modal's RPC returns `result`, and the deferred `Release` runs. -/
  | close (g : Fin n) (result : RpcResult)
  /-- `relogin`'s deferred `reloginMu.Unlock()`; `relogin` returns. -/
  | unlock (g : Fin n)
  /-- The clock advances by `d`. -/
  | tick (d : Int)
deriving DecidableEq, Repr

namespace Modals

variable {n : Nat}

/-- The state `UpdateAndDialTshdEventsServerAddress` leaves at time `now`: `reloginMu` unlocked, a
new `importantModalSemaphore`, and every goroutine idle. -/
def init (n : Nat) (now : Int) : Modals n :=
  ⟨now, false, newWaitSemaphore maxConcurrentImportantModals imporantModalWaitDuraiton,
    fun _ => .idle⟩

/-- `s` with goroutine `g` at `p`. -/
def setPhase (s : Modals n) (g : Fin n) (p : Phase) : Modals n :=
  { s with phase := Function.update s.phase g p }

/-- One action from `s`: the state it leaves and, when `relogin` returns, what it returns; `none`
when the action cannot be taken. -/
def step (s : Modals n) : Action n → Option (Modals n × Option (Except ReloginError Unit))
  | .relogin g =>
    match s.phase g with
    | .idle =>
      if s.reloginMu then
        some (s, some (.error (.alreadyExists "another relogin request is in progress")))
      else some ({ s.setPhase g (.acquiring true) with reloginMu := true }, none)
    | _ => none
  | .importantModal g =>
    match s.phase g with
    | .idle => some (s.setPhase g (.acquiring false), none)
    | _ => none
  | .send g =>
    match s.phase g, s.importantModalSemaphore.acquire s.now with
    | .acquiring r, some (sem, wakeAt) =>
      some ({ s.setPhase g (.sleeping r wakeAt) with importantModalSemaphore := sem }, none)
    | _, _ => none
  | .cancel g =>
    match s.phase g with
    | .acquiring true =>
      some ({ s.setPhase g .idle with reloginMu := false }, some (.error .canceled))
    | .acquiring false => some (s.setPhase g .idle, none)
    | _ => none
  | .wake g =>
    match s.phase g with
    | .sleeping r wakeAt =>
      if wakeAt ≤ s.now then some (s.setPhase g (.modal r s.now), none) else none
    | _ => none
  | .close g result =>
    match s.phase g, s.importantModalSemaphore.release s.now with
    | .modal true _, some sem =>
      some ({ s.setPhase g (.unlocking result) with importantModalSemaphore := sem }, none)
    | .modal false _, some sem =>
      some ({ s.setPhase g .idle with importantModalSemaphore := sem }, none)
    | _, _ => none
  | .unlock g =>
    match s.phase g with
    | .unlocking result =>
      some ({ s.setPhase g .idle with reloginMu := false }, some (reloginResult result))
    | _ => none
  | .tick d => if 0 < d then some ({ s with now := s.now + d }, none) else none

/-- The state a schedule of actions leaves, if each can be taken in turn. -/
def run (s : Modals n) : List (Action n) → Option (Modals n)
  | [] => some s
  | a :: as => (s.step a).bind fun p => p.1.run as

/-- A state some schedule leaves from the state at the daemon's start. -/
def Reachable (s : Modals n) : Prop :=
  ∃ now acts, zeroTime ≤ now ∧ (init n now).run acts = some s

end Modals

end Teleport.Teleterm.Daemon
