import Teleport.Backend.Pgbk.Verify.Refinement
import Mathlib.Data.List.Chain

/-!
# Every run of calls

The pool runs each call in a `serializable` transaction (`NewWithConfig` makes that the default
isolation unless the connection string sets one: `newWithConfig_ok`), so concurrent calls leave
what some serial order of them leaves, each call at its own transaction time. Those times need
not increase along the serial order: `now()` is when a transaction started, not when it
committed. So a call may read the table at a time before the time of the call serialized just
before it, and see a row as live that the earlier call saw as expired.

`NewWithConfig` also starts the expiry sweeper unless `DisableExpiry`; a cycle of it (`sweep`,
modelled from the design, whose body is not in `pgbk.go`) deletes a batch of rows that have
expired by its time. A run is a schedule of calls and sweeps (`Step`). `runSteps_refines`: along
every schedule in which no sweep is serialized before a call with an earlier transaction time,
the table answers every call as the abstract backend over time `Op.apply` answers the calls
alone, and its full view is that backend's map less entries that had expired by a sweep's time
(`Swept`). The step is `Op.fullRefines` for a call, and for a sweep that it removes only entries
no later call can see (`Swept.apply`: a call's writes and answers are decided by what is live at
its time, `Op.apply_writes`); the run follows by induction on the schedule (`runSteps_runOps`).

Without a sweep (`DisableExpiry`, or between sweeps) the full view is the abstract map itself
(`runCalls_refines`). When the times only grow, the live-view backend `Op.spec`, which forgets
what has expired, answers alike (`runCalls_in_order`), and so the sweeper is invisible to the
calls (`runSteps_in_order`); when the times do not grow, it may not answer alike
(`runCalls_out_of_order_not_spec`). Through the same step, a `Get` reads back what a successful
write stored, at any time while it is live (`get_after_write`).
-/

namespace Teleport.Backend.Pgbk

open Teleport.Backend

/-- A call with its transaction time and the revision generated for it. -/
abbrev TimedOp := Op × Int × BitVec 128

/-- Calls run one after the other on the table: their answers and the table they leave. -/
def runCalls (defaultRangeLimit : Nat) : Table → List TimedOp →
    List (Except Error Response) × Table
  | t, [] => ([], t)
  | t, (op, now, revision) :: calls =>
    let r := op.call.run defaultRangeLimit now revision t
    Prod.map (List.cons r.1) id (runCalls defaultRangeLimit r.2 calls)

/-- The same calls on the abstract backend over time. -/
def runOps (defaultRangeLimit : Nat) : ExpiringMap → List TimedOp →
    List (Except Error Response) × ExpiringMap
  | m, [] => ([], m)
  | m, (op, now, _) :: calls =>
    let r := op.apply defaultRangeLimit now m
    Prod.map (List.cons r.1) id (runOps defaultRangeLimit r.2 calls)

/-- The same calls on the live-view backend `Op.spec`: each acts on the entries live at its time,
and what has expired by then is gone for the calls after it. -/
def runSpec (defaultRangeLimit : Nat) : ExpiringMap → List TimedOp →
    List (Except Error Response) × ExpiringMap
  | m, [] => ([], m)
  | m, (op, now, _) :: calls =>
    let r := op.spec defaultRangeLimit (m.liveAt now)
    Prod.map (List.cons r.1) id (runSpec defaultRangeLimit r.2 calls)

/-! ## The expiry sweeper -/

/-- A cycle of the expiry sweeper at its transaction time `now`, as the design describes it (its
body is not in `pgbk.go`): it deletes at most `batchSize` rows that have expired by `now`, the
first such rows in the table's order. -/
def sweep (batchSize : Nat) (now : Int) (t : Table) : Table :=
  let batch := ((t.rows.filter (Row.expired now)).take batchSize).map Row.key
  t.delete fun r => r.expired now && decide (r.key ∈ batch)

/-- A `DELETE` of rows that have expired by `now` removes nothing else. -/
theorem find_delete_expired (now : Int) {cond : Row → Bool}
    (hc : ∀ r, cond r = true → r.expired now = true) (t : Table) (k : Bytes) :
    (t.delete cond).find k = t.find k ∨
      (t.delete cond).find k = none ∧ ∃ r, t.find k = some r ∧ r.live now = false := by
  rw [Table.find_delete]
  cases t.find k with
  | none => exact .inl rfl
  | some r =>
    by_cases hr : cond r = true
    · refine .inr ⟨by simp [Option.filter_some, hr], r, rfl, ?_⟩
      simpa [Row.expired_eq_not_live] using hc r hr
    · exact .inl (by simp [Option.filter_some, hr])

/-- A sweep removes rows that have expired by its time, and nothing else. -/
theorem find_sweep (batchSize : Nat) (now : Int) (t : Table) (k : Bytes) :
    (sweep batchSize now t).find k = t.find k ∨
      (sweep batchSize now t).find k = none ∧ ∃ r, t.find k = some r ∧ r.live now = false :=
  find_delete_expired now (fun _ h => ((Bool.and_eq_true _ _).mp h).1) t k

/-- `m'` is `m` less some entries that had expired by the time of a sweep in `sweeps`. -/
def Swept (sweeps : List Int) (m' m : ExpiringMap) : Prop :=
  ∀ k, m'.lookup k = m.lookup k ∨
    m'.lookup k = none ∧ ∃ e, m.lookup k = some e ∧ ∃ σ ∈ sweeps, e.live σ = false

namespace Swept

variable {sweeps : List Int} {m m' : ExpiringMap}

theorem refl (sweeps : List Int) (m : ExpiringMap) : Swept sweeps m m := fun _ => .inl rfl

/-- With no sweep, nothing is missing. -/
theorem eq_of_nil (h : Swept [] m' m) : m' = m :=
  ExpiringMap.ext_lookup fun k => (h k).resolve_right fun ⟨_, _, _, _, hσ, _⟩ => absurd hσ nofun

/-- A sweep after others: what it removes was in the map, and had expired by its time. -/
theorem sweep {m'' : ExpiringMap} {σ : Int} (h : Swept sweeps m' m) (h' : Swept [σ] m'' m') :
    Swept (sweeps ++ [σ]) m'' m := fun k => by
  rcases h' k with h'' | ⟨hnone, e, he, τ, hτ, hl⟩
  · rcases h k with h₁ | ⟨h₁, e, he, τ, hτ, hl⟩
    · exact .inl (h''.trans h₁)
    · exact .inr ⟨h''.trans h₁, e, he, τ, List.mem_append_left _ hτ, hl⟩
  · have hm : m.lookup k = some e := by
      rcases h k with h₁ | ⟨h₁, -⟩
      · rw [← h₁, he]
      · rw [h₁] at he; cases he
    exact .inr ⟨hnone, e, hm, τ, List.mem_append_right _ hτ, hl⟩

/-- Maps that differ by entries expired by every sweep's time read alike at any later time. -/
theorem liveAt {now : Int} (h : Swept sweeps m' m) (hnow : ∀ σ ∈ sweeps, σ ≤ now) :
    m'.liveAt now = m.liveAt now :=
  ExpiringMap.liveAt_congr now fun k => by
    rcases h k with h₁ | ⟨h₁, e, he, σ, hσ, hl⟩
    · rw [h₁]
    · have hdead : e.live now = false :=
        Bool.eq_false_iff.mpr fun h' => absurd (Entry.live_of_le (hnow σ hσ) h') (by simp [hl])
      simp [h₁, he, Option.filter_some, hdead]

/-- A call at a time after every sweep answers alike on both maps and keeps them related. -/
theorem apply {now : Int} (h : Swept sweeps m' m) (hnow : ∀ σ ∈ sweeps, σ ≤ now)
    (defaultRangeLimit : Nat) (op : Op) :
    (op.apply defaultRangeLimit now m').1 = (op.apply defaultRangeLimit now m).1 ∧
      Swept sweeps (op.apply defaultRangeLimit now m').2 (op.apply defaultRangeLimit now m).2 := by
  have hl := h.liveAt hnow
  obtain ⟨w, hw⟩ := op.apply_writes defaultRangeLimit now
  refine ⟨by rw [(op.apply_liveAt defaultRangeLimit now m').1,
    (op.apply_liveAt defaultRangeLimit now m).1, hl], fun k => ?_⟩
  rw [hw, hw, hl]
  cases w (m.liveAt now) k with
  | some x => exact .inl rfl
  | none => exact h k

end Swept

/-- One sweep leaves a table whose full view is the one before, less entries expired by its
time. -/
theorem fullView_sweep (batchSize : Nat) (now : Int) (t : Table) :
    Swept [now] (fullView (sweep batchSize now t)) (fullView t) := fun k => by
  rcases find_sweep batchSize now t k with h | ⟨h, r, hr, hl⟩
  · exact .inl (by simp only [lookup_fullView, h])
  · exact .inr ⟨by simp [h], r.entry, by simp [hr], now, List.mem_singleton_self _, hl⟩

/-! ## Every run -/

/-- A step of the backend over time: a call with its transaction time and the revision generated
for it, or a cycle of the expiry sweeper at its transaction time. -/
inductive Step where
  | call (op : Op) (now : Int) (revision : BitVec 128)
  | sweep (now : Int)
deriving DecidableEq, Repr

namespace Step

/-- The call of a step. -/
def timedOp : Step → Option TimedOp
  | .call op now revision => some (op, now, revision)
  | .sweep _ => none

/-- The time of a sweep. -/
def sweepTime : Step → Option Int
  | .call .. => none
  | .sweep now => some now

/-- The transaction time of a step. -/
def time : Step → Int
  | .call _ now _ => now
  | .sweep now => now

/-- A sweep serialized before a call runs at a time not after the call's. -/
def Before : Step → Step → Prop
  | .sweep σ, .call _ now _ => σ ≤ now
  | _, _ => True

instance : DecidableRel Before := fun a b =>
  match a, b with
  | .sweep σ, .call _ now _ => inferInstanceAs (Decidable (σ ≤ now))
  | .sweep _, .sweep _ => isTrue trivial
  | .call .., _ => isTrue trivial

theorem before_of_time_le {a b : Step} (h : a.time ≤ b.time) : a.Before b := by
  cases a <;> cases b <;> first | exact h | trivial

theorem timedOp_time {s : Step} {c : TimedOp} (h : s.timedOp = some c) : c.2.1 = s.time := by
  cases s with
  | call op now revision => cases h; rfl
  | sweep _ => cases h

end Step

/-- Steps run one after the other on the table: the calls' answers, and the table left. -/
def runSteps (defaultRangeLimit batchSize : Nat) : Table → List Step →
    List (Except Error Response) × Table
  | t, [] => ([], t)
  | t, .call op now revision :: steps =>
    let r := op.call.run defaultRangeLimit now revision t
    Prod.map (List.cons r.1) id (runSteps defaultRangeLimit batchSize r.2 steps)
  | t, .sweep now :: steps => runSteps defaultRangeLimit batchSize (sweep batchSize now t) steps

/-- A run of steps from a table whose full view is `m` less entries swept before every step:
the answers are those of the calls alone on `m`, and the full view stays `m`'s less what the
earlier sweeps and the run's own removed. -/
theorem runSteps_runOps (defaultRangeLimit batchSize : Nat) :
    ∀ (steps : List Step) (t : Table) (m : ExpiringMap) (sweeps : List Int),
      steps.Pairwise Step.Before → (∀ σ ∈ sweeps, ∀ s ∈ steps, Step.Before (.sweep σ) s) →
      Swept sweeps (fullView t) m →
      (runSteps defaultRangeLimit batchSize t steps).1 =
          (runOps defaultRangeLimit m (steps.filterMap Step.timedOp)).1 ∧
        Swept (sweeps ++ steps.filterMap Step.sweepTime)
          (fullView (runSteps defaultRangeLimit batchSize t steps).2)
          (runOps defaultRangeLimit m (steps.filterMap Step.timedOp)).2
  | [], t, m, sweeps, _, _, hs => ⟨rfl, by simpa using hs⟩
  | .call op now revision :: steps, t, m, sweeps, hp, hb, hs => by
    obtain ⟨h1, h2⟩ := op.fullRefines defaultRangeLimit t now revision
    obtain ⟨a1, a2⟩ :=
      hs.apply (fun σ hσ => hb σ hσ _ (List.mem_cons_self _ _)) defaultRangeLimit op
    obtain ⟨ih1, ih2⟩ := runSteps_runOps defaultRangeLimit batchSize steps _ _ sweeps
      (List.pairwise_cons.mp hp).2 (fun σ hσ s hs => hb σ hσ s (List.mem_cons_of_mem _ hs))
      (h2 ▸ a2)
    simp only [runSteps, runOps, List.filterMap_cons, Step.timedOp, Step.sweepTime,
      Prod.map_fst, Prod.map_snd, id_eq, List.cons.injEq]
    exact ⟨⟨h1.trans a1, ih1⟩, ih2⟩
  | .sweep σ :: steps, t, m, sweeps, hp, hb, hs => by
    obtain ⟨ih1, ih2⟩ := runSteps_runOps defaultRangeLimit batchSize steps (sweep batchSize σ t) m
      (sweeps ++ [σ]) (List.pairwise_cons.mp hp).2
      (fun τ hτ s hs => (List.mem_append.mp hτ).elim
        (fun hτ => hb τ hτ s (List.mem_cons_of_mem _ hs))
        fun hτ => (List.mem_singleton.mp hτ) ▸ (List.pairwise_cons.mp hp).1 s hs)
      (hs.sweep (fullView_sweep batchSize σ t))
    simp only [runSteps, List.filterMap_cons, Step.timedOp, Step.sweepTime]
    exact ⟨ih1, by simpa using ih2⟩

/-- With the expiry sweeper between the calls, along every schedule in which no sweep is
serialized before a call with an earlier transaction time, the table answers every call as the
abstract backend over time answers the calls alone, and its full view is that backend's map less
entries that had expired by the time of some sweep. -/
theorem runSteps_refines (defaultRangeLimit batchSize : Nat) (steps : List Step) (t : Table)
    (h : steps.Pairwise Step.Before) :
    (runSteps defaultRangeLimit batchSize t steps).1 =
        (runOps defaultRangeLimit (fullView t) (steps.filterMap Step.timedOp)).1 ∧
      Swept (steps.filterMap Step.sweepTime)
        (fullView (runSteps defaultRangeLimit batchSize t steps).2)
        (runOps defaultRangeLimit (fullView t) (steps.filterMap Step.timedOp)).2 :=
  runSteps_runOps defaultRangeLimit batchSize steps t _ [] h (fun _ h => absurd h nofun)
    (Swept.refl _ _)

/-- A `Put` of the empty key expiring at 10, a sweep at 12, and a `Get` of the key at 12. -/
def putSweepGet : List Step :=
  [.call (.put Bytes.empty Bytes.empty (some 10)) 0 0, .sweep 12, .call (.get Bytes.empty) 12 0]

theorem runSteps_refines_putSweepGet :
    putSweepGet.Pairwise Step.Before ∧
      (runSteps 0 1 Table.empty putSweepGet).1 =
          (runOps 0 (fullView Table.empty) (putSweepGet.filterMap Step.timedOp)).1 ∧
        Swept (putSweepGet.filterMap Step.sweepTime)
          (fullView (runSteps 0 1 Table.empty putSweepGet).2)
          (runOps 0 (fullView Table.empty) (putSweepGet.filterMap Step.timedOp)).2 :=
  ⟨by decide, runSteps_refines 0 1 putSweepGet Table.empty (by decide)⟩

/-- A call as a step. -/
def Step.ofCall (c : TimedOp) : Step := .call c.1 c.2.1 c.2.2

@[simp] theorem filterMap_timedOp_ofCall (calls : List TimedOp) :
    (calls.map Step.ofCall).filterMap Step.timedOp = calls := by
  induction calls <;> simp [*, Step.ofCall, Step.timedOp]

@[simp] theorem filterMap_sweepTime_ofCall (calls : List TimedOp) :
    (calls.map Step.ofCall).filterMap Step.sweepTime = [] := by
  induction calls <;> simp [*, Step.ofCall, Step.sweepTime]

theorem pairwise_before_ofCall (calls : List TimedOp) :
    (calls.map Step.ofCall).Pairwise Step.Before :=
  List.pairwise_map.mpr (List.pairwise_of_forall fun _ _ => trivial)

/-- A run of calls is a run of steps without a sweep. -/
theorem runSteps_ofCall (defaultRangeLimit batchSize : Nat) (calls : List TimedOp) (t : Table) :
    runSteps defaultRangeLimit batchSize t (calls.map Step.ofCall) =
      runCalls defaultRangeLimit t calls := by
  induction calls generalizing t with
  | nil => rfl
  | cons c calls ih => simp only [List.map_cons, Step.ofCall, runSteps, runCalls, ih]

/-- Along every sequence of calls, at any transaction times in any order, the table answers each
call as the abstract backend over time does, and leaves the table whose full view is the map the
abstract backend leaves. -/
theorem runCalls_refines (defaultRangeLimit : Nat) (calls : List TimedOp) (t : Table) :
    (runCalls defaultRangeLimit t calls).1 = (runOps defaultRangeLimit (fullView t) calls).1 ∧
      fullView (runCalls defaultRangeLimit t calls).2 =
        (runOps defaultRangeLimit (fullView t) calls).2 := by
  obtain ⟨h1, h2⟩ := runSteps_runOps defaultRangeLimit 0 (calls.map Step.ofCall) t (fullView t) []
    (pairwise_before_ofCall calls) (fun _ h => absurd h nofun) (Swept.refl _ _)
  simp only [runSteps_ofCall, filterMap_timedOp_ofCall, filterMap_sweepTime_ofCall,
    List.append_nil] at h1 h2
  exact ⟨h1, h2.eq_of_nil⟩

/-- Maps alike at `τ` answer alike along calls whose times do not go below `τ` and only grow. -/
theorem runOps_eq_runSpec (defaultRangeLimit : Nat) (calls : List TimedOp) :
    ∀ (m₁ m₂ : ExpiringMap) (τ : Int), m₁.liveAt τ = m₂.liveAt τ →
      (τ :: calls.map fun c => c.2.1).Chain' (· ≤ ·) →
      (runOps defaultRangeLimit m₁ calls).1 = (runSpec defaultRangeLimit m₂ calls).1 := by
  induction calls with
  | nil => exact fun _ _ _ _ _ => rfl
  | cons c calls ih =>
    obtain ⟨op, now, revision⟩ := c
    intro m₁ m₂ τ hτ hchain
    obtain ⟨hle, hchain⟩ := List.chain'_cons.mp hchain
    have hnow : m₁.liveAt now = m₂.liveAt now := by
      rw [← ExpiringMap.liveAt_liveAt_of_le m₁ τ hle, hτ,
        ExpiringMap.liveAt_liveAt_of_le m₂ τ hle]
    obtain ⟨l1, l2⟩ := op.apply_liveAt defaultRangeLimit now m₁
    simp only [runOps, runSpec, Prod.map_fst, List.cons.injEq]
    rw [hnow] at l1 l2
    exact ⟨l1, ih _ _ now l2 hchain⟩

/-- From one map, calls whose times only grow answer alike on both backends. -/
theorem runOps_eq_runSpec_of_chain (defaultRangeLimit : Nat) (m : ExpiringMap) :
    ∀ calls : List TimedOp, (calls.map fun c => c.2.1).Chain' (· ≤ ·) →
      (runOps defaultRangeLimit m calls).1 = (runSpec defaultRangeLimit m calls).1
  | [], _ => rfl
  | c :: calls, hinc =>
    runOps_eq_runSpec defaultRangeLimit (c :: calls) m m c.2.1 rfl
      (List.chain'_cons.mpr ⟨le_rfl, hinc⟩)

/-- Along a sequence of calls whose transaction times only grow, the table answers each call as
the live-view backend `Op.spec` answers it. -/
theorem runCalls_in_order (defaultRangeLimit : Nat) (calls : List TimedOp) (t : Table)
    (hinc : (calls.map fun c => c.2.1).Chain' (· ≤ ·)) :
    (runCalls defaultRangeLimit t calls).1 = (runSpec defaultRangeLimit (fullView t) calls).1 := by
  have h := (runSteps_runOps defaultRangeLimit 0 (calls.map Step.ofCall) t (fullView t) []
    (pairwise_before_ofCall calls) (fun _ h => absurd h nofun) (Swept.refl _ _)).1
  rw [runSteps_ofCall, filterMap_timedOp_ofCall] at h
  exact h.trans (runOps_eq_runSpec_of_chain defaultRangeLimit _ calls hinc)

theorem runCalls_in_order_put_get :
    ((([(.put Bytes.empty Bytes.empty (some 10), 0, 0), (.get Bytes.empty, 5, 0)] :
        List TimedOp).map fun c => c.2.1).Chain' (· ≤ ·)) ∧
      (runCalls 0 Table.empty [(.put Bytes.empty Bytes.empty (some 10), 0, 0),
          (.get Bytes.empty, 5, 0)]).1 =
        (runSpec 0 (fullView Table.empty) [(.put Bytes.empty Bytes.empty (some 10), 0, 0),
          (.get Bytes.empty, 5, 0)]).1 :=
  ⟨by simp, runCalls_in_order 0 _ Table.empty (by simp)⟩

/-- Along every schedule whose transaction times never decrease, sweeps included, the sweeper is
invisible: the table answers every call as the live-view backend answers the calls alone. -/
theorem runSteps_in_order (defaultRangeLimit batchSize : Nat) (steps : List Step) (t : Table)
    (hinc : (steps.map Step.time).Chain' (· ≤ ·)) :
    (runSteps defaultRangeLimit batchSize t steps).1 =
      (runSpec defaultRangeLimit (fullView t) (steps.filterMap Step.timedOp)).1 := by
  have hp : steps.Pairwise fun a b => a.time ≤ b.time :=
    List.pairwise_map.mp (List.chain'_iff_pairwise.mp hinc)
  have hcalls : ((steps.filterMap Step.timedOp).map fun c => c.2.1).Chain' (· ≤ ·) :=
    List.chain'_iff_pairwise.mpr (List.pairwise_map.mpr (hp.filterMap _ fun _ _ hab _ hc _ hc' => by
      rw [Step.timedOp_time hc, Step.timedOp_time hc']; exact hab))
  exact (runSteps_runOps defaultRangeLimit batchSize steps t (fullView t) []
    (hp.imp Step.before_of_time_le) (fun _ h => absurd h nofun) (Swept.refl _ _)).1.trans
    (runOps_eq_runSpec_of_chain defaultRangeLimit _ _ hcalls)

theorem runSteps_in_order_putSweepGet :
    (putSweepGet.map Step.time).Chain' (· ≤ ·) ∧
      (runSteps 0 1 Table.empty putSweepGet).1 =
        (runSpec 0 (fullView Table.empty) (putSweepGet.filterMap Step.timedOp)).1 :=
  have hinc : (putSweepGet.map Step.time).Chain' (· ≤ ·) := by simp [putSweepGet, Step.time]
  ⟨hinc, runSteps_in_order 0 1 putSweepGet Table.empty hinc⟩

/-- With times out of order the live-view backend is no model of the runs: after a `Put` that
expires at 10, a `Get` at 12 and then a `Get` at 5 find the row at 5 in the table, which the
live-view backend dropped at 12. -/
theorem runCalls_out_of_order_not_spec : ¬ ∀ (defaultRangeLimit : Nat) (calls : List TimedOp)
    (t : Table),
    (runCalls defaultRangeLimit t calls).1 = (runSpec defaultRangeLimit (fullView t) calls).1 := by
  intro h
  have := congrArg (List.map Except.isOk) (h 0 [(.put Bytes.empty Bytes.empty (some 10), 0, 0),
    (.get Bytes.empty, 12, 0), (.get Bytes.empty, 5, 0)] Table.empty)
  exact absurd this (by decide)

/-! ## Reading one's writes -/

/-- The key and entry a write stores when it succeeds: `Create`, `Put`, `Update` and
`CompareAndSwap` store their item. -/
def Op.written : Op → Option (Bytes × Entry)
  | .create k v e | .put k v e | .update k v e | .compareAndSwap _ _ _ k v e => some (k, ⟨v, e⟩)
  | _ => none

theorem Op.apply_written {op : Op} {k : Bytes} {x : Entry} (hw : op.written = some (k, x))
    {defaultRangeLimit : Nat} {now : Int} {m : ExpiringMap} {r : Response}
    (h : (op.apply defaultRangeLimit now m).1 = .ok r) :
    (op.apply defaultRangeLimit now m).2 = m.insert k x := by
  cases op <;> simp only [Op.written, reduceCtorEq, Option.some.injEq, Prod.mk.injEq] at hw <;>
    obtain ⟨rfl, rfl⟩ := hw <;> simp only [Op.apply] at h ⊢ <;> split_ifs at h ⊢ <;> rfl

/-- After a write that succeeds, a `Get` of its key, at any later or earlier time, returns the
item written while it is live then, and `NotFound` when it is not. -/
theorem get_after_write (defaultRangeLimit : Nat) (t : Table) (now now' : Int)
    (revision revision' : BitVec 128) (op : Op) (k : Bytes) (x : Entry)
    (hw : op.written = some (k, x)) (r : Response)
    (hok : (op.call.run defaultRangeLimit now revision t).1 = .ok r) :
    ((Op.get k).call.run defaultRangeLimit now' revision'
        (op.call.run defaultRangeLimit now revision t).2).1 =
      if x.live now' then .ok (.item ⟨some k, some x.value, x.expires⟩)
      else .error (notFound k) := by
  obtain ⟨h1, h2⟩ := op.fullRefines defaultRangeLimit t now revision
  obtain ⟨g1, -⟩ := (Op.get k).fullRefines defaultRangeLimit
    (op.call.run defaultRangeLimit now revision t).2 now' revision'
  rw [g1, h2, Op.apply_written hw (h1 ▸ hok)]
  by_cases hl : x.live now' <;>
    simp [Op.apply, hl, Option.filter_some]

theorem get_after_create_expired :
    (Op.create Bytes.empty Bytes.empty (some 3)).written =
        some (Bytes.empty, ⟨Bytes.empty, some 3⟩) ∧
      ((Op.create Bytes.empty Bytes.empty (some 3)).call.run 0 0 0 Table.empty).1 =
        .ok (.lease ⟨some Bytes.empty, some 3⟩) ∧
      ((Op.get Bytes.empty).call.run 0 5 0
          ((Op.create Bytes.empty Bytes.empty (some 3)).call.run 0 0 0 Table.empty).2).1 =
        if (⟨Bytes.empty, some 3⟩ : Entry).live 5 then
          .ok (.item ⟨some Bytes.empty, some Bytes.empty, some 3⟩)
        else .error (notFound Bytes.empty) :=
  ⟨rfl, rfl, get_after_write 0 Table.empty 0 5 0 0 _ _ _ rfl _ rfl⟩

end Teleport.Backend.Pgbk
