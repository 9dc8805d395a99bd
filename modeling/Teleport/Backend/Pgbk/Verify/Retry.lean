import Teleport.Backend.Pgbk.Backend

/-!
# Re-running a call's statement

`pgcommon.Retry` runs a write's closure again when an attempt fails in transit, and an attempt
whose commit was lost has changed the table all the same. Each write generates its revision
before the loop, so every attempt runs the same statement. `call_run_twice`: running a call at
`t₁` and then again at `t₂` leaves the table one run at `t₁` or one run at `t₂` leaves, for every
table and every two times, a row expiring between them included; so does any sequence of
attempts (`call_runEach_eq`). Both come from `Call.run_cases`: a call either leaves
every table as it is or runs one statement, which reruns after itself at any other time.
-/

namespace Teleport.Backend.Pgbk

open Teleport.Backend

/-- Running `stmt₂` on what `stmt₁` left changes nothing: `stmt₁` failed or left the table as
it was, or `stmt₂` leaves exactly what `stmt₁` left. -/
def Reruns (stmt₁ stmt₂ : Table → Except PgError (Table × Nat)) : Prop :=
  ∀ t t' n, stmt₁ t = .ok (t', n) → t' = t ∨ ∃ n', stmt₂ t' = .ok (t', n')

namespace Table

section Keyed

variable {t : Table} {c₁ c₂ : Row → Bool} {key : Option Bytes}
  (hk₁ : ∀ r, c₁ r = true → key = some r.key) (hk₂ : ∀ r, c₂ r = true → key = some r.key)
include hk₁ hk₂

/-- Two conditional `UPDATE`s at one key with the same idempotent `SET` list: the first
rewrote nothing, or the second rewrites nothing new. -/
theorem update_rerun (f : Row → Row) (hf : ∀ r, (f r).key = r.key) (hidem : ∀ r, f (f r) = f r) :
    t.update c₁ f hf = t ∨ (t.update c₁ f hf).update c₂ f hf = t.update c₁ f hf := by
  by_cases h : ∃ r ∈ t.rows, c₁ r = true
  · obtain ⟨r, hr, hc⟩ := h
    refine .inr (update_update (k := r.key)
      (fun r' h' => Option.some.inj ((hk₂ r' h').symm.trans (hk₁ r hc))) hidem fun r' hr' hk => ?_)
    rwa [List.inj_on_of_nodup_map t.pkey hr' hr hk]
  · exact .inl (update_of_count_eq_zero (List.countP_eq_zero.mpr fun r hr hc => h ⟨r, hr, hc⟩))

/-- Two conditional `DELETE`s at one key: the first found nothing, or the second finds
nothing. -/
theorem delete_rerun : t.delete c₁ = t ∨ (t.delete c₁).delete c₂ = t.delete c₁ := by
  by_cases h : ∃ r ∈ t.rows, c₁ r = true
  · obtain ⟨r, hr, hc⟩ := h
    refine .inr (delete_of_count_eq_zero (List.countP_eq_zero.mpr fun r' hr' hc' => ?_))
    obtain ⟨hr'', hn⟩ := List.mem_filter.mp hr'
    have hk : r'.key = r.key := Option.some.inj ((hk₂ r' hc').symm.trans (hk₁ r hc))
    rw [List.inj_on_of_nodup_map t.pkey hr'' hr hk, hc] at hn
    exact absurd hn (by decide)
  · exact .inl (delete_of_count_eq_zero (List.countP_eq_zero.mpr fun r hr hc => h ⟨r, hr, hc⟩))

end Keyed

theorem delete_delete_self (t : Table) (c : Row → Bool) : (t.delete c).delete c = t.delete c :=
  delete_of_count_eq_zero (List.countP_eq_zero.mpr fun r hr hc => by
    simp [delete, List.mem_filter, hc] at hr)

end Table

/-! ## Each statement reruns -/

section Statements

variable (e : Option Int) (rev : BitVec 128)

/-- The upsert's second run finds the row its first run wrote, and rewrites it with itself. -/
theorem reruns_execUpsert (key value : Option Bytes) (c₁ c₂ : Row → Bool) :
    Reruns (fun s => s.execUpsert key value e rev c₁)
      (fun s => s.execUpsert key value e rev c₂) := by
  intro t t' n h
  dsimp only at h ⊢
  match key, value with
  | none, _ => nomatch h
  | some _, none => nomatch h
  | some k, some v =>
    obtain ⟨t₁, hset, heq⟩ := t.execUpsert_spec k v e rev c₁
    rw [heq] at h
    split at h <;> cases h
    · exact .inr (Table.execUpsert_of_find c₂ (by rw [hset k, if_pos rfl]))
    · exact .inl rfl

variable {c₁ c₂ : Row → Bool} {key : Option Bytes}
  (hk₁ : ∀ r, c₁ r = true → key = some r.key) (hk₂ : ∀ r, c₂ r = true → key = some r.key)
include hk₁ hk₂

theorem reruns_execUpdate (value : Option Bytes) :
    Reruns (fun s => s.execUpdate c₁ value e rev) (fun s => s.execUpdate c₂ value e rev) := by
  intro t t' n h
  cases value with
  | none =>
    simp only [Table.execUpdate] at h
    split at h <;> cases h
    exact .inl rfl
  | some v =>
    cases h
    exact (Table.update_rerun hk₁ hk₂ (Row.rewrite v e rev) (fun _ => rfl) fun _ => rfl).imp_right
      fun h => ⟨_, congrArg (fun s => (.ok (s, _) : Except PgError (Table × Nat))) h⟩

theorem reruns_execExtend :
    Reruns (fun s => .ok (s.execExtend c₁ e rev)) (fun s => .ok (s.execExtend c₂ e rev)) := by
  rintro t _ _ ⟨⟩
  exact (Table.update_rerun hk₁ hk₂ (Row.extend e rev) (fun _ => rfl) fun _ => rfl).imp_right
    fun h => ⟨_, congrArg (fun s => (.ok (s, _) : Except PgError (Table × Nat))) h⟩

theorem reruns_execDelete :
    Reruns (fun s => .ok (s.execDelete c₁)) (fun s => .ok (s.execDelete c₂)) := by
  rintro t _ _ ⟨⟩
  exact (Table.delete_rerun hk₁ hk₂).imp_right
    fun h => ⟨_, congrArg (fun s => (.ok (s, _) : Except PgError (Table × Nat))) h⟩

end Statements

theorem reruns_execDelete_self (c : Row → Bool) :
    Reruns (fun s => .ok (s.execDelete c)) (fun s => .ok (s.execDelete c)) := by
  rintro t _ _ ⟨⟩
  exact .inr ⟨_, congrArg (fun s => (.ok (s, _) : Except PgError (Table × Nat)))
    (Table.delete_delete_self t c)⟩

/-- The table a statement leaves: the one it writes, or the same table when it fails and its
transaction rolls back. -/
def Table.after (t : Table) : Except PgError (Table × Nat) → Table
  | .error _ => t
  | .ok (t', _) => t'

@[simp] theorem exec_snd {α : Type} (t : Table) (r : Except PgError (Table × Nat))
    (answer : Nat → Except Error α) : (exec t r answer).2 = t.after r := by
  cases r <;> rfl

/-- A statement run twice in a `Retry` closure leaves what one of its two runs leaves alone. -/
theorem after_rerun {stmt₁ stmt₂ : Table → Except PgError (Table × Nat)} (h : Reruns stmt₁ stmt₂)
    (t : Table) :
    (t.after (stmt₁ t)).after (stmt₂ (t.after (stmt₁ t))) = t.after (stmt₁ t) ∨
      (t.after (stmt₁ t)).after (stmt₂ (t.after (stmt₁ t))) = t.after (stmt₂ t) := by
  cases h₁ : stmt₁ t with
  | error => exact .inr rfl
  | ok p =>
    obtain ⟨t', n⟩ := p
    rcases h t t' n h₁ with rfl | ⟨n', h₂⟩
    · exact .inr rfl
    · exact .inl (by simp only [Table.after, h₂])

/-! ## Each call -/

/-- What a call does to the table: nothing, at any time, or the one statement it runs at its
transaction time, whose run at any other time after it has no further effect. -/
theorem Call.run_cases (defaultRangeLimit : Nat) (revision : BitVec 128) (c : Call) :
    (∀ now t, (c.run defaultRangeLimit now revision t).2 = t) ∨
      ∃ stmt : Int → Table → Except PgError (Table × Nat),
        (∀ now t, (c.run defaultRangeLimit now revision t).2 = t.after (stmt now t)) ∧
          ∀ now₁ now₂, Reruns (stmt now₁) (stmt now₂) := by
  cases c with
  | create i =>
    exact .inr ⟨fun now t => t.execUpsert i.key i.value i.expires revision (Row.expired now),
      fun _ _ => by simp [Call.run, Pgbk.create], fun _ _ => reruns_execUpsert _ _ _ _ _ _⟩
  | put i =>
    exact .inr ⟨fun _ t => t.execUpsert i.key i.value i.expires revision fun _ => true,
      fun _ _ => by simp [Call.run, Pgbk.put], fun _ _ => reruns_execUpsert _ _ _ _ _ _⟩
  | compareAndSwap ex r =>
    by_cases hb : bytesEqual ex.key r.key
    · have hk : ∀ now, ∀ r', (Row.keyIs r.key r' && Row.valueIs ex.value r' && r'.live now) = true →
          r.key = some r'.key := fun _ _ h => Row.key_of_keyIs_and ((Bool.and_eq_true _ _).mp h).1
      refine .inr ⟨fun now t => t.execUpdate
        (fun r' => Row.keyIs r.key r' && Row.valueIs ex.value r' && r'.live now) r.value r.expires
          revision, fun _ _ => ?_, fun now₁ now₂ => reruns_execUpdate _ _ (hk now₁) (hk now₂) _⟩
      simp [Call.run, Pgbk.compareAndSwap, hb]
    · exact .inl fun _ _ => by simp [Call.run, Pgbk.compareAndSwap, hb]
  | update i =>
    exact .inr ⟨fun now t => t.execUpdate (fun r => Row.keyIs i.key r && r.live now) i.value
      i.expires revision, fun _ _ => by simp [Call.run, Pgbk.update], fun _ _ =>
        reruns_execUpdate _ _ (fun _ => Row.key_of_keyIs_and) (fun _ => Row.key_of_keyIs_and) _⟩
  | get _ | getRange _ _ _ => exact .inl fun _ _ => rfl
  | delete key =>
    exact .inr ⟨fun now t => .ok (t.execDelete fun r => Row.keyIs key r && r.live now),
      fun _ _ => by simp [Call.run, Pgbk.delete], fun _ _ =>
        reruns_execDelete (fun _ => Row.key_of_keyIs_and) (fun _ => Row.key_of_keyIs_and)⟩
  | deleteRange s e =>
    exact .inr ⟨fun _ t => .ok (t.execDelete (Row.keyBetween s e)),
      fun _ _ => by simp [Call.run, Pgbk.deleteRange],
      fun _ _ => reruns_execDelete_self _⟩
  | keepAlive l e =>
    exact .inr ⟨fun now t => .ok (t.execExtend (fun r => Row.keyIs l.key r && r.live now) e
      revision), fun _ _ => by simp [Call.run, Pgbk.keepAlive], fun _ _ =>
        reruns_execExtend _ _ (fun _ => Row.key_of_keyIs_and) (fun _ => Row.key_of_keyIs_and)⟩

/-- Running a call at `t₁` and once more at `t₂`, with the revision generated before the retry
loop, leaves what one run at `t₁` or one run at `t₂` leaves. -/
theorem call_run_twice (defaultRangeLimit : Nat) (t : Table) (t₁ t₂ : Int) (revision : BitVec 128)
    (c : Call) :
    (c.run defaultRangeLimit t₂ revision (c.run defaultRangeLimit t₁ revision t).2).2 =
        (c.run defaultRangeLimit t₁ revision t).2 ∨
      (c.run defaultRangeLimit t₂ revision (c.run defaultRangeLimit t₁ revision t).2).2 =
        (c.run defaultRangeLimit t₂ revision t).2 := by
  rcases Call.run_cases defaultRangeLimit revision c with h | ⟨stmt, h, hre⟩
  · exact .inl (h t₂ _)
  · simp only [h]
    exact after_rerun (hre t₁ t₂) t

/-! ## Every sequence of attempts -/

/-- The table left by attempts of `c` at each time of `times` in turn, each one committed. -/
def Call.runEach (defaultRangeLimit : Nat) (revision : BitVec 128) (c : Call) :
    Table → List Int → Table
  | t, [] => t
  | t, now :: times =>
    c.runEach defaultRangeLimit revision (c.run defaultRangeLimit now revision t).2 times

/-- However many attempts commit, the table is what one attempt at one of their times leaves. -/
theorem call_runEach_eq (defaultRangeLimit : Nat) (revision : BitVec 128) (c : Call) :
    ∀ (first : Int) (times : List Int) (t : Table), ∃ now ∈ first :: times,
      c.runEach defaultRangeLimit revision t (first :: times) =
        (c.run defaultRangeLimit now revision t).2
  | first, [], _ => ⟨first, List.mem_singleton_self first, rfl⟩
  | first, next :: times, t => by
    obtain ⟨now, hnow, heq⟩ := call_runEach_eq defaultRangeLimit revision c next times
      (c.run defaultRangeLimit first revision t).2
    rw [Call.runEach, heq]
    rcases Call.run_cases defaultRangeLimit revision c with hc | ⟨stmt, hc, hre⟩
    · exact ⟨first, List.mem_cons_self _ _, hc now _⟩
    · simp only [hc]
      rcases after_rerun (hre first now) t with h | h
      · exact ⟨first, List.mem_cons_self _ _, h⟩
      · exact ⟨now, List.mem_cons_of_mem _ hnow, h⟩

end Teleport.Backend.Pgbk
