import Teleport.Backend.Pgbk.Backend

/-!
# What a call changes in the table

The table has `REPLICA IDENTITY FULL` and is in a publication, so every physical change to a
row reaches the change feed, even one `Get` cannot see. `call_run_effects` bounds the physical
changes of one call, on every table, expired rows and revisions included:

* a call that returns an error, and every `Get` and `GetRange`, leaves the table as it was;
* a call changes no row at a key it does not touch (its target key, or `DeleteRange`'s range);
* a successful `Create`, `Put`, `Update`, `CompareAndSwap` or `KeepAlive` leaves its target row
  carrying the revision generated for the call.
-/

namespace Teleport.Backend.Pgbk

open Teleport.Backend

/-- The keys a call may write: its target key, or the keys in `DeleteRange`'s range. -/
def Call.Touches : Call → Bytes → Prop
  | .create i, k | .put i, k | .update i, k => i.key = some k
  | .compareAndSwap _ r, k => r.key = some k
  | .delete key, k => key = some k
  | .deleteRange s e, k => between s e k = true
  | .keepAlive l _, k => l.key = some k
  | .get _, _ | .getRange _ _ _, _ => False

/-- `Get` and `GetRange`. -/
def Call.IsRead : Call → Prop
  | .get _ | .getRange _ _ _ => True
  | _ => False

/-- The key of the row a call stamps with its revision, for the calls that stamp one. -/
def Call.stampedKey : Call → Option (Option Bytes)
  | .create i | .put i | .update i => some i.key
  | .compareAndSwap _ r => some r.key
  | .keepAlive l _ => some l.key
  | _ => none

/-- The bounds `call_run_effects` states, for one call's answer and table `res` on `t`. -/
structure Effects {α : Type} (c : Call) (revision : BitVec 128) (t : Table)
    (res : Except Error α × Table) : Prop where
  error_keeps : ∀ err, res.1 = .error err → res.2 = t
  frame : ∀ k, ¬ c.Touches k → res.2.find k = t.find k
  stamped : ∀ key, c.stampedKey = some key → ∀ a, res.1 = .ok a →
    ∃ k r, key = some k ∧ res.2.find k = some r ∧ r.revision = revision

namespace Effects

variable {α β : Type} {c : Call} {revision : BitVec 128} {t : Table}

theorem of_error {err : Error} : Effects c revision t ((.error err : Except Error α), t) :=
  ⟨fun _ _ => rfl, fun _ _ => rfl, fun _ _ _ h => by cases h⟩

/-- A success that replaced the row at a touched key with `r?`, a row stamped when `c` stamps. -/
theorem of_setAt {a : α} {t' : Table} {k : Bytes} {r? : Option Row} (hset : t.SetAt t' k r?)
    (htouch : c.Touches k)
    (hstamp : ∀ key, c.stampedKey = some key →
      key = some k ∧ ∃ r, r? = some r ∧ r.revision = revision) :
    Effects c revision t ((.ok a : Except Error α), t') := by
  refine ⟨fun _ h => (by cases h), fun k' hk' => ?_, fun key hkey _ _ => ?_⟩
  · have hne : k' ≠ k := fun h => hk' (h ▸ htouch)
    rw [hset k', if_neg hne]
  · obtain ⟨rfl, r, rfl, hr⟩ := hstamp key hkey
    exact ⟨k, r, rfl, by rw [hset k, if_pos rfl], hr⟩

theorem map (f : α → β) {res : Except Error α × Table} (h : Effects c revision t res) :
    Effects c revision t (Prod.map (Except.map f) id res) := by
  obtain ⟨r, t'⟩ := res
  refine ⟨fun err he => ?_, h.frame, fun key hkey b hb => ?_⟩
  · cases r <;> simp [Except.map] at he
    exact h.error_keeps _ (by rw [he])
  · cases r with
    | error => simp [Except.map] at hb
    | ok a => exact h.stamped key hkey a rfl

end Effects

/-! ## The statements, read through `RowsAffected > 0` -/

section Keyed

variable {α : Type} {t : Table} {cond : Row → Bool} {key : Option Bytes}
  (hk : ∀ r, cond r = true → key = some r.key)
include hk

/-- A conditional `UPDATE` at `key` fails leaving the table, or rewrites the row at the key. -/
theorem exec_update_cases (f : Row → Row) (hf : ∀ r, (f r).key = r.key) (a : α) (err : Error) :
    exec t (.ok (t.update cond f hf, t.count cond)) (fun n => if 0 < n then .ok a else .error err)
        = (.error err, t) ∨
      ∃ k r, key = some k ∧ t.find k = some r ∧
        exec t (.ok (t.update cond f hf, t.count cond))
            (fun n => if 0 < n then .ok a else .error err) = (.ok a, t.update cond f hf) ∧
        t.SetAt (t.update cond f hf) k (some (f r)) := by
  by_cases hpos : 0 < t.count cond
  · obtain ⟨r, hr, hc⟩ := Table.count_pos_iff.mp hpos
    have hk' : ∀ r', cond r' = true → r'.key = r.key :=
      fun r' h' => Option.some.inj ((hk r' h').symm.trans (hk r hc))
    have hfind : t.find r.key = some r := Table.find_eq_some_iff.mpr ⟨hr, rfl⟩
    exact .inr ⟨r.key, r, hk r hc, hfind, by simp [exec, hpos],
      (Table.update_keyed_pass hk' hfind hc f hf).2⟩
  · have h0 : t.count cond = 0 := by omega
    exact .inl (by simp [exec, h0, Table.update_of_count_eq_zero h0])

/-- A conditional `DELETE` at `key` fails leaving the table, or removes the row at the key. -/
theorem exec_delete_cases (a : α) (err : Error) :
    exec t (.ok (t.delete cond, t.count cond)) (fun n => if 0 < n then .ok a else .error err)
        = (.error err, t) ∨
      ∃ k, key = some k ∧
        exec t (.ok (t.delete cond, t.count cond))
            (fun n => if 0 < n then .ok a else .error err) = (.ok a, t.delete cond) ∧
        t.SetAt (t.delete cond) k none := by
  by_cases hpos : 0 < t.count cond
  · obtain ⟨r, hr, hc⟩ := Table.count_pos_iff.mp hpos
    have hk' : ∀ r', cond r' = true → r'.key = r.key :=
      fun r' h' => Option.some.inj ((hk r' h').symm.trans (hk r hc))
    have hfind : t.find r.key = some r := Table.find_eq_some_iff.mpr ⟨hr, rfl⟩
    exact .inr ⟨r.key, hk r hc, by simp [exec, hpos], (Table.delete_keyed_pass hk' hfind hc).2⟩
  · have h0 : t.count cond = 0 := by omega
    exact .inl (by simp [exec, h0, Table.delete_of_count_eq_zero h0])

end Keyed

/-! ## Each call -/

section Calls

variable (t : Table) (now : Int) (revision : BitVec 128)

theorem effects_create (i : Item) : Effects (.create i) revision t (create t now revision i) := by
  obtain ⟨key, value, e⟩ := i
  match key, value with
  | none, _ => exact Effects.of_error
  | some _, none => exact Effects.of_error
  | some k, some v =>
    obtain ⟨t', hset, heq⟩ := t.execUpsert_spec k v e revision (Row.expired now)
    simp only [create, heq]
    split
    · exact Effects.of_setAt hset rfl fun _ h => ⟨(Option.some.inj h).symm, _, rfl, rfl⟩
    · exact Effects.of_error

theorem effects_put (i : Item) : Effects (.put i) revision t (put t revision i) := by
  obtain ⟨key, value, e⟩ := i
  match key, value with
  | none, _ => exact Effects.of_error
  | some _, none => exact Effects.of_error
  | some k, some v =>
    obtain ⟨t', hset, heq⟩ := put_spec t revision k v e
    rw [heq]
    exact Effects.of_setAt hset rfl fun _ h => ⟨(Option.some.inj h).symm, _, rfl, rfl⟩

theorem effects_update (i : Item) : Effects (.update i) revision t (update t now revision i) := by
  obtain ⟨key, value, e⟩ := i
  cases value with
  | none =>
    simp only [update, Table.execUpdate]
    split <;> exact Effects.of_error
  | some v =>
    have hk : ∀ r, (Row.keyIs key r && r.live now) = true → key = some r.key :=
      fun _ => Row.key_of_keyIs_and
    simp only [update, Table.execUpdate]
    rcases exec_update_cases (t := t) hk (Row.rewrite v e revision) (fun _ => rfl)
      (newLease ⟨key, some v, e⟩) (.trace .notFound "key %q does not exist" [key]) with
      h | ⟨k, r, rfl, -, h, hset⟩ <;> rw [h]
    · exact Effects.of_error
    · exact Effects.of_setAt hset rfl fun _ h => ⟨(Option.some.inj h).symm, _, rfl, rfl⟩

theorem effects_compareAndSwap (expected replaceWith : Item) :
    Effects (.compareAndSwap expected replaceWith) revision t
      (compareAndSwap t now revision expected replaceWith) := by
  obtain ⟨key, value, e⟩ := replaceWith
  unfold compareAndSwap
  split
  · exact Effects.of_error
  · cases value with
    | none =>
      simp only [Table.execUpdate]
      split <;> exact Effects.of_error
    | some v =>
      have hk : ∀ r, (Row.keyIs key r && Row.valueIs expected.value r && r.live now) = true →
          key = some r.key := fun _ h => Row.key_of_keyIs_and ((Bool.and_eq_true _ _).mp h).1
      simp only [Table.execUpdate]
      rcases exec_update_cases (t := t) hk (Row.rewrite v e revision) (fun _ => rfl)
        (newLease ⟨key, some v, e⟩)
        (.trace .compareFailed "key %q does not exist or does not match expected" [key]) with
        h | ⟨k, r, rfl, -, h, hset⟩ <;> rw [h]
      · exact Effects.of_error
      · exact Effects.of_setAt hset rfl fun _ h => ⟨(Option.some.inj h).symm, _, rfl, rfl⟩

theorem effects_keepAlive (lease : Lease) (expires : Option Int) :
    Effects (.keepAlive lease expires) revision t (keepAlive t now revision lease expires) := by
  have hk : ∀ r, (Row.keyIs lease.key r && r.live now) = true → lease.key = some r.key :=
    fun _ => Row.key_of_keyIs_and
  simp only [keepAlive, Table.execExtend]
  rcases exec_update_cases (t := t) hk (Row.extend expires revision) (fun _ => rfl) ()
    (.trace .notFound "key %q does not exist" [lease.key]) with h | ⟨k, r, hk, -, h, hset⟩ <;>
    rw [h]
  · exact Effects.of_error
  · exact Effects.of_setAt hset hk fun _ h => ⟨(Option.some.inj h).symm.trans hk, _, rfl, rfl⟩

theorem effects_delete (key : Option Bytes) :
    Effects (.delete key) revision t (delete t now key) := by
  have hk : ∀ r, (Row.keyIs key r && r.live now) = true → key = some r.key :=
    fun _ => Row.key_of_keyIs_and
  simp only [delete, Table.execDelete]
  rcases exec_delete_cases (t := t) hk ()
    (.trace .notFound "key %q does not exist" [key]) with h | ⟨k, hk, h, hset⟩ <;> rw [h]
  · exact Effects.of_error
  · exact Effects.of_setAt hset hk fun _ h => by cases h

theorem effects_deleteRange (s e : Option Bytes) :
    Effects (.deleteRange s e) revision t (deleteRange t s e) := by
  refine ⟨fun _ h => (by cases h), fun k hk => ?_, fun _ h => (by cases h)⟩
  show (t.delete (Row.keyBetween s e)).find k = t.find k
  rw [Table.find_delete]
  cases hr : t.find k with
  | none => rfl
  | some r =>
    obtain rfl := (Table.find_eq_some_iff.mp hr).2
    have hout : between s e r.key = false := by simpa [Call.Touches] using hk
    simp [Option.filter_some, Row.keyBetween, hout]

end Calls

/-! ## Every call -/

/-- On every table, at every transaction time: a call that fails, and every read, leaves the
table; no call changes a row at a key it does not touch; a successful stamping write leaves its
target row with the call's revision. -/
theorem call_run_effects (defaultRangeLimit : Nat) (t : Table) (now : Int)
    (revision : BitVec 128) (c : Call) :
    ((∀ err, (c.run defaultRangeLimit now revision t).1 = .error err →
        (c.run defaultRangeLimit now revision t).2 = t) ∧
      (c.IsRead → (c.run defaultRangeLimit now revision t).2 = t)) ∧
    (∀ k, ¬ c.Touches k → (c.run defaultRangeLimit now revision t).2.find k = t.find k) ∧
    (∀ key, c.stampedKey = some key →
      ∀ resp, (c.run defaultRangeLimit now revision t).1 = .ok resp →
      ∃ k r, key = some k ∧ (c.run defaultRangeLimit now revision t).2.find k = some r ∧
        r.revision = revision) := by
  have h : Effects c revision t (c.run defaultRangeLimit now revision t) := by
    cases c with
    | create i => exact (effects_create t now revision i).map _
    | put i => exact (effects_put t revision i).map _
    | compareAndSwap e r => exact (effects_compareAndSwap t now revision e r).map _
    | update i => exact (effects_update t now revision i).map _
    | get key => exact ⟨fun _ _ => rfl, fun _ _ => rfl, fun _ h => by cases h⟩
    | getRange s e limit => exact ⟨fun _ _ => rfl, fun _ _ => rfl, fun _ h => by cases h⟩
    | delete key => exact (effects_delete t now revision key).map _
    | deleteRange s e => exact (effects_deleteRange t revision s e).map _
    | keepAlive l e => exact (effects_keepAlive t now revision l e).map _
  have hread : c.IsRead → (c.run defaultRangeLimit now revision t).2 = t := by
    cases c <;> simp [Call.IsRead, Call.run]
  exact ⟨⟨h.error_keeps, hread⟩, h.frame, h.stamped⟩

end Teleport.Backend.Pgbk
