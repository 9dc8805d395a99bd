import Teleport.Backend.Bytes
import Mathlib.Data.List.Sort

/-!
# The `kv` table and the statements the backend runs on it

`schemas` creates

    CREATE TABLE kv (key bytea NOT NULL, value bytea NOT NULL, expires timestamptz,
      revision uuid NOT NULL, CONSTRAINT kv_pkey PRIMARY KEY (key));

A `Table` is the rows of `kv` in storage order with `kv_pkey` as a field, so that a table with
two rows at one key cannot be built. Timestamps are `Int` microseconds, the resolution of
`timestamptz`; `now` is the transaction time, the only clock the backend reads.

Each statement is a function from the table to the table it leaves and the command tag's
`RowsAffected`, or to the error that rolls it back. A parameter is a SQL value: `none` is
`NULL`, of which no `=` and no `BETWEEN` holds and which no `NOT NULL` column accepts.
-/

namespace Teleport.Backend.Pgbk

open Teleport.Backend

/-- A row of `kv`. -/
structure Row where
  key : Bytes
  value : Bytes
  expires : Option Int
  revision : BitVec 128
deriving DecidableEq, Repr

/-- `k BETWEEN $1 AND $2` for a key `k`. -/
def between (lo hi : Option Bytes) (k : Bytes) : Bool :=
  match lo, hi with
  | some lo, some hi => decide (lo ≤ k ∧ k ≤ hi)
  | _, _ => false

namespace Row

/-- `kv.expires IS NULL OR kv.expires > now()`: the filter of every read and of every
conditional write but Create's. -/
def live (now : Int) (r : Row) : Bool :=
  match r.expires with
  | none => true
  | some e => decide (now < e)

/-- `kv.expires IS NOT NULL AND kv.expires <= now()`: Create's `ON CONFLICT` guard. -/
def expired (now : Int) (r : Row) : Bool :=
  match r.expires with
  | none => false
  | some e => decide (e ≤ now)

/-- Create's guard is the exact complement of the liveness filter, `expires = now()` included. -/
theorem expired_eq_not_live (now : Int) (r : Row) : r.expired now = !r.live now := by
  cases h : r.expires with
  | none => simp [expired, live, h]
  | some e => simp only [expired, live, h]; rw [Bool.eq_iff_iff]; simp [Int.not_lt]

/-- `kv.key = $n`. -/
def keyIs (p : Option Bytes) (r : Row) : Bool := decide (p = some r.key)

/-- `kv.value = $n`. -/
def valueIs (p : Option Bytes) (r : Row) : Bool := decide (p = some r.value)

/-- `kv.key BETWEEN $1 AND $2`. -/
def keyBetween (lo hi : Option Bytes) (r : Row) : Bool := between lo hi r.key

@[simp] theorem keyIs_some (k : Bytes) (r : Row) : keyIs (some k) r = decide (r.key = k) := by
  simp [keyIs, eq_comm]

@[simp] theorem keyIs_none (r : Row) : keyIs none r = false := rfl

@[simp] theorem valueIs_none (r : Row) : valueIs none r = false := rfl

/-- A clause `kv.key = $n AND ...` selects rows at `$n` only. -/
theorem key_of_keyIs_and {p : Option Bytes} {b : Bool} {r : Row} (h : (keyIs p r && b) = true) :
    p = some r.key :=
  of_decide_eq_true ((Bool.and_eq_true _ _).mp h).1

/-- The row `SET value = $v, expires = $e, revision = $rev` leaves. -/
def rewrite (v : Bytes) (e : Option Int) (rev : BitVec 128) (r : Row) : Row :=
  { r with value := v, expires := e, revision := rev }

/-- The row `SET expires = $e, revision = $rev` leaves. -/
def extend (e : Option Int) (rev : BitVec 128) (r : Row) : Row :=
  { r with expires := e, revision := rev }

end Row

/-- The `kv` table: its rows in storage order, at most one at each key (`kv_pkey`). -/
@[ext] structure Table where
  rows : List Row
  pkey : (rows.map Row.key).Nodup

/-- A statement's error: a `NULL` written into a `NOT NULL` column (SQLSTATE 23502). -/
inductive PgError where
  | notNullViolation (column : String)
deriving DecidableEq, Repr

/-- `ORDER BY kv.key`. -/
def orderByKey (rows : List Row) : List Row := rows.insertionSort fun a b => a.key ≤ b.key

namespace Table

/-- The empty table. -/
def empty : Table := ⟨[], List.nodup_nil⟩

/-- The row at `k`, if any: the probe of `ON CONFLICT (key)`. -/
def find (t : Table) (k : Bytes) : Option Row := t.rows.find? (fun r => r.key = k)

/-- The number of rows a `WHERE` clause selects. -/
def count (t : Table) (cond : Row → Bool) : Nat := t.rows.countP cond

/-- `UPDATE kv SET ... WHERE cond`: every selected row becomes `f` of it; no `SET` list of the
backend assigns `key`. -/
def update (t : Table) (cond : Row → Bool) (f : Row → Row) (hf : ∀ r, (f r).key = r.key) :
    Table :=
  ⟨t.rows.map (fun r => if cond r then f r else r), by
    rw [List.map_map]
    refine (List.map_congr_left fun r _ => ?_).symm ▸ t.pkey
    by_cases h : cond r <;> simp [h, hf]⟩

/-- `DELETE FROM kv WHERE cond`. -/
def delete (t : Table) (cond : Row → Bool) : Table :=
  ⟨t.rows.filter (fun r => !cond r), t.pkey.sublist ((List.filter_sublist _).map _)⟩

/-- Appends a row at a key the table does not hold. -/
def insert (t : Table) (r : Row) (h : t.find r.key = none) : Table :=
  ⟨t.rows ++ [r], by
    rw [List.map_append, List.nodup_append]
    refine ⟨t.pkey, List.nodup_singleton _, fun k hk hk' => ?_⟩
    obtain ⟨x, hx, rfl⟩ := List.mem_map.mp hk
    have hxr : x.key = r.key := by simpa using hk'
    exact List.find?_eq_none.mp h x hx (by simp [hxr])⟩

/-- `UPDATE kv SET value = $1, expires = $2, revision = $3 WHERE cond`: a `NULL` value fails the
statement as soon as it selects a row. -/
def execUpdate (t : Table) (cond : Row → Bool) (value : Option Bytes) (expires : Option Int)
    (revision : BitVec 128) : Except PgError (Table × Nat) :=
  match value with
  | some v => .ok (t.update cond (Row.rewrite v expires revision) (fun _ => rfl), t.count cond)
  | none => if t.count cond = 0 then .ok (t, 0) else .error (.notNullViolation "value")

/-- `UPDATE kv SET expires = $1, revision = $2 WHERE cond`. -/
def execExtend (t : Table) (cond : Row → Bool) (expires : Option Int) (revision : BitVec 128) :
    Table × Nat :=
  (t.update cond (Row.extend expires revision) (fun _ => rfl), t.count cond)

/-- `DELETE FROM kv WHERE cond`, with its `RowsAffected`. -/
def execDelete (t : Table) (cond : Row → Bool) : Table × Nat :=
  (t.delete cond, t.count cond)

/-- `INSERT INTO kv (key, value, expires, revision) VALUES ($1, $2, $3, $4) ON CONFLICT (key)
DO UPDATE SET value = excluded.value, expires = excluded.expires, revision = excluded.revision
WHERE cond`. The `NOT NULL` checks come before the conflict probe; a conflicting row is
rewritten, and counted, only when it passes `cond`. -/
def execUpsert (t : Table) (key value : Option Bytes) (expires : Option Int)
    (revision : BitVec 128) (cond : Row → Bool) : Except PgError (Table × Nat) :=
  match key, value with
  | none, _ => .error (.notNullViolation "key")
  | some _, none => .error (.notNullViolation "value")
  | some k, some v =>
    match h : t.find k with
    | none => .ok (t.insert ⟨k, v, expires, revision⟩ h, 1)
    | some old =>
      if cond old then
        .ok (t.update (Row.keyIs (some k)) (Row.rewrite v expires revision) (fun _ => rfl), 1)
      else .ok (t, 0)

/-- `SELECT ... FROM kv WHERE cond`, read with `QueryRow`: the first row, if any. -/
def selectRow (t : Table) (cond : Row → Bool) : Option Row := t.rows.find? cond

/-- `SELECT ... FROM kv WHERE cond ORDER BY kv.key LIMIT n`. -/
def selectRange (t : Table) (cond : Row → Bool) (n : Nat) : List Row :=
  (orderByKey (t.rows.filter cond)).take n

/-! ## Reading a table at one key -/

theorem find_eq_some_iff {t : Table} {k : Bytes} {r : Row} :
    t.find k = some r ↔ r ∈ t.rows ∧ r.key = k := by
  refine ⟨fun h => ⟨List.mem_of_find?_eq_some h, by simpa using List.find?_some h⟩, ?_⟩
  rintro ⟨hr, rfl⟩
  cases h : t.find r.key with
  | none => exact absurd (by simp) (List.find?_eq_none.mp h r hr)
  | some r' =>
    have hk : r'.key = r.key := by simpa using List.find?_some h
    rw [List.inj_on_of_nodup_map t.pkey (List.mem_of_find?_eq_some h) hr hk]

theorem find_eq_none_iff {t : Table} {k : Bytes} : t.find k = none ↔ ∀ r ∈ t.rows, r.key ≠ k := by
  simp [find, List.find?_eq_none]

/-- A search whose condition selects only rows at `k` finds the row at `k`, if it passes. -/
theorem find?_keyed {t : Table} {k : Bytes} {cond : Row → Bool}
    (hk : ∀ r, cond r = true → r.key = k) : t.rows.find? cond = (t.find k).filter cond := by
  refine Option.ext fun r => ?_
  simp only [Option.mem_def, Option.filter_eq_some, find_eq_some_iff]
  constructor
  · intro h
    have hc := List.find?_some h
    exact ⟨⟨List.mem_of_find?_eq_some h, hk r hc⟩, hc⟩
  · rintro ⟨⟨hr, hrk⟩, hc⟩
    obtain ⟨r', hr'⟩ := Option.isSome_iff_exists.mp (List.find?_isSome.mpr ⟨r, hr, hc⟩)
    rw [hr', List.inj_on_of_nodup_map t.pkey (List.mem_of_find?_eq_some hr') hr
      ((hk r' (List.find?_some hr')).trans hrk.symm)]

theorem count_pos_iff {t : Table} {cond : Row → Bool} : 0 < t.count cond ↔ ∃ r ∈ t.rows, cond r :=
  List.countP_pos_iff

theorem count_keyed_pos_iff {t : Table} {k : Bytes} {cond : Row → Bool}
    (hk : ∀ r, cond r = true → r.key = k) :
    0 < t.count cond ↔ ∃ r, t.find k = some r ∧ cond r := by
  rw [count_pos_iff]
  exact ⟨fun ⟨r, hr, hc⟩ => ⟨r, find_eq_some_iff.mpr ⟨hr, hk r hc⟩, hc⟩,
    fun ⟨r, hr, hc⟩ => ⟨r, (find_eq_some_iff.mp hr).1, hc⟩⟩

@[simp] theorem find_update (t : Table) (cond : Row → Bool) (f : Row → Row)
    (hf : ∀ r, (f r).key = r.key) (k : Bytes) :
    (t.update cond f hf).find k = (t.find k).map (fun r => if cond r then f r else r) := by
  have hg : ∀ r : Row, (if cond r then f r else r).key = r.key := fun r => by
    split <;> simp [hf]
  simp only [find, update, List.find?_map, Function.comp_def, hg]

@[simp] theorem find_delete (t : Table) (cond : Row → Bool) (k : Bytes) :
    (t.delete cond).find k = (t.find k).filter (fun r => !cond r) := by
  refine Option.ext fun r => ?_
  simp only [Option.mem_def, Option.filter_eq_some, find_eq_some_iff, delete, List.mem_filter]
  tauto

@[simp] theorem find_insert (t : Table) (r : Row) (h : t.find r.key = none) (k : Bytes) :
    (t.insert r h).find k = if r.key = k then some r else t.find k := by
  have hnone := find_eq_none_iff.mp h
  refine Option.ext fun x => ?_
  simp only [Option.mem_def, find_eq_some_iff, insert, List.mem_append, List.mem_singleton]
  by_cases hk : r.key = k
  · subst hk
    simp only [if_true, Option.some.injEq]
    constructor
    · rintro ⟨hx | rfl, hxk⟩
      · exact absurd hxk (hnone x hx)
      · rfl
    · rintro rfl
      exact ⟨Or.inr rfl, rfl⟩
  · simp only [hk, if_false, find_eq_some_iff]
    constructor
    · rintro ⟨hx | rfl, hxk⟩
      · exact ⟨hx, hxk⟩
      · exact absurd hxk hk
    · rintro ⟨hx, hxk⟩
      exact ⟨Or.inl hx, hxk⟩

/-! ## What each statement writes -/

/-- `t'` is `t` with the row at `k` replaced by `r?`, or removed for `none`. -/
def SetAt (t t' : Table) (k : Bytes) (r? : Option Row) : Prop :=
  ∀ k', t'.find k' = if k' = k then r? else t.find k'

theorem update_eq_self {t : Table} {cond : Row → Bool} {f : Row → Row}
    {hf : ∀ r, (f r).key = r.key} (h : ∀ r ∈ t.rows, cond r = true → f r = r) :
    t.update cond f hf = t := by
  ext1
  refine (List.map_congr_left fun r hr => ?_).trans (List.map_id _)
  by_cases hc : cond r <;> simp [hc, h r hr]

theorem update_of_count_eq_zero {t : Table} {cond : Row → Bool} {f : Row → Row}
    {hf : ∀ r, (f r).key = r.key} (h : t.count cond = 0) : t.update cond f hf = t :=
  update_eq_self fun r hr hc => absurd hc (List.countP_eq_zero.mp h r hr)

theorem delete_of_count_eq_zero {t : Table} {cond : Row → Bool} (h : t.count cond = 0) :
    t.delete cond = t := by
  ext1
  exact List.filter_eq_self.mpr fun r hr => by simp [List.countP_eq_zero.mp h r hr]

section Keyed

variable {t : Table} {k : Bytes} {cond : Row → Bool} (hk : ∀ r, cond r = true → r.key = k)
include hk

theorem count_keyed_eq_zero (h : ∀ r, t.find k = some r → cond r = false) : t.count cond = 0 :=
  Nat.eq_zero_of_not_pos fun hp => by
    obtain ⟨r, hr, hc⟩ := (count_keyed_pos_iff hk).mp hp
    simp [h r hr] at hc

theorem setAt_update (f : Row → Row) (hf : ∀ r, (f r).key = r.key) :
    t.SetAt (t.update cond f hf) k ((t.find k).map fun r => if cond r then f r else r) := by
  intro k'
  rw [find_update]
  split
  · rename_i h
    rw [h]
  · rename_i h
    cases hr : t.find k' with
    | none => rfl
    | some r =>
      have hc : cond r = false := by
        by_contra hc
        exact h ((find_eq_some_iff.mp hr).2.symm.trans (hk r (by simpa using hc)))
      simp [hc]

theorem setAt_delete : t.SetAt (t.delete cond) k ((t.find k).filter fun r => !cond r) := by
  intro k'
  rw [find_delete]
  split
  · rename_i h
    rw [h]
  · rename_i h
    cases hr : t.find k' with
    | none => rfl
    | some r =>
      have hc : cond r = false := by
        by_contra hc
        exact h ((find_eq_some_iff.mp hr).2.symm.trans (hk r (by simpa using hc)))
      simp [Option.filter, hc]

/-- An `UPDATE` whose condition the row at `k` passes rewrites that row alone. -/
theorem update_keyed_pass {r : Row} (h : t.find k = some r) (hc : cond r = true) (f : Row → Row)
    (hf : ∀ r, (f r).key = r.key) :
    0 < t.count cond ∧ t.SetAt (t.update cond f hf) k (some (f r)) := by
  refine ⟨(count_keyed_pos_iff hk).mpr ⟨r, h, hc⟩, ?_⟩
  have := setAt_update (t := t) hk f hf
  rwa [h, Option.map_some', if_pos hc] at this

/-- An `UPDATE` whose condition no row passes changes nothing. -/
theorem update_keyed_fail (h : ∀ r, t.find k = some r → cond r = false) (f : Row → Row)
    (hf : ∀ r, (f r).key = r.key) : t.count cond = 0 ∧ t.update cond f hf = t :=
  ⟨count_keyed_eq_zero hk h, update_of_count_eq_zero (count_keyed_eq_zero hk h)⟩

/-- A `DELETE` whose condition the row at `k` passes removes that row alone. -/
theorem delete_keyed_pass {r : Row} (h : t.find k = some r) (hc : cond r = true) :
    0 < t.count cond ∧ t.SetAt (t.delete cond) k none := by
  refine ⟨(count_keyed_pos_iff hk).mpr ⟨r, h, hc⟩, ?_⟩
  have := setAt_delete (t := t) hk
  rwa [h, Option.filter_some, if_neg (by simp [hc])] at this

/-- A `DELETE` whose condition no row passes changes nothing. -/
theorem delete_keyed_fail (h : ∀ r, t.find k = some r → cond r = false) :
    t.count cond = 0 ∧ t.delete cond = t :=
  ⟨count_keyed_eq_zero hk h, delete_of_count_eq_zero (count_keyed_eq_zero hk h)⟩

/-- A keyed `UPDATE` rewrites the row at `k` when that row passes, and changes nothing else. -/
theorem update_keyed_cases (f : Row → Row) (hf : ∀ r, (f r).key = r.key) :
    (∃ r, t.find k = some r ∧ cond r = true ∧ 0 < t.count cond ∧
        t.SetAt (t.update cond f hf) k (some (f r))) ∨
      ((∀ r, t.find k = some r → cond r = false) ∧ t.count cond = 0 ∧ t.update cond f hf = t) := by
  by_cases h : ∃ r, t.find k = some r ∧ cond r = true
  · obtain ⟨r, hr, hc⟩ := h
    exact .inl ⟨r, hr, hc, update_keyed_pass hk hr hc f hf⟩
  · have hfail : ∀ r, t.find k = some r → cond r = false :=
      fun r hr => Bool.eq_false_iff.mpr fun hc => h ⟨r, hr, hc⟩
    exact .inr ⟨hfail, update_keyed_fail hk hfail f hf⟩

/-- A keyed `DELETE` removes the row at `k` when that row passes, and changes nothing else. -/
theorem delete_keyed_cases :
    (∃ r, t.find k = some r ∧ cond r = true ∧ 0 < t.count cond ∧ t.SetAt (t.delete cond) k none) ∨
      ((∀ r, t.find k = some r → cond r = false) ∧ t.count cond = 0 ∧ t.delete cond = t) := by
  by_cases h : ∃ r, t.find k = some r ∧ cond r = true
  · obtain ⟨r, hr, hc⟩ := h
    exact .inl ⟨r, hr, hc, delete_keyed_pass hk hr hc⟩
  · have hfail : ∀ r, t.find k = some r → cond r = false :=
      fun r hr => Bool.eq_false_iff.mpr fun hc => h ⟨r, hr, hc⟩
    exact .inr ⟨hfail, delete_keyed_fail hk hfail⟩

/-- Rewriting the row at `k` a second time with an idempotent `f` changes nothing more. -/
theorem update_update {c₀ : Row → Bool} {f : Row → Row} {hf : ∀ r, (f r).key = r.key}
    (hidem : ∀ r, f (f r) = f r) (h₀ : ∀ r ∈ t.rows, r.key = k → c₀ r = true) :
    (t.update c₀ f hf).update cond f hf = t.update c₀ f hf := by
  ext1
  simp only [update, List.map_map, Function.comp_def]
  refine List.map_congr_left fun r hr => ?_
  by_cases h : c₀ r
  · simp [h, hidem]
  · have : cond r = false := by
      by_contra hc
      exact h (h₀ r hr (hk r (by simpa using hc)))
    simp [h, this]

end Keyed

/-- A write of a non-nil key and value replaces the row at the key with the row written,
unless a conflicting row fails the `ON CONFLICT` clause. -/
theorem execUpsert_spec (t : Table) (k v : Bytes) (e : Option Int) (rev : BitVec 128)
    (cond : Row → Bool) : ∃ t', t.SetAt t' k (some ⟨k, v, e, rev⟩) ∧
      t.execUpsert (some k) (some v) e rev cond =
        if (t.find k).all cond then .ok (t', 1) else .ok (t, 0) := by
  dsimp only [execUpsert]
  split
  · rename_i h
    refine ⟨t.insert ⟨k, v, e, rev⟩ h, fun k' => ?_, by simp [h]⟩
    rw [find_insert]
    by_cases hk' : k' = k
    · simp [hk']
    · simp [hk', Ne.symm hk']
  · rename_i old h
    refine ⟨_, fun k' => ?_, by simp only [h, Option.all_some]; split <;> rfl⟩
    have hold : old.key = k := (find_eq_some_iff.mp h).2
    rw [@setAt_update t k (Row.keyIs (some k)) (fun r h => by simpa using h) _ _ k', h]
    split <;> simp [hold, Row.rewrite]

/-- Writing the row the table already holds at its key leaves the table. -/
theorem execUpsert_of_find {t : Table} {k v : Bytes} {e : Option Int} {rev : BitVec 128}
    (cond : Row → Bool) (h : t.find k = some ⟨k, v, e, rev⟩) :
    ∃ n, t.execUpsert (some k) (some v) e rev cond = .ok (t, n) := by
  dsimp only [execUpsert]
  split
  · rename_i h'
    rw [h] at h'
    cases h'
  · rename_i old h'
    rw [h] at h'
    cases h'
    split
    · refine ⟨1, ?_⟩
      rw [update_eq_self]
      intro r hr hc
      have : r = ⟨k, v, e, rev⟩ :=
        (Option.some.inj ((find_eq_some_iff.mpr ⟨hr, by simpa using hc⟩).symm.trans h))
      subst this
      rfl
    · exact ⟨0, rfl⟩

end Table

/-! ## `ORDER BY kv.key ... LIMIT n` -/

theorem orderByKey_perm (rows : List Row) : (orderByKey rows).Perm rows :=
  List.perm_insertionSort _ _

/-- Rows with distinct keys come out of `ORDER BY kv.key` strictly increasing in key. -/
theorem orderByKey_sorted {rows : List Row} (h : (rows.map Row.key).Nodup) :
    (orderByKey rows).Pairwise fun a b => a.key < b.key := by
  haveI : IsTotal Row fun a b => a.key ≤ b.key := ⟨fun a b => le_total a.key b.key⟩
  haveI : IsTrans Row fun a b => a.key ≤ b.key := ⟨fun _ _ _ => le_trans⟩
  have hne : (orderByKey rows).Pairwise fun a b => a.key ≠ b.key :=
    List.pairwise_map.mp (((orderByKey_perm rows).map _).nodup_iff.mpr h)
  exact ((List.sorted_insertionSort _ rows).and hne).imp fun h => lt_of_le_of_ne h.1 h.2

/-- Ordering commutes with a filter. -/
theorem orderByKey_filter {rows : List Row} (h : (rows.map Row.key).Nodup) (p : Row → Bool) :
    orderByKey (rows.filter p) = (orderByKey rows).filter p := by
  haveI : IsAntisymm Row fun a b => a.key < b.key :=
    ⟨fun _ _ h₁ h₂ => absurd (h₁.trans h₂) (lt_irrefl _)⟩
  refine List.eq_of_perm_of_sorted ?_
    (orderByKey_sorted (h.sublist ((List.filter_sublist _).map _)))
    ((orderByKey_sorted h).sublist (List.filter_sublist _))
  exact (orderByKey_perm _).trans ((orderByKey_perm rows).filter p).symm

theorem Table.live_keys_nodup (t : Table) (now : Int) :
    ((t.rows.filter fun r => r.live now).map Row.key).Nodup :=
  t.pkey.sublist ((List.filter_sublist _).map _)

/-- `SELECT ... WHERE cond ORDER BY kv.key LIMIT n` answers rows of the table that meet `cond`,
in strictly increasing key order, at most `n` of them, and a row meeting `cond` that it leaves out
has a key above every key it answers. -/
theorem Table.selectRange_spec (t : Table) (cond : Row → Bool) (n : Nat) :
    (t.selectRange cond n).Pairwise (fun a b => a.key < b.key) ∧
      (t.selectRange cond n).length ≤ n ∧
      (∀ r ∈ t.selectRange cond n, r ∈ t.rows ∧ cond r = true) ∧
      ∀ r ∈ t.rows, cond r = true → r ∈ t.selectRange cond n ∨
        ((t.selectRange cond n).length = n ∧
          ∀ r' ∈ t.selectRange cond n, r'.key < r.key) := by
  have hsorted := orderByKey_sorted (t.pkey.sublist ((List.filter_sublist (p := cond) _).map _))
  have hmem : ∀ r, r ∈ orderByKey (t.rows.filter cond) ↔ r ∈ t.rows ∧ cond r = true :=
    fun r => (orderByKey_perm _).mem_iff.trans List.mem_filter
  refine ⟨hsorted.sublist (List.take_sublist _ _), List.length_take_le _ _,
    fun r hr => (hmem r).mp (List.mem_of_mem_take hr), fun r hr hc => ?_⟩
  by_cases hin : r ∈ t.selectRange cond n
  · exact .inl hin
  have hsplit := List.take_append_drop n (orderByKey (t.rows.filter cond))
  have hdrop : r ∈ (orderByKey (t.rows.filter cond)).drop n := by
    have := (hmem r).mpr ⟨hr, hc⟩
    rw [← hsplit, List.mem_append] at this
    exact this.resolve_left hin
  have hlen := List.length_pos_of_mem hdrop
  rw [List.length_drop] at hlen
  rw [← hsplit] at hsorted
  exact .inr ⟨List.length_take_of_le (by omega),
    fun r' hr' => (List.pairwise_append.mp hsorted).2.2 r' hr' r hdrop⟩

end Teleport.Backend.Pgbk
