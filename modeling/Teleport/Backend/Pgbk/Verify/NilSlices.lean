import Teleport.Backend.Pgbk.Backend

/-!
# Nil byte slices

Every call binds its Go slices to its statement unchanged, and the driver binds a `nil` slice
as `NULL`. A `NULL` key or value is rejected by the `NOT NULL` columns, and `kv.key = NULL`,
`kv.value = NULL` and `BETWEEN NULL AND ...` hold of no row; the empty slice is an ordinary
`bytea`. `put_nil_value_fails` shows the two apart on every table: `Put` of a `nil` value fails
and leaves the table, `Put` of the empty value writes its row. `call_run_nil_key`: a call with a
`nil` key argument changes nothing, and only `GetRange` and `DeleteRange` of a `nil` bound
succeed, reading and deleting no row.
-/

namespace Teleport.Backend.Pgbk

open Teleport.Backend

namespace Table

variable (t : Table)

@[simp] theorem count_false : t.count (fun _ => false) = 0 :=
  List.countP_eq_zero.mpr fun _ _ => Bool.false_ne_true

@[simp] theorem selectRow_false : t.selectRow (fun _ => false) = none :=
  List.find?_eq_none.mpr fun _ _ => Bool.false_ne_true

@[simp] theorem update_false (f : Row → Row) (hf : ∀ r, (f r).key = r.key) :
    t.update (fun _ => false) f hf = t :=
  update_of_count_eq_zero (count_false t)

@[simp] theorem delete_false : t.delete (fun _ => false) = t :=
  delete_of_count_eq_zero (count_false t)

end Table

@[simp] theorem between_none_left (hi : Option Bytes) (k : Bytes) : between none hi k = false := rfl

@[simp] theorem between_none_right (lo : Option Bytes) (k : Bytes) :
    between lo none k = false := by
  cases lo <;> rfl

@[simp] theorem keyBetween_none_left (hi : Option Bytes) :
    Row.keyBetween none hi = fun _ => false := rfl

@[simp] theorem keyBetween_none_right (lo : Option Bytes) :
    Row.keyBetween lo none = fun _ => false :=
  funext fun r => between_none_right lo r.key

/-- `Put` of a `nil` value fails with the `NOT NULL` violation of `value` on every table and
leaves it; `Put` of the empty value succeeds and writes its row. -/
theorem put_nil_value_fails (defaultRangeLimit : Nat) (t : Table) (now : Int)
    (revision : BitVec 128) (k : Bytes) (e : Option Int) :
    (Call.put ⟨some k, none, e⟩).run defaultRangeLimit now revision t =
        (.error (.store (.notNullViolation "value")), t) ∧
      ∃ t', t.SetAt t' k (some ⟨k, Bytes.empty, e, revision⟩) ∧
        (Call.put ⟨some k, some Bytes.empty, e⟩).run defaultRangeLimit now revision t =
          (.ok (.lease ⟨some k, e⟩), t') := by
  obtain ⟨t', hset, heq⟩ := put_spec t revision k Bytes.empty e
  exact ⟨rfl, t', hset, by simp only [Call.run, heq]; rfl⟩

/-- The arguments a call binds to `kv.key`: its target key, or the bounds of its range. -/
def Call.keyArgs : Call → List (Option Bytes)
  | .create i | .put i | .update i => [i.key]
  | .compareAndSwap _ r => [r.key]
  | .get key | .delete key => [key]
  | .getRange s e _ | .deleteRange s e => [s, e]
  | .keepAlive l _ => [l.key]

/-- A call with a `nil` key argument leaves the table, and fails unless it is `GetRange`, which
finds no item, or `DeleteRange`. -/
theorem call_run_nil_key (defaultRangeLimit : Nat) (t : Table) (now : Int) (revision : BitVec 128)
    (c : Call) (h : none ∈ c.keyArgs) :
    (c.run defaultRangeLimit now revision t).2 = t ∧
      ((∃ err, (c.run defaultRangeLimit now revision t).1 = .error err) ∨
        (c.run defaultRangeLimit now revision t).1 = .ok (.items []) ∨
        ∃ s e, c = .deleteRange s e) := by
  cases c with
  | create i | put i =>
    obtain ⟨key, value, e⟩ := i
    obtain rfl : key = none := by simpa [Call.keyArgs, eq_comm] using h
    exact ⟨rfl, .inl ⟨_, rfl⟩⟩
  | update i =>
    obtain ⟨key, value, e⟩ := i
    obtain rfl : key = none := by simpa [Call.keyArgs, eq_comm] using h
    cases value <;> simp [Call.run, update, Table.execUpdate, exec, Except.map]
  | compareAndSwap ex r =>
    obtain ⟨key, value, e⟩ := r
    obtain rfl : key = none := by simpa [Call.keyArgs, eq_comm] using h
    simp only [Call.run, compareAndSwap]
    split
    · simp [Except.map]
    · cases value <;> simp [Table.execUpdate, exec, Except.map]
  | get key =>
    obtain rfl : key = none := by simpa [Call.keyArgs, eq_comm] using h
    simp [Call.run, get, Except.map]
  | getRange s e limit =>
    have hs : s = none ∨ e = none := by simpa [Call.keyArgs, eq_comm] using h
    refine ⟨rfl, .inr (.inl ?_)⟩
    rcases hs with rfl | rfl <;>
      simp [Call.run, getRange, Table.selectRange, Row.keyBetween, orderByKey, Except.map]
  | delete key =>
    obtain rfl : key = none := by simpa [Call.keyArgs, eq_comm] using h
    simp [Call.run, delete, Table.execDelete, exec, Except.map]
  | deleteRange s e =>
    have hs : s = none ∨ e = none := by simpa [Call.keyArgs, eq_comm] using h
    refine ⟨?_, .inr (.inr ⟨s, e, rfl⟩)⟩
    rcases hs with rfl | rfl <;>
      simp [Call.run, deleteRange, Table.execDelete, exec]
  | keepAlive l e =>
    obtain ⟨key, le⟩ := l
    obtain rfl : key = none := by simpa [Call.keyArgs, eq_comm] using h
    simp [Call.run, keepAlive, Table.execExtend, exec, Except.map]

/-- The table after a `Put` of the value `[2]` at the key `[1]`. -/
def oneRowTable : Table := (put Table.empty 0 ⟨some ⟨[1]⟩, some ⟨[2]⟩, none⟩).2

theorem update_nil_key_keeps :
    none ∈ (Call.update ⟨none, some ⟨[3]⟩, none⟩).keyArgs ∧
      ((Call.update ⟨none, some ⟨[3]⟩, none⟩).run 0 0 0 oneRowTable).2 = oneRowTable ∧
      ((∃ err, ((Call.update ⟨none, some ⟨[3]⟩, none⟩).run 0 0 0 oneRowTable).1 = .error err) ∨
        ((Call.update ⟨none, some ⟨[3]⟩, none⟩).run 0 0 0 oneRowTable).1 = .ok (.items []) ∨
        ∃ s e, Call.update ⟨none, some ⟨[3]⟩, none⟩ = .deleteRange s e) :=
  ⟨List.mem_singleton_self _, call_run_nil_key 0 oneRowTable 0 0 _ (List.mem_singleton_self _)⟩

end Teleport.Backend.Pgbk
