import Teleport.Backend.Pgbk.Backend
import Teleport.Backend.ExpiringMap

/-!
# The backend refines an expiring map

Two abstractions of the table. The **full view** `fullView t` is every row of `kv`, expired ones
included, as the expiring map it binds; the **live view** `liveView t now` is its part live at
`now` (`liveView_eq_liveAt`). Expired rows the sweeper has not yet deleted are in the table and
not in the live view, so every statement below is about every table, those rows included.

Two abstract backends. `Op.spec` is the backend's purpose, written on the live view: each call
with non-nil byte strings as it acts on an expiring map. `Op.apply` is the same backend over
time: a map that keeps an entry whose expiry has passed, unseen, until a write replaces it, each
call reading the entries live at its own time; at that time it answers as `Op.spec` and leaves
the same live entries (`Op.apply_liveAt`).

`Op.fullRefines`: one call on the table answers what `Op.apply` answers on the full view and
leaves exactly the map `Op.apply` leaves. `call_run_refines` follows: one call answers what
`Op.spec` answers on the live view, and leaves a table whose live view is the live part of the
map `Op.spec` leaves. A write whose expiry is already past at `now` binds its key in the
abstract map to an entry that is not live, so the view after it omits the key
(`refines_without_liveAt_fails`).
-/

namespace Teleport.Backend.Pgbk

open Teleport.Backend

/-! ## The live view -/

/-- What a row binds its key to. -/
def Row.entry (r : Row) : Entry := ⟨r.value, r.expires⟩

/-- A row as a binding. -/
def Row.binding (r : Row) : Bytes × Entry := (r.key, r.entry)

@[simp] theorem Row.entry_live (now : Int) (r : Row) : r.entry.live now = r.live now := rfl

/-- The live view of `kv` at `now`. -/
def liveView (t : Table) (now : Int) : ExpiringMap :=
  ⟨(orderByKey (t.rows.filter fun r => r.live now)).map Row.binding,
    List.pairwise_map.mpr (orderByKey_sorted (t.live_keys_nodup now))⟩

theorem liveView_bindings (t : Table) (now : Int) :
    (liveView t now).bindings = (orderByKey (t.rows.filter fun r => r.live now)).map Row.binding :=
  rfl

@[simp] theorem lookup_liveView (t : Table) (now : Int) (k : Bytes) :
    (liveView t now).lookup k = ((t.find k).filter fun r => r.live now).map Row.entry := by
  refine Option.ext fun e => ?_
  simp only [Option.mem_def, ExpiringMap.lookup_eq_some_iff, liveView, List.mem_map,
    (orderByKey_perm _).mem_iff, List.mem_filter, Option.map_eq_some', Option.filter_eq_some,
    Table.find_eq_some_iff, Row.binding, Prod.mk.injEq]
  constructor
  · rintro ⟨r, ⟨hr, hl⟩, hk, he⟩
    exact ⟨r, ⟨⟨hr, hk⟩, hl⟩, he⟩
  · rintro ⟨r, ⟨⟨hr, hk⟩, hl⟩, he⟩
    exact ⟨r, ⟨hr, hl⟩, hk, he⟩

/-- Every row of `kv`, expired ones included, as the expiring map it binds. -/
def fullView (t : Table) : ExpiringMap :=
  ⟨(orderByKey t.rows).map Row.binding, List.pairwise_map.mpr (orderByKey_sorted t.pkey)⟩

@[simp] theorem lookup_fullView (t : Table) (k : Bytes) :
    (fullView t).lookup k = (t.find k).map Row.entry := by
  refine Option.ext fun e => ?_
  simp only [Option.mem_def, ExpiringMap.lookup_eq_some_iff, fullView, List.mem_map,
    (orderByKey_perm _).mem_iff, Option.map_eq_some', Table.find_eq_some_iff, Row.binding,
    Prod.mk.injEq]
  constructor
  · rintro ⟨r, hr, hk, he⟩
    exact ⟨r, ⟨hr, hk⟩, he⟩
  · rintro ⟨r, ⟨hr, hk⟩, he⟩
    exact ⟨r, hr, hk, he⟩

/-- The live view is the live part of the full view. -/
theorem liveView_eq_liveAt (t : Table) (now : Int) : liveView t now = (fullView t).liveAt now :=
  ExpiringMap.ext_lookup fun k => by
    cases h : t.find k with
    | none => simp [h]
    | some r => by_cases hl : r.live now <;> simp [h, hl, Option.filter_some]

/-- A write of one row at its key is an insert into the full view. -/
theorem fullView_setAt_some {t t' : Table} {k : Bytes} {r : Row} (h : t.SetAt t' k (some r)) :
    fullView t' = (fullView t).insert k r.entry :=
  ExpiringMap.ext_lookup fun k' => by
    simp only [lookup_fullView, h k', ExpiringMap.lookup_insert]
    split <;> rfl

/-- Removing the row at a key is an erase from the full view. -/
theorem fullView_setAt_none {t t' : Table} {k : Bytes} (h : t.SetAt t' k none) :
    fullView t' = (fullView t).erase k :=
  ExpiringMap.ext_lookup fun k' => by
    simp only [lookup_fullView, h k', ExpiringMap.lookup_erase]
    split <;> rfl

/-! ## The abstract backend -/

/-- A backend call whose byte-string arguments are all non-nil. -/
inductive Op where
  | create (key value : Bytes) (expires : Option Int)
  | put (key value : Bytes) (expires : Option Int)
  | compareAndSwap (expectedKey expectedValue : Bytes) (expectedExpires : Option Int)
      (key value : Bytes) (expires : Option Int)
  | update (key value : Bytes) (expires : Option Int)
  | get (key : Bytes)
  | getRange (startKey endKey : Bytes) (limit : Int)
  | delete (key : Bytes)
  | deleteRange (startKey endKey : Bytes)
  | keepAlive (key : Bytes) (leaseExpires expires : Option Int)
deriving DecidableEq, Repr

/-- An item with a non-nil key and value. -/
def item (k v : Bytes) (e : Option Int) : Item := ⟨some k, some v, e⟩

/-- The call an `Op` is. -/
def Op.call : Op → Call
  | .create k v e => .create (item k v e)
  | .put k v e => .put (item k v e)
  | .compareAndSwap ek ev ee k v e => .compareAndSwap (item ek ev ee) (item k v e)
  | .update k v e => .update (item k v e)
  | .get k => .get (some k)
  | .getRange s e limit => .getRange (some s) (some e) limit
  | .delete k => .delete (some k)
  | .deleteRange s e => .deleteRange (some s) (some e)
  | .keepAlive k le e => .keepAlive ⟨some k, le⟩ e

/-- The item a read returns for a binding. -/
def bindingItem (b : Bytes × Entry) : Item := ⟨some b.1, some b.2.value, b.2.expires⟩

/-- `NotFound` for a key with no live entry. -/
def notFound (k : Bytes) : Error := .trace .notFound "key %q does not exist" [some k]

/-- What each call does to an expiring map. -/
def Op.spec (defaultRangeLimit : Nat) : Op → ExpiringMap → Except Error Response × ExpiringMap
  | .create k v e, m =>
    if (m.lookup k).isSome then (.error (.trace .alreadyExists "key %q already exists" [some k]), m)
    else (.ok (.lease (newLease (item k v e))), m.insert k ⟨v, e⟩)
  | .put k v e, m => (.ok (.lease (newLease (item k v e))), m.insert k ⟨v, e⟩)
  | .compareAndSwap ek ev _ k v e, m =>
    if ek ≠ k then
      (.error (.trace .badParameter "expected and replaceWith keys should match" []), m)
    else if (m.lookup k).any (·.value = ev) then
      (.ok (.lease (newLease (item k v e))), m.insert k ⟨v, e⟩)
    else
      (.error (.trace .compareFailed "key %q does not exist or does not match expected" [some k]),
        m)
  | .update k v e, m =>
    if (m.lookup k).isSome then (.ok (.lease (newLease (item k v e))), m.insert k ⟨v, e⟩)
    else (.error (notFound k), m)
  | .get k, m =>
    match m.lookup k with
    | some x => (.ok (.item ⟨some k, some x.value, x.expires⟩), m)
    | none => (.error (notFound k), m)
  | .getRange s e limit, m =>
    (.ok (.items ((m.range s e (if limit ≤ 0 then defaultRangeLimit else limit.toNat)).map
      bindingItem)), m)
  | .delete k, m => if (m.lookup k).isSome then (.ok .done, m.erase k) else (.error (notFound k), m)
  | .deleteRange s e, m => (.ok .done, m.filter fun k _ => !decide (s ≤ k ∧ k ≤ e))
  | .keepAlive k _ e, m =>
    match m.lookup k with
    | some x => (.ok .done, m.insert k ⟨x.value, e⟩)
    | none => (.error (notFound k), m)

/-- The abstract backend over time: an expiring map that keeps an entry whose expiry has passed,
unseen, until a write replaces it or `DeleteRange` removes it, each call reading the entries live
at its own time `now`. -/
def Op.apply (defaultRangeLimit : Nat) (now : Int) :
    Op → ExpiringMap → Except Error Response × ExpiringMap
  | .create k v e, m =>
    if ((m.liveAt now).lookup k).isSome then
      (.error (.trace .alreadyExists "key %q already exists" [some k]), m)
    else (.ok (.lease (newLease (item k v e))), m.insert k ⟨v, e⟩)
  | .put k v e, m => (.ok (.lease (newLease (item k v e))), m.insert k ⟨v, e⟩)
  | .compareAndSwap ek ev _ k v e, m =>
    if ek ≠ k then
      (.error (.trace .badParameter "expected and replaceWith keys should match" []), m)
    else if ((m.liveAt now).lookup k).any (·.value = ev) then
      (.ok (.lease (newLease (item k v e))), m.insert k ⟨v, e⟩)
    else
      (.error (.trace .compareFailed "key %q does not exist or does not match expected" [some k]),
        m)
  | .update k v e, m =>
    if ((m.liveAt now).lookup k).isSome then
      (.ok (.lease (newLease (item k v e))), m.insert k ⟨v, e⟩)
    else (.error (notFound k), m)
  | .get k, m =>
    match (m.liveAt now).lookup k with
    | some x => (.ok (.item ⟨some k, some x.value, x.expires⟩), m)
    | none => (.error (notFound k), m)
  | .getRange s e limit, m =>
    (.ok (.items (((m.liveAt now).range s e
      (if limit ≤ 0 then defaultRangeLimit else limit.toNat)).map bindingItem)), m)
  | .delete k, m =>
    if ((m.liveAt now).lookup k).isSome then (.ok .done, m.erase k) else (.error (notFound k), m)
  | .deleteRange s e, m => (.ok .done, m.filter fun k _ => !decide (s ≤ k ∧ k ≤ e))
  | .keepAlive k _ e, m =>
    match (m.liveAt now).lookup k with
    | some x => (.ok .done, m.insert k ⟨x.value, e⟩)
    | none => (.error (notFound k), m)

/-- At its own time a call on the full map answers as `Op.spec` on its live part, and leaves the
live part `Op.spec` leaves. -/
theorem Op.apply_liveAt (defaultRangeLimit : Nat) (now : Int) (op : Op) (m : ExpiringMap) :
    (op.apply defaultRangeLimit now m).1 = (op.spec defaultRangeLimit (m.liveAt now)).1 ∧
      (op.apply defaultRangeLimit now m).2.liveAt now =
        (op.spec defaultRangeLimit (m.liveAt now)).2.liveAt now := by
  cases op <;> simp only [Op.apply, Op.spec]
  case get => split <;> simp
  case keepAlive => split <;> simp [ExpiringMap.liveAt_insert]
  all_goals (try split_ifs) <;>
    simp [ExpiringMap.liveAt_insert, ExpiringMap.liveAt_erase, ExpiringMap.liveAt_filter]

/-- What a call writes is decided by the entries live at its time: each key is overwritten with
what `w` gives for it (an entry, or `none` to erase it), or keeps what it held. -/
theorem Op.apply_writes (defaultRangeLimit : Nat) (now : Int) (op : Op) :
    ∃ w : ExpiringMap → Bytes → Option (Option Entry), ∀ m k',
      (op.apply defaultRangeLimit now m).2.lookup k' =
        (w (m.liveAt now) k').getD (m.lookup k') := by
  cases op
  case get k => exact ⟨fun _ _ => none, fun m _ => by simp only [Op.apply]; split <;> rfl⟩
  case getRange => exact ⟨fun _ _ => none, fun _ _ => rfl⟩
  case deleteRange s e =>
    refine ⟨fun _ k' => if s ≤ k' ∧ k' ≤ e then some none else none, fun m k' => ?_⟩
    by_cases hr : s ≤ k' ∧ k' ≤ e <;> cases h : m.lookup k' <;>
      simp [Op.apply, hr, h, Option.filter_some]
  case keepAlive k le e =>
    refine ⟨fun l k' => match l.lookup k with
      | some x => if k' = k then some (some ⟨x.value, e⟩) else none
      | none => none, fun m k' => ?_⟩
    simp only [Op.apply]
    split <;> rename_i h <;> simp only [h]
    · by_cases hk : k' = k <;> simp [hk]
    · rfl
  case' create k v e =>
    refine ⟨fun l k' => if (l.lookup k).isSome then none
      else if k' = k then some (some ⟨v, e⟩) else none, fun m k' => ?_⟩
  case' put k v e => refine ⟨fun _ k' => if k' = k then some (some ⟨v, e⟩) else none, fun m k' => ?_⟩
  case' compareAndSwap ek ev ee k v e =>
    refine ⟨fun l k' => if ek ≠ k then none else if (l.lookup k).any (·.value = ev) then
      (if k' = k then some (some ⟨v, e⟩) else none) else none, fun m k' => ?_⟩
  case' update k v e =>
    refine ⟨fun l k' => if (l.lookup k).isSome then
      (if k' = k then some (some ⟨v, e⟩) else none) else none, fun m k' => ?_⟩
  case' delete k =>
    refine ⟨fun l k' => if (l.lookup k).isSome then (if k' = k then some none else none)
      else none, fun m k' => ?_⟩
  all_goals simp only [Op.apply]; split_ifs <;> simp_all

/-! ## One call at a time -/

section Refinement

variable (defaultRangeLimit : Nat) (t : Table) (now : Int) (revision : BitVec 128)

/-- The call on the table answers as `Op.apply` on the full view, and leaves the table whose full
view is the map `Op.apply` leaves. -/
def FullRefines (op : Op) : Prop :=
  (op.call.run defaultRangeLimit now revision t).1 =
      (op.apply defaultRangeLimit now (fullView t)).1 ∧
    fullView (op.call.run defaultRangeLimit now revision t).2 =
      (op.apply defaultRangeLimit now (fullView t)).2

/-- The call on the table answers as `Op.spec` on the live view, and the view it leaves is the
live part of the map `Op.spec` leaves. -/
def Refines (op : Op) : Prop :=
  (op.call.run defaultRangeLimit now revision t).1 =
      (op.spec defaultRangeLimit (liveView t now)).1 ∧
    liveView (op.call.run defaultRangeLimit now revision t).2 now =
      ((op.spec defaultRangeLimit (liveView t now)).2).liveAt now

/-- The full refinement gives the live one, through `Op.apply_liveAt`. -/
theorem refines_of_fullRefines {op : Op} (h : FullRefines defaultRangeLimit t now revision op) :
    Refines defaultRangeLimit t now revision op := by
  obtain ⟨h1, h2⟩ := h
  obtain ⟨l1, l2⟩ := op.apply_liveAt defaultRangeLimit now (fullView t)
  exact ⟨by rw [h1, l1, liveView_eq_liveAt],
    by rw [liveView_eq_liveAt, h2, l2, liveView_eq_liveAt]⟩

theorem lookup_liveView_isSome (k : Bytes) :
    ((liveView t now).lookup k).isSome = (t.find k).any fun r => r.live now := by
  cases h : t.find k with
  | none => simp [h]
  | some r => cases hl : r.live now <;> simp [h, hl, Option.filter_some]

theorem keyIs_and_key {k : Bytes} {p : Row → Bool} {r : Row}
    (h : (Row.keyIs (some k) r && p r) = true) : r.key = k :=
  (Option.some.inj (Row.key_of_keyIs_and h)).symm

/-- When the row at `k`, if any, fails `kv.key = k AND live`, the view binds nothing at `k`. -/
theorem lookup_liveView_eq_none {k : Bytes}
    (hfail : ∀ r, t.find k = some r → (Row.keyIs (some k) r && r.live now) = false) :
    (liveView t now).lookup k = none := by
  cases h : t.find k with
  | none => simp [h]
  | some r => simpa [h, (Table.find_eq_some_iff.mp h).2, Option.filter_some] using hfail r h

theorem fullRefines_put (k v : Bytes) (e : Option Int) :
    FullRefines defaultRangeLimit t now revision (.put k v e) := by
  obtain ⟨t', hset, heq⟩ := put_spec t revision k v e
  simp only [FullRefines, Op.call, Op.apply, Call.run, item, heq, Prod.map, id]
  exact ⟨rfl, fullView_setAt_some hset⟩

theorem fullRefines_create (k v : Bytes) (e : Option Int) :
    FullRefines defaultRangeLimit t now revision (.create k v e) := by
  obtain ⟨t', hset, heq⟩ := t.execUpsert_spec k v e revision (Row.expired now)
  have hall : (t.find k).all (Row.expired now) = !((liveView t now).lookup k).isSome := by
    rw [lookup_liveView_isSome]
    cases t.find k <;> simp [Row.expired_eq_not_live]
  simp only [FullRefines, Op.call, Op.apply, Call.run, create, item, heq, hall, exec,
    ← liveView_eq_liveAt]
  cases ((liveView t now).lookup k).isSome <;>
    simp [Prod.map, Except.map, Row.entry, fullView_setAt_some hset]

theorem fullRefines_update (k v : Bytes) (e : Option Int) :
    FullRefines defaultRangeLimit t now revision (.update k v e) := by
  simp only [FullRefines, Op.call, Op.apply, Call.run, update, item, Table.execUpdate, exec,
    Prod.map_fst, Prod.map_snd, id_eq, ← liveView_eq_liveAt]
  rcases Table.update_keyed_cases (t := t) (fun _ => keyIs_and_key) (Row.rewrite v e revision)
    (fun _ => rfl) with ⟨r, h, hc, hpos, hset⟩ | ⟨hfail, h0, ht⟩
  · have hl : r.live now = true := ((Bool.and_eq_true _ _).mp hc).2
    rw [fullView_setAt_some hset, if_pos hpos]
    simp [h, hl, Except.map, Row.entry, Row.rewrite, Option.filter_some]
  · simp only [ht, h0, Nat.lt_irrefl, if_false]
    simp [lookup_liveView_eq_none t now hfail, Except.map, notFound]

theorem fullRefines_keepAlive (k : Bytes) (le e : Option Int) :
    FullRefines defaultRangeLimit t now revision (.keepAlive k le e) := by
  simp only [FullRefines, Op.call, Op.apply, Call.run, keepAlive, Table.execExtend, exec,
    Prod.map_fst, Prod.map_snd, id_eq, ← liveView_eq_liveAt]
  rcases Table.update_keyed_cases (t := t) (fun _ => keyIs_and_key) (Row.extend e revision)
    (fun _ => rfl) with ⟨r, h, hc, hpos, hset⟩ | ⟨hfail, h0, ht⟩
  · have hl : r.live now = true := ((Bool.and_eq_true _ _).mp hc).2
    rw [fullView_setAt_some hset, if_pos hpos]
    simp [h, hl, Except.map, Row.entry, Row.extend, Option.filter_some]
  · simp only [ht, h0, Nat.lt_irrefl, if_false]
    simp [lookup_liveView_eq_none t now hfail, Except.map, notFound]

theorem fullRefines_delete (k : Bytes) :
    FullRefines defaultRangeLimit t now revision (.delete k) := by
  simp only [FullRefines, Op.call, Op.apply, Call.run, delete, Table.execDelete, exec,
    Prod.map_fst, Prod.map_snd, id_eq, ← liveView_eq_liveAt]
  have hk : ∀ r, (Row.keyIs (some k) r && r.live now) = true → r.key = k :=
    fun _ => keyIs_and_key
  rcases Table.delete_keyed_cases (t := t) hk with ⟨r, h, hc, hpos, hset⟩ | ⟨hfail, h0, ht⟩
  · have hl : r.live now = true := ((Bool.and_eq_true _ _).mp hc).2
    rw [fullView_setAt_none hset, if_pos hpos]
    simp [h, hl, Except.map, Option.filter_some]
  · simp only [ht, h0, Nat.lt_irrefl, if_false]
    simp [lookup_liveView_eq_none t now hfail, Except.map, notFound]

theorem fullRefines_compareAndSwap (ek ev : Bytes) (ee : Option Int) (k v : Bytes)
    (e : Option Int) :
    FullRefines defaultRangeLimit t now revision (.compareAndSwap ek ev ee k v e) := by
  simp only [FullRefines, Op.call, Op.apply, Call.run, compareAndSwap, item, bytesEqual_some,
    ← liveView_eq_liveAt]
  by_cases hek : ek = k
  · subst hek
    simp only [decide_True, Bool.not_true, Bool.false_eq_true, if_false, ne_eq, not_true,
      Table.execUpdate, exec, Prod.map_fst, Prod.map_snd, id_eq]
    have hk : ∀ r, (Row.keyIs (some ek) r && Row.valueIs (some ev) r && r.live now) = true →
        r.key = ek := fun _ h => keyIs_and_key ((Bool.and_eq_true _ _).mp h).1
    rcases Table.update_keyed_cases (t := t) hk (Row.rewrite v e revision) (fun _ => rfl) with
      ⟨r, h, hc, hpos, hset⟩ | ⟨hfail, h0, ht⟩
    · have hc' : r.value = ev ∧ r.live now = true := by
        obtain ⟨⟨-, hv⟩, hl⟩ := (Bool.and_eq_true _ _).mp hc |>.imp_left (Bool.and_eq_true _ _).mp
        exact ⟨(Option.some.inj (of_decide_eq_true hv)).symm, hl⟩
      rw [fullView_setAt_some hset, if_pos hpos]
      simp [h, hc', Except.map, Row.entry, Row.rewrite, Option.filter_some]
    · have hany : ((liveView t now).lookup ek).any (·.value = ev) = false := by
        cases h : t.find ek with
        | none => simp [h]
        | some r =>
          have hr := hfail r h
          simp only [lookup_liveView, h, Option.filter_some]
          by_cases hl : r.live now
          · have hv : r.value ≠ ev := fun hv => by
              simp [Row.valueIs, (Table.find_eq_some_iff.mp h).2, hv, hl] at hr
            simp [hl, Row.entry, hv]
          · simp [hl]
      simp only [ht, h0, Nat.lt_irrefl, if_false, hany, Bool.false_eq_true]
      simp [Except.map]
  · simp [hek, Except.map]

theorem fullRefines_get (k : Bytes) : FullRefines defaultRangeLimit t now revision (.get k) := by
  have hsel : t.selectRow (fun r => Row.keyIs (some k) r && r.live now) =
      (t.find k).filter (fun r => Row.keyIs (some k) r && r.live now) :=
    Table.find?_keyed fun _ => keyIs_and_key
  simp only [FullRefines, Op.call, Op.apply, Call.run, get, hsel, ← liveView_eq_liveAt, and_true]
  cases h : t.find k with
  | none => simp [h, Except.map, notFound]
  | some r =>
    have hrk := (Table.find_eq_some_iff.mp h).2
    by_cases hl : r.live now <;>
      simp [h, hrk, hl, Option.filter_some, Except.map, notFound, Row.entry]

theorem fullRefines_getRange (s e : Bytes) (limit : Int) :
    FullRefines defaultRangeLimit t now revision (.getRange s e limit) := by
  have hrows : orderByKey (t.rows.filter fun r => Row.keyBetween (some s) (some e) r && r.live now)
      = (orderByKey (t.rows.filter fun r => r.live now)).filter
        (Row.keyBetween (some s) (some e)) := by
    rw [← orderByKey_filter (t.live_keys_nodup now), List.filter_filter]
  refine ⟨?_, rfl⟩
  simp only [Op.call, Op.apply, Call.run, getRange, Table.selectRange, hrows, ExpiringMap.range,
    ← liveView_eq_liveAt, liveView_bindings, List.filter_map, List.map_take, List.map_map]
  rfl

theorem fullRefines_deleteRange (s e : Bytes) :
    FullRefines defaultRangeLimit t now revision (.deleteRange s e) := by
  simp only [FullRefines, Op.call, Op.apply, Call.run, deleteRange, Table.execDelete, exec,
    Prod.map_fst, Prod.map_snd, id_eq]
  refine ⟨rfl, ExpiringMap.ext_lookup fun k' => ?_⟩
  cases h : t.find k' with
  | none => simp [h]
  | some r =>
    obtain rfl := (Table.find_eq_some_iff.mp h).2
    by_cases hb : r.key < s ∨ e < r.key <;>
      simp [h, hb, Row.keyBetween, between, Option.filter_some]

/-- Every call refines `Op.apply` on the full view. -/
theorem Op.fullRefines (op : Op) : FullRefines defaultRangeLimit t now revision op := by
  cases op with
  | create k v e => exact fullRefines_create defaultRangeLimit t now revision k v e
  | put k v e => exact fullRefines_put defaultRangeLimit t now revision k v e
  | compareAndSwap ek ev ee k v e =>
    exact fullRefines_compareAndSwap defaultRangeLimit t now revision ek ev ee k v e
  | update k v e => exact fullRefines_update defaultRangeLimit t now revision k v e
  | get k => exact fullRefines_get defaultRangeLimit t now revision k
  | getRange s e limit => exact fullRefines_getRange defaultRangeLimit t now revision s e limit
  | delete k => exact fullRefines_delete defaultRangeLimit t now revision k
  | deleteRange s e => exact fullRefines_deleteRange defaultRangeLimit t now revision s e
  | keepAlive k le e => exact fullRefines_keepAlive defaultRangeLimit t now revision k le e

end Refinement

/-! ## The refinement -/

/-- On every table, expired rows included, at every transaction time, a call with non-nil
arguments answers what the abstract backend answers on the live view, and leaves a table whose
live view is the live part of the abstract backend's map. -/
theorem call_run_refines (defaultRangeLimit : Nat) (t : Table) (now : Int)
    (revision : BitVec 128) (op : Op) :
    (op.call.run defaultRangeLimit now revision t).1 =
        (op.spec defaultRangeLimit (liveView t now)).1 ∧
      liveView (op.call.run defaultRangeLimit now revision t).2 now =
        ((op.spec defaultRangeLimit (liveView t now)).2).liveAt now :=
  refines_of_fullRefines defaultRangeLimit t now revision
    (op.fullRefines defaultRangeLimit t now revision)

/-- Compared with the abstract map itself, the live view after a `Put` whose expiry is `now`
misses the key the abstract map binds. -/
theorem refines_without_liveAt_fails : ¬ ∀ (defaultRangeLimit : Nat) (t : Table) (now : Int)
    (revision : BitVec 128) (op : Op),
    (op.call.run defaultRangeLimit now revision t).1 =
        (op.spec defaultRangeLimit (liveView t now)).1 ∧
      liveView (op.call.run defaultRangeLimit now revision t).2 now =
        (op.spec defaultRangeLimit (liveView t now)).2 := by
  intro h
  have := congrArg (ExpiringMap.lookup · Bytes.empty)
    (h 0 Table.empty 0 0 (.put Bytes.empty Bytes.empty (some 0))).2
  exact absurd this (by decide)

end Teleport.Backend.Pgbk
