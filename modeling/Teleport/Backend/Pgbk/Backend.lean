import Teleport.Backend.Pgbk.Table

/-!
# The backend's calls

`Backend.Create` to `Backend.KeepAlive` of `pgbk.go`, each as one attempt of its
`pgcommon.Retry` (or `RetryIdempotent`) closure at transaction time `now`. A write takes the
`revision` that `newRevision()` generated once, before its retry loop. A statement's error rolls
its transaction back, so the call returns the error wrapped and leaves the table; otherwise the
call answers from the command tag's `RowsAffected`, as the code does.
-/

namespace Teleport.Backend.Pgbk

open Teleport.Backend

/-- `backend.Item`. `Key` and `Value` are Go slices (`none` is `nil`); `Expires` is `none` for
the zero `time.Time`, which `zeronull.Timestamptz` writes as `NULL` and reads back. -/
structure Item where
  key : Option Bytes
  value : Option Bytes
  expires : Option Int
deriving DecidableEq, Repr

/-- `backend.Lease`. -/
structure Lease where
  key : Option Bytes
  expires : Option Int
deriving DecidableEq, Repr

/-- Modelled from the spec: `newLease` is defined outside `pgbk.go`; the spec's lease is the
`{Key, Expires}` of the item written. -/
def newLease (i : Item) : Lease := ⟨i.key, i.expires⟩

/-- The `trace` kinds callers branch on. -/
inductive Kind where
  | badParameter
  | notFound
  | alreadyExists
  | compareFailed
deriving DecidableEq, Repr

/-- A call's error: a `trace` error with its kind, format and `%q` arguments, or a statement's
error wrapped by `trace.Wrap`. -/
inductive Error where
  | trace (kind : Kind) (format : String) (args : List (Option Bytes))
  | store (e : PgError)
deriving DecidableEq, Repr

/-- A statement run in a `Retry` closure: its error rolls the transaction back and comes out
wrapped; otherwise the call answers from the `RowsAffected` of the table it leaves. -/
def exec {α : Type} (t : Table) (r : Except PgError (Table × Nat))
    (answer : Nat → Except Error α) : Except Error α × Table :=
  match r with
  | .error e => (.error (.store e), t)
  | .ok (t', n) => (answer n, t')

/-- `Create`. -/
def create (t : Table) (now : Int) (revision : BitVec 128) (i : Item) :
    Except Error Lease × Table :=
  exec t (t.execUpsert i.key i.value i.expires revision (Row.expired now)) fun n =>
    if 0 < n then .ok (newLease i)
    else .error (.trace .alreadyExists "key %q already exists" [i.key])

/-- `Put`. -/
def put (t : Table) (revision : BitVec 128) (i : Item) : Except Error Lease × Table :=
  exec t (t.execUpsert i.key i.value i.expires revision fun _ => true) fun _ => .ok (newLease i)

/-- `Put` of a key and a value writes its row, whatever the table holds. -/
theorem put_spec (t : Table) (revision : BitVec 128) (k v : Bytes) (e : Option Int) :
    ∃ t', t.SetAt t' k (some ⟨k, v, e, revision⟩) ∧
      put t revision ⟨some k, some v, e⟩ = (.ok (newLease ⟨some k, some v, e⟩), t') := by
  obtain ⟨t', hset, heq⟩ := t.execUpsert_spec k v e revision fun _ => true
  have hall : (t.find k).all (fun _ => true) = true := by cases t.find k <;> rfl
  exact ⟨t', hset, by simp only [put, heq, hall, if_true]; rfl⟩

/-- `CompareAndSwap`. -/
def compareAndSwap (t : Table) (now : Int) (revision : BitVec 128) (expected replaceWith : Item) :
    Except Error Lease × Table :=
  if !bytesEqual expected.key replaceWith.key then
    (.error (.trace .badParameter "expected and replaceWith keys should match" []), t)
  else
    exec t (t.execUpdate
        (fun r => Row.keyIs replaceWith.key r && Row.valueIs expected.value r && r.live now)
        replaceWith.value replaceWith.expires revision) fun n =>
      if 0 < n then .ok (newLease replaceWith)
      else .error (.trace .compareFailed "key %q does not exist or does not match expected"
        [replaceWith.key])

/-- `CompareAndSwap` of one key: one conditional `UPDATE`, answered from its row count. -/
theorem compareAndSwap_same_key (t : Table) (now : Int) (revision : BitVec 128) (k v : Bytes)
    (expected : Item) (e : Option Int) (hk : expected.key = some k) :
    compareAndSwap t now revision expected ⟨some k, some v, e⟩ =
      let cond := fun r => Row.keyIs (some k) r && Row.valueIs expected.value r && r.live now
      (if 0 < t.count cond then .ok (newLease ⟨some k, some v, e⟩)
        else .error
          (.trace .compareFailed "key %q does not exist or does not match expected" [some k]),
        t.update cond (Row.rewrite v e revision) fun _ => rfl) := by
  simp [compareAndSwap, hk, Table.execUpdate, exec]

/-- `Update`. -/
def update (t : Table) (now : Int) (revision : BitVec 128) (i : Item) :
    Except Error Lease × Table :=
  exec t (t.execUpdate (fun r => Row.keyIs i.key r && r.live now) i.value i.expires revision)
    fun n => if 0 < n then .ok (newLease i)
      else .error (.trace .notFound "key %q does not exist" [i.key])

/-- `Get`, which leaves the table as it is. -/
def get (t : Table) (now : Int) (key : Option Bytes) : Except Error Item :=
  match t.selectRow (fun r => Row.keyIs key r && r.live now) with
  | some r => .ok ⟨key, some r.value, r.expires⟩
  | none => .error (.trace .notFound "key %q does not exist" [key])

/-- `Get` of a key reads the row at the key, if it is live. -/
theorem get_some (t : Table) (now : Int) (k : Bytes) :
    get t now (some k) = match (t.find k).filter (Row.live now) with
      | some r => .ok ⟨some k, some r.value, r.expires⟩
      | none => .error (.trace .notFound "key %q does not exist" [some k]) := by
  have hsel : t.selectRow (fun r => Row.keyIs (some k) r && r.live now) =
      (t.find k).filter (Row.live now) := by
    rw [Table.selectRow,
      Table.find?_keyed fun r h => (Option.some.inj (Row.key_of_keyIs_and h)).symm]
    cases h : t.find k with
    | none => rfl
    | some r => simp [Option.filter_some, (Table.find_eq_some_iff.mp h).2]
  rw [get, hsel]

/-- The item a `GetRange` row scans into. -/
def Row.toItem (r : Row) : Item := ⟨some r.key, some r.value, r.expires⟩

/-- `GetRange`, which leaves the table as it is; `defaultRangeLimit` is
`backend.DefaultRangeLimit`. -/
def getRange (defaultRangeLimit : Nat) (t : Table) (now : Int) (startKey endKey : Option Bytes)
    (limit : Int) : Except Error (List Item) :=
  let limit := if limit ≤ 0 then defaultRangeLimit else limit.toNat
  .ok ((t.selectRange (fun r => Row.keyBetween startKey endKey r && r.live now) limit).map
    Row.toItem)

/-- `GetRange` answers the items of rows live at `now` with keys in `[startKey, endKey]`, in
strictly increasing key order, at most `limit` of them (`defaultRangeLimit` when `limit ≤ 0`); a
live row in range that it leaves out has a key above every key it answers. -/
theorem getRange_answers (defaultRangeLimit : Nat) (t : Table) (now : Int)
    (startKey endKey : Option Bytes) (limit : Int) :
    ∃ rows : List Row,
      getRange defaultRangeLimit t now startKey endKey limit = .ok (rows.map Row.toItem) ∧
      rows.Pairwise (fun a b => a.key < b.key) ∧
      rows.length ≤ (if limit ≤ 0 then defaultRangeLimit else limit.toNat) ∧
      (∀ r ∈ rows,
        r ∈ t.rows ∧ r.keyBetween startKey endKey = true ∧ r.live now = true) ∧
      ∀ r ∈ t.rows, r.keyBetween startKey endKey = true → r.live now = true → r ∈ rows ∨
        (rows.length = (if limit ≤ 0 then defaultRangeLimit else limit.toNat) ∧
          ∀ r' ∈ rows, r'.key < r.key) := by
  obtain ⟨hsorted, hlen, hsound, hcomplete⟩ := t.selectRange_spec
    (fun r => Row.keyBetween startKey endKey r && r.live now)
    (if limit ≤ 0 then defaultRangeLimit else limit.toNat)
  refine ⟨_, rfl, hsorted, hlen, fun r hr => ?_,
    fun r hr hb hl => hcomplete r hr (by simp [hb, hl])⟩
  obtain ⟨hr, hc⟩ := hsound r hr
  exact ⟨hr, (Bool.and_eq_true _ _).mp hc⟩

/-- `Delete`. -/
def delete (t : Table) (now : Int) (key : Option Bytes) : Except Error Unit × Table :=
  exec t (.ok (t.execDelete fun r => Row.keyIs key r && r.live now)) fun n =>
    if 0 < n then .ok () else .error (.trace .notFound "key %q does not exist" [key])

/-- `DeleteRange`. -/
def deleteRange (t : Table) (startKey endKey : Option Bytes) : Except Error Unit × Table :=
  exec t (.ok (t.execDelete (Row.keyBetween startKey endKey))) fun _ => .ok ()

/-- `KeepAlive`. -/
def keepAlive (t : Table) (now : Int) (revision : BitVec 128) (lease : Lease)
    (expires : Option Int) : Except Error Unit × Table :=
  exec t (.ok (t.execExtend (fun r => Row.keyIs lease.key r && r.live now) expires revision))
    fun n => if 0 < n then .ok () else .error (.trace .notFound "key %q does not exist" [lease.key])

/-- A call of `backend.Backend` that `pgbk` answers from the table. -/
inductive Call where
  | create (i : Item)
  | put (i : Item)
  | compareAndSwap (expected replaceWith : Item)
  | update (i : Item)
  | get (key : Option Bytes)
  | getRange (startKey endKey : Option Bytes) (limit : Int)
  | delete (key : Option Bytes)
  | deleteRange (startKey endKey : Option Bytes)
  | keepAlive (lease : Lease) (expires : Option Int)
deriving DecidableEq, Repr

/-- What a call returns when it succeeds. -/
inductive Response where
  | lease (l : Lease)
  | item (i : Item)
  | items (is : List Item)
  | done
deriving DecidableEq, Repr

/-- One call at transaction time `now`, with the revision generated for it. -/
def Call.run (defaultRangeLimit : Nat) (now : Int) (revision : BitVec 128) :
    Call → Table → Except Error Response × Table
  | .create i, t => Prod.map (Except.map .lease) id (Pgbk.create t now revision i)
  | .put i, t => Prod.map (Except.map .lease) id (Pgbk.put t revision i)
  | .compareAndSwap e r, t =>
    Prod.map (Except.map .lease) id (Pgbk.compareAndSwap t now revision e r)
  | .update i, t => Prod.map (Except.map .lease) id (Pgbk.update t now revision i)
  | .get key, t => ((Pgbk.get t now key).map .item, t)
  | .getRange s e limit, t => ((Pgbk.getRange defaultRangeLimit t now s e limit).map .items, t)
  | .delete key, t => Prod.map (Except.map fun _ => .done) id (Pgbk.delete t now key)
  | .deleteRange s e, t => Prod.map (Except.map fun _ => .done) id (Pgbk.deleteRange t s e)
  | .keepAlive l e, t => Prod.map (Except.map fun _ => .done) id (Pgbk.keepAlive t now revision l e)

end Teleport.Backend.Pgbk
