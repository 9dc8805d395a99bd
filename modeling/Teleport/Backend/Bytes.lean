import Mathlib.Data.List.Lex
import Mathlib.Order.Basic

/-!
# Byte strings

The backend's keys and values are `bytea` values, written from Go `[]byte` slices.
PostgreSQL compares `bytea` with `byteacmp`: `memcmp` over the common length, then the
shorter string first. That is the lexicographic order on the bytes read as unsigned
numbers, which `Bytes` gets from Mathlib's order on `List ℕ`.

A Go slice argument is an `Option Bytes`: `none` is a `nil` slice, which the driver binds
as SQL `NULL`, and `some b` a non-nil slice, possibly empty.
-/

namespace Teleport.Backend

/-- A `bytea` value. -/
structure Bytes where
  data : List UInt8
deriving DecidableEq, Repr

namespace Bytes

/-- The empty byte string. -/
def empty : Bytes := ⟨[]⟩

/-- The bytes as unsigned numbers, the way `memcmp` reads them. -/
def codes (b : Bytes) : List ℕ := b.data.map UInt8.toNat

theorem codes_injective : Function.Injective codes := by
  rintro ⟨a⟩ ⟨b⟩ h
  exact congrArg Bytes.mk
    (List.map_injective_iff.mpr (fun _ _ hxy => UInt8.toNat.inj hxy) h)

/-- `byteacmp`'s order. -/
instance : LinearOrder Bytes := LinearOrder.lift' codes codes_injective

example : (⟨[1, 2]⟩ : Bytes) < ⟨[1, 3]⟩ ∧ (⟨[1, 2]⟩ : Bytes) < ⟨[1, 2, 0]⟩ := by decide

end Bytes

/-- `bytes.Equal`: a `nil` slice and an empty one are equal. -/
def bytesEqual (a b : Option Bytes) : Bool :=
  a.getD Bytes.empty = b.getD Bytes.empty

@[simp] theorem bytesEqual_some (a b : Bytes) : bytesEqual (some a) (some b) = decide (a = b) :=
  rfl

example : bytesEqual none (some Bytes.empty) = true := rfl

end Teleport.Backend
