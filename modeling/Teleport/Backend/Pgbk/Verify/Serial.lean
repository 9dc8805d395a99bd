import Teleport.Backend.Pgbk.Backend

/-!
# Calls in sequence

The pool runs every transaction `serializable`, so concurrent calls answer as some serial
order of them does; here two calls run one after the other on the table the first leaves, each
at its own transaction time.

`compareAndSwap_serial`: of two `CompareAndSwap`s with one expected item, where the first
replaces the expected value with another, at most one succeeds, whatever the two times: the
first exactly when a live row at the key holds the expected value, the second exactly when the
first did not and such a row is live at the second's time.
-/

namespace Teleport.Backend.Pgbk

open Teleport.Backend

section Serial

variable (t : Table) (k v₀ : Bytes)

/-- A live row at `k` holds `v₀` at `now`. -/
def HoldsAt (now : Int) : Prop := ∃ r, t.find k = some r ∧ r.value = v₀ ∧ r.live now = true

theorem count_pos_iff_holdsAt (now : Int) :
    0 < t.count (fun r => Row.keyIs (some k) r && Row.valueIs (some v₀) r && r.live now) ↔
      HoldsAt t k v₀ now := by
  rw [Table.count_keyed_pos_iff fun r h => (Option.some.inj (Row.key_of_keyIs_and
    ((Bool.and_eq_true _ _).mp h).1)).symm]
  refine exists_congr fun r => and_congr_right fun hr => ?_
  simp only [Row.keyIs_some, (Table.find_eq_some_iff.mp hr).2, Row.valueIs, Option.some.injEq,
    decide_True, Bool.true_and, Bool.and_eq_true, decide_eq_true_eq]
  exact and_congr_left' ⟨Eq.symm, Eq.symm⟩

/-- What the first `CompareAndSwap` leaves holds the expected value at the second's time exactly
when the first did not swap and the table held it then. -/
theorem holdsAt_after_compareAndSwap (now₁ now₂ : Int) (rev₁ : BitVec 128) (v₁ : Bytes)
    (e₁ : Option Int) (hv : v₁ ≠ v₀) :
    HoldsAt (t.update (fun r => Row.keyIs (some k) r && Row.valueIs (some v₀) r && r.live now₁)
        (Row.rewrite v₁ e₁ rev₁) fun _ => rfl) k v₀ now₂ ↔
      ¬ HoldsAt t k v₀ now₁ ∧ HoldsAt t k v₀ now₂ := by
  simp only [HoldsAt, Table.find_update]
  constructor
  · rintro ⟨r', hr', hv', hl'⟩
    obtain ⟨r, hr, rfl⟩ := Option.map_eq_some'.mp hr'
    have hc : (Row.keyIs (some k) r && Row.valueIs (some v₀) r && r.live now₁) = false := by
      by_contra hc
      rw [Bool.not_eq_false] at hc
      rw [if_pos hc] at hv'
      exact hv hv'
    rw [hc, if_neg Bool.false_ne_true] at hv' hl'
    refine ⟨fun ⟨r₀, hr₀, hv₀, hl₀⟩ => ?_, r, hr, hv', hl'⟩
    obtain rfl := Option.some.inj (hr₀.symm.trans hr)
    simp [Row.valueIs, (Table.find_eq_some_iff.mp hr₀).2, hv₀, hl₀] at hc
  · rintro ⟨hn, r, hr, hv', hl'⟩
    have hc : (Row.keyIs (some k) r && Row.valueIs (some v₀) r && r.live now₁) = false := by
      by_contra hc
      rw [Bool.not_eq_false] at hc
      exact hn ⟨r, hr, hv', ((Bool.and_eq_true _ _).mp hc).2⟩
    exact ⟨r, by rw [hr, Option.map_some', hc, if_neg Bool.false_ne_true], hv', hl'⟩

/-- Of two `CompareAndSwap`s with one expected item, run one after the other, where the first
replaces the expected value by another: the first succeeds exactly when a live row at the key
holds the expected value, the second exactly when the first did not and such a row is live at
its own time. -/
theorem compareAndSwap_serial (now₁ now₂ : Int) (rev₁ rev₂ : BitVec 128) (v₁ v₂ : Bytes)
    (e₀ e₁ e₂ : Option Int) (hv : v₁ ≠ v₀) :
    ((compareAndSwap t now₁ rev₁ ⟨some k, some v₀, e₀⟩ ⟨some k, some v₁, e₁⟩).1 =
        .ok (newLease ⟨some k, some v₁, e₁⟩) ↔ HoldsAt t k v₀ now₁) ∧
      ((compareAndSwap (compareAndSwap t now₁ rev₁ ⟨some k, some v₀, e₀⟩ ⟨some k, some v₁, e₁⟩).2
          now₂ rev₂ ⟨some k, some v₀, e₀⟩ ⟨some k, some v₂, e₂⟩).1 =
        .ok (newLease ⟨some k, some v₂, e₂⟩) ↔ ¬ HoldsAt t k v₀ now₁ ∧ HoldsAt t k v₀ now₂) := by
  rw [compareAndSwap_same_key t now₁ rev₁ k v₁ ⟨some k, some v₀, e₀⟩ e₁ rfl,
    compareAndSwap_same_key _ now₂ rev₂ k v₂ ⟨some k, some v₀, e₀⟩ e₂ rfl]
  dsimp only
  rw [← holdsAt_after_compareAndSwap t k v₀ now₁ now₂ rev₁ v₁ e₁ hv, ← count_pos_iff_holdsAt,
    ← count_pos_iff_holdsAt]
  constructor <;> split_ifs with h
  all_goals exact ⟨fun h' => (by first | exact h | cases h'),
    fun h' => (by first | rfl | exact absurd h' h)⟩

/-- The table after a `Put` of the value `[2]` at the key `[1]`. -/
def casTable : Table := (put Table.empty 0 ⟨some ⟨[1]⟩, some ⟨[2]⟩, none⟩).2

/-- Two `CompareAndSwap`s from `[2]` at the key `[1]`, at times 0 and 5: the first wins. -/
theorem compareAndSwap_serial_first_wins :
    (⟨[3]⟩ : Bytes) ≠ ⟨[2]⟩ ∧ HoldsAt casTable ⟨[1]⟩ ⟨[2]⟩ 0 ∧
      (compareAndSwap casTable 0 0 ⟨some ⟨[1]⟩, some ⟨[2]⟩, none⟩
          ⟨some ⟨[1]⟩, some ⟨[3]⟩, none⟩).1 = .ok (newLease ⟨some ⟨[1]⟩, some ⟨[3]⟩, none⟩) ∧
      (compareAndSwap (compareAndSwap casTable 0 0 ⟨some ⟨[1]⟩, some ⟨[2]⟩, none⟩
            ⟨some ⟨[1]⟩, some ⟨[3]⟩, none⟩).2 5 0 ⟨some ⟨[1]⟩, some ⟨[2]⟩, none⟩
            ⟨some ⟨[1]⟩, some ⟨[4]⟩, none⟩).1 ≠ .ok (newLease ⟨some ⟨[1]⟩, some ⟨[4]⟩, none⟩) :=
  have hholds : HoldsAt casTable ⟨[1]⟩ ⟨[2]⟩ 0 := ⟨_, rfl, rfl, rfl⟩
  have hs := compareAndSwap_serial casTable ⟨[1]⟩ ⟨[2]⟩ 0 5 0 0 ⟨[3]⟩ ⟨[4]⟩ none none none
    (by decide)
  ⟨by decide, hholds, hs.1.mpr hholds, fun h => (hs.2.mp h).1 hholds⟩

end Serial

end Teleport.Backend.Pgbk
