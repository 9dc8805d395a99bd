import Teleport.Backend.Bytes
import Mathlib.Data.List.Sort

/-!
# Expiring key-value maps

What a `backend.Backend` stores, stated without tables: a map from byte-string keys to a value
and an optional expiry, read at a time `now` through the entries still live then. A map is
kept as its bindings in strictly increasing key order, so it is determined by what it binds
(`ExpiringMap.ext_lookup`) and a range read is a filter of its bindings.
-/

namespace Teleport.Backend

/-- What a key holds. -/
structure Entry where
  value : Bytes
  expires : Option Int
deriving DecidableEq, Repr

/-- An entry is live at `now` when it has no expiry or expires after `now`. -/
def Entry.live (now : Int) (e : Entry) : Bool :=
  match e.expires with
  | none => true
  | some x => decide (now < x)

/-- An entry live at a time was live at every earlier time. -/
theorem Entry.live_of_le {e : Entry} {now now' : Int} (h : now ≤ now') (hl : e.live now' = true) :
    e.live now = true := by
  obtain ⟨value, expires⟩ := e
  cases expires with
  | none => rfl
  | some x => exact decide_eq_true (Int.lt_of_le_of_lt h (of_decide_eq_true hl))

/-- Bindings strictly increasing in key. -/
def KeySorted (bs : List (Bytes × Entry)) : Prop := bs.Pairwise (fun a b => a.1 < b.1)

theorem KeySorted.keys_nodup {bs : List (Bytes × Entry)} (h : KeySorted bs) :
    (bs.map Prod.fst).Nodup :=
  List.pairwise_map.mpr (h.imp ne_of_lt)

/-- An expiring map. -/
structure ExpiringMap where
  bindings : List (Bytes × Entry)
  sorted : KeySorted bindings

namespace ExpiringMap

/-- The empty map. -/
def empty : ExpiringMap := ⟨[], List.Pairwise.nil⟩

/-- The entry at `k`, if any. -/
def lookup (m : ExpiringMap) (k : Bytes) : Option Entry :=
  (m.bindings.find? (fun b => b.1 = k)).map Prod.snd

/-- The bindings `p` holds of. -/
def filter (m : ExpiringMap) (p : Bytes → Entry → Bool) : ExpiringMap :=
  ⟨m.bindings.filter (fun b => p b.1 b.2), m.sorted.sublist (List.filter_sublist _)⟩

/-- `m` without `k`. -/
def erase (m : ExpiringMap) (k : Bytes) : ExpiringMap := m.filter fun k' _ => k' ≠ k

/-- The entries of `m` live at `now`. -/
def liveAt (m : ExpiringMap) (now : Int) : ExpiringMap := m.filter fun _ e => e.live now

/-- Binds `k` to `e` in a key-sorted list, in its place. -/
def insertBinding (k : Bytes) (e : Entry) : List (Bytes × Entry) → List (Bytes × Entry)
  | [] => [(k, e)]
  | b :: bs =>
    if k < b.1 then (k, e) :: b :: bs
    else if k = b.1 then (k, e) :: bs
    else b :: insertBinding k e bs

theorem mem_insertBinding {k : Bytes} {e : Entry} :
    ∀ {bs : List (Bytes × Entry)}, KeySorted bs →
      ∀ {x}, x ∈ insertBinding k e bs ↔ x = (k, e) ∨ (x ∈ bs ∧ x.1 ≠ k)
  | [], _, x => by simp [insertBinding]
  | b :: bs, hs, x => by
    have hbs : x ∈ bs → b.1 < x.1 := (List.pairwise_cons.mp hs).1 x
    unfold insertBinding
    split_ifs with hlt heq <;> simp only [List.mem_cons]
    · have hx : x = b ∨ x ∈ bs → x.1 ≠ k := by
        rintro (rfl | h)
        exacts [hlt.ne', (hlt.trans (hbs h)).ne']
      exact ⟨Or.imp_right fun h => ⟨h, hx h⟩, Or.imp_right And.left⟩
    · refine ⟨Or.imp_right fun h => ⟨.inr h, heq ▸ (hbs h).ne'⟩, Or.imp_right ?_⟩
      rintro ⟨rfl | h, hne⟩
      exacts [absurd heq.symm hne, h]
    · rw [mem_insertBinding (List.pairwise_cons.mp hs).2]
      constructor
      · rintro (rfl | h | ⟨h, hne⟩)
        exacts [.inr ⟨.inl rfl, Ne.symm heq⟩, .inl h, .inr ⟨.inr h, hne⟩]
      · rintro (h | ⟨rfl | h, hne⟩)
        exacts [.inr (.inl h), .inl rfl, .inr (.inr ⟨h, hne⟩)]

theorem keySorted_insertBinding (k : Bytes) (e : Entry) :
    ∀ {bs : List (Bytes × Entry)}, KeySorted bs → KeySorted (insertBinding k e bs)
  | [], _ => List.pairwise_singleton _ _
  | b :: bs, hs => by
    obtain ⟨hb, hbs⟩ := List.pairwise_cons.mp hs
    unfold insertBinding
    split_ifs with hlt heq
    · refine .cons (fun y hy => ?_) hs
      rcases List.mem_cons.mp hy with rfl | hy
      exacts [hlt, hlt.trans (hb y hy)]
    · exact .cons (fun y hy => heq ▸ hb y hy) hbs
    · refine .cons (fun y hy => ?_) (keySorted_insertBinding k e hbs)
      rcases (mem_insertBinding hbs).mp hy with rfl | ⟨hy, -⟩
      exacts [lt_of_le_of_ne (not_lt.mp hlt) (Ne.symm heq), hb y hy]

/-- `m` with `k` bound to `e`. -/
def insert (m : ExpiringMap) (k : Bytes) (e : Entry) : ExpiringMap :=
  ⟨insertBinding k e m.bindings, keySorted_insertBinding k e m.sorted⟩

/-- The first `n` bindings with keys in `[lo, hi]`, in key order. -/
def range (m : ExpiringMap) (lo hi : Bytes) (n : Nat) : List (Bytes × Entry) :=
  (m.bindings.filter fun b => decide (lo ≤ b.1 ∧ b.1 ≤ hi)).take n

/-! ## A map is what it binds -/

theorem lookup_eq_some_iff {m : ExpiringMap} {k : Bytes} {e : Entry} :
    m.lookup k = some e ↔ (k, e) ∈ m.bindings := by
  simp only [lookup, Option.map_eq_some']
  constructor
  · rintro ⟨b, hb, rfl⟩
    have hk : b.1 = k := by simpa using List.find?_some hb
    simpa [← hk] using List.mem_of_find?_eq_some hb
  · intro h
    have hsome : (m.bindings.find? fun b => b.1 = k).isSome :=
      List.find?_isSome.mpr ⟨(k, e), h, by simp⟩
    obtain ⟨b, hb⟩ := Option.isSome_iff_exists.mp hsome
    have hk : b.1 = k := by simpa using List.find?_some hb
    exact ⟨b, hb, by
      rw [List.inj_on_of_nodup_map m.sorted.keys_nodup (List.mem_of_find?_eq_some hb) h hk]⟩

/-- Two maps that agree on every key are equal. -/
theorem ext_lookup {m₁ m₂ : ExpiringMap} (h : ∀ k, m₁.lookup k = m₂.lookup k) : m₁ = m₂ := by
  have hperm : m₁.bindings.Perm m₂.bindings :=
    (List.perm_ext_iff_of_nodup (List.Nodup.of_map _ m₁.sorted.keys_nodup)
      (List.Nodup.of_map _ m₂.sorted.keys_nodup)).mpr fun ⟨k, e⟩ => by
        rw [← lookup_eq_some_iff, ← lookup_eq_some_iff, h]
  haveI : IsAntisymm (Bytes × Entry) fun a b => a.1 < b.1 :=
    ⟨fun _ _ h₁ h₂ => absurd (h₁.trans h₂) (lt_irrefl _)⟩
  cases m₁
  cases m₂
  congr
  exact List.eq_of_perm_of_sorted hperm ‹_› ‹_›

@[simp] theorem lookup_empty (k : Bytes) : empty.lookup k = none := rfl

@[simp] theorem lookup_filter (m : ExpiringMap) (p : Bytes → Entry → Bool) (k : Bytes) :
    (m.filter p).lookup k = (m.lookup k).filter (p k) := by
  refine Option.ext fun e => ?_
  simp only [Option.mem_def, Option.filter_eq_some, lookup_eq_some_iff, filter, List.mem_filter]

@[simp] theorem lookup_insert (m : ExpiringMap) (k : Bytes) (e : Entry) (k' : Bytes) :
    (m.insert k e).lookup k' = if k' = k then some e else m.lookup k' := by
  refine Option.ext fun e' => ?_
  simp only [Option.mem_def, lookup_eq_some_iff, insert, mem_insertBinding m.sorted]
  by_cases hk : k' = k
  · subst hk
    simp [eq_comm]
  · simp [hk, lookup_eq_some_iff]

@[simp] theorem lookup_erase (m : ExpiringMap) (k k' : Bytes) :
    (m.erase k).lookup k' = if k' = k then none else m.lookup k' := by
  rw [erase, lookup_filter]
  by_cases hk : k' = k <;> cases m.lookup k' <;> simp [hk, Option.filter_some]

@[simp] theorem lookup_liveAt (m : ExpiringMap) (now : Int) (k : Bytes) :
    (m.liveAt now).lookup k = (m.lookup k).filter (Entry.live now) := by
  simp [liveAt]

/-! ## What is live at one time -/

section LiveAt

variable {m₁ m₂ : ExpiringMap} (m : ExpiringMap) (now : Int)

theorem filter_live_idem (o : Option Entry) :
    (o.filter (Entry.live now)).filter (Entry.live now) = o.filter (Entry.live now) := by
  cases o with
  | none => rfl
  | some e => by_cases hl : e.live now <;> simp [hl, Option.filter_some]

/-- Maps that agree on what is live at `now` read alike at `now`. -/
theorem liveAt_congr (h : ∀ k, (m₁.lookup k).filter (Entry.live now) =
    (m₂.lookup k).filter (Entry.live now)) : m₁.liveAt now = m₂.liveAt now :=
  ext_lookup fun k => by simpa only [lookup_liveAt] using h k

@[simp] theorem liveAt_liveAt : (m.liveAt now).liveAt now = m.liveAt now :=
  liveAt_congr now fun k => by simp only [lookup_liveAt, filter_live_idem]

theorem liveAt_insert (k : Bytes) (e : Entry) :
    (m.insert k e).liveAt now = ((m.liveAt now).insert k e).liveAt now :=
  liveAt_congr now fun k' => by
    simp only [lookup_insert, lookup_liveAt]
    split <;> simp only [filter_live_idem]

theorem liveAt_filter (p : Bytes → Entry → Bool) :
    (m.filter p).liveAt now = ((m.liveAt now).filter p).liveAt now :=
  liveAt_congr now fun k => by
    cases h : m.lookup k with
    | none => simp [h]
    | some e => by_cases hl : e.live now <;> by_cases hp : p k e <;>
        simp [h, hl, hp, Option.filter_some]

/-- What is live at a later time was live before. -/
theorem liveAt_liveAt_of_le {now' : Int} (h : now ≤ now') :
    (m.liveAt now).liveAt now' = m.liveAt now' :=
  ext_lookup fun k => by
    simp only [lookup_liveAt]
    cases m.lookup k with
    | none => rfl
    | some e => by_cases hl : e.live now' <;> simp [hl, Entry.live_of_le h, Option.filter_some]

theorem liveAt_erase (k : Bytes) :
    (m.erase k).liveAt now = ((m.liveAt now).erase k).liveAt now :=
  liveAt_filter m now _

end LiveAt

end ExpiringMap

end Teleport.Backend
