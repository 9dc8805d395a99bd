import Teleport.Teleterm.Daemon.Relogin
import Mathlib.Data.Finset.Card
import Mathlib.Data.Fintype.Basic

/-!
# One important modal at a time, half a second apart

Over every interleaving of the goroutines that ask for important modals:

* `reloginMu` is locked exactly while one goroutine runs `relogin`, so a relogin requested
  meanwhile returns `AlreadyExists` at once and changes nothing, and `semC` holds one value for
  each goroutine between its send in `Acquire` and its `Release` (`Modals.WF`, for a semaphore of
  any capacity);
* with the daemon's one slot, one goroutine at a time is past its send, so the app is asked for
  one important modal at a time (`reachable_modals_exclusive`);
* a modal is shown `imporantModalWaitDuraiton` or more after the last `Release`
  (`Modals.Spaced`), so after a modal closes the next one is shown half a second later at the
  earliest (`modal_spacing`);
* no reachable state is stuck: while a goroutine is not idle, some goroutine can take its next
  step once time has passed, with no context canceled (`reachable_progress`), since `semC` is
  full only while a goroutine holds its value and can release it.

Each step is inverted once (`step_send`, `step_close`, ...), and each invariant's step lemma is
a case analysis over the actions citing those.
-/

namespace Teleport.Teleterm.Daemon

namespace Phase

/-- Holds a value of `semC`: sent in `Acquire`, not yet received by `Release`. -/
def holdsSlot : Phase → Bool
  | .sleeping .. | .modal .. => true
  | _ => false

/-- Holds `reloginMu`. -/
def holdsMu : Phase → Bool
  | .acquiring r | .sleeping r _ | .modal r _ => r
  | .unlocking _ => true
  | .idle => false

end Phase

namespace Modals

open Finset

variable {n : Nat}

/-- The goroutines holding a value of `semC`. -/
def slotHolders (s : Modals n) : Finset (Fin n) := univ.filter fun g => (s.phase g).holdsSlot

/-! ## One goroutine moves -/

section SetPhase

variable (s : Modals n) (g : Fin n) (p : Phase)

@[simp] theorem setPhase_phase_self : (s.setPhase g p).phase g = p := Function.update_same _ _ _

theorem setPhase_phase_of_ne {g' : Fin n} (h : g' ≠ g) : (s.setPhase g p).phase g' = s.phase g' :=
  Function.update_noteq h _ _

/-- A goroutine's move changes the number of slot holders by what it held and holds. -/
theorem card_slotHolders_setPhase :
    (s.setPhase g p).slotHolders.card + (if (s.phase g).holdsSlot then 1 else 0) =
      s.slotHolders.card + (if p.holdsSlot then 1 else 0) := by
  have split : ∀ (t : Finset (Fin n)) (b : Bool), (g ∈ t ↔ b = true) →
      t.card = (t.erase g).card + if b then 1 else 0 := by
    intro t b hb
    cases b
    · rw [erase_eq_of_not_mem (by simpa using hb)]; rfl
    · exact (card_erase_add_one (hb.mpr rfl)).symm
  have herase : (s.setPhase g p).slotHolders.erase g = s.slotHolders.erase g := by
    ext g'
    by_cases h : g' = g
    · simp [h]
    · simp [slotHolders, h, setPhase_phase_of_ne s g p h]
  rw [split _ p.holdsSlot (by simp [slotHolders]),
    split s.slotHolders (s.phase g).holdsSlot (by simp [slotHolders]), herase]
  omega

theorem slotHolders_setPhase (h : (s.phase g).holdsSlot = p.holdsSlot) :
    (s.setPhase g p).slotHolders = s.slotHolders := by
  ext g'
  by_cases e : g' = g
  · subst e; simp [slotHolders, h]
  · simp [slotHolders, setPhase_phase_of_ne s g p e]

end SetPhase

/-! ## Inverting a step -/

section Inversion

variable {s s' : Modals n} {o : Option (Except ReloginError Unit)} {g : Fin n}

theorem step_relogin (h : s.step (.relogin g) = some (s', o)) :
    s.phase g = .idle ∧ (s.reloginMu = true ∧ s' = s ∨
      s.reloginMu = false ∧ s' = { s.setPhase g (.acquiring true) with reloginMu := true }) := by
  simp only [step] at h
  split at h
  · rename_i hg
    cases hmu : s.reloginMu <;> simp only [hmu, if_true, Bool.false_eq_true, if_false,
      Option.some.injEq, Prod.mk.injEq] at h
    · exact ⟨hg, .inr ⟨rfl, h.1.symm⟩⟩
    · exact ⟨hg, .inl ⟨rfl, h.1.symm⟩⟩
  · cases h

theorem step_importantModal (h : s.step (.importantModal g) = some (s', o)) :
    s.phase g = .idle ∧ s' = s.setPhase g (.acquiring false) := by
  simp only [step] at h
  split at h
  · cases h; exact ⟨‹_›, rfl⟩
  · cases h

theorem step_send (h : s.step (.send g) = some (s', o)) :
    ∃ r, s.phase g = .acquiring r ∧
      s.importantModalSemaphore.held < s.importantModalSemaphore.maxConcurrency ∧
      s' = { s.setPhase g (.sleeping r (s.now + (s.importantModalSemaphore.waitDuration -
          (s.now - s.importantModalSemaphore.lastRelease)))) with
        importantModalSemaphore :=
          { s.importantModalSemaphore with held := s.importantModalSemaphore.held + 1 } } := by
  simp only [step] at h
  split at h
  · rename_i r sem wakeAt hg hacq
    cases h
    simp only [WaitSemaphore.acquire] at hacq
    split at hacq
    · cases hacq; exact ⟨r, hg, ‹_›, rfl⟩
    · cases hacq
  · cases h

theorem step_cancel (h : s.step (.cancel g) = some (s', o)) :
    s.phase g = .acquiring true ∧ s' = { s.setPhase g .idle with reloginMu := false } ∨
      s.phase g = .acquiring false ∧ s' = s.setPhase g .idle := by
  simp only [step] at h
  split at h <;> cases h
  · exact .inl ⟨‹_›, rfl⟩
  · exact .inr ⟨‹_›, rfl⟩

theorem step_wake (h : s.step (.wake g) = some (s', o)) :
    ∃ r w, s.phase g = .sleeping r w ∧ w ≤ s.now ∧ s' = s.setPhase g (.modal r s.now) := by
  simp only [step] at h
  split at h
  · split at h
    · cases h; exact ⟨_, _, ‹_›, ‹_›, rfl⟩
    · cases h
  · cases h

theorem step_close {result : RpcResult} (h : s.step (.close g result) = some (s', o)) :
    ∃ r t, s.phase g = .modal r t ∧ 0 < s.importantModalSemaphore.held ∧
      s' = { s.setPhase g (if r then .unlocking result else .idle) with
        importantModalSemaphore := { s.importantModalSemaphore with
          lastRelease := s.now, held := s.importantModalSemaphore.held - 1 } } := by
  simp only [step] at h
  split at h <;> (try cases h) <;>
  · rename_i sem hg hrel
    simp only [WaitSemaphore.release] at hrel
    split at hrel
    · cases hrel; exact ⟨_, _, hg, ‹_›, rfl⟩
    · cases hrel

theorem step_unlock (h : s.step (.unlock g) = some (s', o)) :
    ∃ result, s.phase g = .unlocking result ∧
      s' = { s.setPhase g .idle with reloginMu := false } ∧ o = some (reloginResult result) := by
  simp only [step] at h
  split at h
  · cases h; exact ⟨_, ‹_›, rfl, rfl⟩
  · cases h

theorem step_tick {d : Int} (h : s.step (.tick d) = some (s', o)) :
    0 < d ∧ s' = { s with now := s.now + d } := by
  simp only [step] at h
  split at h
  · cases h; exact ⟨‹_›, rfl⟩
  · cases h

end Inversion

/-! ## Every state: `reloginMu` and the slots -/

/-- What every reachable state satisfies, for a semaphore of any capacity: `reloginMu` is locked
exactly while one goroutine runs `relogin`, and `semC` holds one value for each goroutine between
its send and its `Release`, at most `maxConcurrency`. -/
structure WF (s : Modals n) : Prop where
  mutex : s.reloginMu = true ↔ ∃ g, (s.phase g).holdsMu = true
  oneRelogin : ∀ g g', (s.phase g).holdsMu = true → (s.phase g').holdsMu = true → g = g'
  slots : s.importantModalSemaphore.held = s.slotHolders.card
  bounded : s.importantModalSemaphore.held ≤ s.importantModalSemaphore.maxConcurrency
  released : s.importantModalSemaphore.lastRelease ≤ s.now

theorem WF.init (now : Int) (h : zeroTime ≤ now) : (init n now).WF where
  mutex := by simp [Modals.init, Phase.holdsMu]
  oneRelogin := by simp [Modals.init, Phase.holdsMu]
  slots := by simp [Modals.init, newWaitSemaphore, slotHolders, Phase.holdsSlot]
  bounded := by simp [Modals.init, newWaitSemaphore]
  released := h

section Moves

variable {s : Modals n} {g : Fin n}

theorem holdsMu_setPhase {p : Phase} (hmu : (s.phase g).holdsMu = p.holdsMu) (g' : Fin n) :
    ((s.setPhase g p).phase g').holdsMu = (s.phase g').holdsMu := by
  by_cases h : g' = g
  · subst h; simp [hmu]
  · rw [setPhase_phase_of_ne s g p h]

/-- A goroutine's move that keeps whether it holds `reloginMu`, leaving the semaphore `sem`. -/
theorem WF.move (hs : s.WF) {p : Phase} (hmu : (s.phase g).holdsMu = p.holdsMu)
    (sem : WaitSemaphore)
    (hheld : sem.held + (if (s.phase g).holdsSlot then 1 else 0) =
      s.importantModalSemaphore.held + if p.holdsSlot then 1 else 0)
    (hbound : sem.held ≤ sem.maxConcurrency) (hrel : sem.lastRelease ≤ s.now) :
    { s.setPhase g p with importantModalSemaphore := sem }.WF where
  mutex := by simpa only [holdsMu_setPhase hmu] using hs.mutex
  oneRelogin := by simpa only [holdsMu_setPhase hmu] using hs.oneRelogin
  slots := by
    have := card_slotHolders_setPhase s g p
    have := hs.slots
    show sem.held = (s.setPhase g p).slotHolders.card
    omega
  bounded := hbound
  released := hrel

/-- A move that keeps whether the goroutine holds `reloginMu` and a value of `semC`. -/
theorem WF.setPhase (hs : s.WF) {p : Phase} (hmu : (s.phase g).holdsMu = p.holdsMu)
    (hslot : (s.phase g).holdsSlot = p.holdsSlot) : (s.setPhase g p).WF :=
  hs.move hmu s.importantModalSemaphore (by rw [hslot]) hs.bounded hs.released

/-- `relogin` takes `reloginMu`. -/
theorem WF.lock (hs : s.WF) (hmu : s.reloginMu = false) (hg : s.phase g = .idle) :
    { s.setPhase g (.acquiring true) with reloginMu := true }.WF where
  mutex := iff_of_true rfl ⟨g, by simp [Phase.holdsMu]⟩
  oneRelogin := by
    have only : ∀ g', ((s.setPhase g (.acquiring true)).phase g').holdsMu = true → g' = g := by
      intro g' h'
      by_contra hne
      rw [setPhase_phase_of_ne s g _ hne] at h'
      exact Bool.false_ne_true (hmu.symm.trans (hs.mutex.mpr ⟨g', h'⟩))
    exact fun g₁ g₂ h₁ h₂ => (only g₁ h₁).trans (only g₂ h₂).symm
  slots := hs.slots.trans
    (congrArg card (slotHolders_setPhase s g _ (by simp [hg, Phase.holdsSlot]))).symm
  bounded := hs.bounded
  released := hs.released

theorem holdsMu_of_setPhase_idle {g' : Fin n}
    (h : ((s.setPhase g .idle).phase g').holdsMu = true) :
    (s.phase g').holdsMu = true ∧ g' ≠ g := by
  by_cases e : g' = g
  · subst e; simp [Phase.holdsMu] at h
  · exact ⟨by rwa [setPhase_phase_of_ne s g _ e] at h, e⟩

/-- The goroutine that holds `reloginMu`, and no value of `semC`, unlocks it as it goes idle. -/
theorem WF.unlock (hs : s.WF) (hg : (s.phase g).holdsMu = true)
    (hslot : (s.phase g).holdsSlot = false) :
    { s.setPhase g .idle with reloginMu := false }.WF where
  mutex := iff_of_false Bool.false_ne_true fun ⟨g', h'⟩ =>
    (holdsMu_of_setPhase_idle h').2 (hs.oneRelogin g' g (holdsMu_of_setPhase_idle h').1 hg)
  oneRelogin _ _ h₁ h₂ :=
    hs.oneRelogin _ _ (holdsMu_of_setPhase_idle h₁).1 (holdsMu_of_setPhase_idle h₂).1
  slots := hs.slots.trans
    (congrArg card (slotHolders_setPhase s g .idle hslot)).symm
  bounded := hs.bounded
  released := hs.released

end Moves

/-- Every step keeps `WF`. -/
theorem WF.step {s s' : Modals n} {a : Action n} {o : Option (Except ReloginError Unit)}
    (hs : s.WF) (h : s.step a = some (s', o)) : s'.WF := by
  cases a with
  | relogin g =>
    obtain ⟨hg, ⟨-, rfl⟩ | ⟨hmu, rfl⟩⟩ := step_relogin h
    · exact hs
    · exact hs.lock hmu hg
  | importantModal g =>
    obtain ⟨hg, rfl⟩ := step_importantModal h
    exact hs.setPhase (by simp [hg, Phase.holdsMu]) (by simp [hg, Phase.holdsSlot])
  | send g =>
    obtain ⟨r, hg, hlt, rfl⟩ := step_send h
    refine hs.move (by simp [hg, Phase.holdsMu]) _ ?_ hlt hs.released
    simp [hg, Phase.holdsSlot]
  | cancel g =>
    obtain ⟨hg, rfl⟩ | ⟨hg, rfl⟩ := step_cancel h
    · exact hs.unlock (by simp [hg, Phase.holdsMu]) (by simp [hg, Phase.holdsSlot])
    · exact hs.setPhase (by simp [hg, Phase.holdsMu]) (by simp [hg, Phase.holdsSlot])
  | wake g =>
    obtain ⟨r, w, hg, -, rfl⟩ := step_wake h
    exact hs.setPhase (by simp [hg, Phase.holdsMu]) (by simp [hg, Phase.holdsSlot])
  | close g result =>
    obtain ⟨r, t, hg, hpos, rfl⟩ := step_close h
    refine hs.move (by cases r <;> simp [hg, Phase.holdsMu]) _ ?_ ?_ le_rfl
    · cases r <;> simp [hg, Phase.holdsSlot] <;> omega
    · exact (Nat.sub_le _ 1).trans hs.bounded
  | unlock g =>
    obtain ⟨result, hg, rfl, -⟩ := step_unlock h
    exact hs.unlock (by simp [hg, Phase.holdsMu]) (by simp [hg, Phase.holdsSlot])
  | tick d =>
    obtain ⟨hd, rfl⟩ := step_tick h
    exact { hs with released := hs.released.trans (Int.le_add_of_nonneg_right (Int.le_of_lt hd)) }

/-- With one slot, a goroutine holding it holds it alone. -/
theorem WF.eq_of_holdsSlot {s : Modals n} (hs : s.WF)
    (h1 : s.importantModalSemaphore.maxConcurrency = 1) {g g' : Fin n}
    (hg : (s.phase g).holdsSlot = true) (hg' : (s.phase g').holdsSlot = true) : g = g' := by
  have hcard : s.slotHolders.card ≤ 1 := by have := hs.bounded; have := hs.slots; omega
  exact card_le_one.mp hcard g (by simp [slotHolders, hg]) g' (by simp [slotHolders, hg'])

/-- A step keeps the semaphore's capacity and wait, and moves `lastRelease` forward only. -/
theorem step_semaphore {s s' : Modals n} {a : Action n} {o : Option (Except ReloginError Unit)}
    (hs : s.WF) (h : s.step a = some (s', o)) :
    s'.importantModalSemaphore.maxConcurrency = s.importantModalSemaphore.maxConcurrency ∧
      s'.importantModalSemaphore.waitDuration = s.importantModalSemaphore.waitDuration ∧
      s.importantModalSemaphore.lastRelease ≤ s'.importantModalSemaphore.lastRelease := by
  cases a with
  | relogin g =>
    obtain ⟨-, ⟨-, rfl⟩ | ⟨-, rfl⟩⟩ := step_relogin h <;> exact ⟨rfl, rfl, le_rfl⟩
  | importantModal g => obtain ⟨-, rfl⟩ := step_importantModal h; exact ⟨rfl, rfl, le_rfl⟩
  | send g => obtain ⟨-, -, -, rfl⟩ := step_send h; exact ⟨rfl, rfl, le_rfl⟩
  | cancel g => obtain ⟨-, rfl⟩ | ⟨-, rfl⟩ := step_cancel h <;> exact ⟨rfl, rfl, le_rfl⟩
  | wake g => obtain ⟨-, -, -, -, rfl⟩ := step_wake h; exact ⟨rfl, rfl, le_rfl⟩
  | close g result =>
    obtain ⟨-, -, -, -, rfl⟩ := step_close h; exact ⟨rfl, rfl, hs.released⟩
  | unlock g => obtain ⟨-, -, rfl, -⟩ := step_unlock h; exact ⟨rfl, rfl, le_rfl⟩
  | tick d => obtain ⟨-, rfl⟩ := step_tick h; exact ⟨rfl, rfl, le_rfl⟩

/-! ## With one slot: modals apart -/

/-- Every goroutine past its send sleeps until `waitDuration` after the last `Release`, and its
modal was shown no earlier. -/
structure Spaced (s : Modals n) : Prop where
  sleeping : ∀ g r w, s.phase g = .sleeping r w →
    w = s.importantModalSemaphore.lastRelease + s.importantModalSemaphore.waitDuration
  modal : ∀ g r t, s.phase g = .modal r t →
    s.importantModalSemaphore.lastRelease + s.importantModalSemaphore.waitDuration ≤ t

theorem Spaced.init (now : Int) : (Modals.init n now).Spaced :=
  ⟨fun _ _ _ h => (by cases h), fun _ _ _ h => (by cases h)⟩

/-- A goroutine's move to a phase that meets `Spaced`, the semaphore's `lastRelease` and wait
kept. -/
theorem Spaced.move {s s' : Modals n} (hsp : s.Spaced) {g : Fin n} {p : Phase}
    (hphase : s'.phase = (s.setPhase g p).phase)
    (hsem : s'.importantModalSemaphore.lastRelease = s.importantModalSemaphore.lastRelease ∧
      s'.importantModalSemaphore.waitDuration = s.importantModalSemaphore.waitDuration)
    (hsleep : ∀ r w, p = .sleeping r w →
      w = s.importantModalSemaphore.lastRelease + s.importantModalSemaphore.waitDuration)
    (hmodal : ∀ r t, p = .modal r t →
      s.importantModalSemaphore.lastRelease + s.importantModalSemaphore.waitDuration ≤ t) :
    s'.Spaced := by
  constructor
  · intro g' r w h
    rw [hphase] at h
    rw [hsem.1, hsem.2]
    by_cases e : g' = g
    · subst e; exact hsleep r w (by simpa using h)
    · exact hsp.sleeping g' r w (by rwa [setPhase_phase_of_ne s g p e] at h)
  · intro g' r t h
    rw [hphase] at h
    rw [hsem.1, hsem.2]
    by_cases e : g' = g
    · subst e; exact hmodal r t (by simpa using h)
    · exact hsp.modal g' r t (by rwa [setPhase_phase_of_ne s g p e] at h)

/-- With one slot every step keeps `Spaced`. -/
theorem Spaced.step {s s' : Modals n} {a : Action n} {o : Option (Except ReloginError Unit)}
    (hs : s.WF) (hsp : s.Spaced) (h1 : s.importantModalSemaphore.maxConcurrency = 1)
    (h : s.step a = some (s', o)) : s'.Spaced := by
  cases a with
  | relogin g =>
    obtain ⟨-, ⟨-, rfl⟩ | ⟨-, rfl⟩⟩ := step_relogin h
    · exact hsp
    · exact hsp.move rfl ⟨rfl, rfl⟩ (fun _ _ h => by cases h) fun _ _ h => by cases h
  | importantModal g =>
    obtain ⟨-, rfl⟩ := step_importantModal h
    exact hsp.move rfl ⟨rfl, rfl⟩ (fun _ _ h => by cases h) fun _ _ h => by cases h
  | send g =>
    obtain ⟨r, -, -, rfl⟩ := step_send h
    exact hsp.move rfl ⟨rfl, rfl⟩ (fun _ _ h => by cases h; omega) fun _ _ h => by cases h
  | cancel g =>
    obtain ⟨-, rfl⟩ | ⟨-, rfl⟩ := step_cancel h <;>
    exact hsp.move rfl ⟨rfl, rfl⟩ (fun _ _ h => by cases h) fun _ _ h => by cases h
  | wake g =>
    obtain ⟨r, w, hg, hw, rfl⟩ := step_wake h
    exact hsp.move rfl ⟨rfl, rfl⟩ (fun _ _ h => by cases h) fun _ _ h => by
      cases h; exact (hsp.sleeping g r w hg).symm.trans_le hw
  | close g result =>
    obtain ⟨r, t, hg, -, rfl⟩ := step_close h
    have free : ∀ g',
        ((s.setPhase g (if r then .unlocking result else .idle)).phase g').holdsSlot = false := by
      intro g'
      by_cases e : g' = g
      · subst e; cases r <;> simp [Phase.holdsSlot]
      · rw [setPhase_phase_of_ne s g _ e]
        by_contra hne
        exact e (hs.eq_of_holdsSlot h1 (Bool.not_eq_false _ |>.mp hne)
          (by simp [hg, Phase.holdsSlot]))
    refine ⟨fun g' _ _ h' => absurd (free g') ?_, fun g' _ _ h' => absurd (free g') ?_⟩ <;>
    · rw [show (s.setPhase g _).phase g' = _ from h']; simp [Phase.holdsSlot]
  | unlock g =>
    obtain ⟨-, -, rfl, -⟩ := step_unlock h
    exact hsp.move rfl ⟨rfl, rfl⟩ (fun _ _ h => by cases h) fun _ _ h => by cases h
  | tick d => obtain ⟨-, rfl⟩ := step_tick h; exact ⟨hsp.1, hsp.2⟩

/-! ## Every run -/

/-- A property every step keeps holds after every schedule. -/
theorem run_preserves {P : Modals n → Prop}
    (hP : ∀ {s s' : Modals n} {a : Action n} {o : Option (Except ReloginError Unit)},
      P s → s.step a = some (s', o) → P s') :
    ∀ {s s' : Modals n} {acts : List (Action n)}, P s → s.run acts = some s' → P s'
  | _, _, [], hs, h => Option.some.inj h ▸ hs
  | _, _, _ :: _, hs, h => by
    obtain ⟨⟨_, _⟩, h₁, h₂⟩ := Option.bind_eq_some.mp h
    exact run_preserves hP (hP hs h₁) h₂

/-- What every reachable state satisfies: `WF`, the daemon's one slot and wait, and `Spaced`. -/
structure Inv (s : Modals n) : Prop where
  wf : s.WF
  maxConcurrency : s.importantModalSemaphore.maxConcurrency = maxConcurrentImportantModals
  waitDuration : s.importantModalSemaphore.waitDuration = imporantModalWaitDuraiton
  spaced : s.Spaced

theorem Inv.step {s s' : Modals n} {a : Action n} {o : Option (Except ReloginError Unit)}
    (hs : s.Inv) (h : s.step a = some (s', o)) : s'.Inv :=
  have hsem := step_semaphore hs.wf h
  ⟨hs.wf.step h, hsem.1.trans hs.maxConcurrency, hsem.2.1.trans hs.waitDuration,
    hs.spaced.step hs.wf hs.maxConcurrency h⟩

theorem Reachable.inv {s : Modals n} (h : s.Reachable) : s.Inv := by
  obtain ⟨now, acts, hnow, hrun⟩ := h
  exact run_preserves Inv.step ⟨WF.init now hnow, rfl, rfl, Spaced.init now⟩ hrun

/-! ## When a step can be taken -/

section Enabled

variable {s : Modals n} {g : Fin n}

theorem step_send_isSome {r : Bool} (hg : s.phase g = .acquiring r)
    (hlt : s.importantModalSemaphore.held < s.importantModalSemaphore.maxConcurrency) :
    (s.step (.send g)).isSome := by
  simp [step, hg, WaitSemaphore.acquire, hlt]

theorem step_wake_isSome {r : Bool} {w : Int} (hg : s.phase g = .sleeping r w) (hw : w ≤ s.now) :
    (s.step (.wake g)).isSome := by
  simp [step, hg, hw]

theorem step_close_isSome {r : Bool} {t : Int} (hg : s.phase g = .modal r t)
    (hpos : 0 < s.importantModalSemaphore.held) (result : RpcResult) :
    (s.step (.close g result)).isSome := by
  cases r <;> simp [step, hg, WaitSemaphore.release, hpos]

theorem step_unlock_isSome {result : RpcResult} (hg : s.phase g = .unlocking result) :
    (s.step (.unlock g)).isSome := by
  simp [step, hg]

/-- A tick changes only the clock, so the schedule "tick, then `a`" can be taken exactly when
`a` can be taken at the later time. -/
theorem run_tick_isSome {d : Int} (hd : 0 < d) (a : Action n) :
    (s.run [.tick d, a]).isSome = ({ s with now := s.now + d }.step a).isSome := by
  have htick : s.step (.tick d) = some ({ s with now := s.now + d }, none) := if_pos hd
  simp only [run, htick, Option.some_bind]
  cases { s with now := s.now + d }.step a <;> rfl

/-- A goroutine past its send, in a state where it counts in `semC`, can go on once time has
passed: its `time.Sleep` returns, or its modal closes. -/
theorem WF.progress_of_holdsSlot (hs : s.WF) (hg : (s.phase g).holdsSlot = true)
    (result : RpcResult) :
    ∃ d, 0 < d ∧ ∃ a ∈ [Action.send g, .wake g, .close g result, .unlock g],
      (s.run [.tick d, a]).isSome := by
  have hpos : 0 < s.importantModalSemaphore.held := by
    rw [hs.slots]; exact card_pos.mpr ⟨g, by simp [slotHolders, hg]⟩
  cases hp : s.phase g with
  | sleeping r w =>
    refine ⟨max 1 (w - s.now), by omega, .wake g, by simp, ?_⟩
    rw [run_tick_isSome (by omega)]
    exact step_wake_isSome (s := { s with now := s.now + max 1 (w - s.now) }) hp
      (by dsimp only; omega)
  | modal r t =>
    refine ⟨1, Int.one_pos, .close g result, by simp, ?_⟩
    rw [run_tick_isSome Int.one_pos]
    exact step_close_isSome (s := { s with now := s.now + 1 }) hp hpos result
  | idle | acquiring | unlocking => simp [hp, Phase.holdsSlot] at hg

end Enabled

end Modals

open Modals

variable {n : Nat}

/-- In every reachable state one goroutine at a time holds the semaphore's slot, so the app is
asked for one important modal at a time; one goroutine at a time runs `relogin`; and a relogin
requested meanwhile returns `AlreadyExists` at once and changes nothing. -/
theorem reachable_modals_exclusive {s : Modals n} (hs : s.Reachable) :
    (∀ g g', (s.phase g).holdsSlot = true → (s.phase g').holdsSlot = true → g = g') ∧
      (∀ g g', (s.phase g).holdsMu = true → (s.phase g').holdsMu = true → g = g') ∧
      ∀ g g', (s.phase g).holdsMu = true → s.phase g' = .idle →
        s.step (.relogin g') =
          some (s, some (.error (.alreadyExists "another relogin request is in progress"))) := by
  have hinv := hs.inv
  refine ⟨fun _ _ => hinv.wf.eq_of_holdsSlot hinv.maxConcurrency, hinv.wf.oneRelogin,
    fun g g' hg hg' => ?_⟩
  simp [Modals.step, hg', hinv.wf.mutex.mpr ⟨g, hg⟩]

/-- Goroutine 0 has taken `reloginMu` in `relogin` and waits to send on `semC`. -/
def reloginStarted : Modals 2 :=
  { (Modals.init 2 0).setPhase 0 (.acquiring true) with reloginMu := true }

theorem relogin_in_progress_exclusive :
    reloginStarted.Reachable ∧ (reloginStarted.phase 0).holdsMu = true ∧
      (∀ g g', (reloginStarted.phase g).holdsMu = true →
        (reloginStarted.phase g').holdsMu = true → g = g') ∧
      reloginStarted.step (.relogin 1) = some (reloginStarted,
        some (.error (.alreadyExists "another relogin request is in progress"))) :=
  have hs : reloginStarted.Reachable := ⟨0, [.relogin 0], by decide, rfl⟩
  ⟨hs, rfl, (reachable_modals_exclusive hs).2.1, (reachable_modals_exclusive hs).2.2 0 1 rfl rfl⟩

/-- After a goroutine closes its modal, its `Release` at `s.now`, a modal shown later on any
schedule (a goroutine's `time.Sleep` in `Acquire` returning) is shown
`imporantModalWaitDuraiton` or more after. -/
theorem modal_spacing {s s' : Modals n} {g g' : Fin n} {result : RpcResult}
    {acts : List (Action n)} (hs : s.Reachable) (hrun : s.run (.close g result :: acts) = some s')
    (hwake : (s'.step (.wake g')).isSome) : s.now + imporantModalWaitDuraiton ≤ s'.now := by
  obtain ⟨⟨s₁, o⟩, h₁, hrun⟩ := Option.bind_eq_some.mp hrun
  have hinv := hs.inv
  have hclose : s₁.importantModalSemaphore.lastRelease = s.now := by
    obtain ⟨-, -, -, -, rfl⟩ := step_close h₁; rfl
  obtain ⟨hinv', hlr⟩ :=
    run_preserves (P := fun x => x.Inv ∧ s.now ≤ x.importantModalSemaphore.lastRelease)
      (fun ⟨hx, hle⟩ hstep => ⟨hx.step hstep, hle.trans (step_semaphore hx.wf hstep).2.2⟩)
      ⟨hinv.step h₁, hclose.ge⟩ hrun
  obtain ⟨⟨s₃, o₃⟩, h₃⟩ := Option.isSome_iff_exists.mp hwake
  obtain ⟨r, w, hg', hw, -⟩ := step_wake h₃
  have hsleep := hinv'.spaced.sleeping g' r w hg'
  rw [hinv'.waitDuration] at hsleep
  omega

/-- From the start, one modal and then another: the second is shown half a second after the
first closes. -/
theorem modal_spacing_two_modals :
    let s := ((Modals.init 1 0).run [.importantModal 0, .send 0, .wake 0]).getD (Modals.init 1 0)
    let acts : List (Action 1) := [.importantModal 0, .send 0, .tick imporantModalWaitDuraiton]
    let s' := (s.run (.close 0 .ok :: acts)).getD s
    s.Reachable ∧ s.run (.close 0 .ok :: acts) = some s' ∧ (s'.step (.wake 0)).isSome ∧
      s.now + imporantModalWaitDuraiton ≤ s'.now :=
  have hs : Modals.Reachable (((Modals.init 1 0).run [.importantModal 0, .send 0, .wake 0]).getD
      (Modals.init 1 0)) := ⟨0, [.importantModal 0, .send 0, .wake 0], by decide, rfl⟩
  ⟨hs, rfl, rfl, modal_spacing hs (rfl : Modals.run _
    (.close 0 .ok :: [.importantModal 0, .send 0, .tick imporantModalWaitDuraiton]) = _)
    (show (Modals.step _ (.wake 0)).isSome = true by rfl)⟩

/-- No reachable state is stuck: while a goroutine is not idle, some goroutine can take its
next step (its send in `Acquire`, the return of its `time.Sleep`, its modal's close with any
result of the RPC, or `reloginMu.Unlock()`) once time has passed, with no context canceled. -/
theorem reachable_progress {s : Modals n} {g : Fin n} (hs : s.Reachable) (hg : s.phase g ≠ .idle)
    (result : RpcResult) :
    ∃ g' d, 0 < d ∧ ∃ a ∈ [Action.send g', .wake g', .close g' result, .unlock g'],
      (s.run [.tick d, a]).isSome := by
  have hinv := hs.inv
  by_cases hslot : (s.phase g).holdsSlot
  · exact ⟨g, hinv.wf.progress_of_holdsSlot hslot result⟩
  cases hp : s.phase g with
  | idle => exact absurd hp hg
  | unlocking res =>
    refine ⟨g, 1, Int.one_pos, .unlock g, by simp, ?_⟩
    rw [run_tick_isSome Int.one_pos]
    exact step_unlock_isSome (s := { s with now := s.now + 1 }) hp
  | acquiring r =>
    by_cases hfree : s.importantModalSemaphore.held < s.importantModalSemaphore.maxConcurrency
    · refine ⟨g, 1, Int.one_pos, .send g, by simp, ?_⟩
      rw [run_tick_isSome Int.one_pos]
      exact step_send_isSome (s := { s with now := s.now + 1 }) hp hfree
    · -- `semC` is full, so a goroutine holds its one value
      obtain ⟨g', hg'⟩ : s.slotHolders.Nonempty := by
        have := hinv.wf.slots
        have := hinv.maxConcurrency
        exact Finset.card_pos.mp (by simp only [maxConcurrentImportantModals] at *; omega)
      exact ⟨g', hinv.wf.progress_of_holdsSlot (by simpa [slotHolders] using hg') result⟩
  | sleeping | modal => simp [hp, Phase.holdsSlot] at hslot

theorem progress_waiting_for_slot :
    let s := ((Modals.init 2 0).run [.importantModal 0, .send 0, .importantModal 1]).getD
      (Modals.init 2 0)
    s.Reachable ∧ s.phase 1 ≠ .idle ∧
      ∃ g' d, 0 < d ∧ ∃ a ∈ [Action.send g', .wake g', .close g' .ok, .unlock g'],
        (s.run [.tick d, a]).isSome :=
  have hs : Modals.Reachable (((Modals.init 2 0).run [.importantModal 0, .send 0,
      .importantModal 1]).getD (Modals.init 2 0)) :=
    ⟨0, [.importantModal 0, .send 0, .importantModal 1], by decide, rfl⟩
  ⟨hs, by decide, reachable_progress (g := 1) hs (by decide) .ok⟩

end Teleport.Teleterm.Daemon
