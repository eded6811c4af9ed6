/-
Safety of the emulation in every reachable state, read off the invariant.
The count is the number of counted waiters and, with no wave in flight, the
semaphore, the event and the drain are empty, so the asserts on
`prev_sem_count` hold and `ReleaseSemaphore` stays under `LONG_MAX`. A
decrement runs only while the gate is held by the wave it belongs to, so the
two read-modify-writes of `waiting_thread_count`, under different critical
sections, never interleave. And `broadcast_in_progress` is constant while a
waiter drains and says whether the wave is a broadcast, so the waiter's
`SetEvent` decision is the one the spec describes.

Each critical section, and the external mutex inside `wait`, has at most
one thread in it; and no reachable thread stands on an error branch or has
had a call return anything but `AMP_SUCCESS` (`Reachable.afterFailure`).
-/
import AmpCondVar.Preservation

namespace Amp

variable {n : Nat} {s : State n}

/-- Two waiters and a broadcast: thread 0 stands between the load and the
store of its decrement, thread 1 at the semaphore with its token in it, and
thread 2 blocked on the drain event. -/
def broadcastMidWave : List (Fin 3 × Action) :=
  [(0, .lock), (0, .callWait), (0, .run), (0, .run), (0, .run), (0, .run), (0, .run),
   (1, .lock), (1, .callWait), (1, .run), (1, .run), (1, .run), (1, .run), (1, .run),
   (2, .callBroadcast), (2, .run), (2, .run), (2, .run), (2, .run),
   (0, .run), (0, .run), (0, .run), (0, .run)]

/-! ## The count and the quiet state -/

/-- **The count and the quiet state.** The count is the number of counted
waiters. With no wave in flight the semaphore and the event are empty, no
waiter is past the semaphore or still owes a `SetEvent`, and
`broadcast_in_progress` is set exactly while a broadcast stands between lines
295 and 334. The asserts `0 == prev_sem_count` hold, no waiter is counted in
while one of an earlier wave drains, and with fewer than `LONG_MAX` threads no
`ReleaseSemaphore` goes past it. -/
theorem count_and_quiet_state (hr : Reachable s) :
    s.cond.waitingThreadCount = census Pc.counted s.pc ∧
    0 ≤ s.cond.waitingThreadCount ∧ s.cond.waitingThreadCount ≤ n ∧
    ((∀ g, (s.pc g).inFlight = false) →
      s.cond.controlSem = 0 ∧ s.cond.finishedEvent = false ∧
      census Pc.passed s.pc = 0 ∧ census Pc.willSet s.pc = 0 ∧
      (s.cond.broadcastInProgress = true ↔ ∃ g, (s.pc g).inProgressSet = true)) ∧
    (∀ g, s.pc g = .signal .release →
      s.cond.controlSem = 0 ∧ s.cond.controlSem + 1 ≤ LONG_MAX) ∧
    (∀ g w, s.pc g = .broadcast (.release w) →
      s.cond.controlSem = 0 ∧ (n < LONG_MAX → s.cond.controlSem + w.toNat ≤ LONG_MAX)) ∧
    (∀ j v, s.pc j = .wait (.storeCount v) → census Pc.draining s.pc = 0) := by
  have hs := hr.inv
  have hle := census_le_card Pc.counted s.pc
  refine ⟨hs.count, by rw [hs.count]; omega, by rw [hs.count]; omega,
    fun h => ?_, fun g hg => ?_, fun g w hg => ?_, fun j v hj => ?_⟩
  · have hq := hs.quiet h
    exact ⟨hq.1, hq.2.1, hq.passed_eq_zero, hq.willSet_eq_zero, hs.inProgress⟩
  · have := (hs.quiet_of_wake (g := g) (by simp [hg, Pc.holdsWake]) (by simp [hg, Pc.inFlight])).1
    simp [this, LONG_MAX]
  · have hq := hs.quiet_of_wake (g := g) (by simp [hg, Pc.holdsWake]) (by simp [hg, Pc.inFlight])
    have hw := hs.countCopy g w (by simp [hg, Pc.countCopy])
    have hc := hs.count
    have h0 := hq.1
    refine ⟨h0, fun hn => ?_⟩
    omega
  · exact (hs.quiet_of_wake (g := j) (by simp [hj, Pc.holdsWake]) (by simp [hj, Pc.inFlight])).2.2

theorem count_and_quiet_state_mid_broadcast :
    ∃ s h, run (State.init 3) broadcastMidWave = some (s, h) ∧
      s.cond.waitingThreadCount = census Pc.counted s.pc ∧ s.cond.waitingThreadCount ≤ 3 := by
  have hr : run (State.init 3) broadcastMidWave = some _ := rfl
  have hreach := Reachable.run .refl (by decide) hr
  exact ⟨_, _, hr, (count_and_quiet_state hreach).1, (count_and_quiet_state hreach).2.2.1⟩

/-- One waiter at the semaphore and a broadcast that has set
`broadcast_in_progress` (line 295) and not yet called `ReleaseSemaphore`. -/
def broadcastBeforeRelease : List (Fin 2 × Action) :=
  [(0, .lock), (0, .callWait), (0, .run), (0, .run), (0, .run), (0, .run), (0, .run),
   (1, .callBroadcast), (1, .run), (1, .run), (1, .run)]

/-- No wave is in flight, yet `broadcast_in_progress` is TRUE. -/
theorem broadcast_in_progress_outside_wave :
    ∃ s h, run (State.init 2) broadcastBeforeRelease = some (s, h) ∧ Reachable s ∧
      (∀ g, (s.pc g).inFlight = false) ∧ s.cond.broadcastInProgress = true := by
  have hr : run (State.init 2) broadcastBeforeRelease = some _ := rfl
  have hreach := Reachable.run .refl (by decide) hr
  exact ⟨_, _, hr, hreach, by decide, rfl⟩

/-! ## The two read-modify-writes of the count -/

/-- The gate is held by the wave a draining waiter belongs to. -/
theorem Inv.gate_of_draining (hs : Inv s) {j : Fin n} (hj : (s.pc j).draining = true) :
    ∃ g, s.cond.wakeCritsec = some g ∧ (s.pc g = .signal .waitEvent ∨ s.pc g = .broadcast .waitEvent) := by
  obtain ⟨g, hg⟩ := hs.inFlight_of_draining hj
  exact ⟨g, (hs.wake g).1 (Pc.holdsWake_of_inFlight hg), Pc.inFlight_cases hg⟩

/-- **No update of the count is lost.** A waiter between the load and the
store of its decrement finds the gate held by the signal or broadcast blocked
on the drain event, so no waiter is between the load and the store of an
increment and no gate holder is reading the count to size a wave, and the
value it loaded is still the count. Every step therefore moves the count by
exactly its own thread's increment or decrement. -/
theorem count_update_not_lost (hr : Reachable s) :
    (∀ j b v, s.pc j = .wait (.storeDecrement b v) →
      ∃ g, s.cond.wakeCritsec = some g ∧
        (s.pc g = .signal .waitEvent ∨ s.pc g = .broadcast .waitEvent) ∧
        (∀ k w, s.pc k ≠ .wait (.storeCount w)) ∧ v = s.cond.waitingThreadCount) ∧
    (∀ i a s', a ≠ .fail → step s i a = some s' →
      s'.cond.waitingThreadCount + (if (s.pc i).counted then 1 else 0) =
        s.cond.waitingThreadCount + (if (s'.pc i).counted then 1 else 0)) := by
  have hs := hr.inv
  refine ⟨fun j b v hj => ?_, fun i a s' ha h => ?_⟩
  · obtain ⟨g, hw, hg⟩ := hs.gate_of_draining (j := j) (by simp [hj, Pc.draining])
    refine ⟨g, hw, hg, fun k w hk => ?_, hs.countCopy j v (by simp [hj, Pc.countCopy])⟩
    have := (hs.wake k).1 (by simp [hk, Pc.holdsWake])
    rw [hw, Option.some_inj] at this
    subst this
    rcases hg with hg | hg <;> rw [hg] at hk <;> cases hk
  · have hm := step_moves h ha
    have hc := hm.census Pc.counted
    rw [hs.count, (hs.of_moves hm).count]
    split_ifs at hc ⊢ <;> omega

theorem count_update_not_lost_mid_broadcast :
    ∃ s h, run (State.init 3) broadcastMidWave = some (s, h) ∧
      ∃ g, s.cond.wakeCritsec = some g ∧
        (s.pc g = .signal .waitEvent ∨ s.pc g = .broadcast .waitEvent) := by
  have hr : run (State.init 3) broadcastMidWave = some _ := rfl
  have hreach := Reachable.run .refl (by decide) hr
  obtain ⟨g, hw, hg, -⟩ := (count_update_not_lost hreach).1 0 true 2 rfl
  exact ⟨_, _, hr, g, hw, hg⟩

/-! ## `broadcast_in_progress` while a waiter drains -/

/-- **The flag a draining waiter reads.** From passing the semaphore until
leaving the count critical section a waiter finds the gate held by the
signal or broadcast whose wave it drains. `broadcast_in_progress` is TRUE
exactly when that is a broadcast, and no step changes it, so the unlocked
read at line 490 equals a read inside the count critical section (the
commented-out line 501); and the waiter goes on to `SetEvent` exactly when
its wave is a signal's or its decrement left the count at zero. -/
theorem broadcast_in_progress_while_draining (hr : Reachable s) {j : Fin n}
    (hj : (s.pc j).passed = true ∨ ∃ b c, s.pc j = .wait (.leaveAccess b c)) :
    ∃ g, s.cond.wakeCritsec = some g ∧
      (s.pc g = .signal .waitEvent ∨ s.pc g = .broadcast .waitEvent) ∧
      (s.cond.broadcastInProgress = true ↔ s.pc g = .broadcast .waitEvent) ∧
      (∀ s', Step s s' → s'.cond.broadcastInProgress = s.cond.broadcastInProgress) ∧
      (∀ b, (s.pc j).readFlag = some b → b = s.cond.broadcastInProgress) ∧
      (∀ b c s', s.pc j = .wait (.leaveAccess b c) → step s j .run = some s' →
        (s'.pc j = .wait .setEvent ↔ s.pc g = .signal .waitEvent ∨ c = 0)) := by
  have hs := hr.inv
  have hd : (s.pc j).draining = true := by
    rcases hj with hj | ⟨b, c, hj⟩
    · exact (Pc.draining_of_passed hj).1
    · simp [hj, Pc.draining]
  obtain ⟨g, hw, hg⟩ := hs.gate_of_draining hd
  have hf : (s.pc g).inFlight = true := by rcases hg with hg | hg <;> simp [hg, Pc.inFlight]
  have hbip : s.cond.broadcastInProgress = true ↔ s.pc g = .broadcast .waitEvent := by
    rw [hs.inProgress_of_inFlight hf]
    rcases hg with hg | hg <;> simp [hg, Pc.inProgressSet]
  refine ⟨g, hw, hg, hbip, fun s' ⟨i, a, ha, h⟩ => ?_, hs.readFlag j, fun b c s' hj h => ?_⟩
  · rcases (step_moves h ha).inProgress with ⟨h1, -⟩ | ⟨hi, hfi, -⟩ | ⟨hi, hfi, -⟩
    · exact h1
    all_goals
      rw [hs.wake_unique hi (Pc.holdsWake_of_inFlight hf), hf] at hfi
      cases hfi
  · have hm := step_moves h (by decide)
    have hb := hs.readFlag j b (by simp [hj, Pc.readFlag])
    have hc := hs.countCopy j c (by simp [hj, Pc.countCopy])
    have hc0 : 0 ≤ c := by rw [hc, hs.count]; omega
    rw [hj] at hm
    cases hm with
    | waitLeaveAccessSkip hbc =>
      have hgb : s.pc g = .broadcast .waitEvent := hbip.1 (hb ▸ hbc.1)
      have := hbc.2
      simp [hgb]
      omega
    | waitLeaveAccessSet hbc =>
      simp only [State.leaveAccess_pc, Function.update_same, true_iff]
      cases b
      · refine .inl (hg.resolve_right fun h => ?_)
        rw [hbip.2 h] at hb
        cases hb
      · simp only [true_and, not_lt] at hbc
        exact .inr (by omega)

theorem broadcast_in_progress_while_draining_mid_broadcast :
    ∃ s h, run (State.init 3) broadcastMidWave = some (s, h) ∧
      ∃ g, s.cond.wakeCritsec = some g ∧
        (s.cond.broadcastInProgress = true ↔ s.pc g = .broadcast .waitEvent) := by
  have hr : run (State.init 3) broadcastMidWave = some _ := rfl
  have hreach := Reachable.run .refl (by decide) hr
  obtain ⟨g, hw, -, hb, -⟩ := broadcast_in_progress_while_draining hreach (j := 0) (.inl rfl)
  exact ⟨_, _, hr, g, hw, hb⟩

/-! ## Mutual exclusion -/

/-- **Mutual exclusion.** In every reachable state at most one thread stands
at a statement inside `wake_waiting_threads_critsec`, at most one inside
`access_waiting_threads_count_critsec`, and at most one inside `wait` before
its unlock of the external mutex (or on the error path that keeps it),
which that thread owns. -/
theorem critical_sections_exclusive (hr : Reachable s) (j k : Fin n) :
    ((s.pc j).holdsWake = true → (s.pc k).holdsWake = true → j = k) ∧
    ((s.pc j).holdsAccess = true → (s.pc k).holdsAccess = true → j = k) ∧
    ((s.pc j).holdsMutex = true → (s.pc k).holdsMutex = true → s.mutex = some j ∧ j = k) := by
  have hs := hr.inv
  refine ⟨hs.wake_unique, hs.access_unique, fun hj hk => ⟨hs.mutex j hj, ?_⟩⟩
  exact Option.some_injective _ ((hs.mutex j hj).symm.trans (hs.mutex k hk))

theorem critical_sections_exclusive_mid_broadcast :
    ∃ s h, run (State.init 3) broadcastMidWave = some (s, h) ∧
      ∀ j k, (s.pc j).holdsWake = true → (s.pc k).holdsWake = true → j = k := by
  have hr : run (State.init 3) broadcastMidWave = some _ := rfl
  have hreach := Reachable.run .refl (by decide) hr
  exact ⟨_, _, hr, fun j k => (critical_sections_exclusive hreach j k).1⟩

/-! ## No error branch is reached -/

namespace Pc

/-- Places a thread reaches only after an OS call failed: the error
branches of `wait` (lines 437-444 and 459-476) and every return of a code
other than `AMP_SUCCESS`. -/
def afterFailure : Pc → Bool
  | .idle (some r) | .wait (.lockMutex r) | .signal (.leaveWake r)
  | .broadcast (.clearInProgress r) | .broadcast (.leaveWake r) => r != .ampSuccess
  | .wait .unlockFailedLoad | .wait (.unlockFailedStore _) | .wait .unlockFailedLeave => true
  | p => p.semFailed

end Pc

/-- A step in which no OS call fails never leads to such a place. -/
theorem Moves.afterFailure {s' : State n} {i : Fin n} (hm : Moves s i (s.pc i) s')
    (h : (s.pc i).afterFailure = false) : (s'.pc i).afterFailure = false := by
  generalize hp : s.pc i = p at hm h
  cases hm <;> simp_all [Pc.afterFailure, Pc.semFailed]

theorem Reachable.afterFailure (hr : Reachable s) (j : Fin n) : (s.pc j).afterFailure = false := by
  induction hr generalizing j with
  | refl => simp [State.init, Pc.afterFailure, Pc.semFailed]
  | tail _ hst ih =>
    obtain ⟨i, a, ha, h⟩ := hst
    have hm := step_moves h ha
    rcases eq_or_ne j i with rfl | hji
    · exact hm.afterFailure (ih j)
    · rw [hm.pc_ne hji]; exact ih j

end Amp
