/-
Deadlock freedom. The emulation nests the gate `wake_waiting_threads_critsec`,
the count critical section and the external mutex, and it waits on the
semaphore and on the drain event, a signal or broadcast doing the latter
while it owns the gate. Still, in every reachable state in which a thread
is inside a call and not blocked in the sense of the contract, some thread
can execute its next statement: that thread, the owner of what it waits
for, or a thread the wave in flight released.

Two assumptions are needed, and neither can be dropped: no client keeps the
external mutex between calls (a woken waiter retaking it would wait for that
client), and there are no more threads than the semaphore's ceiling
`LONG_MAX`, as the comments at lines 297 and 354 assume (a broadcast's
`ReleaseSemaphore` of more tokens than that cannot succeed).
-/
import AmpCondVar.Refinement
import AmpCondVar.Drain

namespace Amp

variable {n : Nat}

/-- Thread `j` is inside a call at a statement it can execute now, its OS
call succeeding. -/
def State.canRun (s : State n) (j : Fin n) : Bool := (step s j .run).isSome

namespace Pc

/-- The places that neither own the gate nor owe wave steps: client code,
the gate's `EnterCriticalSection` of each call, the semaphore wait, the
relock of the mutex, and the error path's entry to the gate. -/
theorem cases_of_not_holdsWake {p : Pc} (hw : p.holdsWake = false) (hd : p.draining = false) :
    (∃ r, p = .idle r) ∨ p = .wait .enterWake ∨ p = .wait .semWait ∨
      (∃ r, p = .wait (.lockMutex r)) ∨ p = .wait .semFailedEnterWake ∨
      p = .signal .enterWake ∨ p = .broadcast .enterWake := by
  cases p <;> rename_i q <;> cases q <;> simp_all [holdsWake, draining]

end Pc

/-- Past the semaphore the contract has a waiter woken, whatever the readings. -/
theorem absPc_awaiting_of_draining {r z : Bool} {p : Pc} (h : p.draining = true) :
    (absPc r z p).awaiting = true := by
  cases p <;> rename_i q <;> cases q <;> first | rfl | cases h

section Progress

variable {s : State n}

theorem State.canRun_of_step {j : Fin n} {s' : State n} (h : step s j .run = some s') :
    s.canRun j = true := by
  simp [State.canRun, h]

/-- A draining thread can run, or else the owner of the count critical
section it waits for can. -/
theorem Inv.canRun_of_draining (hs : Inv s) {j : Fin n} (hj : (s.pc j).draining = true) :
    ∃ k, s.canRun k = true := by
  cases ha : s.cond.accessCritsec with
  | none => exact ⟨j, (step_of_draining hj fun _ _ => ha).elim fun _ => State.canRun_of_step⟩
  | some k =>
    have hk := (hs.access k).2 ha
    have hdk := Pc.draining_of_holdsAccess hk (hs.semFailed k)
    refine ⟨k, (step_of_draining hdk fun b hb => ?_).elim fun _ => State.canRun_of_step⟩
    simp [hb, Pc.holdsAccess] at hk

variable (hs : Inv s) (hf : ∀ j, (s.pc j).afterFailure = false) (hn : n ≤ LONG_MAX)
include hs hf hn

/-- The owner of the gate can run, or, while it waits on a clear drain
event, a thread its wave released can. With no wave in flight the
semaphore is empty, so a `ReleaseSemaphore` of at most `n` tokens stays
under the ceiling. -/
theorem Inv.canRun_of_holdsWake {h : Fin n} (hh : (s.pc h).holdsWake = true) :
    ∃ k, s.canRun k = true := by
  cases hw : (s.pc h).inFlight
  · have hsem := (hs.quiet_of_wake hh hw).1
    have hmx := hs.mutex h
    have hcopy := hs.countCopy h
    have hc : s.cond.waitingThreadCount.toNat ≤ n := by
      rw [hs.count]; simpa using census_le_card Pc.counted s.pc
    have hfh := hf h
    refine ⟨h, ?_⟩
    generalize hp : s.pc h = p at hh hw hmx hcopy hfh
    cases p <;> rename_i q <;> cases q <;>
      simp only [Pc.holdsWake, Pc.afterFailure, Pc.semFailed, Pc.holdsMutex, Pc.countCopy,
        Pc.inFlight, reduceCtorEq, Bool.false_eq_true, bne_self_eq_false] at hh hw hmx hcopy hfh <;>
      simp [State.canRun, step, exec, hp, conditionVariableWait, conditionVariableSignal,
        conditionVariableBroadcast, hsem, hmx, LONG_MAX]
    rw [hcopy _ rfl]
    unfold LONG_MAX at hn
    omega
  · cases hev : s.cond.finishedEvent
    · obtain ⟨j, s', -, hj⟩ := hs.released_step hw hev
      exact ⟨j, State.canRun_of_step hj⟩
    · refine ⟨h, ?_⟩
      rcases Pc.inFlight_cases hw with hp | hp <;>
        simp [State.canRun, step, exec, hp, conditionVariableSignal, conditionVariableBroadcast, hev]

/-- A thread at a call's `EnterCriticalSection` on the gate can run, or
else the gate's owner can. -/
theorem Inv.canRun_of_enterWake {h : Fin n}
    (hh : s.pc h = .wait .enterWake ∨ s.pc h = .signal .enterWake ∨ s.pc h = .broadcast .enterWake) :
    ∃ k, s.canRun k = true := by
  cases hw : s.cond.wakeCritsec with
  | none =>
    refine ⟨h, ?_⟩
    rcases hh with hp | hp | hp <;> simp [State.canRun, step, exec, hp, conditionVariableWait,
      conditionVariableSignal, conditionVariableBroadcast, State.enterWake, hw]
  | some k => exact hs.canRun_of_holdsWake hf hn ((hs.wake k).2 hw)

/-- A thread inside a call that the contract has neither blocked nor woken
(it is in `signal`, in `broadcast`, or in `wait` before its unlock) can
run, or else a thread it waits for can. -/
theorem Inv.canRun_of_called {h : Fin n} (hh : ∀ r, s.pc h ≠ .idle r)
    (ha : ((abstraction s).pc h).awaiting = false) : ∃ k, s.canRun k = true := by
  cases hw : (s.pc h).holdsWake
  · rw [abstraction_pc] at ha
    have hd : (s.pc h).draining = false := Bool.eq_false_iff.2 fun hd => by
      rw [absPc_awaiting_of_draining hd] at ha; cases ha
    rcases Pc.cases_of_not_holdsWake hw hd with ⟨r, hp⟩ | hp | hp | ⟨r, hp⟩ | hp | hp | hp
    · exact absurd hp (hh r)
    · exact hs.canRun_of_enterWake hf hn (.inl hp)
    · rw [hp, absPc_wait_awaiting] at ha; cases ha
    · rw [hp, absPc_wait_awaiting] at ha; cases ha
    · simpa [hp, Pc.afterFailure, Pc.semFailed] using hf h
    · exact hs.canRun_of_enterWake hf hn (.inr (.inl hp))
    · exact hs.canRun_of_enterWake hf hn (.inr (.inr hp))
  · exact hs.canRun_of_holdsWake hf hn hw

end Progress

/-- **No deadlock.** In every reachable state with at most `LONG_MAX`
threads in which no client keeps the external mutex between calls, if some
thread is inside `wait`, `signal` or `broadcast` and not blocked waiting
for a wake, some thread can execute its next statement with its OS call
succeeding. Only a waiter no signal or broadcast has woken may wait for
good. -/
theorem no_deadlock {s : State n} (hr : Reachable s) (hn : n ≤ LONG_MAX)
    (hmx : ∀ j r, s.pc j = .idle r → s.mutex ≠ some j) {i : Fin n} (hi : ∀ r, s.pc i ≠ .idle r)
    (hb : (abstraction s).pc i ≠ .blocked) : ∃ j, s.canRun j = true := by
  have hs := Reachable.inv hr
  have hf := Reachable.afterFailure hr
  cases hw : (s.pc i).holdsWake
  case true => exact hs.canRun_of_holdsWake hf hn hw
  cases hd : (s.pc i).draining
  case true => exact hs.canRun_of_draining hd
  rcases Pc.cases_of_not_holdsWake hw hd with ⟨r, hp⟩ | hp | hp | ⟨r, hp⟩ | hp | hp | hp
  · exact absurd hp (hi r)
  · exact hs.canRun_of_enterWake hf hn (.inl hp)
  · -- at the semaphore and not blocked: a broadcast released it, with a token for each waiter
    obtain ⟨g, hg⟩ : ∃ g, s.pc g = .broadcast .waitEvent := by
      by_contra h
      push_neg at h
      have hbw : s.broadcastWaiting = false := by simpa [State.broadcastWaiting] using h
      exact hb (by rw [abstraction_pc, hp, hbw]; rfl)
    have hsem := (hs.broadcastWave g hg).1
    have : 0 < census Pc.waiting s.pc := census_pos.2 ⟨i, by simp [hp, Pc.waiting]⟩
    exact ⟨i, by simp [State.canRun, step, exec, hp, conditionVariableWait]; omega⟩
  · -- at the relock: the mutex is free, or its owner is inside a call before any wait
    cases hm : s.mutex with
    | none => exact ⟨i, by simp [State.canRun, step, exec, hp, conditionVariableWait,
        State.lockMutex, hm]⟩
    | some h =>
      refine hs.canRun_of_called hf hn (fun r hh => hmx h r hh hm) ?_
      exact hr.abstractInv.awaiting h hm
  · simpa [hp, Pc.afterFailure, Pc.semFailed] using hf i
  · exact hs.canRun_of_enterWake hf hn (.inr (.inl hp))
  · exact hs.canRun_of_enterWake hf hn (.inr (.inr hp))

/-- A broadcast on the drain event, one waiter past the semaphore and one at
it: the broadcast's thread is inside a call and not blocked. -/
theorem no_deadlock_mid_broadcast :
    ∃ s h, run (State.init 3) broadcastMidWave = some (s, h) ∧ ∃ j, s.canRun j = true := by
  obtain ⟨⟨s, h⟩, hr, hm, hp⟩ : ∃ r : State 3 × List (Fin 3 × Pc),
      run (State.init 3) broadcastMidWave = some r ∧ r.1.mutex = none ∧
        r.1.pc 2 = .broadcast .waitEvent := ⟨_, rfl, rfl, rfl⟩
  dsimp only at hm hp
  exact ⟨s, h, hr, no_deadlock (Reachable.run .refl (by decide) hr) (by decide)
    (fun j r _ => by simp [hm]) (i := 2) (by simp [hp]) (by rw [abstraction_pc, hp]; exact nofun)⟩

end Amp
