/-
Builds with `NDEBUG` defined. There the `#if !defined(NDEBUG)` blocks of
`wait`, `signal` and `broadcast` (`amp_condition_variable_winthreads.c`)
are compiled out with their asserts, and a function whose OS call fails
goes on to its next statement as if the call had succeeded, with the call's
effect missing: a failed semaphore wait takes no token, a failed `SetEvent`
leaves the event clear, a failed `ReleaseSemaphore` releases nothing, and
a failed event wait leaves the event as it was. Steps whose OS call
succeeds are the same as in a debug build, which a failing call ends
(`step_fail`).

No failure below is survived, and none returns the `EINVAL` of the error
branches that only a debug build compiles. A failed `ReleaseSemaphore`
(308, 360) leaves its call waiting on the drain event, which no thread can
set, and owning the gate for good. A failed `SetEvent` (515) does the same
to the call whose wave it was to end, as the comment at 519 says, while
the waiter returns `AMP_SUCCESS`. A failed semaphore wait (454) is a wake
that no signal or broadcast made, a step the contract of `Abstract` does
not have, after which the waiter returns `AMP_SUCCESS`. A failed wait on
the drain event (374) returns `AMP_SUCCESS` with the signal's wave still in
flight and the gate open, so a waiter that calls `wait` afterwards can take
the wake. The model keeps the failed unlock (432) as the code has it, but
the comment at 429-430 says the mutex in use never fails there.
-/
import AmpCondVar.Failure
import AmpCondVar.Refinement

namespace Amp

variable {n : Nat}

/-! ## The failing steps of a release build -/

/-- A step of `amp_condition_variable_wait` built with `NDEBUG` whose OS
call fails: the unlock (432, the mutex kept; the comment at 429-430 says
the current mutex does not fail there), the semaphore wait (454, no token
taken) or `SetEvent` (515, the event unchanged). -/
def conditionVariableWaitFailedNdebug (s : State n) (i : Fin n) : WaitPc → Option (State n)
  | .unlockMutex => some (s.goto i (.wait .leaveWake))
  | .semWait => some (s.goto i (.wait .readInProgress))
  | .setEvent => some (s.goto i (.wait (.lockMutex .ampSuccess)))
  | _ => none

/-- A step of `amp_condition_variable_signal` built with `NDEBUG` whose OS
call fails: `ReleaseSemaphore` (360, no token released) or the event wait
(374, the event unchanged). -/
def conditionVariableSignalFailedNdebug (s : State n) (i : Fin n) : SignalPc → Option (State n)
  | .release => some (s.goto i (.signal .waitEvent))
  | .waitEvent => some (s.goto i (.signal (.leaveWake .ampSuccess)))
  | _ => none

/-- A step of `amp_condition_variable_broadcast` built with `NDEBUG` whose
OS call fails: `ReleaseSemaphore` (308) or the event wait (323). -/
def conditionVariableBroadcastFailedNdebug (s : State n) (i : Fin n) :
    BroadcastPc → Option (State n)
  | .release _ => some (s.goto i (.broadcast .waitEvent))
  | .waitEvent => some (s.goto i (.broadcast (.clearInProgress .ampSuccess)))
  | _ => none

/-- One step of thread `i` in a build with `NDEBUG`: as `step`, but an OS
call that fails neither asserts nor takes an error branch. -/
def stepNdebug (s : State n) (i : Fin n) : Action → Option (State n)
  | .fail => match s.pc i with
    | .idle _ => none
    | .wait p => conditionVariableWaitFailedNdebug s i p
    | .signal p => conditionVariableSignalFailedNdebug s i p
    | .broadcast p => conditionVariableBroadcastFailedNdebug s i p
  | a => step s i a

/-! ## A failed `ReleaseSemaphore` -/

section Release

variable {s s₁ : State n} {i : Fin n}

/-- The two places of a `ReleaseSemaphore`. -/
def Pc.atRelease : Pc → Bool
  | .signal .release | .broadcast (.release _) => true
  | _ => false

/-- A waiter at the semaphore and a signal at its `ReleaseSemaphore`. -/
def signalAtRelease : List (Fin 2 × Action) :=
  [(0, .lock), (0, .callWait), (0, .run), (0, .run), (0, .run), (0, .run), (0, .run),
   (1, .callSignal), (1, .run), (1, .run)]

/-- What holds just before a `ReleaseSemaphore`: the caller owns the gate
and no wave is in flight, so the semaphore and the event are empty. -/
theorem Inv.stuck_of_release (hs : Inv s) {q : Pc} (hi : (s.pc i).atRelease = true)
    (hq : q = .signal .waitEvent ∨ q = .broadcast .waitEvent) : Stuck i q (s.goto i q) := by
  obtain ⟨hwi, hfi⟩ : (s.pc i).holdsWake = true ∧ (s.pc i).inFlight = false := by
    revert hi
    cases s.pc i <;> rename_i p <;> cases p <;> simp [Pc.atRelease, Pc.holdsWake, Pc.inFlight]
  have hq' := hs.quiet_of_wake hwi hfi
  have hd := census_eq_zero.1 hq'.2.2
  refine ⟨by simp, hq, by simpa using (hs.wake i).1 hwi, fun j hj => ?_, hq'.2.1, hq'.1,
    fun j => ?_, fun j => ?_⟩
  · rcases eq_or_ne j i with rfl | hji
    · rfl
    · exact hs.wake_unique (by simpa [hji] using hj) hwi
  all_goals
    rcases eq_or_ne j i with rfl | hji
    · rcases hq with rfl | rfl <;> simp [Pc.passed, Pc.willSet]
    · have hdj := hd j
      simp only [State.goto_pc, Function.update_noteq hji]
      first
      | exact Bool.eq_false_iff.2 fun h => by rw [(Pc.draining_of_passed h).1] at hdj; cases hdj
      | exact Bool.eq_false_iff.2 fun h => by rw [Pc.draining_of_willSet h] at hdj; cases hdj

/-- **A failed `ReleaseSemaphore` blocks its call for good in a release
build.** With `NDEBUG` defined, a `signal` or `broadcast` whose
`ReleaseSemaphore` fails goes on to wait on the drain event. No token is
out, so no waiter can pass the semaphore and set the event: in every state
reachable afterwards with no OS call failing, the call still waits there,
it owns the gate, and no other thread gets past its `EnterCriticalSection`
on the gate. -/
theorem release_failure_blocks_ndebug (hr : Reachable s) (hi : (s.pc i).atRelease = true)
    (hf : stepNdebug s i .fail = some s₁) :
    (s₁.pc i).inFlight = true ∧ ∀ s', Relation.ReflTransGen Step s₁ s' →
      s'.pc i = s₁.pc i ∧ s'.cond.wakeCritsec = some i ∧
        ∀ j, (s'.pc j).holdsWake = true → j = i := by
  obtain ⟨q, hq, rfl⟩ : ∃ q, (q = .signal .waitEvent ∨ q = .broadcast .waitEvent) ∧
      s₁ = s.goto i q := by
    simp only [stepNdebug] at hf
    revert hi hf
    cases s.pc i <;> rename_i p <;> cases p <;> simp [Pc.atRelease,
      conditionVariableSignalFailedNdebug, conditionVariableBroadcastFailedNdebug]
    · exact fun h => .inl h.symm
    · exact fun h => .inr h.symm
  refine ⟨by rcases hq with rfl | rfl <;> simp [Pc.inFlight], fun s' h => ?_⟩
  have h' := (hr.inv.stuck_of_release hi hq).of_star h
  exact ⟨by rw [h'.holder]; simp, h'.gate, h'.wake⟩

theorem release_failure_blocks_ndebug_signal :
    ∃ s h s₁, run (State.init 2) signalAtRelease = some (s, h) ∧ (s.pc 1).atRelease = true ∧
      stepNdebug s 1 .fail = some s₁ ∧
      ∀ s', Relation.ReflTransGen Step s₁ s' → s'.cond.wakeCritsec = some 1 := by
  obtain ⟨⟨s, h⟩, hr, hp⟩ : ∃ r : State 2 × List (Fin 2 × Pc),
      run (State.init 2) signalAtRelease = some r ∧ r.1.pc 1 = .signal .release := ⟨_, rfl, rfl⟩
  dsimp only at hp
  have hi : (s.pc 1).atRelease = true := by simp [hp, Pc.atRelease]
  have hf : stepNdebug s 1 .fail = some (s.goto 1 (.signal .waitEvent)) := by
    simp [stepNdebug, hp, conditionVariableSignalFailedNdebug]
  exact ⟨s, h, _, hr, hi, hf, fun s' hst =>
    ((release_failure_blocks_ndebug (Reachable.run .refl (by decide) hr) hi hf).2 s' hst).2.1⟩

end Release

/-! ## A failed semaphore wait -/

section Event

variable {s s₁ : State n} {i : Fin n}

/-- **A failed event wait ends a signal before its wave in a release
build.** With `NDEBUG` defined, a `signal` whose `WaitForSingleObject` on
the drain event (374) fails while the event is still clear goes on as if
the wave had drained: its next step leaves the gate and returns
`AMP_SUCCESS`. The wave is still in flight, its token in the semaphore or
held by a waiter that owes wave steps, yet the gate is free and no call
waits on the drain event any more. -/
theorem event_wait_failure_returns_early_ndebug (hr : Reachable s)
    (hi : s.pc i = .signal .waitEvent) (hev : s.cond.finishedEvent = false)
    (hf : stepNdebug s i .fail = some s₁) :
    ∃ s₂, step s₁ i .run = some s₂ ∧ s₂.pc i = .idle (some .ampSuccess) ∧
      s₂.cond.wakeCritsec = none ∧ (∀ g, (s₂.pc g).inFlight = false) ∧
      s₂.cond.controlSem + census Pc.draining s₂.pc = 1 := by
  have hs := hr.inv
  simp only [stepNdebug, hi, conditionVariableSignalFailedNdebug, Option.some.injEq] at hf
  subst hf
  have hwi : (s.pc i).holdsWake = true := by simp [hi, Pc.holdsWake]
  have hwave := (hs.signalWave i hi).2
  simp only [hev, Bool.false_eq_true, if_false, add_zero] at hwave
  let s₂ := (s.goto i (.signal (.leaveWake .ampSuccess))).leaveWake i (.idle (some .ampSuccess))
  have hpc : s₂.pc = Function.update s.pc i (.idle (some .ampSuccess)) := by
    simp [s₂, State.leaveWake]
  refine ⟨s₂, by simp [step, exec, conditionVariableSignal, s₂], by simp [hpc], rfl,
    fun g => ?_, ?_⟩
  · rcases eq_or_ne g i with rfl | hg
    · simp [hpc, Pc.inFlight]
    · rw [hpc, Function.update_noteq hg]
      exact Bool.eq_false_iff.2 fun h => by
        have := hs.not_holdsWake hwi hg
        rw [Pc.holdsWake_of_inFlight h] at this
        cases this
  · rw [hpc, census_update_eq (by simp [hi, Pc.draining])]
    exact hwave

/-- A waiter at the semaphore and a signal on the drain event, its token not
yet taken; a third thread in client code. -/
def signalAtEvent : List (Fin 3 × Action) :=
  [(0, .lock), (0, .callWait), (0, .run), (0, .run), (0, .run), (0, .run), (0, .run),
   (1, .callSignal), (1, .run), (1, .run), (1, .run)]

/-- The signal returns; the third thread calls `wait` and takes the token. -/
def lateWaiter : List (Fin 3 × Action) :=
  [(1, .run), (2, .lock), (2, .callWait), (2, .run), (2, .run), (2, .run), (2, .run), (2, .run),
   (2, .run)]

/-- The wake goes to a later waiter. After the failed event wait of
`signalAtEvent` the signal returns `AMP_SUCCESS` with the gate free, and a
thread that calls `wait` only afterwards takes its token, while the waiter
that was blocked when the signal was called stays blocked with no token
left for it. -/
theorem event_wait_failure_returns_early_ndebug_signal :
    ∃ s h s₁ s₂ h₂, run (State.init 3) signalAtEvent = some (s, h) ∧
      stepNdebug s 1 .fail = some s₁ ∧
      (∃ s', step s₁ 1 .run = some s' ∧ s'.cond.wakeCritsec = none) ∧
      run s₁ lateWaiter = some (s₂, h₂) ∧ s.pc 0 = .wait .semWait ∧
      s₂.pc 0 = .wait .semWait ∧ s₂.pc 1 = .idle (some .ampSuccess) ∧
      s₂.pc 2 = .wait .readInProgress ∧ s₂.cond.controlSem = 0 := by
  obtain ⟨⟨s, h⟩, hr, hp, hev, h0, ⟨s₂, h₂⟩, hrun, h0', h1, h2, hsem⟩ :
      ∃ r : State 3 × List (Fin 3 × Pc),
        run (State.init 3) signalAtEvent = some r ∧ r.1.pc 1 = .signal .waitEvent ∧
        r.1.cond.finishedEvent = false ∧ r.1.pc 0 = .wait .semWait ∧
        ∃ r₂ : State 3 × List (Fin 3 × Pc),
          run (r.1.goto 1 (.signal (.leaveWake .ampSuccess))) lateWaiter = some r₂ ∧
          r₂.1.pc 0 = .wait .semWait ∧ r₂.1.pc 1 = .idle (some .ampSuccess) ∧
          r₂.1.pc 2 = .wait .readInProgress ∧ r₂.1.cond.controlSem = 0 :=
    ⟨_, rfl, rfl, rfl, rfl, _, rfl, rfl, rfl, rfl, rfl⟩
  dsimp only at hp hev h0 h0' h1 h2 hsem
  have hf : stepNdebug s 1 .fail = some (s.goto 1 (.signal (.leaveWake .ampSuccess))) := by
    simp [stepNdebug, hp, conditionVariableSignalFailedNdebug]
  obtain ⟨s', hs', -, hw, -⟩ :=
    event_wait_failure_returns_early_ndebug (Reachable.run .refl (by decide) hr) hp hev hf
  exact ⟨s, h, _, s₂, h₂, hr, hf, ⟨s', hs', hw⟩, hrun, h0, h0', h1, h2, hsem⟩

end Event

end Amp
