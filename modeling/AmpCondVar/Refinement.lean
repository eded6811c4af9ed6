/-
The emulation refines the contract of `Abstract`. `abstraction` reads each
thread's place in `amp_condition_variable_winthreads.c` as a place of the
contract: a waiter is `waitCalled` up to its unlock of the external mutex
(line 432), `blocked` from there until it takes a token of the wake
semaphore (454), and `woken` after; a signal or broadcast has done its wake
once its tokens are out. Two readings of the whole state settle the places
in between: a waiter still at the semaphore is already woken once a
broadcast has released it and waits on the drain event (every such waiter
then has its token), and a signal waiting on the drain event has done its
wake once the semaphore is empty.

Read so, every step of a run in which no OS call fails is a step of the
contract or leaves the contract's state as it was (`abstraction_step`): the
unlock at 432 is `block`, the token a waiter takes from a signal is that
signal's `wakeOne`, a broadcast's `ReleaseSemaphore` (308) is its `wakeAll`,
a signal or broadcast that reads a zero count wakes no one, and the relock
at 548 is `returnWait`. So every run is a run of the contract (`refines`),
and what the contract keeps holds of the code: a thread inside `wait` owns
the external mutex exactly until its unlock.
-/
import AmpCondVar.Abstract
import AmpCondVar.Safety

namespace Amp

variable {n : Nat}

/-- Whether a broadcast waits on the drain event (line 323), having released
the semaphore for every waiter. -/
def State.broadcastWaiting (s : State n) : Bool :=
  decide (∃ g, s.pc g = .broadcast .waitEvent)

/-- A thread's place as the contract sees it, given whether a broadcast has
released the semaphore and whether the semaphore is empty. The error
branches of `wait` still own the mutex (after a failed unlock) or have left
the semaphore (after a failed wait); no run without a failed OS call
reaches them. -/
def absPc (broadcastReleased semEmpty : Bool) : Pc → APc
  | .idle r => .idle r
  | .wait .enterWake | .wait .loadCount | .wait (.storeCount _) | .wait .unlockMutex
  | .wait .unlockFailedLoad | .wait (.unlockFailedStore _) | .wait .unlockFailedLeave => .waitCalled
  | .wait .leaveWake => .blocked
  | .wait .semWait => if broadcastReleased then .woken else .blocked
  | .wait _ => .woken
  | .signal .waitEvent => if semEmpty then .signalDone else .signalCalled
  | .signal (.leaveWake _) => .signalDone
  | .signal _ => .signalCalled
  | .broadcast .enterWake | .broadcast .readCount | .broadcast (.setInProgress _)
  | .broadcast (.release _) => .broadcastCalled
  | .broadcast _ => .broadcastDone

/-- The implementation's state read as a state of the contract. -/
def abstraction (s : State n) : AState n where
  mutex := s.mutex
  pc j := absPc s.broadcastWaiting (decide (s.cond.controlSem = 0)) (s.pc j)

@[simp] theorem abstraction_mutex (s : State n) : (abstraction s).mutex = s.mutex := rfl

@[simp] theorem abstraction_pc (s : State n) (j : Fin n) :
    (abstraction s).pc j = absPc s.broadcastWaiting (decide (s.cond.controlSem = 0)) (s.pc j) := rfl

theorem abstraction_init : abstraction (State.init n) = AState.init n := rfl

theorem abstraction_pc_eq {s : State n} {i : Fin n} {p : Pc} (hp : s.pc i = p) :
    (abstraction s).pc i = absPc s.broadcastWaiting (decide (s.cond.controlSem = 0)) p := by
  rw [← hp]; rfl

/-! ## What the abstract place reads -/

section Places

variable {r z : Bool}

/-- Only a waiter at the semaphore reads the first flag, only a signal on
the drain event the second. -/
theorem absPc_congr {r' z' : Bool} {p : Pc} (hr : p = .wait .semWait → r = r')
    (hz : p = .signal .waitEvent → z = z') : absPc r z p = absPc r' z' p := by
  cases p <;> rename_i q <;> cases q <;> first | rfl | (rw [hr rfl]; rfl) | (rw [hz rfl]; rfl)

theorem absPc_eq_blocked {p : Pc} :
    absPc r z p = .blocked ↔ p = .wait .leaveWake ∨ (p = .wait .semWait ∧ r = false) := by
  refine ⟨fun h => ?_, by rintro (rfl | ⟨rfl, rfl⟩) <;> rfl⟩
  cases p <;> rename_i q <;> cases q <;> cases r <;> cases z <;>
    first | exact .inl rfl | exact .inr ⟨rfl, rfl⟩ | cases h

/-- Inside `wait`, the mutex is given up exactly at the places past the
unlock. -/
theorem absPc_wait_awaiting (p : WaitPc) :
    (absPc r z (.wait p)).awaiting = !(Pc.wait p).holdsMutex := by
  cases p <;> cases r <;> rfl

end Places

/-! ## A step changes few abstract places -/

section Frame

variable {s s' : State n} {i : Fin n} {q : Pc}

theorem State.broadcastWaiting_update (hpc : s'.pc = Function.update s.pc i q)
    (hb : q = .broadcast .waitEvent ↔ s.pc i = .broadcast .waitEvent) :
    s'.broadcastWaiting = s.broadcastWaiting := by
  simp only [State.broadcastWaiting, hpc, decide_eq_decide]
  refine exists_congr fun j => ?_
  rcases eq_or_ne j i with rfl | hj
  · simpa using hb
  · simp [hj]

/-- A step of thread `i` moves another thread's abstract place only through
the two readings of the whole state. -/
theorem abstraction_pc_ne (hpc : s'.pc = Function.update s.pc i q) {j : Fin n} (hj : j ≠ i)
    (hr : s.pc j = .wait .semWait → s'.broadcastWaiting = s.broadcastWaiting)
    (hz : s.pc j = .signal .waitEvent → (s'.cond.controlSem = 0 ↔ s.cond.controlSem = 0)) :
    (abstraction s').pc j = (abstraction s).pc j := by
  simp only [abstraction, hpc, Function.update_noteq hj]
  exact absPc_congr hr fun h => decide_eq_decide.2 (hz h)

variable (hpc : s'.pc = Function.update s.pc i q)
  (hb : q = .broadcast .waitEvent ↔ s.pc i = .broadcast .waitEvent)
  (hz : ∀ j, j ≠ i → s.pc j = .signal .waitEvent →
    (s'.cond.controlSem = 0 ↔ s.cond.controlSem = 0))
include hpc hb hz

/-- A step that neither moves a broadcast onto or off the drain event nor
empties or fills the semaphore under a waiting signal changes the
contract's state only at its own thread and the mutex. -/
theorem abstraction_update :
    abstraction s' = { (abstraction s).goto i
      (absPc s.broadcastWaiting (decide (s'.cond.controlSem = 0)) q) with mutex := s'.mutex } := by
  have hr := State.broadcastWaiting_update hpc hb
  refine AState.ext rfl (funext fun j => ?_)
  rcases eq_or_ne j i with rfl | hj
  · simp [abstraction, hpc, hr]
  · simpa [hj] using abstraction_pc_ne hpc hj (fun _ => hr) (hz j hj)

/-- Such a step that keeps the mutex and its own thread's abstract place is
invisible. -/
theorem abstraction_stutter (hmu : s'.mutex = s.mutex)
    (hi : absPc s.broadcastWaiting (decide (s'.cond.controlSem = 0)) q =
      absPc s.broadcastWaiting (decide (s.cond.controlSem = 0)) (s.pc i)) :
    abstraction s' = abstraction s := by
  rw [abstraction_update hpc hb hz, hi, hmu]
  exact AState.ext rfl (Function.update_eq_self i _)

theorem abstraction_step_of_update
    (h : AStep (abstraction s) { (abstraction s).goto i
      (absPc s.broadcastWaiting (decide (s'.cond.controlSem = 0)) q) with mutex := s'.mutex }) :
    abstraction s' = abstraction s ∨ AStep (abstraction s) (abstraction s') :=
  .inr (abstraction_update hpc hb hz ▸ h)

end Frame

/-! ## What the invariant says about the readings -/

section Readings

variable {s : State n} (hs : Inv s)
include hs

theorem Inv.ne_of_holdsWake {i j : Fin n} {p : Pc} (hi : (s.pc i).holdsWake = true)
    (hp : p.holdsWake = true) (hj : j ≠ i) : s.pc j ≠ p := fun h => by
  have := hs.not_holdsWake hi hj
  rw [h, hp] at this
  cases this

/-- While a thread that is not a broadcast on the drain event holds the wake
critical section, no broadcast waits on the event. -/
theorem Inv.broadcastWaiting_eq_false {i : Fin n} (hi : (s.pc i).holdsWake = true)
    (hne : s.pc i ≠ .broadcast .waitEvent) : s.broadcastWaiting = false := by
  simp only [State.broadcastWaiting, decide_eq_false_iff_not, not_exists]
  intro g hg
  exact hne (hs.wake_unique (j := g) (by simp [hg, Pc.holdsWake]) hi ▸ hg)

/-- With the count zero and the wake critical section held by a thread past
its own unlock, no thread is blocked. -/
theorem Inv.not_blocked {i : Fin n} (hi : (s.pc i).holdsWake = true)
    (hni : s.pc i ≠ .wait .leaveWake) (hc : s.cond.waitingThreadCount = 0) (j : Fin n) :
    (abstraction s).pc j ≠ .blocked := fun h => by
  rcases absPc_eq_blocked.1 h with h | ⟨h, -⟩
  · rcases eq_or_ne j i with rfl | hj
    · exact hni h
    · exact hs.ne_of_holdsWake (p := .wait .leaveWake) hi rfl hj h
  · have := hs.count_pos (j := j) (by simp [h, Pc.counted])
    omega

end Readings

/-! ## The steps that move the readings -/

section Waves

variable {s s' : State n} {i : Fin n} (hs : Inv s)
include hs

/-- **A waiter taking a token.** In a broadcast's wave the waiter was woken
already; in a signal's the token is the signal's one, and taking it is the
signal's `wakeOne`. -/
theorem abstraction_semWait (hp : s.pc i = .wait .semWait) (hpos : 0 < s.cond.controlSem)
    (hpc : s'.pc = Function.update s.pc i (.wait .readInProgress)) (hmu : s'.mutex = s.mutex)
    (hsem : s'.cond.controlSem = s.cond.controlSem - 1) :
    abstraction s' = abstraction s ∨ AStep (abstraction s) (abstraction s') := by
  have hb : s'.broadcastWaiting = s.broadcastWaiting :=
    State.broadcastWaiting_update hpc (by simp [hp])
  cases hbw : s.broadcastWaiting
  · -- a signal's wave: its one token is the one taken
    obtain ⟨g, hg⟩ : ∃ g, (s.pc g).inFlight = true := by
      by_contra h
      push_neg at h
      have := (hs.quiet fun g => by simpa using h g).1
      omega
    have hg : s.pc g = .signal .waitEvent := by
      rcases Pc.inFlight_cases hg with hg | hg
      · exact hg
      · simp only [State.broadcastWaiting, decide_eq_false_iff_not, not_exists] at hbw
        exact absurd hg (hbw g)
    have h1 : s.cond.controlSem = 1 := by have := (hs.signalWave g hg).2; omega
    have hgi : g ≠ i := by rintro rfl; simp [hp] at hg
    have hwg : (s.pc g).holdsWake = true := by simp [hg, Pc.holdsWake]
    have e : abstraction s' = ((abstraction s).goto i .woken).goto g .signalDone := by
      refine AState.ext hmu (funext fun j => ?_)
      rcases eq_or_ne j g with rfl | hjg
      · simp only [abstraction_pc, hpc, Function.update_noteq hgi, hg, hsem, h1, AState.goto_pc,
          Function.update_same]
        rfl
      rcases eq_or_ne j i with rfl | hji
      · simp only [abstraction_pc, hpc, Function.update_same, AState.goto_pc,
          Function.update_noteq hjg]
        rfl
      · simp only [AState.goto_pc, Function.update_noteq hjg, Function.update_noteq hji]
        exact abstraction_pc_ne hpc hji (fun _ => hb) fun h =>
          absurd h (hs.ne_of_holdsWake (p := .signal .waitEvent) hwg rfl hjg)
    rw [e]
    exact .inr (.wakeOne (by rw [abstraction_pc, hg, h1]; rfl) (by rw [abstraction_pc, hp, hbw]; rfl))
  · -- a broadcast's wave: no signal waits, so only the semaphore's count moved
    obtain ⟨g, hg⟩ : ∃ g, s.pc g = .broadcast .waitEvent := by
      simpa [State.broadcastWaiting] using hbw
    have hwg : (s.pc g).holdsWake = true := by simp [hg, Pc.holdsWake]
    refine .inl (abstraction_stutter hpc (by simp [hp]) (fun j _ h => ?_) hmu (by rw [hp, hbw]; rfl))
    rcases eq_or_ne j g with rfl | hjg
    · simp [hg] at h
    · exact absurd h (hs.ne_of_holdsWake (p := .signal .waitEvent) hwg rfl hjg)

/-- **A broadcast's `ReleaseSemaphore` is its `wakeAll`.** Every waiter then
at the semaphore has a token, and no other waiter is past its increment. -/
theorem abstraction_broadcast_release {w : Int} (hp : s.pc i = .broadcast (.release w))
    (hpc : s'.pc = Function.update s.pc i (.broadcast .waitEvent)) (hmu : s'.mutex = s.mutex) :
    AStep (abstraction s) (abstraction s') := by
  have hwi : (s.pc i).holdsWake = true := by simp [hp, Pc.holdsWake]
  have hbw := hs.broadcastWaiting_eq_false hwi (by simp [hp])
  have hbw' : s'.broadcastWaiting = true := by
    simpa [State.broadcastWaiting, hpc] using ⟨i, by simp⟩
  have e : abstraction s' = (abstraction s).wakeAll.goto i .broadcastDone := by
    refine AState.ext hmu (funext fun j => ?_)
    rcases eq_or_ne j i with rfl | hji
    · simp only [abstraction_pc, hpc, Function.update_same, AState.goto_pc]
      rfl
    have hl := hs.ne_of_holdsWake hwi (p := .wait .leaveWake) rfl hji
    have hsw := hs.ne_of_holdsWake hwi (p := .signal .waitEvent) rfl hji
    simp only [AState.goto_pc, Function.update_noteq hji, AState.wakeAll_pc]
    by_cases hw : s.pc j = .wait .semWait
    · simp only [abstraction_pc, hpc, Function.update_noteq hji, hw, hbw, hbw']
      rfl
    · rw [if_neg (by simp [absPc_eq_blocked, hl, hw])]
      exact abstraction_pc_ne hpc hji (fun h => absurd h hw) fun h => absurd h hsw
  rw [e]
  exact .wakeAll (by rw [abstraction_pc, hp]; rfl)

/-- A broadcast leaving the drain event is invisible: its wave has drained,
so no waiter is at the semaphore to notice that the broadcast is gone. -/
theorem abstraction_broadcast_event (hp : s.pc i = .broadcast .waitEvent)
    (hev : s.cond.finishedEvent = true)
    (hpc : s'.pc = Function.update s.pc i (.broadcast (.clearInProgress .ampSuccess)))
    (hmu : s'.mutex = s.mutex) (hsem : s'.cond.controlSem = s.cond.controlSem) :
    abstraction s' = abstraction s := by
  refine AState.ext hmu (funext fun j => ?_)
  rcases eq_or_ne j i with rfl | hji
  · simp only [abstraction_pc, hpc, Function.update_same, hp]
    rfl
  refine abstraction_pc_ne hpc hji (fun h => ?_) fun _ => by rw [hsem]
  have := hs.broadcast_event_clear hp (j := j) (.inl (by simp [h, Pc.counted]))
  simp [hev] at this

end Waves

/-! ## The simulation -/

/-- **Each step is a step of the contract or invisible.** Every step in
which no OS call fails, from a state satisfying the invariant with no
thread on an error branch, either leaves the abstract state as it was or is
one step of `AStep` between the abstract states. -/
theorem abstraction_step {s s' : State n} {i : Fin n} (hs : Inv s)
    (hf : ∀ j, (s.pc j).afterFailure = false) (hm : Moves s i (s.pc i) s') :
    abstraction s' = abstraction s ∨ AStep (abstraction s) (abstraction s') := by
  have hfi := hf i
  have hwi : ∀ {p : Pc}, s.pc i = p → p.holdsWake = true → (s.pc i).holdsWake = true :=
    fun hp h => hp ▸ h
  generalize hp : s.pc i = p at hm hfi
  cases hm
  case lock r hmx => exact .inr (.lock (abstraction_pc_eq hp) hmx)
  case unlock r hmx => exact .inr (.unlock (abstraction_pc_eq hp) hmx)
  case callWait r hmx =>
    exact abstraction_step_of_update rfl (by simp [hp]) (fun _ _ _ => Iff.rfl)
      (.callWait (abstraction_pc_eq hp) hmx)
  case callSignal r =>
    exact abstraction_step_of_update rfl (by simp [hp]) (fun _ _ _ => Iff.rfl)
      (.callSignal (abstraction_pc_eq hp))
  case callBroadcast r =>
    exact abstraction_step_of_update rfl (by simp [hp]) (fun _ _ _ => Iff.rfl)
      (.callBroadcast (abstraction_pc_eq hp))
  case waitEnterWake | waitLoadCount | waitStoreCount | waitReadInProgress | waitEnterAccess
      | waitLoadDecrement | waitStoreDecrement | waitLeaveAccessSkip | waitLeaveAccessSet
      | waitSetEvent | signalEnterWake | signalReadCountSome | broadcastEnterWake
      | broadcastReadCountSome | broadcastSetInProgress | broadcastClearInProgress =>
    exact .inl (abstraction_stutter rfl (by simp [hp]) (fun _ _ _ => Iff.rfl) rfl (hp ▸ rfl))
  case waitUnlockMutex hmx =>
    exact abstraction_step_of_update rfl (by simp [hp]) (fun _ _ _ => Iff.rfl)
      (.block (abstraction_pc_eq hp) hmx)
  case waitLeaveWake =>
    have hbw := hs.broadcastWaiting_eq_false (hwi hp rfl) (by simp [hp])
    exact .inl (abstraction_stutter rfl (by simp [hp]) (fun _ _ _ => Iff.rfl) rfl
      (by rw [hp, hbw]; rfl))
  case waitSemWait hpos => exact abstraction_semWait hs hp hpos rfl rfl rfl
  case waitLockMutex r hmx =>
    obtain rfl : r = .ampSuccess := by simpa [Pc.afterFailure] using hfi
    exact abstraction_step_of_update rfl (by simp [hp]) (fun _ _ _ => Iff.rfl)
      (.returnWait (abstraction_pc_eq hp) hmx)
  case waitUnlockFailedLoad | waitUnlockFailedStore | waitUnlockFailedLeave
      | waitSemFailedEnterWake | waitSemFailedEnterAccess | waitSemFailedLoad
      | waitSemFailedStore | waitSemFailedLeaveAccess | waitSemFailedLeaveWake =>
    simp [Pc.afterFailure, Pc.semFailed] at hfi
  case signalReadCountNone hc =>
    exact abstraction_step_of_update rfl (by simp [hp]) (fun _ _ _ => Iff.rfl)
      (.wakeNone (abstraction_pc_eq hp) (hs.not_blocked (hwi hp rfl) (by simp [hp]) hc))
  case signalRelease _ =>
    exact .inl (abstraction_stutter rfl (by simp [hp])
      (fun _ hj h => absurd h (hs.ne_of_holdsWake (p := .signal .waitEvent) (hwi hp rfl) rfl hj)) rfl
      (by rw [hp]; simp only [State.goto_cond, State.setCond_cond, Nat.add_one_ne_zero, decide_False]
          rfl))
  case signalWaitEvent hev =>
    have h0 : s.cond.controlSem = 0 := by
      have := (hs.signalWave i hp).2
      simp only [hev, if_true] at this
      omega
    exact .inl (abstraction_stutter rfl (by simp [hp]) (fun _ _ _ => Iff.rfl) rfl
      (by rw [hp, h0]; rfl))
  case signalLeaveWake r =>
    obtain rfl : r = .ampSuccess := by simpa [Pc.afterFailure] using hfi
    exact abstraction_step_of_update rfl (by simp [hp]) (fun _ _ _ => Iff.rfl)
      (.returnSignal (abstraction_pc_eq hp))
  case broadcastReadCountNone hc =>
    have h0 : s.cond.waitingThreadCount = 0 := by have := hs.count; omega
    have h := AStep.wakeAll (t := abstraction s) (g := i) (abstraction_pc_eq hp)
    rw [AState.wakeAll_eq_self (hs.not_blocked (hwi hp rfl) (by simp [hp]) h0)] at h
    exact abstraction_step_of_update rfl (by simp [hp]) (fun _ _ _ => Iff.rfl) h
  case broadcastRelease w _ => exact .inr (abstraction_broadcast_release hs hp rfl rfl)
  case broadcastWaitEvent hev => exact .inl (abstraction_broadcast_event hs hp hev rfl rfl rfl)
  case broadcastLeaveWake r =>
    obtain rfl : r = .ampSuccess := by simpa [Pc.afterFailure] using hfi
    exact abstraction_step_of_update rfl (by simp [hp]) (fun _ _ _ => Iff.rfl)
      (.returnBroadcast (abstraction_pc_eq hp))

/-- **Each step of the emulation is invisible or one step of the contract.**
From every reachable state, a step in which no OS call fails either leaves
the contract's reading of the state as it was or is one step of `AStep`. -/
theorem refines_step {s s' : State n} (hr : Reachable s) (h : Step s s') :
    abstraction s' = abstraction s ∨ AStep (abstraction s) (abstraction s') := by
  obtain ⟨i, a, ha, h⟩ := h
  exact abstraction_step hr.inv hr.afterFailure (step_moves h ha)

/-- Thread 0 of `broadcastMidWave` stores its decrement. -/
theorem refines_step_mid_broadcast :
    ∃ s h s', run (State.init 3) broadcastMidWave = some (s, h) ∧ Step s s' ∧
      (abstraction s' = abstraction s ∨ AStep (abstraction s) (abstraction s')) := by
  obtain ⟨⟨s, h⟩, hr, s', hst⟩ : ∃ r : State 3 × List (Fin 3 × Pc),
      run (State.init 3) broadcastMidWave = some r ∧ ∃ s', Step r.1 s' :=
    ⟨_, rfl, _, 0, .run, by decide, rfl⟩
  exact ⟨s, h, s', hr, hst, refines_step (Reachable.run .refl (by decide) hr) hst⟩

/-- **Every run of the emulation is a run of the contract.** From any
reachable state, a run in which no OS call fails is read by `abstraction`
as a run of `AStep`: each of its steps is one step of the contract or
leaves the contract's state as it was. With `abstraction_init`, the
implementation's reachable states are read as reachable states of the
contract. -/
theorem refines {s s' : State n} (hr : Reachable s) (h : Relation.ReflTransGen Step s s') :
    Relation.ReflTransGen AStep (abstraction s) (abstraction s') := by
  induction h with
  | refl => exact .refl
  | tail hst hstep ih =>
    obtain ⟨i, a, ha, h⟩ := hstep
    have hr' : Reachable _ := hr.trans hst
    rcases abstraction_step (Reachable.inv hr') (Reachable.afterFailure hr') (step_moves h ha)
      with e | e
    · exact e ▸ ih
    · exact ih.tail e

/-! ## What the contract keeps, kept by the code -/

/-- The contract's invariant holds of every reachable state, read through
`abstraction`. -/
theorem Reachable.abstractInv {s : State n} (hr : Reachable s) : AInv (abstraction s) := by
  induction hr with
  | refl => exact abstraction_init ▸ AInv.init
  | tail hr' hst ih =>
    obtain ⟨i, a, ha, h⟩ := hst
    rcases abstraction_step (Reachable.inv hr') (Reachable.afterFailure hr') (step_moves h ha)
      with e | e
    · exact e ▸ ih
    · exact ih.step e

/-- **A waiter owns the mutex exactly until its unlock.** In every reachable
state, a thread inside `amp_condition_variable_wait` owns the external mutex
if and only if it stands before its unlock at line 432: from the unlock to
the relock at 548 it never does. The second half is the contract's `AInv`
read back through `abstraction`. -/
theorem wait_owns_mutex {s : State n} (hr : Reachable s) {j : Fin n} {p : WaitPc}
    (hj : s.pc j = .wait p) : s.mutex = some j ↔ (Pc.wait p).holdsMutex = true := by
  refine ⟨fun h => ?_, fun h => Reachable.inv hr |>.mutex j (hj ▸ h)⟩
  have := hr.abstractInv.awaiting j h
  rw [abstraction_pc_eq hj, absPc_wait_awaiting] at this
  simpa using this

theorem wait_owns_mutex_mid_broadcast :
    ∃ s h, run (State.init 3) broadcastMidWave = some (s, h) ∧
      (s.mutex = some 1 ↔ (Pc.wait .semWait).holdsMutex = true) := by
  have hr : run (State.init 3) broadcastMidWave = some _ := rfl
  have hreach := Reachable.run .refl (by decide) hr
  exact ⟨_, _, hr, wait_owns_mutex hreach rfl⟩

end Amp
