/-
The invariant of the condition variable, over every state reachable with
no OS call failing: every state of a run of a debug build, which a failing
call ends.

Three kinds of fact make it up. Who owns what: each critical section is
owned exactly by the thread standing inside it, and a waiter before its
unlock owns the external mutex. What the locals say: every local copy of
`waiting_thread_count` or `broadcast_in_progress` still equals the shared
field, so no update between a load and its store is lost; the count is the
number of counted threads. And the wave: with no signal or broadcast
blocked on the drain event the semaphore and the event are empty and no
thread owes wave steps (`Quiet`); a signal's wave has exactly one token,
drainer or set event outstanding (`SignalWave`); a broadcast's has a token
for every thread still at the semaphore, and the event is set by the one
thread whose decrement reaches zero (`BroadcastWave`).
-/
import AmpCondVar.Moves

namespace Amp

variable {n : Nat}

/-! ## Facts about places -/

namespace Pc

theorem holdsWake_of_inFlight {p : Pc} (h : p.inFlight = true) : p.holdsWake = true := by
  cases p <;> rename_i q <;> cases q <;> simp_all [inFlight, holdsWake]

theorem holdsWake_of_inProgressSet {p : Pc} (h : p.inProgressSet = true) : p.holdsWake = true := by
  cases p <;> rename_i q <;> cases q <;> simp_all [inProgressSet, holdsWake]

theorem inFlight_of_countCopy {p : Pc} {v : Int} (h : p.countCopy = some v) : p.inFlight = false := by
  cases p <;> rename_i q <;> cases q <;> simp_all [countCopy, inFlight]

theorem holds_of_countCopy {p : Pc} {v : Int} (h : p.countCopy = some v) :
    p.holdsWake = true ∨ (p.holdsAccess = true ∧ p.draining = true) := by
  cases p <;> rename_i q <;> cases q <;> simp_all [countCopy, holdsWake, holdsAccess, draining]

theorem holdsWake_of_sawWaiters {p : Pc} (h : p.sawWaiters = true) :
    p.holdsWake = true ∧ p.inFlight = false := by
  cases p <;> rename_i q <;> cases q <;> simp_all [sawWaiters, holdsWake, inFlight]

theorem draining_of_readFlag {p : Pc} {b : Bool} (h : p.readFlag = some b) : p.draining = true := by
  cases p <;> rename_i q <;> cases q <;> simp_all [readFlag, draining]

theorem counted_of_waiting {p : Pc} (h : p.waiting = true) : p.counted = true := by
  cases p <;> rename_i q <;> cases q <;> simp_all [waiting, counted]

theorem draining_of_passed {p : Pc} (h : p.passed = true) : p.draining = true ∧ p.counted = true := by
  cases p <;> rename_i q <;> cases q <;> simp_all [passed, draining, counted]

theorem draining_of_willSet {p : Pc} (h : p.willSet = true) : p.draining = true := by
  cases p <;> rename_i q <;> cases q <;> simp_all [willSet, draining]

theorem inFlight_cases {p : Pc} (h : p.inFlight = true) :
    p = .signal .waitEvent ∨ p = .broadcast .waitEvent := by
  cases p <;> rename_i q <;> cases q <;> simp_all [inFlight]

/-- A counted thread is at the semaphore, past it, on the failed-wait path, or
inside `wait` holding the wake critical section. -/
theorem counted_cases {p : Pc} (h : p.counted = true) :
    p.waiting = true ∨ p.passed = true ∨ p.semFailed = true ∨ p.holdsWake = true := by
  cases p <;> rename_i q <;> cases q <;> simp_all [counted, waiting, passed, semFailed, holdsWake]

/-- A draining thread has not decremented yet, or will set the event, or
holds the count critical section having left waiters behind. -/
theorem draining_cases {p : Pc} (h : p.draining = true) :
    p.passed = true ∨ p.willSet = true ∨ ∃ c, p.countCopy = some c ∧ 0 < c := by
  cases p <;> rename_i q <;> cases q <;> simp_all [draining, passed, willSet, countCopy]
  rename_i b c
  cases b <;> simp
  omega

end Pc

/-! ## The invariant -/

/-- No wave in flight: no wake token, the drain event clear, no thread
owing wave steps. -/
def Quiet (s : State n) : Prop :=
  s.cond.controlSem = 0 ∧ s.cond.finishedEvent = false ∧ census Pc.draining s.pc = 0

theorem Quiet.passed_eq_zero {s : State n} (hq : Quiet s) : census Pc.passed s.pc = 0 :=
  Nat.eq_zero_of_le_zero (hq.2.2 ▸ census_mono fun _ hj => (Pc.draining_of_passed hj).1)

theorem Quiet.willSet_eq_zero {s : State n} (hq : Quiet s) : census Pc.willSet s.pc = 0 :=
  Nat.eq_zero_of_le_zero (hq.2.2 ▸ census_mono fun _ hj => Pc.draining_of_willSet hj)

/-- A signal's wave in flight: its one token is still in the semaphore
(with a waiter there to take it), or a draining waiter holds it, or it has
become the set event. -/
def SignalWave (s : State n) : Prop :=
  s.cond.controlSem ≤ census Pc.waiting s.pc ∧
    s.cond.controlSem + census Pc.draining s.pc + (if s.cond.finishedEvent then 1 else 0) = 1

/-- A broadcast's wave in flight: a token for each waiter still at the
semaphore; the event is set, or about to be, exactly when the count has
reached zero, and once set no thread owes wave steps. -/
def BroadcastWave (s : State n) : Prop :=
  s.cond.controlSem = census Pc.waiting s.pc ∧
    census Pc.willSet s.pc + (if s.cond.finishedEvent then 1 else 0) =
      (if s.cond.waitingThreadCount = 0 then 1 else 0) ∧
    (s.cond.finishedEvent = true → census Pc.draining s.pc = 0)

/-- The invariant of the condition variable and its callers. -/
structure Inv (s : State n) : Prop where
  wake : ∀ j, (s.pc j).holdsWake = true ↔ s.cond.wakeCritsec = some j
  access : ∀ j, (s.pc j).holdsAccess = true ↔ s.cond.accessCritsec = some j
  mutex : ∀ j, (s.pc j).holdsMutex = true → s.mutex = some j
  count : s.cond.waitingThreadCount = census Pc.counted s.pc
  countCopy : ∀ j v, (s.pc j).countCopy = some v → v = s.cond.waitingThreadCount
  sawWaiters : ∀ j, (s.pc j).sawWaiters = true → 0 < s.cond.waitingThreadCount
  readFlag : ∀ j b, (s.pc j).readFlag = some b → b = s.cond.broadcastInProgress
  inProgress : s.cond.broadcastInProgress = true ↔ ∃ g, (s.pc g).inProgressSet = true
  semFailed : ∀ j, (s.pc j).semFailed = false
  quiet : (∀ g, (s.pc g).inFlight = false) → Quiet s
  signalWave : ∀ g, s.pc g = .signal .waitEvent → SignalWave s
  broadcastWave : ∀ g, s.pc g = .broadcast .waitEvent → BroadcastWave s

theorem inv_init : Inv (State.init n) where
  wake _ := by simp [State.init, Cond.init, Pc.holdsWake]
  access _ := by simp [State.init, Cond.init, Pc.holdsAccess]
  mutex _ := by simp [State.init, Pc.holdsMutex]
  count := by simp [State.init, Cond.init, census, Pc.counted]
  countCopy _ _ := by simp [State.init, Pc.countCopy]
  sawWaiters _ := by simp [State.init, Pc.sawWaiters]
  readFlag _ _ := by simp [State.init, Pc.readFlag]
  inProgress := by simp [State.init, Cond.init, Pc.inProgressSet]
  semFailed _ := by simp [State.init, Pc.semFailed]
  quiet _ := by simp [Quiet, State.init, Cond.init, census, Pc.draining]
  signalWave _ h := by simp [State.init] at h
  broadcastWave _ h := by simp [State.init] at h

/-! ## Consequences inside one state -/

section Consequences

variable {s : State n} (hs : Inv s)
include hs

theorem Inv.wake_unique {j k : Fin n} (hj : (s.pc j).holdsWake = true)
    (hk : (s.pc k).holdsWake = true) : j = k := by
  have := ((hs.wake j).1 hj).symm.trans ((hs.wake k).1 hk)
  exact Option.some_injective _ this

theorem Inv.not_holdsWake {j k : Fin n} (hk : (s.pc k).holdsWake = true) (hjk : j ≠ k) :
    (s.pc j).holdsWake = false :=
  Bool.eq_false_iff.2 fun hj => hjk (hs.wake_unique hj hk)

theorem Inv.access_unique {j k : Fin n} (hj : (s.pc j).holdsAccess = true)
    (hk : (s.pc k).holdsAccess = true) : j = k :=
  Option.some_injective _ (((hs.access j).1 hj).symm.trans ((hs.access k).1 hk))

/-- While a thread that is not waiting on the drain event owns the wake
critical section, no wave is in flight. -/
theorem Inv.quiet_of_wake {g : Fin n} (hg : (s.pc g).holdsWake = true)
    (hf : (s.pc g).inFlight = false) : Quiet s :=
  hs.quiet fun k => by
    cases hk : (s.pc k).inFlight
    · rfl
    · rw [hs.wake_unique (Pc.holdsWake_of_inFlight hk) hg, hf] at hk
      exact hk.symm

/-- A thread owes wave steps only while some signal or broadcast waits on
the drain event. -/
theorem Inv.inFlight_of_draining {j : Fin n} (hj : (s.pc j).draining = true) :
    ∃ g, (s.pc g).inFlight = true := by
  by_contra h
  push_neg at h
  have := (hs.quiet fun g => by simpa using h g).2.2
  rw [census_eq_zero] at this
  simp [this j] at hj

/-- During a wave, `broadcast_in_progress` says whether the wave is a
broadcast's. -/
theorem Inv.inProgress_of_inFlight {g : Fin n} (hg : (s.pc g).inFlight = true) :
    s.cond.broadcastInProgress = (s.pc g).inProgressSet := by
  cases h : (s.pc g).inProgressSet
  · cases hb : s.cond.broadcastInProgress
    · rfl
    · obtain ⟨k, hk⟩ := hs.inProgress.1 hb
      rw [hs.wake_unique (Pc.holdsWake_of_inProgressSet hk) (Pc.holdsWake_of_inFlight hg), h] at hk
      exact hk.symm
  · exact hs.inProgress.2 ⟨g, h⟩

/-- While a signal or broadcast owns the wake critical section, the count is
the number of threads at the semaphore or past it. -/
theorem Inv.count_eq {g : Fin n} (hg : (s.pc g).holdsWake = true) (hgc : (s.pc g).counted = false) :
    s.cond.waitingThreadCount = census Pc.waiting s.pc + census Pc.passed s.pc := by
  have hdis : ∀ p : Pc, p.waiting = true → p.passed = false := by
    intro p hp; cases p <;> rename_i q <;> cases q <;> simp_all [Pc.waiting, Pc.passed]
  rw [hs.count]
  norm_cast
  rw [← census_or hdis]
  refine census_congr fun j => ?_
  cases hc : (s.pc j).counted
  · cases hw : (s.pc j).waiting
    · cases hp : (s.pc j).passed
      · rfl
      · rw [(Pc.draining_of_passed hp).2] at hc; cases hc
    · rw [Pc.counted_of_waiting hw] at hc; cases hc
  · rcases Pc.counted_cases hc with h | h | h | h
    · simp [h]
    · simp [h]
    · rw [hs.semFailed j] at h; cases h
    · rw [hs.wake_unique h hg, hgc] at hc; cases hc

theorem Inv.count_pos {j : Fin n} (hj : (s.pc j).counted = true) : 0 < s.cond.waitingThreadCount := by
  rw [hs.count]
  exact_mod_cast census_pos.2 ⟨j, hj⟩

/-- While a broadcast waits on the drain event, the event stays clear as long
as a thread is still counted or still owes wave steps. -/
theorem Inv.broadcast_event_clear {g j : Fin n} (hg : s.pc g = .broadcast .waitEvent)
    (hj : (s.pc j).counted = true ∨ (s.pc j).draining = true) : s.cond.finishedEvent = false := by
  obtain ⟨-, h2, h3⟩ := hs.broadcastWave g hg
  cases hev : s.cond.finishedEvent
  · rfl
  · rcases hj with hj | hj
    · have := hs.count_pos hj
      simp only [hev, if_true] at h2
      split_ifs at h2; omega
    · have := h3 hev
      have := (census_pos (P := Pc.draining)).2 ⟨j, hj⟩
      omega

theorem Inv.not_draining_of_wake {g j : Fin n} (hg : (s.pc g).holdsWake = true)
    (hf : (s.pc g).inFlight = false) : (s.pc j).draining = false :=
  census_eq_zero.1 (hs.quiet_of_wake hg hf).2.2 j

/-- At most one thread carries a copy of `waiting_thread_count` or has seen
waiters: the copies are taken under the wake critical section or, by a
draining waiter, under the count critical section while no waiter owns the
wake one. -/
theorem Inv.copy_unique {j k : Fin n}
    (hj : (s.pc j).countCopy.isSome = true ∨ (s.pc j).sawWaiters = true)
    (hk : (s.pc k).countCopy.isSome = true ∨ (s.pc k).sawWaiters = true) : j = k := by
  have holds : ∀ {p : Pc}, (p.countCopy.isSome = true ∨ p.sawWaiters = true) →
      (p.holdsWake = true ∧ p.inFlight = false) ∨ (p.holdsAccess = true ∧ p.draining = true) := by
    intro p h
    rcases h with h | h
    · obtain ⟨v, hv⟩ := Option.isSome_iff_exists.1 h
      exact (Pc.holds_of_countCopy hv).imp (fun hw => ⟨hw, Pc.inFlight_of_countCopy hv⟩) id
    · exact .inl (Pc.holdsWake_of_sawWaiters h)
  rcases holds hj with ⟨hwj, hfj⟩ | ⟨haj, hdj⟩ <;> rcases holds hk with ⟨hwk, hfk⟩ | ⟨hak, hdk⟩
  · exact hs.wake_unique hwj hwk
  · simp [hs.not_draining_of_wake hwj hfj] at hdk
  · simp [hs.not_draining_of_wake hwk hfk] at hdj
  · exact hs.access_unique haj hak

end Consequences

/-! ## The wave facts read few quantities -/

section Frame

variable {s s' : State n} {i : Fin n} (hpc : s'.pc = Function.update s.pc i (s'.pc i))
  (hsem : s'.cond.controlSem = s.cond.controlSem) (hev : s'.cond.finishedEvent = s.cond.finishedEvent)
  (hd : (s'.pc i).draining = (s.pc i).draining)
include hpc hsem hev hd

theorem Quiet.frame (hq : Quiet s) : Quiet s' := by
  unfold Quiet; rwa [hsem, hev, census_frame hpc hd]

theorem SignalWave.frame (hw : (s'.pc i).waiting = (s.pc i).waiting) (hW : SignalWave s) :
    SignalWave s' := by
  unfold SignalWave; rwa [hsem, hev, census_frame hpc hd, census_frame hpc hw]

theorem BroadcastWave.frame (hw : (s'.pc i).waiting = (s.pc i).waiting)
    (hws : (s'.pc i).willSet = (s.pc i).willSet)
    (hc : s'.cond.waitingThreadCount = s.cond.waitingThreadCount) (hW : BroadcastWave s) :
    BroadcastWave s' := by
  unfold BroadcastWave; rwa [hsem, hev, hc, census_frame hpc hd, census_frame hpc hw,
    census_frame hpc hws]

end Frame

end Amp
