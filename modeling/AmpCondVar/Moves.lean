/-
Everything one step can do, said once: `Moves s i s'` lists, statement by
statement and outcome by outcome, the guard under which thread `i` steps
from `s` and the state it leaves. `step_moves` proves that every step is
one of them; every invariant below is proved by cases on `Moves` and never
unfolds `step` again.
-/
import AmpCondVar.Census

namespace Amp

variable {n : Nat}

/-- The steps of thread `i` from `s` in which no OS call fails: the
inversion of `step` for every action but `fail`. -/
inductive Moves (s : State n) (i : Fin n) : Pc → State n → Prop
  | lock {r} : s.mutex = none → Moves s i (.idle r) { s with mutex := some i }
  | unlock {r} : s.mutex = some i → Moves s i (.idle r) { s with mutex := none }
  | callWait {r} : s.mutex = some i → Moves s i (.idle r) (s.goto i (.wait .enterWake))
  | callSignal {r} : Moves s i (.idle r) (s.goto i (.signal .enterWake))
  | callBroadcast {r} : Moves s i (.idle r) (s.goto i (.broadcast .enterWake))
  | waitEnterWake : s.cond.wakeCritsec = none →
      Moves s i (.wait .enterWake)
        ((s.setCond fun c => { c with wakeCritsec := some i }).goto i (.wait .loadCount))
  | waitLoadCount :
      Moves s i (.wait .loadCount)
        (s.goto i (.wait (.storeCount s.cond.waitingThreadCount)))
  | waitStoreCount {v} :
      Moves s i (.wait (.storeCount v))
        (s.storeCount i (v + 1) (.wait .unlockMutex))
  | waitUnlockMutex : s.mutex = some i →
      Moves s i (.wait .unlockMutex) ({ s with mutex := none }.goto i (.wait .leaveWake))
  | waitLeaveWake : Moves s i (.wait .leaveWake) (s.leaveWake i (.wait .semWait))
  | waitSemWait : 0 < s.cond.controlSem →
      Moves s i (.wait .semWait)
        ((s.setCond fun c => { c with controlSem := c.controlSem - 1 }).goto i
        (.wait .readInProgress))
  | waitReadInProgress :
      Moves s i (.wait .readInProgress)
        (s.goto i (.wait (.enterAccess s.cond.broadcastInProgress)))
  | waitEnterAccess {b} : s.cond.accessCritsec = none →
      Moves s i (.wait (.enterAccess b))
        ((s.setCond fun c => { c with accessCritsec := some i }).goto i
        (.wait (.loadDecrement b)))
  | waitLoadDecrement {b} :
      Moves s i (.wait (.loadDecrement b))
        (s.goto i (.wait (.storeDecrement b s.cond.waitingThreadCount)))
  | waitStoreDecrement {b v} :
      Moves s i (.wait (.storeDecrement b v))
        (s.storeCount i (v - 1) (.wait (.leaveAccess b (v - 1))))
  | waitLeaveAccessSkip {b c} : b = true ∧ 0 < c →
      Moves s i (.wait (.leaveAccess b c)) (s.leaveAccess i (.wait (.lockMutex .ampSuccess)))
  | waitLeaveAccessSet {b c} : ¬(b = true ∧ 0 < c) →
      Moves s i (.wait (.leaveAccess b c)) (s.leaveAccess i (.wait .setEvent))
  | waitSetEvent :
      Moves s i (.wait .setEvent)
        ((s.setCond fun c => { c with finishedEvent := true }).goto i
        (.wait (.lockMutex .ampSuccess)))
  | waitLockMutex {r} : s.mutex = none →
      Moves s i (.wait (.lockMutex r)) ({ s with mutex := some i }.goto i (.idle (some r)))
  | waitUnlockFailedLoad :
      Moves s i (.wait .unlockFailedLoad)
        (s.goto i (.wait (.unlockFailedStore s.cond.waitingThreadCount)))
  | waitUnlockFailedStore {v} :
      Moves s i (.wait (.unlockFailedStore v))
        (s.storeCount i (v - 1) (.wait .unlockFailedLeave))
  | waitUnlockFailedLeave :
      Moves s i (.wait .unlockFailedLeave)
        (s.leaveWake i (.idle (some .einval)))
  | waitSemFailedEnterWake : s.cond.wakeCritsec = none →
      Moves s i (.wait .semFailedEnterWake)
        ((s.setCond fun c => { c with wakeCritsec := some i }).goto i
        (.wait .semFailedEnterAccess))
  | waitSemFailedEnterAccess : s.cond.accessCritsec = none →
      Moves s i (.wait .semFailedEnterAccess)
        ((s.setCond fun c => { c with accessCritsec := some i }).goto i
        (.wait .semFailedLoad))
  | waitSemFailedLoad :
      Moves s i (.wait .semFailedLoad)
        (s.goto i (.wait (.semFailedStore s.cond.waitingThreadCount)))
  | waitSemFailedStore {v} :
      Moves s i (.wait (.semFailedStore v))
        (s.storeCount i (v - 1) (.wait .semFailedLeaveAccess))
  | waitSemFailedLeaveAccess :
      Moves s i (.wait .semFailedLeaveAccess)
        (s.leaveAccess i (.wait .semFailedLeaveWake))
  | waitSemFailedLeaveWake :
      Moves s i (.wait .semFailedLeaveWake)
        (s.leaveWake i (.wait (.lockMutex .einval)))
  | signalEnterWake : s.cond.wakeCritsec = none →
      Moves s i (.signal .enterWake)
        ((s.setCond fun c => { c with wakeCritsec := some i }).goto i (.signal .readCount))
  | signalReadCountSome : s.cond.waitingThreadCount ≠ 0 →
      Moves s i (.signal .readCount) (s.goto i (.signal .release))
  | signalReadCountNone : s.cond.waitingThreadCount = 0 →
      Moves s i (.signal .readCount) (s.goto i (.signal (.leaveWake .ampSuccess)))
  | signalRelease : s.cond.controlSem + 1 ≤ LONG_MAX →
      Moves s i (.signal .release)
        ((s.setCond fun c => { c with controlSem := c.controlSem + 1 }).goto i
        (.signal .waitEvent))
  | signalWaitEvent : s.cond.finishedEvent = true →
      Moves s i (.signal .waitEvent) ((s.setCond fun c => { c with finishedEvent := false }).goto i
        (.signal (.leaveWake .ampSuccess)))
  | signalLeaveWake {r} : Moves s i (.signal (.leaveWake r)) (s.leaveWake i (.idle (some r)))
  | broadcastEnterWake : s.cond.wakeCritsec = none →
      Moves s i (.broadcast .enterWake)
        ((s.setCond fun c => { c with wakeCritsec := some i }).goto i
        (.broadcast .readCount))
  | broadcastReadCountSome : 0 < s.cond.waitingThreadCount →
      Moves s i (.broadcast .readCount)
        (s.goto i (.broadcast (.setInProgress s.cond.waitingThreadCount)))
  | broadcastReadCountNone : ¬0 < s.cond.waitingThreadCount →
      Moves s i (.broadcast .readCount) (s.goto i (.broadcast (.leaveWake .ampSuccess)))
  | broadcastSetInProgress {w} :
      Moves s i (.broadcast (.setInProgress w))
        ((s.setCond fun c => { c with broadcastInProgress := true }).goto i
        (.broadcast (.release w)))
  | broadcastRelease {w} : s.cond.controlSem + w.toNat ≤ LONG_MAX →
      Moves s i (.broadcast (.release w))
        ((s.setCond fun c => { c with controlSem := c.controlSem + w.toNat }).goto i
        (.broadcast .waitEvent))
  | broadcastWaitEvent : s.cond.finishedEvent = true →
      Moves s i (.broadcast .waitEvent)
        ((s.setCond fun c => { c with finishedEvent := false }).goto i
        (.broadcast (.clearInProgress .ampSuccess)))
  | broadcastClearInProgress {r} :
      Moves s i (.broadcast (.clearInProgress r))
        ((s.setCond fun c => { c with broadcastInProgress := false }).goto i
        (.broadcast (.leaveWake r)))
  | broadcastLeaveWake {r} : Moves s i (.broadcast (.leaveWake r)) (s.leaveWake i (.idle (some r)))

section Inversion

variable {s s' : State n} {i : Fin n}

theorem wait_moves {p : WaitPc} (h : conditionVariableWait s i p = some s') :
    Moves s i (.wait p) s' := by
  cases p <;> simp only [conditionVariableWait, State.enterWake, State.enterAccess,
    State.lockMutex, Option.ite_none_right_eq_some, Option.some.injEq] at h
  case enterWake => obtain ⟨hg, rfl⟩ := h; exact .waitEnterWake hg
  case loadCount => subst h; exact .waitLoadCount
  case storeCount => subst h; exact .waitStoreCount
  case unlockMutex => obtain ⟨hg, rfl⟩ := h; exact .waitUnlockMutex hg
  case leaveWake => subst h; exact .waitLeaveWake
  case semWait => obtain ⟨hg, rfl⟩ := h; exact .waitSemWait hg
  case readInProgress => subst h; exact .waitReadInProgress
  case enterAccess => obtain ⟨hg, rfl⟩ := h; exact .waitEnterAccess hg
  case loadDecrement => subst h; exact .waitLoadDecrement
  case storeDecrement => subst h; exact .waitStoreDecrement
  case leaveAccess b c =>
    subst h
    by_cases hc : b = true ∧ 0 < c
    · rw [if_pos hc]; exact .waitLeaveAccessSkip hc
    · rw [if_neg hc]; exact .waitLeaveAccessSet hc
  case setEvent => subst h; exact .waitSetEvent
  case lockMutex => obtain ⟨hg, rfl⟩ := h; exact .waitLockMutex hg
  case unlockFailedLoad => subst h; exact .waitUnlockFailedLoad
  case unlockFailedStore => subst h; exact .waitUnlockFailedStore
  case unlockFailedLeave => subst h; exact .waitUnlockFailedLeave
  case semFailedEnterWake => obtain ⟨hg, rfl⟩ := h; exact .waitSemFailedEnterWake hg
  case semFailedEnterAccess => obtain ⟨hg, rfl⟩ := h; exact .waitSemFailedEnterAccess hg
  case semFailedLoad => subst h; exact .waitSemFailedLoad
  case semFailedStore => subst h; exact .waitSemFailedStore
  case semFailedLeaveAccess => subst h; exact .waitSemFailedLeaveAccess
  case semFailedLeaveWake => subst h; exact .waitSemFailedLeaveWake

theorem signal_moves {p : SignalPc} (h : conditionVariableSignal s i p = some s') :
    Moves s i (.signal p) s' := by
  cases p <;> simp only [conditionVariableSignal, State.enterWake, Option.ite_none_right_eq_some,
    Option.some.injEq] at h
  case enterWake => obtain ⟨hg, rfl⟩ := h; exact .signalEnterWake hg
  case readCount =>
    subst h
    by_cases hc : s.cond.waitingThreadCount = 0
    · rw [if_neg (not_not.2 hc)]; exact .signalReadCountNone hc
    · rw [if_pos hc]; exact .signalReadCountSome hc
  case release => obtain ⟨hg, rfl⟩ := h; exact .signalRelease hg
  case waitEvent => obtain ⟨hg, rfl⟩ := h; exact .signalWaitEvent hg
  case leaveWake => subst h; exact .signalLeaveWake

theorem broadcast_moves {p : BroadcastPc} (h : conditionVariableBroadcast s i p = some s') :
    Moves s i (.broadcast p) s' := by
  cases p <;> simp only [conditionVariableBroadcast, State.enterWake,
    Option.ite_none_right_eq_some, Option.some.injEq] at h
  case enterWake => obtain ⟨hg, rfl⟩ := h; exact .broadcastEnterWake hg
  case readCount =>
    subst h
    by_cases hc : 0 < s.cond.waitingThreadCount
    · rw [if_pos hc]; exact .broadcastReadCountSome hc
    · rw [if_neg hc]; exact .broadcastReadCountNone hc
  case setInProgress => subst h; exact .broadcastSetInProgress
  case release => obtain ⟨hg, rfl⟩ := h; exact .broadcastRelease hg
  case waitEvent => obtain ⟨hg, rfl⟩ := h; exact .broadcastWaitEvent hg
  case clearInProgress => subst h; exact .broadcastClearInProgress
  case leaveWake => subst h; exact .broadcastLeaveWake

theorem client_moves {a : Action} {r} (h : client s i a = some s') : Moves s i (.idle r) s' := by
  cases a <;> simp only [client, Option.ite_none_right_eq_some, Option.some.injEq,
    reduceCtorEq] at h
  case lock => obtain ⟨hg, rfl⟩ := h; exact .lock hg
  case unlock => obtain ⟨hg, rfl⟩ := h; exact .unlock hg
  case callWait => obtain ⟨hg, rfl⟩ := h; exact .callWait hg
  case callSignal => subst h; exact .callSignal
  case callBroadcast => subst h; exact .callBroadcast

/-- **Every step in which no OS call fails is one of `Moves`.** -/
theorem step_moves {a : Action} (h : step s i a = some s') (ha : a ≠ .fail) :
    Moves s i (s.pc i) s' := by
  cases a
  case fail => exact absurd rfl ha
  case run =>
    simp only [step, exec] at h
    split at h
    next => cases h
    next => rw [‹s.pc i = _›]; exact wait_moves h
    next => cases ‹true = false›
    next => rw [‹s.pc i = _›]; exact signal_moves h
    next => cases ‹true = false›
    next => rw [‹s.pc i = _›]; exact broadcast_moves h
    next => cases ‹true = false›
  all_goals
    simp only [step] at h
    split at h
    next => rw [‹s.pc i = _›]; exact client_moves h
    next => cases h

end Inversion

/-! ## What a step does to each shared field -/

section Effects

variable {s s' : State n} {i : Fin n}

/-- A step moves its own thread only. -/
theorem Moves.pc (hm : Moves s i (s.pc i) s') : s'.pc = Function.update s.pc i (s'.pc i) := by
  generalize s.pc i = p at hm
  cases hm <;> simp

theorem Moves.pc_ne (hm : Moves s i (s.pc i) s') {j : Fin n} (hj : j ≠ i) : s'.pc j = s.pc j := by
  rw [hm.pc, Function.update_noteq hj]

/-- A census moves by what the stepping thread left and joined. -/
theorem Moves.census (hm : Moves s i (s.pc i) s') (P : Pc → Bool) :
    census P s'.pc + (if P (s.pc i) then 1 else 0) =
      census P s.pc + (if P (s'.pc i) then 1 else 0) := by
  have := census_update P s.pc i (s'.pc i)
  rwa [← hm.pc] at this

theorem Moves.wake (hm : Moves s i (s.pc i) s') :
    (s'.cond.wakeCritsec = s.cond.wakeCritsec ∧ (s'.pc i).holdsWake = (s.pc i).holdsWake) ∨
    (s.cond.wakeCritsec = none ∧ s'.cond.wakeCritsec = some i ∧ (s'.pc i).holdsWake = true) ∨
    ((s.pc i).holdsWake = true ∧ s'.cond.wakeCritsec = none ∧ (s'.pc i).holdsWake = false) := by
  generalize hp : s.pc i = p at hm ⊢
  cases hm <;> simp_all [Pc.holdsWake, State.setCond]

theorem Moves.access (hm : Moves s i (s.pc i) s') :
    (s'.cond.accessCritsec = s.cond.accessCritsec ∧
      (s'.pc i).holdsAccess = (s.pc i).holdsAccess) ∨
    (s.cond.accessCritsec = none ∧ s'.cond.accessCritsec = some i ∧
      (s'.pc i).holdsAccess = true) ∨
    ((s.pc i).holdsAccess = true ∧ s'.cond.accessCritsec = none ∧
      (s'.pc i).holdsAccess = false) := by
  generalize hp : s.pc i = p at hm ⊢
  cases hm <;> simp_all [Pc.holdsAccess, State.setCond]

theorem Moves.mutex (hm : Moves s i (s.pc i) s') :
    (s'.mutex = s.mutex ∧
      ((s'.pc i).holdsMutex = true → (s.pc i).holdsMutex = true ∨ s.mutex = some i)) ∨
    (s.mutex = none ∧ s'.mutex = some i) ∨
    (s.mutex = some i ∧ s'.mutex = none ∧ (s'.pc i).holdsMutex = false) := by
  generalize hp : s.pc i = p at hm ⊢
  cases hm <;> simp_all [Pc.holdsMutex, State.setCond]

/-- Only a store moves `waiting_thread_count`: the increment's store
counts its thread in, a decrement's store counts it out. -/
theorem Moves.count (hm : Moves s i (s.pc i) s') :
    (s'.cond.waitingThreadCount = s.cond.waitingThreadCount ∧
      (s'.pc i).counted = (s.pc i).counted) ∨
    (∃ v, (s.pc i).countCopy = some v ∧ s'.cond.waitingThreadCount = v + 1 ∧
      (s.pc i).counted = false ∧ (s'.pc i).counted = true) ∨
    (∃ v, (s.pc i).countCopy = some v ∧ s'.cond.waitingThreadCount = v - 1 ∧
      (s.pc i).counted = true ∧ (s'.pc i).counted = false) := by
  generalize hp : s.pc i = p at hm ⊢
  cases hm <;> simp_all [Pc.counted, Pc.countCopy, State.setCond]

theorem Moves.countCopy (hm : Moves s i (s.pc i) s') {v : Int} (h : (s'.pc i).countCopy = some v) :
    v = s'.cond.waitingThreadCount ∨
      ((s.pc i).countCopy = some v ∧ s'.cond.waitingThreadCount = s.cond.waitingThreadCount) := by
  generalize hp : s.pc i = p at hm ⊢
  cases hm <;> simp_all [Pc.countCopy, State.setCond]

theorem Moves.sawWaiters (hm : Moves s i (s.pc i) s') (h : (s'.pc i).sawWaiters = true) :
    s'.cond.waitingThreadCount ≠ 0 ∨
      ((s.pc i).sawWaiters = true ∧ s'.cond.waitingThreadCount = s.cond.waitingThreadCount) := by
  generalize hp : s.pc i = p at hm ⊢
  cases hm <;> simp_all [Pc.sawWaiters, State.setCond]
  omega

theorem Moves.readFlag (hm : Moves s i (s.pc i) s') {b : Bool} (h : (s'.pc i).readFlag = some b) :
    b = s'.cond.broadcastInProgress ∨
      ((s.pc i).readFlag = some b ∧ s'.cond.broadcastInProgress = s.cond.broadcastInProgress) := by
  generalize hp : s.pc i = p at hm ⊢
  cases hm <;> simp_all [Pc.readFlag, State.setCond]

/-- Only a broadcast holding the wake critical section, with no wave in
flight, writes `broadcast_in_progress`. -/
theorem Moves.inProgress (hm : Moves s i (s.pc i) s') :
    (s'.cond.broadcastInProgress = s.cond.broadcastInProgress ∧
      (s'.pc i).inProgressSet = (s.pc i).inProgressSet) ∨
    ((s.pc i).holdsWake = true ∧ (s.pc i).inFlight = false ∧
      s'.cond.broadcastInProgress = true ∧ (s'.pc i).inProgressSet = true) ∨
    ((s.pc i).holdsWake = true ∧ (s.pc i).inFlight = false ∧
      s'.cond.broadcastInProgress = false ∧ (s'.pc i).inProgressSet = false) := by
  generalize hp : s.pc i = p at hm ⊢
  cases hm <;> simp_all [Pc.inProgressSet, Pc.holdsWake, Pc.inFlight, State.setCond]

theorem Moves.semFailed (hm : Moves s i (s.pc i) s') (h : (s'.pc i).semFailed = true) :
    (s.pc i).semFailed = true := by
  generalize hp : s.pc i = p at hm ⊢
  cases hm <;> simp_all [Pc.semFailed]

end Effects

end Amp
