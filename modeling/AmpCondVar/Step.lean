/-
One atomic step of a thread: a statement of `amp_condition_variable_wait`,
`_signal` or `_broadcast` (`amp_condition_variable_winthreads.c`), or a
move of the client code around them.

Each function below follows its C body statement by statement. A read or
write of a shared field is one step; a `++` or `--` of
`waiting_thread_count` is two (a load, then a store of the loaded value
plus or minus one); local computation is folded into the step before it.
A step that would block returns `none`.

The OS calls that may fail are the mutex unlock and the semaphore wait and
`SetEvent` in `wait`, and `ReleaseSemaphore` and the event wait in
`signal` and `broadcast`. `...Failed` is such a call failing in a build
without `NDEBUG`: the `assert` on the call's result, the first statement
of the `#if !defined(NDEBUG)` block after it, ends the program, so the
error branch that follows the `assert` is written out as the source has it
but never reached (`step_fail`). A call that cannot succeed (a
`ReleaseSemaphore` past the ceiling) has only its failing outcome. How a
build with `NDEBUG` goes on past a failing call is `stepNdebug`
(`Release`).
-/
import AmpCondVar.Basic
import Mathlib.Logic.Relation

namespace Amp

variable {n : Nat}

namespace State

/-- `EnterCriticalSection(&cond->wake_waiting_threads_critsec)`, then on to `p`. -/
def enterWake (s : State n) (i : Fin n) (p : Pc) : Option (State n) :=
  if s.cond.wakeCritsec = none then
    some ((s.setCond fun c => { c with wakeCritsec := some i }).goto i p)
  else none

/-- `LeaveCriticalSection(&cond->wake_waiting_threads_critsec)`, then on to `p`. -/
def leaveWake (s : State n) (i : Fin n) (p : Pc) : State n :=
  (s.setCond fun c => { c with wakeCritsec := none }).goto i p

/-- `EnterCriticalSection(&cond->access_waiting_threads_count_critsec)`, then on to `p`. -/
def enterAccess (s : State n) (i : Fin n) (p : Pc) : Option (State n) :=
  if s.cond.accessCritsec = none then
    some ((s.setCond fun c => { c with accessCritsec := some i }).goto i p)
  else none

/-- `LeaveCriticalSection(&cond->access_waiting_threads_count_critsec)`, then on to `p`. -/
def leaveAccess (s : State n) (i : Fin n) (p : Pc) : State n :=
  (s.setCond fun c => { c with accessCritsec := none }).goto i p

/-- A store to `cond->waiting_thread_count`, then on to `p`. -/
def storeCount (s : State n) (i : Fin n) (v : Int) (p : Pc) : State n :=
  (s.setCond fun c => { c with waitingThreadCount := v }).goto i p

/-- `amp_mutex_lock(mutex)`, then on to `p`: blocks while the mutex is owned.
An owner relocking would get `EDEADLK` from `amp_mutex` (the comments and
`assert`s at 533-534 and 551-552); no reachable waiter at the relock owns
the mutex (`Refinement`), so the model leaves that case out. -/
def lockMutex (s : State n) (i : Fin n) (p : Pc) : Option (State n) :=
  if s.mutex = none then some ({ s with mutex := some i }.goto i p) else none

@[simp] theorem leaveWake_pc (s : State n) (i : Fin n) (p : Pc) :
    (s.leaveWake i p).pc = Function.update s.pc i p := rfl

@[simp] theorem leaveWake_cond (s : State n) (i : Fin n) (p : Pc) :
    (s.leaveWake i p).cond = { s.cond with wakeCritsec := none } := rfl

@[simp] theorem leaveWake_mutex (s : State n) (i : Fin n) (p : Pc) :
    (s.leaveWake i p).mutex = s.mutex := rfl

@[simp] theorem leaveAccess_pc (s : State n) (i : Fin n) (p : Pc) :
    (s.leaveAccess i p).pc = Function.update s.pc i p := rfl

@[simp] theorem leaveAccess_cond (s : State n) (i : Fin n) (p : Pc) :
    (s.leaveAccess i p).cond = { s.cond with accessCritsec := none } := rfl

@[simp] theorem leaveAccess_mutex (s : State n) (i : Fin n) (p : Pc) :
    (s.leaveAccess i p).mutex = s.mutex := rfl

@[simp] theorem storeCount_pc (s : State n) (i : Fin n) (v : Int) (p : Pc) :
    (s.storeCount i v p).pc = Function.update s.pc i p := rfl

@[simp] theorem storeCount_cond (s : State n) (i : Fin n) (v : Int) (p : Pc) :
    (s.storeCount i v p).cond = { s.cond with waitingThreadCount := v } := rfl

@[simp] theorem storeCount_mutex (s : State n) (i : Fin n) (v : Int) (p : Pc) :
    (s.storeCount i v p).mutex = s.mutex := rfl

end State

/-- A successful step of `amp_condition_variable_wait` (lines 393-556). -/
def conditionVariableWait (s : State n) (i : Fin n) : WaitPc → Option (State n)
  | .enterWake => s.enterWake i (.wait .loadCount)
  | .loadCount => some (s.goto i (.wait (.storeCount s.cond.waitingThreadCount)))
  | .storeCount v => some (s.storeCount i (v + 1) (.wait .unlockMutex))
  | .unlockMutex =>
    if s.mutex = some i then some ({ s with mutex := none }.goto i (.wait .leaveWake)) else none
  | .leaveWake => some (s.leaveWake i (.wait .semWait))
  | .semWait =>
    if 0 < s.cond.controlSem then
      some ((s.setCond fun c => { c with controlSem := c.controlSem - 1 }).goto i
        (.wait .readInProgress))
    else none
  | .readInProgress => some (s.goto i (.wait (.enterAccess s.cond.broadcastInProgress)))
  | .enterAccess b => s.enterAccess i (.wait (.loadDecrement b))
  | .loadDecrement b => some (s.goto i (.wait (.storeDecrement b s.cond.waitingThreadCount)))
  | .storeDecrement b v => some (s.storeCount i (v - 1) (.wait (.leaveAccess b (v - 1))))
  | .leaveAccess b c =>
    -- `all_waiting_threads_awake` is FALSE only for a broadcast with waiters left
    some (s.leaveAccess i (.wait (if b = true ∧ 0 < c then .lockMutex .ampSuccess else .setEvent)))
  | .setEvent =>
    some ((s.setCond fun c => { c with finishedEvent := true }).goto i
      (.wait (.lockMutex .ampSuccess)))
  | .lockMutex r => s.lockMutex i (.idle (some r))
  | .unlockFailedLoad => some (s.goto i (.wait (.unlockFailedStore s.cond.waitingThreadCount)))
  | .unlockFailedStore v => some (s.storeCount i (v - 1) (.wait .unlockFailedLeave))
  | .unlockFailedLeave => some (s.leaveWake i (.idle (some .einval)))
  | .semFailedEnterWake => s.enterWake i (.wait .semFailedEnterAccess)
  | .semFailedEnterAccess => s.enterAccess i (.wait .semFailedLoad)
  | .semFailedLoad => some (s.goto i (.wait (.semFailedStore s.cond.waitingThreadCount)))
  | .semFailedStore v => some (s.storeCount i (v - 1) (.wait .semFailedLeaveAccess))
  | .semFailedLeaveAccess => some (s.leaveAccess i (.wait .semFailedLeaveWake))
  | .semFailedLeaveWake => some (s.leaveWake i (.wait (.lockMutex .einval)))

/-- A step of `amp_condition_variable_wait` whose OS call fails, in a build
without `NDEBUG`: the unlock (432), the semaphore wait (454) or `SetEvent`
(515). The `assert` on the result (436, 458, 517) ends the program before
the error branch after it (437, 459, 518). -/
def conditionVariableWaitFailed (s : State n) (i : Fin n) : WaitPc → Option (State n)
  | .unlockMutex => do assert false false; some (s.goto i (.wait .unlockFailedLoad))
  | .semWait => do assert false false; some (s.goto i (.wait .semFailedEnterWake))
  | .setEvent => do assert false false; some (s.goto i (.wait (.lockMutex .einval)))
  | _ => none

/-- A successful step of `amp_condition_variable_signal` (lines 345-389). -/
def conditionVariableSignal (s : State n) (i : Fin n) : SignalPc → Option (State n)
  | .enterWake => s.enterWake i (.signal .readCount)
  | .readCount =>
    some (s.goto i (.signal (if s.cond.waitingThreadCount ≠ 0 then .release else .leaveWake .ampSuccess)))
  | .release =>
    if s.cond.controlSem + 1 ≤ LONG_MAX then
      some ((s.setCond fun c => { c with controlSem := c.controlSem + 1 }).goto i (.signal .waitEvent))
    else none
  | .waitEvent =>
    if s.cond.finishedEvent then
      some ((s.setCond fun c => { c with finishedEvent := false }).goto i
        (.signal (.leaveWake .ampSuccess)))
    else none
  | .leaveWake r => some (s.leaveWake i (.idle (some r)))

/-- A step of `amp_condition_variable_signal` whose OS call fails, in a
build without `NDEBUG`: `ReleaseSemaphore` (360) or the event wait (374).
The `assert` on the result (366, 377) ends the program before the error
branch after it (367, 378). -/
def conditionVariableSignalFailed (s : State n) (i : Fin n) : SignalPc → Option (State n)
  | .release => do assert false false; some (s.goto i (.signal (.leaveWake .einval)))
  | .waitEvent => do assert false false; some (s.goto i (.signal (.leaveWake .einval)))
  | _ => none

/-- A successful step of `amp_condition_variable_broadcast` (lines 283-341). -/
def conditionVariableBroadcast (s : State n) (i : Fin n) : BroadcastPc → Option (State n)
  | .enterWake => s.enterWake i (.broadcast .readCount)
  | .readCount =>
    let w := s.cond.waitingThreadCount
    some (s.goto i (.broadcast (if 0 < w then .setInProgress w else .leaveWake .ampSuccess)))
  | .setInProgress w =>
    some ((s.setCond fun c => { c with broadcastInProgress := true }).goto i (.broadcast (.release w)))
  | .release w =>
    if s.cond.controlSem + w.toNat ≤ LONG_MAX then
      some ((s.setCond fun c => { c with controlSem := c.controlSem + w.toNat }).goto i
        (.broadcast .waitEvent))
    else none
  | .waitEvent =>
    if s.cond.finishedEvent then
      some ((s.setCond fun c => { c with finishedEvent := false }).goto i
        (.broadcast (.clearInProgress .ampSuccess)))
    else none
  | .clearInProgress r =>
    some ((s.setCond fun c => { c with broadcastInProgress := false }).goto i
      (.broadcast (.leaveWake r)))
  | .leaveWake r => some (s.leaveWake i (.idle (some r)))

/-- A step of `amp_condition_variable_broadcast` whose OS call fails, in a
build without `NDEBUG`: `ReleaseSemaphore` (308) or the event wait (323).
The `assert` on the result (314, 326) ends the program before the error
branch after it (315, 327). -/
def conditionVariableBroadcastFailed (s : State n) (i : Fin n) : BroadcastPc → Option (State n)
  | .release _ => do assert false false; some (s.goto i (.broadcast (.clearInProgress .einval)))
  | .waitEvent => do assert false false; some (s.goto i (.broadcast (.clearInProgress .einval)))
  | _ => none

/-- What a thread may do: its next statement (every OS call in it
succeeding, or its OS call failing), or, in client code, take or give back
the mutex or call an entry point. A client calls `wait` only while it
holds the mutex, and `signal` or `broadcast` with or without it. -/
inductive Action where
  | run
  | fail
  | lock
  | unlock
  | callWait
  | callSignal
  | callBroadcast
  deriving DecidableEq, Repr

/-- The statement thread `i` stands at, run with the OS calls succeeding
(`ok`) or failing. -/
def exec (s : State n) (i : Fin n) (ok : Bool) : Option (State n) :=
  match s.pc i, ok with
  | .idle _, _ => none
  | .wait p, true => conditionVariableWait s i p
  | .wait p, false => conditionVariableWaitFailed s i p
  | .signal p, true => conditionVariableSignal s i p
  | .signal p, false => conditionVariableSignalFailed s i p
  | .broadcast p, true => conditionVariableBroadcast s i p
  | .broadcast p, false => conditionVariableBroadcastFailed s i p

/-- A move of client code: only between calls. -/
def client (s : State n) (i : Fin n) : Action → Option (State n)
  | .lock => if s.mutex = none then some { s with mutex := some i } else none
  | .unlock => if s.mutex = some i then some { s with mutex := none } else none
  | .callWait => if s.mutex = some i then some (s.goto i (.wait .enterWake)) else none
  | .callSignal => some (s.goto i (.signal .enterWake))
  | .callBroadcast => some (s.goto i (.broadcast .enterWake))
  | _ => none

/-- One step of thread `i`, `none` when it cannot take it. -/
def step (s : State n) (i : Fin n) : Action → Option (State n)
  | .run => exec s i true
  | .fail => exec s i false
  | a => match s.pc i with
    | .idle _ => client s i a
    | _ => none

/-- A step in which no OS call fails. -/
def Step (s s' : State n) : Prop := ∃ i a, a ≠ .fail ∧ step s i a = some s'

/-- The states reachable from a freshly initialised condition variable with
no OS call failing. -/
def Reachable (s : State n) : Prop := Relation.ReflTransGen Step (State.init n) s

/-- Runs a schedule, returning the final state and the history: each
step's thread and the statement it stood at. -/
def run (s : State n) : List (Fin n × Action) → Option (State n × List (Fin n × Pc))
  | [] => some (s, [])
  | (i, a) :: l => (step s i a).bind fun s' => (run s' l).map fun r => (r.1, (i, s.pc i) :: r.2)

end Amp
