/-
The state of `amp_condition_variable_winthreads.c` as `n` threads see it:
the condition variable's own fields (`amp_raw_condition_variable_s`), the
one external `amp_mutex_t` its callers pass to `wait`, and where each
thread is.

A thread's place is a statement of one of the three entry points, with the
local variables live at that statement carried by the constructor
(`storeCount v` is the store half of `++(cond->waiting_thread_count)` after
the load read `v`). Between calls a thread runs client code (`idle`), which
remembers what its last call returned.

The two critical sections, the semaphore and the auto-reset event are
modelled by their owner, their count and their flag. A Windows critical
section may be re-entered by its owner; no statement here enters one its
thread already holds (`Inv.wake`), so the model blocks on any owner.
-/
import Mathlib.Data.Fintype.Card
import Mathlib.Logic.Function.Basic

namespace Amp

/-- `LONG_MAX` of `<limits.h>` on Windows, where `LONG` has 32 bits: the
ceiling `amp_raw_condition_variable_init` gives the wake semaphore. -/
def LONG_MAX : Nat := 2147483647

/-- The codes the entry points return: `AMP_SUCCESS` and the `errno.h`
values the file uses. -/
inductive ReturnCode where
  | ampSuccess
  | einval
  | enomem
  | eagain
  | ebusy
  deriving DecidableEq, Repr

/-- `assert(c)`: the program ends when `c` is false, unless built with
`NDEBUG`. -/
def assert (ndebug c : Bool) : Option Unit :=
  if c || ndebug then some () else none

/-- The statements of `amp_condition_variable_wait` (line numbers of the
source) at which a thread can stand. -/
inductive WaitPc where
  /-- Line 409: `EnterCriticalSection(&cond->wake_waiting_threads_critsec)`. -/
  | enterWake
  /-- Line 418, load of `++(cond->waiting_thread_count)`. -/
  | loadCount
  /-- Line 418, store of `v + 1`. -/
  | storeCount (v : Int)
  /-- Line 432: `amp_mutex_unlock(mutex)`. -/
  | unlockMutex
  /-- Line 448: `LeaveCriticalSection(&cond->wake_waiting_threads_critsec)`. -/
  | leaveWake
  /-- Line 454: `WaitForSingleObject(cond->waking_waiting_threads_count_control_sem, INFINITE)`. -/
  | semWait
  /-- Line 490: the unlocked read of `cond->broadcast_in_progress`. -/
  | readInProgress
  /-- Line 492: `EnterCriticalSection(&cond->access_waiting_threads_count_critsec)`. -/
  | enterAccess (inProgress : Bool)
  /-- Line 494, load of `--(cond->waiting_thread_count)`. -/
  | loadDecrement (inProgress : Bool)
  /-- Line 494, store of `v - 1`, which is also `count`. -/
  | storeDecrement (inProgress : Bool) (v : Int)
  /-- Line 503: `LeaveCriticalSection(&cond->access_waiting_threads_count_critsec)`,
  then the local test of lines 505-510. -/
  | leaveAccess (inProgress : Bool) (count : Int)
  /-- Line 515: `SetEvent(cond->finished_waking_waiting_threads_event)`. -/
  | setEvent
  /-- Line 548 (and 530, 468 in the error branches): `amp_mutex_lock(mutex)`,
  then `return ret`. -/
  | lockMutex (ret : ReturnCode)
  /-- Line 438, load of `--(cond->waiting_thread_count)` after the unlock failed. -/
  | unlockFailedLoad
  /-- Line 438, store of `v - 1`. -/
  | unlockFailedStore (v : Int)
  /-- Line 440: leave the wake critical section, then `return EINVAL`. -/
  | unlockFailedLeave
  /-- Line 460: enter the wake critical section after the semaphore wait failed. -/
  | semFailedEnterWake
  /-- Line 461: enter the count critical section. -/
  | semFailedEnterAccess
  /-- Line 463, load of `--(cond->waiting_thread_count)`. -/
  | semFailedLoad
  /-- Line 463, store of `v - 1`. -/
  | semFailedStore (v : Int)
  /-- Line 465: leave the count critical section. -/
  | semFailedLeaveAccess
  /-- Line 466: leave the wake critical section, then lock the mutex (468). -/
  | semFailedLeaveWake
  deriving DecidableEq, Repr

/-- The statements of `amp_condition_variable_signal`. -/
inductive SignalPc where
  /-- Line 349: enter the wake critical section. -/
  | enterWake
  /-- Line 352: `0l != cond->waiting_thread_count`. -/
  | readCount
  /-- Line 360: `ReleaseSemaphore(sem, 1, &prev_sem_count)`. -/
  | release
  /-- Line 374: `WaitForSingleObject(cond->finished_waking_waiting_threads_event, INFINITE)`. -/
  | waitEvent
  /-- Lines 386 (368, 379 in the error branches): leave the wake critical
  section, then `return ret`. -/
  | leaveWake (ret : ReturnCode)
  deriving DecidableEq, Repr

/-- The statements of `amp_condition_variable_broadcast`. -/
inductive BroadcastPc where
  /-- Line 287: enter the wake critical section. -/
  | enterWake
  /-- Line 291: the local copy `waiting_thread_count` and the test `0 < ...`. -/
  | readCount
  /-- Line 295: `cond->broadcast_in_progress = TRUE`, `waiting` the local copy. -/
  | setInProgress (waiting : Int)
  /-- Line 308: `ReleaseSemaphore(sem, waiting_thread_count, &prev_sem_count)`. -/
  | release (waiting : Int)
  /-- Line 323: wait on the drain event. -/
  | waitEvent
  /-- Line 334 (316, 328 in the error branches): `cond->broadcast_in_progress = FALSE`. -/
  | clearInProgress (ret : ReturnCode)
  /-- Line 338 (317, 329): leave the wake critical section, then `return ret`. -/
  | leaveWake (ret : ReturnCode)
  deriving DecidableEq, Repr

/-- Where a thread is. -/
inductive Pc where
  /-- Client code; `ret` is what the thread's last call returned. -/
  | idle (ret : Option ReturnCode)
  | wait (p : WaitPc)
  | signal (p : SignalPc)
  | broadcast (p : BroadcastPc)
  deriving DecidableEq, Repr

/-- The fields of `struct amp_raw_condition_variable_s`: a critical section
by its owner, the semaphore by its count, the event by whether it is set. -/
structure Cond (n : Nat) where
  waitingThreadCount : Int
  broadcastInProgress : Bool
  /-- `wake_waiting_threads_critsec` -/
  wakeCritsec : Option (Fin n)
  /-- `access_waiting_threads_count_critsec` -/
  accessCritsec : Option (Fin n)
  /-- `waking_waiting_threads_count_control_sem` -/
  controlSem : Nat
  /-- `finished_waking_waiting_threads_event` -/
  finishedEvent : Bool
  deriving DecidableEq, Repr

/-- `n` threads sharing one condition variable and the external mutex
every `wait` on it passes. -/
structure State (n : Nat) where
  cond : Cond n
  /-- The owner of the external `amp_mutex_t`. -/
  mutex : Option (Fin n)
  pc : Fin n → Pc

namespace State

variable {n : Nat}

/-- Thread `i` moves on to `p`. -/
def goto (s : State n) (i : Fin n) (p : Pc) : State n :=
  { s with pc := Function.update s.pc i p }

/-- Change the condition variable's fields. -/
def setCond (s : State n) (f : Cond n → Cond n) : State n :=
  { s with cond := f s.cond }

@[simp] theorem goto_pc (s : State n) (i : Fin n) (p : Pc) :
    (s.goto i p).pc = Function.update s.pc i p := rfl

@[simp] theorem goto_cond (s : State n) (i : Fin n) (p : Pc) : (s.goto i p).cond = s.cond := rfl

@[simp] theorem goto_mutex (s : State n) (i : Fin n) (p : Pc) : (s.goto i p).mutex = s.mutex := rfl

@[simp] theorem setCond_pc (s : State n) (f : Cond n → Cond n) : (s.setCond f).pc = s.pc := rfl

@[simp] theorem setCond_cond (s : State n) (f : Cond n → Cond n) :
    (s.setCond f).cond = f s.cond := rfl

@[simp] theorem setCond_mutex (s : State n) (f : Cond n → Cond n) :
    (s.setCond f).mutex = s.mutex := rfl

end State

/-- What a successful `amp_raw_condition_variable_init` leaves (lines
198-199 and the objects it creates): count 0, no broadcast in progress,
both critical sections free, semaphore count 0, event not signaled. -/
def Cond.init (n : Nat) : Cond n :=
  { waitingThreadCount := 0, broadcastInProgress := false, wakeCritsec := none,
    accessCritsec := none, controlSem := 0, finishedEvent := false }

/-- Every thread in client code, the mutex free, the condition variable
just initialised. -/
def State.init (n : Nat) : State n :=
  { cond := Cond.init n, mutex := none, pc := fun _ => .idle none }

end Amp
