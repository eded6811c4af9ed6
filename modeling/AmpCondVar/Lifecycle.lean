/-
`amp_raw_condition_variable_init` and `amp_raw_condition_variable_finalize`
(lines 74-279). `init` creates the four OS objects of a condition variable
one after the other and, when a creation fails, releases those it created
before; `finalize` releases all four. How each OS call turns out is an input
(`Os`), and so is whether the build keeps its `assert`s (`ndebug`): a failed
`assert` ends the program, which the model writes `none`.

A successful `init` leaves the fields `Cond.init`, the state every run of
the protocol starts from (`init_succeeds`). The rollback of a failed
`init` misses one object: when `CreateEvent` fails, line 155 passes the
address of the semaphore's handle to `CloseHandle`, not the handle
(`init_leaks_semaphore`).
-/
import AmpCondVar.Basic
import Mathlib.Tactic.DeriveFintype

namespace Amp

/-- The OS objects of a condition variable, named by the fields that hold
them. -/
inductive Obj where
  /-- `access_waiting_threads_count_critsec` -/
  | accessCritsec
  /-- `wake_waiting_threads_critsec` -/
  | wakeCritsec
  /-- `waking_waiting_threads_count_control_sem` -/
  | controlSem
  /-- `finished_waking_waiting_threads_event` -/
  | finishedEvent
  deriving DecidableEq, Repr, Fintype

/-- An argument of `CloseHandle`: the handle a field holds, or the address
of that field, which is no handle. -/
inductive HandleArg where
  | handle (o : Obj)
  | fieldAddress (o : Obj)
  deriving DecidableEq, Repr

/-! ## The OS calls -/

/-- `GetLastError` after a call on something that is no handle (`winerror.h`). -/
def ERROR_INVALID_HANDLE : Nat := 6

/-- The codes of `winerror.h` the two `switch`es of the file name. -/
def ERROR_TOO_MANY_SEMAPHORES : Nat := 100

def ERROR_SEM_IS_SET : Nat := 102

def ERROR_SEM_OWNER_DIED : Nat := 105

def ERROR_SEM_NOT_FOUND : Nat := 187

/-- How the OS calls of `init` and `finalize` turn out: whether each critical
section initialises, and the error `GetLastError` reports, if any, of
`CreateSemaphore`, `CreateEvent` and the `CloseHandle` of each live handle. -/
structure Os where
  initializeAccessCritsec : Bool
  initializeWakeCritsec : Bool
  createSemaphore : Option Nat
  createEvent : Option Nat
  closeSemaphore : Option Nat
  closeEvent : Option Nat
  deriving DecidableEq, Repr

/-- `InitializeCriticalSectionAndSpinCount(&cond->o, ...)`: `TRUE` with `o`
initialised, or `FALSE`. -/
def initializeCriticalSectionAndSpinCount (ok : Bool) (o : Obj) (live : Finset Obj) :
    Bool × Finset Obj :=
  if ok then (true, insert o live) else (false, live)

/-- `DeleteCriticalSection(&cond->o)`. -/
def deleteCriticalSection (o : Obj) (live : Finset Obj) : Finset Obj :=
  live.erase o

/-- `CreateSemaphore` or `CreateEvent` of `o`: a new object, or `NULL` and
the error `GetLastError` then returns. -/
def createObject (err : Option Nat) (o : Obj) (live : Finset Obj) : Option Nat × Finset Obj :=
  match err with
  | none => (none, insert o live)
  | some e => (some e, live)

/-- `CloseHandle(h)`: a live handle is closed unless the call fails with
`err`; anything else is no handle. The first component is the error of a
call that returns `FALSE`. -/
def closeHandle (err : Option Nat) (h : HandleArg) (live : Finset Obj) : Option Nat × Finset Obj :=
  match h with
  | .handle o =>
    if o ∈ live then
      match err with
      | none => (none, live.erase o)
      | some e => (some e, live)
    else (some ERROR_INVALID_HANDLE, live)
  | .fieldAddress _ => (some ERROR_INVALID_HANDLE, live)

/-- The `switch (last_error)` after a failed `CreateSemaphore` (lines 123-133). -/
def createSemaphoreError (ndebug : Bool) (lastError : Nat) : Option ReturnCode :=
  if lastError = ERROR_TOO_MANY_SEMAPHORES then some .eagain
  else do assert ndebug false; pure .einval

/-- The `switch` on the error of a failed `CloseHandle` of the semaphore
(lines 161-186 in `init`, 250-275 in `finalize`). Every case asserts. -/
def closeSemaphoreError (ndebug : Bool) (closeHandleError : Nat) : Option ReturnCode :=
  if closeHandleError = ERROR_SEM_IS_SET then do assert ndebug false; pure .ebusy
  else if closeHandleError = ERROR_SEM_OWNER_DIED then do assert ndebug false; pure .einval
  else if closeHandleError = ERROR_SEM_NOT_FOUND then do assert ndebug false; pure .einval
  else do assert ndebug false; pure .einval

/-- What the `switch` after a failed `CreateSemaphore` comes to: `EAGAIN` for
`ERROR_TOO_MANY_SEMAPHORES`, otherwise the end of a debug build or `EINVAL`. -/
theorem createSemaphoreError_eq (ndebug : Bool) (e : Nat) :
    createSemaphoreError ndebug e =
      if e = ERROR_TOO_MANY_SEMAPHORES then some .eagain else if ndebug then some .einval else none := by
  cases ndebug <;> simp only [createSemaphoreError, assert, Bool.or_false, Bool.or_true] <;>
    split_ifs <;> rfl

/-! ## `init` and `finalize` -/

variable {n : Nat}

/-- `amp_raw_condition_variable_init(cond)` (lines 74-214), `cond` being
`NULL` when `isNull`, before any of its objects exists: `none` when an
`assert` ends the program, else what it returns (the fields on
`AMP_SUCCESS`, else the error code) and the objects it leaves. The fields
are those of lines 198-199 and of the new objects: critical sections
without owner, the semaphore's initial count 0 (line 111) and the event
not signalled (line 144). -/
def rawConditionVariableInit (ndebug : Bool) (os : Os) (isNull : Bool) :
    Option (Except ReturnCode (Cond n) × Finset Obj) := do
  assert ndebug !isNull
  if isNull then return (.error .einval, ∅)
  let (retval, live) :=
    initializeCriticalSectionAndSpinCount os.initializeAccessCritsec .accessCritsec ∅
  if !retval then return (.error .enomem, live)
  let (retval, live) :=
    initializeCriticalSectionAndSpinCount os.initializeWakeCritsec .wakeCritsec live
  if !retval then return (.error .eagain, deleteCriticalSection .accessCritsec live)
  let (semError, live) := createObject os.createSemaphore .controlSem live
  match semError with
  | some lastError =>
    let live := deleteCriticalSection .accessCritsec (deleteCriticalSection .wakeCritsec live)
    return (.error (← createSemaphoreError ndebug lastError), live)
  | none =>
    let (eventError, live) := createObject os.createEvent .finishedEvent live
    match eventError with
    | some _ =>
      let live := deleteCriticalSection .accessCritsec (deleteCriticalSection .wakeCritsec live)
      let (closeError, live) := closeHandle os.closeSemaphore (.fieldAddress .controlSem) live
      match closeError with
      | some closeHandleError => return (.error (← closeSemaphoreError ndebug closeHandleError), live)
      | none => return (.error .eagain, live)
    | none =>
      return (.ok
        { waitingThreadCount := 0, broadcastInProgress := false, wakeCritsec := none,
          accessCritsec := none, controlSem := 0, finishedEvent := false }, live)

/-- **Line 155 leaks the semaphore.** When `CreateEvent` fails (here with
`ERROR_NOT_ENOUGH_MEMORY`, 8) after the semaphore was created, the rollback
passes `&cond->waking_waiting_threads_count_control_sem`, the address of
the field, to `CloseHandle`, which fails with `ERROR_INVALID_HANDLE`. The
`switch` after it has no case for that error: a debug build ends at its
`assert`, and a build without `assert`s returns `EINVAL`, not the `EAGAIN`
of line 194, with the semaphore still open. -/
theorem init_leaks_semaphore :
    rawConditionVariableInit (n := 1) true ⟨true, true, none, some 8, none, none⟩ false =
        some (.error .einval, {.controlSem}) ∧
      rawConditionVariableInit (n := 1) false ⟨true, true, none, some 8, none, none⟩ false =
        none :=
  ⟨rfl, rfl⟩

/-- `init` as a decision table: which call failed decides the result. The
`CreateEvent` row leaves the semaphore open (line 155). -/
theorem rawConditionVariableInit_eq (ndebug : Bool) (os : Os) (isNull : Bool) :
    rawConditionVariableInit (n := n) ndebug os isNull =
      if isNull then (if ndebug then some (.error .einval, ∅) else none)
      else if !os.initializeAccessCritsec then some (.error .enomem, ∅)
      else if !os.initializeWakeCritsec then some (.error .eagain, ∅)
      else match os.createSemaphore, os.createEvent with
        | some e, _ =>
          if e = ERROR_TOO_MANY_SEMAPHORES then some (.error .eagain, ∅)
          else if ndebug then some (.error .einval, ∅) else none
        | none, some _ => if ndebug then some (.error .einval, {.controlSem}) else none
        | none, none => some (.ok (Cond.init n), Finset.univ) := by
  obtain ⟨a, w, sem, ev, cs, ce⟩ := os
  cases isNull
  case true => cases ndebug <;> rfl
  cases a
  case false => rfl
  cases w
  case false => rfl
  cases sem
  case some e =>
    show Option.bind (createSemaphoreError ndebug e) _ = if e = ERROR_TOO_MANY_SEMAPHORES then _ else _
    rw [createSemaphoreError_eq]
    split_ifs <;> cases ndebug <;> rfl
  cases ev
  case some => cases ndebug <;> rfl
  case none =>
    simp [rawConditionVariableInit, assert, initializeCriticalSectionAndSpinCount, createObject, Cond.init]
    decide

/-- **A successful init.** `init` returns `AMP_SUCCESS` exactly when `cond`
is not `NULL` and every creation succeeds; it then leaves all four objects
and the fields from which every run of the protocol starts. -/
theorem init_succeeds (ndebug : Bool) (os : Os) (isNull : Bool) (c : Cond n) (live : Finset Obj) :
    rawConditionVariableInit ndebug os isNull = some (.ok c, live) ↔
      isNull = false ∧ os.initializeAccessCritsec = true ∧ os.initializeWakeCritsec = true ∧
        os.createSemaphore = none ∧ os.createEvent = none ∧ c = Cond.init n ∧ live = Finset.univ := by
  rw [rawConditionVariableInit_eq]
  cases isNull
  case true => cases ndebug <;> simp
  cases ha : os.initializeAccessCritsec
  case false => simp
  cases hw : os.initializeWakeCritsec
  case false => simp
  simp only [Bool.not_true, Bool.false_eq_true, if_false, true_and]
  cases hs : os.createSemaphore with
  | some e => dsimp only; split_ifs <;> cases ndebug <;> simp
  | none =>
    cases he : os.createEvent with
    | some _ => cases ndebug <;> simp
    | none =>
      simp only [Option.some.injEq, Prod.mk.injEq, Except.ok.injEq, true_and]
      exact ⟨fun h => ⟨h.1.symm, h.2.symm⟩, fun h => ⟨h.1.symm, h.2.symm⟩⟩

/-- `amp_raw_condition_variable_finalize(cond)` (lines 218-279), `cond`
being `NULL` when `isNull`, with the objects `live`: `none` when an `assert`
ends the program, else the return code and the objects it leaves. -/
def rawConditionVariableFinalize (ndebug : Bool) (os : Os) (isNull : Bool) (live : Finset Obj) :
    Option (ReturnCode × Finset Obj) := do
  assert ndebug !isNull
  if isNull then return (.einval, live)
  let live := deleteCriticalSection .accessCritsec (deleteCriticalSection .wakeCritsec live)
  let (closeSemError, live) := closeHandle os.closeSemaphore (.handle .controlSem) live
  let (closeEventError, live) := closeHandle os.closeEvent (.handle .finishedEvent) live
  let retErrorCode := if closeEventError.isSome then ReturnCode.einval else .ampSuccess
  match closeSemError with
  | some closeSemErrorCode => return (← closeSemaphoreError ndebug closeSemErrorCode, live)
  | none => return (retErrorCode, live)

end Amp
