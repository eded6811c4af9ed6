/-
What a condition variable is for, with no Windows object in sight: the
contract that `amp_condition_variable_wait`, `_signal` and `_broadcast`
(`amp_condition_variable_winthreads.c`) emulate. A waiter that owns the
mutex gives it up and blocks in one step; a signal wakes exactly one
blocked waiter, or finds none blocked; a broadcast wakes every blocked
waiter; a woken waiter returns only once it owns the mutex again. Nothing
here has a count, a semaphore or an event: `Refinement` reads the
implementation's states as states of this machine.

`AInv` is what the contract keeps about the mutex: a thread in `wait` owns
it exactly until it blocks.
-/
import AmpCondVar.Basic
import Mathlib.Logic.Relation

namespace Amp

/-- Where a thread is, as the contract sees it. -/
inductive APc where
  /-- Client code; `ret` is what the thread's last call returned. -/
  | idle (ret : Option ReturnCode)
  /-- In `wait`, still owning the mutex. -/
  | waitCalled
  /-- In `wait`, the mutex given up, not yet woken. -/
  | blocked
  /-- In `wait`, woken, not yet owning the mutex again. -/
  | woken
  /-- In `signal`, before its wake. -/
  | signalCalled
  /-- In `signal`, after its wake. -/
  | signalDone
  /-- In `broadcast`, before its wake. -/
  | broadcastCalled
  /-- In `broadcast`, after its wake. -/
  | broadcastDone
  deriving DecidableEq, Repr

namespace APc

/-- Inside `wait` with the mutex given up. -/
def awaiting : APc → Bool
  | .blocked | .woken => true
  | _ => false

end APc

/-- The owner of the mutex and every thread's place. -/
@[ext] structure AState (n : Nat) where
  mutex : Option (Fin n)
  pc : Fin n → APc

namespace AState

variable {n : Nat}

/-- Thread `i` moves on to `p`. -/
def goto (t : AState n) (i : Fin n) (p : APc) : AState n :=
  { t with pc := Function.update t.pc i p }

/-- Every blocked thread woken. -/
def wakeAll (t : AState n) : AState n :=
  { t with pc := fun j => if t.pc j = .blocked then .woken else t.pc j }

/-- Every thread in client code, the mutex free. -/
def init (n : Nat) : AState n := { mutex := none, pc := fun _ => .idle none }

@[simp] theorem goto_pc (t : AState n) (i : Fin n) (p : APc) :
    (t.goto i p).pc = Function.update t.pc i p := rfl

@[simp] theorem goto_mutex (t : AState n) (i : Fin n) (p : APc) : (t.goto i p).mutex = t.mutex := rfl

@[simp] theorem wakeAll_pc (t : AState n) (j : Fin n) :
    t.wakeAll.pc j = if t.pc j = .blocked then .woken else t.pc j := rfl

@[simp] theorem wakeAll_mutex (t : AState n) : t.wakeAll.mutex = t.mutex := rfl

theorem wakeAll_eq_self {t : AState n} (h : ∀ j, t.pc j ≠ .blocked) : t.wakeAll = t :=
  AState.ext rfl (funext fun j => if_neg (h j))

end AState

variable {n : Nat}

/-- One step of the contract. Client code takes and gives back the mutex
and calls the entry points as in `client`; `block` gives up the mutex and
blocks at once; `wakeOne`, `wakeNone` and `wakeAll` are the wakes of a
signal and a broadcast; the `return` steps end a call with `AMP_SUCCESS`,
a waiter's only when it takes the mutex. -/
inductive AStep : AState n → AState n → Prop
  | lock {t i r} : t.pc i = .idle r → t.mutex = none → AStep t { t with mutex := some i }
  | unlock {t i r} : t.pc i = .idle r → t.mutex = some i → AStep t { t with mutex := none }
  | callWait {t i r} : t.pc i = .idle r → t.mutex = some i → AStep t (t.goto i .waitCalled)
  | callSignal {t i r} : t.pc i = .idle r → AStep t (t.goto i .signalCalled)
  | callBroadcast {t i r} : t.pc i = .idle r → AStep t (t.goto i .broadcastCalled)
  | block {t i} : t.pc i = .waitCalled → t.mutex = some i →
      AStep t ({ t with mutex := none }.goto i .blocked)
  | wakeOne {t g j} : t.pc g = .signalCalled → t.pc j = .blocked →
      AStep t ((t.goto j .woken).goto g .signalDone)
  | wakeNone {t g} : t.pc g = .signalCalled → (∀ j, t.pc j ≠ .blocked) →
      AStep t (t.goto g .signalDone)
  | wakeAll {t g} : t.pc g = .broadcastCalled → AStep t (t.wakeAll.goto g .broadcastDone)
  | returnWait {t i} : t.pc i = .woken → t.mutex = none →
      AStep t ({ t with mutex := some i }.goto i (.idle (some .ampSuccess)))
  | returnSignal {t g} : t.pc g = .signalDone → AStep t (t.goto g (.idle (some .ampSuccess)))
  | returnBroadcast {t g} : t.pc g = .broadcastDone →
      AStep t (t.goto g (.idle (some .ampSuccess)))

/-- The states of the contract reachable from `AState.init`. -/
def AReachable (t : AState n) : Prop := Relation.ReflTransGen AStep (AState.init n) t

/-- A thread in `wait` owns the mutex until it blocks, and not after. -/
structure AInv (t : AState n) : Prop where
  waitCalled : ∀ j, t.pc j = .waitCalled → t.mutex = some j
  awaiting : ∀ j, t.mutex = some j → (t.pc j).awaiting = false

section Step

variable {t : AState n}

/-- A thread moving to a place outside `wait` keeps `AInv`. -/
theorem AInv.goto (ht : AInv t) {i : Fin n} {p : APc} (hp : p ≠ .waitCalled)
    (ha : p.awaiting = false) : AInv (t.goto i p) where
  waitCalled j hj := by
    rcases eq_or_ne j i with rfl | hji
    · simp [hp] at hj
    · simpa [hji] using ht.waitCalled j (by simpa [hji] using hj)
  awaiting j hj := by
    rcases eq_or_ne j i with rfl | hji
    · simpa using ha
    · simpa [hji] using ht.awaiting j hj

/-- **Every step of the contract keeps `AInv`.** -/
theorem AInv.step {t' : AState n} (ht : AInv t) (h : AStep t t') : AInv t' := by
  cases h
  case lock i r hp hm =>
    refine ⟨fun j hj => ?_, fun j hj => ?_⟩
    · simp [ht.waitCalled j hj] at hm
    · obtain rfl := Option.some_injective _ hj
      simp [hp, APc.awaiting]
  case unlock i r hp hm =>
    refine ⟨fun j hj => ?_, fun j hj => nomatch hj⟩
    obtain rfl := Option.some_injective _ ((ht.waitCalled j hj).symm.trans hm)
    simp [hp] at hj
  case callWait i r hp hm =>
    refine ⟨fun j hj => ?_, fun j hj => ?_⟩ <;> rcases eq_or_ne j i with rfl | hji
    · exact hm
    · simpa [hji] using ht.waitCalled j (by simpa [hji] using hj)
    · simp [APc.awaiting]
    · simp [hm, hji.symm] at hj
  case callSignal => exact ht.goto (by simp) rfl
  case callBroadcast => exact ht.goto (by simp) rfl
  case block i hp hm =>
    refine ⟨fun j hj => ?_, fun j hj => nomatch hj⟩
    rcases eq_or_ne j i with rfl | hji
    · simp at hj
    · have := (ht.waitCalled j (by simpa [hji] using hj)).symm.trans hm
      exact absurd (Option.some_injective _ this) hji
  case wakeOne g j hg hj =>
    have hw : AInv (t.goto j .woken) := by
      refine ⟨fun k hk => ?_, fun k hk => ?_⟩ <;> rcases eq_or_ne k j with rfl | hkj
      · simp at hk
      · simpa [hkj] using ht.waitCalled k (by simpa [hkj] using hk)
      · simpa [hj, APc.awaiting] using ht.awaiting k hk
      · simpa [hkj] using ht.awaiting k hk
    exact hw.goto (by simp) rfl
  case wakeNone => exact ht.goto (by simp) rfl
  case wakeAll g hg =>
    have hw : AInv t.wakeAll := by
      refine ⟨fun k hk => ?_, fun k hk => ?_⟩ <;> simp only [AState.wakeAll_pc] at hk ⊢ <;>
        split_ifs at hk ⊢ with hb
      · exact ht.waitCalled k hk
      · simpa [hb, APc.awaiting] using ht.awaiting k hk
      · exact ht.awaiting k hk
    exact hw.goto (by simp) rfl
  case returnWait i hp hm =>
    refine ⟨fun j hj => ?_, fun j hj => ?_⟩ <;> rcases eq_or_ne j i with rfl | hji
    · simp at hj
    · exact absurd ((ht.waitCalled j (by simpa [hji] using hj)).symm.trans hm) (by simp)
    · simp [APc.awaiting]
    · exact absurd (Option.some_injective _ hj) hji.symm
  case returnSignal => exact ht.goto (by simp) rfl
  case returnBroadcast => exact ht.goto (by simp) rfl

theorem AInv.init : AInv (AState.init n) where
  waitCalled _ h := by simp [AState.init] at h
  awaiting _ h := by simp [AState.init] at h

/-- `AInv` holds in every state the contract reaches. -/
theorem AReachable.inv {t : AState n} (ht : AReachable t) : AInv t := by
  induction ht with
  | refl => exact AInv.init
  | tail _ h ih => exact ih.step h

end Step

end Amp
