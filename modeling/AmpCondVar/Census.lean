/-
What a thread's place in the code says: which lock it holds there, whether
it is counted in `waiting_thread_count`, whether it has taken a wake token
and not yet drained, and which local copy of a shared field it carries.
`census P pc` counts the threads whose place satisfies `P`; a step moves one
thread, and `sum_update` says what that does to a sum over the places.
-/
import AmpCondVar.Step
import Mathlib.Algebra.BigOperators.Group.Finset

namespace Amp

namespace Pc

/-- Places at which the thread owns `wake_waiting_threads_critsec`. -/
def holdsWake : Pc → Bool
  | .wait .loadCount | .wait (.storeCount _) | .wait .unlockMutex | .wait .leaveWake
  | .wait .unlockFailedLoad | .wait (.unlockFailedStore _) | .wait .unlockFailedLeave
  | .wait .semFailedEnterAccess | .wait .semFailedLoad | .wait (.semFailedStore _)
  | .wait .semFailedLeaveAccess | .wait .semFailedLeaveWake
  | .signal .readCount | .signal .release | .signal .waitEvent | .signal (.leaveWake _)
  | .broadcast .readCount | .broadcast (.setInProgress _) | .broadcast (.release _)
  | .broadcast .waitEvent | .broadcast (.clearInProgress _) | .broadcast (.leaveWake _) => true
  | _ => false

/-- Places at which the thread owns `access_waiting_threads_count_critsec`. -/
def holdsAccess : Pc → Bool
  | .wait (.loadDecrement _) | .wait (.storeDecrement _ _) | .wait (.leaveAccess _ _)
  | .wait .semFailedLoad | .wait (.semFailedStore _) | .wait .semFailedLeaveAccess => true
  | _ => false

/-- Places inside `wait` before the external mutex is given up, where the
caller still owns it. -/
def holdsMutex : Pc → Bool
  | .wait .enterWake | .wait .loadCount | .wait (.storeCount _) | .wait .unlockMutex
  | .wait .unlockFailedLoad | .wait (.unlockFailedStore _) | .wait .unlockFailedLeave => true
  | _ => false

/-- Places past the store of the increment (418) and before the store of a
decrement (494, 438 or 463): the thread is counted in `waiting_thread_count`. -/
def counted : Pc → Bool
  | .wait .unlockMutex | .wait .leaveWake | .wait .semWait | .wait .readInProgress
  | .wait (.enterAccess _) | .wait (.loadDecrement _) | .wait (.storeDecrement _ _)
  | .wait .unlockFailedLoad | .wait (.unlockFailedStore _)
  | .wait .semFailedEnterWake | .wait .semFailedEnterAccess | .wait .semFailedLoad
  | .wait (.semFailedStore _) => true
  | _ => false

/-- Counted and not yet past the wake semaphore. -/
def enrolled : Pc → Bool
  | .wait .unlockMutex | .wait .leaveWake | .wait .semWait => true
  | _ => false

/-- Blocked on (or about to wait on) the wake semaphore. -/
def waiting : Pc → Bool
  | .wait .semWait => true
  | _ => false

/-- Past the wake semaphore and before the store of the decrement. -/
def passed : Pc → Bool
  | .wait .readInProgress | .wait (.enterAccess _) | .wait (.loadDecrement _)
  | .wait (.storeDecrement _ _) => true
  | _ => false

/-- Past the wake semaphore and not yet past the decision whether to call
`SetEvent`, or about to call it: the thread still owes its wave steps. -/
def draining : Pc → Bool
  | .wait .readInProgress | .wait (.enterAccess _) | .wait (.loadDecrement _)
  | .wait (.storeDecrement _ _) | .wait (.leaveAccess _ _) | .wait .setEvent => true
  | _ => false

/-- About to call `SetEvent`, now or after leaving the count critical
section (`all_waiting_threads_awake`, lines 505-510). -/
def willSet : Pc → Bool
  | .wait .setEvent => true
  | .wait (.leaveAccess b c) => !(b && decide (0 < c))
  | _ => false

/-- On the error path of a failed semaphore wait (lines 460-466). -/
def semFailed : Pc → Bool
  | .wait .semFailedEnterWake | .wait .semFailedEnterAccess | .wait .semFailedLoad
  | .wait (.semFailedStore _) | .wait .semFailedLeaveAccess | .wait .semFailedLeaveWake => true
  | _ => false

/-- A broadcast between setting `broadcast_in_progress` (295) and clearing
it (334). -/
def inProgressSet : Pc → Bool
  | .broadcast (.release _) | .broadcast .waitEvent | .broadcast (.clearInProgress _) => true
  | _ => false

/-- A signal or broadcast between its `ReleaseSemaphore` and the return of
its wait on the drain event: a wave in flight. -/
def inFlight : Pc → Bool
  | .signal .waitEvent | .broadcast .waitEvent => true
  | _ => false

/-- A local copy of `waiting_thread_count`: the value a store was loaded
as, the result of the decrement (`count`), or broadcast's
`waiting_thread_count`. -/
def countCopy : Pc → Option Int
  | .wait (.storeCount v) | .wait (.storeDecrement _ v) | .wait (.leaveAccess _ v)
  | .wait (.unlockFailedStore v) | .wait (.semFailedStore v)
  | .broadcast (.setInProgress v) | .broadcast (.release v) => some v
  | _ => none

/-- A signal or broadcast that has seen a waiter and not yet released it. -/
def sawWaiters : Pc → Bool
  | .signal .release | .broadcast (.setInProgress _) | .broadcast (.release _) => true
  | _ => false

/-- The local copy of `broadcast_in_progress` read at line 490. -/
def readFlag : Pc → Option Bool
  | .wait (.enterAccess b) | .wait (.loadDecrement b) | .wait (.storeDecrement b _)
  | .wait (.leaveAccess b _) => some b
  | _ => none

end Pc

variable {n : Nat}

/-- The number of threads whose place satisfies `P`. -/
def census (P : Pc → Bool) (pc : Fin n → Pc) : Nat :=
  (Finset.univ.filter fun j => P (pc j) = true).card

/-- Moving thread `i` to `p` changes a sum over the threads' places by what
`i` left and joined. -/
theorem sum_update (f : Pc → Nat) (pc : Fin n → Pc) (i : Fin n) (p : Pc) :
    ∑ j, f (Function.update pc i p j) + f (pc i) = ∑ j, f (pc j) + f p := by
  have hrest : ∑ j ∈ Finset.univ.erase i, f (Function.update pc i p j) =
      ∑ j ∈ Finset.univ.erase i, f (pc j) :=
    Finset.sum_congr rfl fun j hj => by rw [Function.update_noteq (Finset.ne_of_mem_erase hj)]
  rw [← Finset.add_sum_erase _ _ (Finset.mem_univ i), ← Finset.add_sum_erase _ _ (Finset.mem_univ i),
    hrest, Function.update_same]
  omega

/-- Moving thread `i` to `p` changes a census by what `i` left and joined. -/
theorem census_update (P : Pc → Bool) (pc : Fin n → Pc) (i : Fin n) (p : Pc) :
    census P (Function.update pc i p) + (if P (pc i) then 1 else 0) =
      census P pc + (if P p then 1 else 0) := by
  simpa only [census, Finset.card_filter] using sum_update (fun q => if P q then 1 else 0) pc i p

theorem census_update_eq {P : Pc → Bool} {pc : Fin n → Pc} {i : Fin n} {p : Pc}
    (h : P p = P (pc i)) : census P (Function.update pc i p) = census P pc := by
  have := census_update P pc i p
  rw [h] at this
  omega

/-- A step of thread `i` that keeps whether `i` satisfies `P` keeps the census. -/
theorem census_frame {P : Pc → Bool} {pc pc' : Fin n → Pc} {i : Fin n}
    (hpc : pc' = Function.update pc i (pc' i)) (h : P (pc' i) = P (pc i)) :
    census P pc' = census P pc := by
  rw [hpc]
  exact census_update_eq h

theorem census_eq_zero {P : Pc → Bool} {pc : Fin n → Pc} :
    census P pc = 0 ↔ ∀ j, P (pc j) = false := by
  simp [census, Finset.card_eq_zero, Finset.filter_eq_empty_iff]

theorem census_pos {P : Pc → Bool} {pc : Fin n → Pc} :
    0 < census P pc ↔ ∃ j, P (pc j) = true := by
  simp [census, Finset.card_pos, Finset.filter_nonempty_iff]

theorem census_le_card (P : Pc → Bool) (pc : Fin n → Pc) : census P pc ≤ n :=
  (Finset.card_filter_le _ _).trans (by simp)

theorem census_mono {P Q : Pc → Bool} {pc : Fin n → Pc} (h : ∀ j, P (pc j) = true → Q (pc j) = true) :
    census P pc ≤ census Q pc :=
  Finset.card_le_card fun j => by simpa using h j

/-- Two distinct threads in a census make it at least two. -/
theorem two_le_census {P : Pc → Bool} {pc : Fin n → Pc} {j k : Fin n} (hjk : j ≠ k)
    (hj : P (pc j) = true) (hk : P (pc k) = true) : 2 ≤ census P pc := by
  have : ({j, k} : Finset (Fin n)) ⊆ Finset.univ.filter fun x => P (pc x) = true := by
    intro x hx
    simp only [Finset.mem_insert, Finset.mem_singleton] at hx
    rcases hx with rfl | rfl <;> simpa
  simpa [census, Finset.card_pair hjk] using Finset.card_le_card this

theorem census_congr {P Q : Pc → Bool} {pc : Fin n → Pc} (h : ∀ j, P (pc j) = Q (pc j)) :
    census P pc = census Q pc := by
  simp only [census, h]

/-- Two disjoint kinds of place, counted together. -/
theorem census_or {P Q : Pc → Bool} {pc : Fin n → Pc} (h : ∀ p, P p = true → Q p = false) :
    census (fun p => P p || Q p) pc = census P pc + census Q pc := by
  rw [census, census, census, ← Finset.card_union_of_disjoint]
  · congr 1; ext j; simp
  · exact Finset.disjoint_filter.2 fun j _ hp hq => by simp [h _ hp] at hq

end Amp
