/-
A call that waits on the drain event for a `SetEvent` no thread will make.
Once the semaphore and the event are empty and no thread past the semaphore
still owes its decrement or its `SetEvent`, the `signal` or `broadcast` on
the event stays there and keeps the gate `wake_waiting_threads_critsec`
in every run that follows with no OS call failing (`Stuck.of_star`): it
cannot return without the event, no other thread can enter the gate, take
a token or set the event. `Release` reaches such a state by the failing
OS calls of a release build.
-/
import AmpCondVar.Wave

namespace Amp

variable {n : Nat}

/-! ## What moves the drain event -/

section Effects

variable {s s' : State n} {i : Fin n} (hm : Moves s i (s.pc i) s')
include hm

/-- Only `SetEvent` sets the drain event, and only the gate holder's return
from waiting on it clears it. -/
theorem Moves.event_ne (h : s'.cond.finishedEvent ≠ s.cond.finishedEvent) :
    (s.pc i).willSet = true ∨ (s.pc i).holdsWake = true := by
  generalize hp : s.pc i = p at hm h ⊢
  cases hm <;> simp_all [Pc.willSet, Pc.holdsWake, State.setCond]

/-- A waiter comes to owe a `SetEvent` only by its decrement. -/
theorem Moves.willSet_new (h : (s'.pc i).willSet = true) :
    (s.pc i).willSet = true ∨ (s.pc i).passed = true := by
  generalize hp : s.pc i = p at hm h ⊢
  cases hm <;> simp_all [Pc.willSet, Pc.passed]
  rename_i b c _
  cases b <;> simp_all

end Effects

/-- What holds once no thread can end a wave any more, its `SetEvent` lost or
its `ReleaseSemaphore` releasing nothing: the call `g` still waits on the
drain event at `p` and owns the gate, the event and the semaphore are
empty, and no thread is past the semaphore before its decrement or still to
set the event. -/
structure Stuck (g : Fin n) (p : Pc) (s : State n) : Prop where
  holder : s.pc g = p
  waits : p = .signal .waitEvent ∨ p = .broadcast .waitEvent
  gate : s.cond.wakeCritsec = some g
  wake : ∀ j, (s.pc j).holdsWake = true → j = g
  event : s.cond.finishedEvent = false
  sem : s.cond.controlSem = 0
  passed : ∀ j, (s.pc j).passed = false
  willSet : ∀ j, (s.pc j).willSet = false

section Stuck

variable {g i : Fin n} {p : Pc} {s s' : State n}

/-- No step in which no OS call fails leaves a stuck state: the call cannot
return without the event, no other thread can enter the gate, take a token
or set the event. -/
theorem Stuck.of_moves (hs : Stuck g p s) (hm : Moves s i (s.pc i) s') : Stuck g p s' := by
  rcases eq_or_ne i g with rfl | hig
  · have h := hm
    rw [hs.holder] at h
    rcases hs.waits with rfl | rfl <;> cases h <;> simp_all [hs.event]
  have hwi : (s.pc i).holdsWake = false := Bool.eq_false_iff.2 fun h => hig (hs.wake i h)
  have other : ∀ {j}, j ≠ i → s'.pc j = s.pc j := fun hj => hm.pc_ne hj
  have hnopass : ¬(s.pc i).waiting = true := fun h => by
    have := (hm.pass h).2.1
    rw [hs.sem] at this
    exact Nat.lt_irrefl 0 this
  have hsem : s'.cond.controlSem = s.cond.controlSem := by
    by_contra hne
    rcases hm.sem_ne hne with h | h
    · exact hnopass h
    · rw [h] at hwi; cases hwi
  have hev : s'.cond.finishedEvent = s.cond.finishedEvent := by
    by_contra hne
    rcases hm.event_ne hne with h | h
    · rw [hs.willSet i] at h; cases h
    · rw [h] at hwi; cases hwi
  have hgate : s'.cond.wakeCritsec = some g := by
    rcases hm.wake with ⟨h1, -⟩ | ⟨h1, -⟩ | ⟨h1, -⟩
    · rw [h1]; exact hs.gate
    · rw [hs.gate] at h1; cases h1
    · rw [h1] at hwi; cases hwi
  have hwake : ∀ j, (s'.pc j).holdsWake = true → j = g := fun j hj => by
    rcases eq_or_ne j i with rfl | hji
    · rcases hm.wake with ⟨-, h2⟩ | ⟨h1, -⟩ | ⟨h1, -⟩
      · rw [h2, hwi] at hj; cases hj
      · rw [hs.gate] at h1; cases h1
      · rw [h1] at hwi; cases hwi
    · rw [other hji] at hj; exact hs.wake j hj
  have hpassed : ∀ j, (s'.pc j).passed = false := fun j => by
    rcases eq_or_ne j i with rfl | hji
    · cases h : (s'.pc j).passed
      · rfl
      · rcases hm.passed_ne (by rw [h, hs.passed j]; decide) with h' | ⟨-, h'⟩
        · exact absurd h' hnopass
        · rw [h] at h'; cases h'
    · rw [other hji]; exact hs.passed j
  have hwillSet : ∀ j, (s'.pc j).willSet = false := fun j => by
    rcases eq_or_ne j i with rfl | hji
    · cases h : (s'.pc j).willSet
      · rfl
      · rcases hm.willSet_new h with h' | h'
        · rw [hs.willSet j] at h'; cases h'
        · rw [hs.passed j] at h'; cases h'
    · rw [other hji]; exact hs.willSet j
  exact ⟨by rw [other hig.symm]; exact hs.holder, hs.waits, hgate, hwake, hev ▸ hs.event,
    hsem ▸ hs.sem, hpassed, hwillSet⟩

theorem Stuck.of_star (hs : Stuck g p s) (h : Relation.ReflTransGen Step s s') : Stuck g p s' := by
  induction h with
  | refl => exact hs
  | tail _ hst ih =>
    obtain ⟨i, a, ha, h⟩ := hst
    exact ih.of_moves (step_moves h ha)

end Stuck

end Amp
