/-
The invariant is kept by every step in which no OS call fails, one field at a
time, each proof by the effect lemma of `Moves` for the shared field it
reads; it therefore holds in every reachable state (`Reachable.inv`), the
states of every run of a debug build and of every run of a release build
in which no OS call fails.
-/
import AmpCondVar.Invariant

namespace Amp

variable {n : Nat}

/-! ## One step keeps the invariant -/

/-- An owner field stays in step with the places that hold it when a step
keeps both, or takes a free owner for its thread, or gives up its own. -/
theorem owner_step {pc pc' : Fin n → Pc} {i : Fin n} {holds : Pc → Bool} {o o' : Option (Fin n)}
    (h : ∀ j, holds (pc j) = true ↔ o = some j) (hpc : pc' = Function.update pc i (pc' i))
    (heff : (o' = o ∧ holds (pc' i) = holds (pc i)) ∨ (o = none ∧ o' = some i ∧ holds (pc' i) = true) ∨
      (holds (pc i) = true ∧ o' = none ∧ holds (pc' i) = false)) :
    ∀ j, holds (pc' j) = true ↔ o' = some j := by
  intro j
  rcases eq_or_ne j i with rfl | hj
  · rcases heff with ⟨h1, h2⟩ | ⟨-, h2, h3⟩ | ⟨-, h2, h3⟩
    · rw [h1, h2]; exact h j
    · simp [h2, h3]
    · simp [h2, h3]
  · rw [hpc, Function.update_noteq hj]
    rcases heff with ⟨h1, -⟩ | ⟨h1, h2, -⟩ | ⟨h1, h2, -⟩
    · rw [h1]; exact h j
    · rw [h j, h1, h2]; simp [Ne.symm hj]
    · rw [h j, (h i).1 h1, h2]; simp [Ne.symm hj]

section Step

variable {s s' : State n} {i : Fin n} (hs : Inv s) (hm : Moves s i (s.pc i) s')
include hs hm

theorem Inv.mutex_step : ∀ j, (s'.pc j).holdsMutex = true → s'.mutex = some j := by
  intro j hj
  rcases eq_or_ne j i with rfl | hji
  · rcases hm.mutex with ⟨h1, h2⟩ | ⟨-, h2⟩ | ⟨-, -, h3⟩
    · rw [h1]; exact (h2 hj).elim (hs.mutex j) id
    · exact h2
    · simp [h3] at hj
  · rw [hm.pc_ne hji] at hj
    have h0 := hs.mutex j hj
    rcases hm.mutex with ⟨h1, -⟩ | ⟨h1, -⟩ | ⟨h1, -⟩
    · rwa [h1]
    · simp [h1] at h0
    · exact absurd (Option.some_injective _ (h0.symm.trans h1)) hji

theorem Inv.count_step : s'.cond.waitingThreadCount = census Pc.counted s'.pc := by
  have hc := census_update Pc.counted s.pc i (s'.pc i)
  rw [← hm.pc] at hc
  have h0 := hs.count
  rcases hm.count with ⟨h1, h2⟩ | ⟨v, hv, h1, h2, h3⟩ | ⟨v, hv, h1, h2, h3⟩
  · rw [h2] at hc; omega
  all_goals
    have := hs.countCopy i v hv
    simp only [h2, h3, Bool.false_eq_true, if_false, if_true] at hc
    omega

/-- The count changes only under a thread carrying a copy, and then no other
thread carries one. -/
theorem Inv.count_frame {j : Fin n} (hji : j ≠ i)
    (hj : (s.pc j).countCopy.isSome = true ∨ (s.pc j).sawWaiters = true) :
    s'.cond.waitingThreadCount = s.cond.waitingThreadCount := by
  rcases hm.count with ⟨h1, -⟩ | ⟨v, hv, -⟩ | ⟨v, hv, -⟩
  · exact h1
  all_goals exact absurd (hs.copy_unique hj (.inl (by simp [hv]))) hji

theorem Inv.countCopy_step : ∀ j v, (s'.pc j).countCopy = some v → v = s'.cond.waitingThreadCount := by
  intro j v hv
  rcases eq_or_ne j i with rfl | hji
  · rcases hm.countCopy hv with h | ⟨h1, h2⟩
    · exact h
    · rw [h2]; exact hs.countCopy j v h1
  · rw [hm.pc_ne hji] at hv
    rw [hs.countCopy j v hv, hs.count_frame hm hji (.inl (by simp [hv]))]

theorem Inv.sawWaiters_step : ∀ j, (s'.pc j).sawWaiters = true → 0 < s'.cond.waitingThreadCount := by
  intro j hj
  rcases eq_or_ne j i with rfl | hji
  · rcases hm.sawWaiters hj with h | ⟨h1, h2⟩
    · have := hs.count_step hm; omega
    · rw [h2]; exact hs.sawWaiters j h1
  · rw [hm.pc_ne hji] at hj
    rw [hs.count_frame hm hji (.inr hj)]
    exact hs.sawWaiters j hj

theorem Inv.readFlag_step : ∀ j b, (s'.pc j).readFlag = some b → b = s'.cond.broadcastInProgress := by
  intro j b hb
  rcases eq_or_ne j i with rfl | hji
  · rcases hm.readFlag hb with h | ⟨h1, h2⟩
    · exact h
    · rw [h2]; exact hs.readFlag j b h1
  · rw [hm.pc_ne hji] at hb
    rw [hs.readFlag j b hb]
    rcases hm.inProgress with ⟨h1, -⟩ | ⟨hw, hf, -⟩ | ⟨hw, hf, -⟩
    · exact h1.symm
    all_goals
      have := Pc.draining_of_readFlag hb
      rw [hs.not_draining_of_wake hw hf] at this
      cases this

theorem Inv.inProgress_step :
    s'.cond.broadcastInProgress = true ↔ ∃ g, (s'.pc g).inProgressSet = true := by
  have keep : ∀ g, g ≠ i → (s'.pc g).inProgressSet = (s.pc g).inProgressSet := fun g hg => by
    rw [hm.pc_ne hg]
  rcases hm.inProgress with ⟨h1, h2⟩ | ⟨-, -, h1, h2⟩ | ⟨hw, -, h1, h2⟩
  · rw [h1, hs.inProgress]
    constructor <;> rintro ⟨g, hg⟩ <;> refine ⟨g, ?_⟩ <;> rcases eq_or_ne g i with rfl | hgi
    · rwa [h2]
    · rwa [keep g hgi]
    · rwa [← h2]
    · rwa [← keep g hgi]
  · simp only [h1, true_iff]; exact ⟨i, h2⟩
  · simp only [h1, Bool.false_eq_true, false_iff, not_exists]
    intro g hg
    rcases eq_or_ne g i with rfl | hgi
    · simp [h2] at hg
    · rw [keep g hgi] at hg
      exact hgi (hs.wake_unique (Pc.holdsWake_of_inProgressSet hg) hw)

theorem Inv.semFailed_step : ∀ j, (s'.pc j).semFailed = false := by
  intro j
  rcases eq_or_ne j i with rfl | hji
  · cases h : (s'.pc j).semFailed
    · rfl
    · have := hm.semFailed h
      rw [hs.semFailed j] at this
      exact this.symm
  · rw [hm.pc_ne hji]; exact hs.semFailed j

/-- With no wave in flight, a step starts none, or starts one by its
`ReleaseSemaphore`, or ends one by its wait on the drain event returning. -/
theorem Inv.quiet_step (h : ∀ g, (s'.pc g).inFlight = false) : Quiet s' := by
  have hpc := hm.pc
  by_cases hq : ∀ g, (s.pc g).inFlight = false
  · have hQ := hs.quiet hq
    have hdi := census_eq_zero.1 hQ.2.2 i
    have hfi := hq i
    have hi := h i
    generalize hp : s.pc i = p at hm hdi hfi
    cases hm
    all_goals first
      | (refine Quiet.frame hpc ?_ ?_ ?_ hQ <;> simp [hp, Pc.draining]; done)
      | (simp [Pc.draining, Pc.inFlight] at hdi hfi hi; done)
      | (have h0 := hQ.1; omega)
  · simp only [not_forall, Bool.not_eq_false] at hq
    obtain ⟨g, hg⟩ := hq
    have hgi : g = i := by
      by_contra hne
      rw [← hm.pc_ne hne, h g] at hg
      cases hg
    subst hgi
    rcases Pc.inFlight_cases hg with hp | hp
    · obtain ⟨-, hs2⟩ := hs.signalWave g hp
      rw [hp] at hm
      cases hm with
      | signalWaitEvent hev =>
        simp only [hev, if_true] at hs2
        refine ⟨by simp; omega, by simp, ?_⟩
        simp only [State.goto_pc, State.setCond_pc]
        rw [census_update_eq (by simp [hp, Pc.draining])]
        omega
    · obtain ⟨hb1, hb2, hb3⟩ := hs.broadcastWave g hp
      rw [hp] at hm
      cases hm with
      | broadcastWaitEvent hev =>
        have hcount := hs.count_eq (g := g) (by simp [hp, Pc.holdsWake]) (by simp [hp, Pc.counted])
        have hd := hb3 hev
        simp only [hev, if_true] at hb2
        have h0 : s.cond.waitingThreadCount = 0 := by split_ifs at hb2 with h0; omega
        refine ⟨?_, by simp, ?_⟩ <;> simp only [State.goto_pc, State.goto_cond, State.setCond_cond]
        · omega
        · rw [census_update_eq (by simp [hp, Pc.draining])]
          exact hd

/-- A signal's wave: its token moves from the semaphore to the thread that
passes it, then to the event that thread sets. -/
theorem Inv.signalWave_step : ∀ g, s'.pc g = .signal .waitEvent → SignalWave s' := by
  intro g hg
  have hpc := hm.pc
  have hc := hm.census
  rcases eq_or_ne g i with rfl | hgi
  · generalize hp : s.pc g = p at hm hc
    cases hm <;> simp [hp] at hg
    case signalRelease =>
      have hQ := hs.quiet_of_wake (g := g) (by simp [hp, Pc.holdsWake]) (by simp [hp, Pc.inFlight])
      have hcount := hs.count_eq (g := g) (by simp [hp, Pc.holdsWake]) (by simp [hp, Pc.counted])
      have hpos := hs.sawWaiters g (by simp [hp, Pc.sawWaiters])
      have hpass := hQ.passed_eq_zero
      obtain ⟨h1, h2, h3⟩ := hQ
      have hw := hc Pc.waiting
      have hd := hc Pc.draining
      simp [Pc.waiting, Pc.draining] at hw hd
      simp only [SignalWave, State.goto_cond, State.setCond_cond, State.goto_pc, State.setCond_pc,
        h2, Bool.false_eq_true, if_false]
      omega
  · have hg' : s.pc g = .signal .waitEvent := by rw [← hm.pc_ne hgi]; exact hg
    have hW := hs.signalWave g hg'
    have ⟨h1, h2⟩ := hW
    have hbip := hs.inProgress_of_inFlight (g := g) (by simp [hg', Pc.inFlight])
    have hwi := hs.not_holdsWake (by simp [hg', Pc.holdsWake]) hgi.symm
    have hrf := hs.readFlag i
    have hw := hc Pc.waiting
    have hd := hc Pc.draining
    generalize hp : s.pc i = p at hm hwi hrf hw hd
    cases hm
    all_goals first
      | (refine SignalWave.frame hpc ?_ ?_ ?_ ?_ hW <;> simp [hp, Pc.draining, Pc.waiting]; done)
      | (simp [Pc.holdsWake] at hwi; done)
      | skip
    case waitSemWait hsem =>
      simp [Pc.waiting, Pc.draining] at hw hd
      simp only [SignalWave, State.goto_cond, State.setCond_cond, State.goto_pc, State.setCond_pc]
      split_ifs at h2 ⊢ <;> omega
    case waitSetEvent =>
      simp [Pc.waiting, Pc.draining] at hw hd
      simp only [SignalWave, State.goto_cond, State.setCond_cond, State.goto_pc, State.setCond_pc,
        if_true]
      split_ifs at h2 <;> omega
    case waitLeaveAccessSkip b c hbc =>
      have := hrf b rfl
      simp [hbip, hg', Pc.inProgressSet, hbc.1] at this

/-- A broadcast's wave: a token per waiter at the semaphore; the decrement
that reaches zero sets the event, after every other waiter has drained. -/
theorem Inv.broadcastWave_step : ∀ g, s'.pc g = .broadcast .waitEvent → BroadcastWave s' := by
  intro g hg
  have hpc := hm.pc
  have hc := hm.census
  rcases eq_or_ne g i with rfl | hgi
  · generalize hp : s.pc g = p at hm hc
    cases hm <;> simp [hp] at hg
    case broadcastRelease w _ =>
      have hQ := hs.quiet_of_wake (g := g) (by simp [hp, Pc.holdsWake]) (by simp [hp, Pc.inFlight])
      have hcount := hs.count_eq (g := g) (by simp [hp, Pc.holdsWake]) (by simp [hp, Pc.counted])
      have hpos := hs.sawWaiters g (by simp [hp, Pc.sawWaiters])
      have hwc := hs.countCopy g w (by simp [hp, Pc.countCopy])
      have hpass := hQ.passed_eq_zero
      have hws := hQ.willSet_eq_zero
      obtain ⟨h1, h2, h3⟩ := hQ
      have hw := hc Pc.waiting
      have hs' := hc Pc.willSet
      simp [Pc.waiting, Pc.willSet] at hw hs'
      simp only [BroadcastWave, State.goto_cond, State.setCond_cond, State.goto_pc, State.setCond_pc,
        h2, Bool.false_eq_true, if_false, false_implies, and_true]
      split_ifs <;> omega
  · have hg' : s.pc g = .broadcast .waitEvent := by rw [← hm.pc_ne hgi]; exact hg
    have hW := hs.broadcastWave g hg'
    have ⟨h1, h2, h3⟩ := hW
    have hbip := hs.inProgress_of_inFlight (g := g) (by simp [hg', Pc.inFlight])
    have hwi := hs.not_holdsWake (by simp [hg', Pc.holdsWake]) hgi.symm
    have hev := hs.broadcast_event_clear hg' (j := i)
    have hrf := hs.readFlag i
    have hcc := hs.countCopy i
    have hpos := hs.count_pos (j := i)
    have hw := hc Pc.waiting
    have hd := hc Pc.draining
    have hs' := hc Pc.willSet
    generalize hp : s.pc i = p at hm hwi hev hrf hcc hpos hw hd hs'
    cases hm
    all_goals first
      | (refine BroadcastWave.frame hpc ?_ ?_ ?_ ?_ ?_ ?_ hW <;>
          simp [hp, Pc.draining, Pc.waiting, Pc.willSet]; done)
      | (simp [Pc.holdsWake] at hwi; done)
      | skip
    case waitSemWait hsem =>
      have := hpos rfl
      simp [Pc.waiting, Pc.draining, Pc.willSet] at hw hd hs'
      simp only [BroadcastWave, State.goto_cond, State.setCond_cond, State.goto_pc, State.setCond_pc,
        hev (.inl rfl), Bool.false_eq_true, if_false, false_implies, and_true] at h2 ⊢
      omega
    case waitLeaveAccessSet b c hbc =>
      refine BroadcastWave.frame hpc ?_ ?_ ?_ ?_ ?_ ?_ hW <;> simp [hp, Pc.draining, Pc.waiting, Pc.willSet]
      cases b <;> simp_all
    case waitSetEvent =>
      have hev := hev (.inr rfl)
      simp [Pc.waiting, Pc.draining, Pc.willSet] at hw hd hs'
      simp only [hev, Bool.false_eq_true, if_false, add_zero] at h2
      have h0 : s.cond.waitingThreadCount = 0 := by split_ifs at h2 with h0 <;> omega
      rw [if_pos h0] at h2
      have hnone : ∀ j, j ≠ i → (s.pc j).draining = false := fun j hji => by
        cases hdj : (s.pc j).draining
        · rfl
        · rcases Pc.draining_cases hdj with h | h | ⟨c, hcj, hc0⟩
          · have := hs.count_pos (Pc.draining_of_passed h).2; omega
          · have := two_le_census hji h (by simp [hp, Pc.willSet]); omega
          · have := hs.countCopy j c hcj; omega
      simp only [BroadcastWave, State.goto_cond, State.setCond_cond, State.goto_pc, State.setCond_pc,
        eq_self_iff_true, if_true, h0, true_implies]
      refine ⟨by omega, by omega, census_eq_zero.2 fun j => ?_⟩
      rcases eq_or_ne j i with rfl | hji
      · simp [Pc.draining]
      · rw [Function.update_noteq hji]; exact hnone j hji
    case waitLeaveAccessSkip b c hbc =>
      simp [Pc.waiting, Pc.draining, Pc.willSet, hbc.1, hbc.2] at hw hd hs'
      simp only [BroadcastWave, State.leaveAccess_cond, State.leaveAccess_pc, hev (.inr rfl),
        Bool.false_eq_true, if_false, false_implies, and_true] at h2 ⊢
      omega
    case waitStoreDecrement b v =>
      have hv := hcc v rfl
      have hb : b = true := by rw [hrf b rfl, hbip, hg']; rfl
      subst hb
      have := hpos rfl
      simp [Pc.waiting, Pc.draining, Pc.willSet] at hw hd hs'
      simp only [BroadcastWave, State.storeCount_cond, State.storeCount_pc, hev (.inl rfl),
        Bool.false_eq_true, if_false, false_implies, and_true] at h2 ⊢
      refine ⟨by omega, ?_⟩
      split_ifs at h2 hs' ⊢ <;> omega

end Step

/-! ## Whole runs -/

section Run

variable {s s' : State n} {i : Fin n}

/-- **Every step in which no OS call fails keeps the invariant.** -/
theorem Inv.of_moves (hs : Inv s) (hm : Moves s i (s.pc i) s') : Inv s' where
  wake := owner_step hs.wake hm.pc hm.wake
  access := owner_step hs.access hm.pc hm.access
  mutex := hs.mutex_step hm
  count := hs.count_step hm
  countCopy := hs.countCopy_step hm
  sawWaiters := hs.sawWaiters_step hm
  readFlag := hs.readFlag_step hm
  inProgress := hs.inProgress_step hm
  semFailed := hs.semFailed_step hm
  quiet := hs.quiet_step hm
  signalWave := hs.signalWave_step hm
  broadcastWave := hs.broadcastWave_step hm

theorem Inv.of_step (hs : Inv s) (h : Step s s') : Inv s' := by
  obtain ⟨i, a, ha, h⟩ := h
  exact hs.of_moves (step_moves h ha)

theorem Inv.of_star (hs : Inv s) (h : Relation.ReflTransGen Step s s') : Inv s' := by
  induction h with
  | refl => exact hs
  | tail _ hst ih => exact ih.of_step hst

/-- **The invariant holds in every reachable state.** -/
theorem Reachable.inv (h : Reachable s) : Inv s :=
  inv_init.of_star h

/-- A schedule of steps in which no OS call fails stays among the reachable
states. -/
theorem Reachable.run {l : List (Fin n × Action)} {r : State n × List (Fin n × Pc)}
    (hs : Reachable s) (hl : ∀ x ∈ l, x.2 ≠ .fail) (hr : run s l = some r) : Reachable r.1 := by
  induction l generalizing s r with
  | nil => simp only [run, Option.some.injEq] at hr; subst hr; exact hs
  | cons x l ih =>
    obtain ⟨i, a⟩ := x
    simp only [run, Option.bind_eq_some, Option.map_eq_some'] at hr
    obtain ⟨s₁, h₁, r₁, hr₁, rfl⟩ := hr
    exact ih (r := r₁) (hs.tail ⟨i, a, hl _ (List.mem_cons_self _ _), h₁⟩)
      (fun y hy => hl y (List.mem_cons_of_mem _ hy)) hr₁

end Run

end Amp
