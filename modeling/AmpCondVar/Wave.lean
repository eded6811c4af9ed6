/-
The wave law: what one signal or broadcast does to the waiters it finds.
When the call enters the gate, the waiters counted and not yet past the
semaphore are exactly those blocked at it; while the call owns the gate no
other waiter can join them. Along any run in which the call keeps the gate,
only those waiters pass the semaphore, each once; a signal lets one of them
through, a broadcast all, and each one that passes stores its decrement
before the call leaves the gate. A call that finds no waiter changes
nothing.

The proof follows the run with its history (`run` records each step's
thread and place) and keeps `Segment`: who has passed, who has decremented,
how many tokens the call has released and the count, all read against the
state the call found.
-/
import AmpCondVar.Drain

namespace Amp

variable {n : Nat}

namespace Pc

/-- The last statement of signal and broadcast, leaving the gate. -/
def callReturn : Pc → Bool
  | .signal (.leaveWake _) | .broadcast (.leaveWake _) => true
  | _ => false

def isSignal : Pc → Bool
  | .signal _ => true
  | _ => false

def isBroadcast : Pc → Bool
  | .broadcast _ => true
  | _ => false

/-- The store of a waiter's decrement (line 494). -/
def isStoreDecrement : Pc → Bool
  | .wait (.storeDecrement _ _) => true
  | _ => false

/-- The tokens a signal or broadcast that found `k` waiters has released by
the time it stands here. -/
def waveTokens (k : Nat) : Pc → Nat
  | .signal .waitEvent | .signal (.leaveWake _) => min k 1
  | .broadcast .waitEvent | .broadcast (.clearInProgress _) | .broadcast (.leaveWake _) => k
  | _ => 0

theorem eq_semWait_of_waiting {p : Pc} (h : p.waiting = true) : p = .wait .semWait := by
  cases p <;> rename_i q <;> cases q <;> simp_all [waiting]

theorem passed_of_isStoreDecrement {p : Pc} (h : p.isStoreDecrement = true) : p.passed = true := by
  cases p <;> rename_i q <;> cases q <;> simp_all [isStoreDecrement, passed]

theorem enrolled_of_waiting {p : Pc} (h : p.waiting = true) : p.enrolled = true := by
  cases p <;> rename_i q <;> cases q <;> simp_all [waiting, enrolled]

/-- Enrolled and not yet at the semaphore: still inside the gate. -/
theorem holdsWake_of_enrolled {p : Pc} (h : p.enrolled = true) (hw : p.waiting = false) :
    p.holdsWake = true := by
  cases p <;> rename_i q <;> cases q <;> simp_all [enrolled, waiting, holdsWake]

/-- Outside `wait` a thread is not a waiter of any kind. -/
theorem flags_of_not_wait {p : Pc} (h : ∀ w, p ≠ .wait w) :
    p.waiting = false ∧ p.passed = false ∧ p.draining = false ∧ p.enrolled = false ∧
      p.isStoreDecrement = false := by
  cases p <;> simp_all [waiting, passed, draining, enrolled, isStoreDecrement]

theorem waveTokens_zero (p : Pc) : p.waveTokens 0 = 0 := by
  cases p <;> rename_i q <;> cases q <;> simp [waveTokens]

theorem callReturn_cases {p : Pc} (h : p.callReturn = true) :
    (∃ r, p = .signal (.leaveWake r)) ∨ ∃ r, p = .broadcast (.leaveWake r) := by
  cases p <;> rename_i q <;> cases q <;> simp_all [callReturn]

end Pc

/-- The threads of a history that passed the wake semaphore, in order. -/
def passers (h : List (Fin n × Pc)) : List (Fin n) :=
  (h.filter fun x => x.2 = .wait .semWait).map Prod.fst

/-- The threads of a history that stored a decrement, in order. -/
def decrementers (h : List (Fin n × Pc)) : List (Fin n) :=
  (h.filter fun x => x.2.isStoreDecrement).map Prod.fst

@[simp] theorem passers_snoc (h : List (Fin n × Pc)) (i : Fin n) (p : Pc) :
    passers (h ++ [(i, p)]) = passers h ++ if p = .wait .semWait then [i] else [] := by
  by_cases hp : p = .wait .semWait <;> simp [passers, hp]

@[simp] theorem decrementers_snoc (h : List (Fin n × Pc)) (i : Fin n) (p : Pc) :
    decrementers (h ++ [(i, p)]) = decrementers h ++ if p.isStoreDecrement then [i] else [] := by
  by_cases hp : p.isStoreDecrement <;> simp [decrementers, hp]

theorem mem_passers_snoc {h : List (Fin n × Pc)} {i j : Fin n} {p : Pc} :
    j ∈ passers (h ++ [(i, p)]) ↔ j ∈ passers h ∨ (j = i ∧ p = .wait .semWait) := by
  rw [passers_snoc]
  split_ifs with hp <;> simp [hp]

theorem mem_decrementers_snoc {h : List (Fin n × Pc)} {i j : Fin n} {p : Pc} :
    j ∈ decrementers (h ++ [(i, p)]) ↔ j ∈ decrementers h ∨ (j = i ∧ p.isStoreDecrement = true) := by
  rw [decrementers_snoc]
  split_ifs with hp <;> simp [hp]

/-! ## What a step does to the wave's bookkeeping -/

section Effects

variable {s s' : State n} {i : Fin n} (hm : Moves s i (s.pc i) s')
include hm

/-- Only leaving the gate brings a waiter to the semaphore. -/
theorem Moves.holdsWake_of_waiting (h : (s'.pc i).waiting = true) : (s.pc i).holdsWake = true := by
  generalize hp : s.pc i = p at hm ⊢
  cases hm <;> simp_all [Pc.waiting, Pc.holdsWake]

/-- A waiter at the semaphore moves only by passing it, taking a token. -/
theorem Moves.pass (h : (s.pc i).waiting = true) :
    s'.pc i = .wait .readInProgress ∧ 0 < s.cond.controlSem ∧
      s'.cond = { s.cond with controlSem := s.cond.controlSem - 1 } := by
  have hp := Pc.eq_semWait_of_waiting h
  rw [hp] at hm
  cases hm with
  | waitSemWait hsem => exact ⟨by simp, hsem, rfl⟩

/-- The store of a decrement writes the loaded count less one and ends the
waiter's pass. -/
theorem Moves.storeDecrement (h : (s.pc i).isStoreDecrement = true) :
    ∃ v, (s.pc i).countCopy = some v ∧ s'.cond.waitingThreadCount = v - 1 ∧
      (s'.pc i).passed = false := by
  obtain ⟨b, v, hp⟩ : ∃ b v, s.pc i = .wait (.storeDecrement b v) := by
    revert h; cases s.pc i <;> rename_i q <;> cases q <;> simp [Pc.isStoreDecrement]
  rw [hp] at hm ⊢
  cases hm
  simp [Pc.countCopy, Pc.passed]

/-- Past the semaphore a waiter stays past it until it stores its decrement. -/
theorem Moves.passed_ne (h : (s'.pc i).passed ≠ (s.pc i).passed) :
    (s.pc i).waiting = true ∨ ((s.pc i).isStoreDecrement = true ∧ (s'.pc i).passed = false) := by
  generalize hp : s.pc i = p at hm h ⊢
  cases hm <;> simp_all [Pc.passed, Pc.waiting, Pc.isStoreDecrement]

theorem Moves.draining_new (h : (s'.pc i).draining = true) :
    (s.pc i).draining = true ∨ (s.pc i).waiting = true := by
  generalize hp : s.pc i = p at hm h ⊢
  cases hm <;> simp_all [Pc.draining, Pc.waiting]

/-- Only a pass of the semaphore and the gate holder move the semaphore. -/
theorem Moves.sem_ne (h : s'.cond.controlSem ≠ s.cond.controlSem) :
    (s.pc i).waiting = true ∨ (s.pc i).holdsWake = true := by
  generalize hp : s.pc i = p at hm h ⊢
  cases hm <;> simp_all [Pc.waiting, Pc.holdsWake, State.setCond]

/-- Outside the gate, only the store of a decrement moves the count. -/
theorem Moves.count_ne (h : s'.cond.waitingThreadCount ≠ s.cond.waitingThreadCount) :
    (s.pc i).holdsWake = true ∨
      ((s.pc i).isStoreDecrement = true ∧ ∃ v, (s.pc i).countCopy = some v ∧
        s'.cond.waitingThreadCount = v - 1) := by
  generalize hp : s.pc i = p at hm h ⊢
  cases hm <;> simp_all [Pc.holdsWake, Pc.isStoreDecrement, Pc.countCopy, State.setCond]

/-- A step that changes the condition variable enters the gate, owns it,
drains, fails a wait, or passes the semaphore. -/
theorem Moves.cond_ne (h : s'.cond ≠ s.cond) :
    s.cond.wakeCritsec = none ∨ (s.pc i).holdsWake = true ∨ (s.pc i).draining = true ∨
      (s.pc i).semFailed = true ∨ (s.pc i).waiting = true := by
  generalize hp : s.pc i = p at hm h ⊢
  cases hm <;> simp_all [Pc.holdsWake, Pc.draining, Pc.semFailed, Pc.waiting, State.setCond]

end Effects

/-! ## While a call owns the gate -/

/-- What holds while the signal or broadcast `g`, which entered the gate in
`s₀`, still owns it, `h` being the history since `s₀`. The waiters the call
found are those enrolled in `s₀`. -/
structure Segment (s₀ : State n) (g : Fin n) (s : State n) (h : List (Fin n × Pc)) : Prop where
  reach : Reachable s
  holder : (s.pc g).holdsWake = true
  kind : (s.pc g).isSignal = (s₀.pc g).isSignal ∧ (s.pc g).isBroadcast = (s₀.pc g).isBroadcast
  waiting : ∀ j, (s.pc j).waiting = true → (s₀.pc j).enrolled = true ∧ j ∉ passers h
  enrolled : ∀ j, (s₀.pc j).enrolled = true → (s.pc j).waiting = true ∨ j ∈ passers h
  passer : ∀ j ∈ passers h, (s₀.pc j).enrolled = true
  nodup : (passers h).Nodup
  nodupD : (decrementers h).Nodup
  decr : ∀ j, j ∈ decrementers h ↔ j ∈ passers h ∧ (s.pc j).passed = false
  draining : ∀ j, (s.pc j).draining = true → j ∈ passers h
  tokens : s.cond.controlSem + (passers h).length = (s.pc g).waveTokens (census Pc.enrolled s₀.pc)
  count : s.cond.waitingThreadCount + (decrementers h).length = census Pc.enrolled s₀.pc
  active : ((s.pc g).sawWaiters || (s.pc g).inProgressSet || (s.pc g).inFlight) = true →
    0 < census Pc.enrolled s₀.pc
  still : census Pc.enrolled s₀.pc = 0 → s.cond = s₀.cond

/-- When a call has just entered the gate, the waiters counted and not past
the semaphore are those blocked at it, and no wave is in flight. -/
theorem Segment.init {s₀ : State n} {g : Fin n} (hr : Reachable s₀)
    (hg : s₀.pc g = .signal .readCount ∨ s₀.pc g = .broadcast .readCount) :
    Segment s₀ g s₀ [] := by
  have hs := hr.inv
  have hgw : (s₀.pc g).holdsWake = true := by rcases hg with hg | hg <;> simp [hg, Pc.holdsWake]
  have hq := hs.quiet_of_wake hgw (by rcases hg with hg | hg <;> simp [hg, Pc.inFlight])
  have henr : ∀ j, (s₀.pc j).enrolled = (s₀.pc j).waiting := fun j => by
    cases hw : (s₀.pc j).waiting
    · cases he : (s₀.pc j).enrolled
      · rfl
      · rw [hs.wake_unique (Pc.holdsWake_of_enrolled he hw) hgw] at he
        rcases hg with hg | hg <;> simp [hg, Pc.enrolled] at he
    · exact Pc.enrolled_of_waiting hw
  have hcount := hs.count_eq hgw (by rcases hg with hg | hg <;> simp [hg, Pc.counted])
  refine ⟨hr, hgw, ⟨rfl, rfl⟩, fun j hj => ⟨by rw [henr]; exact hj, by simp [passers]⟩,
    fun j hj => .inl (by rwa [← henr]), by simp [passers], by simp [passers], by simp [decrementers],
    by simp [decrementers, passers], fun j hj => ?_, ?_, ?_, ?_, fun _ => rfl⟩
  · have := census_eq_zero.1 hq.2.2 j
    rw [hj] at this
    cases this
  · rcases hg with hg | hg <;> simp [hg, Pc.waveTokens, passers, hq.1]
  · simp only [decrementers, List.filter_nil, List.map_nil, List.length_nil, Nat.cast_zero, add_zero]
    rw [hcount, hq.passed_eq_zero, census_congr henr]
    simp
  · rcases hg with hg | hg <;> simp [hg, Pc.sawWaiters, Pc.inProgressSet, Pc.inFlight]

section Step

variable {s₀ s s' : State n} {g i : Fin n} {h : List (Fin n × Pc)}

/-- A step of any thread but the call keeps the segment: such a thread does
not own the gate, so it can only pass the semaphore (one of the waiters the
call found, taking a token), drain, or store its decrement. -/
theorem Segment.step_other (hw : Segment s₀ g s h) (hm : Moves s i (s.pc i) s') (hr' : Reachable s')
    (hig : i ≠ g) : Segment s₀ g s' (h ++ [(i, s.pc i)]) := by
  have hs := hw.reach.inv
  have hpg : s'.pc g = s.pc g := hm.pc_ne hig.symm
  have hwi : (s.pc i).holdsWake = false := hs.not_holdsWake hw.holder hig
  have other : ∀ {j}, j ≠ i → s'.pc j = s.pc j := fun hj => hm.pc_ne hj
  have hnotD : (s.pc i).passed = true → i ∉ decrementers h := fun hp hd => by
    rw [(hw.decr i).1 hd |>.2] at hp
    cases hp
  refine ⟨hr', hpg ▸ hw.holder, hpg ▸ hw.kind, fun j hj => ?_, fun j hj => ?_, fun j hj => ?_, ?_, ?_,
    fun j => ?_, fun j hj => ?_, ?_, ?_, hpg ▸ hw.active, fun hk => ?_⟩
  · rcases eq_or_ne j i with rfl | hji
    · rw [hm.holdsWake_of_waiting hj] at hwi
      cases hwi
    · rw [other hji] at hj
      refine ⟨(hw.waiting j hj).1, fun hp => ?_⟩
      rcases mem_passers_snoc.1 hp with hp | ⟨rfl, -⟩
      · exact (hw.waiting j hj).2 hp
      · exact hji rfl
  · rcases hw.enrolled j hj with hj' | hj'
    · rcases eq_or_ne j i with rfl | hji
      · exact .inr (mem_passers_snoc.2 (.inr ⟨rfl, Pc.eq_semWait_of_waiting hj'⟩))
      · exact .inl (by rwa [other hji])
    · exact .inr (mem_passers_snoc.2 (.inl hj'))
  · rcases mem_passers_snoc.1 hj with hj | ⟨rfl, hp⟩
    · exact hw.passer j hj
    · exact (hw.waiting j (by simp [hp, Pc.waiting])).1
  · rw [passers_snoc]
    split_ifs with hp
    · have := (hw.waiting i (by simp [hp, Pc.waiting])).2
      simpa [List.nodup_append, hw.nodup] using this
    · simpa using hw.nodup
  · rw [decrementers_snoc]
    split_ifs with hp
    · have := hnotD (Pc.passed_of_isStoreDecrement hp)
      simpa [List.nodup_append, hw.nodupD] using this
    · simpa using hw.nodupD
  · rw [mem_decrementers_snoc, mem_passers_snoc]
    rcases eq_or_ne j i with rfl | hji
    · by_cases hwt : (s.pc j).waiting = true
      · have hnp := (hw.waiting j hwt).2
        have hnd : j ∉ decrementers h := fun hd => hnp ((hw.decr j).1 hd).1
        simp [hnd, hnp, Pc.eq_semWait_of_waiting hwt, (hm.pass hwt).1, Pc.passed, Pc.isStoreDecrement]
      · by_cases hsd : (s.pc j).isStoreDecrement = true
        · have hpj := hw.draining j (Pc.draining_of_passed (Pc.passed_of_isStoreDecrement hsd)).1
          obtain ⟨v, -, -, hp'⟩ := hm.storeDecrement hsd
          simp [hsd, hpj, hp']
        · have hpe : (s'.pc j).passed = (s.pc j).passed := by
            by_contra hne
            rcases hm.passed_ne hne with h | h
            · exact hwt h
            · exact hsd h.1
          have hp : s.pc j ≠ .wait .semWait := fun hp => hwt (by simp [hp, Pc.waiting])
          simp [hsd, hp, hpe, hw.decr j]
    · simp [hji, other hji, hw.decr j]
  · rcases eq_or_ne j i with rfl | hji
    · rcases hm.draining_new hj with h | h
      · exact mem_passers_snoc.2 (.inl (hw.draining j h))
      · exact mem_passers_snoc.2 (.inr ⟨rfl, Pc.eq_semWait_of_waiting h⟩)
    · exact mem_passers_snoc.2 (.inl (hw.draining j (by rwa [← other hji])))
  · rw [hpg, ← hw.tokens, passers_snoc]
    by_cases hwt : (s.pc i).waiting = true
    · obtain ⟨-, hsem, hc⟩ := hm.pass hwt
      simp only [hc, Pc.eq_semWait_of_waiting hwt, if_true, List.length_append, List.length_singleton]
      omega
    · have hsem : s'.cond.controlSem = s.cond.controlSem := by
        by_contra hne
        rcases hm.sem_ne hne with h | h
        · exact hwt h
        · rw [h] at hwi; cases hwi
      have hp : s.pc i ≠ .wait .semWait := fun hp => hwt (by simp [hp, Pc.waiting])
      simp [hsem, hp]
  · rw [← hw.count, decrementers_snoc]
    by_cases hsd : (s.pc i).isStoreDecrement = true
    · obtain ⟨v, hv, hc, -⟩ := hm.storeDecrement hsd
      have := hs.countCopy i v hv
      simp only [hsd, if_true, List.length_append, List.length_singleton, hc]
      push_cast
      omega
    · have hc : s'.cond.waitingThreadCount = s.cond.waitingThreadCount := by
        by_contra hne
        rcases hm.count_ne hne with h | h
        · rw [h] at hwi; cases hwi
        · exact hsd h.1
      simp [hc, hsd]
  · rw [← hw.still hk]
    by_contra hne
    have htok := hw.tokens
    rw [hk, Pc.waveTokens_zero] at htok
    have hP : passers h = [] := List.eq_nil_of_length_eq_zero (by omega)
    rcases hm.cond_ne hne with h | h | h | h | h
    · rw [(hs.wake g).1 hw.holder] at h
      cases h
    · rw [h] at hwi; cases hwi
    · have := hw.draining i h
      rw [hP] at this
      cases this
    · rw [hs.semFailed i] at h; cases h
    · have := (hm.pass h).2.1
      omega

/-- The call's own step: short of leaving the gate it keeps it and its
kind, has released what `waveTokens` says, never moves the count, and
changes nothing while it has found no waiter. -/
theorem Segment.gate_step (hw : Segment s₀ g s h) (hm : Moves s g (s.pc g) s')
    (hi : (s.pc g).callReturn = false) (hgw : ∀ w, s.pc g ≠ .wait w) :
    (s'.pc g).holdsWake = true ∧
    ((s'.pc g).isSignal = (s.pc g).isSignal ∧ (s'.pc g).isBroadcast = (s.pc g).isBroadcast) ∧
    (∀ w, s'.pc g ≠ .wait w) ∧
    s'.cond.controlSem + (passers h).length = (s'.pc g).waveTokens (census Pc.enrolled s₀.pc) ∧
    s'.cond.waitingThreadCount = s.cond.waitingThreadCount ∧
    (((s'.pc g).sawWaiters || (s'.pc g).inProgressSet || (s'.pc g).inFlight) = true →
      0 < census Pc.enrolled s₀.pc) ∧
    (census Pc.enrolled s₀.pc = 0 → s'.cond = s.cond) := by
  have hs := hw.reach.inv
  have htok := hw.tokens
  have hcnt := hw.count
  have hact := hw.active
  have hhold := hw.holder
  have hcc := hs.countCopy g
  have hsw := hs.sawWaiters g
  have hc0 : 0 ≤ s.cond.waitingThreadCount := by rw [hs.count]; omega
  have hDP : (decrementers h).length ≤ (passers h).length :=
    (hw.nodupD.subperm fun j hj => ((hw.decr j).1 hj).1).length_le
  generalize census Pc.enrolled s₀.pc = k at htok hcnt hact ⊢
  generalize (passers h).length = t at htok hDP ⊢
  generalize (decrementers h).length = d at hcnt hDP
  generalize hp : s.pc g = p at hm hi hgw htok hact hhold hcc hsw
  cases hm <;> simp [Pc.holdsWake, Pc.isSignal, Pc.isBroadcast, Pc.waveTokens, Pc.sawWaiters,
    Pc.inProgressSet, Pc.inFlight, Pc.callReturn, Pc.countCopy] at hgw hi htok hact hhold hcc hsw ⊢
  all_goals omega

/-- The segment reads the history only through who passed and who
decremented. -/
theorem Segment.history {h' : List (Fin n × Pc)} (hw : Segment s₀ g s h)
    (hP : passers h' = passers h) (hD : decrementers h' = decrementers h) : Segment s₀ g s h' := by
  obtain ⟨a1, a2, a3, a4, a5, a6, a7, a8, a9, a10, a11, a12, a13, a14⟩ := hw
  exact ⟨a1, a2, a3, by rwa [hP], by rwa [hP], by rwa [hP], by rwa [hP], by rwa [hD],
    by rwa [hP, hD], by rwa [hP], by rwa [hP], by rwa [hD], a13, a14⟩

/-- A step of the call itself, short of leaving the gate, keeps the segment. -/
theorem Segment.step_gate (hw : Segment s₀ g s h)
    (hg₀ : s₀.pc g = .signal .readCount ∨ s₀.pc g = .broadcast .readCount)
    (hm : Moves s g (s.pc g) s') (hr' : Reachable s') (hi : (s.pc g).callReturn = false) :
    Segment s₀ g s' (h ++ [(g, s.pc g)]) := by
  have hgw : ∀ w, s.pc g ≠ .wait w := fun w hp => by
    have := hw.kind
    rw [hp] at this
    rcases hg₀ with h0 | h0 <;> simp [h0, Pc.isSignal, Pc.isBroadcast] at this
  obtain ⟨hhold, hkind, hgw', htok, hcount, hact, hstill⟩ := hw.gate_step hm hi hgw
  have hfl := Pc.flags_of_not_wait hgw
  have hfl' := Pc.flags_of_not_wait hgw'
  have other : ∀ {j}, j ≠ g → s'.pc j = s.pc j := fun hj => hm.pc_ne hj
  refine Segment.history (h := h) ?_ (by simp [if_neg (hgw _)]) (by simp [hfl.2.2.2.2])
  refine ⟨hr', hhold, ⟨hkind.1.trans hw.kind.1, hkind.2.trans hw.kind.2⟩, fun j hj => ?_,
    fun j hj => ?_, hw.passer, hw.nodup, hw.nodupD, fun j => ?_, fun j hj => ?_, htok,
    by rw [hcount]; exact hw.count, hact, fun hk => (hstill hk).trans (hw.still hk)⟩
  · rcases eq_or_ne j g with rfl | hjg
    · rw [hfl'.1] at hj; cases hj
    · exact hw.waiting j (by rwa [← other hjg])
  · rcases hw.enrolled j hj with h' | h'
    · rcases eq_or_ne j g with rfl | hjg
      · rw [hfl.1] at h'; cases h'
      · exact .inl (by rwa [other hjg])
    · exact .inr h'
  · rcases eq_or_ne j g with rfl | hjg
    · simpa [hfl'.2.1, hfl.2.1] using hw.decr j
    · rw [other hjg]; exact hw.decr j
  · rcases eq_or_ne j g with rfl | hjg
    · rw [hfl'.2.2.1] at hj; cases hj
    · exact hw.draining j (by rwa [← other hjg])

/-- Every step but the call's leaving the gate keeps the segment. -/
theorem Segment.next {a : Action} (hw : Segment s₀ g s h)
    (hg₀ : s₀.pc g = .signal .readCount ∨ s₀.pc g = .broadcast .readCount) (ha : a ≠ .fail)
    (hst : step s i a = some s') (hi : i = g → (s.pc g).callReturn = false) :
    Segment s₀ g s' (h ++ [(i, s.pc i)]) := by
  have hm := step_moves hst ha
  have hr' := hw.reach.tail ⟨i, a, ha, hst⟩
  rcases eq_or_ne i g with rfl | hig
  · exact hw.step_gate hg₀ hm hr' (hi rfl)
  · exact hw.step_other hm hr' hig

/-- A run in which no OS call fails and the call does not leave the gate
keeps the segment. -/
theorem Segment.of_run (hw : Segment s₀ g s h)
    (hg₀ : s₀.pc g = .signal .readCount ∨ s₀.pc g = .broadcast .readCount)
    {l : List (Fin n × Action)} {r : State n × List (Fin n × Pc)}
    (hl : ∀ x ∈ l, x.2 ≠ .fail) (hr : run s l = some r)
    (hstay : ∀ x ∈ r.2, x.1 = g → x.2.callReturn = false) : Segment s₀ g r.1 (h ++ r.2) := by
  induction l generalizing s h r with
  | nil =>
    simp only [run, Option.some.injEq] at hr
    subst hr
    simpa using hw
  | cons x l ih =>
    obtain ⟨i, a⟩ := x
    simp only [run, Option.bind_eq_some, Option.map_eq_some'] at hr
    obtain ⟨s₁, h₁, r₁, hr₁, rfl⟩ := hr
    have hw₁ := hw.next hg₀ (hl _ (List.mem_cons_self _ _)) h₁
      fun hig => hig ▸ hstay (i, s.pc i) (List.mem_cons_self _ _) hig
    simpa using ih (r := r₁) hw₁ (fun y hy => hl y (List.mem_cons_of_mem _ hy)) hr₁
      fun y hy => hstay y (List.mem_cons_of_mem _ hy)

end Step

/-! ## The wave law -/

/-- **The wave law.** Let a signal or broadcast `g` enter the gate in a
reachable state `s₀`; the waiters it finds are those counted in `s₀` and not
yet past the semaphore. Along any run from `s₀` in which no OS call fails
and `g` keeps the gate, up to the moment it is about to leave it: only
waiters it found pass the semaphore, each once, and those that store their
decrement are exactly those that passed. If it found none, nothing of the
condition variable has changed; a signal has let exactly one of them
through and the others still wait at the semaphore; a broadcast has let
all of them through. -/
theorem wave_law {s₀ s : State n} {g : Fin n} {l : List (Fin n × Action)}
    {h : List (Fin n × Pc)} (hr : Reachable s₀)
    (hg : s₀.pc g = .signal .readCount ∨ s₀.pc g = .broadcast .readCount)
    (hl : ∀ x ∈ l, x.2 ≠ .fail) (hrun : run s₀ l = some (s, h))
    (hstay : ∀ x ∈ h, x.1 = g → x.2.callReturn = false) (hend : (s.pc g).callReturn = true) :
    (∀ j ∈ passers h, (s₀.pc j).enrolled = true) ∧ (passers h).Nodup ∧
    (decrementers h).Perm (passers h) ∧
    (census Pc.enrolled s₀.pc = 0 → passers h = [] ∧ s.cond = s₀.cond) ∧
    (s₀.pc g = .signal .readCount → 0 < census Pc.enrolled s₀.pc →
      ∃ j, passers h = [j] ∧ ∀ k, (s₀.pc k).enrolled = true → k ≠ j → s.pc k = .wait .semWait) ∧
    (s₀.pc g = .broadcast .readCount → ∀ j, (s₀.pc j).enrolled = true → j ∈ passers h) := by
  have hw := (Segment.init hr hg).of_run hg hl hrun hstay
  simp only [List.nil_append] at hw
  have hs := hw.reach.inv
  have hq := hs.quiet_of_wake hw.holder (by
    rcases Pc.callReturn_cases hend with ⟨r, hp⟩ | ⟨r, hp⟩ <;> simp [hp, Pc.inFlight])
  have hperm : (decrementers h).Perm (passers h) :=
    (List.perm_ext_iff_of_nodup hw.nodupD hw.nodup).2 fun j => by
      simpa [census_eq_zero.1 hq.passed_eq_zero j] using hw.decr j
  have htok := hw.tokens
  rw [hq.1, zero_add] at htok
  refine ⟨hw.passer, hw.nodup, hperm, fun hk => ⟨?_, hw.still hk⟩, fun hsig hk => ?_,
    fun hbc j hj => ?_⟩
  · rw [hk, Pc.waveTokens_zero] at htok
    exact List.eq_nil_of_length_eq_zero htok
  · obtain ⟨r, hp⟩ : ∃ r, s.pc g = .signal (.leaveWake r) := by
      rcases Pc.callReturn_cases hend with ⟨r, hp⟩ | ⟨r, hp⟩
      · exact ⟨r, hp⟩
      · have := hw.kind.1
        rw [hp, hsig] at this
        cases this
    rw [hp] at htok
    obtain ⟨j, hj⟩ := List.length_eq_one.1 (htok.trans (by simp [Pc.waveTokens]; omega))
    refine ⟨j, hj, fun k hk hkj => ?_⟩
    rcases hw.enrolled k hk with h' | h'
    · exact Pc.eq_semWait_of_waiting h'
    · rw [hj, List.mem_singleton] at h'
      exact absurd h' hkj
  · obtain ⟨r, hp⟩ : ∃ r, s.pc g = .broadcast (.leaveWake r) := by
      rcases Pc.callReturn_cases hend with ⟨r, hp⟩ | ⟨r, hp⟩
      · have := hw.kind.2
        rw [hp, hbc] at this
        cases this
      · exact ⟨r, hp⟩
    rw [hp] at htok
    have hsub : (passers h).toFinset ⊆ Finset.univ.filter fun j => (s₀.pc j).enrolled = true :=
      fun j hj => by simpa using hw.passer j (List.mem_toFinset.1 hj)
    have hcard : (Finset.univ.filter fun j => (s₀.pc j).enrolled = true).card ≤
        (passers h).toFinset.card := by
      rw [List.toFinset_card_of_nodup hw.nodup, htok]
      simp [Pc.waveTokens, census]
    rw [← List.mem_toFinset, Finset.eq_of_subset_of_card_le hsub hcard]
    simpa using hj

/-- Two waiters block at the semaphore, then a signal enters the gate. -/
def signalEnters : List (Fin 3 × Action) :=
  [(0, .lock), (0, .callWait), (0, .run), (0, .run), (0, .run), (0, .run), (0, .run),
   (1, .lock), (1, .callWait), (1, .run), (1, .run), (1, .run), (1, .run), (1, .run),
   (2, .callSignal), (2, .run)]

/-- The state `signalEnters` leads to. -/
def signalEntered : State 3 :=
  ((run (State.init 3) signalEnters).map Prod.fst).getD (State.init 3)

/-- The signal releases its token, waiter 0 takes it and drains, and the
signal's wait on the drain event returns. -/
def signalWave : List (Fin 3 × Action) :=
  [(2, .run), (2, .run), (0, .run), (0, .run), (0, .run), (0, .run), (0, .run), (0, .run),
   (0, .run), (2, .run)]

theorem wave_law_signal_two_waiters :
    ∃ h₀ s h, run (State.init 3) signalEnters = some (signalEntered, h₀) ∧
      run signalEntered signalWave = some (s, h) ∧
      ∃ j, passers h = [j] ∧
        ∀ k, (signalEntered.pc k).enrolled = true → k ≠ j → s.pc k = .wait .semWait := by
  have hr₀ : run (State.init 3) signalEnters = some (signalEntered, _) := rfl
  have hr : run signalEntered signalWave = some _ := rfl
  have hreach : Reachable signalEntered := Reachable.run .refl (by decide) hr₀
  have hg : signalEntered.pc 2 = .signal .readCount ∨ signalEntered.pc 2 = .broadcast .readCount :=
    .inl rfl
  have hw := wave_law hreach hg (by decide) hr (by decide) rfl
  exact ⟨_, _, _, hr₀, hr, hw.2.2.2.2.1 rfl (by decide)⟩

end Amp
