import ManifestPolicy.Proofs.ScheduleSound

/-!
# The turns of a gathering

`gather` gives the first run of the queue its turn, over and over, for a
number of turns that is fixed beforehand. Two things are shown of this. It is
one of the orders of `ReachesInOrder`: of two runs in the queue that have not
begun, the one with the smaller number stands first, for the runs are put
there in order and a run that comes back to the queue has begun. And the
number of turns is enough: `turnsLeft` bounds from above how many turns the
runs can still have, every turn lowers it, and the bound for a run that has
not begun is the number that `gather` grants each.
-/

namespace ManifestPolicy

open Schedule

/-- How many turns a run can still have at most. -/
def Task.turnsLeft : Task → Nat
  | .new => turnsOfRun
  | .queued => turnsOfRun - 1
  | .calling turns _ wait => max turns 1 + callTurns * (wait.calls - 1)
  | .refused _ | .ended _ | .broken _ => 0

namespace Validator

theorem calls_pos (wait : Wait) : 0 < wait.calls := by
  cases wait <;> exact Nat.succ_pos _

theorem calls_start_le (v : Validator) (q : Request) (s : Session) :
    (v.start q s).2.calls ≤ 3 := by
  unfold start
  split
  · exact Nat.zero_le _
  · exact Nat.le_trans (calls_judge_le ..) (by decide)
  · split
    · exact Nat.le_refl _
    · exact Nat.le_trans (calls_fallBack_le ..) (by decide)

end Validator

namespace Schedule

variable {v : Validator} {c c' : Schedule} {n : Nat} {q : Request} {qs : List Request}
  {s : Session} {t t' : Task}

/-- How many turns the runs of a schedule can still have at most. -/
def turnsLeft (c : Schedule) : Nat := c.tasks.foldr (fun p n => p.2.turnsLeft + n) 0

/-- Where a run stands has nothing to do with its request. -/
theorem map_fst_modify (tasks : List (Request × Task)) (n : Nat) (t : Task) :
    (tasks.modify n fun p => (p.1, t)).map Prod.fst = tasks.map Prod.fst := by
  refine List.ext_getElem? fun i => ?_
  rw [List.getElem?_map, List.getElem?_map]
  by_cases hi : i = n
  · subst hi
    rw [List.getElem?_modify_eq]
    cases tasks[i]? <;> rfl
  · rw [List.getElem?_modify_ne _ _ (Ne.symm hi)]

theorem turnsLeft_modify (h : c.tasks[n]? = some (q, t))
    (htasks : c'.tasks = c.tasks.modify n fun p => (p.1, t'))
    (hlt : t'.turnsLeft < t.turnsLeft) : c'.turnsLeft < c.turnsLeft := by
  have hsum : ∀ (tasks : List (Request × Task)) (n : Nat), tasks[n]? = some (q, t) →
      (tasks.modify n fun p => (p.1, t')).foldr (fun p n => p.2.turnsLeft + n) 0 <
        tasks.foldr (fun p n => p.2.turnsLeft + n) 0 := by
    intro tasks
    induction tasks with
    | nil => intro n h; cases h
    | cons p rest ih =>
        intro n h
        cases n with
        | zero =>
            injection h with h
            subst h
            simp only [List.modify_zero_cons, List.foldr_cons]
            omega
        | succ n =>
            have := ih n h
            simp only [List.modify_succ_cons, List.foldr_cons]
            omega
  rw [turnsLeft, htasks]
  exact hsum c.tasks n h

/-- A run that went on can have as many turns as its calls still take. -/
theorem advance_tasks (hs : v.settings.serialize = true) (c : Schedule) (n : Nat) (q : Request)
    (p : Session × Progress) :
    ∃ t, (c.advance v n q p).tasks = c.tasks.modify n (fun p => (p.1, t)) ∧
      t.turnsLeft = callTurns * p.2.calls := by
  obtain ⟨s, prog⟩ := p
  cases prog with
  | asking call wait =>
      refine ⟨.calling callTurns (s.dial call).2 wait, rfl, ?_⟩
      have := Validator.calls_pos wait
      simp only [Task.turnsLeft, Progress.calls, callTurns]
      omega
  | ended r =>
      refine ⟨Task.ofOutcome (v.handOver r), by rw [advance_ended hs], ?_⟩
      cases v.handOver r <;> rfl

theorem Sound.turnsLeft_turnOf (h : c.Sound) (hs : v.settings.serialize = true)
    (hq : n ∈ c.queue) : (c.turnOf v n).turnsLeft < c.turnsLeft := by
  obtain ⟨q, ht⟩ := h.turned hs hq
  generalize c.turnOf v n = c' at ht ⊢
  cases ht with
  | refused task _ => exact turnsLeft_modify task rfl (Nat.succ_pos _)
  | waited task _ _ => exact turnsLeft_modify task rfl (by decide)
  | @entered stood task may _ =>
      obtain ⟨t', htasks, hleft⟩ := advance_tasks hs ((c.called n).take n (c.workspaceOf q)) n q
        (v.start q c.session)
      refine turnsLeft_modify task htasks ?_
      have hcalls := v.calls_start_le q c.session
      obtain ⟨ph, hp, hph⟩ := may.place
      rw [places_of_task task] at hp
      injection hp with hp
      injection hp with _ hp
      rw [← hp] at hph
      rw [hleft]
      cases stood with
      | new => simp only [Task.turnsLeft, turnsOfRun, callTurns]; omega
      | queued => simp only [Task.turnsLeft, turnsOfRun, callTurns]; omega
      | calling => rcases hph with e | e <;> cases e
      | refused => rcases hph with e | e <;> cases e
      | ended => rcases hph with e | e <;> cases e
      | broken => rcases hph with e | e <;> cases e
  | @ticked turns reply wait task =>
      refine turnsLeft_modify task rfl ?_
      simp only [Task.turnsLeft]
      omega
  | @resumed turns reply wait task now =>
      obtain ⟨t', htasks, hleft⟩ := advance_tasks hs (c.called n) n q
        (v.resume q wait reply.answer (c.session.settle reply))
      refine turnsLeft_modify task htasks ?_
      have hcalls := v.calls_resume_lt q wait reply.answer (c.session.settle reply)
      rw [hleft]
      simp only [Task.turnsLeft, callTurns]
      omega

/-! ## The first of the queue -/

/-- Of two runs in the queue that have not begun, the one with the smaller
number stands first. -/
def Newcomers (P : Places) (queue : List Nat) : Prop :=
  queue.Pairwise fun i j => ∀ w w', P i = some (w, .new) → P j = some (w', .new) → i < j

/-- Nobody becomes new, and those who come to the queue are not. -/
theorem Newcomers.change {P P' : Places} {queue queue' added : List Nat}
    (h : Newcomers P queue) (hsub : queue'.Sublist queue)
    (hnew : ∀ m w, P' m = some (w, .new) → P m = some (w, .new))
    (hadded : ∀ m ∈ added, ∀ w, P' m ≠ some (w, .new)) : Newcomers P' (queue' ++ added) := by
  refine List.pairwise_append.2 ⟨?_, ?_, ?_⟩
  · exact (List.Pairwise.sublist hsub h).imp fun hij w w' hi hj =>
      hij w w' (hnew _ _ hi) (hnew _ _ hj)
  · exact List.pairwise_of_forall_mem_list fun i hi j _ w _ hp => absurd hp (hadded i hi w)
  · exact fun i _ j hj w w' _ hp => absurd hp (hadded j hj w')

theorem new_of_set {P : Places} {w w' : Location} {ph : Phase} (hph : ph ≠ .new) {m : Nat}
    (h : P.set n w ph m = some (w', .new)) : P m = some (w', .new) := by
  by_cases e : m = n
  · subst e
    rw [Places.set_self] at h
    injection h with h
    injection h with _ h
    exact absurd h hph
  · rwa [Places.set_of_ne _ _ _ e] at h

theorem not_new_set {P : Places} {w w' : Location} {ph : Phase} (hph : ph ≠ .new) :
    P.set n w ph n ≠ some (w', .new) := by
  rw [Places.set_self]
  intro h
  injection h with h
  injection h with _ h
  exact hph h

theorem Holding.newcomers (h : c.Holding n q) (hs : v.settings.serialize = true)
    (hn : Newcomers c.places c.queue) {p : Session × Progress}
    (hhere : p.1.files.base = c.session.files.base) :
    Newcomers (c.advance v n q p).places (c.advance v n q p).queue := by
  have hinside := @new_of_set n c.places (c.workspaceOf q)
  rcases h.advance hs hhere with ⟨_, _, _, hplaces, _, hqueue⟩ | ⟨_, _, hplaces, _, hqueue⟩
  · rw [hplaces, hqueue]
    refine hn.change (.refl _) (fun m w hm => new_of_set (by simp) hm) fun m hm w => ?_
    rw [List.mem_singleton.1 hm]
    exact not_new_set (by simp)
  · rw [hplaces, hqueue, Places.set_set]
    refine hn.change (.refl _) (fun m w hm => new_of_set (by simp) hm) fun m hm w hp => ?_
    -- Who gets the lock next was queued.
    have hw := h.disciplined.mem_waiting.1 (List.mem_of_mem_head? (Option.mem_toList.1 hm))
    have hnew : c.places m = some (w, .new) := new_of_set (by simp) hp
    by_cases e : m = n
    · rw [e, Places.set_self] at hw; cases hw
    · rw [Places.set_of_ne _ _ _ e, hnew] at hw; cases hw

theorem Sound.newcomers_turnOf (h : c.Sound) (hs : v.settings.serialize = true)
    (hn : Newcomers c.places c.queue) (hq : n ∈ c.queue) :
    Newcomers (c.turnOf v n).places (c.turnOf v n).queue := by
  have called : Newcomers (c.called n).places (c.called n).queue :=
    hn.sublist List.erase_sublist
  have stays (ph : Phase) (w : Location) (hph : ph ≠ .new) :
      Newcomers (c.places.set n w ph) (c.called n).queue := by
    rw [← List.append_nil (c.called n).queue]
    exact hn.change List.erase_sublist (fun m w hm => new_of_set hph hm) (by simp)
  obtain ⟨q, ht⟩ := h.turned hs hq
  generalize c.turnOf v n = c' at ht ⊢
  cases ht with
  | @refused e task _ =>
      have hplaces := places_setTask task (.refused e)
      have hd := stays .refused (c.workspaceOf q) (by simp)
      rw [show c.places.set n (c.workspaceOf q) .refused = _ from hplaces.symm] at hd
      exact hd
  | waited task _ _ =>
      have hplaces := places_setTask task .queued
      have hd := stays .queued (c.workspaceOf q) (by simp)
      rw [show c.places.set n (c.workspaceOf q) .queued = _ from hplaces.symm] at hd
      exact hd
  | entered task may named =>
      exact (h.holding_take hq task may named).newcomers hs called
        (v.start_acts q c.session).files.base_eq
  | @ticked turns reply wait task =>
      have hplaces : (c.setTask n (.calling (turns + 1) reply wait)).places = c.places :=
        places_setTask_self task rfl
      refine hn.change List.erase_sublist (fun m w hm => ?_) fun m hm w hp => ?_
      · rw [← hplaces]; exact hm
      · rw [List.mem_singleton.1 hm] at hp
        have hp : (c.setTask n (.calling (turns + 1) reply wait)).places n = some (w, .new) := hp
        rw [hplaces, places_of_task task] at hp
        cases hp
  | resumed task now =>
      exact (h.holding_called hq task rfl).newcomers hs called
        (base_resume v q _ _ c.session)

/-- The first run of the queue is one whose turn it is. -/
theorem Sound.inTurn_head (h : c.Sound) (hn : Newcomers c.places c.queue)
    (hq : c.queue.head? = some n) : c.InTurn n where
  mem := List.mem_of_mem_head? hq
  first {m q q'} hm task task' := by
    obtain ⟨rest, hrest⟩ := List.head?_eq_some_iff.1 hq
    have place := places_of_task task
    have place' := places_of_task task'
    have hmem := h.disciplined.mem_queue.2 ⟨_, _, place', trivial⟩
    rw [hrest] at hmem hn
    rcases List.mem_cons.1 hmem with e | hmem
    · omega
    · have := List.rel_of_pairwise_cons hn hmem _ _ place place'
      omega

/-! ## All turns -/

/-- A number of turns of the first runs of the queue. -/
theorem Sound.reaches_turns (hc : c.Sound) (hs : v.settings.serialize = true)
    (hn : Newcomers c.places c.queue) (k : Nat) : ReachesInOrder v c (turns v k c) := by
  have further : ∀ (k : Nat) (c' : Schedule), ReachesInOrder v c c' → c'.Sound →
      Newcomers c'.places c'.queue → ReachesInOrder v c (turns v k c') := by
    intro k
    induction k with
    | zero => intro c' hr _ _; exact hr
    | succ k ih =>
        intro c' hr hc' hn'
        rw [turns]
        cases hq : c'.queue.head? with
        | none => rw [turn, hq]; exact ih c' hr hc' hn'
        | some n =>
            have hin := hc'.inTurn_head hn' hq
            rw [turn, hq]
            exact ih _ (hr.turn hin) (hc'.turnOf hs hin.mem)
              (hc'.newcomers_turnOf hs hn' hin.mem)
  exact further k c .refl hc hn

theorem turns_of_queue_nil (k : Nat) (hq : c.queue = []) : turns v k c = c := by
  induction k with
  | zero => rfl
  | succ k ih => rw [turns, turn, hq]; exact ih

/-- Given as many turns as there can be, nobody is left to take one. -/
theorem Sound.turns_queue_nil (hc : c.Sound) (hs : v.settings.serialize = true) {k : Nat}
    (hk : c.turnsLeft ≤ k) : (turns v k c).queue = [] := by
  induction k generalizing c with
  | zero =>
      cases hq : c.queue with
      | nil => exact hq
      | cons n rest =>
          have := hc.turnsLeft_turnOf hs (n := n) (by rw [hq]; exact List.mem_cons_self)
          omega
  | succ k ih =>
      rw [turns]
      cases hq : c.queue with
      | nil =>
          rw [turn, hq]
          exact (congrArg queue (turns_of_queue_nil k hq)).trans hq
      | cons n rest =>
          have hmem : n ∈ c.queue := by rw [hq]; exact List.mem_cons_self
          have := hc.turnsLeft_turnOf hs hmem
          rw [show c.turn v = c.turnOf v n by rw [turn, hq]; rfl]
          exact ih (hc.turnOf hs hmem) (by omega)

theorem turnsLeft_ofRequests (s : Session) (locks : List Lock) (qs : List Request) :
    (ofRequests s locks qs).turnsLeft = turnsOfRun * qs.length := by
  rw [turnsLeft, show (ofRequests s locks qs).tasks = qs.map fun q => (q, Task.new) from rfl]
  induction qs with
  | nil => rfl
  | cons q qs ih =>
      rw [List.map_cons, List.foldr_cons, ih, List.length_cons, Nat.mul_succ, Nat.add_comm]
      rfl

theorem newcomers_ofRequests (s : Session) (locks : List Lock) (qs : List Request) :
    Newcomers (ofRequests s locks qs).places (ofRequests s locks qs).queue :=
  List.pairwise_lt_range.imp fun hij _ _ _ _ => hij

/-- Up to any of its turns, a gathering lets the runs begin in order. -/
theorem reaches_turns_ofRequests {locks : List Lock} (h : Idle locks)
    (hs : v.settings.serialize = true) (s : Session) (qs : List Request) (k : Nat) :
    ReachesInOrder v (ofRequests s locks qs) (turns v k (ofRequests s locks qs)) :=
  (sound_ofRequests h s qs).reaches_turns hs (newcomers_ofRequests s locks qs) k

/-- A gathering leaves nobody behind who could go on. -/
theorem gather_queue_nil {locks : List Lock} (h : Idle locks)
    (hs : v.settings.serialize = true) (s : Session) (qs : List Request) :
    (gather v s locks qs).queue = [] :=
  (sound_ofRequests h s qs).turns_queue_nil hs (Nat.le_of_eq (turnsLeft_ofRequests s locks qs))

end Schedule

end ManifestPolicy
