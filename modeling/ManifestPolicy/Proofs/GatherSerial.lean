import ManifestPolicy.Proofs.GatherTurns
import ManifestPolicy.Proofs.InputsKept

/-!
# Runs in one workspace take place one after another

If runs in one workspace wait for each other, then taking turns comes to the
same as running every request to its end before the next one begins: the
same results in the same order, the same calls and notices, the same files.
The simulation that shows it, `Follows`, counts the runs that are over. As
many have ended as `runEach` would have ended them; the session is the one
that `runEach` would have reached, or else the next run has the lock, and
what is left of it leads from here to where it would have led alone.

Nothing of this hangs on the order of turns, beyond that runs begin in the
order of their requests. `gather` is one such order, and leaves nobody behind.
-/

namespace ManifestPolicy

open Schedule

/-- Runs the requests one after another. -/
def Validator.runEach (v : Validator) : Session → List Request →
    Session × List (Except Trouble Result)
  | s, [] => (s, [])
  | s, q :: qs =>
    let ran := v.run q s
    let rest := runEach v ran.1 qs
    (rest.1, ran.2 :: rest.2)

/-- What is left of a run once the call it waits for is over. -/
def Validator.goOn (v : Validator) (q : Request) (wait : Wait) (reply : Reply) (s : Session) :
    Session × Result :=
  let resumed := v.resume q wait reply.answer (s.settle reply)
  v.finish q resumed.1 resumed.2

namespace Validator

variable {v : Validator} {q : Request} {qs : List Request} {s : Session}

theorem finish_asking (v : Validator) (q : Request) (s : Session) (call : Call) (wait : Wait) :
    v.finish q s (.asking call wait) = v.goOn q wait (s.dial call).2 (s.dial call).1 := by
  rw [finish]
  rfl

/-- A run leaves in place what paths start from. -/
theorem base_run (v : Validator) (q : Request) (s : Session) :
    FileSystem.base (v.run q s).1.files = s.files.base :=
  run_keeps (I := fun fs => fs.base = s.files.base) rfl
    (fun _ _ w _ fs h => (fs.base_plant w.2 w.1 []).trans h)
    fun _ _ _ _ _ hframe h => hframe.base_eq.trans h

theorem length_runEach (v : Validator) (s : Session) (qs : List Request) :
    (v.runEach s qs).2.length = qs.length := by
  induction qs generalizing s with
  | nil => rfl
  | cons q qs ih => simp only [runEach, List.length_cons, ih]

/-- The session after the first runs. -/
def after (v : Validator) (s : Session) (qs : List Request) (k : Nat) : Session :=
  (v.runEach s (qs.take k)).1

theorem after_succ {k : Nat} (h : qs[k]? = some q) :
    v.after s qs (k + 1) = (v.run q (v.after s qs k)).1 := by
  induction qs generalizing s k with
  | nil => cases h
  | cons p qs ih =>
      cases k with
      | zero =>
          injection h with h
          subst h
          rfl
      | succ k => exact ih h

theorem base_after (v : Validator) (s : Session) (qs : List Request) (k : Nat) :
    (v.after s qs k).files.base = s.files.base := by
  have each : ∀ (qs : List Request) (s : Session),
      (v.runEach s qs).1.files.base = s.files.base := by
    intro qs
    induction qs with
    | nil => exact fun _ => rfl
    | cons q qs ih => exact fun s => (ih (v.run q s).1).trans (v.base_run q s)
  exact each (qs.take k) s

theorem runEach_getElem? {k : Nat} (h : qs[k]? = some q) :
    (v.runEach s qs).2[k]? = some (v.run q (v.after s qs k)).2 := by
  induction qs generalizing s k with
  | nil => cases h
  | cons p qs ih =>
      cases k with
      | zero =>
          injection h with h
          subst h
          rfl
      | succ k => exact ih h

end Validator

namespace Schedule

variable {v : Validator} {c c' : Schedule} {n k : Nat} {q : Request} {qs : List Request}
  {s : Session} {w : Location}

/-! ## The simulation -/

/-- So many runs are over, each as if it had been run by itself, and the
others are not. -/
structure Settled (v : Validator) (s : Session) (qs : List Request)
    (tasks : List (Request × Task)) (k : Nat) : Prop where
  requests : tasks.map Prod.fst = qs
  finished {i : Nat} {q : Request} {t : Task} : i < k → tasks[i]? = some (q, t) →
    ∃ o, (v.runEach s qs).2[i]? = some o ∧ t = Task.ofOutcome o
  unfinished {i : Nat} {q : Request} {t : Task} : k ≤ i → tasks[i]? = some (q, t) →
    t.phase ≠ .released ∧ t.phase ≠ .refused

namespace Settled

variable {tasks : List (Request × Task)} {t : Task}

theorem request (h : Settled v s qs tasks k) (ht : tasks[n]? = some (q, t)) :
    qs[n]? = some q := by
  rw [← h.requests, List.getElem?_map, ht]
  rfl

theorem requests_modify (h : Settled v s qs tasks k) (n : Nat) (t : Task) :
    (tasks.modify n fun p => (p.1, t)).map Prod.fst = qs := by
  rw [map_fst_modify, h.requests]

/-- A run that is over stays as it ended; another one may go on. -/
theorem goesOn (h : Settled v s qs tasks k) (hn : k ≤ n)
    (ht : t.phase ≠ .released ∧ t.phase ≠ .refused) :
    Settled v s qs (tasks.modify n fun p => (p.1, t)) k where
  requests := h.requests_modify n t
  finished {i q' t'} hi hm := by
    rw [List.getElem?_modify_ne _ _ (by omega)] at hm
    exact h.finished hi hm
  unfinished {i q' t'} hi hm := by
    by_cases e : i = n
    · subst e
      rw [List.getElem?_modify_eq, Option.map_eq_map, Option.map_eq_some_iff] at hm
      obtain ⟨p, _, hp⟩ := hm
      injection hp with _ hp
      rw [← hp]
      exact ht
    · rw [List.getElem?_modify_ne _ _ (Ne.symm e)] at hm
      exact h.unfinished hi hm

/-- The first run that is not over ends. -/
theorem ends (h : Settled v s qs tasks k) {o : Except Trouble Result}
    (ho : (v.runEach s qs).2[k]? = some o) :
    Settled v s qs (tasks.modify k fun p => (p.1, Task.ofOutcome o)) (k + 1) where
  requests := h.requests_modify k _
  finished {i q' t'} hi hm := by
    by_cases e : i = k
    · subst e
      rw [List.getElem?_modify_eq, Option.map_eq_map, Option.map_eq_some_iff] at hm
      obtain ⟨p, _, hp⟩ := hm
      injection hp with _ hp
      exact ⟨o, ho, hp.symm⟩
    · rw [List.getElem?_modify_ne _ _ (Ne.symm e)] at hm
      exact h.finished (by omega) hm
  unfinished {i q' t'} hi hm := by
    rw [List.getElem?_modify_ne _ _ (by omega)] at hm
    exact h.unfinished (by omega) hm

/-- When all runs are over, they ended as if each had been run by itself. -/
theorem tasks_eq (h : Settled v s qs tasks k) (hk : qs.length ≤ k) :
    tasks = qs.zip ((v.runEach s qs).2.map Task.ofOutcome) := by
  have hlen : tasks.length = qs.length := by
    rw [← h.requests, List.length_map]
  refine List.ext_getElem? fun i => ?_
  rcases Nat.lt_or_ge i qs.length with hi | hi
  · obtain ⟨⟨q, t⟩, hget⟩ : ∃ p, tasks[i]? = some p :=
      ⟨_, List.getElem?_eq_getElem (by omega)⟩
    obtain ⟨o, ho, hto⟩ := h.finished (by omega) hget
    have hzip : (qs.zip ((v.runEach s qs).2.map Task.ofOutcome))[i]? = some (q, t) :=
      List.getElem?_zip_eq_some.2 ⟨h.request hget, by rw [List.getElem?_map, ho, hto]; rfl⟩
    rw [hget, hzip]
  · rw [List.getElem?_eq_none (by omega), List.getElem?_eq_none (by
      rw [List.length_zip]; omega)]

end Settled

/-- A schedule in which so many runs are over. Either nobody has the lock, and
the session is the one between two runs, or the next run has it, and what is
left of it leads to where it would have led alone. -/
structure Follows (v : Validator) (s : Session) (qs : List Request) (w : Location)
    (c : Schedule) (k : Nat) : Prop where
  settled : Settled v s qs c.tasks k
  home : c.session.files.base = s.files.base
  between : (lockOf w c.locks).held = false ∧ c.session = v.after s qs k ∧
      c.session.active = s.active ∨
    ∃ q turns reply wait, c.tasks[k]? = some (q, .calling turns reply wait) ∧
      v.goOn q wait reply c.session = v.conclude q (v.after s qs k) ∧
      c.session.active = s.active + 1
  peak : c.session.peak ≤ max s.peak (s.active + 1)

namespace Follows

/-- Every run that there is names the one workspace. -/
theorem workspaceOf_eq (h : Follows v s qs w c k)
    (hsame : ∀ q ∈ qs, s.files.resolve q.workspace = .ok w) {t : Task}
    (ht : c.tasks[n]? = some (q, t)) : c.Names q ∧ c.workspaceOf q = w := by
  have hq := hsame q (List.mem_of_getElem? (h.settled.request ht))
  refine ⟨⟨w, (FileSystem.resolve_congr h.home _).trans hq⟩, ?_⟩
  rw [workspaceOf, h.home]
  exact (FileSystem.resolve_ok_iff.1 hq).2.2

/-- Only the next run can be in a call, and what is left of it is known. -/
theorem calling (h : Follows v s qs w c k) (hc : c.Sound)
    (hsame : ∀ q ∈ qs, s.files.resolve q.workspace = .ok w) {turns : Nat} {reply : Reply}
    {wait : Wait} (task : c.tasks[n]? = some (q, .calling turns reply wait)) :
    k = n ∧ v.goOn q wait reply c.session = v.conclude q (v.after s qs k) ∧
      c.session.active = s.active + 1 := by
  have inside {m : Nat} {q : Request} {turns : Nat} {reply : Reply} {wait : Wait}
      (hm : c.tasks[m]? = some (q, .calling turns reply wait)) :
      c.places m = some (w, .inside) := by
    rw [places_of_task hm, (h.workspaceOf_eq hsame hm).2]
    rfl
  rcases h.between with ⟨hfree, _⟩ | ⟨q', turns', reply', wait', hk, hgo, hact⟩
  · rw [hc.disciplined.held (inside task)] at hfree; cases hfree
  · have hkn : k = n := hc.disciplined.inside_unique (inside hk) (inside task)
    subst hkn
    rw [task] at hk
    cases hk
    exact ⟨rfl, hgo, hact⟩

theorem outside (h : Follows v s qs w c k) (hc : c.Sound)
    (hsame : ∀ q ∈ qs, s.files.resolve q.workspace = .ok w)
    (hfree : (lockOf w c.locks).held = false) :
    c.session = v.after s qs k ∧ c.session.active = s.active := by
  rcases h.between with ⟨_, hb⟩ | ⟨q, _, _, _, ht, _⟩
  · exact hb
  · refine absurd ?_ (hc.disciplined.not_inside (n := k) hfree)
    rw [places_of_task ht, (h.workspaceOf_eq hsame ht).2]
    rfl

/-- The next run goes on, with the lock and from a session that leads to where
it would have led alone: then it is under way still, or it is over. -/
theorem advance (h : Follows v s qs w c k) {c' : Schedule} (hold : c'.Holding k q)
    (hs : v.settings.serialize = true) (htasks : c'.tasks = c.tasks)
    (hq : qs[k]? = some q) (hw : c'.workspaceOf q = w) {p : Session × Progress}
    (hhere : p.1.files.base = c'.session.files.base)
    (home : c'.session.files.base = s.files.base)
    (alone : v.finish q p.1 p.2 = v.conclude q (v.after s qs k))
    (active : p.1.active = s.active) (peak : p.1.peak ≤ max s.peak (s.active + 1)) :
    ∃ k', Follows v s qs w (c'.advance v k q p) k' := by
  obtain ⟨⟨t₀, ht₀⟩, ⟨l, hl⟩, _, _⟩ := hold
  have hhome := ((base_advance hs c' k q p).trans hhere).trans home
  obtain ⟨s', prog⟩ := p
  cases prog with
  | asking call wait =>
      refine ⟨k, ?_, hhome, .inr ⟨q, callTurns, (s'.dial call).2, wait, ?_, ?_, ?_⟩, ?_⟩
      · rw [advance_asking, htasks]
        exact h.settled.goesOn (Nat.le_refl k) ⟨by simp [Task.phase], by simp [Task.phase]⟩
      · rw [advance_asking]
        exact getElem?_modify_self ht₀ _
      · rw [← alone, Validator.finish_asking]
        rfl
      · rw [advance_asking, Session.dial_eq]
        exact congrArg (· + 1) active
      · rw [advance_asking, Session.dial_eq]
        show max s'.peak (s'.active + 1) ≤ max s.peak (s.active + 1)
        have : s'.active = s.active := active
        have : s'.peak ≤ max s.peak (s.active + 1) := peak
        omega
  | ended r =>
      have hnamed : v.refusal? q (v.after s qs k).files = none := by
        refine Validator.refusal?_eq_none_iff.2 fun _ => ⟨l, ?_⟩
        rw [FileSystem.resolve_congr ((v.base_after s qs k).trans home.symm)]
        exact hl
      have hrun := Validator.run_of_named hnamed
      rw [← alone, Validator.finish_ended] at hrun
      have hout := Validator.runEach_getElem? (v := v) (s := s) hq
      rw [hrun] at hout
      refine ⟨k + 1, ?_, hhome, .inl ⟨?_, ?_, ?_⟩, ?_⟩
      · rw [advance_ended hs, htasks]
        exact h.settled.ends hout
      · have hl : q.workspace.locationFrom s'.files.base.here = w := by
          rw [← hw, workspaceOf]
          exact congrArg (fun base => q.workspace.locationFrom base.here) hhere
        rw [advance_ended hs, hl, lockOf_onLock Lock.leave fun _ => rfl, if_pos rfl]
        rfl
      · rw [advance_ended hs, Validator.after_succ hq, hrun]
      · rw [advance_ended hs]; exact active
      · rw [advance_ended hs]; exact peak

/-- A run that is not over has a number from that of the next run on. -/
theorem le_of_place (h : Follows v s qs w c k) {t : Task} (ht : c.tasks[n]? = some (q, t))
    (hph : t.phase ≠ .released) : k ≤ n := by
  rcases Nat.lt_or_ge n k with hlt | hge
  · obtain ⟨o, _, rfl⟩ := h.settled.finished hlt ht
    exact absurd (Task.phase_ofOutcome o) hph
  · exact hge

/-- Another turn, whoever's it is. -/
theorem turnOf (h : Follows v s qs w c k) (hc : c.Sound) (ho : Ordered c.places c.locks)
    (hs : v.settings.serialize = true)
    (hsame : ∀ q ∈ qs, s.files.resolve q.workspace = .ok w) (hn : c.InTurn n) :
    ∃ k', Follows v s qs w (c.turnOf v n) k' := by
  obtain ⟨q, ht⟩ := hc.turned hs hn.mem
  generalize c.turnOf v n = c' at ht ⊢
  cases ht with
  | refused task unnamed => exact absurd (h.workspaceOf_eq hsame task).1 unnamed
  | waited task busy named =>
      obtain ⟨_, hw⟩ := h.workspaceOf_eq hsame task
      have hk := h.le_of_place task (by simp [Task.phase])
      refine ⟨k, h.settled.goesOn hk ⟨by simp [Task.phase], by simp [Task.phase]⟩, h.home, ?_,
        h.peak⟩
      refine h.between.imp (fun hb => ⟨?_, hb.2⟩) ?_
      · rw [show ((c.called n).await n (c.workspaceOf q)).locks =
          onLock (c.workspaceOf q) (Lock.await n) c.locks from rfl, hw,
          lockOf_onLock (Lock.await n) fun _ => rfl, if_pos rfl]
        exact hb.1
      · rintro ⟨q', turns, reply, wait, hk', hb⟩
        refine ⟨q', turns, reply, wait, ?_, hb⟩
        have hne : n ≠ k := by
          intro e
          rw [e, hk'] at task
          cases task
        exact (List.getElem?_modify_ne _ _ hne).trans hk'
  | @entered stood task may named =>
      obtain ⟨_, hw⟩ := h.workspaceOf_eq hsame task
      have hold := hc.holding_take hn.mem task may named
      have hplace := places_of_task task
      obtain ⟨ph, hph, hnew⟩ := may.place
      have hstood : stood.phase ≠ .released := by
        rw [hplace] at hph
        injection hph with hph
        injection hph with _ hph
        rw [hph]
        rcases hnew with rfl | rfl <;> simp
      -- Those before it are over and it is not, so it is the next one.
      have hk := h.le_of_place task hstood
      have hkn : k = n := by
        rcases Nat.lt_or_ge k n with hlt | hge
        · obtain ⟨⟨q', t'⟩, ht'⟩ : ∃ p, c.tasks[k]? = some p :=
            ⟨_, List.getElem?_eq_getElem
              (Nat.lt_trans hlt (List.getElem?_eq_some_iff.1 task).1)⟩
          have hp := places_of_task ht'
          rw [(h.workspaceOf_eq hsame ht').2, ← hw] at hp
          have hover := ho.before_enter hc.disciplined may (hn.firstNew ho hplace) hlt hp
          have hun := h.settled.unfinished (Nat.le_refl k) ht'
          rcases hover with e | e
          · exact absurd e hun.1
          · exact absurd e hun.2
        · omega
      subst hkn
      rw [hw] at may
      obtain ⟨hsess, hact⟩ := h.outside hc hsame may.1
      have acts := v.start_acts q c.session
      refine h.advance hold hs rfl (h.settled.request task) ?_ acts.files.base_eq h.home ?_ ?_ ?_
      · exact hw
      · rw [hsess]; rfl
      · rw [acts.active_eq]; exact hact
      · rw [acts.peak_eq]; exact h.peak
  | @ticked turns reply wait task =>
      obtain ⟨rfl, hgo, hact⟩ := h.calling hc hsame task
      refine ⟨k, h.settled.goesOn (Nat.le_refl k) ⟨by simp [Task.phase], by simp [Task.phase]⟩,
        h.home, .inr ?_, h.peak⟩
      exact ⟨q, turns + 1, reply, wait, getElem?_modify_self task _, hgo, hact⟩
  | @resumed turns reply wait task now =>
      obtain ⟨rfl, hgo, hact⟩ := h.calling hc hsame task
      have acts := v.resume_acts q wait reply.answer (c.session.settle reply)
      refine h.advance (hc.holding_called hn.mem task rfl) hs rfl (h.settled.request task)
        (h.workspaceOf_eq hsame task).2 (base_resume v q wait reply c.session) h.home hgo ?_ ?_
      · rw [acts.active_eq]
        simp only [Session.settle, hact]
        omega
      · rw [acts.peak_eq]; exact h.peak

/-- At no time is there more than one call under way, of those that the runs
make. -/
theorem active_le (h : Follows v s qs w c k) : c.session.active ≤ s.active + 1 := by
  rcases h.between with ⟨_, _, hact⟩ | ⟨_, _, _, _, _, _, hact⟩ <;> omega

end Follows

/-- When nobody can go on any more, all is as if the runs had been alone. -/
theorem Follows.of_queue_nil (h : Follows v s qs w c k) (hc : c.Sound) (hq : c.queue = []) :
    c.session = (v.runEach s qs).1 ∧
      c.tasks = qs.zip ((v.runEach s qs).2.map Task.ofOutcome) := by
  have hlen : c.tasks.length = qs.length := by rw [← h.settled.requests, List.length_map]
  have hk : qs.length ≤ k := by
    rcases Nat.lt_or_ge k qs.length with hlt | hge
    · obtain ⟨⟨q, t⟩, ht⟩ : ∃ p, c.tasks[k]? = some p :=
        ⟨_, List.getElem?_eq_getElem (by omega)⟩
      have hun := h.settled.unfinished (Nat.le_refl k) ht
      rcases hc.released_of_queue_nil hq (places_of_task ht) with e | e
      · exact absurd e hun.1
      · exact absurd e hun.2
    · exact hge
  refine ⟨?_, h.settled.tasks_eq hk⟩
  rcases h.between with ⟨_, hsess, _⟩ | ⟨_, _, _, _, ht, _⟩
  · rw [hsess, Validator.after, List.take_of_length_le hk]
  · have := (List.getElem?_eq_some_iff.1 ht).1
    omega

theorem follows_ofRequests {locks : List Lock} (h : Idle locks) (v : Validator) (s : Session)
    (qs : List Request) (w : Location) : Follows v s qs w (ofRequests s locks qs) 0 where
  settled :=
    { requests := by
        rw [show (ofRequests s locks qs).tasks = qs.map fun q => (q, Task.new) from rfl,
          List.map_map]
        exact List.map_id qs
      finished := fun hi _ => absurd hi (by omega)
      unfinished := fun _ ht => by
        rw [(getElem?_ofRequests ht).2]
        exact ⟨by simp [Task.phase], by simp [Task.phase]⟩ }
  home := rfl
  between := .inl ⟨(h.lockOf w).1, rfl, rfl⟩
  peak := Nat.le_max_left _ _

/-- Every schedule that can be reached simulates the runs by themselves. -/
theorem ReachesInOrder.follows {locks : List Lock} (hidle : Idle locks)
    (hs : v.settings.serialize = true)
    (hsame : ∀ q ∈ qs, s.files.resolve q.workspace = .ok w)
    (h : ReachesInOrder v (ofRequests s locks qs) c) : ∃ k, Follows v s qs w c k := by
  have hsound := sound_ofRequests hidle s qs
  induction h with
  | refl => exact ⟨0, follows_ofRequests hidle v s qs w⟩
  | turn hr hn ih =>
      obtain ⟨k, hk⟩ := ih
      exact hk.turnOf (hr.reaches.sound hs hsound)
        (hr.ordered hs hsound (ordered_ofRequests hidle s qs)) hs hsame hn

/-! ## The gathering -/

/-- What is read off each task of a schedule, if it is the outcome of those
that have ended. -/
theorem filterMap_outcomes {f : Request × Task → Option (Except Trouble Result)}
    (hf : ∀ q o, f (q, Task.ofOutcome o) = some o) {outcomes : List (Except Trouble Result)}
    (hlen : outcomes.length = qs.length) :
    (qs.zip (outcomes.map Task.ofOutcome)).filterMap f = outcomes := by
  induction qs generalizing outcomes with
  | nil =>
      rw [List.length_eq_zero_iff.1 hlen]
      rfl
  | cons q qs ih =>
      obtain ⟨o, rest, rfl⟩ := List.exists_cons_of_length_eq_add_one hlen
      rw [List.map_cons, List.zip_cons_cons, List.filterMap_cons_some (hf q o),
        ih (by simpa using hlen)]

theorem results_of_outcomes {outcomes : List (Except Trouble Result)}
    (hlen : outcomes.length = qs.length)
    (h : c.tasks = qs.zip (outcomes.map Task.ofOutcome)) : c.results = outcomes.mapM id := by
  rw [results, h]
  exact congrArg (List.mapM id)
    (filterMap_outcomes (fun q o => by cases o <;> rfl) hlen)

/-- Requests in one workspace come out of a gathering as if each had been run
when the one before it was over: with the same results, calls, notices and
files. The same is true in whatever other order the runs take their turns as
long as they begin in order, and never are two calls under way. -/
theorem gather_eq_runEach {locks : List Lock} (hserial : v.settings.serialize = true)
    (hidle : Idle locks) (hsame : ∀ q ∈ qs, s.files.resolve q.workspace = .ok w)
    (hquiet : s.active = 0) :
    (gather v s locks qs).session = (v.runEach s qs).1 ∧
    (gather v s locks qs).tasks = qs.zip ((v.runEach s qs).2.map Task.ofOutcome) ∧
    (gather v s locks qs).results = (v.runEach s qs).2.mapM id ∧
    (gather v s locks qs).queue = [] ∧
    (∀ k, ReachesInOrder v (ofRequests s locks qs) (turns v k (ofRequests s locks qs))) ∧
    ∀ c, ReachesInOrder v (ofRequests s locks qs) c →
      c.session.active ≤ 1 ∧ c.session.peak ≤ max s.peak 1 ∧
      (c.queue = [] → c.session = (v.runEach s qs).1 ∧
        c.tasks = qs.zip ((v.runEach s qs).2.map Task.ofOutcome)) := by
  have hsound := sound_ofRequests hidle s qs
  have order := fun k =>
    reaches_turns_ofRequests hidle hserial s qs k
  have every {c : Schedule} (h : ReachesInOrder v (ofRequests s locks qs) c) :
      c.session.active ≤ 1 ∧ c.session.peak ≤ max s.peak 1 ∧
      (c.queue = [] → c.session = (v.runEach s qs).1 ∧
        c.tasks = qs.zip ((v.runEach s qs).2.map Task.ofOutcome)) := by
    obtain ⟨k, hk⟩ := h.follows hidle hserial hsame
    have hactive := hk.active_le
    have hpeak := hk.peak
    rw [hquiet] at hactive hpeak
    exact ⟨hactive, hpeak, hk.of_queue_nil (h.reaches.sound hserial hsound)⟩
  have hnil := gather_queue_nil hidle hserial s qs
  obtain ⟨_, _, hend⟩ := every (order (turnsOfRun * qs.length))
  obtain ⟨hsession, htasks⟩ := hend hnil
  exact ⟨hsession, htasks, results_of_outcomes (Validator.length_runEach v s qs) htasks, hnil,
    order, fun c h => every h⟩

/-- A template and a plain document, in one workspace under two names. -/
theorem gather_two_names :
    let v : Validator := ⟨{}, fun _ => none⟩
    let s : Session :=
      { files := ⟨[(["w"], .directory), (["w", "a.yaml"], .file "kind: Pod".toUTF8)],
          { here := ["w"] }⟩ }
    let q : Request := ⟨⟨.none, ["a.yaml"]⟩, ⟨.none, []⟩, some true, .save⟩
    let q' : Request := ⟨⟨.none, ["a.yaml"]⟩, ⟨.slash, ["v", "..", "w"]⟩, none, .manual⟩
    v.settings.serialize = true ∧ Idle [] ∧
      (∀ r ∈ [q, q'], s.files.resolve r.workspace = .ok ["w"]) ∧ s.active = 0 ∧
      (gather v s [] [q, q']).session = (v.runEach s [q, q']).1 ∧
      (gather v s [] [q, q']).results = (v.runEach s [q, q']).2.mapM id := by
  intro v s q q'
  have hidle : Idle [] := fun l hl => absurd hl List.not_mem_nil
  have hsame : ∀ r ∈ [q, q'], s.files.resolve r.workspace = .ok ["w"] := by
    intro r hr
    rcases List.mem_cons.1 hr with rfl | hr
    · rfl
    · rw [List.mem_singleton.1 hr]; rfl
  obtain ⟨hsession, _, hresults, _⟩ := gather_eq_runEach (v := v) rfl hidle hsame rfl
  exact ⟨rfl, hidle, hsame, rfl, hsession, hresults⟩

end Schedule

end ManifestPolicy
