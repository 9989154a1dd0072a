import ManifestPolicy.Proofs.GatherSerial
import ManifestPolicy.Proofs.Outcome

/-!
# Every run is reported

On its way a run gives notices, but none of them is a report (`Tells`). Only
its end is reported, and the report cannot stop the run from having a result
unless reporting itself fails: whatever else goes wrong, be it the notices on
the way, becomes the result. This is so from when the run has begun. Where runs
in one workspace wait for each other, the root of the workspace is resolved
first, and outside of everything that makes results of troubles: a request is
refused whose root does not resolve, and nothing is told of it
(`lost_root_is_not_reported`).

Among other runs the same holds at every time, by what one turn does to one
run: it comes nearer to its end, it does not break down, it is refused if it has
to be, and the reports grow by its result if it has one now (`Moved`). This is
said of turns as they are, whether or not runs wait for each other. If they do,
the discipline of the locks holds as well; if they do not, nobody is queued and
no lock is touched (`Loose`). `Kept` has both, and from it follows what is left
when nobody can go on: results or refusals for all, and locks that are free.
-/

namespace ManifestPolicy

/-! ## What is told on the way -/

/-- From the first session to the second one notices were given, but no report. -/
def Session.Tells (s s' : Session) : Prop :=
  ∃ told, s'.notices = s.notices ++ told ∧ ∀ r, Notice.report r ∉ told

variable {s s₁ s₂ : Session}

theorem Session.Tells.of_eq (h : s₁.notices = s.notices) : s.Tells s₁ :=
  ⟨[], by rw [h, List.append_nil], fun _ => List.not_mem_nil⟩

theorem Session.Tells.trans (h : s.Tells s₁) (h' : s₁.Tells s₂) : s.Tells s₂ := by
  obtain ⟨told, hs₁, hquiet⟩ := h
  obtain ⟨told', hs₂, hquiet'⟩ := h'
  refine ⟨told ++ told', by rw [hs₂, hs₁, List.append_assoc], fun r hr => ?_⟩
  rcases List.mem_append.1 hr with hr | hr
  · exact hquiet r hr
  · exact hquiet' r hr

theorem Session.tells_note (s : Session) {n : Notice} (h : ∀ r, n ≠ .report r) :
    s.Tells (s.note n) := by
  refine ⟨[n], rfl, fun r hr => h r ?_⟩
  exact (List.mem_singleton.1 hr).symm

namespace Validator

variable {v : Validator} {q : Request}

theorem tells_generate (v : Validator) (workspace : Path) (s : Session) :
    s.Tells (v.generate workspace s).1 := by
  unfold generate
  dsimp only
  split
  · exact .of_eq rfl
  · split
    · exact .of_eq rfl
    · split
      · exact .of_eq rfl
      · next files h =>
          have noted : s.Tells (v.notify (generated (v.settings.policies.generatedPath workspace))
              { s with files := files }).1 :=
            (Session.Tells.of_eq rfl).trans (Session.tells_note _ nofun)
          split
          · next h => rw [h] at noted; exact noted
          · next h => rw [h] at noted; exact noted

theorem tells_makePlain (v : Validator) (document : Path) (s : Session) :
    s.Tells (v.makePlain document s).1 := by
  unfold makePlain
  repeat' split
  all_goals exact .of_eq rfl

theorem tells_judge (v : Validator) (q : Request) (target : Path) (warnings : List String)
    (s : Session) : s.Tells (v.judge q target warnings s).1 := by
  have told := v.tells_generate q.workspace s
  unfold judge
  split
  · next h => rw [h] at told; exact told
  · next h => rw [h] at told; exact told

theorem tells_fallBack (v : Validator) (q : Request) (s : Session) :
    s.Tells (v.fallBack q s).1 := by
  have noted : s.Tells (v.notify (.warning (noRenderer v.settings.renderer)) s).1 :=
    s.tells_note nofun
  unfold fallBack
  dsimp only
  split
  · next h => rw [h] at noted; exact noted
  · next s₁ h =>
      rw [h] at noted
      have plain := v.tells_makePlain q.document s₁
      split
      · next hp => rw [hp] at plain; exact noted.trans plain
      · next hp =>
          rw [hp] at plain
          exact (noted.trans plain).trans (v.tells_judge q _ _ _)

theorem start_tells (v : Validator) (q : Request) (s : Session) : s.Tells (v.start q s).1 := by
  unfold start
  split
  · exact .of_eq rfl
  · exact v.tells_judge q _ _ s
  · split
    · exact .of_eq rfl
    · exact v.tells_fallBack q s

theorem resume_tells (v : Validator) (q : Request) (wait : Wait) (a : Answer) (s : Session) :
    s.Tells (v.resume q wait a s).1 := by
  cases wait with
  | version =>
      simp only [resume]
      split
      · exact .of_eq rfl
      · exact .of_eq rfl
      · exact v.tells_fallBack q s
  | rendering =>
      simp only [resume]
      split
      · exact .of_eq rfl
      · exact v.tells_judge q _ _ s
  | evaluation target policy warnings => exact .of_eq rfl

theorem finish_tells (v : Validator) (q : Request) (s : Session) (p : Progress) :
    s.Tells (v.finish q s p).1 := by
  fun_induction finish v q s p with
  | case1 s r => exact .of_eq rfl
  | case2 s call wait asked resumed ih =>
      have hask : s.Tells asked.1 := .of_eq (s.notices_ask call)
      exact (hask.trans (v.resume_tells q wait asked.2 asked.1)).trans ih

theorem conclude_tells (v : Validator) (q : Request) (s : Session) :
    s.Tells (v.conclude q s).1 :=
  (v.start_tells q s).trans (v.finish_tells q _ _)

end Validator

/-! ## Results and reports -/

/-- The result that a notice hands over. -/
def Notice.report? : Notice → Option Result
  | .report r => some r
  | _ => none

/-- The reports of a session. -/
def Session.reports (s : Session) : List Result := s.notices.filterMap Notice.report?

/-- The result of a run that has one. -/
def Task.result? : Task → Option Result
  | .ended r => some r
  | _ => none

/-- A run stands where it may after this word on its request: it is turned away if that is refused,
and only then. -/
def Task.Fits : Option FileError → Task → Prop
  | none, t => ∀ e, t ≠ .refused e
  | some e, t => t = .new ∨ t = .refused e

theorem Session.Tells.reports_eq (h : s.Tells s₁) : s₁.reports = s.reports := by
  obtain ⟨told, hs₁, hquiet⟩ := h
  rw [reports, hs₁, List.filterMap_append]
  have hnone : told.filterMap Notice.report? = [] := by
    rw [List.filterMap_eq_nil_iff]
    intro n hn
    cases n with
    | report r => exact absurd hn (hquiet r)
    | info | warning => rfl
  rw [hnone, List.append_nil, reports]

theorem Session.reports_note (s : Session) (r : Result) :
    (s.note (.report r)).reports = s.reports ++ [r] := by
  rw [reports, note, List.filterMap_append]
  rfl

namespace Schedule

variable {v : Validator} {c c' : Schedule} {n : Nat} {q : Request} {t : Task}

/-- The results of the runs that have one. -/
def given (c : Schedule) : List Result := c.tasks.filterMap fun p => p.2.result?

/-- One run has come to stand elsewhere, nearer to its end, and what it has to
report is reported. If runs do not wait for each other, then it does not wait,
and the locks are as they were. -/
structure Moved (v : Validator) (c c' : Schedule) (n : Nat) (q : Request) (t t' : Task) :
    Prop where
  tasks : c'.tasks = c.tasks.modify n fun p => (p.1, t')
  less : t'.turnsLeft < t.turnsLeft
  unbroken : ∀ trouble, t' ≠ .broken trouble
  reports : c'.session.reports = c.session.reports ++ t'.result?.toList
  base_eq : c'.session.files.base = c.session.files.base
  fits : t.Fits (v.refusal? q c.session.files) → t'.Fits (v.refusal? q c.session.files)
  alone : v.settings.serialize = false → t ≠ .queued → t' ≠ .queued ∧ c'.locks = c.locks ∧
    c'.queue = c.queue ++ if 0 < t'.turnsLeft then [n] else []

section Reporting

variable (calm : ∀ r, v.trouble (.report r) = none)

include calm

theorem advance_ended_calm (c : Schedule) (n : Nat) (q : Request) (s : Session) (r : Result) :
    (c.advance v n q (s, .ended r)).tasks = c.tasks.modify n (fun p => (p.1, .ended r)) ∧
      (c.advance v n q (s, .ended r)).session = s.note (.report r) ∧
      (v.settings.serialize = false → (c.advance v n q (s, .ended r)).locks = c.locks ∧
        (c.advance v n q (s, .ended r)).queue = c.queue) := by
  have release (c : Schedule) (w : Location) :
      (c.release w).tasks = c.tasks ∧ (c.release w).session = c.session := by
    unfold Schedule.release
    dsimp only
    split <;> exact ⟨rfl, rfl⟩
  simp only [advance, Validator.notify, calm]
  split
  · next hs =>
      obtain ⟨htasks, hsession⟩ := release
        (({ c with session := s } : Schedule).setTask n (.ended r))
        ((({ c with session := s } : Schedule).setTask n (.ended r)).workspaceOf q)
      refine ⟨htasks, by rw [hsession]; rfl, fun hoff => ?_⟩
      rw [hs] at hoff
      cases hoff
  · exact ⟨rfl, rfl, fun _ => ⟨rfl, rfl⟩⟩

theorem advance_moved (c : Schedule) (n : Nat) (q : Request) {p : Session × Progress}
    (htells : c.session.Tells p.1) (hless : callTurns * p.2.calls < t.turnsLeft)
    (hbase : p.1.files.base = c.session.files.base)
    (hgoes : t.Fits (v.refusal? q c.session.files) → v.refusal? q c.session.files = none) :
    ∃ t', Moved v c (c.advance v n q p) n q t t' := by
  obtain ⟨s, prog⟩ := p
  cases prog with
  | asking call wait =>
      have hcalls := Validator.calls_pos wait
      refine ⟨.calling callTurns (s.dial call).2 wait, rfl, ?_, by simp, ?_, ?_, fun h => ?_,
        fun _ _ => ⟨by simp, rfl, ?_⟩⟩
      · simp only [Task.turnsLeft, Progress.calls, callTurns] at hless ⊢
        omega
      · rw [← htells.reports_eq]
        have hdial : s.Tells (s.dial call).1 := .of_eq (by rw [Session.dial_eq])
        exact hdial.reports_eq.trans (List.append_nil _).symm
      · rw [advance_asking, Session.dial_eq]
        exact hbase
      · rw [hgoes h]
        exact fun _ => by simp
      · rw [if_pos]
        · rfl
        · simp only [Task.turnsLeft, callTurns]
          omega
  | ended r =>
      obtain ⟨htasks, hsession, halone⟩ := advance_ended_calm calm c n q s r
      refine ⟨.ended r, htasks, Nat.lt_of_le_of_lt (Nat.zero_le _) hless, by simp, ?_, ?_,
        fun h => ?_, fun hoff _ => ⟨by simp, (halone hoff).1, ?_⟩⟩
      · rw [hsession, Session.reports_note, htells.reports_eq]
        rfl
      · rw [hsession]
        exact hbase
      · rw [hgoes h]
        exact fun _ => by simp
      · rw [(halone hoff).2]
        exact (List.append_nil _).symm

/-- A turn of a run that is not over. -/
theorem turnOf_moved (task : c.tasks[n]? = some (q, t)) (unfinished : 0 < t.turnsLeft) :
    ∃ t', Moved v (c.called n) (c.turnOf v n) n q t t' := by
  have begins (c : Schedule) (hleft : turnsOfRun - 1 ≤ t.turnsLeft)
      (hgoes : t.Fits (v.refusal? q c.session.files) → v.refusal? q c.session.files = none) :
      ∃ t', Moved v c (c.begin v n q) n q t t' := by
    have hcalls := v.calls_start_le q c.session
    refine advance_moved calm c n q (v.start_tells q c.session) ?_
      (v.start_acts q c.session).files.base_eq hgoes
    simp only [turnsOfRun, callTurns] at hleft ⊢
    omega
  -- A run that has begun was not refused.
  have begun {e : Option FileError} (hnew : t ≠ .new) (hrefused : ∀ e, t ≠ .refused e) :
      t.Fits e → e = none := by
    cases e with
    | none => exact fun _ => rfl
    | some e => exact fun h => (h.elim hnew (hrefused e)).elim
  have ht : (c.called n).tasks[n]? = some (q, t) := task
  rw [turnOf_eq, step, ht]
  dsimp only
  cases t with
  | new =>
      have hfiles : (c.called n).session.files = c.session.files := rfl
      dsimp only
      rw [hfiles]
      cases hrefusal : v.refusal? q c.session.files with
      | some e =>
          have hon : ¬ v.settings.serialize = false := by
            intro hoff
            rw [Validator.refusal?, hoff] at hrefusal
            cases hrefusal
          refine ⟨.refused e, rfl, Nat.succ_pos _, by simp, (List.append_nil _).symm, rfl,
            fun _ => ?_, fun hoff => absurd hoff hon⟩
          rw [hfiles, hrefusal]
          exact .inr rfl
      | none =>
          dsimp only
          split
          · next hs =>
              have hon : ¬ v.settings.serialize = false := by simp [hs]
              split
              · exact ⟨.queued, rfl, by decide, by simp, (List.append_nil _).symm, rfl,
                  fun _ => by rw [hfiles, hrefusal]; exact fun _ => by simp,
                  fun hoff => absurd hoff hon⟩
              · obtain ⟨t', h⟩ := begins ((c.called n).take n _) (by decide) fun _ => hrefusal
                exact ⟨t', h.tasks, h.less, h.unbroken, h.reports, h.base_eq, h.fits,
                  fun hoff => absurd hoff hon⟩
          · exact begins (c.called n) (by decide) fun _ => hrefusal
  | queued =>
      obtain ⟨t', h⟩ := begins ((c.called n).take n _) (by decide) (begun (by simp) (by simp))
      exact ⟨t', h.tasks, h.less, h.unbroken, h.reports, h.base_eq, h.fits,
        fun _ hq => absurd rfl hq⟩
  | calling turns reply wait =>
      have resumes (hturns : turns ≤ 1) : ∃ t', Moved v (c.called n)
          ((c.called n).advance v n q (v.resume q wait reply.answer (c.session.settle reply))) n q
          (.calling turns reply wait) t' := by
        have hcalls := v.calls_resume_lt q wait reply.answer (c.session.settle reply)
        have hsettle : c.session.Tells (c.session.settle reply) := .of_eq rfl
        refine advance_moved calm (c.called n) n q (hsettle.trans (v.resume_tells q wait _ _)) ?_
          (base_resume v q wait reply c.session) (begun (by simp) (by simp))
        simp only [Task.turnsLeft, callTurns]
        omega
      cases turns with
      | zero => exact resumes (by omega)
      | succ k =>
          cases k with
          | zero => exact resumes (by omega)
          | succ k =>
              dsimp only
              refine ⟨.calling (k + 1) reply wait, rfl, ?_, by simp, (List.append_nil _).symm, rfl,
                fun h => ?_, fun _ _ => ⟨by simp, rfl, ?_⟩⟩
              · simp only [Task.turnsLeft]
                omega
              · rw [begun (by simp) (by simp) h]
                exact fun _ => by simp
              · rw [if_pos]
                · rfl
                · simp only [Task.turnsLeft]
                  omega
  | ended r => exact absurd unfinished (Nat.lt_irrefl 0)
  | refused e => exact absurd unfinished (Nat.lt_irrefl 0)
  | broken trouble => exact absurd unfinished (Nat.lt_irrefl 0)

end Reporting

/-! ## Every run, at every time -/

theorem given_modify {t' : Task} (task : c.tasks[n]? = some (q, t)) (unfinished : 0 < t.turnsLeft)
    (htasks : c'.tasks = c.tasks.modify n fun p => (p.1, t')) :
    c'.given.Perm (c.given ++ t'.result?.toList) := by
  have hnone : t.result? = none := by
    cases t with
    | ended r => exact absurd unfinished (Nat.lt_irrefl 0)
    | _ => rfl
  have hperm : ∀ (tasks : List (Request × Task)) (n : Nat), tasks[n]? = some (q, t) →
      ((tasks.modify n fun p => (p.1, t')).filterMap fun p => p.2.result?).Perm
        ((tasks.filterMap fun p => p.2.result?) ++ t'.result?.toList) := by
    intro tasks
    induction tasks with
    | nil => intro n h; cases h
    | cons p rest ih =>
        intro n h
        cases n with
        | zero =>
            injection h with h
            subst h
            rw [List.modify_zero_cons, List.filterMap_cons, List.filterMap_cons, hnone]
            cases t'.result? with
            | none => rw [Option.toList_none, List.append_nil]
            | some r => exact (List.perm_append_singleton r _).symm
        | succ n =>
            rw [List.modify_succ_cons, List.filterMap_cons, List.filterMap_cons]
            cases p.2.result? with
            | none => exact ih n h
            | some r => exact (ih n h).cons r
  rw [given, htasks]
  exact hperm c.tasks n task

/-- No run ends without a result unless its request is refused, and those that have ended were
reported, each of them once. -/
structure Reported (v : Validator) (s : Session) (qs : List Request) (c : Schedule) : Prop where
  requests : c.tasks.map Prod.fst = qs
  base_eq : c.session.files.base = s.files.base
  fits {n : Nat} {q : Request} {t : Task} : c.tasks[n]? = some (q, t) →
    t.Fits (v.refusal? q s.files)
  unbroken {n : Nat} {q : Request} {trouble : Trouble} : c.tasks[n]? ≠ some (q, .broken trouble)
  reports : c.session.reports.Perm (s.reports ++ c.given)

variable {s : Session} {qs : List Request}

theorem Reported.moved {t' : Task} (h : Reported v s qs c) (task : c.tasks[n]? = some (q, t))
    (unfinished : 0 < t.turnsLeft) (hm : Moved v (c.called n) c' n q t t') :
    Reported v s qs c' where
  requests := by
    rw [hm.tasks, map_fst_modify]
    exact h.requests
  base_eq := hm.base_eq.trans h.base_eq
  fits := by
    intro m q' t'' hfits
    by_cases e : m = n
    · subst e
      have ht : (c.called m).tasks[m]? = some (q, t) := task
      rw [hm.tasks, getElem?_modify_self ht] at hfits
      cases hfits
      have hstand := hm.fits
      rw [show v.refusal? q (c.called m).session.files = v.refusal? q s.files from
        Validator.refusal?_congr h.base_eq] at hstand
      exact hstand (h.fits task)
    · rw [hm.tasks, List.getElem?_modify_ne _ _ (Ne.symm e)] at hfits
      exact h.fits hfits
  unbroken := by
    intro m q' trouble hbroken
    by_cases e : m = n
    · subst e
      have ht : (c.called m).tasks[m]? = some (q, t) := task
      rw [hm.tasks, getElem?_modify_self ht] at hbroken
      cases hbroken
      exact hm.unbroken trouble rfl
    · rw [hm.tasks, List.getElem?_modify_ne _ _ (Ne.symm e)] at hbroken
      exact h.unbroken hbroken
  reports := by
    rw [hm.reports]
    have hgiven := given_modify task unfinished hm.tasks
    refine ((h.reports.append_right _).trans ?_).trans (hgiven.symm.append_left s.reports)
    rw [List.append_assoc]

/-- A run that is not over can have turns, and one that is over can have none. -/
theorem Reported.finished (h : Reported v s qs c) (task : c.tasks[n]? = some (q, t)) :
    0 < t.turnsLeft ∨ v.refusal? q s.files = none ∧ (∃ r, t = .ended r) ∨
      ∃ e, v.refusal? q s.files = some e ∧ t = .refused e := by
  have hfits := h.fits task
  cases t with
  | new => exact .inl (by decide)
  | queued => exact .inl (by decide)
  | calling turns reply wait =>
      left
      simp only [Task.turnsLeft]
      omega
  | ended r =>
      right
      cases hrefusal : v.refusal? q s.files with
      | none => exact .inl ⟨rfl, r, rfl⟩
      | some e =>
          rw [hrefusal] at hfits
          rcases hfits with he | he <;> cases he
  | refused e =>
      right
      cases hrefusal : v.refusal? q s.files with
      | none =>
          rw [hrefusal] at hfits
          exact absurd rfl (hfits e)
      | some e' =>
          rw [hrefusal] at hfits
          rcases hfits with he | he <;> cases he
          exact .inr ⟨e, rfl, rfl⟩
  | broken trouble => exact absurd task h.unbroken

/-- What is in the queue are runs that are not over. -/
def Live (c : Schedule) : Prop :=
  ∀ n ∈ c.queue, ∃ q t, c.tasks[n]? = some (q, t) ∧ 0 < t.turnsLeft

theorem Sound.live (h : c.Sound) : Live c := by
  intro n hn
  obtain ⟨w, ph, hp, hgo⟩ := h.disciplined.mem_queue.1 hn
  obtain ⟨q, t, task, _, rfl⟩ := places_eq_some.1 hp
  refine ⟨q, t, task, ?_⟩
  cases t with
  | new => decide
  | queued => decide
  | calling turns reply wait =>
      simp only [Task.turnsLeft]
      omega
  | ended r => exact hgo.elim
  | refused e => exact hgo.elim
  | broken trouble => exact hgo.elim

/-- If runs do not wait for each other, then nobody is queued, and the queue
holds all the runs that are not over. -/
structure Loose (locks : List Lock) (c : Schedule) : Prop where
  locks_eq : c.locks = locks
  queue_nodup : c.queue.Nodup
  mem_queue {n : Nat} : n ∈ c.queue ↔ ∃ q t, c.tasks[n]? = some (q, t) ∧ 0 < t.turnsLeft
  unqueued {n : Nat} {q : Request} : c.tasks[n]? ≠ some (q, .queued)

theorem Loose.moved {locks : List Lock} {t' : Task} (h : Loose locks c)
    (hs : v.settings.serialize = false) (task : c.tasks[n]? = some (q, t))
    (hm : Moved v (c.called n) c' n q t t') : Loose locks c' := by
  have ht : (c.called n).tasks[n]? = some (q, t) := task
  have hstood : t ≠ .queued := fun e => h.unqueued (e ▸ task)
  obtain ⟨hstands, hlocks, hqueue⟩ := hm.alone hs hstood
  have self : c'.tasks[n]? = some (q, t') := by rw [hm.tasks, getElem?_modify_self ht]
  have other {m : Nat} (e : m ≠ n) : c'.tasks[m]? = c.tasks[m]? := by
    rw [hm.tasks, List.getElem?_modify_ne _ _ (Ne.symm e)]
    rfl
  have herase {m : Nat} : m ∈ (c.called n).queue ↔ m ≠ n ∧ m ∈ c.queue :=
    h.queue_nodup.mem_erase_iff
  refine ⟨hlocks.trans h.locks_eq, ?_, fun {m} => ?_, fun {m q'} hm' => ?_⟩
  · rw [hqueue]
    refine List.nodup_append.2 ⟨h.queue_nodup.erase n, ?_, fun a ha b hb e => ?_⟩
    · split <;> simp
    · split at hb
      · rw [List.mem_singleton.1 hb] at e
        exact (herase.1 ha).1 e
      · cases hb
  · rw [hqueue, List.mem_append, herase]
    by_cases e : m = n
    · subst e
      rw [self]
      split
      · next hleft => exact iff_of_true (.inr List.mem_cons_self) ⟨q, t', rfl, hleft⟩
      · next hleft =>
          refine iff_of_false ?_ ?_
          · simp
          · rintro ⟨_, _, he, hgo⟩
            cases he
            exact hleft hgo
    · rw [other e, ← h.mem_queue]
      constructor
      · rintro (hmem | hmem)
        · exact hmem.2
        · split at hmem
          · exact absurd (List.mem_singleton.1 hmem) e
          · cases hmem
      · exact fun hmem => .inl ⟨e, hmem⟩
  · by_cases e : m = n
    · subst e
      rw [self] at hm'
      cases hm'
      exact hstands rfl
    · rw [other e] at hm'
      exact h.unqueued hm'

/-- What holds at every time, whether or not runs wait for each other. -/
structure Kept (v : Validator) (s : Session) (locks : List Lock) (qs : List Request)
    (c : Schedule) : Prop where
  reported : Reported v s qs c
  going : v.settings.serialize = true ∧ c.Sound ∨ v.settings.serialize = false ∧ Loose locks c

theorem Kept.live {locks : List Lock} (h : Kept v s locks qs c) : Live c := by
  rcases h.going with ⟨_, hsound⟩ | ⟨_, hloose⟩
  · exact hsound.live
  · exact fun n hn => hloose.mem_queue.1 hn

theorem kept_ofRequests {locks : List Lock} (hidle : Idle locks) (v : Validator) (s : Session)
    (qs : List Request) : Kept v s locks qs (ofRequests s locks qs) where
  reported :=
    { requests := by
        rw [show (ofRequests s locks qs).tasks = qs.map fun q => (q, Task.new) from rfl,
          List.map_map]
        exact List.map_id qs
      base_eq := rfl
      fits := fun {n q t} h => by
        rw [(getElem?_ofRequests h).2]
        cases v.refusal? q s.files with
        | none => exact fun _ => by simp
        | some e => exact .inl rfl
      unbroken := fun h => by cases (getElem?_ofRequests h).2
      reports := by
        have hnone : (ofRequests s locks qs).given = [] := by
          rw [given, List.filterMap_eq_nil_iff]
          intro p hp
          obtain ⟨q, _, rfl⟩ := List.mem_map.1 hp
          rfl
        rw [hnone, List.append_nil]
        exact .refl _ }
  going := by
    have hsound := sound_ofRequests hidle s qs
    cases hs : v.settings.serialize with
    | true => exact .inl ⟨rfl, hsound⟩
    | false =>
        refine .inr ⟨rfl, rfl, hsound.disciplined.queue_nodup, fun {n} => ⟨hsound.live n, ?_⟩,
          fun h => (by cases (getElem?_ofRequests h).2)⟩
        rintro ⟨q, t, task, _⟩
        exact List.mem_range.2 (List.getElem?_eq_some_iff.1 (getElem?_ofRequests task).1).1

theorem Kept.turnOf {locks : List Lock} (h : Kept v s locks qs c)
    (calm : ∀ r, v.trouble (.report r) = none) (hn : n ∈ c.queue) :
    Kept v s locks qs (c.turnOf v n) ∧ (c.turnOf v n).turnsLeft < c.turnsLeft := by
  obtain ⟨q, t, task, unfinished⟩ := h.live n hn
  obtain ⟨t', hm⟩ := turnOf_moved calm task unfinished
  refine ⟨⟨h.reported.moved task unfinished hm, ?_⟩, turnsLeft_modify task hm.tasks hm.less⟩
  rcases h.going with ⟨hs, hsound⟩ | ⟨hs, hloose⟩
  · exact .inl ⟨hs, hsound.turnOf hs hn⟩
  · exact .inr ⟨hs, hloose.moved hs task hm⟩

theorem Reaches.kept {locks : List Lock} (h : Reaches v (ofRequests s locks qs) c)
    (calm : ∀ r, v.trouble (.report r) = none) (hidle : Idle locks) : Kept v s locks qs c := by
  induction h with
  | refl => exact kept_ofRequests hidle v s qs
  | turn _ hn ih => exact (ih.turnOf calm hn).1

/-! ## The end -/

theorem Kept.ended {locks : List Lock} (h : Kept v s locks qs c) (hq : c.queue = [])
    (task : c.tasks[n]? = some (q, t)) :
    v.refusal? q s.files = none ∧ (∃ r, t = .ended r) ∨
      ∃ e, v.refusal? q s.files = some e ∧ t = .refused e := by
  rcases h.reported.finished task with hleft | hended
  · -- It could go on, or waits for somebody who can; but the queue is empty.
    exfalso
    rcases h.going with ⟨_, hsound⟩ | ⟨_, hloose⟩
    · have hover := hsound.released_of_queue_nil hq (places_of_task task)
      cases t with
      | ended r => exact absurd hleft (Nat.lt_irrefl 0)
      | refused e => exact absurd hleft (Nat.lt_irrefl 0)
      | broken trouble => exact absurd hleft (Nat.lt_irrefl 0)
      | new | queued | calling => rcases hover with e | e <;> cases e
    · have hmem := hloose.mem_queue.2 ⟨q, t, task, hleft⟩
      rw [hq] at hmem
      cases hmem
  · exact hended

/-- When nobody can go on, no lock is held, and nobody waits for one. -/
theorem Kept.free {locks : List Lock} (h : Kept v s locks qs c) (hidle : Idle locks)
    (hq : c.queue = []) (w : Location) :
    (lockOf w c.locks).held = false ∧ (lockOf w c.locks).waiting = [] := by
  rcases h.going with ⟨_, hsound⟩ | ⟨_, hloose⟩
  · have ended {n : Nat} {ph : Phase} (hp : c.places n = some (w, ph)) :
        ph = .released ∨ ph = .refused := hsound.released_of_queue_nil hq hp
    constructor
    · rw [Bool.eq_false_iff]
      intro hheld
      obtain ⟨n, hn⟩ := hsound.disciplined.held_iff.1 hheld
      rcases ended hn with e | e <;> cases e
    · rw [List.eq_nil_iff_forall_not_mem]
      intro n hn
      rcases ended (hsound.disciplined.mem_waiting.1 hn) with e | e <;> cases e
  · rw [hloose.locks_eq]
    exact hidle.lockOf w

/-- A run that begins when its lock is free does not wait. -/
theorem begins_of_free {locks : List Lock}
    (free : ∀ w, (lockOf w locks).held = false ∧ (lockOf w locks).waiting = [])
    (calm : ∀ r, v.trouble (.report r) = none) (s : Session)
    (named : v.refusal? q s.files = none) :
    ∃ t, ((ofRequests s locks [q]).turnOf v 0).tasks[0]? = some (q, t) ∧
      t ≠ .new ∧ t ≠ .queued := by
  have hbegin : ∃ c₁ : Schedule, c₁.tasks = [(q, .new)] ∧
      (ofRequests s locks [q]).turnOf v 0 = c₁.begin v 0 q := by
    have ht : ((ofRequests s locks [q]).called 0).tasks[0]? = some (q, .new) := rfl
    have hnamed : v.refusal? q ((ofRequests s locks [q]).called 0).session.files = none := named
    rw [turnOf_eq, step, ht]
    dsimp only
    rw [hnamed]
    dsimp only
    split
    · rw [if_neg]
      · exact ⟨_, rfl, rfl⟩
      · obtain ⟨hheld, hwaiting⟩ := free ((ofRequests s locks [q]).workspaceOf q)
        have hlock : lockOf (((ofRequests s locks [q]).called 0).workspaceOf q)
            ((ofRequests s locks [q]).called 0).locks =
              lockOf ((ofRequests s locks [q]).workspaceOf q) locks := rfl
        rw [hlock, hheld, hwaiting]
        decide
    · exact ⟨_, rfl, rfl⟩
  obtain ⟨c₁, htasks, heq⟩ := hbegin
  have hcalls := v.calls_start_le q c₁.session
  obtain ⟨t, hm⟩ := advance_moved (t := .queued) calm c₁ 0 q (v.start_tells q c₁.session) (by
    simp only [Task.turnsLeft, turnsOfRun, callTurns]
    omega) (v.start_acts q c₁.session).files.base_eq fun h => by
      cases hrefusal : v.refusal? q c₁.session.files with
      | none => rfl
      | some e =>
          rw [hrefusal] at h
          rcases h with he | he <;> cases he
  refine ⟨t, ?_, ?_, ?_⟩
  · rw [heq, begin, hm.tasks, htasks]
    rfl
  · rintro rfl
    exact absurd hm.less (by decide)
  · rintro rfl
    exact absurd hm.less (by decide)

/-- A run that is not refused returns a result whatever happens on its way, and this result is the
last notice that it gives, and the only report. A run that is refused does nothing at all; of paths
without null characters only those are refused that start from a directory that was removed. Of runs
that take their turns in any order the same is true together: none breaks down, the reports are the
results of those that have ended, and every turn brings the end nearer. Then all have results that
are not refused, and no workspace is locked: who comes next need not wait. -/
theorem runs_are_reported (calm : ∀ r, v.trouble (.report r) = none) :
    (∀ q s, v.refusal? q s.files = none → ∃ r told, (v.run q s).2 = .ok r ∧
      (v.run q s).1.notices = s.notices ++ told ++ [.report r] ∧ ∀ r, .report r ∉ told) ∧
    (∀ q s e, v.refusal? q s.files = some e → v.run q s = (s, .error (.mishap (.file e)))) ∧
    (∀ q files, q.workspace.hasNull = false → (v.refusal? q files = none ↔
      v.settings.serialize = false ∨ files.isLost q.workspace = false)) ∧
    ∀ s locks qs c, Idle locks → Reaches v (ofRequests s locks qs) c →
      (∀ p ∈ c.tasks, ∀ trouble, p.2 ≠ .broken trouble) ∧
      c.session.reports.Perm (s.reports ++ c.given) ∧
      (∀ n ∈ c.queue, (c.turnOf v n).turnsLeft < c.turnsLeft) ∧
      (c.queue = [] →
        (∀ p ∈ c.tasks, v.refusal? p.1 s.files = none ∧ (∃ r, p.2 = .ended r) ∨
          ∃ e, v.refusal? p.1 s.files = some e ∧ p.2 = .refused e) ∧
        (∀ w, (lockOf w c.locks).held = false ∧ (lockOf w c.locks).waiting = []) ∧
        ∀ q s', v.refusal? q s'.files = none →
          ∃ t, ((ofRequests s' c.locks [q]).turnOf v 0).tasks[0]? = some (q, t) ∧
            t ≠ .new ∧ t ≠ .queued) := by
  refine ⟨fun q s named => ?_, fun q s e => Validator.run_of_refusal, fun q files hnull => ?_,
    fun s locks qs c hidle h => ?_⟩
  · obtain ⟨told, hnotices, hquiet⟩ := v.conclude_tells q s
    rw [Validator.run_of_named named]
    refine ⟨(v.conclude q s).2, told, ?_, ?_, hquiet⟩
    · rw [Validator.handOver, calm]
    · rw [Session.note, hnotices]
  · rw [Validator.refusal?_eq_none_iff]
    simp only [FileSystem.resolve_ok_iff, hnull, true_and]
    cases v.settings.serialize <;> simp
  · have hkept := h.kept calm hidle
    refine ⟨fun p hp trouble e => ?_, hkept.reported.reports,
      fun n hn => (hkept.turnOf calm hn).2, fun hq => ⟨fun p hp => ?_, ?_, ?_⟩⟩
    · obtain ⟨n, hn⟩ := List.mem_iff_getElem?.1 hp
      obtain ⟨q, t⟩ := p
      cases e
      exact hkept.reported.unbroken hn
    · obtain ⟨n, hn⟩ := List.mem_iff_getElem?.1 hp
      exact hkept.ended hq hn
    · exact hkept.free hidle hq
    · exact fun q s' named => begins_of_free (hkept.free hidle hq) calm s' named

/-- Runs that wait for each other can be brought to their ends. -/
theorem exists_end {locks : List Lock} (hs : v.settings.serialize = true) (hidle : Idle locks)
    (s : Session) (qs : List Request) :
    ∃ c, Reaches v (ofRequests s locks qs) c ∧ c.queue = [] :=
  ⟨gather v s locks qs, (reaches_turns_ofRequests hidle hs s qs _).reaches,
    gather_queue_nil hidle hs s qs⟩

/-- Two runs of one request, whose renderer breaks down. -/
theorem broken_renderer_is_reported :
    let v : Validator := ⟨{}, fun _ => none⟩
    let q : Request := ⟨⟨.none, ["chart.yaml"]⟩, ⟨.none, []⟩, some true, .manual⟩
    let reply : Reply := ⟨[], .broken (.mishap (.breakdown .runtime "no thread"))⟩
    let s : Session := { files := ⟨[], { here := [] }⟩, replies := [reply, reply] }
    (∀ r, v.trouble (.report r) = none) ∧ v.refusal? q s.files = none ∧ Idle [] ∧
      (∃ r told, (v.run q s).2 = .ok r ∧ r.outcome = .failure .unknown "no thread" ∧
        (v.run q s).1.notices = told ++ [.report r]) ∧
      ∃ c, Reaches v (ofRequests s [] [q, q]) c ∧ c.queue = [] ∧
        c.session.reports.Perm c.given ∧ (lockOf [] c.locks).held = false := by
  intro v q reply s
  have calm : ∀ r, v.trouble (.report r) = none := fun _ => rfl
  have hidle : Idle [] := fun l hl => absurd hl List.not_mem_nil
  obtain ⟨alone, _, _, together⟩ := runs_are_reported calm
  refine ⟨calm, rfl, hidle, ?_, ?_⟩
  · obtain ⟨r, told, hr, hnotices, _⟩ := alone q s rfl
    have hfailure : ∃ r, (v.run q s).2 = .ok r ∧ r.outcome = .failure .unknown "no thread" := by
      decide +kernel
    obtain ⟨r', hr', hfailure⟩ := hfailure
    rw [hr] at hr'
    cases hr'
    exact ⟨r, told, hr, hfailure, hnotices⟩
  · obtain ⟨c, hreach, hq⟩ := exists_end (v := v) rfl hidle s [q, q]
    obtain ⟨_, hreports, _, hend⟩ := together s [] [q, q] c hidle hreach
    obtain ⟨_, hfree, _⟩ := hend hq
    exact ⟨c, hreach, hq, hreports, (hfree []).1⟩

/-- A document and a workspace whose paths are as good as any, but the directory that the one of the
workspace starts from was removed: nothing is reported. -/
theorem lost_root_is_not_reported :
    let v : Validator := ⟨{}, fun _ => none⟩
    let q : Request := ⟨⟨.slash, ["pod.yaml"]⟩, ⟨.none, []⟩, none, .manual⟩
    let s : Session := { files := ⟨[], { here := ["work"], stranded := true }⟩ }
    q.document.hasNull = false ∧ q.workspace.hasNull = false ∧
      v.run q s = (s, .error (.mishap (.file .stranded))) ∧
      (v.run q s).1.notices = [] := by
  decide +kernel

end Schedule

end ManifestPolicy
