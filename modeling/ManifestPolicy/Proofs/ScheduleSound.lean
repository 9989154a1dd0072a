import ManifestPolicy.Proofs.LockDiscipline
import ManifestPolicy.Proofs.RunFrame

/-!
# Every interleaving keeps the discipline

The runs of a schedule take their turns in any order that the queue allows.
`Turned` says once what a turn can be: a run is turned away, waits, enters,
lets time pass, or goes on after its call. From it follows that the
discipline of the locks holds in every schedule that can be reached from one
in which no run has begun (`Reaches.sound`). What a turn does to the places
and the locks alone is one change, or none (`Change`), and from it follows that
runs of one workspace enter in order if they begin in order
(`ReachesInOrder.ordered`).

What a run does between two calls is of no concern here, with one exception:
it leaves the directory alone that relative paths start from, and so every
request keeps naming the same workspace.
-/

namespace ManifestPolicy

open Schedule

/-- The phase of a run that stands here. -/
def Task.phase : Task → Phase
  | .new => .new
  | .queued => .queued
  | .calling .. => .inside
  | .refused _ => .refused
  | .ended _ | .broken _ => .released

/-- How a run ends whose outcome is handed over. -/
def Task.ofOutcome : Except Trouble Result → Task
  | .ok r => .ended r
  | .error t => .broken t

theorem Task.phase_ofOutcome (o : Except Trouble Result) :
    (Task.ofOutcome o).phase = .released := by
  cases o <;> rfl

namespace Schedule

variable {v : Validator} {c c' : Schedule} {n : Nat} {q : Request}

/-- The places of the runs of a schedule. -/
def places (c : Schedule) : Places :=
  fun n => (c.tasks[n]?).map fun p => (c.workspaceOf p.1, p.2.phase)

theorem places_eq_some {w : Location} {ph : Phase} :
    c.places n = some (w, ph) ↔
      ∃ q t, c.tasks[n]? = some (q, t) ∧ c.workspaceOf q = w ∧ t.phase = ph := by
  simp only [places, Option.map_eq_some_iff, Prod.mk.injEq, Prod.exists]

theorem places_of_task {t : Task} (h : c.tasks[n]? = some (q, t)) :
    c.places n = some (c.workspaceOf q, t.phase) := by
  simp only [places, h, Option.map_some]

theorem workspaceOf_congr (h : c'.session.files.base = c.session.files.base) (q : Request) :
    c'.workspaceOf q = c.workspaceOf q := by
  simp only [workspaceOf, h]

theorem getElem?_modify_self {tasks : List (Request × Task)} {t : Task}
    (h : tasks[n]? = some (q, t)) (t' : Task) :
    (tasks.modify n fun p => (p.1, t'))[n]? = some (q, t') := by
  rw [List.getElem?_modify_eq, h]
  rfl

/-- Where the runs stand after one of them has come to stand elsewhere. -/
theorem places_modify {t t' : Task} (h : c.tasks[n]? = some (q, t))
    (htasks : c'.tasks = c.tasks.modify n fun p => (p.1, t'))
    (hhere : c'.session.files.base = c.session.files.base) :
    c'.places = c.places.set n (c.workspaceOf q) (t'.phase) := by
  funext m
  by_cases hm : m = n
  · subst hm
    have ht : c'.tasks[m]? = some (q, t') := by rw [htasks]; exact getElem?_modify_self h t'
    rw [places_of_task ht, Places.set_self, workspaceOf_congr hhere]
  · have ht : c'.tasks[m]? = c.tasks[m]? := by
      rw [htasks, List.getElem?_modify_ne _ _ (Ne.symm hm)]
    rw [Places.set_of_ne _ _ _ hm]
    simp only [places, ht, workspaceOf_congr hhere]

theorem places_setTask {t : Task} (h : c.tasks[n]? = some (q, t)) (t' : Task) :
    (c.setTask n t').places = c.places.set n (c.workspaceOf q) (t'.phase) :=
  places_modify h rfl rfl

/-- Standing elsewhere in the same phase is standing in the same place. -/
theorem places_setTask_self {t t' : Task} (h : c.tasks[n]? = some (q, t))
    (hph : t'.phase = t.phase) : (c.setTask n t').places = c.places := by
  rw [places_setTask h, hph]
  exact Places.set_eq_self (places_of_task h)

/-- The workspace of a request can be told from others. -/
def Names (c : Schedule) (q : Request) : Prop :=
  ∃ w, c.session.files.resolve q.workspace = .ok w

theorem names_congr (h : c'.session.files.base = c.session.files.base) (q : Request) :
    c'.Names q ↔ c.Names q := by
  rw [Names, FileSystem.resolve_congr h, Names]

theorem names_iff (hs : v.settings.serialize = true) :
    c.Names q ↔ v.refusal? q c.session.files = none := by
  rw [Validator.refusal?_eq_none_iff]
  exact ⟨fun h _ => h, fun h => h hs⟩

/-! ## What a turn is -/

/-- The schedule in which a run has been taken out of the queue. -/
def called (c : Schedule) (n : Nat) : Schedule := { c with queue := c.queue.erase n }

theorem turnOf_eq (v : Validator) (c : Schedule) (n : Nat) :
    c.turnOf v n = (c.called n).step v n := rfl

/-- The turns of a run, each with when it is taken and what it leads to. -/
inductive Turned (v : Validator) (c : Schedule) (n : Nat) (q : Request) : Schedule → Prop where
  | refused {e : FileError} (task : c.tasks[n]? = some (q, .new)) (unnamed : ¬ c.Names q) :
      Turned v c n q ((c.called n).setTask n (.refused e))
  | waited (task : c.tasks[n]? = some (q, .new))
      (busy : (lockOf (c.workspaceOf q) c.locks).held = true ∨
        (lockOf (c.workspaceOf q) c.locks).waiting ≠ [])
      (named : c.Names q) :
      Turned v c n q ((c.called n).await n (c.workspaceOf q))
  | entered {stood : Task} (task : c.tasks[n]? = some (q, stood))
      (may : Disciplined.MayEnter c.places c.locks (c.workspaceOf q) n)
      (named : c.Names q) :
      Turned v c n q (((c.called n).take n (c.workspaceOf q)).advance v n q
        (v.start q c.session))
  | ticked {turns : Nat} {reply : Reply} {wait : Wait}
      (task : c.tasks[n]? = some (q, .calling (turns + 2) reply wait)) :
      Turned v c n q (((c.called n).setTask n (.calling (turns + 1) reply wait)).enqueue n)
  | resumed {turns : Nat} {reply : Reply} {wait : Wait}
      (task : c.tasks[n]? = some (q, .calling turns reply wait)) (now : turns ≤ 1) :
      Turned v c n q
        ((c.called n).advance v n q (v.resume q wait reply.answer (c.session.settle reply)))

/-- Where a run may stand: if its request names no workspace it is turned away, and only then. -/
structure MayStand (c : Schedule) (q : Request) (t : Task) : Prop where
  unnamed : ¬ c.Names q → t = .new ∨ ∃ e, t = .refused e
  refused {e : FileError} : t = .refused e → ¬ c.Names q

theorem MayStand.of_names {t : Task} (h : c.Names q) (ht : ∀ e, t ≠ .refused e) :
    c.MayStand q t :=
  ⟨fun unnamed => absurd h unnamed, fun he => absurd he (ht _)⟩

theorem MayStand.congr {t : Task} (h : c.MayStand q t)
    (hbase : c'.session.files.base = c.session.files.base) : c'.MayStand q t := by
  have hnames := names_congr hbase q
  exact ⟨fun unnamed => h.unnamed fun named => unnamed (hnames.2 named),
    fun he named => h.refused he (hnames.1 named)⟩

theorem MayStand.names {t : Task} (h : c.MayStand q t) (hnew : t ≠ .new)
    (hrefused : ∀ e, t ≠ .refused e) : c.Names q :=
  Classical.byContradiction fun unnamed =>
    (h.unnamed unnamed).elim hnew fun ⟨e, he⟩ => hrefused e he

/-- All runs stand where they may. -/
def Standing (c : Schedule) : Prop :=
  ∀ ⦃n : Nat⦄ ⦃q : Request⦄ ⦃t : Task⦄, c.tasks[n]? = some (q, t) → c.MayStand q t

/-- What holds of the locks, the queue and the runs of a schedule. -/
structure Sound (c : Schedule) : Prop where
  disciplined : Disciplined c.places c.locks c.queue
  standing : c.Standing

/-- A turn of a run that is in the queue is one of these. -/
theorem Sound.turned (h : c.Sound) (hs : v.settings.serialize = true) (hq : n ∈ c.queue) :
    ∃ q, Turned v c n q (c.turnOf v n) := by
  obtain ⟨w, ph, hp, hgo⟩ := h.disciplined.mem_queue.1 hq
  obtain ⟨q, t, ht, rfl, rfl⟩ := places_eq_some.1 hp
  refine ⟨q, ?_⟩
  have ht' : (c.called n).tasks[n]? = some (q, t) := ht
  rw [turnOf_eq, step, ht']
  dsimp only
  cases t with
  | new =>
      have hfiles : (c.called n).session.files = c.session.files := rfl
      dsimp only
      rw [hfiles]
      cases hrefusal : v.refusal? q c.session.files with
      | some e =>
          refine .refused ht fun hnamed => ?_
          cases ((names_iff hs).1 hnamed).symm.trans hrefusal
      | none =>
          have hnamed : c.Names q := (names_iff hs).2 hrefusal
          simp only [hs, if_true]
          have hlock : (lockOf ((c.called n).workspaceOf q) (c.called n).locks) =
              lockOf (c.workspaceOf q) c.locks := rfl
          rw [hlock]
          split
          · next hbusy => exact .waited ht (by simpa using hbusy) hnamed
          · next hfree =>
              have hfree : (lockOf (c.workspaceOf q) c.locks).held = false ∧
                  (lockOf (c.workspaceOf q) c.locks).waiting = [] := by
                simpa using hfree
              exact .entered ht ⟨hfree.1, .inl ⟨hp, hfree.2⟩⟩ hnamed
  | queued =>
      exact .entered ht ⟨hgo.1, .inr ⟨hp, hgo.2⟩⟩ ((h.standing ht).names (by simp) (by simp))
  | calling turns reply wait =>
      match turns with
      | 0 => exact .resumed ht (by omega)
      | 1 => exact .resumed ht (by omega)
      | k + 2 => exact .ticked ht
  | ended r => exact hgo.elim
  | refused e => exact hgo.elim
  | broken trouble => exact hgo.elim

/-! ## After the step of a run

`advance` takes note of how far a run has come. It is laid open here, once
for a call and once for the end. -/

theorem advance_asking (v : Validator) (c : Schedule) (n : Nat) (q : Request) (s : Session)
    (call : Call) (wait : Wait) :
    c.advance v n q (s, .asking call wait) =
      ⟨(s.dial call).1, c.tasks.modify n fun p => (p.1, .calling callTurns (s.dial call).2 wait),
        c.queue ++ [n], c.locks⟩ := rfl

theorem lockOf_leave (w : Location) (locks : List Lock) :
    (lockOf w (onLock w Lock.leave locks)).waiting = (lockOf w locks).waiting := by
  rw [lockOf_onLock Lock.leave fun _ => rfl, if_pos rfl]
  rfl

theorem advance_ended (hs : v.settings.serialize = true) (c : Schedule) (n : Nat) (q : Request)
    (s : Session) (r : Result) :
    c.advance v n q (s, .ended r) =
      ⟨s.note (.report r),
        c.tasks.modify n fun p => (p.1, Task.ofOutcome (v.handOver r)),
        c.queue ++
          (lockOf (q.workspace.locationFrom s.files.base.here) c.locks).waiting.head?.toList,
        onLock (q.workspace.locationFrom s.files.base.here) Lock.leave c.locks⟩ := by
  have hrel (c : Schedule) (w : Location) :
      c.release w = ⟨c.session, c.tasks,
        c.queue ++ (lockOf w c.locks).waiting.head?.toList, onLock w Lock.leave c.locks⟩ := by
    have hw := lockOf_leave w c.locks
    simp only [release]
    split
    · next hnil =>
        have hnil : (lockOf w (onLock w Lock.leave c.locks)).waiting = [] := hnil
        rw [hw] at hnil
        simp only [hnil, List.head?_nil, Option.toList_none, List.append_nil]
        rfl
    · next m ms hcons =>
        have hcons : (lockOf w (onLock w Lock.leave c.locks)).waiting = m :: ms := hcons
        rw [hw] at hcons
        simp only [hcons, List.head?_cons, Option.toList_some]
        rfl
  simp only [advance, hs, if_true, hrel, Validator.notify, Validator.handOver]
  cases v.trouble (.report r) with
  | none => rfl
  | some t => simp only [setTask, Task.ofOutcome, List.modify_modify_eq]; rfl

/-! ## Requests keep naming the same workspaces -/

theorem base_settle (s : Session) (reply : Reply) :
    (s.settle reply).files.base = s.files.base :=
  FileSystem.plantAll_keeps (I := fun fs => fs.base = s.files.base)
    (fun w _ fs h => (fs.base_plant w.2 w.1 []).trans h) rfl

/-- What a run does after its call leaves in place what paths start from. -/
theorem base_resume (v : Validator) (q : Request) (wait : Wait) (reply : Reply) (s : Session) :
    (v.resume q wait reply.answer (s.settle reply)).1.files.base = s.files.base :=
  (v.resume_acts q wait reply.answer (s.settle reply)).files.base_eq.trans (base_settle s reply)

theorem base_advance (hs : v.settings.serialize = true) (c : Schedule) (n : Nat) (q : Request)
    (p : Session × Progress) :
    (c.advance v n q p).session.files.base = p.1.files.base := by
  obtain ⟨s, _ | r⟩ := p
  · rw [advance_asking, Session.dial_eq]
  · rw [advance_ended hs]; rfl

/-! ## The discipline is kept -/

/-- A run has the lock and its turn, so that it is not in the queue. -/
structure Holding (c : Schedule) (n : Nat) (q : Request) : Prop where
  task : ∃ t, c.tasks[n]? = some (q, t)
  names : c.Names q
  disciplined : Disciplined (c.places.set n (c.workspaceOf q) .inside) c.locks (n :: c.queue)
  standing : c.Standing

/-- One run comes to stand where it may. -/
theorem Standing.modify {t t₀ : Task} (h : c.Standing) (task : c.tasks[n]? = some (q, t₀))
    (ht : c.MayStand q t) (htasks : c'.tasks = c.tasks.modify n fun p => (p.1, t))
    (hbase : c'.session.files.base = c.session.files.base) : c'.Standing := by
  intro m q' t' hm
  refine MayStand.congr ?_ hbase
  rw [htasks] at hm
  by_cases e : m = n
  · subst e
    rw [getElem?_modify_self task] at hm
    cases hm
    exact ht
  · rw [List.getElem?_modify_ne _ _ (Ne.symm e)] at hm
    exact h hm

/-- Where the runs stand, and what becomes of the locks, after a run that
had the lock went on: it has it still, or it left. -/
theorem Holding.advance (h : c.Holding n q) (hs : v.settings.serialize = true)
    {p : Session × Progress} (hhere : p.1.files.base = c.session.files.base) :
    (∃ call wait, p.2 = .asking call wait ∧
      (c.advance v n q p).places = c.places.set n (c.workspaceOf q) .inside ∧
      (c.advance v n q p).locks = c.locks ∧ (c.advance v n q p).queue = c.queue ++ [n]) ∨
    (∃ r, p.2 = .ended r ∧
      (c.advance v n q p).places =
        (c.places.set n (c.workspaceOf q) .inside).set n (c.workspaceOf q) .released ∧
      (c.advance v n q p).locks = onLock (c.workspaceOf q) Lock.leave c.locks ∧
      (c.advance v n q p).queue =
        c.queue ++ (lockOf (c.workspaceOf q) c.locks).waiting.head?.toList) := by
  obtain ⟨t₀, htask⟩ := h.task
  have hhere' := (base_advance hs c n q p).trans hhere
  obtain ⟨s, prog⟩ := p
  cases prog with
  | asking call wait =>
      refine .inl ⟨call, wait, rfl, ?_, rfl, rfl⟩
      exact places_modify htask rfl hhere'
  | ended r =>
      have hw : q.workspace.locationFrom s.files.base.here = c.workspaceOf q := by
        simp only [workspaceOf]; rw [hhere]
      refine .inr ⟨r, rfl, ?_, ?_, ?_⟩
      · rw [places_modify htask (by rw [advance_ended hs]) hhere', Task.phase_ofOutcome]
        exact (Places.set_set ..).symm
      · rw [advance_ended hs, hw]
      · rw [advance_ended hs, hw]

theorem Holding.sound (h : c.Holding n q) (hs : v.settings.serialize = true)
    {p : Session × Progress} (hhere : p.1.files.base = c.session.files.base) :
    (c.advance v n q p).Sound := by
  obtain ⟨t₀, htask⟩ := h.task
  have hbase := (base_advance hs c n q p).trans hhere
  have hstanding (t : Task) (ht : ∀ e, t ≠ .refused e)
      (htasks : (c.advance v n q p).tasks = c.tasks.modify n fun p => (p.1, t)) :
      (c.advance v n q p).Standing :=
    h.standing.modify htask (.of_names h.names ht) htasks hbase
  rcases h.advance hs hhere with ⟨call, wait, hp, hplaces, hlocks, hqueue⟩ |
    ⟨r, hp, hplaces, hlocks, hqueue⟩
  · refine ⟨?_, hstanding (.calling callTurns (p.1.dial call).2 wait) (by simp) ?_⟩
    · rw [hplaces, hlocks, hqueue]
      exact h.disciplined.perm (List.perm_append_singleton n c.queue).symm
    · obtain ⟨s, _⟩ := p; cases hp; rfl
  · refine ⟨?_, hstanding (Task.ofOutcome (v.handOver r)) ?_ ?_⟩
    · rw [hplaces, hlocks, hqueue]
      have hleave := h.disciplined.leave (Places.set_self ..)
      rwa [List.erase_cons_head] at hleave
    · cases v.handOver r <;> simp [Task.ofOutcome]
    · obtain ⟨s, _⟩ := p; cases hp; rw [advance_ended hs]

/-- A run that is about to enter has the lock as soon as it takes it. -/
theorem Sound.holding_take (h : c.Sound) (hq : n ∈ c.queue) {t : Task}
    (task : c.tasks[n]? = some (q, t))
    (may : Disciplined.MayEnter c.places c.locks (c.workspaceOf q) n)
    (named : c.Names q) :
    ((c.called n).take n (c.workspaceOf q)).Holding n q where
  task := ⟨t, task⟩
  names := named
  disciplined := (h.disciplined.enter hq may).perm (List.perm_cons_erase hq)
  standing _ _ _ ht := (h.standing ht).congr rfl

/-- A run that is inside has the lock. -/
theorem Sound.holding_called (h : c.Sound) (hq : n ∈ c.queue) {t : Task}
    (task : c.tasks[n]? = some (q, t)) (ht : t.phase = .inside) :
    (c.called n).Holding n q where
  task := ⟨t, task⟩
  names := (h.standing task).names (by rintro rfl; cases ht) (by rintro e rfl; cases ht)
  disciplined := by
    have hset : c.places.set n (c.workspaceOf q) .inside = c.places :=
      Places.set_eq_self (by rw [places_of_task task, ht])
    have hd := h.disciplined.perm (List.perm_cons_erase hq)
    rw [← hset] at hd
    exact hd
  standing _ _ _ ht := (h.standing ht).congr rfl

/-- Whichever run takes its turn, the schedule stays sound. -/
theorem Sound.turnOf (h : c.Sound) (hs : v.settings.serialize = true) (hq : n ∈ c.queue) :
    (c.turnOf v n).Sound := by
  obtain ⟨q, ht⟩ := h.turned hs hq
  generalize c.turnOf v n = c' at ht ⊢
  cases ht with
  | @refused e task unnamed =>
      have hplaces := places_setTask task (.refused e)
      refine ⟨?_, h.standing.modify task ⟨fun _ => .inr ⟨e, rfl⟩, fun _ => unnamed⟩ rfl rfl⟩
      have hd := h.disciplined.turnAway (places_of_task task)
      rw [show c.places.set n (c.workspaceOf q) .refused = _ from hplaces.symm] at hd
      exact hd
  | waited task busy named =>
      have hplaces := places_setTask task .queued
      refine ⟨?_, h.standing.modify task (.of_names named (by simp)) rfl rfl⟩
      have hd := h.disciplined.wait (places_of_task task) busy
      rw [show c.places.set n (c.workspaceOf q) .queued = _ from hplaces.symm] at hd
      exact hd
  | entered task may named =>
      exact (h.holding_take hq task may named).sound hs (v.start_acts q c.session).files.base_eq
  | @ticked turns reply wait task =>
      have hnamed : c.Names q := (h.standing task).names (by simp) (by simp)
      refine ⟨?_, h.standing.modify task (.of_names hnamed (by simp)) rfl rfl⟩
      · have hplaces : (c.setTask n (.calling (turns + 1) reply wait)).places = c.places :=
          places_setTask_self task rfl
        have hd := h.disciplined.perm ((List.perm_cons_erase hq).trans
          (List.perm_append_singleton n _).symm)
        rw [← hplaces] at hd
        exact hd
  | resumed task now =>
      exact (h.holding_called hq task rfl).sound hs (base_resume v q _ _ c.session)

/-! ## What a turn changes -/

/-- How the turn of a run changes the places of runs and the locks. -/
inductive Change (P : Places) (locks : List Lock) (n : Nat) (w : Location) :
    Places → List Lock → Prop where
  | stayed : Change P locks n w P locks
  | refused : P n = some (w, .new) → Change P locks n w (P.set n w .refused) locks
  | waited : P n = some (w, .new) →
      Change P locks n w (P.set n w .queued) (onLock w (Lock.await n) locks)
  | entered : Disciplined.MayEnter P locks w n →
      Change P locks n w (P.set n w .inside) (onLock w (Lock.enter n) locks)
  /-- It entered, and left in the same turn. -/
  | passed : Disciplined.MayEnter P locks w n →
      Change P locks n w ((P.set n w .inside).set n w .released)
        (onLock w Lock.leave (onLock w (Lock.enter n) locks))
  | left : P n = some (w, .inside) →
      Change P locks n w (P.set n w .released) (onLock w Lock.leave locks)

/-- A turn is one of these changes. -/
theorem Sound.change_turnOf (h : c.Sound) (hs : v.settings.serialize = true) (hq : n ∈ c.queue) :
    ∃ w ph, c.places n = some (w, ph) ∧
      Change c.places c.locks n w (c.turnOf v n).places (c.turnOf v n).locks := by
  obtain ⟨q, ht⟩ := h.turned hs hq
  generalize c.turnOf v n = c' at ht ⊢
  cases ht with
  | @refused e task unnamed =>
      have hplaces := places_setTask task (.refused e)
      have hchange : Change c.places c.locks n (c.workspaceOf q) (c.places.set n _ .refused)
          c.locks := .refused (places_of_task task)
      rw [show c.places.set n (c.workspaceOf q) .refused = _ from hplaces.symm] at hchange
      exact ⟨_, _, places_of_task task, hchange⟩
  | waited task _ _ =>
      have hplaces := places_setTask task .queued
      have hchange : Change c.places c.locks n (c.workspaceOf q) (c.places.set n _ .queued) _ :=
        .waited (places_of_task task)
      rw [show c.places.set n (c.workspaceOf q) .queued = _ from hplaces.symm] at hchange
      exact ⟨_, _, places_of_task task, hchange⟩
  | entered task may named =>
      refine ⟨_, _, places_of_task task, ?_⟩
      rcases (h.holding_take hq task may named).advance hs
        (v.start_acts q c.session).files.base_eq with
        ⟨_, _, _, hplaces, hlocks, _⟩ | ⟨_, _, hplaces, hlocks, _⟩
      · rw [hplaces, hlocks]
        exact .entered may
      · rw [hplaces, hlocks]
        exact .passed may
  | @ticked turns reply wait task =>
      have hplaces : (c.setTask n (.calling (turns + 1) reply wait)).places = c.places :=
        places_setTask_self task rfl
      have hchange : Change c.places c.locks n (c.workspaceOf q)
          (c.setTask n (.calling (turns + 1) reply wait)).places c.locks := by
        rw [hplaces]
        exact .stayed
      exact ⟨_, _, places_of_task task, hchange⟩
  | resumed task now =>
      refine ⟨_, _, places_of_task task, ?_⟩
      have hset : c.places.set n (c.workspaceOf q) .inside = c.places :=
        Places.set_eq_self (places_of_task task)
      have hcalled : (c.called n).places = c.places := rfl
      have hw : (c.called n).workspaceOf q = c.workspaceOf q := rfl
      rcases (h.holding_called hq task rfl).advance hs (base_resume v q _ _ c.session) with
        ⟨_, _, _, hplaces, hlocks, _⟩ | ⟨_, _, hplaces, hlocks, _⟩
      · rw [hplaces, hlocks, hcalled, hw, hset]
        exact .stayed
      · rw [hplaces, hlocks, hcalled, hw, hset]
        exact .left (places_of_task task)

/-! ## The order is kept -/

theorem Sound.ordered_turnOf (h : c.Sound) (hs : v.settings.serialize = true)
    (ho : Ordered c.places c.locks) (hq : n ∈ c.queue) (hfirst : Ordered.FirstNew c.places n) :
    Ordered (c.turnOf v n).places (c.turnOf v n).locks := by
  obtain ⟨w, _, _, hchange⟩ := h.change_turnOf hs hq
  generalize (c.turnOf v n).places = P at hchange ⊢
  generalize (c.turnOf v n).locks = locks at hchange ⊢
  cases hchange with
  | stayed => exact ho
  | refused _ => exact ho.turnAway hfirst
  | waited hn => exact ho.wait h.disciplined hn hfirst
  | entered may => exact ho.enter h.disciplined may hfirst
  | passed may => exact (ho.enter h.disciplined may hfirst).leave (Places.set_self ..)
  | left hn => exact ho.leave hn

/-! ## What can be reached -/

/-- A schedule is reached by turns of runs that can go on. -/
inductive Reaches (v : Validator) (c : Schedule) : Schedule → Prop where
  | refl : Reaches v c c
  | turn {c' : Schedule} {n : Nat} : Reaches v c c' → n ∈ c'.queue →
      Reaches v c (c'.turnOf v n)

/-- It is the turn of a run: it can go on, and if it has not begun, then those
with smaller numbers have. -/
structure InTurn (c : Schedule) (n : Nat) : Prop where
  mem : n ∈ c.queue
  first {m : Nat} {q q' : Request} : m < n → c.tasks[n]? = some (q, .new) →
    c.tasks[m]? ≠ some (q', .new)

/-- A schedule is reached by turns, and the runs begin in order. -/
inductive ReachesInOrder (v : Validator) (c : Schedule) : Schedule → Prop where
  | refl : ReachesInOrder v c c
  | turn {c' : Schedule} {n : Nat} : ReachesInOrder v c c' → c'.InTurn n →
      ReachesInOrder v c (c'.turnOf v n)

theorem ReachesInOrder.reaches (h : ReachesInOrder v c c') : Reaches v c c' := by
  induction h with
  | refl => exact .refl
  | turn _ hn ih => exact ih.turn hn.mem

theorem Reaches.sound (h : Reaches v c c') (hs : v.settings.serialize = true) (hc : c.Sound) :
    c'.Sound := by
  induction h with
  | refl => exact hc
  | turn _ hn ih => exact ih.turnOf hs hn

theorem eq_new_of_phase {t : Task} (h : t.phase = .new) : t = .new := by
  cases t with
  | new => rfl
  | _ => cases h

theorem InTurn.firstNew (h : c.InTurn n) (ho : Ordered c.places c.locks) {w : Location}
    {ph : Phase} (hn : c.places n = some (w, ph)) : Ordered.FirstNew c.places n := by
  by_cases hph : ph = .new
  · subst hph
    obtain ⟨q, t, ht, _, hnew⟩ := places_eq_some.1 hn
    rw [eq_new_of_phase hnew] at ht
    intro m w' hm hp
    obtain ⟨q', t', ht', _, hnew'⟩ := places_eq_some.1 hp
    rw [eq_new_of_phase hnew'] at ht'
    exact h.first hm ht ht'
  · exact ho.firstNew hn hph

theorem Sound.place_of_mem_queue (h : c.Sound) (hq : n ∈ c.queue) :
    ∃ w ph, c.places n = some (w, ph) := by
  obtain ⟨w, ph, hp, _⟩ := h.disciplined.mem_queue.1 hq
  exact ⟨w, ph, hp⟩

theorem ReachesInOrder.ordered (h : ReachesInOrder v c c') (hs : v.settings.serialize = true)
    (hc : c.Sound) (ho : Ordered c.places c.locks) : Ordered c'.places c'.locks := by
  induction h with
  | refl => exact ho
  | turn hr hn ih =>
      have hsound := hr.reaches.sound hs hc
      obtain ⟨w, ph, hp⟩ := hsound.place_of_mem_queue hn.mem
      exact hsound.ordered_turnOf hs ih hn.mem (hn.firstNew ih hp)

/-! ## The beginning -/

variable {s : Session} {qs : List Request} {w : Location}

theorem getElem?_ofRequests {locks : List Lock} {t : Task}
    (h : (ofRequests s locks qs).tasks[n]? = some (q, t)) : qs[n]? = some q ∧ t = .new := by
  rw [show (ofRequests s locks qs).tasks = qs.map fun q => (q, Task.new) from rfl,
    List.getElem?_map, Option.map_eq_some_iff] at h
  obtain ⟨q', hq, e⟩ := h
  cases e
  exact ⟨hq, rfl⟩

theorem places_ofRequests {locks : List Lock} {ph : Phase}
    (h : (ofRequests s locks qs).places n = some (w, ph)) : ph = .new ∧ n < qs.length := by
  obtain ⟨q, t, ht, _, rfl⟩ := places_eq_some.1 h
  obtain ⟨hq, rfl⟩ := getElem?_ofRequests ht
  exact ⟨rfl, (List.getElem?_eq_some_iff.1 hq).1⟩

/-- The locks that earlier runs have left behind are free, and nobody waits. -/
def Idle (locks : List Lock) : Prop := ∀ l ∈ locks, l.held = false ∧ l.waiting = []

theorem Idle.lockOf {locks : List Lock} (h : Idle locks) (w : Location) :
    (lockOf w locks).held = false ∧ (lockOf w locks).waiting = [] := by
  simp only [Schedule.lockOf]
  cases hl : locks.find? fun l => l.workspace = w with
  | none => exact ⟨rfl, rfl⟩
  | some l => exact h l (List.mem_of_find?_eq_some hl)

theorem sound_ofRequests {locks : List Lock} (h : Idle locks) (s : Session)
    (qs : List Request) : (ofRequests s locks qs).Sound where
  disciplined :=
    { mem_waiting := by
        intro w n
        rw [show (ofRequests s locks qs).locks = locks from rfl, (h.lockOf w).2]
        refine iff_of_false (by simp) fun hp => ?_
        cases (places_ofRequests hp).1
      waiting_nodup := by
        intro w
        rw [show (ofRequests s locks qs).locks = locks from rfl, (h.lockOf w).2]
        exact List.nodup_nil
      held_iff := by
        intro w
        rw [show (ofRequests s locks qs).locks = locks from rfl, (h.lockOf w).1]
        refine iff_of_false (by simp) ?_
        rintro ⟨n, hp⟩
        cases (places_ofRequests hp).1
      inside_unique := by
        intro w n m hp
        cases (places_ofRequests hp).1
      queue_nodup := List.nodup_range
      mem_queue := by
        intro n
        rw [show (ofRequests s locks qs).queue = List.range qs.length from rfl, List.mem_range]
        constructor
        · intro hn
          have ht : (ofRequests s locks qs).tasks[n]? = some (qs[n], .new) := by
            rw [show (ofRequests s locks qs).tasks = qs.map fun q => (q, Task.new) from rfl,
              List.getElem?_map, List.getElem?_eq_getElem hn]
            rfl
          exact ⟨_, _, places_of_task ht, trivial⟩
        · rintro ⟨w, ph, hp, _⟩
          exact (places_ofRequests hp).2 }
  standing n q t ht := by
    rw [(getElem?_ofRequests ht).2]
    exact ⟨fun _ => .inl rfl, fun he => by cases he⟩

theorem ordered_ofRequests {locks : List Lock} (h : Idle locks) (s : Session)
    (qs : List Request) :
    Ordered (ofRequests s locks qs).places (ofRequests s locks qs).locks where
  new_after _ _ hp := (places_ofRequests hp).1
  waiting_sorted w := by
    rw [show (ofRequests s locks qs).locks = locks from rfl, (h.lockOf w).2]
    exact List.Pairwise.nil
  entered_after _ _ hp hph := by
    rw [(places_ofRequests hp).1] at hph
    rcases hph with e | e <;> cases e

/-! ## The end -/

/-- A run that is not over and cannot go on waits behind a run of its own
workspace that can. -/
theorem Sound.waits_behind (h : c.Sound) {ph : Phase} (hp : c.places n = some (w, ph))
    (hq : n ∉ c.queue) : ph = .released ∨ ph = .refused ∨
      ph = .queued ∧ ∃ m ∈ c.queue, m ≠ n ∧
        (c.places m = some (w, .inside) ∨ c.places m = some (w, .queued)) := by
  have stuck (hgo : ph.CanGo (lockOf w c.locks) n) : False :=
    hq (h.disciplined.mem_queue.2 ⟨w, ph, hp, hgo⟩)
  cases ph with
  | new => exact (stuck trivial).elim
  | inside => exact (stuck trivial).elim
  | released => exact .inl rfl
  | refused => exact .inr (.inl rfl)
  | queued =>
      refine .inr (.inr ⟨rfl, ?_⟩)
      cases hheld : (lockOf w c.locks).held with
      | true =>
          obtain ⟨m, hm⟩ := h.disciplined.held_iff.1 hheld
          refine ⟨m, h.disciplined.mem_queue.2 ⟨w, .inside, hm, trivial⟩, ?_, .inl hm⟩
          rintro rfl
          rw [hp] at hm
          cases hm
      | false =>
          have hmem := h.disciplined.mem_waiting.2 hp
          obtain ⟨m, ms, hw⟩ := List.exists_cons_of_ne_nil (List.ne_nil_of_mem hmem)
          have hm : c.places m = some (w, .queued) :=
            h.disciplined.mem_waiting.1 (by rw [hw]; exact List.mem_cons_self)
          have hhead : (lockOf w c.locks).waiting.head? = some m := by rw [hw]; rfl
          refine ⟨m, h.disciplined.mem_queue.2 ⟨w, .queued, hm, hheld, hhead⟩, ?_, .inr hm⟩
          rintro rfl
          exact stuck ⟨hheld, hhead⟩

/-- In a sound schedule in which no run can go on, every run is over: who is
queued waits for somebody who can. -/
theorem Sound.released_of_queue_nil (h : c.Sound) (hq : c.queue = []) {ph : Phase}
    (hp : c.places n = some (w, ph)) : ph = .released ∨ ph = .refused := by
  have nobody (m : Nat) : m ∉ c.queue := by
    rw [hq]
    exact List.not_mem_nil
  rcases h.waits_behind hp (nobody n) with hph | hph | ⟨_, m, hm, _⟩
  · exact .inl hph
  · exact .inr hph
  · exact absurd hm (nobody m)

end Schedule

end ManifestPolicy
