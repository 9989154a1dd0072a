import ManifestPolicy.Proofs.LockPerRoot

/-!
# While the evaluator is at work

The evaluator reads two files, the document and the policy, and a run that
asked it waits until it has answered. What other runs can do in the meantime
depends on their workspace. A run of the same workspace does nothing at all,
for it cannot have the lock (`Sound.session_turnOf`). A run of another
workspace has a lock of its own, and goes on: apart from what tools have
written, it may write its own plain document and its own policy, and nothing
else (`Turned.frame`). So a file stays as it was until the answer comes if
neither of these paths leads to it and no tool writes it (`Reaches.sameFile`).
A lock goes by a workspace but a plain document lies beside its template, and so
two templates in one directory share theirs even if they belong to different
workspaces (`shared_plain_document`).
-/

namespace ManifestPolicy

open Schedule

namespace Validator

variable {v : Validator} {q : Request} {s : Session}

/-- Whoever waits for the evaluator has asked it about the same two files. -/
def Fitting (v : Validator) : Progress → Prop
  | .asking call (.evaluation target policy _) =>
    call = (Evaluator.ofSettings v.settings).call target policy
  | _ => True

theorem fitting_judge (v : Validator) (q : Request) (target : Path) (warnings : List String)
    (s : Session) : v.Fitting (v.judge q target warnings s).2 := by
  unfold judge
  split
  · trivial
  · exact rfl

theorem fitting_fallBack (v : Validator) (q : Request) (s : Session) :
    v.Fitting (v.fallBack q s).2 := by
  unfold fallBack
  dsimp only
  split
  · trivial
  · split
    · trivial
    · exact v.fitting_judge q _ _ _

theorem fitting_start (v : Validator) (q : Request) (s : Session) :
    v.Fitting (v.start q s).2 := by
  unfold start
  split
  · trivial
  · exact v.fitting_judge q _ _ s
  · split
    · trivial
    · exact v.fitting_fallBack q s

theorem fitting_resume (v : Validator) (q : Request) (wait : Wait) (a : Answer) (s : Session) :
    v.Fitting (v.resume q wait a s).2 := by
  cases wait with
  | version =>
      simp only [resume]
      split
      · trivial
      · trivial
      · exact v.fitting_fallBack q s
  | rendering =>
      simp only [resume]
      split
      · trivial
      · exact v.fitting_judge q _ _ s
  | evaluation target policy warnings => trivial

end Validator

/-- What a tool has written when the run that called it has its turn. -/
def Task.delivers : Task → List (Location × Entry)
  | .calling 0 reply _ => reply.writes
  | .calling 1 reply _ => reply.writes
  | _ => []

namespace Schedule

variable {v : Validator} {c c' : Schedule} {n m : Nat} {q q' : Request} {qs : List Request}
  {s : Session}

/-! ## The calls of the evaluator -/

/-- Every run that waits for the evaluator has asked it. -/
def Asked (v : Validator) (c : Schedule) : Prop :=
  ∀ (n : Nat) (q : Request) (turns : Nat) (reply : Reply) (target policy : Path)
    (warnings : List String),
    c.tasks[n]? = some (q, .calling turns reply (.evaluation target policy warnings)) →
    (Evaluator.ofSettings v.settings).call target policy ∈ c.session.calls

/-- Changing where one run stands changes nothing for the others, as long as
the calls are kept. -/
theorem Asked.modify (h : Asked v c) {t : Task}
    (htasks : c'.tasks = c.tasks.modify n fun p => (p.1, t))
    (hcalls : ∀ call ∈ c.session.calls, call ∈ c'.session.calls)
    (ht : ∀ turns reply target policy warnings,
      t = .calling turns reply (.evaluation target policy warnings) →
      (Evaluator.ofSettings v.settings).call target policy ∈ c'.session.calls) :
    Asked v c' := by
  intro m q turns reply target policy warnings hm
  rw [htasks] at hm
  by_cases e : m = n
  · subst e
    rw [List.getElem?_modify_eq, Option.map_eq_map, Option.map_eq_some_iff] at hm
    obtain ⟨p, _, hp⟩ := hm
    injection hp with _ hp
    exact ht turns reply target policy warnings hp
  · rw [List.getElem?_modify_ne _ _ (Ne.symm e)] at hm
    exact hcalls _ (h m q turns reply target policy warnings hm)

theorem Asked.advance (h : Asked v c) (hs : v.settings.serialize = true)
    {p : Session × Progress} (hcalls : p.1.calls = c.session.calls) (hfit : v.Fitting p.2) :
    Asked v (c.advance v n q p) := by
  obtain ⟨s, prog⟩ := p
  have hcalls : s.calls = c.session.calls := hcalls
  cases prog with
  | asking call wait =>
      have hdial : (c.advance v n q (s, .asking call wait)).session.calls =
          c.session.calls ++ [call] := by
        rw [advance_asking, Session.dial_eq, hcalls]
      refine h.modify (n := n) (t := .calling callTurns (s.dial call).2 wait) rfl ?_ ?_
      · intro call' hcall
        rw [hdial]
        exact List.mem_append_left _ hcall
      · rintro turns reply target policy warnings e
        injection e with _ _ e
        subst e
        rw [hdial, ← show call = _ from hfit]
        exact List.mem_append_right _ List.mem_cons_self
  | ended r =>
      have hended := advance_ended hs c n q s r
      refine h.modify (n := n) (t := Task.ofOutcome (v.handOver r)) (by rw [hended]) ?_ ?_
      · intro call' hcall
        rw [hended, show (s.note (.report r)).calls = s.calls from rfl, hcalls]
        exact hcall
      · intro turns reply target policy warnings e
        cases ho : v.handOver r <;> rw [ho] at e <;> cases e

theorem Sound.asked_turnOf (h : c.Sound) (hs : v.settings.serialize = true) (hq : n ∈ c.queue)
    (ha : Asked v c) : Asked v (c.turnOf v n) := by
  obtain ⟨q, ht⟩ := h.turned hs hq
  generalize c.turnOf v n = c' at ht ⊢
  cases ht with
  | refused task _ =>
      exact ha.modify rfl (fun _ hc => hc) fun _ _ _ _ _ e => by cases e
  | waited task _ _ =>
      exact ha.modify rfl (fun _ hc => hc) fun _ _ _ _ _ e => by cases e
  | entered task _ _ =>
      have ha' : Asked v ((c.called n).take n (c.workspaceOf q)) := ha
      exact ha'.advance hs (v.start_acts q c.session).calls_eq (v.fitting_start q c.session)
  | @ticked turns reply wait task =>
      refine ha.modify rfl (fun _ hc => hc) fun _ _ _ _ _ e => ?_
      injection e with _ _ e
      subst e
      exact ha _ _ _ _ _ _ _ task
  | @resumed turns reply wait task _ =>
      have ha' : Asked v (c.called n) := ha
      exact ha'.advance hs (v.resume_acts q wait reply.answer (c.session.settle reply)).calls_eq
        (v.fitting_resume q wait _ _)

theorem Reaches.asked {locks : List Lock} (hidle : Idle locks)
    (hs : v.settings.serialize = true) (h : Reaches v (ofRequests s locks qs) c) :
    Asked v c := by
  induction h with
  | refl =>
      intro n q turns reply target policy warnings hn
      cases (getElem?_ofRequests hn).2
  | turn hr hn ih => exact (hr.sound hs (sound_ofRequests hidle s qs)).asked_turnOf hs hn ih

/-! ## The turns of others -/

theorem Turned.task (h : Turned v c n q c') : ∃ t, c.tasks[n]? = some (q, t) := by
  cases h with
  | refused task _ => exact ⟨_, task⟩
  | waited task _ _ => exact ⟨_, task⟩
  | entered task _ _ => exact ⟨_, task⟩
  | ticked task => exact ⟨_, task⟩
  | resumed task _ => exact ⟨_, task⟩

/-- A turn changes where this run stands, and no other one. -/
theorem Turned.tasks (h : Turned v c n q c') (hs : v.settings.serialize = true) :
    ∃ t, c'.tasks = c.tasks.modify n fun p => (p.1, t) := by
  cases h with
  | refused => exact ⟨_, rfl⟩
  | waited => exact ⟨_, rfl⟩
  | entered =>
      obtain ⟨t, htasks, _⟩ := advance_tasks hs ((c.called n).take n (c.workspaceOf q)) n q
        (v.start q c.session)
      exact ⟨t, htasks⟩
  | ticked => exact ⟨_, rfl⟩
  | @resumed turns reply wait =>
      obtain ⟨t, htasks, _⟩ := advance_tasks hs (c.called n) n q
        (v.resume q wait reply.answer (c.session.settle reply))
      exact ⟨t, htasks⟩

/-- A turn that is known by its number is that of the request with this number. -/
theorem Sound.turned_of_task (h : c.Sound) (hs : v.settings.serialize = true) (hq : n ∈ c.queue)
    {t : Task} (task : c.tasks[n]? = some (q, t)) : Turned v c n q (c.turnOf v n) := by
  obtain ⟨q', ht⟩ := h.turned hs hq
  obtain ⟨t', task'⟩ := ht.task
  rw [task] at task'
  cases task'
  exact ht

theorem files_advance (hs : v.settings.serialize = true) (c : Schedule) (n : Nat) (q : Request)
    (p : Session × Progress) : (c.advance v n q p).session.files = p.1.files := by
  obtain ⟨s, call | r⟩ := p
  · rw [advance_asking, Session.dial_eq]
  · rw [advance_ended hs]
    rfl

/-- Who enters was not in a call. -/
theorem delivers_of_mayEnter {t : Task} (task : c.tasks[n]? = some (q, t))
    (may : Disciplined.MayEnter c.places c.locks (c.workspaceOf q) n) : t.delivers = [] := by
  obtain ⟨ph, hp, hph⟩ := may.place
  rw [places_of_task task] at hp
  cases hp
  cases t with
  | calling turns reply wait => rcases hph with e | e <;> cases e
  | _ => rfl

/-- What a run does in its turn to the files, beside what a tool has written for it: it writes to
its two paths, and makes directories above the policy. -/
theorem Turned.frame (h : Turned v c n q c') (hs : v.settings.serialize = true) {t : Task}
    (task : c.tasks[n]? = some (q, t)) :
    FileSystem.Frame (v.Writes q c'.session.files) (v.Makes q c'.session.files)
      (c.session.files.plantAll t.delivers) c'.session.files := by
  have same {t' : Task} (task' : c.tasks[n]? = some (q, t')) : t = t' := by
    rw [task] at task'
    cases task'
    rfl
  cases h with
  | refused task' _ => rw [same task']; exact .refl _ _ _
  | waited task' _ _ => rw [same task']; exact .refl _ _ _
  | entered task' may _ =>
      rw [delivers_of_mayEnter task may, files_advance hs]
      exact (v.start_acts q c.session).files
  | ticked task' => rw [same task']; exact .refl _ _ _
  | @resumed turns reply wait task' now =>
      have hdelivers : t.delivers = reply.writes := by
        rw [same task']
        match turns with
        | 0 => rfl
        | 1 => rfl
      rw [hdelivers, files_advance hs]
      exact (v.resume_acts q wait reply.answer (c.session.settle reply)).files

/-- While a run has the lock, another run of the workspace can at most come
to wait, or be turned away. -/
theorem Sound.session_turnOf (h : c.Sound) (hs : v.settings.serialize = true)
    {w : Location} (hn : c.places n = some (w, .inside)) (hm : m ∈ c.queue) (hne : m ≠ n)
    {t : Task} (task : c.tasks[m]? = some (q, t)) (hw : c.workspaceOf q = w) :
    (c.turnOf v m).session = c.session := by
  subst hw
  have hheld := h.disciplined.held hn
  have ht := h.turned_of_task hs hm task
  generalize c.turnOf v m = c' at ht ⊢
  cases ht with
  | refused => rfl
  | waited => rfl
  | entered _ may _ =>
      rw [may.1] at hheld
      cases hheld
  | ticked => rfl
  | resumed task' _ => exact absurd (h.disciplined.inside_unique (places_of_task task') hn) hne

/-! ## Two templates in one directory -/

/-- Templates are made plain. -/
def withoutRenderer : Validator := ⟨{ renderer := { enabled := false } }, fun _ => none⟩

/-- The templates `x.yaml` and `y.yaml` of one directory, in workspaces of
their own. -/
def twoTemplates : List Request :=
  [⟨⟨.none, ["d", "x.yaml"]⟩, ⟨.none, ["a"]⟩, some true, .manual⟩,
    ⟨⟨.none, ["d", "y.yaml"]⟩, ⟨.none, ["b"]⟩, some true, .manual⟩]

/-- Their files, with a tool that finds nothing and writes nothing. -/
def besideEachOther : Session where
  files :=
    [(["a", "policies", "rules.yaml"], "rules: []\n"),
      (["b", "policies", "rules.yaml"], "rules: []\n"),
      (["d", "x.yaml"], "a: \x7b\x7b .Values.x \x7d\x7d\n"),
      (["d", "y.yaml"], "b: \x7b\x7b .Values.y \x7d\x7d\n")].foldl
      (fun fs f => fs.plant (.file f.2.toUTF8) [] f.1) ⟨[], { here := [] }⟩
  replies := [⟨[], .completed ⟨0, "[]", ""⟩⟩, ⟨[], .completed ⟨0, "[]", ""⟩⟩]

/-- The first template is with the evaluator. -/
def firstAsked : Schedule := (ofRequests besideEachOther [] twoTemplates).turnOf withoutRenderer 0

theorem reaches_firstAsked :
    Reaches withoutRenderer (ofRequests besideEachOther [] twoTemplates) firstAsked :=
  Reaches.refl.turn (by decide)

theorem stand_firstAsked :
    firstAsked.tasks =
      [(⟨⟨.none, ["d", "x.yaml"]⟩, ⟨.none, ["a"]⟩, some true, .manual⟩,
        .calling 3 ⟨[], .completed ⟨0, "[]", ""⟩⟩ (.evaluation ⟨.none, ["d", "sanitized.yaml"]⟩
          ⟨.none, ["a", "policies", "generated.rego"]⟩
          [Validator.noRenderer withoutRenderer.settings.renderer])),
      (⟨⟨.none, ["d", "y.yaml"]⟩, ⟨.none, ["b"]⟩, some true, .manual⟩, .new)] ∧
    firstAsked.queue = [1, 0] := by
  decide +kernel

/-- A run of another workspace may write a file that the evaluator is at work
on: here it is the plain document, which both templates share. -/
theorem shared_plain_document :
    ¬ ∀ (v : Validator) (s : Session) (qs : List Request) (c : Schedule) (n m : Nat)
      (q : Request) (turns : Nat) (reply : Reply) (target policy : Path)
      (warnings : List String),
      v.settings.serialize = true → (∀ reply ∈ s.replies, reply.writes = []) →
      Reaches v (ofRequests s [] qs) c →
      c.tasks[n]? = some (q, .calling turns reply (.evaluation target policy warnings)) →
      m ∈ c.queue → m ≠ n → ∀ p ∈ [target, policy],
        (c.turnOf v m).session.files.readBytes p = c.session.files.readBytes p := by
  intro claim
  obtain ⟨htasks, hqueue⟩ := stand_firstAsked
  have kept := claim withoutRenderer besideEachOther twoTemplates firstAsked 0 1 _ _ _ _ _ _
    rfl (by decide) reaches_firstAsked (by rw [htasks]; rfl)
    (by rw [hqueue]; exact List.mem_cons_self) (by decide)
    ⟨.none, ["d", "sanitized.yaml"]⟩ List.mem_cons_self
  have changed : ((firstAsked.turnOf withoutRenderer 1).session.files.readBytes
      ⟨.none, ["d", "sanitized.yaml"]⟩).toOption ≠
        (firstAsked.session.files.readBytes ⟨.none, ["d", "sanitized.yaml"]⟩).toOption := by
    decide +kernel
  exact changed (congrArg Except.toOption kept)

/-! ## The replies of tools -/

/-- No tool that another run has called, or that will be called, writes here. -/
structure Spared (l : Location) (n : Nat) (c : Schedule) : Prop where
  called {m : Nat} {q : Request} {turns : Nat} {reply : Reply} {wait : Wait} : m ≠ n →
    c.tasks[m]? = some (q, .calling turns reply wait) → ∀ w ∈ reply.writes, w.1 ≠ l
  coming : ∀ reply ∈ c.session.replies, ∀ w ∈ reply.writes, w.1 ≠ l

variable {l : Location}

theorem Spared.delivers (h : c.Spared l n) (hm : m ≠ n) {t : Task}
    (task : c.tasks[m]? = some (q, t)) : ∀ w ∈ t.delivers, w.1 ≠ l := by
  intro w hw
  cases t with
  | calling turns reply wait =>
      refine h.called hm task w ?_
      match turns with
      | 0 => exact hw
      | 1 => exact hw
      | _ + 2 => cases hw
  | _ => cases hw

theorem Spared.modify (h : c.Spared l n) {t : Task}
    (htasks : c'.tasks = c.tasks.modify m fun p => (p.1, t))
    (hcalled : m ≠ n → ∀ turns reply wait, t = .calling turns reply wait →
      ∀ w ∈ reply.writes, w.1 ≠ l)
    (hcoming : c'.session.replies ⊆ c.session.replies) : c'.Spared l n where
  called {k q turns reply wait} hk task := by
    rw [htasks] at task
    by_cases e : k = m
    · subst e
      rw [List.getElem?_modify_eq, Option.map_eq_map, Option.map_eq_some_iff] at task
      obtain ⟨p, _, hp⟩ := task
      injection hp with _ hp
      exact hcalled hk turns reply wait hp
    · rw [List.getElem?_modify_ne _ _ (Ne.symm e)] at task
      exact h.called hk task
  coming reply hreply := h.coming reply (hcoming hreply)

theorem Spared.advance (h : c.Spared l n) (hs : v.settings.serialize = true)
    {p : Session × Progress} (hreplies : p.1.replies = c.session.replies) :
    (c.advance v m q p).Spared l n := by
  obtain ⟨s, prog⟩ := p
  have hreplies : s.replies = c.session.replies := hreplies
  cases prog with
  | asking call wait =>
      refine h.modify (t := .calling callTurns (s.dial call).2 wait) rfl ?_ ?_
      · rintro _ turns reply wait e
        injection e with _ e _
        rw [← e, Session.dial_eq]
        rcases s.reply_cases call with hmem | hnone
        · rw [hreplies] at hmem
          exact h.coming _ hmem
        · intro w hw
          rw [hnone] at hw
          cases hw
      · rw [advance_asking, Session.dial_eq, ← hreplies]
        exact (List.tail_sublist _).subset
  | ended r =>
      refine h.modify (m := m) (t := Task.ofOutcome (v.handOver r)) (by rw [advance_ended hs]) ?_ ?_
      · intro _ turns reply wait e
        cases ho : v.handOver r <;> rw [ho] at e <;> cases e
      · rw [advance_ended hs]
        exact hreplies ▸ List.Subset.refl _

theorem Turned.spared (ht : Turned v c m q c') (hs : v.settings.serialize = true)
    (h : c.Spared l n) : c'.Spared l n := by
  cases ht with
  | refused task _ =>
      exact h.modify rfl (fun _ _ _ _ e => by cases e) (List.Subset.refl _)
  | waited task _ _ =>
      exact h.modify rfl (fun _ _ _ _ e => by cases e) (List.Subset.refl _)
  | entered _ _ _ =>
      have h' : ((c.called m).take m (c.workspaceOf q)).Spared l n := ⟨h.called, h.coming⟩
      exact h'.advance hs (v.start_acts q c.session).replies_eq
  | @ticked turns reply wait task =>
      refine h.modify rfl (fun hm _ _ _ e => ?_) (List.Subset.refl _)
      injection e with _ e _
      subst e
      exact h.called hm task
  | @resumed turns reply wait task _ =>
      have h' : (c.called m).Spared l n := ⟨h.called, h.coming⟩
      exact h'.advance hs (v.resume_acts q wait reply.answer (c.session.settle reply)).replies_eq

/-! ## The window -/

/-- The two paths of a run do not lead here. -/
def Avoids (v : Validator) (l : Location) (fs : FileSystem) (q : Request) : Prop :=
  fs.resolve (Template.plainPath v.settings.sanitizer q.document) ≠ .ok l ∧
    fs.resolve (v.settings.policies.generatedPath q.workspace) ≠ .ok l

theorem Avoids.not_writes {fs fs' : FileSystem} (h : Avoids v l fs q)
    (hbase : fs'.base = fs.base) : ¬ v.Writes q fs' l := by
  have hnot {p : Path} (hp : fs.resolve p ≠ .ok l) : fs'.locate p ≠ .ok l := fun hl =>
    hp ((FileSystem.resolve_congr hbase p).symm.trans (FileSystem.resolve_of_locate hl))
  exact fun hw => hw.elim (hnot h.1) (hnot h.2)

/-- No run of another workspace has a path that leads here. -/
def Aside (v : Validator) (l : Location) (q : Request) (c : Schedule) : Prop :=
  ∀ q' ∈ c.tasks.map Prod.fst, c.workspaceOf q' ≠ c.workspaceOf q → Avoids v l c.session.files q'

theorem Aside.congr (h : Aside v l q c) (same : c'.tasks.map Prod.fst = c.tasks.map Prod.fst ∧
    c'.session.files.base = c.session.files.base) : Aside v l q c' := by
  intro q' hq' hw
  rw [same.1] at hq'
  rw [workspaceOf_congr same.2, workspaceOf_congr same.2] at hw
  obtain ⟨hplain, hpolicy⟩ := h q' hq' hw
  exact ⟨by rw [FileSystem.resolve_congr same.2]; exact hplain,
    by rw [FileSystem.resolve_congr same.2]; exact hpolicy⟩

/-- The run waits for this. -/
def Awaits (c : Schedule) (n : Nat) (q : Request) (wait : Wait) : Prop :=
  ∃ turns reply, c.tasks[n]? = some (q, .calling turns reply wait)

/-- A turn of another run leaves the file here alone. -/
theorem Sound.sameFile_turnOf (h : c.Sound) (hs : v.settings.serialize = true) {wait : Wait}
    (awaits : c.Awaits n q wait) (hm : m ∈ c.queue) (hne : m ≠ n) (spared : c.Spared l n)
    (aside : Aside v l q c) :
    FileSystem.SameFile l c.session.files (c.turnOf v m).session.files := by
  obtain ⟨turns, reply, calling⟩ := awaits
  obtain ⟨q', ht⟩ := h.turned hs hm
  obtain ⟨t, task⟩ := ht.task
  by_cases hw : c.workspaceOf q' = c.workspaceOf q
  · rw [h.session_turnOf hs (places_of_task calling) hm hne task hw]
    exact .refl l _
  · have hplanted : FileSystem.SameFile l c.session.files
        (c.session.files.plantAll t.delivers) :=
      FileSystem.plantAll_keeps (I := FileSystem.SameFile l c.session.files)
        (fun w hmem _ hsame => hsame.plant w.2 (spared.delivers hne task w hmem)) (.refl l _)
    have hframe := ht.frame hs task
    have hbase := hframe.base_eq.trans hplanted.base_eq
    have hq' : q' ∈ c.tasks.map Prod.fst :=
      List.mem_map.2 ⟨_, List.mem_of_getElem? task, rfl⟩
    exact hplanted.trans (hframe.sameFile ((aside q' hq' hw).not_writes hbase))

/-- In its own turn a run that waits for the evaluator goes on waiting, or it is over. -/
theorem Turned.awaits (ht : Turned v c n q c') (hs : v.settings.serialize = true)
    {target policy : Path} {warnings : List String}
    (awaits : c.Awaits n q (.evaluation target policy warnings)) :
    c'.Awaits n q (.evaluation target policy warnings) ∧ c'.session = c.session ∨
      ∃ t, c'.tasks[n]? = some (q, t) ∧ t.phase = .released := by
  obtain ⟨turns₀, reply₀, calling⟩ := awaits
  have same {t : Task} (task : c.tasks[n]? = some (q, t)) :
      t = .calling turns₀ reply₀ (.evaluation target policy warnings) := by
    rw [calling] at task
    cases task
    rfl
  cases ht with
  | refused task _ => cases same task
  | waited task _ _ => cases same task
  | entered task may _ =>
      obtain ⟨ph, hp, hph⟩ := may.place
      rw [places_of_task calling] at hp
      cases hp
      rcases hph with e | e <;> cases e
  | ticked task =>
      cases same task
      exact .inl ⟨⟨_, _, getElem?_modify_self task _⟩, rfl⟩
  | resumed task now =>
      cases same task
      right
      rw [Validator.resume, advance_ended hs]
      exact ⟨_, getElem?_modify_self task _, Task.phase_ofOutcome _⟩

/-- Until a run that waits for the evaluator is over, the file here is what it was. -/
theorem Reaches.sameFile (hr : Reaches v c c') (h : c.Sound) (hs : v.settings.serialize = true)
    {target policy : Path} {warnings : List String}
    (awaits : c.Awaits n q (.evaluation target policy warnings)) (spared : c.Spared l n)
    (aside : Aside v l q c) :
    c'.Awaits n q (.evaluation target policy warnings) ∧ c'.Spared l n ∧
        FileSystem.SameFile l c.session.files c'.session.files ∨
      ∃ t, c'.tasks[n]? = some (q, t) ∧ t.phase = .released := by
  induction hr with
  | refl => exact .inl ⟨awaits, spared, .refl l _⟩
  | @turn c₁ m hr hm ih =>
      have h₁ := hr.sound hs h
      obtain ⟨q', ht⟩ := h₁.turned hs hm
      by_cases hne : m = n
      · subst hne
        rcases ih with ⟨awaits₁, spared₁, hsame⟩ | ⟨t, task, hover⟩
        · obtain ⟨_, _, calling⟩ := id awaits₁
          have ht := h₁.turned_of_task hs hm calling
          refine (ht.awaits hs awaits₁).imp_left fun ⟨awaits', hsession⟩ => ?_
          exact ⟨awaits', ht.spared hs spared₁, by rw [hsession]; exact hsame⟩
        · -- A run that is over has no turn.
          obtain ⟨_, _, hp, hgo⟩ := h₁.disciplined.mem_queue.1 hm
          rw [places_of_task task, hover] at hp
          cases hp
          exact hgo.elim
      · obtain ⟨t', htasks⟩ := ht.tasks hs
        have hstands : (c₁.turnOf v m).tasks[n]? = c₁.tasks[n]? := by
          rw [htasks, List.getElem?_modify_ne _ _ hne]
        rcases ih with ⟨awaits₁, spared₁, hsame⟩ | hover
        · have aside₁ := aside.congr (hr.same_requests hs h)
          refine .inl ⟨?_, ht.spared hs spared₁,
            hsame.trans (h₁.sameFile_turnOf hs awaits₁ hm hne spared₁ aside₁)⟩
          rw [Awaits, hstands]
          exact awaits₁
        · rw [hstands]
          exact .inr hover

/-- While a run waits for the evaluator, another run of its workspace does nothing in its turn. A
run of another workspace may, apart from what a tool has written for it, write what its own plain
path and the path of its own policy lead to, and make directories. So in all turns until the answer
comes a file, those that the evaluator was given among them, stays what it is if no such path leads
to it and no tool writes it. -/
theorem Reaches.evaluation_window {locks : List Lock} (hserial : v.settings.serialize = true)
    (hidle : Idle locks) (h : Reaches v (ofRequests s locks qs) c) {target policy : Path}
    {warnings : List String} (awaits : c.Awaits n q (.evaluation target policy warnings)) :
    (Evaluator.ofSettings v.settings).call target policy ∈ c.session.calls ∧
    (∀ m q' t, c.tasks[m]? = some (q', t) → m ∈ c.queue → m ≠ n →
      (c.workspaceOf q' = c.workspaceOf q → (c.turnOf v m).session = c.session) ∧
      FileSystem.Frame (v.Writes q' (c.turnOf v m).session.files)
        (v.Makes q' (c.turnOf v m).session.files) (c.session.files.plantAll t.delivers)
        (c.turnOf v m).session.files) ∧
    ∀ c' l, Reaches v c c' → c'.Awaits n q (.evaluation target policy warnings) →
      c.Spared l n → Aside v l q c →
      FileSystem.SameFile l c.session.files c'.session.files := by
  have hsound := h.sound hserial (sound_ofRequests hidle s qs)
  obtain ⟨turns, reply, calling⟩ := id awaits
  refine ⟨h.asked hidle hserial n q turns reply target policy warnings calling,
    fun m q' t task hm hne => ⟨?_, ?_⟩, fun c' l hr awaits' spared aside => ?_⟩
  · exact hsound.session_turnOf hserial (places_of_task calling) hm hne task
  · exact (hsound.turned_of_task hserial hm task).frame hserial task
  · rcases hr.sameFile hsound hserial awaits spared aside with ⟨_, _, hsame⟩ | ⟨t, task, hover⟩
    · exact hsame
    · obtain ⟨_, _, calling'⟩ := awaits'
      rw [calling'] at task
      cases task
      cases hover

/-- The second template has its turn while the evaluator is at work on the first, and leaves the
policy alone that the evaluator was given. -/
theorem window_firstAsked :
    withoutRenderer.settings.serialize = true ∧ Idle [] ∧ 1 ∈ firstAsked.queue ∧
    (Evaluator.ofSettings withoutRenderer.settings).call ⟨.none, ["d", "sanitized.yaml"]⟩
      ⟨.none, ["a", "policies", "generated.rego"]⟩ ∈ firstAsked.session.calls ∧
    FileSystem.SameFile ["a", "policies", "generated.rego"] firstAsked.session.files
      (firstAsked.turnOf withoutRenderer 1).session.files := by
  have hidle : Idle [] := fun l hl => absurd hl List.not_mem_nil
  obtain ⟨htasks, hqueue⟩ := stand_firstAsked
  have hqueue : 1 ∈ firstAsked.queue := by rw [hqueue]; exact List.mem_cons_self
  have awaits : firstAsked.Awaits 0 _ (.evaluation ⟨.none, ["d", "sanitized.yaml"]⟩
      ⟨.none, ["a", "policies", "generated.rego"]⟩
      [Validator.noRenderer withoutRenderer.settings.renderer]) :=
    ⟨3, ⟨[], .completed ⟨0, "[]", ""⟩⟩, by rw [htasks]; rfl⟩
  obtain ⟨hcall, _, hwindow⟩ := reaches_firstAsked.evaluation_window rfl hidle awaits
  refine ⟨rfl, hidle, hqueue, hcall, ?_⟩
  have spared : firstAsked.Spared ["a", "policies", "generated.rego"] 0 := by
    refine ⟨fun {m q turns reply wait} hm task => ?_, by decide +kernel⟩
    rw [htasks] at task
    match m with
    | 1 => cases task
    | m + 2 => cases task
  have aside : Aside withoutRenderer ["a", "policies", "generated.rego"]
      ⟨⟨.none, ["d", "x.yaml"]⟩, ⟨.none, ["a"]⟩, some true, .manual⟩ firstAsked := by
    intro q' hq' hw
    rw [htasks] at hq'
    rcases List.mem_cons.1 hq' with rfl | hq'
    · exact absurd rfl hw
    · rw [List.mem_singleton.1 hq']
      exact ⟨by decide +kernel, by decide +kernel⟩
  exact hwindow _ _ (Reaches.refl.turn hqueue) (by
    refine ⟨3, ⟨[], .completed ⟨0, "[]", ""⟩⟩, ?_⟩
    decide +kernel) spared aside

end Schedule

end ManifestPolicy
