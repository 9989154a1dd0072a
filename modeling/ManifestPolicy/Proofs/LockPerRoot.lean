import Mathlib.Data.List.Dedup
import ManifestPolicy.Proofs.AskedFirst
import ManifestPolicy.Proofs.GatherTurns
import ManifestPolicy.Proofs.PathText

/-!
# One lock for each workspace root

If runs in one workspace wait for each other, there is one lock for each root
that has been asked for, however the root is spelled. Two of its runs are
never inside together, they enter in the order in which they asked, and a run
of another root neither makes them wait nor lets them in.

A root is what the path of a workspace resolves to. Runs never move the
directory that relative paths start from, so a request names the same root
all the time (`Sound.same_requests`), and `At`, which speaks of roots, and the places,
which speak of locations, agree about everybody who is not turned away. What is
known of places then carries over. The number of the locks is an invariant of
its own: no two locks are of one workspace, and a lock is there if it was there
at first or if some run has asked for it (`Counted`).
-/

namespace ManifestPolicy

open Schedule

/-- It has asked for the lock of its workspace. -/
def Phase.AskedForLock (ph : Phase) : Prop := ph ≠ .new ∧ ph ≠ .refused

namespace Schedule

variable {v : Validator} {c c' : Schedule} {n m : Nat} {q : Request} {w : Location} {ph : Phase}

/-! ## Runs of other workspaces -/

/-- What the turn of one run does is of no concern to the others, nor to the
locks of other workspaces. -/
theorem Sound.turnOf_elsewhere (h : c.Sound) (hs : v.settings.serialize = true)
    (hq : n ∈ c.queue) {ph : Phase} (hp : c.places n = some (w, ph)) :
    (∀ m, m ≠ n → (c.turnOf v n).places m = c.places m) ∧
      ∀ w', w' ≠ w → lockOf w' (c.turnOf v n).locks = lockOf w' c.locks := by
  have lock {f : Lock → Lock} (hf : ∀ l, (f l).workspace = l.workspace) (locks : List Lock)
      {w' : Location} (hw : w' ≠ w) : lockOf w' (onLock w f locks) = lockOf w' locks := by
    rw [lockOf_onLock f hf, if_neg hw]
  obtain ⟨w₀, ph₀, hp₀, hchange⟩ := h.change_turnOf hs hq
  rw [hp] at hp₀
  cases hp₀
  generalize (c.turnOf v n).places = P at hchange ⊢
  generalize (c.turnOf v n).locks = locks at hchange ⊢
  cases hchange with
  | stayed => exact ⟨fun _ _ => rfl, fun _ _ => rfl⟩
  | refused _ => exact ⟨fun m hm => Places.set_of_ne _ _ _ hm, fun _ _ => rfl⟩
  | waited _ =>
      exact ⟨fun m hm => Places.set_of_ne _ _ _ hm,
        fun _ hw => lock (f := Lock.await n) (fun _ => rfl) _ hw⟩
  | entered _ =>
      exact ⟨fun m hm => Places.set_of_ne _ _ _ hm,
        fun _ hw => lock (f := Lock.enter n) (fun _ => rfl) _ hw⟩
  | passed _ =>
      rw [Places.set_set]
      refine ⟨fun m hm => Places.set_of_ne _ _ _ hm, fun _ hw => ?_⟩
      rw [lock (f := Lock.leave) (fun _ => rfl) _ hw, lock (f := Lock.enter n) (fun _ => rfl) _ hw]
  | left _ =>
      exact ⟨fun m hm => Places.set_of_ne _ _ _ hm,
        fun _ hw => lock (f := Lock.leave) (fun _ => rfl) _ hw⟩

/-- Whether a run can go on is not changed by a run of another workspace. -/
theorem Sound.mem_queue_elsewhere (h : c.Sound) (hs : v.settings.serialize = true)
    (hq : n ∈ c.queue) {w' : Location} {ph ph' : Phase} (hp : c.places n = some (w, ph))
    (hm : c.places m = some (w', ph')) (hw : w' ≠ w) :
    (c.turnOf v n).places m = c.places m ∧ (m ∈ (c.turnOf v n).queue ↔ m ∈ c.queue) := by
  obtain ⟨hplaces, hlocks⟩ := h.turnOf_elsewhere hs hq hp
  have hne : m ≠ n := by
    rintro rfl
    rw [hp] at hm
    cases hm
    exact hw rfl
  have hgo (c : Schedule) (hc : c.Sound) (hm : c.places m = some (w', ph')) :
      m ∈ c.queue ↔ ph'.CanGo (lockOf w' c.locks) m := by
    rw [hc.disciplined.mem_queue]
    constructor
    · rintro ⟨_, _, hp, hgo⟩
      rw [hm] at hp
      cases hp
      exact hgo
    · exact fun hgo => ⟨w', ph', hm, hgo⟩
  refine ⟨hplaces m hne, ?_⟩
  rw [hgo c h hm, hgo _ (h.turnOf hs hq) ((hplaces m hne).trans hm), hlocks w' hw]

/-! ## Requests name the same roots all the time -/

theorem requests_advance (hs : v.settings.serialize = true) (c : Schedule) (n : Nat) (q : Request)
    (p : Session × Progress) :
    (c.advance v n q p).tasks.map Prod.fst = c.tasks.map Prod.fst := by
  obtain ⟨t, htasks, _⟩ := advance_tasks hs c n q p
  rw [htasks, map_fst_modify]

/-- A turn changes neither what is requested nor where relative paths start. -/
theorem Sound.same_requests (h : c.Sound) (hs : v.settings.serialize = true) (hq : n ∈ c.queue) :
    (c.turnOf v n).tasks.map Prod.fst = c.tasks.map Prod.fst ∧
      (c.turnOf v n).session.files.base = c.session.files.base := by
  obtain ⟨q, ht⟩ := h.turned hs hq
  generalize c.turnOf v n = c' at ht ⊢
  cases ht with
  | refused _ _ => exact ⟨map_fst_modify _ _ _, rfl⟩
  | waited _ _ _ => exact ⟨map_fst_modify _ _ _, rfl⟩
  | ticked _ => exact ⟨map_fst_modify _ _ _, rfl⟩
  | entered _ _ _ =>
      exact ⟨requests_advance hs _ _ _ _,
        (base_advance hs _ _ _ _).trans (v.start_acts q c.session).files.base_eq⟩
  | resumed _ _ =>
      exact ⟨requests_advance hs _ _ _ _,
        (base_advance hs _ _ _ _).trans (base_resume v q _ _ c.session)⟩

theorem Reaches.same_requests (hr : Reaches v c c') (hs : v.settings.serialize = true)
    (h : c.Sound) : c'.tasks.map Prod.fst = c.tasks.map Prod.fst ∧
      c'.session.files.base = c.session.files.base := by
  induction hr with
  | refl => exact ⟨rfl, rfl⟩
  | turn hr hn ih =>
      obtain ⟨hrequests, hbase⟩ := (hr.sound hs h).same_requests hs hn
      exact ⟨hrequests.trans ih.1, hbase.trans ih.2⟩

/-! ## Where the runs of a root stand -/

/-- The workspace of this run resolves to this root, and the run is in this
phase. -/
def At (c : Schedule) (n : Nat) (w : Location) (ph : Phase) : Prop :=
  ∃ q t, c.tasks[n]? = some (q, t) ∧ c.session.files.resolve q.workspace = .ok w ∧
    t.phase = ph

/-- The run is inside, or has been. -/
def Entered (c : Schedule) (n : Nat) (w : Location) : Prop :=
  c.At n w .inside ∨ c.At n w .released

theorem At.place (h : c.At n w ph) : c.places n = some (w, ph) := by
  obtain ⟨q, t, ht, hw, hph⟩ := h
  exact places_eq_some.2 ⟨q, t, ht, (FileSystem.resolve_ok_iff.1 hw).2.2, hph⟩

theorem at_of_place (hp : c.places n = some (w, ph))
    (named : ∀ q t, c.tasks[n]? = some (q, t) → c.Names q) : c.At n w ph := by
  obtain ⟨q, t, ht, hw, hph⟩ := places_eq_some.1 hp
  obtain ⟨l, hl⟩ := named q t ht
  rw [← hw]
  exact ⟨q, t, ht, by rw [hl, ← (FileSystem.resolve_ok_iff.1 hl).2.2, workspaceOf], hph⟩

theorem At.named (h : c.At n w ph) {t : Task} (ht : c.tasks[n]? = some (q, t)) : c.Names q := by
  obtain ⟨_, _, ht', hw, _⟩ := h
  rw [ht] at ht'
  cases ht'
  exact ⟨w, hw⟩

/-- A request that names a root goes on naming one. -/
theorem At.later (h : c.At n w ph) (same : c'.tasks.map Prod.fst = c.tasks.map Prod.fst ∧
      c'.session.files.base = c.session.files.base)
    {w' : Location} {ph' : Phase} (hp : c'.places n = some (w', ph')) : c'.At n w' ph' := by
  refine at_of_place hp fun q t ht => ?_
  have hreq := congrArg (·[n]?) same.1
  simp only [List.getElem?_map, ht, Option.map_some] at hreq
  obtain ⟨⟨q', t'⟩, ht', rfl⟩ := Option.map_eq_some_iff.1 hreq.symm
  exact (names_congr same.2 q').2 (h.named ht')

/-- Nobody whose workspace resolves is turned away. -/
theorem Sound.not_refused (hc : c.Sound) (h : c.At n w ph) : ph ≠ .refused := by
  rintro rfl
  obtain ⟨q, t, ht, _, hph⟩ := id h
  cases t with
  | refused e => exact (hc.standing ht).refused rfl (h.named ht)
  | _ => cases hph

/-- A run that has asked for a lock asked for that of a root. -/
theorem Sound.at_of_asked (h : c.Sound) (hp : c.places n = some (w, ph))
    (asked : ph.AskedForLock) : c.At n w ph := by
  refine at_of_place hp fun q t ht => (h.standing ht).names ?_ ?_
  all_goals
    rw [places_of_task ht] at hp
    cases hp
  · rintro rfl
    exact asked.1 rfl
  · rintro e rfl
    exact asked.2 rfl

/-! ## The number of the locks -/

theorem onLock_workspaces {f : Lock → Lock} (hf : ∀ l, (f l).workspace = l.workspace)
    (w : Location) (locks : List Lock) :
    (onLock w f locks).map (·.workspace) =
      if w ∈ locks.map (·.workspace) then locks.map (·.workspace)
      else locks.map (·.workspace) ++ [w] := by
  induction locks with
  | nil => simp [onLock, hf]
  | cons l ls ih =>
      rw [onLock]
      by_cases hl : l.workspace = w
      · rw [if_pos hl, if_pos (by simp [hl]), List.map_cons, List.map_cons, hf]
      · rw [if_neg hl, List.map_cons, List.map_cons, ih]
        by_cases hmem : w ∈ ls.map (·.workspace)
        · rw [if_pos hmem, if_pos (List.mem_cons_of_mem _ hmem)]
        · rw [if_neg hmem, if_neg, List.cons_append]
          rw [List.mem_cons, not_or]
          exact ⟨Ne.symm hl, hmem⟩

/-- There is one lock for each workspace that had one at first, or whose lock a
run has asked for. -/
structure Counted (roots : List Location) (P : Places) (locks : List Lock) : Prop where
  nodup : (locks.map (·.workspace)).Nodup
  mem_iff {w : Location} : w ∈ locks.map (·.workspace) ↔
    w ∈ roots ∨ ∃ n ph, P n = some (w, ph) ∧ ph.AskedForLock

/-- A run that has asked for a lock brings the lock of its workspace with it. -/
theorem Counted.onLock {roots : List Location} {P : Places} {locks : List Lock}
    (h : Counted roots P locks) {f : Lock → Lock} (hf : ∀ l, (f l).workspace = l.workspace)
    (hn : P n = some (w, ph)) {ph' : Phase} (asked : ph'.AskedForLock) :
    Counted roots (P.set n w ph') (onLock w f locks) where
  nodup := by
    rw [onLock_workspaces hf]
    split
    · exact h.nodup
    · next hmem => exact List.nodup_append.2 ⟨h.nodup, List.nodup_singleton w, by simpa using hmem⟩
  mem_iff {w'} := by
    have hmem : w' ∈ (Schedule.onLock w f locks).map (·.workspace) ↔
        w' ∈ locks.map (·.workspace) ∨ w' = w := by
      rw [onLock_workspaces hf]
      split
      · next hw => exact ⟨.inl, fun h => h.elim id fun e => e ▸ hw⟩
      · rw [List.mem_append, List.mem_singleton]
    rw [hmem, h.mem_iff, or_assoc]
    refine or_congr_right ⟨?_, ?_⟩
    · rintro (⟨m, ph₁, hm, hasked⟩ | rfl)
      · by_cases e : m = n
        · subst e
          rw [hn] at hm
          cases hm
          exact ⟨m, ph', Places.set_self .., asked⟩
        · exact ⟨m, ph₁, (Places.set_of_ne _ _ _ e).trans hm, hasked⟩
      · exact ⟨n, ph', Places.set_self .., asked⟩
    · rintro ⟨m, ph₁, hm, hasked⟩
      by_cases e : m = n
      · subst e
        rw [Places.set_self] at hm
        cases hm
        exact .inr rfl
      · rw [Places.set_of_ne _ _ _ e] at hm
        exact .inl ⟨m, ph₁, hm, hasked⟩

/-- A run that is turned away asks for no lock. -/
theorem Counted.turnAway {roots : List Location} {P : Places} {locks : List Lock}
    (h : Counted roots P locks) (hn : P n = some (w, .new)) :
    Counted roots (P.set n w .refused) locks where
  nodup := h.nodup
  mem_iff {w'} := by
    -- The run counts neither before nor after, so it is none of those that do.
    have other {P' : Places} {ph₀ ph : Phase} (hn : P' n = some (w, ph₀)) {m : Nat}
        (hm : P' m = some (w', ph)) (asked : ph.AskedForLock) (h₀ : ¬ ph₀.AskedForLock) :
        m ≠ n := ne_of_phase hn hm fun e => h₀ (e ▸ asked)
    rw [h.mem_iff]
    refine or_congr_right (exists_congr fun m => exists_congr fun ph₁ => ?_)
    refine and_congr_left fun asked => ⟨fun hm => ?_, fun hm => ?_⟩
    · have e := other hn hm asked fun h => h.1 rfl
      rw [Places.set_of_ne _ _ _ e, hm]
    · have e := other (P.set_self n w .refused) hm asked fun h => h.2 rfl
      rwa [Places.set_of_ne _ _ _ e] at hm

theorem counted_kept (roots : List Location) : KeptByChanges (Counted roots) where
  wait _ hn h := h.onLock (f := Lock.await _) (fun _ => rfl) hn ⟨by decide, by decide⟩
  enter _ may h := by
    obtain ⟨ph, hn, _⟩ := may.place
    exact h.onLock (f := Lock.enter _) (fun _ => rfl) hn ⟨by decide, by decide⟩
  leave hn h := h.onLock (f := Lock.leave) (fun _ => rfl) hn ⟨by decide, by decide⟩
  turnAway hn h := h.turnAway hn

theorem counted_ofRequests {locks : List Lock} (distinct : (locks.map (·.workspace)).Nodup)
    (s : Session) (qs : List Request) :
    Counted (locks.map (·.workspace)) (ofRequests s locks qs).places
      (ofRequests s locks qs).locks where
  nodup := distinct
  mem_iff := by
    refine ⟨.inl, fun h => h.elim id ?_⟩
    rintro ⟨n, ph, hp, asked⟩
    exact absurd (places_ofRequests hp).1 asked.1

/-- The roots that runs have asked for so far. -/
def requestedRoots (c : Schedule) : List Location :=
  c.tasks.filterMap fun p =>
    if p.2 = .new then none else (c.session.files.resolve p.1.workspace).toOption

theorem mem_requestedRoots : w ∈ c.requestedRoots ↔ ∃ n ph, c.At n w ph ∧ ph ≠ .new := by
  have resolved {q : Request} : (c.session.files.resolve q.workspace).toOption = some w ↔
      c.session.files.resolve q.workspace = .ok w := by
    cases c.session.files.resolve q.workspace with
    | ok _ => simp [Except.toOption]
    | error _ => simp [Except.toOption]
  rw [requestedRoots, List.mem_filterMap]
  constructor
  · rintro ⟨⟨q, t⟩, hmem, hroot⟩
    split at hroot
    · cases hroot
    · next hnew =>
        obtain ⟨n, hn⟩ := List.mem_iff_getElem?.1 hmem
        exact ⟨n, _, ⟨q, t, hn, resolved.1 hroot, rfl⟩, fun e => hnew (eq_new_of_phase e)⟩
  · rintro ⟨n, ph, ⟨q, t, hn, hw, rfl⟩, hnew⟩
    refine ⟨(q, t), List.mem_of_getElem? hn, ?_⟩
    rw [if_neg fun e : t = .new => hnew (by rw [e]; rfl)]
    exact resolved.2 hw

/-- The locks are those that were there and those that were asked for, each
once. -/
theorem Counted.length_locks {roots : List Location} (h : Counted roots c.places c.locks)
    (hc : c.Sound) : c.locks.length = (roots ++ c.requestedRoots).dedup.length := by
  have hperm : (c.locks.map (·.workspace)).Perm (roots ++ c.requestedRoots).dedup := by
    refine (List.perm_ext_iff_of_nodup h.nodup (List.nodup_dedup _)).2 fun w => ?_
    rw [h.mem_iff, List.mem_dedup, List.mem_append, mem_requestedRoots]
    refine or_congr_right (exists_congr fun n => exists_congr fun ph => ⟨?_, ?_⟩)
    · rintro ⟨hp, asked⟩
      exact ⟨hc.at_of_asked hp asked, asked.1⟩
    · rintro ⟨hat, hnew⟩
      exact ⟨hat.place, hnew, hc.not_refused hat⟩
  rw [← hperm.length_eq, List.length_map]

/-! ## What the locks promise -/

/-- Two spellings of a path resolve to the same location. -/
theorem resolve_respelled {fs : FileSystem} {p p' : Path} (h : Path.Respelled fs.base p p') :
    fs.resolve p = fs.resolve p' := by
  have hlost : fs.isLost p = fs.isLost p' := by
    unfold FileSystem.isLost
    cases hs : fs.base.stranded with
    | false => rfl
    | true => simp only [h.sameEnd.root hs]
  rw [FileSystem.resolve, FileSystem.resolve, h.sameEnd.null, hlost, h.sameEnd.location]

/-- A run in the queue can go on, one that is over need not, and any other one
waits behind a run of its own root. -/
theorem Sound.at_rest (h : c.Sound) (hn : c.At n w ph) :
    n ∈ c.queue ∨ ph = .released ∨ ph = .queued ∧ ∃ m ∈ c.queue, m ≠ n ∧
      (c.At m w .inside ∨ c.At m w .queued) := by
  by_cases hq : n ∈ c.queue
  · exact .inl hq
  · rcases h.waits_behind hn.place hq with hph | hph | ⟨hph, m, hm, hne, hp⟩
    · exact .inr (.inl hph)
    · exact absurd hph (h.not_refused hn)
    · refine .inr (.inr ⟨hph, m, hm, hne, ?_⟩)
      exact hp.imp (fun hp => h.at_of_asked hp ⟨by decide, by decide⟩)
        fun hp => h.at_of_asked hp ⟨by decide, by decide⟩

/-- The turn of a run of one root leaves the runs of the others where they are. -/
theorem Sound.at_elsewhere (h : c.Sound) (hs : v.settings.serialize = true) (hq : n ∈ c.queue)
    {w' : Location} {ph' : Phase} (hn : c.At n w ph) (hm : c.At m w' ph') (hw : w' ≠ w) :
    (c.turnOf v n).At m w' ph' ∧ (m ∈ (c.turnOf v n).queue ↔ m ∈ c.queue) := by
  obtain ⟨hplace, hqueue⟩ := h.mem_queue_elsewhere hs hq hn.place hm.place hw
  exact ⟨hm.later (h.same_requests hs hq) (hplace.trans hm.place), hqueue⟩

/-- Who asked for the lock when another run of the root had not is over when
that one has entered. -/
theorem Sound.entered_after (h : c.Sound) (hs : v.settings.serialize = true)
    (hr : Reaches v c c') {i j : Nat} (hi : c.At i w ph) (hph : ph ≠ .new) (hj : c.At j w .new)
    (entered : c'.Entered j w) : c'.At i w .released := by
  have hahead := (ahead_kept i j w).reaches h hs hr (ahead_of_asked hi.place hph hj.place)
  have hplace : ∃ ph, c'.places j = some (w, ph) ∧ (ph = .inside ∨ ph = .released) :=
    entered.elim (fun h => ⟨_, h.place, .inl rfl⟩) fun h => ⟨_, h.place, .inr rfl⟩
  obtain ⟨_, hj', hin⟩ := hplace
  obtain ⟨ph', hi', hover⟩ := hahead.entered_after (hr.sound hs h).disciplined hj' hin
  have hat := hi.later (hr.same_requests hs h) hi'
  rwa [hover.resolve_right ((hr.sound hs h).not_refused hat)] at hat

/-- If runs in one workspace wait for each other, then of the runs of one root
at most one is inside at any time. Whoever asked first enters first, and if
runs begin in the order of their requests then they enter in this order. Who
neither goes on nor is over waits behind a run of its own root, and the turn
of a run changes nothing for those of other roots. There are as many locks as
roots that were asked for, earlier or in these runs, and different spellings
of a root are one. -/
theorem one_lock_per_root (hs : v.settings.serialize = true) {locks : List Lock}
    (hidle : Idle locks) (distinct : (locks.map (·.workspace)).Nodup) {s : Session}
    {qs : List Request} (h : Reaches v (ofRequests s locks qs) c) :
    (∀ w i j, c.At i w .inside → c.At j w .inside → i = j) ∧
    (∀ w i j ph c', c.At i w ph → ph ≠ .new → c.At j w .new → Reaches v c c' →
      c'.Entered j w → c'.At i w .released) ∧
    (ReachesInOrder v (ofRequests s locks qs) c → ∀ w i j ph, i < j → c.At i w ph →
      c.Entered j w → ph = .released) ∧
    (∀ w n ph, c.At n w ph → n ∈ c.queue ∨ ph = .released ∨ ph = .queued ∧
      ∃ m ∈ c.queue, m ≠ n ∧ (c.At m w .inside ∨ c.At m w .queued)) ∧
    (∀ w w' n m ph ph', n ∈ c.queue → c.At n w ph → c.At m w' ph' → w' ≠ w →
      (c.turnOf v n).At m w' ph' ∧ (m ∈ (c.turnOf v n).queue ↔ m ∈ c.queue)) ∧
    c.locks.length = (locks.map (·.workspace) ++ c.requestedRoots).dedup.length ∧
    ∀ p p', Path.Respelled c.session.files.base p p' →
      c.session.files.resolve p = c.session.files.resolve p' := by
  have hbegin := sound_ofRequests hidle s qs
  have hc := h.sound hs hbegin
  refine ⟨fun w i j hi hj => hc.disciplined.inside_unique hi.place hj.place,
    fun w i j ph c' hi hph hj hr => hc.entered_after hs hr hi hph hj, fun hr w i j ph hij hi hj => ?_,
    fun w n ph hn => hc.at_rest hn, fun w w' n m ph ph' hq hn hm => hc.at_elsewhere hs hq hn hm, ?_,
    fun p p' => resolve_respelled⟩
  · have hordered := hr.ordered hs hbegin (ordered_ofRequests hidle s qs)
    have hover : ph = .released ∨ ph = .refused :=
      hj.elim (fun hj => hordered.entered_after hij hi.place hj.place (.inl rfl))
        fun hj => hordered.entered_after hij hi.place hj.place (.inr rfl)
    exact hover.resolve_right (hc.not_refused hi)
  · exact ((counted_kept _).reaches hbegin hs h (counted_ofRequests distinct s qs)).length_locks hc

/-- Three runs of two roots, one of which is named in two ways. -/
theorem two_roots_three_spellings :
    let v : Validator := ⟨{}, fun _ => none⟩
    let request (workspace : Path) : Request :=
      ⟨⟨.none, ["chart.yaml"]⟩, workspace, some true, .manual⟩
    let qs := [request ⟨.none, []⟩, request ⟨.slash, ["v", "..", "w"]⟩, request ⟨.slash, ["x"]⟩]
    let s : Session := { files := ⟨[], { here := ["w"] }⟩ }
    v.settings.serialize = true ∧ Idle [] ∧ (([] : List Lock).map (·.workspace)).Nodup ∧
      ∃ c, Reaches v (ofRequests s [] qs) c ∧ c.At 0 ["w"] .inside ∧ c.At 1 ["w"] .queued ∧
        c.At 2 ["x"] .inside ∧ (∃ m ∈ c.queue, m ≠ 1 ∧
          (c.At m ["w"] .inside ∨ c.At m ["w"] .queued)) ∧ c.locks.length = 2 := by
  intro v request qs s
  have hidle : Idle [] := fun l hl => absurd hl List.not_mem_nil
  have distinct : (([] : List Lock).map (·.workspace)).Nodup := List.nodup_nil
  have begun : ∃ c, Reaches v (ofRequests s [] qs) c ∧ c.queue = [0, 2] ∧
      c.places 0 = some (["w"], .inside) ∧ c.places 1 = some (["w"], .queued) ∧
      c.places 2 = some (["x"], .inside) ∧ c.requestedRoots = [["w"], ["w"], ["x"]] := by
    refine ⟨_, ((Reaches.refl.turn (n := 0) ?_).turn (n := 1) ?_).turn (n := 2) ?_,
      ?_, ?_, ?_, ?_, ?_⟩ <;> decide +kernel
  obtain ⟨c, h, hqueue, h₀, h₁, h₂, hroots⟩ := begun
  have hc := h.sound rfl (sound_ofRequests hidle s qs)
  obtain ⟨_, _, _, hrest, _, hlocks, _⟩ := one_lock_per_root rfl hidle distinct h
  have hat := hc.at_of_asked h₁ ⟨by decide, by decide⟩
  refine ⟨rfl, hidle, distinct, c, h, hc.at_of_asked h₀ ⟨by decide, by decide⟩, hat,
    hc.at_of_asked h₂ ⟨by decide, by decide⟩, ?_, ?_⟩
  · rcases hrest _ _ _ hat with hq | hph | ⟨_, hbehind⟩
    · rw [hqueue] at hq
      exact absurd hq (by decide)
    · cases hph
    · exact hbehind
  · rw [hlocks, hroots]
    decide

end Schedule

end ManifestPolicy
