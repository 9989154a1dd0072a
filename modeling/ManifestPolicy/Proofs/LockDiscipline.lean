import ManifestPolicy.Validation.Schedule

/-!
# The discipline of the locks

What the locks promise can be said without any run: of each run it matters
only which workspace it names and in which of five phases it is. `Places`
keeps that and nothing else, and `Disciplined` says how the places, the locks
and the queue of a schedule belong together: a lock is held by exactly the
one run that is inside, its waiting list is that of the queued runs, and the
queue holds exactly the runs that can go on, of the queued ones only the
first of each free lock.

A turn changes the phase of one run, and there are four changes: a run waits,
enters, leaves, or is turned away. Each keeps the discipline, and each keeps
`Ordered`, the rule that the runs of one workspace enter in the order of
their numbers, as long as they begin in that order.
-/

namespace ManifestPolicy

open Schedule

/-- How far a run is with the lock of its workspace. -/
inductive Phase where
  | new
  /-- It waits for the lock. -/
  | queued
  /-- It has the lock. -/
  | inside
  /-- It gave the lock back. -/
  | released
  /-- It names no workspace, and never asked for a lock. -/
  | refused
deriving Repr, DecidableEq

/-- The workspace and the phase of each run. -/
abbrev Places := Nat → Option (Location × Phase)

/-- The places with one run in another phase. -/
def Places.set (P : Places) (n : Nat) (w : Location) (ph : Phase) : Places :=
  fun m => if m = n then some (w, ph) else P m

@[simp] theorem Places.set_self (P : Places) (n : Nat) (w : Location) (ph : Phase) :
    P.set n w ph n = some (w, ph) := if_pos rfl

theorem Places.set_of_ne (P : Places) {n m : Nat} (w : Location) (ph : Phase) (h : m ≠ n) :
    P.set n w ph m = P m := if_neg h

theorem Places.set_eq_self {P : Places} {n : Nat} {w : Location} {ph : Phase}
    (h : P n = some (w, ph)) : P.set n w ph = P := by
  funext m
  by_cases hm : m = n
  · rw [hm, Places.set_self, h]
  · rw [P.set_of_ne _ _ hm]

theorem Places.set_set (P : Places) (n : Nat) (w : Location) (ph ph' : Phase) :
    (P.set n w ph).set n w ph' = P.set n w ph' := by
  funext m
  by_cases hm : m = n
  · rw [hm, Places.set_self, Places.set_self]
  · rw [Places.set_of_ne _ _ _ hm, Places.set_of_ne _ _ _ hm, Places.set_of_ne _ _ _ hm]

/-- Whether a run in a phase can go on, given the lock of its workspace. -/
def Phase.CanGo (l : Lock) (n : Nat) : Phase → Prop
  | .new | .inside => True
  | .queued => l.held = false ∧ l.waiting.head? = some n
  | .released | .refused => False

/-! ## Locks by workspace -/

theorem lockOf_onLock (f : Lock → Lock) (hc : ∀ l, (f l).workspace = l.workspace)
    (w w' : Location) (locks : List Lock) :
    lockOf w' (onLock w f locks) =
      if w' = w then f (lockOf w locks) else lockOf w' locks := by
  induction locks with
  | nil =>
      by_cases h : w' = w
      · subst h; simp [onLock, lockOf, hc]
      · rw [if_neg h]; simp [onLock, lockOf, hc, Ne.symm h]
  | cons l ls ih =>
      simp only [onLock]
      by_cases hl : l.workspace = w
      · rw [if_pos hl]
        by_cases h : w' = w
        · subst h; simp [lockOf, hc, hl]
        · rw [if_neg h]
          have : l.workspace ≠ w' := fun e => h (e.symm.trans hl)
          simp [lockOf, hc, this]
      · rw [if_neg hl]
        by_cases h : l.workspace = w'
        · have hw : w' ≠ w := fun e => hl (h.trans e)
          rw [if_neg hw]; simp [lockOf, h]
        · have skip : ∀ ls' : List Lock, lockOf w' (l :: ls') = lockOf w' ls' := by
            intro ls'; simp [lockOf, h]
          rw [skip, ih]
          by_cases hw : w' = w
          · subst hw; rw [if_pos rfl, if_pos rfl, skip]
          · rw [if_neg hw, if_neg hw, skip]

/-- What waiting changes in a lock. -/
def Lock.await (n : Nat) (l : Lock) : Lock := { l with waiting := l.waiting ++ [n] }

/-- What entering changes in a lock. -/
def Lock.enter (n : Nat) (l : Lock) : Lock :=
  { l with held := true, waiting := l.waiting.erase n }

/-- What leaving changes in a lock. -/
def Lock.leave (l : Lock) : Lock := { l with held := false }

/-! ## The discipline -/

/-- How places, locks and queue belong together. -/
structure Disciplined (P : Places) (locks : List Lock) (queue : List Nat) : Prop where
  mem_waiting {w : Location} {n : Nat} :
    n ∈ (lockOf w locks).waiting ↔ P n = some (w, .queued)
  waiting_nodup (w : Location) : (lockOf w locks).waiting.Nodup
  held_iff {w : Location} : (lockOf w locks).held = true ↔ ∃ n, P n = some (w, .inside)
  inside_unique {w : Location} {n m : Nat} :
    P n = some (w, .inside) → P m = some (w, .inside) → n = m
  queue_nodup : queue.Nodup
  mem_queue {n : Nat} :
    n ∈ queue ↔ ∃ w ph, P n = some (w, ph) ∧ ph.CanGo (lockOf w locks) n

namespace Disciplined

variable {P : Places} {locks : List Lock} {queue queue' : List Nat} {n : Nat} {w : Location}

theorem perm (h : Disciplined P locks queue) (hq : queue.Perm queue') :
    Disciplined P locks queue' :=
  { h with
    queue_nodup := hq.nodup_iff.1 h.queue_nodup
    mem_queue := hq.mem_iff.symm.trans h.mem_queue }

/-- A run that is inside has the lock. -/
theorem held (h : Disciplined P locks queue) (hn : P n = some (w, .inside)) :
    (lockOf w locks).held = true := h.held_iff.2 ⟨n, hn⟩

/-- A lock that is not held lets nobody in. -/
theorem not_inside (h : Disciplined P locks queue) (hw : (lockOf w locks).held = false) :
    P n ≠ some (w, .inside) := by
  intro hn
  rw [h.held hn] at hw
  cases hw

/-- With nobody queued the waiting list is empty, and the other way round. -/
theorem not_queued (h : Disciplined P locks queue) (hw : (lockOf w locks).waiting = []) :
    P n ≠ some (w, .queued) := by
  intro hn
  have := h.mem_waiting.2 hn
  rw [hw] at this
  cases this

/-! ## One run and its lock

A turn changes the phase of one run, the lock of its workspace and the queue.
What that has to respect is said of this lock alone; the others follow from
the discipline as it was. -/

theorem change (h : Disciplined P locks queue) {ph ph' : Phase} {f : Lock → Lock}
    (hn : P n = some (w, ph)) (hf : ∀ l, (f l).workspace = l.workspace)
    (self : n ∈ (f (lockOf w locks)).waiting ↔ ph' = .queued)
    (others : ∀ m, m ≠ n → (m ∈ (f (lockOf w locks)).waiting ↔ m ∈ (lockOf w locks).waiting))
    (nodup : (f (lockOf w locks)).waiting.Nodup)
    (held : (f (lockOf w locks)).held = true ↔
      ph' = .inside ∨ ∃ m, m ≠ n ∧ P m = some (w, .inside))
    (alone : ph' = .inside → ∀ m, m ≠ n → P m ≠ some (w, .inside))
    (queue_nodup : queue'.Nodup)
    (queue_self : n ∈ queue' ↔ ph'.CanGo (f (lockOf w locks)) n)
    (queue_others : ∀ m, m ≠ n → (m ∈ queue' ↔
      if P m = some (w, .queued) then Phase.queued.CanGo (f (lockOf w locks)) m
      else m ∈ queue)) :
    Disciplined (P.set n w ph') (onLock w f locks) queue' := by
  have same : lockOf w (onLock w f locks) = f (lockOf w locks) := by
    rw [lockOf_onLock f hf, if_pos rfl]
  have other {w' : Location} (hw : w' ≠ w) :
      lockOf w' (onLock w f locks) = lockOf w' locks := by
    rw [lockOf_onLock f hf, if_neg hw]
  have elsewhere {w' : Location} (hw : w' ≠ w) (ph' : Phase) : P n ≠ some (w', ph') := by
    rw [hn]; simp [Ne.symm hw]
  refine ⟨?_, ?_, ?_, ?_, queue_nodup, ?_⟩
  · intro w' m
    by_cases hw : w' = w <;> by_cases hm : m = n
    · subst hw hm
      rw [same, Places.set_self, self]
      simp
    · subst hw
      rw [same, Places.set_of_ne P _ _ hm, others m hm, h.mem_waiting]
    · subst hm
      rw [other hw, Places.set_self, h.mem_waiting]
      simp [elsewhere hw, Ne.symm hw]
    · rw [other hw, Places.set_of_ne P _ _ hm, h.mem_waiting]
  · intro w'
    by_cases hw : w' = w
    · subst hw; rw [same]; exact nodup
    · rw [other hw]; exact h.waiting_nodup w'
  · intro w'
    by_cases hw : w' = w
    · subst hw
      rw [same, held]
      constructor
      · rintro (rfl | ⟨m, hm, hp⟩)
        · exact ⟨n, Places.set_self ..⟩
        · exact ⟨m, by rw [Places.set_of_ne P _ _ hm]; exact hp⟩
      · rintro ⟨m, hp⟩
        by_cases hm : m = n
        · subst hm
          rw [Places.set_self] at hp
          cases hp
          exact .inl rfl
        · rw [Places.set_of_ne P _ _ hm] at hp
          exact .inr ⟨m, hm, hp⟩
    · rw [other hw, h.held_iff]
      refine exists_congr fun m => ?_
      by_cases hm : m = n
      · subst hm; rw [Places.set_self]; simp [elsewhere hw, Ne.symm hw]
      · rw [Places.set_of_ne P _ _ hm]
  · have one {w' : Location} {m m' : Nat} (hm : m = n) (hm' : m' ≠ n)
        (hp : P.set n w ph' m = some (w', .inside))
        (hp' : P.set n w ph' m' = some (w', .inside)) : m = m' := by
      subst hm
      rw [Places.set_self] at hp
      cases hp
      rw [Places.set_of_ne P _ _ hm'] at hp'
      exact absurd hp' (alone rfl m' hm')
    intro w' m m' hp hp'
    by_cases hm : m = n <;> by_cases hm' : m' = n
    · rw [hm, hm']
    · exact one hm hm' hp hp'
    · exact (one hm' hm hp' hp).symm
    · rw [Places.set_of_ne P _ _ hm] at hp
      rw [Places.set_of_ne P _ _ hm'] at hp'
      exact h.inside_unique hp hp'
  · intro m
    by_cases hm : m = n
    · subst hm
      rw [queue_self, Places.set_self]
      constructor
      · intro hgo; exact ⟨w, ph', rfl, by rw [same]; exact hgo⟩
      · rintro ⟨_, _, hp, hgo⟩
        cases hp
        rw [same] at hgo
        exact hgo
    · rw [queue_others m hm, Places.set_of_ne P _ _ hm]
      split
      · next hp =>
          rw [hp]
          constructor
          · intro hgo; exact ⟨w, .queued, rfl, by rw [same]; exact hgo⟩
          · rintro ⟨_, _, hp, hgo⟩
            cases hp
            rw [same] at hgo
            exact hgo
      · next hp =>
          rw [h.mem_queue]
          refine exists_congr fun w' => exists_congr fun ph => and_congr_right fun hp' => ?_
          by_cases hw : w' = w
          · subst hw
            cases ph with
            | queued => exact absurd hp' hp
            | _ => exact Iff.rfl
          · rw [other hw]

theorem congr_locks {locks' : List Lock} (h : Disciplined P locks queue)
    (hl : ∀ w, lockOf w locks' = lockOf w locks) : Disciplined P locks' queue where
  mem_waiting {w n} := by rw [hl w]; exact h.mem_waiting
  waiting_nodup w := by rw [hl]; exact h.waiting_nodup w
  held_iff {w} := by rw [hl w]; exact h.held_iff
  inside_unique := h.inside_unique
  queue_nodup := h.queue_nodup
  mem_queue := by simp only [hl]; exact h.mem_queue

/-! ## The four changes -/

theorem mem_erase_of_ne (h : Disciplined P locks queue) {m : Nat} (hm : m ≠ n) :
    m ∈ queue.erase n ↔ m ∈ queue := by
  rw [h.queue_nodup.mem_erase_iff]
  exact and_iff_right hm

theorem not_mem_erase (h : Disciplined P locks queue) : n ∉ queue.erase n :=
  fun hq => (h.queue_nodup.mem_erase_iff.1 hq).1 rfl

theorem not_mem_waiting (h : Disciplined P locks queue) {ph : Phase}
    (hn : P n = some (w, ph)) (hph : ph ≠ .queued) : n ∉ (lockOf w locks).waiting := by
  intro hm
  rw [h.mem_waiting, hn] at hm
  cases hm
  exact hph rfl

/-- A queued run is in the queue just if it may go on. -/
theorem mem_queue_of_queued (h : Disciplined P locks queue)
    (hn : P n = some (w, .queued)) : n ∈ queue ↔ Phase.queued.CanGo (lockOf w locks) n := by
  rw [h.mem_queue]
  constructor
  · rintro ⟨_, _, hp, hgo⟩
    rw [hn] at hp
    cases hp
    exact hgo
  · intro hgo; exact ⟨w, .queued, hn, hgo⟩

/-- What a run does outside the lock leaves it to who has it. -/
theorem held_iff_others (h : Disciplined P locks queue) {ph ph' : Phase}
    (hn : P n = some (w, ph)) (hph : ph ≠ .inside) (hph' : ph' ≠ .inside) :
    (lockOf w locks).held = true ↔
      ph' = .inside ∨ ∃ m, m ≠ n ∧ P m = some (w, .inside) := by
  rw [h.held_iff, or_iff_right hph']
  refine exists_congr fun m => (and_iff_right_of_imp fun hm e => hph ?_).symm
  rw [e, hn] at hm
  cases hm
  rfl

/-- A run that finds the lock held, or wanted by others, waits behind them. -/
theorem wait (h : Disciplined P locks queue) (hn : P n = some (w, .new))
    (busy : (lockOf w locks).held = true ∨ (lockOf w locks).waiting ≠ []) :
    Disciplined (P.set n w .queued) (onLock w (Lock.await n) locks) (queue.erase n) := by
  have hout := h.not_mem_waiting hn (by simp)
  have hshow : (Lock.await n (lockOf w locks)).waiting = (lockOf w locks).waiting ++ [n] := rfl
  -- The newcomer stands at the end: the one that may go on is who it was.
  have hgo (m : Nat) : Phase.queued.CanGo (Lock.await n (lockOf w locks)) m ↔
      Phase.queued.CanGo (lockOf w locks) m := by
    refine and_congr_right fun hfree => ?_
    rcases busy with hheld | hne
    · rw [show (lockOf w locks).held = false from hfree] at hheld; cases hheld
    · obtain ⟨a, as, ha⟩ := List.exists_cons_of_ne_nil hne
      rw [hshow, ha]
      rfl
  refine h.change hn (fun _ => rfl) ?_ ?_ ?_ ?_ (fun e => by cases e)
    (h.queue_nodup.erase n) ?_ ?_
  · rw [hshow]; simp
  · intro m hm; rw [hshow]; simp [hm]
  · rw [hshow]
    refine List.nodup_append.2 ⟨h.waiting_nodup w, by simp, fun a ha b hb e => hout ?_⟩
    rw [← List.mem_singleton.1 hb, ← e]
    exact ha
  · exact h.held_iff_others hn (by simp) (by simp)
  · rw [hgo]
    exact iff_of_false h.not_mem_erase fun hfirst => hout (List.mem_of_mem_head? hfirst.2)
  · intro m hm
    rw [h.mem_erase_of_ne hm]
    split
    · next hp => rw [hgo]; exact h.mem_queue_of_queued hp
    · exact Iff.rfl

/-- A run enters when it has not asked before and the lock is free and not
wanted, or when it was queued and may go on. -/
def MayEnter (P : Places) (locks : List Lock) (w : Location) (n : Nat) : Prop :=
  (lockOf w locks).held = false ∧
    (P n = some (w, .new) ∧ (lockOf w locks).waiting = [] ∨
      P n = some (w, .queued) ∧ (lockOf w locks).waiting.head? = some n)

theorem MayEnter.place (he : MayEnter P locks w n) :
    ∃ ph, P n = some (w, ph) ∧ (ph = .new ∨ ph = .queued) := by
  obtain ⟨_, ⟨hn, _⟩ | ⟨hn, _⟩⟩ := he
  · exact ⟨_, hn, .inl rfl⟩
  · exact ⟨_, hn, .inr rfl⟩

/-- Nobody else of the workspace could go on in its place. -/
theorem MayEnter.first (he : MayEnter P locks w n) {m : Nat}
    (hm : (lockOf w locks).waiting.head? = some m) : m = n := by
  obtain ⟨_, ⟨_, hnil⟩ | ⟨_, hhead⟩⟩ := he
  · rw [hnil] at hm; cases hm
  · rw [hhead] at hm; exact (Option.some.inj hm).symm

/-- A run that enters stays in the queue, for it can go on inside. -/
theorem enter (h : Disciplined P locks queue) (hq : n ∈ queue)
    (he : MayEnter P locks w n) :
    Disciplined (P.set n w .inside) (onLock w (Lock.enter n) locks) queue := by
  obtain ⟨ph, hn, _⟩ := he.place
  have hshow : (Lock.enter n (lockOf w locks)).waiting = (lockOf w locks).waiting.erase n := rfl
  have hnodup := h.waiting_nodup w
  refine h.change hn (fun _ => rfl) ?_ ?_ (hnodup.erase n) ?_
    (fun _ m _ => h.not_inside he.1) h.queue_nodup (iff_of_true hq trivial) ?_
  · rw [hshow, hnodup.mem_erase_iff]; simp
  · intro m hm; rw [hshow, hnodup.mem_erase_iff]; simp [hm]
  · exact iff_of_true rfl (.inl rfl)
  · intro m hm
    split
    · next hp =>
        rw [h.mem_queue_of_queued hp]
        refine iff_of_false (fun hgo => hm (he.first hgo.2)) fun hgo => ?_
        cases hgo.1
    · exact Iff.rfl

/-- A run that leaves gives the lock back, and the one that waited longest
can go on. -/
theorem leave (h : Disciplined P locks queue) (hn : P n = some (w, .inside)) :
    Disciplined (P.set n w .released) (onLock w Lock.leave locks)
      (queue.erase n ++ (lockOf w locks).waiting.head?.toList) := by
  have hshow : (Lock.leave (lockOf w locks)).waiting = (lockOf w locks).waiting := rfl
  have hheld := h.held hn
  have hout := h.not_mem_waiting hn (by simp)
  have hstill : ∀ m, P m = some (w, .queued) → m ∉ queue := by
    intro m hm hq
    have hgo := (h.mem_queue_of_queued hm).1 hq
    rw [hgo.1] at hheld
    cases hheld
  have hnext : ∀ m, m ∈ (lockOf w locks).waiting.head?.toList →
      P m = some (w, .queued) := by
    intro m hm
    rw [Option.mem_toList] at hm
    exact h.mem_waiting.1 (List.mem_of_mem_head? hm)
  refine h.change hn (fun _ => rfl) ?_ (fun _ _ => Iff.rfl) (h.waiting_nodup w) ?_
    (fun e => by cases e) ?_ ?_ ?_
  · rw [hshow]; simpa using hout
  · refine iff_of_false (fun e => by cases e) ?_
    rintro (e | ⟨m, hm, hp⟩)
    · cases e
    · exact hm (h.inside_unique hp hn)
  · refine List.nodup_append.2 ⟨h.queue_nodup.erase n, ?_, fun a ha b hb e => ?_⟩
    · cases (lockOf w locks).waiting.head? <;> simp
    · exact hstill b (hnext b hb) (by rw [← e]; exact List.mem_of_mem_erase ha)
  · refine iff_of_false (fun hm => ?_) fun hgo => hgo
    rcases List.mem_append.1 hm with hm | hm
    · exact h.not_mem_erase hm
    · rw [hnext n hm] at hn; cases hn
  · intro m hm
    rw [List.mem_append, h.mem_erase_of_ne hm]
    split
    · next hp =>
        rw [or_iff_right (hstill m hp), Option.mem_toList]
        exact (and_iff_right rfl).symm
    · next hp => exact or_iff_left fun hmem => hp (hnext m hmem)

/-- A run that is turned away touches no lock. -/
theorem turnAway (h : Disciplined P locks queue) (hn : P n = some (w, .new)) :
    Disciplined (P.set n w .refused) locks (queue.erase n) := by
  have hout := h.not_mem_waiting hn (by simp)
  have hid : Disciplined (P.set n w .refused) (onLock w id locks) (queue.erase n) := by
    refine h.change hn (fun _ => rfl) ?_ (fun _ _ => Iff.rfl) (h.waiting_nodup w) ?_
      (fun e => by cases e) (h.queue_nodup.erase n) ?_ ?_
    · simpa using hout
    · exact h.held_iff_others hn (by simp) (by simp)
    · exact iff_of_false h.not_mem_erase fun hgo => hgo
    · intro m hm
      rw [h.mem_erase_of_ne hm]
      split
      · next hp => exact h.mem_queue_of_queued hp
      · exact Iff.rfl
  refine hid.congr_locks fun w' => ?_
  rw [lockOf_onLock id fun _ => rfl]
  split
  · next hw => rw [hw]; rfl
  · rfl

end Disciplined

/-! ## The order of entering -/

/-- Runs begin, wait and enter in the order of their numbers, those of one
workspace at a time. -/
structure Ordered (P : Places) (locks : List Lock) : Prop where
  new_after {i j : Nat} {w w' : Location} {ph : Phase} :
    i < j → P i = some (w, .new) → P j = some (w', ph) → ph = .new
  waiting_sorted (w : Location) : (lockOf w locks).waiting.Pairwise (· < ·)
  entered_after {i j : Nat} {w : Location} {ph ph' : Phase} :
    i < j → P i = some (w, ph) → P j = some (w, ph') → ph' = .inside ∨ ph' = .released →
      ph = .released ∨ ph = .refused

namespace Ordered

variable {P : Places} {locks : List Lock} {queue : List Nat} {n : Nat} {w : Location}

/-- Whether a run that is new may go on: those with smaller numbers have begun. -/
def FirstNew (P : Places) (n : Nat) : Prop := ∀ m w', m < n → P m ≠ some (w', .new)

/-- No run begins behind one that has not begun. -/
theorem firstNew (h : Ordered P locks) {ph : Phase} (hn : P n = some (w, ph))
    (hph : ph ≠ .new) : FirstNew P n :=
  fun _ _ hm hp => hph (h.new_after hm hp hn)

/-- A change of one run other than back to the beginning keeps the order of
beginning if the run was the next one to begin. -/
theorem new_after_set (h : Ordered P locks) {ph : Phase} (hfirst : FirstNew P n)
    (hph : ph ≠ .new) {i j : Nat} {w₁ w₂ : Location} {ph' : Phase} (hij : i < j)
    (hi : P.set n w ph i = some (w₁, .new)) (hj : P.set n w ph j = some (w₂, ph')) :
    ph' = .new := by
  have hin : i ≠ n := by
    intro e
    rw [e, Places.set_self] at hi
    cases hi
    exact hph rfl
  rw [Places.set_of_ne P _ _ hin] at hi
  by_cases hjn : j = n
  · exact absurd hi (hfirst i w₁ (by omega))
  · rw [Places.set_of_ne P _ _ hjn] at hj
    exact h.new_after hij hi hj

/-- Those before a run that enters have all given the lock back. -/
theorem before_enter (h : Ordered P locks) (hd : Disciplined P locks queue)
    (he : Disciplined.MayEnter P locks w n) (hfirst : FirstNew P n) {i : Nat} {ph : Phase}
    (hi : i < n) (hp : P i = some (w, ph)) : ph = .released ∨ ph = .refused := by
  cases ph with
  | new => exact absurd hp (hfirst i w hi)
  | queued =>
      obtain ⟨_, ⟨_, hnil⟩ | ⟨_, hhead⟩⟩ := he
      · exact absurd hp (hd.not_queued hnil)
      · -- The waiting list rises, so its first run is the least of them.
        obtain ⟨rest, hw⟩ := List.head?_eq_some_iff.1 hhead
        have hm := hd.mem_waiting.2 hp
        have hs := h.waiting_sorted w
        rw [hw] at hm hs
        rcases List.mem_cons.1 hm with e | hm
        · omega
        · have := (List.pairwise_cons.1 hs).1 i hm
          omega
  | inside => exact absurd hp (hd.not_inside he.1)
  | released => exact .inl rfl
  | refused => exact .inr rfl

theorem waiting_sorted_onLock (h : Ordered P locks) {f : Lock → Lock}
    (hf : ∀ l, (f l).workspace = l.workspace)
    (hs : (f (lockOf w locks)).waiting.Pairwise (· < ·)) (w' : Location) :
    (lockOf w' (onLock w f locks)).waiting.Pairwise (· < ·) := by
  rw [lockOf_onLock f hf]
  split
  · exact hs
  · exact h.waiting_sorted w'

theorem wait (h : Ordered P locks) (hd : Disciplined P locks queue)
    (hn : P n = some (w, .new)) (hfirst : FirstNew P n) :
    Ordered (P.set n w .queued) (onLock w (Lock.await n) locks) where
  new_after := h.new_after_set hfirst (by simp)
  waiting_sorted := by
    refine h.waiting_sorted_onLock (fun _ => rfl) ?_
    refine List.pairwise_append.2 ⟨h.waiting_sorted w, List.pairwise_singleton _ _, ?_⟩
    intro m hm m' hm'
    rw [List.mem_singleton.1 hm']
    have hp := hd.mem_waiting.1 hm
    rcases Nat.lt_trichotomy m n with hlt | heq | hgt
    · exact hlt
    · rw [heq, hn] at hp; cases hp
    · cases h.new_after hgt hn hp
  entered_after {i j w' ph ph'} hij hi hj hph := by
    have hjn : j ≠ n := by
      intro e
      rw [e, Places.set_self] at hj
      cases hj
      simp at hph
    rw [Places.set_of_ne P _ _ hjn] at hj
    by_cases hin : i = n
    · rw [hin] at hij
      cases h.new_after hij hn hj
      simp at hph
    · rw [Places.set_of_ne P _ _ hin] at hi
      exact h.entered_after hij hi hj hph

theorem enter (h : Ordered P locks) (hd : Disciplined P locks queue)
    (he : Disciplined.MayEnter P locks w n) (hfirst : FirstNew P n) :
    Ordered (P.set n w .inside) (onLock w (Lock.enter n) locks) where
  new_after := h.new_after_set hfirst (by simp)
  waiting_sorted :=
    h.waiting_sorted_onLock (fun _ => rfl) ((h.waiting_sorted w).sublist List.erase_sublist)
  entered_after {i j w' ph ph'} hij hi hj hph := by
    by_cases hjn : j = n
    · have hin : i ≠ n := by omega
      rw [hjn, Places.set_self] at hj
      cases hj
      rw [Places.set_of_ne P _ _ hin] at hi
      exact h.before_enter hd he hfirst (by omega) hi
    · rw [Places.set_of_ne P _ _ hjn] at hj
      by_cases hin : i = n
      · rw [hin, Places.set_self] at hi
        cases hi
        -- Nobody behind it has entered, for it had not itself.
        obtain ⟨ph₀, hn, hph₀⟩ := he.place
        rw [hin] at hij
        have := h.entered_after hij hn hj hph
        rcases hph₀ with rfl | rfl <;> simp at this
      · rw [Places.set_of_ne P _ _ hin] at hi
        exact h.entered_after hij hi hj hph

theorem leave (h : Ordered P locks) (hn : P n = some (w, .inside)) :
    Ordered (P.set n w .released) (onLock w Lock.leave locks) where
  new_after := h.new_after_set (h.firstNew hn (by simp)) (by simp)
  waiting_sorted := h.waiting_sorted_onLock (fun _ => rfl) (h.waiting_sorted w)
  entered_after {i j w' ph ph'} hij hi hj hph := by
    by_cases hin : i = n
    · rw [hin, Places.set_self] at hi
      cases hi
      exact .inl rfl
    · rw [Places.set_of_ne P _ _ hin] at hi
      by_cases hjn : j = n
      · rw [hjn, Places.set_self] at hj
        cases hj
        rw [hjn] at hij
        exact h.entered_after hij hi hn (.inl rfl)
      · rw [Places.set_of_ne P _ _ hjn] at hj
        exact h.entered_after hij hi hj hph

theorem turnAway (h : Ordered P locks) (hfirst : FirstNew P n) :
    Ordered (P.set n w .refused) locks where
  new_after := h.new_after_set hfirst (by simp)
  waiting_sorted := h.waiting_sorted
  entered_after {i j w' ph ph'} hij hi hj hph := by
    have hjn : j ≠ n := by
      intro e
      rw [e, Places.set_self] at hj
      cases hj
      simp at hph
    rw [Places.set_of_ne P _ _ hjn] at hj
    by_cases hin : i = n
    · rw [hin, Places.set_self] at hi
      cases hi
      exact .inr rfl
    · rw [Places.set_of_ne P _ _ hin] at hi
      exact h.entered_after hij hi hj hph

end Ordered

end ManifestPolicy
