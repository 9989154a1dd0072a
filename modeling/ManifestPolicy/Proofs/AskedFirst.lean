import Mathlib.Data.List.Basic
import ManifestPolicy.Proofs.ScheduleSound

/-!
# First come, first served

`Ordered` speaks of runs that begin in the order of their numbers. Runs may
begin in any order, and then it is the one that asked first for the lock of
its workspace that enters first. `Ahead` says where the first of two such runs
stands, given where the other one is; every change keeps it, and it leaves
the second run no place inside as long as the first one is not over.

A property of places and locks that the changes keep holds in every schedule
that can be reached from one in which it holds (`KeptByChanges.reaches`).
-/

namespace ManifestPolicy

open Schedule

namespace Schedule

variable {v : Validator} {c c' : Schedule} {n m : Nat} {w : Location}

/-! ## What every change keeps -/

/-- A property of places and locks that the four changes keep. -/
structure KeptByChanges (I : Places → List Lock → Prop) : Prop where
  wait {P : Places} {locks : List Lock} {queue : List Nat} {n : Nat} {w : Location} :
    Disciplined P locks queue → P n = some (w, .new) → I P locks →
      I (P.set n w .queued) (onLock w (Lock.await n) locks)
  enter {P : Places} {locks : List Lock} {queue : List Nat} {n : Nat} {w : Location} :
    Disciplined P locks queue → Disciplined.MayEnter P locks w n → I P locks →
      I (P.set n w .inside) (onLock w (Lock.enter n) locks)
  leave {P : Places} {locks : List Lock} {n : Nat} {w : Location} :
    P n = some (w, .inside) → I P locks →
      I (P.set n w .released) (onLock w Lock.leave locks)
  turnAway {P : Places} {locks : List Lock} {n : Nat} {w : Location} :
    P n = some (w, .new) → I P locks → I (P.set n w .refused) locks

theorem KeptByChanges.turnOf {I : Places → List Lock → Prop} (hI : KeptByChanges I) (h : c.Sound)
    (hs : v.settings.serialize = true) (hq : n ∈ c.queue) (hc : I c.places c.locks) :
    I (c.turnOf v n).places (c.turnOf v n).locks := by
  obtain ⟨w, _, _, hchange⟩ := h.change_turnOf hs hq
  generalize (c.turnOf v n).places = P at hchange ⊢
  generalize (c.turnOf v n).locks = locks at hchange ⊢
  cases hchange with
  | stayed => exact hc
  | refused hn => exact hI.turnAway hn hc
  | waited hn => exact hI.wait h.disciplined hn hc
  | entered may => exact hI.enter h.disciplined may hc
  | passed may => exact hI.leave (Places.set_self ..) (hI.enter h.disciplined may hc)
  | left hn => exact hI.leave hn hc

theorem KeptByChanges.reaches {I : Places → List Lock → Prop} (hI : KeptByChanges I)
    (h : c.Sound) (hs : v.settings.serialize = true) (hr : Reaches v c c')
    (hc : I c.places c.locks) : I c'.places c'.locks := by
  induction hr with
  | refl => exact hc
  | turn hr hn ih => exact hI.turnOf (hr.sound hs h) hs hn ih

/-! ## Two runs of one workspace -/

/-- The first of two runs of one workspace asked for its lock when the second
one had not: it is over, or it is inside and the other one is not, or it waits
in front of the other one. -/
inductive Ahead (i j : Nat) (w : Location) (P : Places) (locks : List Lock) : Prop where
  | ended {ph : Phase} : P i = some (w, ph) → ph = .released ∨ ph = .refused → Ahead i j w P locks
  | inside {ph : Phase} : P i = some (w, .inside) → P j = some (w, ph) →
      ph = .new ∨ ph = .queued ∨ ph = .refused → Ahead i j w P locks
  | alone {ph : Phase} : P i = some (w, .queued) → P j = some (w, ph) →
      ph = .new ∨ ph = .refused → Ahead i j w P locks
  | behind : P i = some (w, .queued) → [i, j].Sublist (lockOf w locks).waiting →
      Ahead i j w P locks

/-- A run whose phase this is not is another one. -/
theorem ne_of_phase {P : Places} {w w' : Location} {ph ph' : Phase} (hn : P n = some (w, ph))
    (hm : P m = some (w', ph')) (h : ph ≠ ph') : m ≠ n := by
  rintro rfl
  rw [hn] at hm
  cases hm
  exact h rfl

/-- Another run in another phase stays where it is. -/
theorem set_of_phase {P : Places} {w w' : Location} {ph ph' : Phase} (hn : P n = some (w', ph'))
    (hm : P m = some (w, ph)) (h : ph ≠ ph') (ph₁ : Phase) :
    P.set n w' ph₁ m = some (w, ph) := by
  rw [Places.set_of_ne _ _ _ (ne_of_phase hn hm (Ne.symm h)), hm]

theorem Ahead.wait {i j : Nat} {P : Places} {locks : List Lock} {queue : List Nat} {w' : Location}
    (h : Ahead i j w P locks) (hd : Disciplined P locks queue) (hn : P n = some (w', .new)) :
    Ahead i j w (P.set n w' .queued) (onLock w' (Lock.await n) locks) := by
  have keep {m : Nat} {ph : Phase} (hm : P m = some (w, ph)) (hph : ph ≠ .new) :
      P.set n w' .queued m = some (w, ph) := set_of_phase hn hm hph _
  cases h with
  | ended hi hph => exact .ended (keep hi (by rintro rfl; simp at hph)) hph
  | inside hi hj hph =>
      by_cases e : j = n
      · subst e
        rw [hj] at hn
        cases hn
        exact .inside (keep hi (by decide)) (Places.set_self ..) (.inr (.inl rfl))
      · exact .inside (keep hi (by decide)) ((Places.set_of_ne _ _ _ e).trans hj) hph
  | alone hi hj hph =>
      by_cases e : j = n
      · subst e
        rw [hj] at hn
        cases hn
        refine .behind (keep hi (by decide)) ?_
        rw [lockOf_onLock (Lock.await j) fun _ => rfl, if_pos rfl]
        exact List.Sublist.append (List.singleton_sublist.2 (hd.mem_waiting.2 hi))
          (List.Sublist.refl [j])
      · exact .alone (keep hi (by decide)) ((Places.set_of_ne _ _ _ e).trans hj) hph
  | behind hi hsub =>
      refine .behind (keep hi (by decide)) ?_
      rw [lockOf_onLock (Lock.await n) fun _ => rfl]
      split
      · next e =>
          subst e
          exact hsub.trans (List.sublist_append_left _ _)
      · exact hsub

/-- The second run may enter only when the first one is over. -/
theorem Ahead.over_of_mayEnter {i j : Nat} {P : Places} {locks : List Lock} {queue : List Nat}
    {w' : Location} (h : Ahead i j w P locks) (hd : Disciplined P locks queue)
    (may : Disciplined.MayEnter P locks w' j) :
    ∃ ph, P i = some (w, ph) ∧ (ph = .released ∨ ph = .refused) := by
  obtain ⟨ph₀, hn, _⟩ := may.place
  cases h with
  | ended hi hph => exact ⟨_, hi, hph⟩
  | inside hi hj _ =>
      rw [hj] at hn
      cases hn
      exact absurd hi (hd.not_inside may.1)
  | alone hi hj hph =>
      rw [hj] at hn
      cases hn
      obtain ⟨_, ⟨_, hnil⟩ | ⟨hqueued, _⟩⟩ := may
      · exact absurd hi (hd.not_queued hnil)
      · rw [hj] at hqueued
        cases hqueued
        simp at hph
  | behind hi hsub =>
      have hj : P j = some (w, .queued) := hd.mem_waiting.1 (hsub.subset (by simp))
      rw [hj] at hn
      cases hn
      obtain ⟨_, ⟨hnew, _⟩ | ⟨_, hhead⟩⟩ := may
      · rw [hj] at hnew
        cases hnew
      · -- It would be the first of those that wait, with the other one behind it.
        obtain ⟨rest, hrest⟩ := List.head?_eq_some_iff.1 hhead
        have hnodup := hd.waiting_nodup w
        have hij : i ≠ j := by
          have := hnodup.sublist hsub
          simpa using this
        rw [hrest] at hsub hnodup
        have hmem := (hsub.of_cons_of_ne hij).subset (List.mem_cons_of_mem i (List.mem_singleton_self j))
        exact absurd hmem (List.nodup_cons.1 hnodup).1

theorem Ahead.enter {i j : Nat} {P : Places} {locks : List Lock} {queue : List Nat} {w' : Location}
    (h : Ahead i j w P locks) (hd : Disciplined P locks queue)
    (may : Disciplined.MayEnter P locks w' n) :
    Ahead i j w (P.set n w' .inside) (onLock w' (Lock.enter n) locks) := by
  obtain ⟨ph₀, hn, hph₀⟩ := may.place
  have keep {m : Nat} {ph : Phase} (hm : P m = some (w, ph)) (e : m ≠ n) :
      P.set n w' .inside m = some (w, ph) := by
    rw [Places.set_of_ne _ _ _ e, hm]
  have stays {ph : Phase} (hi : P i = some (w, ph)) (hph : ph = .released ∨ ph = .refused) :
      Ahead i j w (P.set n w' .inside) (onLock w' (Lock.enter n) locks) := by
    refine .ended (keep hi (ne_of_phase hn hi ?_)) hph
    rintro rfl
    rcases hph₀ with rfl | rfl <;> simp at hph
  by_cases hjn : j = n
  · -- The second run enters: the first one is over, and stays so.
    subst hjn
    obtain ⟨ph, hi, hph⟩ := h.over_of_mayEnter hd may
    exact stays hi hph
  cases h with
  | ended hi hph => exact stays hi hph
  | inside hi hj hph =>
      have hin : i ≠ n := ne_of_phase hn hi (by rcases hph₀ with rfl | rfl <;> decide)
      exact .inside (keep hi hin) (keep hj hjn) hph
  | alone hi hj hph =>
      by_cases e : i = n
      · subst e
        rw [hi] at hn
        cases hn
        exact .inside (Places.set_self ..) (keep hj hjn) (hph.imp_right .inr)
      · exact .alone (keep hi e) (keep hj hjn) hph
  | behind hi hsub =>
      have hj : P j = some (w, .queued) := hd.mem_waiting.1 (hsub.subset (by simp))
      by_cases e : i = n
      · subst e
        rw [hi] at hn
        cases hn
        exact .inside (Places.set_self ..) (keep hj hjn) (.inr (.inl rfl))
      · refine .behind (keep hi e) ?_
        rw [lockOf_onLock (Lock.enter n) fun _ => rfl]
        split
        · next ew =>
            subst ew
            have := hsub.erase n
            rwa [List.erase_of_not_mem (by simp [Ne.symm e, Ne.symm hjn])] at this
        · exact hsub

theorem Ahead.leave {i j : Nat} {P : Places} {locks : List Lock} {w' : Location}
    (h : Ahead i j w P locks) (hn : P n = some (w', .inside)) :
    Ahead i j w (P.set n w' .released) (onLock w' Lock.leave locks) := by
  have keep {m : Nat} {ph : Phase} (hm : P m = some (w, ph)) (hph : ph ≠ .inside) :
      P.set n w' .released m = some (w, ph) := set_of_phase hn hm hph _
  cases h with
  | ended hi hph => exact .ended (keep hi (by rintro rfl; simp at hph)) hph
  | inside hi hj hph =>
      have hj := keep hj (by rintro rfl; simp at hph)
      by_cases e : i = n
      · subst e
        rw [hi] at hn
        cases hn
        exact .ended (Places.set_self ..) (.inl rfl)
      · exact .inside ((Places.set_of_ne _ _ _ e).trans hi) hj hph
  | alone hi hj hph =>
      exact .alone (keep hi (by decide)) (keep hj (by rintro rfl; simp at hph)) hph
  | behind hi hsub =>
      refine .behind (keep hi (by decide)) ?_
      rw [lockOf_onLock Lock.leave fun _ => rfl]
      split
      · next e =>
          subst e
          exact hsub
      · exact hsub

theorem Ahead.turnAway {i j : Nat} {P : Places} {locks : List Lock} {w' : Location}
    (h : Ahead i j w P locks) (hn : P n = some (w', .new)) :
    Ahead i j w (P.set n w' .refused) locks := by
  have keep {m : Nat} {ph : Phase} (hm : P m = some (w, ph)) (hph : ph ≠ .new) :
      P.set n w' .refused m = some (w, ph) := set_of_phase hn hm hph _
  have turned {ph : Phase} (hj : P j = some (w, ph)) (hph : ph ≠ .refused) (e : j = n) :
      P.set n w' .refused j = some (w, .refused) := by
    subst e
    rw [hj] at hn
    cases hn
    exact Places.set_self ..
  cases h with
  | ended hi hph => exact .ended (keep hi (by rintro rfl; simp at hph)) hph
  | @inside ph hi hj hph =>
      by_cases e : ph = .new
      · subst e
        by_cases e : j = n
        · exact .inside (keep hi (by decide)) (turned hj (by decide) e) (.inr (.inr rfl))
        · exact .inside (keep hi (by decide)) ((Places.set_of_ne _ _ _ e).trans hj) hph
      · exact .inside (keep hi (by decide)) (keep hj e) hph
  | @alone ph hi hj hph =>
      by_cases e : ph = .new
      · subst e
        by_cases e : j = n
        · exact .alone (keep hi (by decide)) (turned hj (by decide) e) (.inr rfl)
        · exact .alone (keep hi (by decide)) ((Places.set_of_ne _ _ _ e).trans hj) hph
      · exact .alone (keep hi (by decide)) (keep hj e) hph
  | behind hi hsub => exact .behind (keep hi (by decide)) hsub

theorem ahead_kept (i j : Nat) (w : Location) : KeptByChanges (Ahead i j w) where
  wait hd hn h := h.wait hd hn
  enter hd may h := h.enter hd may
  leave hn h := h.leave hn
  turnAway hn h := h.turnAway hn

/-- Of two runs of one workspace, of which one has asked for the lock and the
other one has not, the first is ahead. -/
theorem ahead_of_asked {i j : Nat} {P : Places} {locks : List Lock} {ph : Phase}
    (hi : P i = some (w, ph)) (hph : ph ≠ .new) (hj : P j = some (w, .new)) :
    Ahead i j w P locks := by
  cases ph with
  | new => exact absurd rfl hph
  | queued => exact .alone hi hj (.inl rfl)
  | inside => exact .inside hi hj (.inl rfl)
  | released => exact .ended hi (.inl rfl)
  | refused => exact .ended hi (.inr rfl)

theorem Ahead.entered_after {i j : Nat} {P : Places} {locks : List Lock} {queue : List Nat}
    {ph : Phase} (h : Ahead i j w P locks) (hd : Disciplined P locks queue)
    (hj : P j = some (w, ph)) (hph : ph = .inside ∨ ph = .released) :
    ∃ ph, P i = some (w, ph) ∧ (ph = .released ∨ ph = .refused) := by
  have other {ph' : Phase} (hj' : P j = some (w, ph')) : ph' = .inside ∨ ph' = .released := by
    rw [hj] at hj'
    cases hj'
    exact hph
  cases h with
  | ended hi hover => exact ⟨_, hi, hover⟩
  | inside _ hj' hout => rcases other hj' with rfl | rfl <;> simp at hout
  | alone _ hj' hout => rcases other hj' with rfl | rfl <;> simp at hout
  | behind _ hsub =>
      rcases other (hd.mem_waiting.1 (hsub.subset (by simp))) with e | e <;> cases e

end Schedule

end ManifestPolicy
