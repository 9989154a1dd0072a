import ManifestPolicy.Proofs.RunFrame

/-!
# The course of a run

A run is written as steps between calls, so that runs can take turns. What is
to be said of one run by itself is said more easily of smaller steps: it finds
out what the document is, probes the renderer, has it render, falls back on
the plain document, compiles the policy, and has it evaluated. A `Point` is
where a run stands between two of them, and `move` is the next step, the
answer to its call included.

The two ways to see a run agree. What is left of a run does not change as the
run moves on (`rest_move`), and so the points that a run visits are points of
the run that `conclude` performs (`Visits.rest_eq`). It comes to its end
(`visits_finished`).
-/

namespace ManifestPolicy

/-- Where a run stands between two of its steps, and what it is about to do. -/
inductive Point where
  | detect
  | probe
  | render
  | fallBack
  | compile (target : Path) (warnings : List String)
  | evaluate (target policy : Path) (warnings : List String)
  | finished (r : Result)

/-- How many steps a run can have left. -/
def Point.left : Point → Nat
  | .detect => 5
  | .probe => 4
  | .render => 3
  | .fallBack => 3
  | .compile .. => 2
  | .evaluate .. => 1
  | .finished _ => 0

namespace Validator

/-- The result of a run that met with trouble. -/
def failed (q : Request) (stage : Stage) (target : Path) (warnings : List String) (t : Trouble) :
    Result := ⟨t.outcome, stage, some q.document, some target, warnings⟩

/-- The step in which the policy is compiled. -/
def compiling (v : Validator) (q : Request) (target : Path) (warnings : List String)
    (s : Session) : Session × Point :=
  match v.generate q.workspace s with
  | (s, .error t) => (s, .finished (failed q .compile target warnings t))
  | (s, .ok policy) => (s, .evaluate target policy warnings)

/-- The next step of a run. -/
def move (v : Validator) (q : Request) : Point → Session → Session × Point
  | .detect, s =>
    match isTemplate q s with
    | .error t => (s, .finished (failed q .detectTemplate q.document [] t))
    | .ok false => (s, .compile q.document [])
    | .ok true => (s, if v.settings.renderer.enabled then .probe else .fallBack)
  | .probe, s =>
    let asked := s.ask (Renderer.versionCall v.settings.renderer)
    match Renderer.isAvailable asked.2 with
    | .error t => (asked.1, .finished (failed q .detectTemplate q.document [] t))
    | .ok true => (asked.1, .render)
    | .ok false => (asked.1, .fallBack)
  | .render, s =>
    let asked := s.ask (Renderer.renderCall v.settings.renderer q.document)
    match Renderer.rendered v.settings.renderer q.document asked.2 with
    | .error t => (asked.1, .finished (failed q .render q.document [] t))
    | .ok target => (asked.1, .compile target [])
  | .fallBack, s =>
    let warning := noRenderer v.settings.renderer
    match v.notify (.warning warning) s with
    | (s, some t) => (s, .finished (failed q .sanitizeFallback q.document [warning] t))
    | (s, none) =>
      match v.makePlain q.document s with
      | (s, .error t) => (s, .finished (failed q .sanitizeFallback q.document [warning] t))
      | (s, .ok plain) => (s, .compile plain [warning])
  | .compile target warnings, s => v.compiling q target warnings s
  | .evaluate target policy warnings, s =>
    let asked := s.ask ((Evaluator.ofSettings v.settings).call target policy)
    (asked.1, .finished (v.verdict q target policy warnings asked.2))
  | .finished r, s => (s, .finished r)

/-- What is left of a run that stands here: where it leads to, and its
result. -/
def rest (v : Validator) (q : Request) : Point → Session → Session × Result
  | .detect, s => v.conclude q s
  | .probe, s => v.finish q s (.asking (Renderer.versionCall v.settings.renderer) .version)
  | .render, s =>
    v.finish q s (.asking (Renderer.renderCall v.settings.renderer q.document) .rendering)
  | .fallBack, s => v.finish q (v.fallBack q s).1 (v.fallBack q s).2
  | .compile target warnings, s =>
    v.finish q (v.judge q target warnings s).1 (v.judge q target warnings s).2
  | .evaluate target policy warnings, s =>
    v.finish q s (.asking ((Evaluator.ofSettings v.settings).call target policy)
      (.evaluation target policy warnings))
  | .finished r, s => (s, r)

variable {v : Validator} {q : Request} {s : Session}

theorem left_move {p : Point} (hp : 0 < p.left) : (v.move q p s).2.left < p.left := by
  cases p with
  | detect =>
      simp only [move]
      repeat' split
      all_goals simp [Point.left]
  | probe =>
      simp only [move]
      split <;> simp [Point.left]
  | render =>
      simp only [move]
      split <;> simp [Point.left]
  | fallBack =>
      simp only [move]
      repeat' split
      all_goals simp [Point.left]
  | compile target warnings =>
      rw [move]
      unfold compiling
      split <;> simp [Point.left]
  | evaluate target policy warnings => exact Nat.zero_lt_one
  | finished r => exact absurd hp (Nat.lt_irrefl 0)

/-- Where a run stands that has made a template plain, or could not. -/
def plainPoint (v : Validator) (q : Request) : Except Trouble Path → Point
  | .error e =>
    .finished (failed q .sanitizeFallback q.document [noRenderer v.settings.renderer] e)
  | .ok plain => .compile plain [noRenderer v.settings.renderer]

theorem move_fallBack {s' : Session} {r : Except Trouble Path}
    (hn : v.trouble (.warning (noRenderer v.settings.renderer)) = none)
    (hm : v.makePlain q.document (s.note (.warning (noRenderer v.settings.renderer))) = (s', r)) :
    v.move q .fallBack s = (s', v.plainPoint q r) := by
  simp only [move, notify, hn, hm]
  cases r <;> rfl

/-- A step leaves what is left of the run as it is. -/
theorem rest_move (v : Validator) (q : Request) (p : Point) (s : Session) :
    v.rest q (v.move q p s).2 (v.move q p s).1 = v.rest q p s := by
  cases p with
  | detect =>
      cases ht : isTemplate q s with
      | error t =>
          simp only [move, rest, conclude, start, ht]
          exact (finish_ended ..).symm
      | ok b =>
          cases b with
          | false => simp only [move, rest, conclude, start, ht]
          | true =>
              cases he : v.settings.renderer.enabled with
              | false =>
                  simp only [move, rest, conclude, start, ht, he, Bool.false_eq_true, if_false]
              | true => simp only [move, rest, conclude, start, ht, he, if_true]
  | probe =>
      rw [rest, finish]
      cases ha : Renderer.isAvailable (s.ask (Renderer.versionCall v.settings.renderer)).2 with
      | error t =>
          simp only [move, rest, resume, ha]
          exact (finish_ended ..).symm
      | ok b => cases b <;> simp only [move, rest, resume, ha]
  | render =>
      rw [rest, finish]
      cases ha : Renderer.rendered v.settings.renderer q.document
          (s.ask (Renderer.renderCall v.settings.renderer q.document)).2 with
      | error t =>
          simp only [move, rest, resume, ha]
          exact (finish_ended ..).symm
      | ok target => simp only [move, rest, resume, ha]
  | fallBack =>
      rcases hn : v.notify (.warning (noRenderer v.settings.renderer)) s with ⟨s₁, _ | t⟩
      · rcases hm : v.makePlain q.document s₁ with ⟨s₂, t | plain⟩
        · simp only [move, rest, fallBack, hn, hm]
          exact (finish_ended ..).symm
        · simp only [move, rest, fallBack, hn, hm]
      · simp only [move, rest, fallBack, hn]
        exact (finish_ended ..).symm
  | compile target warnings =>
      rw [move, rest]
      unfold compiling judge
      rcases v.generate q.workspace s with ⟨s₁, t | policy⟩
      · exact (finish_ended ..).symm
      · rfl
  | evaluate target policy warnings =>
      rw [rest, finish]
      simp only [move, rest, resume]
      exact (finish_ended ..).symm
  | finished r => rfl

theorem rest_finished {p : Point} {r : Result} (h : (v.move q p s).2 = .finished r) :
    v.rest q p s = ((v.move q p s).1, r) := by
  rw [← v.rest_move q p s, h]
  rfl

/-- The points that a run comes by, with the sessions that it has then. -/
inductive Visits (v : Validator) (q : Request) (s : Session) : Session → Point → Prop where
  | detect : Visits v q s s .detect
  | move {s' : Session} {p : Point} : Visits v q s s' p →
      Visits v q s (v.move q p s').1 (v.move q p s').2

/-- From each of them the run leads to its end. -/
theorem Visits.rest_eq {s' : Session} {p : Point} (h : Visits v q s s' p) :
    v.rest q p s' = v.conclude q s := by
  induction h with
  | detect => rfl
  | move _ ih => rw [rest_move, ih]

theorem Visits.ends {s' : Session} {p : Point} (h : Visits v q s s' p) :
    Visits v q s (v.rest q p s').1 (.finished (v.rest q p s').2) := by
  by_cases hp : 0 < p.left
  · have hlt := left_move (v := v) (q := q) (s := s') hp
    rw [← v.rest_move q p s']
    exact h.move.ends
  · cases p with
    | finished r => exact h
    | _ => exact absurd (Nat.succ_pos _) hp
termination_by p.left

/-- A run comes to its end. -/
theorem visits_finished (v : Validator) (q : Request) (s : Session) :
    Visits v q s (v.conclude q s).1 (.finished (v.conclude q s).2) :=
  Visits.detect.ends

/-! ## Calls on the way -/

/-- The call that a run is about to make. -/
def callAt (v : Validator) (q : Request) : Point → Option Call
  | .probe => some (Renderer.versionCall v.settings.renderer)
  | .render => some (Renderer.renderCall v.settings.renderer q.document)
  | .evaluate target policy _ => some ((Evaluator.ofSettings v.settings).call target policy)
  | _ => none

/-- A step that calls nobody is what the run does by itself. -/
theorem acts_move {p : Point} (hp : v.callAt q p = none) (s : Session) :
    v.Acts q s (v.move q p s).1 := by
  cases p with
  | detect =>
      rw [move]
      split <;> exact .refl v q s
  | fallBack =>
      have noted := v.acts_notify q (.warning (noRenderer v.settings.renderer)) s
      rcases hn : v.notify (.warning (noRenderer v.settings.renderer)) s with ⟨s₁, _ | t⟩
      · rw [hn] at noted
        have plain := v.acts_makePlain q s₁
        rcases hm : v.makePlain q.document s₁ with ⟨s₂, t | target⟩
        · rw [hm] at plain
          simp only [move, hn, hm]
          exact noted.trans plain
        · rw [hm] at plain
          simp only [move, hn, hm]
          exact noted.trans plain
      · rw [hn] at noted
        simp only [move, hn]
        exact noted
  | compile target warnings =>
      have generated := v.acts_generate q s
      rw [move]
      unfold compiling
      rcases hg : v.generate q.workspace s with ⟨s₁, t | policy⟩
      · rw [hg] at generated; exact generated
      · rw [hg] at generated; exact generated
  | finished r => exact .refl v q s
  | _ => cases hp

theorem move_asking {p : Point} {call : Call} (hp : v.callAt q p = some call) (s : Session) :
    (v.move q p s).1 = (s.ask call).1 := by
  cases p with
  | probe =>
      injection hp with hp
      rw [move, ← hp]
      split <;> rfl
  | render =>
      injection hp with hp
      rw [move, ← hp]
      split <;> rfl
  | evaluate target policy warnings =>
      injection hp with hp
      rw [move, ← hp]
  | _ => cases hp

/-- A step makes the call for its point, and no other one. -/
theorem calls_move (v : Validator) (q : Request) (p : Point) (s : Session) :
    (v.move q p s).1.calls = s.calls ++ (v.callAt q p).toList := by
  cases hp : v.callAt q p with
  | none => exact (v.acts_move hp s).calls_eq.trans (List.append_nil _).symm
  | some call =>
      rw [move_asking hp]
      exact s.calls_ask call

theorem replies_move (v : Validator) (q : Request) (p : Point) (s : Session) :
    (v.move q p s).1.replies = s.replies.drop (v.callAt q p).toList.length := by
  cases hp : v.callAt q p with
  | none => exact (v.acts_move hp s).replies_eq
  | some call =>
      rw [move_asking hp]
      exact (s.replies_ask call).trans (List.drop_one).symm

/-- All calls of a run are made at the points that it visits. -/
theorem Visits.calls {s' : Session} {p : Point} (h : Visits v q s s' p) :
    ∃ calls, s'.calls = s.calls ++ calls ∧
      ∀ call ∈ calls, ∃ s₀ p₀, Visits v q s s₀ p₀ ∧ v.callAt q p₀ = some call := by
  induction h with
  | detect => exact ⟨[], (List.append_nil _).symm, fun _ h => absurd h List.not_mem_nil⟩
  | @move s' p hv ih =>
      obtain ⟨calls, hcalls, horigin⟩ := ih
      cases hp : v.callAt q p with
      | none => exact ⟨calls, (v.acts_move hp s').calls_eq.trans hcalls, horigin⟩
      | some call =>
          refine ⟨calls ++ [call], ?_, fun call' h' => ?_⟩
          · rw [move_asking hp, ← List.append_assoc, ← hcalls]
            exact Session.calls_ask s' call
          · rcases List.mem_append.1 h' with h' | h'
            · exact horigin call' h'
            · rw [List.mem_singleton.1 h']
              exact ⟨s', p, hv, hp⟩

end Validator

end ManifestPolicy
