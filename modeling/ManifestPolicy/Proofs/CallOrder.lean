import ManifestPolicy.Proofs.FailureStages

/-!
# The calls of a run

A run calls a tool three times at most: it probes the renderer, has it render,
and has the document evaluated, in this order. It renders only after a good
probe, it evaluates only what was rendered well if anything was, and it calls
nobody after a step that failed. `Standing` says which calls have been made
when a run stands at a point, and what is known of their answers; a step leads
from one such point to another (`CallsAt.move`). At the end it gives the order
of all calls, and what the result tells of them (`conclude_calls`).
-/

namespace ManifestPolicy

/-- What a result tells of the calls that were made for it. -/
structure Result.TellsOf (r : Result) (probe render evaluation : List Call) : Prop where
  evaluated : evaluation ≠ [] ↔ r.stage = .evaluate ∨ r.stage = .report
  untouched : r.stage = .detectTemplate → probe = []
  unrendered : r.stage = .detectTemplate ∨ r.stage = .sanitizeFallback → render = []
  succeeded : (∀ kind message, r.outcome ≠ .failure kind message) ↔ r.stage = .report
  stages : ∀ kind message, r.outcome = .failure kind message → r.stage ∈ kind.stages

namespace Validator

variable {v : Validator} {q : Request} {s s' : Session} {probe render evaluation : List Call}

/-- The probe was made, if at all, for a template and with the renderer
enabled. -/
def Probed (v : Validator) (q : Request) (s : Session) (probe : List Call) : Prop :=
  probe = [] ∨ probe = [Renderer.versionCall v.settings.renderer] ∧
    isTemplate q s = .ok true ∧ v.settings.renderer.enabled = true

/-- The session and the answer after the probe. -/
def probing (v : Validator) (s : Session) : Session × Answer :=
  ((s.ask (Renderer.versionCall v.settings.renderer)).1,
    (s.ask (Renderer.versionCall v.settings.renderer)).2)

/-- The answer of the renderer that is called after the probe. -/
def rendering (v : Validator) (q : Request) (s : Session) : Answer :=
  ((v.probing s).1.ask (Renderer.renderCall v.settings.renderer q.document)).2

/-- The renderer was called, if at all, after a probe that was answered
well. -/
def Rendered (v : Validator) (q : Request) (s : Session) (probe render : List Call) : Prop :=
  render = [] ∨ render = [Renderer.renderCall v.settings.renderer q.document] ∧
    probe = [Renderer.versionCall v.settings.renderer] ∧
    Renderer.isAvailable (v.probing s).2 = .ok true

/-- What is to be evaluated was rendered, if the renderer was called. -/
def Targets (v : Validator) (q : Request) (s : Session) (render : List Call) (target : Path) :
    Prop :=
  render = [] ∨ Renderer.rendered v.settings.renderer q.document (v.rendering q s) = .ok target

/-- The evaluator was called, if at all, with what was rendered, if anything
was. -/
def Evaluated (v : Validator) (q : Request) (s : Session) (render evaluation : List Call) :
    Prop :=
  evaluation = [] ∨ ∃ target policy, v.Targets q s render target ∧
    evaluation = [(Evaluator.ofSettings v.settings).call target policy]

/-- Where a run stands, and with which calls made. -/
inductive Standing (v : Validator) (q : Request) (s : Session) :
    Session → Point → List Call → List Call → List Call → Prop where
  | detect : Standing v q s s .detect [] [] []
  | probe (template : isTemplate q s = .ok true) (enabled : v.settings.renderer.enabled = true) :
      Standing v q s s .probe [] [] []
  | render (probed : v.Probed q s [Renderer.versionCall v.settings.renderer])
      (available : Renderer.isAvailable (v.probing s).2 = .ok true) :
      Standing v q s (v.probing s).1 .render
        [Renderer.versionCall v.settings.renderer] [] []
  | fallBack {s' : Session} {probe : List Call} (probed : v.Probed q s probe) :
      Standing v q s s' .fallBack probe [] []
  | compile {s' : Session} {probe render : List Call} {target : Path} {warnings : List String}
      (probed : v.Probed q s probe) (rendered : v.Rendered q s probe render)
      (targets : v.Targets q s render target) :
      Standing v q s s' (.compile target warnings) probe render []
  | evaluate {s' : Session} {probe render : List Call} {target policy : Path}
      {warnings : List String} (probed : v.Probed q s probe)
      (rendered : v.Rendered q s probe render) (targets : v.Targets q s render target) :
      Standing v q s s' (.evaluate target policy warnings) probe render []
  | finished {s' : Session} {r : Result} {probe render evaluation : List Call}
      (probed : v.Probed q s probe) (rendered : v.Rendered q s probe render)
      (evaluated : v.Evaluated q s render evaluation) (tells : r.TellsOf probe render evaluation) :
      Standing v q s s' (.finished r) probe render evaluation

/-- A point of a run with the calls that were made, all of them, and with
tools that will not break down. -/
structure CallsAt (v : Validator) (q : Request) (s s' : Session) (p : Point)
    (probe render evaluation : List Call) : Prop where
  standing : v.Standing q s s' p probe render evaluation
  calls_eq : s'.calls = s.calls ++ (probe ++ render ++ evaluation)
  unbroken : s'.Unbroken

/-- A run that fails at a stage before the evaluation. -/
theorem tellsOf_failed {stage : Stage} {target : Path} {warnings : List String} {t : Trouble}
    (ht : stage ∈ t.kind.stages) (hstage : stage ≠ .evaluate ∧ stage ≠ .report)
    (hprobe : stage = .detectTemplate → probe = [])
    (hrender : stage = .detectTemplate ∨ stage = .sanitizeFallback → render = []) :
    (failed q stage target warnings t).TellsOf probe render [] where
  evaluated := by
    refine iff_of_false (by simp) ?_
    rintro (e | e)
    · exact hstage.1 e
    · exact hstage.2 e
  untouched := hprobe
  unrendered := hrender
  succeeded := by
    obtain ⟨message, hfailure⟩ := t.outcome_eq
    exact iff_of_false (fun h => h _ _ hfailure) hstage.2
  stages kind message h := by
    obtain ⟨message', hfailure⟩ := t.outcome_eq
    rw [show t.outcome = _ from h] at hfailure
    injection hfailure with hkind _
    rw [hkind]
    exact ht

/-- The word of the evaluator makes the result. -/
theorem tellsOf_verdict (v : Validator) (q : Request) (target policy : Path)
    (warnings : List String) {a : Answer} (ha : ∀ t, a ≠ .broken t) {call : Call} :
    (v.verdict q target policy warnings a).TellsOf probe render [call] := by
  unfold verdict
  split
  · next t ht =>
      have within : ∀ k ∈ [FailureKind.evaluation, .unknown], .evaluate ∈ k.stages := by decide
      have hkind := within _ (Evaluator.kind_of_output ha ht)
      obtain ⟨message, hfailure⟩ := t.outcome_eq
      refine ⟨by simp, by simp, by simp, ?_, ?_⟩
      · exact iff_of_false (fun h => h _ _ hfailure) (by simp)
      · intro kind message' h
        rw [show t.outcome = _ from h] at hfailure
        injection hfailure with he _
        rw [he]
        exact hkind
  · next output _ =>
      refine ⟨by simp, by simp, by simp, ?_, ?_⟩
      · refine iff_of_true (fun kind message h => ?_) rfl
        dsimp only at h
        split at h <;> cases h
      · intro kind message h
        dsimp only at h
        split at h <;> cases h

/-! ## The steps -/

/-- After a step that calls nobody. -/
theorem CallsAt.acts {p : Point} (h : v.CallsAt q s s' p probe render evaluation)
    (hp : v.callAt q p = none)
    (standing : v.Standing q s (v.move q p s').1 (v.move q p s').2 probe render evaluation) :
    v.CallsAt q s (v.move q p s').1 (v.move q p s').2 probe render evaluation where
  standing := standing
  calls_eq := (v.acts_move hp s').calls_eq.trans h.calls_eq
  unbroken r hr := h.unbroken r (by rw [← (v.acts_move hp s').replies_eq]; exact hr)

/-- After a step that makes a call. -/
theorem CallsAt.asked {p : Point} {call : Call}
    (h : v.CallsAt q s s' p probe render evaluation) (hp : v.callAt q p = some call)
    {probe' render' evaluation' : List Call}
    (hcalls : probe' ++ render' ++ evaluation' = probe ++ render ++ evaluation ++ [call])
    (standing : v.Standing q s (v.move q p s').1 (v.move q p s').2 probe' render' evaluation') :
    v.CallsAt q s (v.move q p s').1 (v.move q p s').2 probe' render' evaluation' where
  standing := standing
  calls_eq := by
    rw [move_asking hp, show (s'.ask call).1.calls = (s'.ask call).1.calls from rfl,
      Session.calls_ask, h.calls_eq, hcalls, List.append_assoc]
  unbroken := by
    rw [move_asking hp]
    exact h.unbroken.ask call

theorem Standing.detect_move (v : Validator) (q : Request) (s : Session) :
    v.Standing q s (v.move q .detect s).1 (v.move q .detect s).2 [] [] [] := by
  rw [move]
  split
  · next t ht =>
      exact .finished (.inl rfl) (.inl rfl) (.inl rfl)
        (tellsOf_failed (detect_stages ht) (by simp) (fun _ => rfl) fun _ => rfl)
  · exact .compile (.inl rfl) (.inl rfl) (.inl rfl)
  · next ht =>
      cases he : v.settings.renderer.enabled with
      | true => exact .probe ht he
      | false => exact .fallBack (.inl rfl)

theorem Standing.probe_move (hs : s.Unbroken) (template : isTemplate q s = .ok true)
    (enabled : v.settings.renderer.enabled = true) :
    v.Standing q s (v.move q .probe s).1 (v.move q .probe s).2
      [Renderer.versionCall v.settings.renderer] [] [] := by
  have probed : v.Probed q s [Renderer.versionCall v.settings.renderer] :=
    .inr ⟨rfl, template, enabled⟩
  obtain ⟨b, hb⟩ := Renderer.isAvailable_ok
    (hs.answer (Renderer.versionCall v.settings.renderer))
  cases b with
  | true =>
      simp only [move, hb]
      exact .render probed hb
  | false =>
      simp only [move, hb]
      exact .fallBack probed

theorem Standing.render_move (hs : (v.probing s).1.Unbroken)
    (probed : v.Probed q s [Renderer.versionCall v.settings.renderer])
    (available : Renderer.isAvailable (v.probing s).2 = .ok true) :
    v.Standing q s (v.move q .render (v.probing s).1).1 (v.move q .render (v.probing s).1).2
      [Renderer.versionCall v.settings.renderer]
      [Renderer.renderCall v.settings.renderer q.document] [] := by
  have rendered : v.Rendered q s [Renderer.versionCall v.settings.renderer]
      [Renderer.renderCall v.settings.renderer q.document] := .inr ⟨rfl, rfl, available⟩
  have answer := hs.answer (Renderer.renderCall v.settings.renderer q.document)
  cases ht : Renderer.rendered v.settings.renderer q.document (v.rendering q s) with
  | error t =>
      have hkind : .render ∈ t.kind.stages := by
        rw [Renderer.kind_of_rendered answer ht]
        exact List.mem_cons_self
      rw [rendering] at ht
      simp only [move, ht]
      exact .finished probed rendered (.inl rfl)
        (tellsOf_failed hkind (by simp) (by simp) (by simp))
  | ok target =>
      have targets : v.Targets q s [Renderer.renderCall v.settings.renderer q.document] target :=
        .inr ht
      rw [rendering] at ht
      simp only [move, ht]
      exact .compile probed rendered targets

theorem Standing.fallBack_move (hv : v.Calm) (probed : v.Probed q s probe) (s' : Session) :
    v.Standing q s (v.move q .fallBack s').1 (v.move q .fallBack s').2 probe [] [] := by
  have fails {s'' : Session} {warnings : List String} {t : Trouble}
      (ht : .sanitizeFallback ∈ t.kind.stages) : v.Standing q s s''
        (.finished (failed q .sanitizeFallback q.document warnings t)) probe [] [] :=
    .finished probed (.inl rfl) (.inl rfl) (tellsOf_failed ht (by simp) (by simp) fun _ => rfl)
  rcases hn : v.notify (.warning (noRenderer v.settings.renderer)) s' with ⟨s₁, _ | t⟩
  · rcases hm : v.makePlain q.document s₁ with ⟨s₂, t | target⟩
    · simp only [move, hn, hm]
      exact fails (makePlain_stages hm)
    · simp only [move, hn, hm]
      exact .compile probed (.inl rfl) (.inl rfl)
  · have hkind : .sanitizeFallback ∈ t.kind.stages := by
      rw [hv.kind hn]
      decide
    simp only [move, hn]
    exact fails hkind

theorem Standing.compile_move (hv : v.Calm) {target : Path} (warnings : List String)
    (probed : v.Probed q s probe) (rendered : v.Rendered q s probe render)
    (targets : v.Targets q s render target) (s' : Session) :
    v.Standing q s (v.move q (.compile target warnings) s').1
      (v.move q (.compile target warnings) s').2 probe render [] := by
  rw [move]
  unfold compiling
  rcases hg : v.generate q.workspace s' with ⟨s₁, t | policy⟩
  · exact .finished probed rendered (.inl rfl)
      (tellsOf_failed (generate_stages hv hg) (by simp) (by simp) (by simp))
  · exact .evaluate probed rendered targets

/-- Each step leads to calls that are in order from calls that are. -/
theorem CallsAt.move {p : Point} (h : v.CallsAt q s s' p probe render evaluation)
    (hv : v.Calm) : ∃ probe' render' evaluation',
      v.CallsAt q s (v.move q p s').1 (v.move q p s').2 probe' render' evaluation' := by
  cases h.standing with
  | detect => exact ⟨_, _, _, h.acts rfl (.detect_move v q s)⟩
  | probe template enabled =>
      exact ⟨[Renderer.versionCall v.settings.renderer], [], [],
        h.asked rfl rfl (.probe_move h.unbroken template enabled)⟩
  | render probed available =>
      exact ⟨[Renderer.versionCall v.settings.renderer],
        [Renderer.renderCall v.settings.renderer q.document], [],
        h.asked rfl rfl (.render_move h.unbroken probed available)⟩
  | fallBack probed => exact ⟨_, _, _, h.acts rfl (.fallBack_move hv probed s')⟩
  | @compile _ _ _ target warnings probed rendered targets =>
      exact ⟨_, _, _, h.acts rfl (.compile_move hv warnings probed rendered targets s')⟩
  | @evaluate _ _ _ target policy warnings probed rendered targets =>
      have answer := h.unbroken.answer ((Evaluator.ofSettings v.settings).call target policy)
      refine ⟨probe, render, [(Evaluator.ofSettings v.settings).call target policy], ?_⟩
      exact h.asked rfl (by rw [List.append_nil]) (.finished probed rendered
        (.inr ⟨target, policy, targets, rfl⟩) (v.tellsOf_verdict q target policy warnings answer))
  | finished probed rendered evaluated tells => exact ⟨_, _, _, h⟩

theorem Visits.callsAt {p : Point} (h : v.Visits q s s' p) (hv : v.Calm) (hs : s.Unbroken) :
    ∃ probe render evaluation, v.CallsAt q s s' p probe render evaluation := by
  induction h with
  | detect => exact ⟨[], [], [], .detect, (List.append_nil _).symm, hs⟩
  | move _ ih =>
      obtain ⟨_, _, _, hcalls⟩ := ih
      exact hcalls.move hv

theorem Standing.finished_inv {r : Result}
    (h : v.Standing q s s' (.finished r) probe render evaluation) :
    v.Probed q s probe ∧ v.Rendered q s probe render ∧ v.Evaluated q s render evaluation ∧
      r.TellsOf probe render evaluation := by
  cases h with
  | finished probed rendered evaluated tells => exact ⟨probed, rendered, evaluated, tells⟩

/-- What a run leaves behind is what its conclusion does, if it comes to
one. -/
theorem run_calls (v : Validator) (q : Request) (s : Session) :
    ((v.run q s).1.calls = s.calls ∨ (v.run q s).1.calls = (v.conclude q s).1.calls) ∧
    ∀ r, (v.run q s).2 = .ok r →
      r = (v.conclude q s).2 ∧ (v.run q s).1.calls = (v.conclude q s).1.calls := by
  unfold run
  split
  · exact ⟨.inl rfl, fun r h => by cases h⟩
  · dsimp only [notify]
    split
    · next h =>
        injection h with h _
        rw [← h]
        exact ⟨.inr rfl, fun r h => by cases h⟩
    · next h =>
        injection h with h _
        rw [← h]
        exact ⟨.inr rfl, fun r h => by cases h; exact ⟨rfl, rfl⟩⟩

/-- A run probes, renders and evaluates at most once each and in this order.
It renders only after a good probe, evaluates only what was rendered well if
it was, and stops at the first step that fails: it has called the evaluator
if and only if it comes as far as the stage of evaluation, it does not fail
if and only if it comes as far as the report, and each kind of failure has
its stages. -/
theorem conclude_calls (hv : v.Calm) (hs : s.Unbroken) :
    ∃ probe render evaluation,
      (v.conclude q s).1.calls = s.calls ++ (probe ++ render ++ evaluation) ∧
      v.Probed q s probe ∧ v.Rendered q s probe render ∧ v.Evaluated q s render evaluation ∧
      (v.conclude q s).2.TellsOf probe render evaluation ∧
      ((v.run q s).1.calls = s.calls ∨ (v.run q s).1.calls = (v.conclude q s).1.calls) ∧
      ∀ r, (v.run q s).2 = .ok r →
        r = (v.conclude q s).2 ∧ (v.run q s).1.calls = (v.conclude q s).1.calls := by
  obtain ⟨probe, render, evaluation, h⟩ := (v.visits_finished q s).callsAt hv hs
  obtain ⟨probed, rendered, evaluated, tells⟩ := h.standing.finished_inv
  obtain ⟨hrun, hok⟩ := v.run_calls q s
  exact ⟨probe, render, evaluation, h.calls_eq, probed, rendered, evaluated, tells, hrun, hok⟩

/-- A renderer that is there, and takes too long. -/
theorem conclude_calls_slow_renderer :
    let v : Validator := ⟨{}, fun _ => none⟩
    let q : Request := ⟨⟨.none, ["pod.yaml"]⟩, ⟨.none, []⟩, some true, .manual⟩
    let s : Session :=
      { files := ⟨[], { here := [] }⟩
        replies := [⟨[], .completed ⟨0, "v3", ""⟩⟩, ⟨[], .timedOut "60 seconds"⟩] }
    v.Calm ∧ s.Unbroken ∧ (v.conclude q s).2.stage = .render ∧
      ∃ probe render, (v.conclude q s).1.calls = s.calls ++ (probe ++ render) ∧
        v.Rendered q s probe render := by
  intro v q s
  have hv : v.Calm := fun n f h => by cases h
  have hs : s.Unbroken := by
    intro reply hr t
    rcases List.mem_cons.1 hr with rfl | hr
    · exact fun h => by cases h
    · rw [List.mem_singleton.1 hr]
      exact fun h => by cases h
  have hstage : (v.conclude q s).2.stage = .render := by decide +kernel
  obtain ⟨probe, render, evaluation, hcalls, _, rendered, _, tells, _⟩ :=
    conclude_calls (q := q) hv hs
  have hnone : evaluation = [] := by
    by_cases he : evaluation = []
    · exact he
    · have := tells.evaluated.1 he
      rw [hstage] at this
      rcases this with e | e <;> cases e
  rw [hnone, List.append_nil] at hcalls
  exact ⟨hv, hs, hstage, probe, render, hcalls, rendered⟩

end Validator

end ManifestPolicy
