import ManifestPolicy.Proofs.RendererWords
import ManifestPolicy.Proofs.RunWrites

/-!
# A renderer that is missing and one that is switched off

A renderer that is switched off is not asked for anything. One that is switched
on is asked for its version, and if that fails, in whatever way, the run goes
on as if it were switched off: it warns, falls back on the plain document,
compiles the policy and has it evaluated. So the two runs have the same
outcome, whatever that is, and leave the same files; they differ in that one
call and in the name that the warning gives to the renderer
(`run_without_renderer`).

From where it is settled that nothing is rendered, the two runs go side by
side, step by step (`move_reworded`), and `Session.Beside` says what they have
in common after some steps: their files, the replies still to come, and the
calls and notices since. Up to there the first run makes one call at most
(`ProbeFails.settled`).
-/

namespace ManifestPolicy

open FileSystem

/-! ## Points -/

/-- The point in the words of a run that has no renderer. -/
def Point.reworded : Point → Point
  | .compile target warnings => .compile target (warnings.map ManifestPolicy.reworded)
  | .evaluate target policy warnings =>
    .evaluate target policy (warnings.map ManifestPolicy.reworded)
  | .finished r => .finished r.reworded
  | p => p

/-- At this point it is settled whether the document is rendered. -/
def Point.Settled : Point → Prop
  | .detect | .probe | .render => False
  | _ => True

/-! ## Sessions side by side -/

/-- Two sessions have the same files and replies, and since two earlier ones the same calls were
made in both and the same notices given, but for the words. -/
structure Session.Beside (s₀ t₀ s t : Session) : Prop where
  files_eq : t.files = s.files
  replies_eq : t.replies = s.replies
  calls : ∃ calls, s.calls = s₀.calls ++ calls ∧ t.calls = t₀.calls ++ calls
  notices : ∃ told, s.notices = s₀.notices ++ told ∧
    t.notices = t₀.notices ++ told.map Notice.reworded

namespace Session.Beside

variable {s₀ t₀ s₁ t₁ s t : Session}

theorem refl (hfiles : t.files = s.files) (hreplies : t.replies = s.replies) :
    Beside s t s t :=
  ⟨hfiles, hreplies, ⟨[], (List.append_nil _).symm, (List.append_nil _).symm⟩,
    ⟨[], (List.append_nil _).symm, (List.append_nil _).symm⟩⟩

theorem trans (h : Beside s₀ t₀ s₁ t₁) (h' : Beside s₁ t₁ s t) : Beside s₀ t₀ s t := by
  obtain ⟨_, _, ⟨calls, hs, ht⟩, told, hsn, htn⟩ := h
  obtain ⟨hfiles, hreplies, ⟨calls', hs', ht'⟩, told', hsn', htn'⟩ := h'
  refine ⟨hfiles, hreplies, ⟨calls ++ calls', ?_, ?_⟩, told ++ told', ?_, ?_⟩
  · rw [hs', hs, List.append_assoc]
  · rw [ht', ht, List.append_assoc]
  · rw [hsn', hsn, List.append_assoc]
  · rw [htn', htn, List.map_append, List.append_assoc]

theorem note (hfiles : t.files = s.files) (hreplies : t.replies = s.replies) (n : Notice) :
    Beside s t (s.note n) (t.note n.reworded) :=
  ⟨hfiles, hreplies, ⟨[], (List.append_nil _).symm, (List.append_nil _).symm⟩, ⟨[n], rfl, rfl⟩⟩

theorem write (hreplies : t.replies = s.replies) (files : FileSystem) :
    Beside s t { s with files := files } { t with files := files } :=
  ⟨rfl, hreplies, ⟨[], (List.append_nil _).symm, (List.append_nil _).symm⟩,
    ⟨[], (List.append_nil _).symm, (List.append_nil _).symm⟩⟩

/-- A tool that is asked in both does and answers the same. -/
theorem ask (hfiles : t.files = s.files) (hreplies : t.replies = s.replies) (call : Call) :
    Beside s t (s.ask call).1 (t.ask call).1 ∧
      (t.ask call).2 = (s.ask call).2 := by
  have hreply : t.reply call = s.reply call := by rw [reply, hreplies, reply]
  rw [ask_eq, ask_eq, hreply, hreplies, hfiles]
  exact ⟨⟨rfl, rfl, ⟨[call], rfl, rfl⟩, ⟨[], by simp, by simp⟩⟩, rfl⟩

end Session.Beside

namespace Validator

variable {v : Validator} {q : Request} {s t : Session}

/-- The validator with rendering switched off. -/
def withoutRenderer (v : Validator) : Validator :=
  { v with settings := { v.settings with
    renderer := { v.settings.renderer with enabled := false } } }

/-! ## Parts of a run -/

theorem makePlain_beside (document : Path) (hfiles : t.files = s.files)
    (hreplies : t.replies = s.replies) :
    Session.Beside s t (v.makePlain document s).1 (v.makePlain document t).1 ∧
      (v.makePlain document t).2 = (v.makePlain document s).2 := by
  unfold makePlain
  rw [hfiles]
  rcases Template.sanitizeFile v.settings.sanitizer s.files document with ⟨files, e | plain⟩
  · exact ⟨.write hreplies files, rfl⟩
  · have hwritten := Session.Beside.write hreplies files
    dsimp only
    rcases files.readText plain with e | text
    · exact ⟨hwritten, rfl⟩
    · dsimp only
      cases Template.firstDocument text <;> exact ⟨hwritten, rfl⟩

theorem generate_beside (workspace : Path) (hfiles : t.files = s.files)
    (hreplies : t.replies = s.replies) :
    Session.Beside s t (v.generate workspace s).1 (v.generate workspace t).1 ∧
      (v.generate workspace t).2 = (v.generate workspace s).2 := by
  unfold generate
  rw [hfiles]
  dsimp only
  cases RuleSet.load s.files (v.settings.policies.rulesPath workspace) with
  | error e => exact ⟨.refl hfiles hreplies, rfl⟩
  | ok rules =>
      dsimp only
      cases Policy.compile v.settings.policies rules with
      | error e => exact ⟨.refl hfiles hreplies, rfl⟩
      | ok policy =>
          dsimp only
          rcases Policy.save policy.source (v.settings.policies.generatedPath workspace) s.files
            with ⟨files, _ | e⟩
          · have hwritten := Session.Beside.write hreplies files
            have htold := hwritten.trans (.note hwritten.files_eq hwritten.replies_eq
              (generated (v.settings.policies.generatedPath workspace)))
            simp only [notify]
            cases v.trouble (generated (v.settings.policies.generatedPath workspace)) <;>
              exact ⟨htold, rfl⟩
          · exact ⟨.write hreplies files, rfl⟩

theorem verdict_reworded (target policy : Path) (warnings : List String) (a : Answer) :
    v.withoutRenderer.verdict q target policy (warnings.map reworded) a =
      (v.verdict q target policy warnings a).reworded := by
  have hsame : Evaluator.ofSettings v.withoutRenderer.settings =
    Evaluator.ofSettings v.settings := rfl
  unfold verdict
  rw [hsame]
  cases (Evaluator.ofSettings v.settings).output target policy a <;> rfl

/-! ## Step by step -/

theorem noRenderer_eq {r r' : RendererSettings} (h : r.enabled = r'.enabled) :
    noRenderer r = noRenderer r' := by
  unfold noRenderer Renderer.name
  rw [h]

theorem reworded_noRenderer (henabled : v.settings.renderer.enabled = true) :
    reworded (noRenderer v.settings.renderer) = noRenderer v.withoutRenderer.settings.renderer := by
  rw [reworded, if_pos (noRenderer_eq henabled)]
  exact noRenderer_eq rfl

theorem plainPoint_reworded (henabled : v.settings.renderer.enabled = true)
    (r : Except Trouble Path) :
    v.withoutRenderer.plainPoint q r = (v.plainPoint q r).reworded := by
  cases r with
  | error t =>
      simp only [plainPoint, Point.reworded, Result.reworded, failed, List.map_cons, List.map_nil,
        reworded_noRenderer henabled]
  | ok plain =>
      simp only [plainPoint, Point.reworded, List.map_cons, List.map_nil,
        reworded_noRenderer henabled]

theorem move_fallBack_reworded (henabled : v.settings.renderer.enabled = true)
    (alike : ∀ n : Notice, v.trouble n.reworded = v.trouble n)
    (hfiles : t.files = s.files) (hreplies : t.replies = s.replies) :
    Session.Beside s t (v.move q .fallBack s).1 (v.withoutRenderer.move q .fallBack t).1 ∧
      (v.withoutRenderer.move q .fallBack t).2 = (v.move q .fallBack s).2.reworded := by
  have hwords : (Notice.warning (noRenderer v.settings.renderer)).reworded =
      .warning (noRenderer v.withoutRenderer.settings.renderer) :=
    congrArg Notice.warning (reworded_noRenderer henabled)
  have htrouble := alike (.warning (noRenderer v.settings.renderer))
  have hnoted := Session.Beside.note hfiles hreplies (.warning (noRenderer v.settings.renderer))
  rw [hwords] at htrouble hnoted
  cases hn : v.trouble (.warning (noRenderer v.settings.renderer)) with
  | some e =>
      have hn' : v.withoutRenderer.trouble _ = some e := htrouble.trans hn
      simp only [move, notify, hn, hn']
      refine ⟨hnoted, ?_⟩
      exact plainPoint_reworded (q := q) henabled (.error e)
  | none =>
      have hn' : v.withoutRenderer.trouble _ = none := htrouble.trans hn
      obtain ⟨hplain, hr⟩ := makePlain_beside (v := v) q.document hnoted.files_eq hnoted.replies_eq
      rcases hs : v.makePlain q.document (s.note (.warning (noRenderer v.settings.renderer)))
        with ⟨s', r⟩
      rcases ht : v.makePlain q.document
        (t.note (.warning (noRenderer v.withoutRenderer.settings.renderer))) with ⟨t', r'⟩
      have ht' : v.withoutRenderer.makePlain q.document _ = (t', r') := ht
      rw [hs, ht] at hplain hr
      rw [move_fallBack hn hs, move_fallBack hn' ht']
      refine ⟨hnoted.trans hplain, ?_⟩
      subst hr
      exact plainPoint_reworded henabled r'

/-- A step of the run that has fallen back, or has no need to. -/
theorem move_reworded {p : Point} (henabled : v.settings.renderer.enabled = true)
    (alike : ∀ n : Notice, v.trouble n.reworded = v.trouble n) (hp : p.Settled)
    (hfiles : t.files = s.files) (hreplies : t.replies = s.replies) :
    Session.Beside s t (v.move q p s).1 (v.withoutRenderer.move q p.reworded t).1 ∧
      (v.withoutRenderer.move q p.reworded t).2 = (v.move q p s).2.reworded := by
  cases p with
  | fallBack => exact move_fallBack_reworded henabled alike hfiles hreplies
  | compile target warnings =>
      obtain ⟨hgenerated, hr⟩ := generate_beside (v := v) q.workspace hfiles hreplies
      rcases hs : v.generate q.workspace s with ⟨s', r⟩
      rcases ht : v.generate q.workspace t with ⟨t', r'⟩
      have ht' : v.withoutRenderer.generate q.workspace t = (t', r') := ht
      rw [hs, ht] at hgenerated hr
      subst hr
      rw [move, Point.reworded, move]
      unfold compiling
      rw [hs, ht']
      cases r' <;> exact ⟨hgenerated, rfl⟩
  | evaluate target policy warnings =>
      obtain ⟨hbeside, hanswer⟩ := Session.Beside.ask hfiles hreplies
        ((Evaluator.ofSettings v.settings).call target policy)
      refine ⟨hbeside, congrArg Point.finished ?_⟩
      exact (congrArg _ hanswer).trans (verdict_reworded ..)
  | finished r => exact ⟨.refl hfiles hreplies, rfl⟩
  | _ => exact hp.elim

theorem settled_move {p : Point} (hp : p.Settled) : (v.move q p s).2.Settled := by
  cases p with
  | fallBack =>
      simp only [move]
      repeat' split
      all_goals trivial
  | compile target warnings =>
      rw [move]
      unfold compiling
      split <;> trivial
  | evaluate target policy warnings => trivial
  | finished r => trivial
  | _ => exact hp.elim

/-- What is left of such a run. -/
theorem rest_reworded {s t : Session} {p : Point} (henabled : v.settings.renderer.enabled = true)
    (alike : ∀ n : Notice, v.trouble n.reworded = v.trouble n) (hp : p.Settled)
    (hfiles : t.files = s.files) (hreplies : t.replies = s.replies) :
    Session.Beside s t (v.rest q p s).1 (v.withoutRenderer.rest q p.reworded t).1 ∧
      (v.withoutRenderer.rest q p.reworded t).2 = (v.rest q p s).2.reworded := by
  by_cases hleft : 0 < p.left
  · have hlt : (v.move q p s).2.left < p.left := left_move hleft
    obtain ⟨hnow, hpoint⟩ := move_reworded (q := q) henabled alike hp hfiles hreplies
    obtain ⟨hlater, hresult⟩ :=
      rest_reworded henabled alike (settled_move hp) hnow.files_eq hnow.replies_eq
    rw [← v.rest_move q p s, ← v.withoutRenderer.rest_move q p.reworded t, hpoint]
    exact ⟨hnow.trans hlater, hresult⟩
  · cases p with
    | finished r => exact ⟨.refl hfiles hreplies, rfl⟩
    | _ => exact absurd (Nat.succ_pos _) hleft
termination_by p.left

/-! ## The whole run -/

/-- Two sessions, for a run that may ask for the renderer and for one that does not. They are alike,
but if the first run asks, it gets one reply more, which writes no file and shows that the renderer
is missing. -/
structure ProbeFails (v : Validator) (q : Request) (s t : Session) : Prop where
  files_eq : t.files = s.files
  unasked : isTemplate q s ≠ .ok true → t.replies = s.replies
  asked : isTemplate q s = .ok true → t.replies = s.replies.tail ∧
    (s.ask (Renderer.versionCall v.settings.renderer)).1.files = s.files ∧
    Renderer.Missing (s.ask (Renderer.versionCall v.settings.renderer)).2

/-- How both runs come to where nothing more is asked of the renderer: the first one by the probe at
most. -/
theorem ProbeFails.settled (h : v.ProbeFails q s t)
    (henabled : v.settings.renderer.enabled = true) :
    ∃ s' p, ∃ probe, p.Settled ∧ v.conclude q s = v.rest q p s' ∧
      v.withoutRenderer.conclude q t = v.withoutRenderer.rest q p.reworded t ∧
      t.files = s'.files ∧ t.replies = s'.replies ∧ s'.notices = s.notices ∧
      s'.calls = s.calls ++ probe ∧
      (probe = [] ∨ isTemplate q s = .ok true ∧
        probe = [Renderer.versionCall v.settings.renderer]) := by
  have hsame : isTemplate q t = isTemplate q s := by
    simp only [isTemplate, h.files_eq]
  have hon : v.conclude q s = v.rest q (v.move q .detect s).2 (v.move q .detect s).1 :=
    (v.rest_move q .detect s).symm
  have hoff : v.withoutRenderer.conclude q t =
      v.withoutRenderer.rest q (v.withoutRenderer.move q .detect t).2
        (v.withoutRenderer.move q .detect t).1 :=
    (v.withoutRenderer.rest_move q .detect t).symm
  rw [hon, hoff]
  simp only [move, hsame]
  cases hd : isTemplate q s with
  | error e =>
      exact ⟨s, .finished _, [], trivial, rfl, rfl, h.files_eq, h.unasked (by rw [hd]; simp), rfl,
        (List.append_nil _).symm, .inl rfl⟩
  | ok b =>
      cases b with
      | false =>
          exact ⟨s, .compile q.document [], [], trivial, rfl, rfl, h.files_eq,
            h.unasked (by rw [hd]; simp), rfl, (List.append_nil _).symm, .inl rfl⟩
      | true =>
          obtain ⟨hreplies, hfiles, hmissing⟩ := h.asked hd
          have hprobe : v.rest q .probe s = v.rest q .fallBack
              (s.ask (Renderer.versionCall v.settings.renderer)).1 := by
            rw [← v.rest_move q .probe s]
            simp only [move, Renderer.isAvailable_eq_false_iff.2 hmissing]
          refine ⟨(s.ask (Renderer.versionCall v.settings.renderer)).1, .fallBack,
            [Renderer.versionCall v.settings.renderer], trivial, ?_, rfl,
            h.files_eq.trans hfiles.symm, hreplies.trans (s.replies_ask _).symm, s.notices_ask _,
            s.calls_ask _, .inr ⟨rfl, rfl⟩⟩
          simp only [henabled, if_true]
          exact hprobe

theorem handOver_reworded (alike : ∀ n : Notice, v.trouble n.reworded = v.trouble n) (r : Result) :
    v.withoutRenderer.handOver r.reworded = (v.handOver r).map Result.reworded := by
  have hgiven : v.withoutRenderer.trouble (.report r.reworded) = v.trouble (.report r) :=
    alike (.report r)
  unfold handOver
  rw [hgiven]
  cases v.trouble (.report r) <;> rfl

/-- With a renderer that is missing a run does what it does with rendering switched off: it changes
the files alike, calls the same tools alike and ends with the same result; but it has asked for the
renderer, and a warning names it. -/
theorem run_without_renderer (henabled : v.settings.renderer.enabled = true)
    (alike : ∀ n : Notice, v.trouble n.reworded = v.trouble n) (h : v.ProbeFails q s t) :
    let on := v.run q s
    let off := v.withoutRenderer.run q t
    off.1.files = on.1.files ∧ off.2 = on.2.map Result.reworded ∧
      (∃ probe calls, on.1.calls = s.calls ++ probe ++ calls ∧ off.1.calls = t.calls ++ calls ∧
        (probe = [] ∨ isTemplate q s = .ok true ∧
          probe = [Renderer.versionCall v.settings.renderer])) ∧
      ∃ told, on.1.notices = s.notices ++ told ∧
        off.1.notices = t.notices ++ told.map Notice.reworded := by
  intro on off
  have hrefusal : v.withoutRenderer.refusal? q t.files = v.refusal? q s.files := by
    rw [h.files_eq]
    rfl
  cases hnamed : v.refusal? q s.files with
  | some e =>
      have hon : on = _ := run_of_refusal hnamed
      have hoff : off = _ := run_of_refusal (hrefusal.trans hnamed)
      rw [hon, hoff]
      exact ⟨h.files_eq, rfl, ⟨[], [], by simp, by simp, .inl rfl⟩, ⟨[], by simp, by simp⟩⟩
  | none =>
      have hon : on = _ := run_of_named hnamed
      have hoff : off = _ := run_of_named (hrefusal.trans hnamed)
      obtain ⟨s', p, probe, hp, hs, ht, hfiles, hreplies, hnotices, hcalls, hprobe⟩ :=
        h.settled henabled
      obtain ⟨hbeside, hresult⟩ := rest_reworded (q := q) henabled alike hp hfiles hreplies
      rw [← hs, ← ht] at hbeside hresult
      have hnoted := hbeside.trans
        (.note hbeside.files_eq hbeside.replies_eq (.report (v.conclude q s).2))
      obtain ⟨hfiles', _, ⟨calls, hcs, hct⟩, told, hns, hnt⟩ := hnoted
      rw [hon, hoff, hresult]
      refine ⟨hfiles', ?_, ⟨probe, calls, ?_, hct, hprobe⟩, told, ?_, hnt⟩
      · exact handOver_reworded alike (v.conclude q s).2
      · rw [hcs, hcalls]
      · rw [hns, hnotices]

/-- A template, and a renderer that takes too long to tell its version; the result is shown in
Markdown. -/
theorem run_without_renderer_timed_out :
    let v : Validator := ⟨{}, Reporter.trouble { form := .markdown }⟩
    let q : Request := { document := ⟨.none, ["x.yaml"]⟩, workspace := ⟨.none, ["w"]⟩ }
    let files := ((⟨[], { here := [] }⟩ : FileSystem).plant
      (.file "a: \x7b\x7b .Values.x \x7d\x7d\n".toUTF8) [] ["x.yaml"]).plant
      (.file "rules: []\n".toUTF8) [] ["w", "policies", "rules.yaml"]
    let evaluated : Reply := ⟨[], .completed ⟨0, "[]", ""⟩⟩
    let s : Session := { files, replies := [⟨[], .timedOut "too slow"⟩, evaluated] }
    let t : Session := { files, replies := [evaluated] }
    v.settings.renderer.enabled = true ∧ (∀ n : Notice, v.trouble n.reworded = v.trouble n) ∧
      isTemplate q s = .ok true ∧ v.ProbeFails q s t ∧
      (v.withoutRenderer.run q t).1.files = (v.run q s).1.files ∧
      (v.withoutRenderer.run q t).2 = (v.run q s).2.map Result.reworded := by
  intro v q files evaluated s t
  have alike : ∀ n : Notice, v.trouble n.reworded = v.trouble n := Reporter.trouble_reworded _
  have htemplate : isTemplate q s = .ok true := by
    obtain ⟨b, hb, rfl⟩ : ∃ b, isTemplate q s = .ok b ∧ b = true := by decide +kernel
    exact hb
  have hprobe : v.ProbeFails q s t :=
    ⟨rfl, fun h => absurd htemplate h, fun _ => ⟨rfl, rfl, .timedOut _⟩⟩
  obtain ⟨hfiles, hresult, _⟩ := run_without_renderer (q := q) rfl alike hprobe
  exact ⟨rfl, alike, htemplate, hprobe, hfiles, hresult⟩

end Validator

end ManifestPolicy
