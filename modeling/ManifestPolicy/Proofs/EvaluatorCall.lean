import ManifestPolicy.Proofs.PolicySource
import ManifestPolicy.Proofs.RunCourse

/-!
# What the evaluator is asked

The evaluator is told of a document, a policy, a query and perhaps a dialect,
and several parts of a run have to agree on them: the one that writes the
policy, the one that names its package, and the one that calls the evaluator.
They do whenever a run calls it (`conclude_evaluation`). The policy that it is
pointed to is the one that was compiled a step before, from the rules as they
were read then, for nothing is written in between; and the query and the
dialect that it is told are those of the first lines of that policy.
-/

namespace ManifestPolicy.Validator

variable {v : Validator} {q : Request} {s s' : Session}

/-- A policy that was generated is where it is said to be. -/
theorem generate_ok {workspace policy : Path} (h : v.generate workspace s = (s', .ok policy)) :
    policy = v.settings.policies.generatedPath workspace ∧ ∃ rules compiled,
      RuleSet.load s.files (v.settings.policies.rulesPath workspace) = .ok rules ∧
      Policy.compile v.settings.policies rules = .ok compiled ∧
      s'.files.readBytes policy = .ok compiled.source.toUTF8 := by
  unfold generate at h
  dsimp only at h
  split at h
  · cases h
  · next rules hrules =>
      split at h
      · cases h
      · next compiled hcompiled =>
          split at h
          · cases h
          · next files hsave =>
              split at h
              · cases h
              · next hnotice =>
                  injection h with h hpath
                  injection hpath with hpath
                  injection hnotice with hnotice _
                  rw [← hpath, ← h, ← hnotice]
                  exact ⟨rfl, rules, compiled, hrules, hcompiled, Policy.readBytes_save hsave⟩

/-- A run comes to the evaluator by compiling the policy, and in no other
way. -/
theorem compile_of_move {p : Point} {target policy : Path} {warnings : List String}
    (h : (v.move q p s).2 = .evaluate target policy warnings) :
    p = .compile target warnings ∧
      v.generate q.workspace s = ((v.move q p s).1, .ok policy) := by
  cases p with
  | detect =>
      simp only [move] at h
      split at h
      · cases h
      · cases h
      · split at h <;> cases h
  | probe =>
      simp only [move] at h
      split at h <;> cases h
  | render =>
      simp only [move] at h
      split at h <;> cases h
  | fallBack =>
      simp only [move] at h
      split at h
      · cases h
      · split at h <;> cases h
  | compile target' warnings' =>
      rw [move] at h ⊢
      unfold compiling at h ⊢
      rcases hg : v.generate q.workspace s with ⟨s₁, t | policy'⟩
      · rw [hg] at h; cases h
      · rw [hg] at h; cases h; exact ⟨rfl, rfl⟩
  | evaluate => cases h
  | finished => cases h

theorem Visits.generated {target policy : Path} {warnings : List String} {p : Point}
    (h : v.Visits q s s' p) (hp : p = .evaluate target policy warnings) :
    ∃ before, v.Visits q s before (.compile target warnings) ∧
      v.generate q.workspace before = (s', .ok policy) := by
  cases h with
  | detect => cases hp
  | @move before p hv =>
      obtain ⟨rfl, hgenerate⟩ := compile_of_move hp
      exact ⟨before, hv, hgenerate⟩

/-- Only the evaluator is told to evaluate. -/
theorem callAt_eval {p : Point} {call : Call} (hp : v.callAt q p = some call)
    (heval : call.args[1]? = some "eval") : ∃ target policy warnings,
      p = .evaluate target policy warnings ∧
      call = (Evaluator.ofSettings v.settings).call target policy := by
  cases p with
  | probe =>
      injection hp with hp
      rw [← hp] at heval
      exact absurd heval (by simp [Renderer.versionCall])
  | render =>
      injection hp with hp
      rw [← hp] at heval
      exact absurd heval (by simp [Renderer.renderCall])
  | evaluate target policy warnings =>
      injection hp with hp
      exact ⟨target, policy, warnings, rfl, hp.symm⟩
  | _ => cases hp

/-- A run that calls the evaluator goes on with its answer to the verdict. -/
theorem Visits.conclude_evaluate {target policy : Path} {warnings : List String}
    (h : v.Visits q s s' (.evaluate target policy warnings)) :
    v.conclude q s =
      ((s'.ask ((Evaluator.ofSettings v.settings).call target policy)).1,
        v.verdict q target policy warnings
          (s'.ask ((Evaluator.ofSettings v.settings).call target policy)).2) := by
  rw [← h.rest_eq, ← v.rest_move q (.evaluate target policy warnings) s']
  rfl

theorem evaluated_verdict (v : Validator) (q : Request) (target policy : Path)
    (warnings : List String) (a : Answer) :
    (v.verdict q target policy warnings a).evaluated = some target := by
  unfold verdict
  split <;> rfl

theorem readable_generatedPath (v : Validator) (w : String) :
    (v.settings.policies.generatedPath (Path.ofString w)).Readable :=
  ((Path.readable_ofString w).join _).join _

/-- The arguments of the evaluator; unless it was chosen otherwise, the flag
is that of the dialect. -/
theorem args_call (v : Validator) (target policy : Path) : ∃ flag,
    ((Evaluator.ofSettings v.settings).call target policy).args =
      [v.settings.evaluator.command, "eval", "--format", v.settings.evaluator.form.name,
        "--input", target.text, "--data", policy.text] ++ flag ++
        ["data." ++ v.settings.policies.package ++ ".deny"] ∧
    (flag = [] ∨ flag = ["--v0-compatible"]) ∧
    (v.settings.evaluator.v0Compatible = none →
      (flag = ["--v0-compatible"] ↔ v.settings.policies.dialect = .v0)) := by
  refine ⟨if (Evaluator.ofSettings v.settings).acceptsOlder then ["--v0-compatible"] else [],
    rfl, ?_, fun hnone => ?_⟩
  · split
    · exact .inr rfl
    · exact .inl rfl
  · have haccepts : (Evaluator.ofSettings v.settings).acceptsOlder =
        decide (v.settings.policies.dialect = .v0) := by
      simp only [Evaluator.acceptsOlder, Evaluator.ofSettings, hnone, Option.getD_none]
      rfl
    rw [haccepts]
    split
    · next h => exact iff_of_true rfl (of_decide_eq_true h)
    · next h => exact iff_of_false (by simp) fun e => h (decide_eq_true e)

/-- Whenever a run calls the evaluator, the policy that it points it to has
been compiled a step before from the rules as the run read them, and is in its
file; the document is the one that the result tells of; the query is for the
package that the first line of the policy names; and the flag, if nothing else
was chosen, is there when the policy is in the older dialect, which shows in
its third line. -/
theorem conclude_evaluation {es : List (Value × Value)}
    (hes : Settings.ofEntries es = .ok v.settings) :
    ∃ calls, (v.conclude q s).1.calls = s.calls ++ calls ∧
      ∀ call ∈ calls, call.args[1]? = some "eval" →
        ∃ before asked target data warnings rules compiled flag,
          data = v.settings.policies.generatedPath q.workspace ∧
          v.Visits q s before (.compile target warnings) ∧
          RuleSet.load before.files (v.settings.policies.rulesPath q.workspace) = .ok rules ∧
          Policy.compile v.settings.policies rules = .ok compiled ∧
          v.Visits q s asked (.evaluate target data warnings) ∧
          v.conclude q s = ((asked.ask call).1,
            v.verdict q target data warnings (asked.ask call).2) ∧
          asked.files.readBytes data = .ok compiled.source.toUTF8 ∧
          (∀ w, q.workspace = Path.ofString w → Path.ofString data.text = data) ∧
          (v.conclude q s).2.evaluated = some target ∧
          call.args = [v.settings.evaluator.command, "eval", "--format",
            v.settings.evaluator.form.name, "--input", target.text, "--data", data.text] ++
            flag ++ ["data." ++ v.settings.policies.package ++ ".deny"] ∧
          (Text.splitAt '\n' compiled.source.toList).head? =
            some ("package " ++ v.settings.policies.package).toList ∧
          (flag = [] ∨ flag = ["--v0-compatible"]) ∧
          (v.settings.evaluator.v0Compatible = none →
            (flag = ["--v0-compatible"] ↔ v.settings.policies.dialect = .v0)) ∧
          ((Text.splitAt '\n' compiled.source.toList)[2]? = some "import rego.v1".toList ↔
            v.settings.policies.dialect = .v1) := by
  obtain ⟨calls, hcalls, horigin⟩ := (v.visits_finished q s).calls
  refine ⟨calls, hcalls, fun call hcall heval => ?_⟩
  obtain ⟨asked, p, hv, hp⟩ := horigin call hcall
  obtain ⟨target, data, warnings, rfl, rfl⟩ := callAt_eval hp heval
  obtain ⟨before, hbefore, hgenerate⟩ := hv.generated rfl
  obtain ⟨hdata, rules, compiled, hrules, hcompiled, hholds⟩ := generate_ok hgenerate
  have hconclude := hv.conclude_evaluate
  have hdotted := Settings.package_of_ofEntries hes
  obtain ⟨flag, hargs, hflag, hdialect⟩ := v.args_call target data
  refine ⟨before, asked, target, data, warnings, rules, compiled, flag, hdata, hbefore, hrules,
    hcompiled, hv, hconclude, hholds, fun w hw => ?_, ?_, hargs,
    Policy.head?_lines hdotted hcompiled, hflag, hdialect, Policy.import_iff hdotted hcompiled⟩
  · rw [hdata, hw]
    exact Path.ofString_text (v.readable_generatedPath w)
  · rw [hconclude]
    exact v.evaluated_verdict q target data warnings _

/-- A workspace with a rule of one condition, which is compiled in the newer dialect. -/
theorem conclude_evaluation_newer_dialect :
    let v : Validator := ⟨{ policies := { dialect := .v1 } }, fun _ => none⟩
    let q : Request := ⟨⟨.none, ["pod.yaml"]⟩, ⟨.none, ["w"]⟩, some false, .save⟩
    let rules := "rules: [\x7bname: a, match: \x7bkind: Pod\x7d, " ++
      "conditions: [\x7bpath: x, operator: exists\x7d], message: m\x7d]\n"
    let s : Session :=
      { files := (⟨[], { here := [] }⟩ : FileSystem).plant (.file rules.toUTF8) []
          ["w", "policies", "rules.yaml"]
        replies := [⟨[], .completed ⟨0, "[\"m\"]", ""⟩⟩] }
    let data : Path := ⟨.none, ["w", "policies", "generated.rego"]⟩
    let call := (Evaluator.ofSettings v.settings).call ⟨.none, ["pod.yaml"]⟩ data
    Settings.ofEntries [(.str "policies", .map [(.str "regoSyntax", .str "v1")])] =
        .ok v.settings ∧
      (v.conclude q s).1.calls = [call] ∧
      call.args = ["opa", "eval", "--format", "raw", "--input", "pod.yaml", "--data",
        "w/policies/generated.rego", "data.kubernetes.security.deny"] ∧
      ∃ asked warnings rules compiled,
        Policy.compile v.settings.policies rules = .ok compiled ∧
        v.Visits q s asked (.evaluate ⟨.none, ["pod.yaml"]⟩ data warnings) ∧
        asked.files.readBytes data = .ok compiled.source.toUTF8 ∧
        (Text.splitAt '\n' compiled.source.toList)[2]? = some "import rego.v1".toList := by
  intro v q rules s data call
  have hes : Settings.ofEntries [(.str "policies", .map [(.str "regoSyntax", .str "v1")])] =
      .ok v.settings := rfl
  obtain ⟨hmade, hevaluated⟩ : (v.conclude q s).1.calls = [call] ∧
      (v.conclude q s).2.evaluated = some ⟨.none, ["pod.yaml"]⟩ := by decide +kernel
  have heval : call.args[1]? = some "eval" := rfl
  have hplace : v.settings.policies.generatedPath q.workspace = data := by decide +kernel
  obtain ⟨calls, hcalls, heach⟩ := conclude_evaluation (q := q) (s := s) hes
  have hcall : call ∈ calls := by
    rw [hmade] at hcalls
    rw [← show [call] = calls from hcalls]
    exact List.mem_cons_self
  obtain ⟨_, asked, target, path, warnings, rules, compiled, _, hpath, _, _, hcompiled, hv, _,
    hholds, _, htarget, _, _, _, _, himport⟩ := heach call hcall heval
  rw [hplace] at hpath
  subst hpath
  obtain rfl : target = ⟨.none, ["pod.yaml"]⟩ := Option.some.inj (htarget.symm.trans hevaluated)
  exact ⟨hes, hmade, by decide +kernel, asked, warnings, rules, compiled, hcompiled, hv, hholds,
    himport.2 rfl⟩

end ManifestPolicy.Validator
