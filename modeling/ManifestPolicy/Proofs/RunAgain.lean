import ManifestPolicy.Proofs.RunWrites
import ManifestPolicy.Proofs.WrittenAgain

/-!
# A run that is repeated

If the tools write nothing and answer as they did, and the run does not write
what it reads, then a run that is repeated does what it did before: it makes
the same calls and leaves the files as the first run left them (`run_again`).

The second run is followed beside the first one (`move_again`). It stands
before the files as the first run leaves them in the end, and that helps in
two ways. Where the first run went on, it had read what the second one reads,
and nothing of that has been written since. Where the first run ended,
nothing came after, and both stand before the same files.

The result is the same as well, with one exception. A run that is refused the
directories above the policy may have made some of them by then, and so the
second run gets further and may be refused for another reason
(`run_again_other_refusal`).
-/

namespace ManifestPolicy

open FileSystem

/-! ## What is read again -/

section Reading

variable {fs fs' : FileSystem} {path : Path}

theorem FileSystem.isThere_of_readText {text : String} (h : fs.readText path = .ok text) :
    fs.isThere path = .ok true := by
  unfold readText at h
  split at h
  · cases h
  · next hbytes =>
      obtain ⟨l, hl, he⟩ := readBytes_ok_iff.1 hbytes
      simp [isThere, status?, status, hl, he, Except.map]

theorem RuleSet.readFile_of_reads (h : Reads path fs fs') {text : String}
    (ht : readFile fs path = .ok text) : readFile fs' path = .ok text := by
  unfold readFile at ht
  split at ht
  · cases ht
  · cases ht
  · split at ht
    · next htext =>
        injection ht with ht
        have htext' := h.readText htext
        simp only [readFile, isThere_of_readText htext', htext', ht]
    all_goals cases ht

theorem RuleSet.load_of_reads (h : Reads path fs fs') {rules : RuleSet}
    (hload : load fs path = .ok rules) : load fs' path = .ok rules := by
  obtain ⟨text, ht, hparse⟩ := bind_eq_ok.1 hload
  exact bind_eq_ok.2 ⟨text, readFile_of_reads h ht, hparse⟩

theorem Template.isTemplateFile_of_reads (h : Reads path fs fs') {b : Bool}
    (ht : isTemplateFile fs path = .ok b) : isTemplateFile fs' path = .ok b := by
  unfold isTemplateFile isTemplateShown at ht ⊢
  split at ht
  · next htext =>
      rw [h.readText htext]
      exact ht
  · cases ht

end Reading

/-- The answers of tools that are asked again are what they were. -/
theorem Session.answer_ask {s t : Session} (h : t.replies = s.replies) (call : Call) :
    (t.ask call).2 = (s.ask call).2 := by
  rw [ask_eq, ask_eq, reply, h, reply]

namespace Validator

variable {v : Validator} {q : Request} {s s' t : Session} {fs' : FileSystem}
  {written made : Location → Prop}

/-! ## Parts of a run -/

theorem isTemplate_again (hreads : Reads q.document s.files t.files)
    (hfailed : ∀ e, isTemplate q s = .error e → t.files = s.files) :
    isTemplate q t = isTemplate q s := by
  unfold isTemplate at hfailed ⊢
  split
  · rfl
  · next hnone =>
      rw [hnone] at hfailed
      dsimp only at hfailed
      cases hd : Template.isTemplateFile s.files q.document with
      | error e =>
          rw [hfailed e hd]
          exact hd
      | ok b => exact Template.isTemplateFile_of_reads hreads hd

theorem makePlain_again {document : Path} {r : Except Trouble Path}
    (h : v.makePlain document s = (s', r)) (hframe : Frame written made s'.files t.files)
    (hreads : Reads document s.files t.files) (hfailed : ∀ e, r = .error e → t.files = s'.files) :
    (v.makePlain document t).2 = r ∧
      Restores s'.files t.files (v.makePlain document t).1.files := by
  unfold makePlain at h
  split at h
  · next fs₁ e hplain =>
      cases h
      obtain ⟨g, hagain, hg, _⟩ := Template.sanitizeFile_again hplain hframe hreads
        fun _ _ => hfailed e rfl
      simp only [makePlain, hagain]
      exact ⟨trivial, hg⟩
  · next fs₁ plain hplain =>
      dsimp only at h
      have hs' : s'.files = fs₁ := by
        repeat' split at h
        all_goals cases h; rfl
      rw [hs'] at hframe hfailed ⊢
      obtain ⟨g, hagain, hg, hread⟩ := Template.sanitizeFile_again hplain hframe hreads
        fun _ hr => by cases hr
      have hsame : g.readText plain = fs₁.readText plain := by
        cases r with
        | error e =>
            rw [hfailed e rfl] at hg
            rw [hg.eq (Frame.refl _ (fun _ => True) _)]
        | ok target =>
            split at h
            · cases h
            · next htext =>
                rw [htext]
                exact (hread plain rfl).readText htext
      simp only [makePlain, hagain, hsame]
      cases htext : fs₁.readText plain with
      | error e =>
          rw [htext] at h
          cases h
          exact ⟨rfl, hg⟩
      | ok text =>
          rw [htext] at h
          dsimp only at h ⊢
          cases hdocument : Template.firstDocument text with
          | error e =>
              rw [hdocument] at h
              cases h
              exact ⟨rfl, hg⟩
          | ok value =>
              rw [hdocument] at h
              cases h
              exact ⟨rfl, hg⟩

theorem generate_again {r : Except Trouble Path} (h : v.generate q.workspace s = (s', r))
    (hfiles : Restores s.files s'.files t.files)
    (hreads : Reads (v.settings.policies.rulesPath q.workspace) s.files s'.files) :
    (v.generate q.workspace t).1.files = s'.files ∧
      ((v.generate q.workspace t).2 = r ∨
        ∃ e e', r = .error e ∧ (v.generate q.workspace t).2 = .error e' ∧
          Policy.RefusedAgain (v.settings.policies.generatedPath q.workspace) s.files s'.files
            e e') := by
  have hframe := v.generate_acts q s
  rw [h] at hframe
  unfold generate at h ⊢
  dsimp only at h ⊢
  split at h
  · next e hload =>
      cases h
      have ht : t.files = s.files := hfiles.eq (Frame.refl _ (fun _ => True) _)
      simp only [ht, hload]
      exact ⟨trivial, .inl trivial⟩
  · next rules hload =>
      have hload' := RuleSet.load_of_reads (hfiles.reads hframe.files hreads) hload
      split at h
      · next e hcompile =>
          cases h
          have ht : t.files = s.files := hfiles.eq (Frame.refl _ (fun _ => True) _)
          simp only [hload', hcompile]
          exact ⟨ht, .inl trivial⟩
      · next policy hcompile =>
          split at h
          · next files e hsave =>
              cases h
              obtain hagain | ⟨_, e', he, hagain, hrefused⟩ := Policy.save_again hsave hfiles
              · simp only [hload', hcompile, hagain]
                exact ⟨trivial, .inl trivial⟩
              · cases he
                simp only [hload', hcompile, hagain]
                exact ⟨trivial, .inr ⟨e, e', rfl, rfl, hrefused⟩⟩
          · next files hsave =>
              have hs' : s'.files = files := by
                split at h
                all_goals
                  next hn =>
                    cases h
                    injection hn with hn
                    rw [← hn]
                    rfl
              rw [hs'] at hfiles
              obtain hagain | ⟨_, _, he, _⟩ := Policy.save_again hsave hfiles
              · simp only [hload', hcompile, hagain, hs', notify] at h ⊢
                cases hn : v.trouble (generated (v.settings.policies.generatedPath q.workspace))
                with
                | none =>
                    rw [hn] at h
                    cases h
                    exact ⟨rfl, .inl rfl⟩
                | some e =>
                    rw [hn] at h
                    cases h
                    exact ⟨rfl, .inl rfl⟩
              · cases he

theorem compiling_again {target : Path} {warnings : List String} {point : Point}
    (h : v.compiling q target warnings s = (s', point))
    (hfiles : Restores s.files s'.files t.files)
    (hreads : Reads (v.settings.policies.rulesPath q.workspace) s.files s'.files) :
    (v.compiling q target warnings t).1.files = s'.files ∧
      ((v.compiling q target warnings t).2 = point ∨
        ∃ e e', point = .finished (failed q .compile target warnings e) ∧
          (v.compiling q target warnings t).2 =
            .finished (failed q .compile target warnings e') ∧
          Policy.RefusedAgain (v.settings.policies.generatedPath q.workspace) s.files s'.files
            e e') := by
  unfold compiling at h ⊢
  rcases hg : v.generate q.workspace s with ⟨s₁, r⟩
  have hs' : s₁ = s' := by
    rw [hg] at h
    cases r <;> cases h <;> rfl
  rw [hs'] at hg
  obtain ⟨hsame, hr⟩ := generate_again hg hfiles hreads
  rw [hg] at h
  rcases hagain : v.generate q.workspace t with ⟨t', r'⟩
  rw [hagain] at hsame hr
  obtain rfl | ⟨e, e', rfl, rfl, hrefused⟩ := hr
  · cases r' <;> cases h <;> exact ⟨hsame, .inl rfl⟩
  · cases h
    exact ⟨hsame, .inr ⟨e, e', rfl, rfl, hrefused⟩⟩

/-! ## Step by step -/

/-- The paths that a run writes to are not those that it reads first. Only the plain document may
be written before the rules are read, and that is the same both times. -/
structure InputsApart (v : Validator) (q : Request) (fs : FileSystem) : Prop where
  plain : fs.Apart q.document (Template.plainPath v.settings.sanitizer q.document)
  policy : fs.Apart q.document (v.settings.policies.generatedPath q.workspace)
  rules : fs.Apart (v.settings.policies.rulesPath q.workspace)
    (v.settings.policies.generatedPath q.workspace)

theorem InputsApart.of_base {fs : FileSystem} (h : v.InputsApart q fs)
    (hhere : fs'.base = fs.base) : v.InputsApart q fs' :=
  ⟨h.plain.of_base hhere, h.policy.of_base hhere, h.rules.of_base hhere⟩

/-- What is there of the files, the second time that a run comes to a point: what it will leave, or
before the policy is compiled, what it will leave with the plain document put back. -/
def Ready (p : Point) (fs fs' g : FileSystem) : Prop :=
  match p with
  | .compile .. => Restores fs fs' g
  | _ => g = fs'

theorem Ready.of_eq {fs g : FileSystem} (p : Point) (h : g = fs') : Ready p fs fs' g := by
  cases p with
  | compile target warnings => exact .inl h
  | _ => exact h

/-- The results of two runs to which the directories above the policy were refused. -/
inductive RefusedAgain (v : Validator) (q : Request) (fs fs' : FileSystem) :
    Result → Result → Prop where
  | intro {target : Path} {warnings : List String} {e e' : Trouble}
      (h : Policy.RefusedAgain (v.settings.policies.generatedPath q.workspace) fs fs' e e') :
      RefusedAgain v q fs fs' (failed q .compile target warnings e)
        (failed q .compile target warnings e')

theorem RefusedAgain.of_frame {fs₀ fs : FileSystem} {r r' : Result}
    (h : v.RefusedAgain q fs fs' r r') (hframe : Frame written made fs₀ fs) :
    v.RefusedAgain q fs₀ fs' r r' := by
  obtain ⟨hnone, hmade, hstill⟩ := h
  exact .intro (.intro (hframe.none_of_none hnone) hmade hstill)

/-- Two runs are at the same point and what is there is ready for the second one, or both have
ended for want of directories. -/
inductive Abreast (v : Validator) (q : Request) (fs fs' : FileSystem) :
    Session × Point → Session × Point → Prop where
  | together {s t : Session} {p : Point} (h : Ready p s.files fs' t.files) :
      Abreast v q fs fs' (s, p) (t, p)
  | refused {s t : Session} {r r' : Result} (ht : t.files = fs')
      (h : v.RefusedAgain q fs fs' r r') : Abreast v q fs fs' (s, .finished r) (t, .finished r')

theorem reads_document {p : Point} (hs : s.Quiet) (hin : v.InputsApart q s.files) :
    Reads q.document s.files (v.rest q p s).1.files := by
  have hframe : Frame _ _ s.files (v.rest q p s).1.files := rest_frame hs p
  intro bytes hr
  refine hframe.reads hr fun l hl hw => ?_
  obtain hw | ⟨_, hw⟩ := hw
  · exact hin.policy.locate_ne hframe.base_eq hl hw
  · exact hin.plain.locate_ne hframe.base_eq hl hw

theorem move_again_detect (hs : s.Quiet) (hin : v.InputsApart q s.files)
    (hfiles : t.files = (v.rest q .detect s).1.files) :
    v.Abreast q s.files (v.rest q .detect s).1.files (v.move q .detect s)
      (v.move q .detect t) := by
  have hreads := reads_document (p := .detect) hs hin
  rw [← hfiles] at hreads
  have hsame : isTemplate q t = isTemplate q s := isTemplate_again hreads fun e he => by
    rw [hfiles, rest_finished (r := failed q .detectTemplate q.document [] e)
      (by simp only [move, he])]
    simp only [move, he]
  simp only [move, hsame]
  split
  · exact .together hfiles
  · exact .together (.of_eq _ hfiles)
  · exact .together (.of_eq _ hfiles)

/-- A tool that writes nothing is asked the same, and gives the same answer. -/
theorem move_again_asking {p : Point} {call : Call} (hp : v.callAt q p = some call)
    (hs : s.Quiet) (hreplies : t.replies = s.replies)
    (hfiles : t.files = (v.rest q p s).1.files) :
    v.Abreast q s.files (v.rest q p s).1.files (v.move q p s) (v.move q p t) := by
  have ht : t.Quiet := by
    unfold Session.Quiet
    rw [hreplies]
    exact hs
  have hpoint : (v.move q p t).2 = (v.move q p s).2 := by
    have hanswer := Session.answer_ask hreplies call
    cases p with
    | probe =>
        cases hp
        simp only [move, hanswer]
        split <;> rfl
    | render =>
        cases hp
        simp only [move, hanswer]
        split <;> rfl
    | evaluate target policy warnings =>
        cases hp
        simp only [move, hanswer]
    | _ => cases hp
  rw [show v.move q p t = ((v.move q p t).1, (v.move q p s).2) from Prod.ext rfl hpoint]
  refine .together (.of_eq _ ?_)
  rw [move_asking hp]
  exact (ht.files_ask call).trans hfiles

theorem move_again_fallBack (hs : s.Quiet) (hin : v.InputsApart q s.files)
    (hfiles : t.files = (v.rest q .fallBack s).1.files) :
    v.Abreast q s.files (v.rest q .fallBack s).1.files (v.move q .fallBack s)
      (v.move q .fallBack t) := by
  have hreads := reads_document (p := .fallBack) hs hin
  have hframe := rest_frame (v := v) (q := q) (hs.move v q .fallBack) (v.move q .fallBack s).2
  rw [v.rest_move q .fallBack s] at hframe
  rw [← hfiles] at hreads hframe ⊢
  cases hn : v.trouble (.warning (noRenderer v.settings.renderer)) with
  | some e =>
      simp only [move, notify, hn]
      exact .together (show t.files = t.files from rfl)
  | none =>
      rcases hm : v.makePlain q.document (s.note (.warning (noRenderer v.settings.renderer)))
        with ⟨s', r⟩
      rcases hm' : v.makePlain q.document (t.note (.warning (noRenderer v.settings.renderer)))
        with ⟨t', r'⟩
      have hmove := move_fallBack hn hm
      have hend (e : Trouble) (hr : r = .error e) : t.files = s'.files := by
        rw [hr] at hmove
        rw [hfiles, rest_finished (congrArg Prod.snd hmove), hmove]
      rw [hmove] at hframe
      have hagain := makePlain_again (t := t.note (.warning (noRenderer v.settings.renderer)))
        hm hframe hreads hend
      rw [hm'] at hagain
      obtain ⟨rfl, hg⟩ := hagain
      rw [hmove, move_fallBack hn hm']
      refine .together ?_
      cases r' with
      | ok plain => exact hg
      | error e =>
          have hend := hend e rfl
          rw [hend]
          rw [show (t.note (.warning (noRenderer v.settings.renderer))).files = s'.files from hend]
            at hg
          exact hg.eq (Frame.refl _ (fun _ => True) _)

/-- When the policy is compiled nothing more is written. -/
theorem files_rest_compile (hs : s.Quiet) (target : Path) (warnings : List String) :
    (v.rest q (.compile target warnings) s).1.files =
      (v.compiling q target warnings s).1.files := by
  rw [← v.rest_move q (.compile target warnings) s]
  have hquiet := hs.move v q (.compile target warnings)
  rw [move] at hquiet ⊢
  unfold compiling at hquiet ⊢
  rcases hg : v.generate q.workspace s with ⟨s₁, e | policy⟩
  · rfl
  · rw [hg] at hquiet
    dsimp only at hquiet ⊢
    rw [rest_finished (p := .evaluate target policy warnings) rfl]
    exact hquiet.files_ask _

theorem move_again_compile {target : Path} {warnings : List String} (hs : s.Quiet)
    (hin : v.InputsApart q s.files)
    (hfiles : Restores s.files (v.rest q (.compile target warnings) s).1.files t.files) :
    v.Abreast q s.files (v.rest q (.compile target warnings) s).1.files
      (v.move q (.compile target warnings) s) (v.move q (.compile target warnings) t) := by
  have hframe : Frame _ _ s.files (v.rest q (.compile target warnings) s).1.files :=
    rest_frame hs (.compile target warnings)
  have hreads : Reads (v.settings.policies.rulesPath q.workspace) s.files
      (v.rest q (.compile target warnings) s).1.files := by
    intro bytes hr
    refine hframe.reads hr fun l hl hw => ?_
    obtain hw | ⟨hfalse, _⟩ := hw
    · exact hin.rules.locate_ne hframe.base_eq hl hw
    · exact hfalse
  rw [files_rest_compile hs] at hfiles hreads ⊢
  simp only [move]
  rcases hc : v.compiling q target warnings s with ⟨s', p⟩
  rw [hc] at hfiles hreads
  obtain ⟨hsame, hp⟩ := compiling_again hc hfiles hreads
  rcases hc' : v.compiling q target warnings t with ⟨t', p'⟩
  rw [hc'] at hsame hp
  obtain rfl | ⟨e, e', rfl, rfl, hrefused⟩ := hp
  · exact .together (.of_eq _ hsame)
  · exact .refused hsame (.intro hrefused)

/-- A step that is taken again. -/
theorem move_again {p : Point} (hs : s.Quiet) (hin : v.InputsApart q s.files)
    (hreplies : t.replies = s.replies) (hfiles : Ready p s.files (v.rest q p s).1.files t.files) :
    v.Abreast q s.files (v.rest q p s).1.files (v.move q p s) (v.move q p t) := by
  cases p with
  | detect => exact move_again_detect hs hin hfiles
  | probe => exact move_again_asking rfl hs hreplies hfiles
  | render => exact move_again_asking rfl hs hreplies hfiles
  | fallBack => exact move_again_fallBack hs hin hfiles
  | compile target warnings => exact move_again_compile hs hin hfiles
  | evaluate target policy warnings => exact move_again_asking rfl hs hreplies hfiles
  | finished r => exact .together hfiles

/-! ## The whole run -/

/-- What is left of a run does the same again. -/
theorem rest_again {s t : Session} {p : Point} (hs : s.Quiet) (hin : v.InputsApart q s.files)
    (hreplies : t.replies = s.replies) (hfiles : Ready p s.files (v.rest q p s).1.files t.files) :
    (v.rest q p t).1.files = (v.rest q p s).1.files ∧
      (∃ calls, (v.rest q p s).1.calls = s.calls ++ calls ∧
        (v.rest q p t).1.calls = t.calls ++ calls) ∧
      ((v.rest q p t).2 = (v.rest q p s).2 ∨
        v.RefusedAgain q s.files (v.rest q p s).1.files (v.rest q p s).2 (v.rest q p t).2) := by
  by_cases hp : 0 < p.left
  · have hlt : (v.move q p s).2.left < p.left := left_move hp
    have habreast := move_again hs hin hreplies hfiles
    have hquiet := hs.move v q p
    have hframe : Frame _ _ s.files (v.move q p s).1.files := move_frame (v := v) (q := q) hs p
    have hcalls := v.calls_move q p s
    have hcalls' := v.calls_move q p t
    have hreplies' : (v.move q p t).1.replies = (v.move q p s).1.replies := by
      rw [replies_move, replies_move, hreplies]
    rw [← v.rest_move q p s] at habreast ⊢
    rw [← v.rest_move q p t]
    generalize v.move q p s = x at *
    generalize v.move q p t = y at *
    cases habreast with
    | @together s' t' p' hready =>
        obtain ⟨hsame, ⟨calls, hcs, hct⟩, hresult⟩ :=
          rest_again hquiet (hin.of_base hframe.base_eq) hreplies' hready
        refine ⟨hsame, ⟨(v.callAt q p).toList ++ calls, ?_, ?_⟩, ?_⟩
        · rw [hcs, hcalls, List.append_assoc]
        · rw [hct, hcalls', List.append_assoc]
        · exact hresult.imp_right fun h => h.of_frame hframe
    | refused ht hrefused =>
        exact ⟨ht, ⟨(v.callAt q p).toList, hcalls, hcalls'⟩, .inr hrefused⟩
  · cases p with
    | finished r =>
        exact ⟨hfiles, ⟨[], (List.append_nil _).symm, (List.append_nil _).symm⟩, .inl rfl⟩
    | _ => exact absurd (Nat.succ_pos _) hp
termination_by p.left

/-- A run that is repeated leaves the files as the first one did, makes the same calls and has the
same result, if the tools write nothing and answer as they did and the run does not write what it
reads. Only if directories were refused to the first run that had made some may the result of the
second one quote another refusal. -/
theorem run_again (hs : s.Quiet) (hin : v.InputsApart q s.files) :
    let first := v.run q s
    let second := v.run q { first.1 with replies := s.replies }
    second.1.files = first.1.files ∧
      (∃ calls, first.1.calls = s.calls ++ calls ∧ second.1.calls = first.1.calls ++ calls) ∧
      (second.2 = first.2 ∨ v.RefusedAgain q s.files first.1.files (v.conclude q s).2
        (v.conclude q { first.1 with replies := s.replies }).2) := by
  intro first second
  cases hnamed : v.refusal? q s.files with
  | some e =>
      have hfirst : first = (s, .error (.mishap (.file e))) := run_of_refusal hnamed
      have hsecond : second = _ := run_of_refusal (s := { first.1 with replies := s.replies })
        (by rw [hfirst]; exact hnamed)
      rw [hsecond, hfirst]
      exact ⟨rfl, ⟨[], (List.append_nil _).symm, (List.append_nil _).symm⟩, .inl rfl⟩
  | none =>
      have hfirst : first = _ := run_of_named hnamed
      have hsecond : second = _ := run_of_named (s := { first.1 with replies := s.replies }) (by
        rw [hfirst]
        exact (refusal?_congr (rest_frame (v := v) (q := q) hs .detect).base_eq).trans hnamed)
      obtain ⟨hfiles, ⟨calls, hcalls, hcalls'⟩, hresult⟩ := rest_again (v := v) (q := q)
        (p := .detect) (t := { first.1 with replies := s.replies }) hs hin rfl (by rw [hfirst]; rfl)
      refine ⟨?_, ⟨calls, ?_, ?_⟩, ?_⟩
      · rw [hsecond, hfirst]
        rw [hfirst] at hfiles
        exact hfiles
      · rw [hfirst]
        exact hcalls
      · rw [hsecond]
        exact hcalls'
      · obtain hsame | hrefused := hresult
        · left
          rw [hsecond, hfirst]
          rw [hfirst] at hsame
          exact congrArg v.handOver hsame
        · right
          rw [show first.1.files = (v.conclude q s).1.files from by rw [hfirst]; rfl]
          exact hrefused

/-- A template that cannot be rendered, and a policy that goes to a directory of its own: the
second run finds both files there. -/
theorem run_again_new_directory :
    let v : Validator := ⟨{ policies := { generatedFile := "new/out.rego" } }, fun _ => none⟩
    let q : Request := { document := ⟨.none, ["x.yaml"]⟩, workspace := ⟨.none, ["w"]⟩ }
    let s : Session :=
      { files := ((⟨[], { here := [] }⟩ : FileSystem).plant
          (.file "a: \x7b\x7b .Values.x \x7d\x7d\n".toUTF8) [] ["x.yaml"]).plant
          (.file "rules: []\n".toUTF8) [] ["w", "policies", "rules.yaml"]
        replies := [⟨[], .notRun "no renderer"⟩, ⟨[], .completed ⟨0, "[]", ""⟩⟩] }
    let first := v.run q s
    let second := v.run q { first.1 with replies := s.replies }
    s.Quiet ∧ v.InputsApart q s.files ∧
      second.1.files = first.1.files ∧
      first.1.calls.length = 2 ∧ second.1.calls = first.1.calls ++ first.1.calls ∧
      FileSystem.entry? first.1.files ["sanitized.yaml"] = some (.file "a: \n".toUTF8) ∧
      (FileSystem.entry? first.1.files ["w", "policies", "new", "out.rego"]).isSome := by
  intro v q s first second
  have hs : s.Quiet := by
    unfold Session.Quiet
    decide +kernel
  have hin : v.InputsApart q s.files :=
    ⟨.of_locationFrom (by decide +kernel), .of_locationFrom (by decide +kernel),
      .of_locationFrom (by decide +kernel)⟩
  obtain ⟨hfiles, ⟨calls, hcalls, hcalls'⟩, _⟩ := run_again hs hin
  have hfirst : first.1.calls = calls := hcalls
  refine ⟨hs, hin, hfiles, by decide +kernel, ?_, by decide +kernel, by decide +kernel⟩
  rw [hfirst]
  rw [hfirst] at hcalls'
  exact hcalls'

/-- The policy is to be written below what is a file, by a path that leads there through a
directory which is not there. The first run makes that directory and is told that the file is no
directory; to the second run the same is told in other words. -/
theorem run_again_other_refusal :
    let v : Validator :=
      ⟨{ policies := { generatedFile := "new/../notes/x/out.rego" } }, fun _ => none⟩
    let q : Request := { document := ⟨.none, ["pod.yaml"]⟩, workspace := ⟨.none, ["w"]⟩ }
    let s : Session :=
      { files := (((⟨[], { here := [] }⟩ : FileSystem).plant
          (.file "a: 1\n".toUTF8) [] ["pod.yaml"]).plant
          (.file "rules: []\n".toUTF8) [] ["w", "policies", "rules.yaml"]).plant
          (.file "".toUTF8) [] ["w", "policies", "notes"]
        replies := [⟨[], .completed ⟨0, "[]", ""⟩⟩] }
    let first := v.run q s
    let second := v.run q { first.1 with replies := s.replies }
    s.Quiet ∧ v.InputsApart q s.files ∧
      s.files.Apart (v.settings.policies.rulesPath q.workspace)
        (Template.plainPath v.settings.sanitizer q.document) ∧
      (∃ r, first.2 = .ok r ∧ r.outcome.message =
        "Failed to write 'out.rego'. Check folder permissions: " ++
          "[Errno 17] File exists: 'w/policies/new/../notes'") ∧
      (∃ r, second.2 = .ok r ∧ r.outcome.message =
        "Failed to write 'out.rego'. Check folder permissions: " ++
          "[Errno 20] Not a directory: 'w/policies/new/../notes/x'") ∧
      second.2 ≠ first.2 := by
  intro v q s first second
  have hs : s.Quiet := by
    unfold Session.Quiet
    decide +kernel
  have hin : v.InputsApart q s.files :=
    ⟨.of_locationFrom (by decide +kernel), .of_locationFrom (by decide +kernel),
      .of_locationFrom (by decide +kernel)⟩
  exact ⟨hs, hin, .of_locationFrom (by decide +kernel), by decide +kernel, by decide +kernel,
    by decide +kernel⟩

end Validator

end ManifestPolicy
