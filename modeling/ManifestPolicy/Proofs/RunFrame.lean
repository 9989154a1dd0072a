import ManifestPolicy.Proofs.FileFrame
import ManifestPolicy.Validation.Run

/-!
# What a run does by itself

Between two calls of tools a run writes at most two files, the plain document
beside a template and the generated policy, makes directories above the
policy, and gives notice. `Session.Acts` says that of two sessions: the files
are framed by the two paths, the notices grow, and the rest, in which the
calls are kept, is the same. It holds of every part of a run up to the next
call, and so of each step (`start_acts`, `resume_acts`).
-/

namespace ManifestPolicy

open FileSystem

/-- The first session becomes the second one without any call: files are
written and directories made at the admitted locations only, and notices are
added. -/
structure Session.Acts (written made : Location → Prop) (s s' : Session) : Prop where
  files : Frame written made s.files s'.files
  notices : s.notices <+: s'.notices
  calls_eq : s'.calls = s.calls
  replies_eq : s'.replies = s.replies
  active_eq : s'.active = s.active
  peak_eq : s'.peak = s.peak

variable {written written' made made' : Location → Prop} {s s₁ s₂ : Session}

theorem Session.Acts.refl (written made : Location → Prop) (s : Session) :
    s.Acts written made s :=
  ⟨.refl _ _ _, List.prefix_refl _, rfl, rfl, rfl, rfl⟩

theorem Session.Acts.trans (h : s.Acts written made s₁) (h' : s₁.Acts written made s₂) :
    s.Acts written made s₂ :=
  ⟨h.files.trans h'.files, h.notices.trans h'.notices, h'.calls_eq.trans h.calls_eq,
    h'.replies_eq.trans h.replies_eq, h'.active_eq.trans h.active_eq,
    h'.peak_eq.trans h.peak_eq⟩

theorem Session.Acts.mono (h : s.Acts written made s₁) (hw : ∀ l, written l → written' l)
    (hm : ∀ l, made l → made' l) : s.Acts written' made' s₁ :=
  { h with files := h.files.mono hw hm }

theorem Session.acts_note (s : Session) (n : Notice) : s.Acts written made (s.note n) :=
  ⟨.refl _ _ _, List.prefix_append _ _, rfl, rfl, rfl, rfl⟩

theorem Session.acts_files (s : Session) {files : FileSystem}
    (h : Frame written made s.files files) : s.Acts written made { s with files := files } :=
  ⟨h, List.prefix_refl _, rfl, rfl, rfl, rfl⟩

/-! ## Calls -/

/-- The reply that a call gets. -/
def Session.reply (s : Session) (call : Call) : Reply := s.replies.headD ⟨[], .absent call⟩

/-- Calling a tool makes a record of the call and takes its reply; the files wait until it is
over. -/
theorem Session.dial_eq (s : Session) (call : Call) :
    s.dial call = ({ s with
      replies := s.replies.tail
      calls := s.calls ++ [call]
      active := s.active + 1
      peak := max s.peak (s.active + 1) }, s.reply call) := by
  unfold dial reply
  cases hreplies : s.replies with
  | nil => simp
  | cons reply rest => rfl

theorem Session.ask_eq (s : Session) (call : Call) :
    s.ask call = ({ s with
      files := s.files.plantAll (s.reply call).writes
      replies := s.replies.tail
      calls := s.calls ++ [call]
      peak := max s.peak (s.active + 1) }, (s.reply call).answer) := by
  unfold ask
  rw [dial_eq]
  rfl

theorem Session.calls_ask (s : Session) (call : Call) :
    (s.ask call).1.calls = s.calls ++ [call] := by rw [ask_eq]

theorem Session.replies_ask (s : Session) (call : Call) :
    (s.ask call).1.replies = s.replies.tail := by rw [ask_eq]

theorem Session.notices_ask (s : Session) (call : Call) : (s.ask call).1.notices = s.notices := by
  rw [ask_eq]

/-- The reply to a call is one of those that were waiting, or there is no tool and it writes
nothing. -/
theorem Session.reply_cases (s : Session) (call : Call) :
    s.reply call ∈ s.replies ∨ (s.reply call).writes = [] := by
  unfold reply
  cases s.replies with
  | nil => exact .inr rfl
  | cons reply rest => exact .inl List.mem_cons_self

/-- What no single entry changes, several planted in turn do not change. -/
theorem FileSystem.plantAll_keeps {I : FileSystem → Prop} {entries : List (Location × Entry)}
    (hentries : ∀ w ∈ entries, ∀ fs, I fs → I (fs.plant w.2 [] w.1)) {fs : FileSystem}
    (h : I fs) : I (fs.plantAll entries) := by
  induction entries generalizing fs with
  | nil => exact h
  | cons w entries ih =>
      exact ih (fun w' hw => hentries w' (List.mem_cons_of_mem _ hw))
        (hentries w List.mem_cons_self fs h)

/-- What no write of a tool changes a call leaves as it is. -/
theorem Session.ask_keeps {I : FileSystem → Prop} (s : Session) (call : Call) (h : I s.files)
    (hwrites : ∀ reply ∈ s.replies, ∀ w ∈ reply.writes, ∀ fs, I fs → I (fs.plant w.2 [] w.1)) :
    I (s.ask call).1.files := by
  rw [ask_eq]
  refine plantAll_keeps (fun w hw => ?_) h
  rcases s.reply_cases call with hmem | hnone
  · exact hwrites _ hmem w hw
  · rw [hnone] at hw
    cases hw

/-! ## The two files -/

theorem Template.sanitizeFile_frame (t : SanitizerSettings) (fs : FileSystem) (document : Path) :
    Frame (fun l => (sanitizeFile t fs document).1.locate (plainPath t document) = .ok l) made
      fs (sanitizeFile t fs document).1 := by
  unfold sanitizeFile
  split
  · exact .refl _ _ _
  · next text _ =>
      have hf : Frame _ made fs (fs.writeText (plainPath t document) (sanitize t text)).1 :=
        writeText_frame fs _ _
      dsimp only
      split
      · next h => rw [h] at hf; exact hf
      · next h => rw [h] at hf; exact hf

theorem Policy.save_frame (source : String) (path : Path) (fs : FileSystem) :
    Frame (fun l => (save source path fs).1.locate path = .ok l)
      (Above path.parent.root path.parent.parts (save source path fs).1)
      fs (save source path fs).1 := by
  have parents {written : Location → Prop} {fs' : FileSystem} {e : Option FileError}
      (h : fs.ensureDirectories path.parent = (fs', e)) :
      Frame written (Above path.parent.root path.parent.parts fs') fs fs' := by
    have hf : Frame written _ fs (fs.ensureParts path.parent.root path.parent.parts).1 :=
      ensureParts_frame fs path.parent.root path.parent.parts
    rw [ensureDirectories] at h
    rw [h] at hf
    exact hf
  unfold save
  split
  · next h => exact parents h
  · next files h =>
      have last : Frame _ (Above path.parent.root path.parent.parts (files.writeText path source).1)
          files (files.writeText path source).1 := writeText_frame files path source
      exact ((parents h).mono (fun _ hl => hl) fun l hl => hl.frame last).trans last

/-- A policy that was saved is what its file holds. -/
theorem Policy.readBytes_save {source : String} {path : Path} {fs fs' : FileSystem}
    (h : save source path fs = (fs', none)) : fs'.readBytes path = .ok source.toUTF8 := by
  unfold save at h
  split at h
  · cases h
  · next files _ =>
      obtain ⟨rfl, hnone⟩ := Prod.mk.inj h
      rw [Option.map_eq_none_iff] at hnone
      exact readBytes_writeText (Prod.ext rfl hnone)

namespace Validator

variable {v : Validator} {q : Request}

/-- The locations of the two files that a run may write. -/
def Writes (v : Validator) (q : Request) (fs : FileSystem) (l : Location) : Prop :=
  fs.locate (Template.plainPath v.settings.sanitizer q.document) = .ok l ∨
    fs.locate (v.settings.policies.generatedPath q.workspace) = .ok l

/-- The locations of the directories that a run may make. -/
def Makes (v : Validator) (q : Request) (fs : FileSystem) (l : Location) : Prop :=
  Above (v.settings.policies.generatedPath q.workspace).parent.root
    (v.settings.policies.generatedPath q.workspace).parent.parts fs l

/-- What a run does by itself, seen from the session that it leads to. -/
def Acts (v : Validator) (q : Request) (s s' : Session) : Prop :=
  s.Acts (v.Writes q s'.files) (v.Makes q s'.files) s'

theorem Acts.refl (v : Validator) (q : Request) (s : Session) : v.Acts q s s :=
  Session.Acts.refl _ _ s

/-- The locations that the earlier part was allowed stay the same ones, for
its paths lead on to where they led. -/
theorem Acts.trans (h : v.Acts q s s₁) (h' : v.Acts q s₁ s₂) : v.Acts q s s₂ := by
  refine Session.Acts.trans (Session.Acts.mono h (fun l hl => ?_) fun l hl => ?_) h'
  · exact hl.imp h'.files.locate h'.files.locate
  · exact hl.frame h'.files

theorem acts_notify (v : Validator) (q : Request) (n : Notice) (s : Session) :
    v.Acts q s (v.notify n s).1 := s.acts_note n

/-- Of the two files only the plain one is written when a template is made plain. -/
theorem makePlain_acts (v : Validator) (q : Request) (s : Session) :
    s.Acts (fun l => (v.makePlain q.document s).1.files.locate
      (Template.plainPath v.settings.sanitizer q.document) = .ok l) made
      (v.makePlain q.document s).1 := by
  have plain {files : FileSystem} {r : Except Trouble Path}
      (h : Template.sanitizeFile v.settings.sanitizer s.files q.document = (files, r)) :
      s.Acts (fun l => files.locate (Template.plainPath v.settings.sanitizer q.document) = .ok l)
        made { s with files := files } := by
    have hf : Frame _ made _ _ :=
      Template.sanitizeFile_frame v.settings.sanitizer s.files q.document
    rw [h] at hf
    exact s.acts_files hf
  unfold makePlain
  split
  · next h => exact plain h
  · next h =>
      dsimp only
      repeat' split
      all_goals exact plain h

theorem acts_makePlain (v : Validator) (q : Request) (s : Session) :
    v.Acts q s (v.makePlain q.document s).1 :=
  (v.makePlain_acts q s).mono (fun _ hl => .inl hl) fun _ hl => hl

/-- Only the policy is written when it is generated. -/
theorem generate_acts (v : Validator) (q : Request) (s : Session) :
    s.Acts (fun l => (v.generate q.workspace s).1.files.locate
      (v.settings.policies.generatedPath q.workspace) = .ok l)
      (v.Makes q (v.generate q.workspace s).1.files) (v.generate q.workspace s).1 := by
  have saved {source : String} {files : FileSystem} {t : Option Trouble}
      (h : Policy.save source (v.settings.policies.generatedPath q.workspace) s.files =
        (files, t)) :
      s.Acts (fun l => files.locate (v.settings.policies.generatedPath q.workspace) = .ok l)
        (v.Makes q files) { s with files := files } := by
    have hf := Policy.save_frame source (v.settings.policies.generatedPath q.workspace) s.files
    rw [h] at hf
    exact s.acts_files hf
  unfold generate
  dsimp only
  split
  · exact .refl _ _ s
  · split
    · exact .refl _ _ s
    · split
      · next h => exact saved h
      · next files h =>
          have noted := (saved h).trans (Session.acts_note _
            (generated (v.settings.policies.generatedPath q.workspace)))
          split
          · next hn =>
              injection hn with hn
              rw [← hn]
              exact noted
          · next hn =>
              injection hn with hn
              rw [← hn]
              exact noted

theorem acts_generate (v : Validator) (q : Request) (s : Session) :
    v.Acts q s (v.generate q.workspace s).1 :=
  (v.generate_acts q s).mono (fun _ hl => .inr hl) fun _ hl => hl

theorem acts_judge (v : Validator) (q : Request) (target : Path) (warnings : List String)
    (s : Session) : v.Acts q s (v.judge q target warnings s).1 := by
  have hg := v.acts_generate q s
  unfold judge
  split
  · next h => rw [h] at hg; exact hg
  · next h => rw [h] at hg; exact hg

theorem acts_fallBack (v : Validator) (q : Request) (s : Session) :
    v.Acts q s (v.fallBack q s).1 := by
  have noted := v.acts_notify q (.warning (noRenderer v.settings.renderer)) s
  unfold fallBack
  dsimp only
  split
  · next h => rw [h] at noted; exact noted
  · next s₁ h =>
      rw [h] at noted
      have plain := v.acts_makePlain q s₁
      split
      · next hp => rw [hp] at plain; exact noted.trans plain
      · next hp =>
          rw [hp] at plain
          exact (noted.trans plain).trans (v.acts_judge q _ _ _)

/-- The beginning of a run, up to its first call or its end. -/
theorem start_acts (v : Validator) (q : Request) (s : Session) :
    v.Acts q s (v.start q s).1 := by
  unfold start
  split
  · exact .refl v q s
  · exact v.acts_judge q _ _ s
  · split
    · exact .refl v q s
    · exact v.acts_fallBack q s

/-- A run from the answer to a call up to its next call or its end. -/
theorem resume_acts (v : Validator) (q : Request) (wait : Wait) (a : Answer) (s : Session) :
    v.Acts q s (v.resume q wait a s).1 := by
  cases wait with
  | version =>
      simp only [resume]
      split
      · exact .refl v q s
      · exact .refl v q s
      · exact v.acts_fallBack q s
  | rendering =>
      simp only [resume]
      split
      · exact .refl v q s
      · exact v.acts_judge q _ _ s
  | evaluation target policy warnings => exact .refl v q s

/-! ## Ends -/

theorem finish_ended (v : Validator) (q : Request) (s : Session) (r : Result) :
    v.finish q s (.ended r) = (s, r) := by
  rw [finish]

/-- What comes of a result when it is reported. -/
def handOver (v : Validator) (r : Result) : Except Trouble Result :=
  match v.trouble (.report r) with
  | none => .ok r
  | some t => .error t

theorem refusal?_eq_none_iff {files : FileSystem} : v.refusal? q files = none ↔
    (v.settings.serialize = true → ∃ l, files.resolve q.workspace = .ok l) := by
  unfold refusal?
  cases v.settings.serialize with
  | false => simp
  | true => cases files.resolve q.workspace <;> simp

/-- Whether a request is refused depends only on what nothing changes. -/
theorem refusal?_congr {files files' : FileSystem} (h : files'.base = files.base) :
    v.refusal? q files' = v.refusal? q files := by
  rw [refusal?, resolve_congr h, refusal?]

/-- A run comes to its conclusion and hands it over, unless its workspace has to be told from
others and cannot be. -/
theorem run_of_named {s : Session} (hnamed : v.refusal? q s.files = none) : v.run q s =
    ((v.conclude q s).1.note (.report (v.conclude q s).2), v.handOver (v.conclude q s).2) := by
  simp only [run, hnamed, notify, handOver]
  cases v.trouble (.report (v.conclude q s).2) <;> rfl

theorem run_of_refusal {s : Session} {e : FileError} (h : v.refusal? q s.files = some e) :
    v.run q s = (s, .error (.mishap (.file e))) := by
  simp only [run, h]

end Validator

end ManifestPolicy
