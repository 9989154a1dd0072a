import ManifestPolicy.CommandLine.Execute
import ManifestPolicy.Proofs.EchoedText
import ManifestPolicy.Proofs.EscapedText
import ManifestPolicy.Proofs.RunFrame

/-!
# Where a compiled policy goes

The command that compiles the rules of a workspace has three destinations for
the policy: the screen, a file that is named, and the file in the workspace
where a validation puts it. The last one is served by the same step as in a
validation, the other two by the command itself. All the same they have one
policy between them (`generate_eq`, `execute_command`): its text depends on the
files and the settings, and not on the destination. Where the two files can be
written, and their paths be printed, the command succeeds for all three or for
none, and writes the same text to either file (`destinations_agree`).

The screen does not show this text but what echoing leaves of it. The path of a
condition goes into the policy as it is, and so does a sequence in it that
would steer a terminal: the files then hold it, and the screen does not show it
(`steering_path_is_not_echoed`).

What the path of a file holds matters only because it is printed as markup, and
text is escaped but paths are not.
-/

namespace ManifestPolicy

open FileSystem

/-! ## Files that a policy can be written to -/

namespace FileSystem

/-- Where a text can be written whole, one that is no longer can be, unless it has no bytes. -/
theorem writing_fault {base : Base} {source text : String}
    (hsize : source.utf8ByteSize ≤ text.utf8ByteSize) (h : (writing base text).2 = none) :
    (writing base source).2 = (Text.Utf8.firstHalves? source.toList).map .unencodable := by
  unfold writing Text.Utf8.encode at h ⊢
  cases Text.Utf8.firstHalves? source.toList with
  | some fault => rfl
  | none =>
      cases htext : Text.Utf8.firstHalves? text.toList with
      | some fault =>
          rw [htext] at h
          cases h
      | none =>
          rw [htext] at h
          dsimp only at h ⊢
          cases hlimit : base.limit with
          | none => rfl
          | some limit =>
              rw [hlimit] at h
              dsimp only at h ⊢
              have hle : text.toUTF8.size ≤ limit := by
                refine Decidable.byContradiction fun hlt => ?_
                rw [if_neg hlt] at h
                cases h
              rw [if_pos (show source.toUTF8.size ≤ limit from Nat.le_trans hsize hle)]
              rfl

end FileSystem

namespace Policy

variable {source : String} {path : Path} {fs : FileSystem} {size : Nat}

/-- The path can be written to, with so many bytes, and, as it stands, be printed. -/
structure Takes (fs : FileSystem) (path : Path) (size : Nat) : Prop where
  writable : ∃ text, size ≤ text.utf8ByteSize ∧ (save text path fs).2 = none
  untagged : '[' ∉ path.text.toList

/-- Only a policy that has no bytes cannot be saved there. -/
theorem Takes.save (h : Takes fs path size) (hsize : source.utf8ByteSize ≤ size) :
    (save source path fs).2 = (Text.Utf8.firstHalves? source.toList).map fun fault =>
      .mishap (.file (.unencodable fault)) := by
  obtain ⟨text, htext, hsave⟩ := h.writable
  unfold Policy.save at hsave ⊢
  split at hsave
  · cases hsave
  · next files _ =>
      dsimp only at hsave ⊢
      unfold writeText at hsave ⊢
      cases hopen : files.openFile path with
      | error e =>
          rw [hopen] at hsave
          cases hsave
      | ok l =>
          rw [hopen] at hsave
          dsimp only at hsave ⊢
          rw [writing_fault (Nat.le_trans hsize htext) (Option.map_eq_none_iff.1 hsave)]
          cases Text.Utf8.firstHalves? source.toList <;> rfl

end Policy

/-! ## What commands end with -/

namespace Ended

variable {width : Nat} {pieces : List Piece} {code : Nat} {text : String}

theorem printing_of_calm (h : (Piece.print pieces).2 = none) :
    printing pieces code = ⟨(Piece.print pieces).1, code, none⟩ := by
  unfold printing
  generalize Piece.print pieces = printed at h
  obtain ⟨cs, trouble⟩ := printed
  cases h
  rfl

theorem exitCode_printing_ne_zero (h : code ≠ 0) : (printing pieces code).exitCode ≠ 0 := by
  unfold printing
  split
  · exact h
  · exact Nat.one_ne_zero

theorem exitCode_unsettled (width : Nat) (f : Settings.LoadFault) :
    (unsettled width f).exitCode ≠ 0 := by
  unfold unsettled
  split
  · split
    · exact Nat.one_ne_zero
    · exact exitCode_printing_ne_zero (by decide)
  · exact exitCode_printing_ne_zero (by decide)

/-- What is printed of a failure. -/
def failureText (width : Nat) (f : Failure) : List Char :=
  (Piece.print [Piece.marked width (errorMark ++ Markup.escape f.text)]).1

/-- A failure is always printed: it is escaped. -/
theorem failing_failure (width : Nat) (f : Failure) :
    failing width (.failure f) = ⟨failureText width f, 2, none⟩ := by
  rw [failing, refusing, failureText, printing_of_calm]
  rw [errorMark]
  exact Piece.trouble_error width f.text

theorem exitCode_failing (width : Nat) (t : Trouble) : (failing width t).exitCode ≠ 0 := by
  cases t with
  | failure f =>
      rw [failing_failure]
      exact Nat.succ_ne_zero 1
  | mishap m => exact Nat.one_ne_zero

theorem echoing_of_none (h : Text.Utf8.firstHalves? text.toList = none) :
    echoing text = ⟨Echo.shown text.toList, 0, none⟩ := by
  unfold echoing
  dsimp only
  rw [Echo.firstHalves?_shown.2 h]

theorem exitCode_echoing (h : Text.Utf8.firstHalves? text.toList ≠ none) :
    (echoing text).exitCode ≠ 0 := by
  unfold echoing
  dsimp only
  split
  · exact Nat.one_ne_zero
  · next hnone => exact absurd (Echo.firstHalves?_shown.1 hnone) h

end Ended

/-- The policy that a validation generates is the one that the command compiles. -/
theorem Validator.generate_eq (v : Validator) (workspace : Path) (s : Session) :
    v.generate workspace s =
      match Command.policyOf v.settings workspace s.files with
      | .error t => (s, .error t)
      | .ok policy =>
        let path := v.settings.policies.generatedPath workspace
        match Policy.save policy.source path s.files with
        | (files, some t) => ({ s with files := files }, .error t)
        | (files, none) =>
          match v.notify (generated path) { s with files := files } with
          | (s, some t) => (s, .error t)
          | (s, none) => (s, .ok path) := by
  unfold generate
  dsimp only
  cases hload : RuleSet.load s.files (v.settings.policies.rulesPath workspace) with
  | error t =>
      have hpolicy : Command.policyOf v.settings workspace s.files = .error t := by
        rw [Command.policyOf, hload]
        rfl
      generalize Command.policyOf v.settings workspace s.files = policy at hpolicy ⊢
      subst hpolicy
      rfl
  | ok rules =>
      have hpolicy : Command.policyOf v.settings workspace s.files =
          Policy.compile v.settings.policies rules := by
        rw [Command.policyOf, hload]
        rfl
      dsimp only
      generalize Command.policyOf v.settings workspace s.files = policy at hpolicy ⊢
      subst hpolicy
      cases Policy.compile v.settings.policies rules <;> rfl

namespace Command

variable {width : Nat} {place : Place} {s : Session} {workspace path : Path}
  {settings : Settings} {policy : Policy}

theorem exitCode_written (h : '[' ∉ path.text.toList) : (written width path).exitCode = 0 := by
  have hcalm : (Piece.print [Piece.marked width s!"[green]Generated policy:[/green] {path.text}"]).2
      = none :=
    (Piece.trouble_labelled "green".toList "Generated policy:".toList (by decide +kernel)
      (by decide +kernel) rfl).2 (Markup.balanced_of_tags (Markup.tags_of_not_mem h))
  rw [written, Ended.printing_of_calm hcalm]

theorem exitCode_of_settle {e : Ended} (h : settle width place s.files = .error e) :
    e.exitCode ≠ 0 := by
  unfold settle at h
  split at h
  · cases h
    exact Nat.one_ne_zero
  · dsimp only at h
    split at h
    · cases h
      exact Ended.exitCode_unsettled width _
    · cases h

/-! ## The three destinations -/

/-- Where a policy may go. -/
inductive Destination where
  | screen
  | file (out : Path)
  | inWorkspace

/-- The workspace and the settings that commands work with at a place, if it comes to that. -/
def settled (width : Nat) (place : Place) (files : FileSystem) : Option (Path × Settings) :=
  if (place.workspace :: place.settings.toList).any Path.hasNull then none
  else (settle width place files).toOption

namespace Destination

/-- The command that compiles the rules for a destination. -/
def command (place : Place) : Destination → Command
  | .screen => .compile place none true
  | .file out => .compile place (some out) false
  | .inWorkspace => .compile place none false

/-- The path that is named as the destination. -/
def named : Destination → Option Path
  | .file out => some out
  | _ => none

/-- The path of the file that the policy goes to, if it goes to one. -/
def path? (width : Nat) (place : Place) (files : FileSystem) : Destination → Option Path
  | .screen => none
  | .file out => (files.resolve out).toOption.map Path.ofLocation
  | .inWorkspace => (settled width place files).map fun p => p.2.policies.generatedPath p.1

/-- What comes of a policy at a destination: the screen does not show all of it. -/
def comes : Destination → List Char → List Char
  | .screen, cs => Echo.shown cs
  | _, cs => cs

/-- Where a command ended, the text stands on the screen, or in the file with the path. -/
def Shows (done : Session × Ended) (text : String) (path : Option Path) : Destination → Prop
  | .screen => done.2.stdout = text.toList
  | _ => ∃ p ∈ path, done.1.files.readBytes p = .ok text.toUTF8

/-- The command ends well, and this text has come to its destination. -/
def Receives (width : Nat) (place : Place) (s : Session) (d : Destination) (text : String) :
    Prop :=
  (execute width (d.command place) s).2.exitCode = 0 ∧
    d.Shows (execute width (d.command place) s) text (d.path? width place s.files)

/-- What the command for a destination does in a workspace. -/
def compile (width : Nat) (workspace : Path) (settings : Settings) (s : Session)
    (d : Destination) : Session × Ended :=
  match policyOf settings workspace s.files with
  | .error t => (s, .failing width t)
  | .ok policy =>
    match d with
    | .screen => (s, .echoing policy.source)
    | .file out => writeTo width out policy s
    | .inWorkspace =>
      let path := settings.policies.generatedPath workspace
      match Policy.save policy.source path s.files with
      | (files, some t) => ({ s with files := files }, .failing width t)
      | (files, none) =>
        ({ s with files := files }.note (Validator.generated path), written width path)

variable {d : Destination}

theorem any_paths (place : Place) (d : Destination) :
    (d.command place).paths.any Path.hasNull =
      ((place.workspace :: place.settings.toList).any Path.hasNull ||
        d.named.any Path.hasNull) := by
  cases d <;> simp [command, paths, named, Bool.or_assoc]

theorem execute_command (width : Nat) (place : Place) (s : Session) (d : Destination) :
    execute width (d.command place) s =
      if (d.command place).paths.any Path.hasNull then (s, .unreachable .nullInPath)
      else match settle width place s.files with
        | .error e => (s, e)
        | .ok (workspace, settings) => d.compile width workspace settings s := by
  have hcompile : execute width (d.command place) s =
      if (d.command place).paths.any Path.hasNull then (s, .unreachable .nullInPath)
      else match d with
        | .screen => runCompile width place none true s
        | .file out => runCompile width place (some out) false s
        | .inWorkspace => runCompile width place none false s := by
    cases d <;> rfl
  rw [hcompile]
  refine if_congr Iff.rfl rfl ?_
  unfold runCompile compile
  cases settle width place s.files with
  | error e => cases d <;> rfl
  | ok p =>
      obtain ⟨workspace, settings⟩ := p
      cases d with
      | screen => cases hpolicy : policyOf settings workspace s.files <;> simp [hpolicy]
      | file out => cases hpolicy : policyOf settings workspace s.files <;> simp [hpolicy]
      | inWorkspace =>
          simp only [Validator.generate_eq, Option.isSome_none, Bool.or_self, Bool.false_eq_true,
            if_false]
          cases policyOf settings workspace s.files with
          | error t => rfl
          | ok policy =>
              dsimp only
              generalize Policy.save policy.source _ s.files = saved
              obtain ⟨files, _ | t⟩ := saved <;> rfl

/-- The destination can be resolved, if it has to be. -/
def Resolved (files : FileSystem) (d : Destination) : Prop :=
  ∀ out ∈ d.named, ∃ l, files.resolve out = .ok l

theorem resolved_screen (files : FileSystem) : screen.Resolved files := nofun

theorem resolved_inWorkspace (files : FileSystem) : inWorkspace.Resolved files := nofun

/-- A command whose destination can be resolved gets as far as its workspace, or fails. -/
theorem execute_cases (hnamed : d.Resolved s.files) :
    (settled width place s.files = none ∧ ∃ e, e.exitCode ≠ 0 ∧
      execute width (d.command place) s = (s, e)) ∨
    ∃ workspace settings, settled width place s.files = some (workspace, settings) ∧
      execute width (d.command place) s = d.compile width workspace settings s := by
  have hnone : d.named.any Path.hasNull = false := by
    cases hd : d.named with
    | none => rfl
    | some out =>
        obtain ⟨l, hl⟩ := hnamed out hd
        exact (resolve_ok_iff.1 hl).1
  rw [execute_command, any_paths, hnone, Bool.or_false]
  unfold settled
  split
  · exact .inl ⟨rfl, _, Nat.one_ne_zero, rfl⟩
  · cases hsettle : settle width place s.files with
    | error e => exact .inl ⟨rfl, e, exitCode_of_settle hsettle, rfl⟩
    | ok p => exact .inr ⟨p.1, p.2, rfl, rfl⟩

/-- Saves a policy where it was asked for, and says so. -/
def stored (width : Nat) (path : Path) (policy : Policy) (done : FileSystem → Session)
    (s : Session) : Session × Ended :=
  match Policy.save policy.source path s.files with
  | (files, some t) => ({ s with files := files }, .failing width t)
  | (files, none) => (done files, written width path)

/-- A file to which a policy was saved holds this policy and no other. -/
theorem receives_stored {done : FileSystem → Session} {size : Nat} {text : String}
    (hdone : ∀ files, (done files).files = files) (htakes : Policy.Takes s.files path size)
    (hsize : policy.source.utf8ByteSize ≤ size) :
    ((stored width path policy done s).2.exitCode = 0 ∧ ∃ p ∈ some path,
        (stored width path policy done s).1.files.readBytes p = .ok text.toUTF8) ↔
      Text.Utf8.firstHalves? policy.source.toList = none ∧ policy.source = text := by
  have hsaved := htakes.save hsize
  unfold stored
  generalize hsave : Policy.save policy.source path s.files = saved at hsaved
  obtain ⟨files, t⟩ := saved
  dsimp only at hsaved
  subst hsaved
  cases hhalves : Text.Utf8.firstHalves? policy.source.toList with
  | some fault =>
      exact iff_of_false (fun h => Ended.exitCode_failing width _ h.1) (fun h => nomatch h.1)
  | none =>
      rw [hhalves] at hsave
      have hread := Policy.readBytes_save hsave
      have hcode := @exitCode_written width path htakes.untagged
      dsimp only [Option.map_none]
      generalize written width path = ended at hcode ⊢
      rw [hdone]
      constructor
      · rintro ⟨_, p, hp, h⟩
        cases hp
        rw [hread] at h
        exact ⟨rfl, String.toByteArray_inj.1 (Except.ok.inj h)⟩
      · rintro ⟨_, rfl⟩
        exact ⟨hcode, path, rfl, hread⟩

/-- Every destination that can take it receives what comes there of the policy of the workspace. -/
theorem receives_iff {text : String} {size : Nat} (hnamed : d.Resolved s.files)
    (hopen : ∀ path ∈ d.path? width place s.files, Policy.Takes s.files path size)
    (hsize : ∀ workspace settings policy, settled width place s.files = some (workspace, settings) →
      policyOf settings workspace s.files = .ok policy → policy.source.utf8ByteSize ≤ size) :
    d.Receives width place s text ↔ ∃ workspace settings policy,
      settled width place s.files = some (workspace, settings) ∧
      policyOf settings workspace s.files = .ok policy ∧
      Text.Utf8.firstHalves? policy.source.toList = none ∧
      d.comes policy.source.toList = text.toList := by
  unfold Receives
  rcases execute_cases hnamed with ⟨hnone, e, he, hd⟩ | ⟨workspace, settings, hsome, hd⟩
  · rw [hd, hnone]
    exact iff_of_false (fun h => he h.1) (by rintro ⟨_, _, _, h, _⟩; cases h)
  · have hworkspace {P : Policy → Prop} : (∃ workspace settings policy,
        settled width place s.files = some (workspace, settings) ∧
        policyOf settings workspace s.files = .ok policy ∧ P policy) ↔
        ∃ policy, policyOf settings workspace s.files = .ok policy ∧ P policy := by
      rw [hsome]
      constructor
      · rintro ⟨_, _, policy, h, hpolicy⟩
        cases h
        exact ⟨policy, hpolicy⟩
      · rintro ⟨policy, hpolicy⟩
        exact ⟨_, _, policy, rfl, hpolicy⟩
    rw [hd, hworkspace]
    unfold compile
    cases hpolicy : policyOf settings workspace s.files with
    | error t =>
        exact iff_of_false (fun h => Ended.exitCode_failing width t h.1)
          (by rintro ⟨_, h, _⟩; cases h)
    | ok policy =>
        have hsource {P : Policy → Prop} :
            (∃ p, (Except.ok policy : Except Trouble Policy) = .ok p ∧ P p) ↔ P policy :=
          ⟨by rintro ⟨_, h, hp⟩; cases h; exact hp, fun hp => ⟨policy, rfl, hp⟩⟩
        have hlimit := hsize workspace settings policy hsome hpolicy
        rw [hsource]
        cases d with
        | screen =>
            dsimp only [Shows, comes]
            by_cases hhalves : Text.Utf8.firstHalves? policy.source.toList = none
            · rw [Ended.echoing_of_none hhalves]
              exact ⟨fun h => ⟨hhalves, h.2⟩, fun h => ⟨rfl, h.2⟩⟩
            · exact iff_of_false (fun h => Ended.exitCode_echoing hhalves h.1)
                (fun h => hhalves h.1)
        | file out =>
            obtain ⟨l, hl⟩ := hnamed out rfl
            have hpath : (Destination.file out).path? width place s.files =
                some (Path.ofLocation l) := by rw [path?, hl]; rfl
            rw [hpath]
            dsimp only [comes]
            rw [String.toList_inj]
            have hstored : writeTo width out policy s =
                stored width (Path.ofLocation l) policy (fun files => { s with files := files })
                  s := by
              rw [writeTo, hl]
              rfl
            rw [hstored]
            exact receives_stored (fun _ => rfl) (hopen _ hpath) hlimit
        | inWorkspace =>
            have hpath : Destination.inWorkspace.path? width place s.files =
                some (settings.policies.generatedPath workspace) := by rw [path?, hsome]; rfl
            rw [hpath]
            dsimp only [comes]
            rw [String.toList_inj]
            exact receives_stored (fun _ => rfl) (hopen _ hpath) hlimit

/-- The command for the screen leaves everything as it was. -/
theorem execute_screen (width : Nat) (place : Place) (s : Session) :
    (execute width (screen.command place) s).1 = s := by
  rcases execute_cases (resolved_screen s.files) with ⟨_, e, _, hd⟩ | ⟨w, settings, _, hd⟩
  · rw [hd]
  · rw [hd]
    unfold compile
    cases policyOf settings w s.files <;> rfl

/-- The command for a file writes this file, and makes the directories above it. -/
theorem execute_file {out : Path} (hnamed : (file out).Resolved s.files)
    (hpath : (file out).path? width place s.files = some path) :
    Frame (fun l => (execute width ((file out).command place) s).1.files.locate path = .ok l)
      (Above path.parent.root path.parent.parts
        (execute width ((file out).command place) s).1.files)
      s.files (execute width ((file out).command place) s).1.files := by
  rcases @execute_cases width place s (file out) hnamed with
    ⟨_, e, _, hd⟩ | ⟨w, settings, _, hd⟩
  · rw [hd]
    exact .refl _ _ _
  · rw [hd]
    unfold compile
    cases policyOf settings w s.files with
    | error t => exact .refl _ _ _
    | ok policy =>
        obtain ⟨l, hl⟩ := hnamed out rfl
        rw [path?, hl] at hpath
        cases hpath
        have hframe := Policy.save_frame policy.source (Path.ofLocation l) s.files
        dsimp only
        rw [writeTo, hl]
        dsimp only
        generalize Policy.save policy.source (Path.ofLocation l) s.files = saved at hframe ⊢
        obtain ⟨files, _ | t⟩ := saved <;> exact hframe

/-- A failure to load or to compile the rules is the same for every destination. -/
theorem execute_failure {f : Failure} (hnamed : d.Resolved s.files)
    (hsettled : settled width place s.files = some (workspace, settings))
    (hpolicy : policyOf settings workspace s.files = .error (.failure f)) :
    execute width (d.command place) s = (s, ⟨Ended.failureText width f, 2, none⟩) := by
  rcases execute_cases hnamed with ⟨hnone, _⟩ | ⟨w, settings, hsome, hd⟩
  · rw [hsettled] at hnone
    cases hnone
  · rw [hsettled] at hsome
    cases hsome
    rw [hd]
    unfold compile
    rw [hpolicy]
    dsimp only
    rw [Ended.failing_failure]

end Destination

/-- A bound for one policy is one for all that the workspace may have. -/
theorem size_of_policyOf {size : Nat} {files : FileSystem}
    (hsettled : settled width place files = some (workspace, settings))
    (hpolicy : policyOf settings workspace files = .ok policy)
    (hsize : policy.source.utf8ByteSize ≤ size) (workspace' : Path) (settings' : Settings)
    (policy' : Policy) (hsettled' : settled width place files = some (workspace', settings'))
    (hpolicy' : policyOf settings' workspace' files = .ok policy') :
    policy'.source.utf8ByteSize ≤ size := by
  rw [hsettled] at hsettled'
  cases hsettled'
  rw [hpolicy] at hpolicy'
  cases hpolicy'
  exact hsize

/-- A workspace with these rules, in the present directory. -/
def ruled (rules : String) : FileSystem :=
  plant ⟨[], { here := ["home"] }⟩ (.file rules.toUTF8) [] ["home", "w", "policies", "rules.yaml"]

end Command

end ManifestPolicy
