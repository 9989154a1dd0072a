import ManifestPolicy.Proofs.CompileModes
import ManifestPolicy.Proofs.WrittenAgain

/-!
# What the exit status of a detection says

A detection reads the document, looks for the marks of a template, and says
what it found, with the path of the document. The status is 2 exactly if the
document cannot be read, and nothing else is ever said then, for the failure is
escaped. But the path is not: if its first tag closes something, what was found
cannot be said on any screen, and the command ends with the status of a plain
manifest, whatever the document holds. For a path without tags, unless it names
nothing at all, the status is 0 for a template and 1 for a plain manifest
(`Command.detect_exitCode`). What comes of other tags depends on the styles
that a screen knows.
-/

namespace ManifestPolicy

/-- A text occurs in another one if it is a part of it. -/
theorem Text.occursIn_iff {part cs : List Char} : occursIn part cs = true ↔ part <:+: cs := by
  induction cs with
  | nil => rw [occursIn, List.isEmpty_iff, List.infix_nil]
  | cons c cs ih =>
      rw [occursIn, Bool.or_eq_true, ih, List.isPrefixOf_iff_prefix, List.infix_cons_iff]

namespace Template

/-- One of the marks of a template is somewhere in the text. -/
def Marked (text : String) : Prop := ∃ mark ∈ marks, mark.toList <:+: text.toList

theorem isTemplate_iff {text : String} : isTemplate text = true ↔ Marked text := by
  simp only [isTemplate, List.any_eq_true, Text.occursIn_iff, Marked]

end Template

namespace FileSystem

variable {fs : FileSystem} {p : Path}

theorem hasNull_of_readText {text : String} (h : fs.readText p = .ok text) :
    p.hasNull = false := by
  unfold readText at h
  split at h
  · cases h
  · next bytes hbytes =>
      obtain ⟨l, hl, _⟩ := readBytes_ok_iff.1 hbytes
      exact (resolve_ok_iff.1 (resolve_of_locate hl)).1

/-- Only a path that names nothing cannot be followed for that reason. -/
theorem hasNull_of_nullInPath (h : fs.readText p = .error .nullInPath) : p.hasNull = true := by
  unfold readText readBytes at h
  cases hstatus : fs.status p with
  | error e =>
      rw [hstatus] at h
      cases h
      rcases status_error hstatus with hnull | ⟨fault, hfault⟩
      · exact hnull
      · cases hfault
  | ok entry =>
      rw [hstatus] at h
      cases entry with
      | directory => cases h
      | file bytes =>
          dsimp only at h
          split at h <;> cases h

end FileSystem

/-- A file that a path names and that cannot be read is a failure. -/
theorem Template.trouble_of_readText {files : FileSystem} {document : Path} {e : FileError}
    (hnamed : document.hasNull = false) (h : files.readText document = .error e)
    (message : String) : trouble message e = .failure ⟨.io, message, some e.text⟩ := by
  cases e with
  | nullInPath =>
      rw [FileSystem.hasNull_of_nullInPath h] at hnamed
      cases hnamed
  | _ => rfl

namespace Ended

/-- What is printed ends with its status if all of it can be shown. -/
theorem printing_cases (pieces : List Piece) (code : Nat) :
    ((Piece.print pieces).2 = none ∧ (printing pieces code).exitCode = code ∧
      (printing pieces code).trouble = none) ∨
    ((Piece.print pieces).2 ≠ none ∧ (printing pieces code).exitCode = unprepared ∧
      (printing pieces code).trouble ≠ none) := by
  unfold printing
  generalize Piece.print pieces = printed
  obtain ⟨cs, _ | t⟩ := printed
  · exact .inl ⟨rfl, rfl, rfl⟩
  · exact .inr ⟨nofun, rfl, nofun⟩

end Ended

namespace Command

variable {width : Nat} {document : Path} {s : Session}

/-- A document that names nothing is refused in a way nobody is prepared for. -/
theorem detect_null (h : document.hasNull = true) :
    execute width (.detect document) s = (s, .unreachable .nullInPath) := by
  rw [execute, if_pos (by simp [paths, h])]

theorem execute_detect (h : document.hasNull = false) :
    execute width (.detect document) s = runDetect width document s := by
  rw [execute, if_neg (by simp [paths, h])]

/-- A document that cannot be read is a failure, and the failure can be shown. -/
theorem detect_unreadable {e : FileError} (h : document.hasNull = false)
    (he : s.files.readText document = .error e) :
    execute width (.detect document) s =
      (s, ⟨Ended.failureText width ⟨.io, s!"Failed to read '{document.text}'", some e.text⟩, 2,
        none⟩) := by
  rw [execute_detect h, runDetect, Template.isTemplateFile, Template.isTemplateShown, he]
  dsimp only
  rw [Template.trouble_of_readText h he, Ended.failing_failure]

/-- What is said of a document that was read. -/
def detectedLine (document : Path) (found : Bool) : String :=
  (if found then "[yellow]Template:[/yellow] " else "[green]Plain manifest:[/green] ") ++
    document.text

/-- What a detection ends with that has read the document. -/
def detected (width : Nat) (document : Path) (found : Bool) : Ended :=
  .printing [Piece.marked width (detectedLine document found)] (if found then 0 else 1)

theorem detect_read {text : String} (h : document.hasNull = false)
    (htext : s.files.readText document = .ok text) :
    execute width (.detect document) s =
      (s, detected width document (Template.isTemplate text)) := by
  rw [execute_detect h, runDetect, Template.isTemplateFile, Template.isTemplateShown, htext]
  dsimp only [detected, detectedLine]
  cases Template.isTemplate text with
  | true => rw [if_pos rfl, if_pos rfl]; rfl
  | false => rw [if_neg Bool.false_ne_true, if_neg Bool.false_ne_true]; rfl

theorem trouble_detectedLine (width : Nat) (document : Path) (found : Bool) :
    (Piece.print [Piece.marked width (detectedLine document found)]).2 = none ↔
      Markup.Balanced document.text.toList := by
  rw [detectedLine]
  cases found with
  | true =>
      exact Piece.trouble_labelled "yellow".toList "Template:".toList (by decide +kernel)
        (by decide +kernel) rfl
  | false =>
      exact Piece.trouble_labelled "green".toList "Plain manifest:".toList (by decide +kernel)
        (by decide +kernel) rfl

/-- It can be said if the tags of the path close only what they opened. -/
theorem detected_ended (width : Nat) (document : Path) (found : Bool) :
    (Markup.Balanced document.text.toList ∧
      (detected width document found).exitCode = (if found then 0 else 1) ∧
      (detected width document found).trouble = none) ∨
    (¬ Markup.Balanced document.text.toList ∧ (detected width document found).exitCode = 1 ∧
      (detected width document found).trouble ≠ none) := by
  rw [← trouble_detectedLine width document found]
  exact Ended.printing_cases _ _

/-- What a detection ends with, and when it ends with trouble. -/
theorem detect_ended (width : Nat) (document : Path) (s : Session) :
    let unread := ∃ e, s.files.readText document = .error e
    let holds := fun p : String → Prop => ∃ text, s.files.readText document = .ok text ∧ p text
    let ended := (execute width (.detect document) s).2
    (ended.exitCode = 0 ↔ holds Template.Marked ∧ ended.trouble = none) ∧
    (ended.exitCode = 1 ↔ (holds fun text => ¬ Template.Marked text) ∨ ended.trouble ≠ none) ∧
    (ended.exitCode = 2 ↔ unread ∧ document.hasNull = false) ∧
    (ended.trouble ≠ none ↔
      document.hasNull = true ∨ (holds fun _ => True) ∧ ¬ Markup.Balanced document.text.toList) ∧
    (execute width (.detect document) s).1 = s := by
  intro unread holds ended
  simp only [unread, holds, ended]
  cases htext : s.files.readText document with
  | error e =>
      cases hnull : document.hasNull with
      | true => simp [detect_null hnull, Ended.unreachable, Ended.breaking, Ended.unprepared]
      | false => simp [detect_unreadable hnull htext]
  | ok text =>
      have hnull := FileSystem.hasNull_of_readText htext
      rw [detect_read hnull htext]
      rcases detected_ended width document (Template.isTemplate text) with
        ⟨hpath, hcode, htrouble⟩ | ⟨hpath, hcode, htrouble⟩
      · rw [hcode, htrouble]
        by_cases hmarked : Template.Marked text
        · simp [Template.isTemplate_iff.2 hmarked, hmarked, hnull, hpath]
        · simp [mt Template.isTemplate_iff.1 hmarked, hmarked, hnull, hpath]
      · rw [hcode]
        simp [htrouble, hnull, hpath]

/-- What the exit status of a detection says: 2 that the document cannot be read, 0 that it is a
template, and 1 that it is a plain manifest, or that the command ended with trouble. For a path
without tags there is no trouble unless it names nothing; for one whose first tag closes something
there is, whenever the document can be read. -/
theorem detect_exitCode (width : Nat) (document : Path) (s : Session) :
    let unread := ∃ e, s.files.readText document = .error e
    let holds := fun p : String → Prop => ∃ text, s.files.readText document = .ok text ∧ p text
    let ended := (execute width (.detect document) s).2
    (ended.exitCode = 0 ↔ holds Template.Marked ∧ ended.trouble = none) ∧
    (ended.exitCode = 1 ↔ (holds fun text => ¬ Template.Marked text) ∨ ended.trouble ≠ none) ∧
    (ended.exitCode = 2 ↔ unread ∧ document.hasNull = false) ∧
    (Markup.tags document.text.toList = [] →
      (ended.trouble ≠ none ↔ document.hasNull = true)) ∧
    (Markup.ClosesFirst document.text.toList →
      (ended.trouble ≠ none ↔ document.hasNull = true ∨ holds fun _ => True)) ∧
    (execute width (.detect document) s).1 = s := by
  obtain ⟨hzero, hone, htwo, htrouble, hkept⟩ := detect_ended width document s
  refine ⟨hzero, hone, htwo, fun hplain => ?_, fun hcloses => ?_, hkept⟩
  · rw [htrouble]
    exact ⟨fun h => h.resolve_right fun hread => hread.2 (Markup.balanced_of_tags hplain), .inl⟩
  · rw [htrouble]
    exact or_congr_right (and_iff_left (Markup.not_balanced_of_closesFirst hcloses))

/-- What the status says is not what the document holds, if the path has such a tag in it. -/
theorem detect_hides_template :
    let document : Path := .ofString "a[/x].yaml"
    let s : Session :=
      { files := (⟨[], { here := [] }⟩ : FileSystem).plant
          (.file "\x7b\x7b .Values.x \x7d\x7d\n".toUTF8) [] document.parts }
    (∃ text, s.files.readText document = .ok text ∧ Template.isTemplate text = true) ∧
      (execute 80 (.detect document) s).2.exitCode = 1 ∧
      (execute 80 (.detect document) s).2.trouble =
        some (.mishap (.markup (.unmatched "/x".toList 28))) := by
  decide +kernel

end Command

end ManifestPolicy
