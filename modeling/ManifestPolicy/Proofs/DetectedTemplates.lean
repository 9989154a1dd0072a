import ManifestPolicy.Proofs.DetectStatus
import ManifestPolicy.Proofs.PlainAgain

/-!
# Nothing is lost by leaving plain documents alone

Only documents that are taken for templates are ever made plain. The marks
they are recognised by are looked for as words, while the passes that make a
template plain look for expressions, and a pass works on what the passes
before it have left: a text for a known value may hold an expression itself,
or complete one. So it might seem that a document without a mark could change.

But the first pass that changes anything finds the document as it was. Its
pattern matches there, and so an expression stands in the document, with the
braces on both sides of it (`exists_stands_of_changed`). Either pair is a mark.
-/

namespace ManifestPolicy.Template

variable {s : SanitizerSettings} {cs : List Char}

/-- Passes whose patterns match nowhere leave a text as it is, whatever they put in. -/
theorem Pass.run_of_misses {passes : List Pass}
    (h : ∀ pass ∈ passes, pass.pattern.Misses cs) : Pass.run passes cs = cs := by
  induction passes with
  | nil => rfl
  | cons pass passes ih =>
      rw [List.forall_mem_cons] at h
      rw [Pass.run_cons, replace_of_misses h.1, ih h.2]

/-- Where no expression stands no pattern matches. -/
theorem misses_of_not_stands (h : ∀ body, ¬ Stands body cs) :
    ∀ pass ∈ passes s, pass.pattern.Misses cs := by
  have misses {p : Pattern} {fits : List Char → Prop} (hp : p.Finds fits) : p.Misses cs :=
    hp.misses_iff.2 fun body hstands => absurd hstands (h body)
  exact forall_mem_passes.2
    ⟨fun _ _ => misses (finds_value _), misses finds_include, misses finds_expression⟩

/-- In a text that changes when it is made plain there stands an expression. -/
theorem exists_stands_of_changed (h : sanitizeChars s cs ≠ cs) : ∃ body, Stands body cs := by
  by_contra hnone
  rw [not_exists] at hnone
  rw [sanitizeChars_eq_run, Pass.run_of_misses (misses_of_not_stands hnone)] at h
  exact h rfl

theorem Stands.openBraces {body : List Char} (h : Stands body cs) : openBraces <:+: cs :=
  List.IsInfix.trans ⟨[], body ++ closeBraces, by simp [Piece.chars]⟩ h

theorem Stands.closeBraces {body : List Char} (h : Stands body cs) : closeBraces <:+: cs :=
  List.IsInfix.trans ⟨Template.openBraces ++ body, [], by simp [Piece.chars]⟩ h

theorem isTemplate_of_openBraces {text : String} (h : openBraces <:+: text.toList) :
    isTemplate text = true :=
  isTemplate_iff.2 ⟨"\x7b\x7b", List.mem_cons_self, h⟩

/-- A document that was looked at has been read, and its text looked through. -/
theorem exists_of_isTemplateFile {files : FileSystem} {document : Path} {found : Bool}
    (h : isTemplateFile files document = .ok found) :
    ∃ text, files.readText document = .ok text ∧ isTemplate text = found := by
  unfold isTemplateFile isTemplateShown at h
  split at h
  · next text htext =>
      injection h with h
      exact ⟨text, htext, h⟩
  · cases h

/-- A text that changes when it is made plain, under any settings, is taken for a template, and
holds the braces that open an expression and those that close one. So the text of a document that
is taken for a plain one would have stayed as it is. -/
theorem changed_text_detected (s : SanitizerSettings) :
    (∀ text, sanitize s text ≠ text →
      isTemplate text = true ∧ openBraces <:+: text.toList ∧ closeBraces <:+: text.toList) ∧
    ∀ files document, isTemplateFile files document = .ok false →
      ∃ text, files.readText document = .ok text ∧ sanitize s text = text := by
  have hdetected (text : String) (h : sanitize s text ≠ text) :
      isTemplate text = true ∧ openBraces <:+: text.toList ∧ closeBraces <:+: text.toList := by
    rw [sanitize, Ne, ← String.toList_inj, String.toList_ofList] at h
    obtain ⟨body, hstands⟩ := exists_stands_of_changed h
    exact ⟨isTemplate_of_openBraces hstands.openBraces, hstands.openBraces, hstands.closeBraces⟩
  refine ⟨hdetected, fun files document hplain => ?_⟩
  obtain ⟨text, htext, hfound⟩ := exists_of_isTemplateFile hplain
  refine ⟨text, htext, ?_⟩
  by_contra hchanged
  rw [(hdetected text hchanged).1] at hfound
  cases hfound

/-- The text for one known value names another one, and is replaced in turn; a document beside it
is plain. -/
theorem changed_text_detected_twice :
    let s : SanitizerSettings :=
      { placeholders := [("a", "\x7b\x7b .Values.b \x7d\x7d"), ("b", "c")] }
    let text := "\x7b\x7b.Values.a\x7d\x7d"
    let files : FileSystem := ⟨[(["pod.yaml"], .file "a: b\n".toUTF8)], { here := [] }⟩
    let document := Path.ofString "pod.yaml"
    (sanitize s text = "c" ∧ isTemplate text = true ∧
      openBraces <:+: text.toList ∧ closeBraces <:+: text.toList) ∧
    isTemplateFile files document = .ok false ∧
      ∃ plain, files.readText document = .ok plain ∧ sanitize s plain = plain := by
  intro s text files document
  have htext : sanitize s text = "c" := by decide +kernel
  have hplain : isTemplateFile files document = .ok false := by decide +kernel
  obtain ⟨hdetected, hkept⟩ := changed_text_detected s
  exact ⟨⟨htext, hdetected text (by rw [htext]; decide)⟩, hplain, hkept files document hplain⟩

end ManifestPolicy.Template
