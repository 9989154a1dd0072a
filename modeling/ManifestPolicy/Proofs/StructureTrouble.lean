import ManifestPolicy.Proofs.CompileModes
import ManifestPolicy.Proofs.ConstructionFaults
import ManifestPolicy.Proofs.RunCourse
import ManifestPolicy.Proofs.ScanningFaults

/-!
# What becomes of a plain document without a structure

A template that has been made plain is looked at: of its documents, those that
are null apart, each has to be a mapping or a sequence, and there has to be
one (`Structured`). A text that is no YAML and one that has not this structure
are failures of the schema. But the value of a scalar can be refused as well,
and nobody is prepared for that, even if nothing would ever look at the
scalar. So there are two ends for a run that falls back on such a text, and
for a command that checks it (`Template.structure_trouble`).
-/

namespace ManifestPolicy

/-! ## Streams of documents -/

/-- A scalar of a stream is refused while its text is scanned, or for what stands in the graph of
one of the documents. -/
theorem Yaml.documents_scalar {text : String} {f : ScalarFault}
    (h : documents text = .error (.scalar f)) :
    f.OfText ∨ ∃ g ∈ (Graphs.ofText text.toList).graphs, g.Refuses f := by
  rcases bind_eq_error.1 h with hdocs | ⟨docs, _, h⟩
  · obtain ⟨g, hmem, hg⟩ := exists_of_mapM_error hdocs
    exact .inr ⟨g, hmem, ofGraph_scalar hg⟩
  · cases hf : (Graphs.ofText text.toList).failure with
    | none =>
        rw [hf] at h
        cases h
    | some e =>
        rw [hf] at h
        cases h
        exact .inl (Graphs.failure_ofText text.toList _ hf)

/-- A mapping or a sequence. -/
def Value.IsCollection (v : Value) : Prop :=
  (∃ entries, v = .map entries) ∨ ∃ items, v = .list items

namespace Template

/-- The values, those that are null apart, are collections, and this is the first of them. -/
structure Structured (values : List Value) (v : Value) : Prop where
  first : ∃ before after, values = before ++ v :: after ∧ ∀ u ∈ before, u = .null
  not_null : v ≠ .null
  collections : ∀ u ∈ values, u = .null ∨ u.IsCollection

variable {values : List Value} {v : Value} {text : String}

theorem not_isNull_iff : (!isNull v) = true ↔ v ≠ .null := by
  cases v <;> simp [isNull]

theorem isCollection_iff : isCollection v = true ↔ v.IsCollection := by
  cases v <;> simp [isCollection, Value.IsCollection]

theorem all_isCollection_filter : (values.filter fun u => !isNull u).all isCollection = true ↔
    ∀ u ∈ values, u = .null ∨ u.IsCollection := by
  simp only [List.all_eq_true, List.mem_filter, not_isNull_iff, isCollection_iff, and_imp,
    or_iff_not_imp_left, ne_eq]

theorem structured_iff : Structured values v ↔
    ∃ rest, (values.filter fun u => !isNull u) = v :: rest ∧
      (v :: rest).all isCollection = true := by
  constructor
  · rintro ⟨⟨before, after, hvalues, hbefore⟩, hnull, hcollections⟩
    have hfilter : (values.filter fun u => !isNull u) = v :: after.filter fun u => !isNull u :=
      List.filter_eq_cons_iff.2 ⟨before, after, hvalues,
        fun u hu hpresent => not_isNull_iff.1 hpresent (hbefore u hu), not_isNull_iff.2 hnull, rfl⟩
    refine ⟨_, hfilter, ?_⟩
    rw [← hfilter]
    exact all_isCollection_filter.2 hcollections
  · rintro ⟨rest, hfilter, hcollections⟩
    obtain ⟨before, after, hvalues, hbefore, hnull, _⟩ := List.filter_eq_cons_iff.1 hfilter
    rw [← hfilter] at hcollections
    refine ⟨⟨before, after, hvalues, fun u hu => ?_⟩, not_isNull_iff.1 hnull,
      all_isCollection_filter.1 hcollections⟩
    exact not_not.1 (mt not_isNull_iff.2 (hbefore u hu))

/-- What is said of a text that has no documents. -/
def refusal (text : String) : Yaml.Failure → Trouble
  | .scalar f => .mishap (.scalar f)
  | e => .failure (notYaml (e.message text.toList))

theorem firstDocument_of_error {e : Yaml.Failure} (h : Yaml.documents text = .error e) :
    firstDocument text = .error (refusal text e) := by
  unfold firstDocument
  rw [h]
  cases e <;> rfl

/-- The documents of a text decide between two outcomes. -/
theorem firstDocument_of_documents {docs : List Yaml.Document}
    (h : Yaml.documents text = .ok docs) :
    (∃ v, Structured (docs.map Yaml.Document.value) v ∧ firstDocument text = .ok v) ∨
    (∀ v, ¬ Structured (docs.map Yaml.Document.value) v) ∧
      firstDocument text = .error (.failure notStructured) := by
  unfold firstDocument
  rw [h]
  dsimp only
  split
  · next hnone =>
      refine .inr ⟨fun v hv => ?_, rfl⟩
      obtain ⟨rest, hrest, _⟩ := structured_iff.1 hv
      rw [hnone] at hrest
      cases hrest
  · next v rest hsome =>
      split
      · next hall => exact .inl ⟨v, structured_iff.2 ⟨rest, hsome, hall⟩, rfl⟩
      · next hall =>
          refine .inr ⟨fun v' hv => ?_, rfl⟩
          obtain ⟨rest', hrest, hall'⟩ := structured_iff.1 hv
          rw [hsome] at hrest
          cases hrest
          exact hall hall'

/-- There is one first document at most. -/
theorem Structured.unique {v' : Value} (h : Structured values v) (h' : Structured values v') :
    v = v' := by
  obtain ⟨rest, hrest, _⟩ := structured_iff.1 h
  obtain ⟨rest', hrest', _⟩ := structured_iff.1 h'
  rw [hrest] at hrest'
  cases hrest'
  rfl

theorem firstDocument_ok_iff : firstDocument text = .ok v ↔
    ∃ docs, Yaml.documents text = .ok docs ∧ Structured (docs.map Yaml.Document.value) v := by
  constructor
  · intro h
    cases hdocs : Yaml.documents text with
    | error e =>
        rw [firstDocument_of_error hdocs] at h
        cases h
    | ok docs =>
        rcases firstDocument_of_documents hdocs with ⟨v', hv, hfirst⟩ | ⟨_, hfirst⟩
        · rw [hfirst] at h
          cases h
          exact ⟨docs, rfl, hv⟩
        · rw [hfirst] at h
          cases h
  · rintro ⟨docs, hdocs, hv⟩
    rcases firstDocument_of_documents hdocs with ⟨v', hv', hfirst⟩ | ⟨hnone, _⟩
    · rw [hfirst, hv.unique hv']
    · exact absurd hv (hnone v)

theorem firstDocument_error_iff {t : Trouble} : firstDocument text = .error t ↔
    (∃ e, Yaml.documents text = .error e ∧ t = refusal text e) ∨
    ∃ docs, Yaml.documents text = .ok docs ∧
      (∀ v, ¬ Structured (docs.map Yaml.Document.value) v) ∧ t = .failure notStructured := by
  constructor
  · intro h
    cases hdocs : Yaml.documents text with
    | error e =>
        rw [firstDocument_of_error hdocs] at h
        cases h
        exact .inl ⟨e, rfl, rfl⟩
    | ok docs =>
        rcases firstDocument_of_documents hdocs with ⟨v, _, hfirst⟩ | ⟨hnone, hfirst⟩
        · rw [hfirst] at h
          cases h
        · rw [hfirst] at h
          cases h
          exact .inr ⟨docs, rfl, hnone, rfl⟩
  · rintro (⟨e, hdocs, rfl⟩ | ⟨docs, hdocs, hnone, rfl⟩)
    · exact firstDocument_of_error hdocs
    · rcases firstDocument_of_documents hdocs with ⟨v, hv, _⟩ | ⟨_, hfirst⟩
      · exact absurd hv (hnone v)
      · exact hfirst

/-- A scalar that is refused is a mishap, and nothing else is. -/
theorem firstDocument_mishap_iff {m : Mishap} : firstDocument text = .error (.mishap m) ↔
    ∃ f, Yaml.documents text = .error (.scalar f) ∧ m = .scalar f := by
  rw [firstDocument_error_iff]
  constructor
  · rintro (⟨e, hdocs, h⟩ | ⟨docs, _, _, h⟩)
    · cases e with
      | scalar f =>
          cases h
          exact ⟨f, hdocs, rfl⟩
      | _ => cases h
    · cases h
  · rintro ⟨f, hdocs, rfl⟩
    exact .inl ⟨_, hdocs, rfl⟩

theorem firstDocument_failure_iff {f : Failure} : firstDocument text = .error (.failure f) ↔
    (∃ e, Yaml.documents text = .error e ∧ e.isFormal = true ∧
      f = notYaml (e.message text.toList)) ∨
    ∃ docs, Yaml.documents text = .ok docs ∧
      (∀ v, ¬ Structured (docs.map Yaml.Document.value) v) ∧ f = notStructured := by
  rw [firstDocument_error_iff, Trouble.failure.injEq]
  refine or_congr ⟨?_, ?_⟩ Iff.rfl
  · rintro ⟨e, hdocs, h⟩
    cases e with
    | scalar f => cases h
    | _ =>
        cases h
        exact ⟨_, hdocs, rfl, rfl⟩
  · rintro ⟨e, hdocs, hformal, rfl⟩
    cases e with
    | scalar f => cases hformal
    | _ => exact ⟨_, hdocs, rfl⟩

/-! ## Where the structure is looked at -/

/-- The template in a file is made plain, and this is the text that is then in the new file. -/
def MadePlain (settings : SanitizerSettings) (files : FileSystem) (document : Path)
    (text : String) : Prop :=
  ∃ template, files.readText document = .ok template ∧
    (files.writeText (plainPath settings document) (sanitize settings template)).2 = none ∧
      text = String.ofList (Text.Utf8.unifyNewlines (sanitize settings template).toList)

end Template

open Template (MadePlain firstDocument)

theorem FileSystem.readText_writeText {fs fs' : FileSystem} {p : Path} {text : String}
    (h : fs.writeText p text = (fs', none)) :
    fs'.readText p = .ok (String.ofList (Text.Utf8.unifyNewlines text.toList)) := by
  rw [readText, readBytes_writeText h]
  dsimp only
  rw [Text.Utf8.decode_toUTF8]

variable {settings : SanitizerSettings} {files : FileSystem} {document : Path} {text : String}

theorem Template.MadePlain.sanitizeFile_eq (h : MadePlain settings files document text) :
    ∃ files', sanitizeFile settings files document = (files', .ok (plainPath settings document)) ∧
      files'.readText (plainPath settings document) = .ok text := by
  obtain ⟨template, hread, hnone, rfl⟩ := h
  have hwrite : files.writeText (plainPath settings document) (sanitize settings template) =
      (_, none) := Prod.ext rfl hnone
  refine ⟨_, ?_, FileSystem.readText_writeText hwrite⟩
  rw [sanitizeFile, hread]
  dsimp only
  rw [hwrite]

namespace Validator

variable {v : Validator} {q : Request} {s s' : Session} {t : Trouble}

theorem makePlain_of_error (h : MadePlain v.settings.sanitizer s.files document text)
    (ht : firstDocument text = .error t) : ∃ s', v.makePlain document s = (s', .error t) := by
  obtain ⟨files', hsanitize, hread⟩ := h.sanitizeFile_eq
  refine ⟨{ s with files := files' }, ?_⟩
  rw [makePlain, hsanitize]
  dsimp only
  rw [hread]
  dsimp only
  rw [ht]

/-- A run falls back on a text, and the warning of that can be given. -/
structure FallsBackOn (v : Validator) (q : Request) (s : Session) (text : String) : Prop where
  visits : ∃ s', Visits v q s s' .fallBack ∧
    MadePlain v.settings.sanitizer s'.files q.document text
  calm : v.trouble (.warning (noRenderer v.settings.renderer)) = none

/-- A run ends where the structure of its text is looked at. -/
theorem FallsBackOn.conclude_eq (h : FallsBackOn v q s text) (ht : firstDocument text = .error t) :
    (v.conclude q s).2 =
      failed q .sanitizeFallback q.document [noRenderer v.settings.renderer] t := by
  obtain ⟨s', hvisits, hplain⟩ := h.visits
  obtain ⟨s₁, hmake⟩ := makePlain_of_error
    (s := s'.note (.warning (noRenderer v.settings.renderer))) hplain ht
  have hmove := move_fallBack (q := q) h.calm hmake
  have hfinished : (v.move q .fallBack s').2 = .finished
      (failed q .sanitizeFallback q.document [noRenderer v.settings.renderer] t) := by
    rw [hmove]
    rfl
  rw [← hvisits.rest_eq, rest_finished hfinished]

end Validator

namespace Command

variable {width : Nat} {given : Option Path} {s : Session} {t : Trouble}

/-- A template can be made plain under the settings that were found, and this is the text. -/
structure Checks (s : Session) (document : Path) (given : Option Path) (text : String) :
    Prop where
  named : (document :: given.toList).any Path.hasNull = false
  plain : ∃ location, s.files.resolve document = .ok location ∧
    ∃ settings, Settings.load s.files given (Path.ofLocation location).parent = .ok settings ∧
      MadePlain settings.sanitizer s.files document text

/-- A command that checks the structure of its text ends with what is wrong with it. -/
theorem Checks.execute_eq (h : Checks s document given text) (ht : firstDocument text = .error t) :
    (execute width (.sanitize document given true) s).2 = .failing width t := by
  obtain ⟨location, hresolve, settings, hload, hplain⟩ := h.plain
  obtain ⟨files', hsanitize, hread⟩ := hplain.sanitizeFile_eq
  have hcheck : checkPlain true (Template.plainPath settings.sanitizer document) files' =
      .error t := by
    rw [checkPlain, if_pos rfl, hread]
    dsimp only
    rw [ht]
    rfl
  rw [execute, if_neg (by rw [paths, h.named]; decide), runSanitize, hresolve]
  dsimp only
  rw [hload]
  dsimp only
  rw [hsanitize]
  dsimp only
  rw [hcheck]

end Command

namespace Template

/-- What becomes of a text whose structure is looked at. It has one exactly if it is YAML, and its
documents have. If not, there are two ways for a run or a check to end. A text that is not YAML or
whose documents are not collections is a failure of the schema. But the value of a scalar that is
refused is a mishap: the run ends with an unknown error, and nobody is prepared for it in a check;
this scalar was refused while the text was scanned, or its text does not fit the type that a tag
names. -/
theorem structure_trouble (text : String) :
    (∀ v, firstDocument text = .ok v ↔
      ∃ docs, Yaml.documents text = .ok docs ∧ Structured (docs.map Yaml.Document.value) v) ∧
    (∀ f, firstDocument text = .error (.failure f) ↔
      (∃ e, Yaml.documents text = .error e ∧ e.isFormal = true ∧
        f = notYaml (e.message text.toList)) ∨
      ∃ docs, Yaml.documents text = .ok docs ∧
        (∀ v, ¬ Structured (docs.map Yaml.Document.value) v) ∧ f = notStructured) ∧
    (∀ m, firstDocument text = .error (.mishap m) ↔
      ∃ f, Yaml.documents text = .error (.scalar f) ∧ m = .scalar f) ∧
    (∀ f, Yaml.documents text = .error (.scalar f) →
      f.OfText ∨ ∃ g ∈ (Yaml.Graphs.ofText text.toList).graphs, g.Refuses f) ∧
    (∀ f, firstDocument text = .error (.failure f) →
      (∀ v q s, Validator.FallsBackOn v q s text →
        (v.conclude q s).2.outcome = .failure .schema f.text ∧
          (v.conclude q s).2.stage = .sanitizeFallback) ∧
      ∀ width s document given, Command.Checks s document given text →
        (Command.execute width (.sanitize document given true) s).2 =
          ⟨Ended.failureText width f, 2, none⟩) ∧
    ∀ m, firstDocument text = .error (.mishap m) →
      (∀ v q s, Validator.FallsBackOn v q s text →
        (∃ message, (v.conclude q s).2.outcome = .failure .unknown message) ∧
          (v.conclude q s).2.stage = .sanitizeFallback) ∧
      ∀ width s document given, Command.Checks s document given text →
        (Command.execute width (.sanitize document given true) s).2 = ⟨[], 1, some (.mishap m)⟩ := by
  refine ⟨fun v => firstDocument_ok_iff, fun f => firstDocument_failure_iff,
    fun m => firstDocument_mishap_iff, fun f => Yaml.documents_scalar, fun f hf => ⟨?_, ?_⟩,
    fun m hm => ⟨?_, ?_⟩⟩
  · intro v q s hback
    have hkind : f.kind = .schema := by
      rcases firstDocument_failure_iff.1 hf with ⟨e, _, _, rfl⟩ | ⟨docs, _, _, rfl⟩ <;> rfl
    rw [hback.conclude_eq hf, ← hkind]
    exact ⟨rfl, rfl⟩
  · intro width s document given hchecks
    rw [hchecks.execute_eq hf, Ended.failing_failure]
  · intro v q s hback
    rw [hback.conclude_eq hm]
    exact ⟨⟨_, rfl⟩, rfl⟩
  · intro width s document given hchecks
    rw [hchecks.execute_eq hm]
    rfl

/-- All that this template holds is an expression, and so nothing is left of it. -/
theorem structure_trouble_empty :
    let document : Path := .ofString "x.yaml"
    let s : Session :=
      { files := (⟨[], { here := [] }⟩ : FileSystem).plant
          (.file "\x7b\x7b .Values.x \x7d\x7d\n".toUTF8) [] document.parts }
    let v : Validator := ⟨{ renderer := { enabled := false } }, fun _ => none⟩
    let q : Request := { document, workspace := .ofLocation [], isTemplate := some true }
    (v.conclude q s).2.outcome =
        .failure .schema "Invalid YAML structure after sanitization" ∧
      (v.conclude q s).2.stage = .sanitizeFallback ∧
      (Command.execute 80 (.sanitize document none true) s).2.exitCode = 2 := by
  intro document s v q
  obtain ⟨_, _, _, _, hfailure, _⟩ := structure_trouble "\n"
  obtain ⟨hrun, hcheck⟩ := hfailure notStructured (by decide +kernel)
  have hplain : MadePlain {} s.files document "\n" := by
    unfold MadePlain
    decide +kernel
  have hback : Validator.FallsBackOn v q s "\n" :=
    ⟨⟨s, .move .detect, hplain⟩, rfl⟩
  have hchecks : Command.Checks s document none "\n" := by
    refine ⟨rfl, _, rfl, ?_⟩
    obtain ⟨_, hload, rfl⟩ : ∃ settings,
        Settings.load s.files none (.ofLocation []) = .ok settings ∧ settings = {} := by
      decide +kernel
    exact ⟨_, hload, hplain⟩
  rw [hcheck 80 s document none hchecks]
  exact ⟨(hrun v q s hback).1, (hrun v q s hback).2, rfl⟩

/-- A date that is none, though nothing looks at it. -/
theorem odd_date_has_no_schema_error :
    let document : Path := .ofString "x.yaml"
    let s : Session :=
      { files := (⟨[], { here := [] }⟩ : FileSystem).plant
          (.file "a: 2024-13-01\n\x7b\x7b- with .Values.x \x7d\x7d\n".toUTF8) [] document.parts }
    let v : Validator := ⟨{ renderer := { enabled := false } }, fun _ => none⟩
    let q : Request := { document, workspace := .ofLocation [], isTemplate := some true }
    firstDocument "a: 2024-13-01\n" = .error (.mishap (.scalar (.calendar .month))) ∧
      (v.conclude q s).2.outcome = .failure .unknown "month must be in 1..12" ∧
      (v.conclude q s).2.stage = .sanitizeFallback ∧
      (Command.execute 80 (.sanitize document none true) s).2.exitCode = 1 ∧
      (Command.execute 80 (.sanitize document none true) s).2.trouble =
        some (.mishap (.scalar (.calendar .month))) := by
  decide +kernel

end Template

end ManifestPolicy
