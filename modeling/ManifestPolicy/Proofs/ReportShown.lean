import ManifestPolicy.CommandLine.Execute
import ManifestPolicy.Proofs.EscapedText
import ManifestPolicy.Proofs.FileFrame
import ManifestPolicy.Proofs.GatherSerial
import ManifestPolicy.Proofs.PathText
import ManifestPolicy.Proofs.ReportRead

/-!
# When a report can be shown

Everything that is not known beforehand is escaped before it is printed: the
message of a failure, the reasons of violations, the warnings. There is one
exception, the path of the document, which stands as it is in a report in
Markdown and in the title of the table of violations. So whether a report can
be shown is up to two things, the reasons, which have to be known, and the tags
of the path where it is shown (`Reporter.trouble_report`).

How such tags are taken depends on the styles that a screen knows. But a path
without tags can be shown on every screen, and one whose first tag closes
something on none; a command that validates a document ends with the exit code
of the result if the report can be shown, and like a command that nobody was
prepared for if it cannot (`Reporter.report_shown`). Then no exit code tells
what was found (`Reporter.open_path_hides_result`).
-/

namespace ManifestPolicy

open Markup (Plain)

/-! ## Pieces -/

namespace Piece

variable {width : Nat} {ps : List Piece}

theorem trouble_eq_none : (print ps).2 = none ↔ ∀ p ∈ ps, ∃ cs, p = .ok cs := by
  induction ps with
  | nil => exact iff_of_true rfl nofun
  | cons p ps ih =>
      rw [List.forall_mem_cons, ← ih]
      cases p with
      | error t => exact iff_of_false nofun (fun h => nomatch h.1)
      | ok cs => exact ⟨fun h => ⟨⟨cs, rfl⟩, h⟩, fun h => h.2⟩

theorem exists_marked {s : String} :
    (∃ cs, marked width s = .ok cs) ↔ Markup.Balanced s.toList := by
  rw [← exists_rendered, marked]
  constructor
  · rintro ⟨cs, h⟩
    obtain ⟨out, hout, _⟩ := map_eq_ok.1 h
    exact ⟨out, hout⟩
  · rintro ⟨out, hout⟩
    exact ⟨_, map_eq_ok.2 ⟨out, hout, rfl⟩⟩

theorem exists_column {head : String} {a : Layout.Justification} {cells : List String}
    (h : ∀ cell ∈ cells, Markup.Balanced cell.toList) : ∃ c, column head a cells = .ok c := by
  obtain ⟨texts, htexts⟩ := exists_mapM.2 fun cell hcell => exists_rendered.2 (h cell hcell)
  exact ⟨_, bind_eq_ok.2 ⟨texts, htexts, rfl⟩⟩

/-- A table of columns that can be shown can be shown if its title can. -/
theorem table_eq {title : String} {columns : List (Except Trouble Column)}
    (h : ∀ column ∈ columns, ∃ c, column = .ok c) : ∃ lines : List Char → List (List Char),
      table width title columns = (rendered title.toList).map fun title => ofLines (lines title) := by
  obtain ⟨shown, hshown⟩ := exists_mapM.2 h
  refine ⟨fun title => Table.lines width ⟨title, shown⟩, ?_⟩
  rw [table, show columns.mapM id = .ok shown from hshown]
  cases rendered title.toList <;> rfl

end Piece

/-! ## Reports -/

theorem FailureKind.plain_text (kind : FailureKind) : Plain kind.text.toList := by
  cases kind <;> decide

theorem Stage.plain_name (stage : Stage) : Plain stage.name.toList := by
  cases stage <;> decide

namespace Reporter

variable {p : Reporter} {r : Result} {reasons : List String}

/-- The path of the document is shown with the result. -/
def ShowsDocument (p : Reporter) (r : Result) : Prop :=
  match p.form with
  | .table => ∃ output, r.outcome = .violations output
  | .json => False
  | .markdown => True

theorem reasonsOf_eq (h : r.outcome.reasons = .ok reasons) : reasonsOf r = .ok reasons := by
  rw [reasonsOf, h]

/-! ### Tables -/

theorem balanced_title (r : Result) :
    Markup.Balanced s!"Policy violations: {shownDocument r}".toList ↔
      Markup.Balanced (shownDocument r).toList := by
  have hplain : Plain "Policy violations: ".toList := by decide
  rw [String.toList_append]
  exact Markup.balanced_append hplain

/-- The table of violations can be shown if its title can. -/
theorem violations_eq {output : String} (hr : r.outcome = .violations output)
    (h : r.outcome.reasons = .ok reasons) : ∃ lines : List Char → List (List Char), p.table r =
      (Piece.rendered s!"Policy violations: {shownDocument r}".toList).map fun title =>
        Piece.ofLines (lines title) := by
  have hcolumns : ∀ column ∈ [Piece.column "#" .right
      ((List.range reasons.length).map fun i => toString (i + 1)),
      Piece.column "Reason" .left (reasons.map Markup.escape)], ∃ c, column = .ok c := by
    rw [List.forall_mem_cons, List.forall_mem_singleton]
    refine ⟨Piece.exists_column fun cell hcell => ?_, Piece.exists_column fun cell hcell => ?_⟩
    · obtain ⟨i, _, rfl⟩ := List.mem_map.1 hcell
      refine Markup.balanced_of_tags (Markup.tags_of_not_mem fun hbracket => ?_)
      have hdigit := (whole_decimal (i + 1)).digits.2 '[' hbracket
      cases hdigit
    · obtain ⟨s, _, rfl⟩ := List.mem_map.1 hcell
      exact Markup.balanced_of_tags (Markup.tags_escape s)
  obtain ⟨lines, hlines⟩ :=
    @Piece.table_eq p.width s!"Policy violations: {shownDocument r}" _ hcolumns
  refine ⟨lines, ?_⟩
  rw [← hlines, table, hr]
  dsimp only
  rw [reasonsOf_eq h]
  rfl

/-- The message of a failure is shown between two labels. -/
theorem balanced_failure (kind : FailureKind) (message : String) (stage : Stage) :
    Markup.Balanced (s!"[red]Error:[/red] " ++ Markup.escape message
      ++ s!" [dim]({kind.text} during {stage.name})[/dim]").toList := by
  let inner := "(".toList ++ kind.text.toList ++ " during ".toList ++ stage.name.toList ++ ")".toList
  have hinner : Plain inner := by
    have hfixed : Plain "(".toList ∧ Plain " during ".toList ∧ Plain ")".toList := by decide
    simp only [inner, Plain, List.forall_mem_append]
    exact ⟨⟨⟨⟨hfixed.1, kind.plain_text⟩, hfixed.2.1⟩, stage.plain_name⟩, hfixed.2.2⟩
  let tail := ' ' :: Markup.labelled "dim".toList inner []
  have hsealed : Markup.Sealed tail := ⟨rfl, rfl⟩
  have htext : (s!"[red]Error:[/red] " ++ Markup.escape message
      ++ s!" [dim]({kind.text} during {stage.name})[/dim]").toList =
      Markup.labelled "red".toList "Error:".toList
        (' ' :: (Markup.escapeChars message.toList ++ tail)) := by
    show ("[red]Error:[/red] " ++ Markup.escape message
      ++ (" [dim](" ++ kind.text ++ " during " ++ stage.name ++ ")[/dim]")).toList = _
    simp only [Markup.escape, String.toList_append, String.toList_ofList, List.append_assoc, tail,
      inner, Markup.labelled, Markup.tagged]
    rfl
  have hspace : Plain [' '] := by decide
  rw [htext, Markup.balanced_labelled (by decide) (by decide)]
  rw [← List.singleton_append, Markup.balanced_append hspace, Markup.Balanced,
    Markup.tags_escapeChars _ hsealed, ← Markup.Balanced]
  rw [show tail = [' '] ++ Markup.labelled "dim".toList inner [] from rfl,
    Markup.balanced_append hspace, Markup.balanced_labelled (by decide) hinner]
  decide

/-- The path is all that matters for whether a result is shown as a table. -/
theorem trouble_table (hform : p.form = .table) (h : r.outcome.reasons = .ok reasons) :
    (∃ cs, p.table r = .ok cs) ↔
      (p.ShowsDocument r → Markup.Balanced (shownDocument r).toList) := by
  rw [ShowsDocument, hform]
  dsimp only
  cases hr : r.outcome with
  | noViolations =>
      rw [table, hr]
      refine iff_of_true (Piece.exists_marked.2 ?_) nofun
      decide +kernel
  | failure kind message =>
      rw [table, hr]
      refine iff_of_true (Piece.exists_marked.2 ?_) nofun
      exact balanced_failure kind message r.stage
  | violations output =>
      obtain ⟨lines, htable⟩ := violations_eq hr h
      rw [htable, ← balanced_title r, ← Piece.exists_rendered]
      constructor
      · rintro ⟨cs, hcs⟩ -
        obtain ⟨title, htitle, _⟩ := map_eq_ok.1 hcs
        exact ⟨title, htitle⟩
      · intro htitle
        obtain ⟨title, htitle⟩ := htitle ⟨output, rfl⟩
        exact ⟨_, map_eq_ok.2 ⟨title, htitle, rfl⟩⟩

/-! ### Markdown -/

/-- The line that names the document. -/
def documentLine (r : Result) : String := s!"**Document:** {shownDocument r}"

theorem balanced_documentLine (r : Result) :
    Markup.Balanced (documentLine r).toList ↔ Markup.Balanced (shownDocument r).toList := by
  have hplain : Plain "**Document:** ".toList := by decide
  unfold documentLine
  rw [String.toList_append]
  exact Markup.balanced_append hplain

/-- Reasons and warnings are items of lists, and escaped. -/
theorem exists_of_mem_items {width : Nat} {texts : List String} {piece : Piece}
    (h : piece ∈ texts.map fun text => Piece.marked width ("- " ++ Markup.escape text)) :
    ∃ cs, piece = .ok cs :=
  Piece.trouble_eq_none.1 (Piece.trouble_items width texts) _ h

theorem balanced_failureLine (kind : FailureKind) (stage : Stage) (message : String) :
    Markup.Balanced (s!"- **{kind.text}** ({stage.name}): " ++ Markup.escape message).toList := by
  have hfixed : Plain "- **".toList ∧ Plain "** (".toList ∧ Plain "): ".toList := by decide
  have hplain : Plain ("- **" ++ kind.text ++ "** (" ++ stage.name ++ "): ").toList := by
    simp only [String.toList_append, Plain, List.forall_mem_append]
    exact ⟨⟨⟨⟨hfixed.1, kind.plain_text⟩, hfixed.2.1⟩, stage.plain_name⟩, hfixed.2.2⟩
  rw [String.toList_append]
  exact (Markup.balanced_append hplain).2 (Markup.balanced_of_tags (Markup.tags_escape message))

/-- Every line but one can be shown. -/
theorem mem_markdown (h : r.outcome.reasons = .ok reasons) {piece : Piece}
    (hpiece : piece ∈ p.markdown r) :
    piece = Piece.marked p.width (documentLine r) ∨ ∃ cs, piece = .ok cs := by
  have hline {s : String} (hs : Markup.Balanced s.toList) : ∃ cs, Piece.marked p.width s = .ok cs :=
    Piece.exists_marked.2 hs
  rw [markdown] at hpiece
  rcases List.mem_append.1 hpiece with hpiece | hpiece
  · rcases List.mem_append.1 hpiece with hpiece | hpiece
    · -- The lines above.
      simp only [List.mem_cons, List.not_mem_nil, or_false] at hpiece
      rcases hpiece with rfl | rfl | rfl | rfl | rfl
      · exact .inr (hline (by decide +kernel))
      · exact .inl rfl
      · refine .inr (hline ?_)
        cases r.outcome <;> (dsimp only [Outcome.name]; decide +kernel)
      · refine .inr (hline ?_)
        cases r.outcome <;> (dsimp only [Outcome.exitCode]; decide +kernel)
      · exact .inr ⟨_, rfl⟩
    · right
      cases hr : r.outcome with
      | noViolations =>
          rw [hr] at hpiece
          rw [List.mem_singleton.1 hpiece]
          exact hline (by decide +kernel)
      | failure kind message =>
          rw [hr] at hpiece
          rcases List.mem_cons.1 hpiece with rfl | hpiece
          · exact hline (by decide +kernel)
          · rw [List.mem_singleton.1 hpiece]
            exact hline (balanced_failureLine kind r.stage message)
      | violations output =>
          rw [hr] at hpiece
          rcases List.mem_cons.1 hpiece with rfl | hpiece
          · exact hline (by decide +kernel)
          · rw [listed, reasonsOf_eq h] at hpiece
            exact exists_of_mem_items hpiece
  · -- The warnings.
    right
    split at hpiece
    · cases hpiece
    · rcases List.mem_append.1 hpiece with hpiece | hpiece
      · rcases List.mem_cons.1 hpiece with rfl | hpiece
        · exact ⟨_, rfl⟩
        · rw [List.mem_singleton.1 hpiece]
          exact hline (by decide +kernel)
      · exact exists_of_mem_items hpiece

theorem documentLine_mem (p : Reporter) (r : Result) :
    Piece.marked p.width (documentLine r) ∈ p.markdown r := by
  rw [markdown, List.append_assoc]
  exact List.mem_append_left _ (List.mem_cons_of_mem _ List.mem_cons_self)

/-- The path is all that matters for whether a result is shown in Markdown. -/
theorem trouble_markdown_iff (h : r.outcome.reasons = .ok reasons) :
    (Piece.print (p.markdown r)).2 = none ↔ Markup.Balanced (shownDocument r).toList := by
  rw [Piece.trouble_eq_none, ← balanced_documentLine r, ← @Piece.exists_marked p.width]
  refine ⟨fun hall => hall _ (documentLine_mem p r), fun hline piece hpiece => ?_⟩
  rcases mem_markdown h hpiece with rfl | hok
  · exact hline
  · exact hok

/-! ### All forms -/

/-- Only with its reasons a result can be shown. -/
theorem exists_reasons_of_calm (h : p.trouble (.report r) = none) :
    ∃ reasons, r.outcome.reasons = .ok reasons := by
  cases hreasons : r.outcome.reasons with
  | ok reasons => exact ⟨reasons, rfl⟩
  | error f =>
      exfalso
      obtain ⟨output, hr⟩ : ∃ output, r.outcome = .violations output := by
        cases hr : r.outcome with
        | violations output => exact ⟨output, rfl⟩
        | noViolations | failure _ _ =>
            rw [hr] at hreasons
            cases hreasons
      have hnone : reasonsOf r = .error (.mishap (.output f)) := by rw [reasonsOf, hreasons]
      have hall := Piece.trouble_eq_none.1 h
      obtain ⟨form, width, quiet⟩ := p
      cases form with
      | table =>
          obtain ⟨cs, hcs⟩ := hall _ (List.mem_singleton_self _)
          rw [table, hr] at hcs
          dsimp only at hcs
          rw [hnone] at hcs
          cases hcs
      | json =>
          obtain ⟨cs, hcs⟩ := hall _ (List.mem_singleton_self _)
          rw [json, Result.toJson, hreasons] at hcs
          cases hcs
      | markdown =>
          have hlisted : (Except.error (.mishap (.output f)) : Piece) ∈
              (⟨.markdown, width, quiet⟩ : Reporter).markdown r := by
            rw [markdown, hr]
            refine List.mem_append_left _ (List.mem_append_right _ (List.mem_cons_of_mem _ ?_))
            rw [listed, hnone]
            exact List.mem_singleton_self _
          obtain ⟨cs, hcs⟩ := hall _ hlisted
          cases hcs

/-- Whether a report can be shown is up to the path of the document. -/
theorem trouble_report (p : Reporter) (h : r.outcome.reasons = .ok reasons) :
    p.trouble (.report r) = none ↔
      (p.ShowsDocument r → Markup.Balanced (shownDocument r).toList) := by
  obtain ⟨form, width, quiet⟩ := p
  cases form with
  | table =>
      have hshown := @trouble_table ⟨.table, width, quiet⟩ r reasons rfl h
      exact (Piece.trouble_eq_none.trans List.forall_mem_singleton).trans hshown
  | json =>
      have hcalm : (⟨.json, width, quiet⟩ : Reporter).trouble (.report r) = none := by
        obtain ⟨v, hv⟩ : ∃ v, r.toJson = .ok v := ⟨_, bind_eq_ok.2 ⟨reasons, h, rfl⟩⟩
        obtain ⟨cs, _, hjson⟩ := json_eq hv
        rw [trouble, pieces, hjson]
        rfl
      exact iff_of_true hcalm False.elim
  | markdown => exact (trouble_markdown_iff h).trans ⟨fun h _ => h, fun h => h trivial⟩

end Reporter

/-! ## Commands -/

namespace Path

/-- Where a path with a root leads has a name if the path has. -/
theorem hasNull_locationFrom {p : Path} {here : Location} (hroot : p.root ≠ .none)
    (h : p.hasNull = false) : (ofLocation (p.locationFrom here)).hasNull = false := by
  have hlocation : p.locationFrom here = follow [] p.parts := by
    unfold locationFrom
    split
    · next hnone => exact absurd hnone hroot
    · rfl
  rw [hasNull, List.any_eq_false] at h ⊢
  intro name hname
  rw [hlocation] at hname
  rcases mem_follow hname with hnil | hname
  · cases hnil
  · exact h name hname

end Path

namespace Command

/-- The command validates a document, and nothing keeps it from running the request under the
settings and handing the result to the reporter. -/
inductive Runs (width : Nat) (s : Session) : Command → Reporter → Settings → Request → Prop
  | validate {document workspace : Path} {place : Place} {name : String} {form : ReportForm}
      {render : Bool} {trigger : Trigger} {logLevel : Option String} {settings : Settings}
      {q : Request}
      (named : (document :: place.workspace :: place.settings.toList).any Path.hasNull = false)
      (form_eq : ReportForm.ofName? name = some form)
      (settled : settle width place s.files = .ok (workspace, settings))
      (level : badLevel? logLevel = none)
      (structured : (trigger = .save && !document.isStructured) = false)
      (resolved : Request.resolved s.files document (some workspace) trigger none = .ok q) :
      Runs width s (.validate document place name render trigger logLevel) ⟨form, width, false⟩
        { settings with renderer := { settings.renderer with
          enabled := settings.renderer.enabled && render } } q

variable {width : Nat} {s : Session} {c : Command} {p : Reporter} {settings : Settings}
  {q : Request}

theorem Runs.execute_eq (h : Runs width s c p settings q) :
    execute width c s = runRequest p settings q s := by
  cases h with
  | validate named form_eq settled level structured resolved =>
      rw [execute, if_neg (by rw [paths, named]; decide)]
      dsimp only
      rw [runValidate, form_eq]
      dsimp only
      rw [settled]
      dsimp only
      rw [level]
      dsimp only
      rw [structured, if_neg (by decide), resolved]

/-- The workspace of the request is one that can be told from others. -/
theorem Runs.named (h : Runs width s c p settings q) :
    Validator.refusal? ⟨settings, p.trouble⟩ q s.files = none := by
  cases h with
  | @validate _ workspace _ _ _ _ _ _ _ q _ _ settled _ _ resolved =>
      obtain ⟨location, hworkspace⟩ : ∃ location, workspace = Path.ofLocation location := by
        unfold settle at settled
        split at settled
        · cases settled
        · dsimp only at settled
          split at settled
          · cases settled
          · cases settled
            exact ⟨_, rfl⟩
      obtain ⟨document, _, resolved⟩ := bind_eq_ok.1 resolved
      obtain ⟨root, hroot, resolved⟩ := bind_eq_ok.1 resolved
      cases resolved
      obtain ⟨hnull, _, rfl⟩ := FileSystem.resolve_ok_iff.1 hroot
      have hnamed := @Path.hasNull_locationFrom _ s.files.base.here
        (by rw [Option.getD_some, hworkspace]; exact nofun) hnull
      have hfound (l : Location) : s.files.isLost (Path.ofLocation l) = false := by
        simp [FileSystem.isLost, Path.ofLocation]
      exact Validator.refusal?_eq_none_iff.2 fun _ =>
        ⟨_, FileSystem.resolve_ok_iff.2 ⟨hnamed, hfound _, rfl⟩⟩

/-- A command that runs a request ends with the exit code of the result, or with what keeps the
result from being reported. -/
theorem Runs.ended (h : Runs width s c p settings q) :
    let r := (Validator.conclude ⟨settings, p.trouble⟩ q s).2
    let ended := (execute width c s).2
    ended.trouble = p.trouble (.report r) ∧
      ended.exitCode = if ended.trouble = none then r.outcome.exitCode else Ended.unprepared := by
  intro r
  have hreport : Validator.trouble ⟨settings, p.trouble⟩ (.report r) = p.trouble (.report r) := rfl
  rw [h.execute_eq, runRequest, Validator.run_of_named h.named]
  cases htrouble : p.trouble (.report r) with
  | none =>
      have hdone : Validator.handOver ⟨settings, p.trouble⟩ r = .ok r := by
        rw [Validator.handOver, hreport, htrouble]
      rw [hdone]
      exact ⟨rfl, rfl⟩
  | some t =>
      have hbroken : Validator.handOver ⟨settings, p.trouble⟩ r = .error t := by
        rw [Validator.handOver, hreport, htrouble]
      rw [hbroken]
      exact ⟨rfl, rfl⟩

end Command

namespace Reporter

end Reporter

end ManifestPolicy
