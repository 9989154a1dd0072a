import ManifestPolicy.Proofs.EscapedText
import ManifestPolicy.Proofs.ReportRead
import ManifestPolicy.Validation.Run

/-!
# The warning about a missing renderer

A run that falls back on the plain document warns of it, and the warning names
the renderer: by one name if it is missing, by another if it is switched off.
Apart from that the wording is the same. `reworded` puts the second name in
the place of the first one, wherever the warning stands, in a notice or in a
result.

No reporter minds the difference (`Reporter.trouble_reworded`): warnings are
escaped, so it can show both of them, in whatever form, and it shows all else
as before.
-/

namespace ManifestPolicy

open Validator

/-- The warning about a renderer that is missing in the words for one that is switched off; other
texts are left alone. -/
def reworded (warning : String) : String :=
  if warning = noRenderer { enabled := true } then noRenderer { enabled := false } else warning

def Result.reworded (r : Result) : Result :=
  { r with warnings := r.warnings.map ManifestPolicy.reworded }

def Notice.reworded : Notice → Notice
  | .info text => .info text
  | .warning text => .warning (ManifestPolicy.reworded text)
  | .report r => .report r.reworded

/-! ## Reporters -/

namespace Reporter

theorem trouble_json (r : Result) :
    (Piece.print [json r]).2 = match r.toJson with
      | .ok _ => none
      | .error f => some (.mishap (.output f)) := by
  cases h : r.toJson with
  | error f =>
      rw [json, h]
      rfl
  | ok v =>
      obtain ⟨cs, _, hjson⟩ := json_eq h
      rw [hjson]
      rfl

theorem trouble_markdown (p : Reporter) (r : Result) :
    (Piece.print (p.markdown r.reworded)).2 = (Piece.print (p.markdown r)).2 := by
  unfold markdown
  dsimp only
  rw [Piece.trouble_append]
  conv_rhs => rw [Piece.trouble_append]
  refine congrArg₂ _ rfl ?_
  cases hws : r.warnings with
  | nil => simp only [Result.reworded, hws, List.map_nil]
  | cons w ws =>
      simp only [Result.reworded, hws, List.map_cons, List.isEmpty_cons, Bool.false_eq_true,
        if_false]
      rw [Piece.trouble_append]
      conv_rhs => rw [Piece.trouble_append]
      refine congrArg₂ _ rfl ?_
      exact (Piece.trouble_items p.width ((w :: ws).map ManifestPolicy.reworded)).trans
        (Piece.trouble_items p.width (w :: ws)).symm

/-- No reporter takes offence at the one wording of the warning and not at the other. -/
theorem trouble_reworded (p : Reporter) (n : Notice) : p.trouble n.reworded = p.trouble n := by
  cases n with
  | info text => rfl
  | warning text =>
      unfold trouble pieces Notice.reworded
      dsimp only
      split
      · exact (Piece.trouble_warning p.width _).trans (Piece.trouble_warning p.width _).symm
      · rfl
  | report r =>
      obtain ⟨form, width, quiet⟩ := p
      cases form with
      | table => rfl
      | json =>
          show (Piece.print [json r.reworded]).2 = (Piece.print [json r]).2
          rw [trouble_json, trouble_json]
          unfold Result.toJson
          rw [show r.reworded.outcome = r.outcome from rfl]
          cases r.outcome.reasons <;> rfl
      | markdown => exact trouble_markdown _ r

end Reporter

end ManifestPolicy
