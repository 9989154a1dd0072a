import ManifestPolicy.Proofs.PathText
import ManifestPolicy.Proofs.Replacement

/-!
# No expression is left

A template that has been made plain holds no expression on any of its lines
(`sanitize_lines`), whatever the template, the keys and the texts for them
are. The last pass alone makes sure of that. It takes expressions out, and
what stood before one then stands next to what stood behind it, so that new
pairs of braces can come into being: `}` and `}` do in `}{{x}}}`.

A closing pair may come about so, but an opening pair may not. A brace that
opens, right before an expression, would have been part of the expression,
since the leftmost match counts. So an opening pair that is left has been in
the text, at a place where the pattern did not match, and this means that no
closing pair followed on the line. Then nothing is taken out of the rest of
the line, and no closing pair comes about there either
(`throughClose_replace`).
-/

namespace ManifestPolicy

namespace Template

variable {cs rest : List Char}

/-- The text of a line holds an expression: opening braces, and closing ones
behind them. -/
def HoldsExpression (line : List Char) : Prop :=
  ∃ front body after, line = front ++ openBraces ++ body ++ closeBraces ++ after

theorem throughClose_open (cs : List Char) :
    throughClose ('\x7b' :: cs) = throughClose cs := by
  rw [throughClose_cons fun e => absurd e (by decide), if_neg (by decide)]

/-- Where no closing braces are found there is no expression. -/
theorem expressionPattern_eq_none (h : throughClose cs = none) :
    expressionPattern cs = none := by
  cases hm : expressionPattern cs with
  | none => rfl
  | some rest =>
      obtain ⟨after, rfl⟩ := opening_expression hm
      rw [expressionPattern_open] at hm
      rw [openBraces, List.cons_append, List.cons_append, List.nil_append, throughClose_open,
        throughClose_open, hm] at h
      cases h

theorem suffix_of_expressionPattern {c : Char} (h : expressionPattern (c :: cs) = some rest) :
    rest <:+ cs := by
  obtain ⟨after, hafter⟩ := opening_expression h
  rw [hafter, expressionPattern_open] at h
  injection hafter with _ hcs
  rw [hcs]
  exact (suffix_of_throughClose h).trans (List.suffix_cons _ after)

/-- At a place where it finds no match a pass keeps the character. -/
theorem head?_replace (h : expressionPattern cs = none) :
    (replace expressionPattern [] cs).head? = cs.head? := by
  cases cs with
  | nil => rfl
  | cons c cs => rw [replace_of_none h]; rfl

/-- What a pass takes out of a text does not bring about closing braces on a
line without them. -/
theorem throughClose_replace (h : throughClose cs = none) :
    throughClose (replace expressionPattern [] cs) = none := by
  induction cs with
  | nil => exact h
  | cons c cs ih =>
      rw [replace_of_none (expressionPattern_eq_none h)]
      have hpair : c = '\x7d' → cs.head? ≠ some '\x7d' := by
        rintro rfl hhead
        obtain ⟨after, rfl⟩ := List.head?_eq_some_iff.1 hhead
        rw [throughClose] at h
        cases h
      rw [throughClose_cons hpair] at h
      by_cases hc : c = '\n'
      · subst hc
        rw [throughClose_cons fun e => absurd e (by decide), if_pos rfl]
      · rw [if_neg hc] at h
        have hpair' : c = '\x7d' →
            (replace expressionPattern [] cs).head? ≠ some '\x7d' := by
          rw [head?_replace (expressionPattern_eq_none h)]
          exact hpair
        rw [throughClose_cons hpair', if_neg hc]
        exact ih h

/-- No expression begins at a character that a pass has kept. -/
theorem expressionPattern_kept {c : Char} (h : expressionPattern (c :: cs) = none) :
    expressionPattern (c :: replace expressionPattern [] cs) = none := by
  refine opening_expression.eq_none fun after hafter => ?_
  injection hafter with hc hreplaced
  subst hc
  cases hcs : expressionPattern cs with
  | none =>
      cases cs with
      | nil => cases hreplaced
      | cons d cs =>
          -- Both braces were in the text, and the pattern failed at the first one.
          rw [replace_of_none hcs] at hreplaced ⊢
          injection hreplaced with hd _
          subst hd
          exact (expressionPattern_open _).trans
            (throughClose_replace ((expressionPattern_open cs).symm.trans h))
  | some rest =>
      -- An expression behind an opening brace is one from that brace on.
      obtain ⟨inner, rfl⟩ := opening_expression hcs
      rw [expressionPattern_open] at hcs
      have hm : expressionPattern ('\x7b' :: (openBraces ++ inner)) = throughClose inner := by
        rw [← throughClose_open inner]
        exact expressionPattern_open _
      rw [hm, hcs] at h
      cases h

/-- After a pass no expression begins anywhere. -/
theorem expressionPattern_replace :
    ∀ cs after : List Char, after <:+ replace expressionPattern [] cs →
      expressionPattern after = none
  | [], after, hafter => by
      rw [replace_nil, List.suffix_nil] at hafter
      rw [hafter]
      rfl
  | c :: cs, after, hafter => by
      cases hm : expressionPattern (c :: cs) with
      | some rest =>
          have hrest := suffix_of_expressionPattern hm
          have hlt : rest.length < (c :: cs).length := Nat.lt_succ_of_le hrest.length_le
          rw [replace_of_some hm hrest, List.nil_append] at hafter
          exact expressionPattern_replace rest after hafter
      | none =>
          rw [replace_of_none hm] at hafter
          rcases List.suffix_cons_iff.1 hafter with rfl | hafter
          · exact expressionPattern_kept hm
          · exact expressionPattern_replace cs after hafter
termination_by cs => cs.length
decreasing_by
  · exact Nat.lt_succ_self _
  · exact hlt

/-- No line of a template that has been made plain holds an expression. -/
theorem sanitize_lines (s : SanitizerSettings) (text : String) :
    ∀ line ∈ Text.splitAt '\n' (sanitize s text).toList, ¬ HoldsExpression line := by
  intro line hline hholds
  rw [sanitize, String.toList_ofList] at hline
  have hnone := Text.not_mem_of_mem_splitAt hline
  obtain ⟨before, behind, htext⟩ := Text.infix_of_mem_splitAt hline
  obtain ⟨front, body, after, rfl⟩ := hholds
  have hsuffix : openBraces ++ (body ++ closeBraces ++ (after ++ behind)) <:+
      sanitizeChars s text.toList := by
    refine ⟨before ++ front, ?_⟩
    rw [← htext]
    simp only [List.append_assoc]
  have hgone := expressionPattern_replace _ _ hsuffix
  rw [expressionPattern_open] at hgone
  have hbody := throughClose_eq_none_iff.1 hgone body (after ++ behind) rfl
  exact hnone (by simp [hbody])

/-- A closing pair comes about, and there is nothing that it could close. -/
theorem sanitize_lines_closing_pair :
    "\x7d\x7d".toList ∈ Text.splitAt '\n' (sanitize {} "\x7d\x7b\x7bx\x7d\x7d\x7d\n").toList ∧
      ¬ HoldsExpression "\x7d\x7d".toList :=
  have hline : "\x7d\x7d".toList ∈
      Text.splitAt '\n' (sanitize {} "\x7d\x7b\x7bx\x7d\x7d\x7d\n").toList := by decide
  ⟨hline, sanitize_lines {} _ _ hline⟩

end Template

end ManifestPolicy
