import ManifestPolicy.Template.Sanitize

/-!
# One pass over a template

A pass replaces the matches of one pattern, leftmost first. What is said here
of a pass goes along the text: where the pattern fails a character stays as it
is (`replace_of_none`), and where it matches the pass goes on behind the match
(`replace_of_some`). The number that `replaceFrom` counts down is thereby done
with.

The patterns of templates have in common that they begin with two opening
braces (`Opening`), so that a pass runs over a text without an opening brace
and leaves it alone (`replace_append`). They end at closing braces, for which
they look no farther than the end of the line (`throughClose_eq_none_iff`).
-/

namespace ManifestPolicy.Template

variable {p : Pattern} {by_ cs rest : List Char}

/-! ## Going along the text -/

theorem replaceFrom_eq_drop (p : Pattern) (by_ : List Char) :
    ∀ (n : Nat) (cs : List Char), replaceFrom p by_ n cs = replace p by_ (cs.drop n) := by
  intro n
  induction n with
  | zero => intro cs; rfl
  | succ n ih =>
      intro cs
      cases cs with
      | nil => rfl
      | cons c cs => rw [replaceFrom, ih, List.drop_succ_cons]

theorem replace_nil (p : Pattern) (by_ : List Char) : replace p by_ [] = [] := rfl

theorem replace_of_none {c : Char} (h : p (c :: cs) = none) :
    replace p by_ (c :: cs) = c :: replace p by_ cs := by
  rw [replace, replaceFrom, h]
  rfl

theorem replace_of_some {c : Char} (h : p (c :: cs) = some rest) (hrest : rest <:+ cs) :
    replace p by_ (c :: cs) = by_ ++ replace p by_ rest := by
  rw [replace, replaceFrom, h]
  dsimp only
  rw [replaceFrom_eq_drop, ← List.suffix_iff_eq_drop.1 hrest]

/-! ## Where patterns match -/

theorem word_eq_some_iff {w : List Char} : word w cs = some rest ↔ cs = w ++ rest := by
  unfold word
  split
  · next h =>
      obtain ⟨after, rfl⟩ := List.isPrefixOf_iff_prefix.1 h
      rw [List.drop_left, Option.some.injEq, List.append_cancel_left_eq]
  · next h =>
      refine iff_of_false (fun e => by cases e) ?_
      rintro rfl
      exact h (List.isPrefixOf_iff_prefix.2 (List.prefix_append _ _))

theorem word_append (w rest : List Char) : word w (w ++ rest) = some rest :=
  word_eq_some_iff.2 rfl

/-- The pattern matches nothing that does not begin with opening braces. -/
def Opening (p : Pattern) : Prop :=
  ∀ ⦃cs rest : List Char⦄, p cs = some rest → ∃ after, cs = openBraces ++ after

theorem opening_value (key : List Char) : Opening (valuePattern key) := by
  intro cs rest h
  obtain ⟨after, hafter, _⟩ := Option.bind_eq_some_iff.1 h
  exact ⟨after, word_eq_some_iff.1 hafter⟩

theorem opening_include : Opening includePattern := by
  intro cs rest h
  obtain ⟨after, hafter, _⟩ := Option.bind_eq_some_iff.1 h
  exact ⟨after, word_eq_some_iff.1 hafter⟩

theorem opening_expression : Opening expressionPattern := by
  intro cs rest h
  obtain ⟨after, hafter, _⟩ := Option.bind_eq_some_iff.1 h
  exact ⟨after, word_eq_some_iff.1 hafter⟩

theorem expressionPattern_open (cs : List Char) :
    expressionPattern (openBraces ++ cs) = throughClose cs := by
  rw [expressionPattern, word_append]
  rfl

theorem Opening.eq_none (hp : Opening p)
    (h : ∀ after, cs = openBraces ++ after → p cs = none) : p cs = none := by
  cases hm : p cs with
  | none => rfl
  | some rest =>
      obtain ⟨after, hafter⟩ := hp hm
      rw [← hm]
      exact h after hafter

/-- A pass leaves a text alone that holds no opening brace. -/
theorem replace_append (hp : Opening p) (hcs : '\x7b' ∉ cs) :
    replace p by_ (cs ++ rest) = cs ++ replace p by_ rest := by
  induction cs with
  | nil => rfl
  | cons c cs ih =>
      rw [List.mem_cons, not_or] at hcs
      have hnone : p (c :: (cs ++ rest)) = none := by
        refine hp.eq_none fun after e => ?_
        injection e with e _
        exact absurd e.symm hcs.1
      rw [List.cons_append, replace_of_none hnone, ih hcs.2, List.cons_append]

/-! ## Closing braces -/

theorem throughClose_cons {c : Char} (h : c = '\x7d' → cs.head? ≠ some '\x7d') :
    throughClose (c :: cs) = if c = '\n' then none else throughClose cs := by
  rw [throughClose]
  rintro rest rfl rfl
  exact h rfl rfl

/-- What follows closing braces is what is left of the text. -/
theorem suffix_of_throughClose (h : throughClose cs = some rest) : rest <:+ cs := by
  induction cs using throughClose.induct with
  | case1 => cases h
  | case2 after =>
      rw [throughClose] at h
      injection h with h
      rw [← h]
      exact ⟨closeBraces, rfl⟩
  | case3 cs hne =>
      rw [throughClose, if_pos rfl] at h
      · cases h
      · exact hne
  | case4 c cs hne hc ih =>
      rw [throughClose, if_neg hc] at h
      · exact (ih h).trans (List.suffix_cons c cs)
      · exact hne

/-- Closing braces behind a text without a closing brace, on its line. -/
theorem throughClose_append (hclose : '\x7d' ∉ cs) (hline : '\n' ∉ cs) :
    throughClose (cs ++ closeBraces ++ rest) = some rest := by
  induction cs with
  | nil => rfl
  | cons c cs ih =>
      rw [List.mem_cons, not_or] at hclose hline
      rw [List.cons_append, List.cons_append, throughClose_cons fun e => absurd e.symm hclose.1,
        if_neg (Ne.symm hline.1)]
      exact ih hclose.2 hline.2

/-- There are no closing braces to be found if and only if all that are there
stand on later lines. -/
theorem throughClose_eq_none_iff :
    throughClose cs = none ↔ ∀ front after, cs = front ++ closeBraces ++ after → '\n' ∈ front := by
  induction cs using throughClose.induct with
  | case1 => exact iff_of_true rfl fun front after e => by simp [closeBraces] at e
  | case2 after =>
      exact iff_of_false (by simp [throughClose]) fun h => by simpa using h [] after rfl
  | case3 cs hne =>
      rw [throughClose, if_pos rfl]
      · refine iff_of_true rfl fun front after e => ?_
        cases front with
        | nil => injection e with e _; exact absurd e (by decide)
        | cons d front => injection e with e _; rw [← e]; exact List.mem_cons_self
      · exact hne
  | case4 c cs hne hc ih =>
      rw [throughClose, if_neg hc, ih]
      · constructor
        · intro h front after e
          cases front with
          | nil => injection e with e e'; exact (hne after e e').elim
          | cons d front => injection e with _ e; exact List.mem_cons_of_mem _ (h front after e)
        · intro h front after e
          have hmem := h (c :: front) after (by rw [e]; rfl)
          exact (List.mem_cons.1 hmem).resolve_left (Ne.symm hc)
      · exact hne

end ManifestPolicy.Template
