import Mathlib.Data.List.TakeWhile
import ManifestPolicy.Proofs.Replacement

/-!
# Templates in pieces

A template can be seen as pieces: texts, and expressions between them. Making
it plain is a matter of the single piece then: a text stays, and an expression
becomes the text for the first of the known values that it names, or the text
for an inclusion, or nothing (`sanitize_assemble`).

The passes do not see the pieces. They run over the whole text, each over what
the one before it has left. But when no text holds a brace and no expression
holds one inside, each pattern matches expressions as wholes and picks them by
what stands between the braces (`Pattern.Picks`). A pass then works piece by
piece (`replace_assemble`), and since what it puts in holds no brace either,
so does the next one.
-/

namespace ManifestPolicy.Template

open Text

/-! ## Blanks -/

section Blanks

variable {before after cs : List Char}

theorem dropBlank_append (h : before.all isBlank = true) :
    dropBlank (before ++ cs) = dropBlank cs :=
  List.dropWhile_append_of_pos (List.all_eq_true.1 h)

theorem dropBlank_cons {c : Char} (h : isBlank c = false) : dropBlank (c :: cs) = c :: cs :=
  List.dropWhile_cons_of_neg (by simp [h])

/-- A word behind blanks, which is found if it does not begin with a blank
itself. -/
theorem word_dropBlank_iff {w : List Char} (hw : w.head?.all isBlank = false)
    (cs rest : List Char) :
    word w (dropBlank cs) = some rest ↔
      ∃ before, cs = before ++ w ++ rest ∧ before.all isBlank = true := by
  rw [word_eq_some_iff]
  constructor
  · intro h
    refine ⟨cs.takeWhile isBlank, ?_, List.all_takeWhile⟩
    rw [List.append_assoc, ← h]
    exact List.takeWhile_append_dropWhile.symm
  · rintro ⟨before, rfl, hbefore⟩
    rw [List.append_assoc, dropBlank_append hbefore]
    cases w with
    | nil => cases hw
    | cons c w => exact dropBlank_cons (by simpa using hw)

theorem not_mem_of_blank {c : Char} (hc : isBlank c = false) (h : before.all isBlank = true) :
    c ∉ before := by
  intro hmem
  rw [List.all_eq_true.1 h c hmem] at hc
  cases hc

end Blanks

/-! ## What an expression says -/

/-- What stands between the braces is the value with the key, with blanks
around it at most. -/
def NamesValue (key body : List Char) : Prop :=
  ∃ before after, body = before ++ (".Values.".toList ++ key) ++ after ∧
    before.all isBlank = true ∧ after.all isBlank = true

/-- The text begins with an inclusion, up to the quote that opens the name and
the given rest. -/
def Including (cs rest : List Char) : Prop :=
  ∃ before between, cs = before ++ "include".toList ++ between ++ ['"'] ++ rest ∧
    before.all isBlank = true ∧ between.all isBlank = true

/-- The text begins with an inclusion. -/
def Includes (cs : List Char) : Prop := ∃ rest, Including cs rest

variable {key body cs rest after : List Char}

theorem namesValue_iff : NamesValue key body ↔
    ∃ after, word (".Values.".toList ++ key) (dropBlank body) = some after ∧
      after.all isBlank = true := by
  have hword (after : List Char) := word_dropBlank_iff
    (w := ".Values.".toList ++ key) rfl body after
  simp only [NamesValue, hword]
  grind

/-- What stands behind the quote that opens the name in an inclusion. -/
def includedName : Pattern := fun cs => do
  let rest ← word "include".toList (dropBlank cs)
  word ['"'] (dropBlank rest)

theorem including_iff : Including cs rest ↔ includedName cs = some rest := by
  have hword (after : List Char) := word_dropBlank_iff
    (w := "include".toList) rfl cs after
  have hquote (after : List Char) := word_dropBlank_iff
    (w := ['"']) (by decide) after rest
  simp only [Including, includedName, Option.bind_eq_bind, Option.bind_eq_some_iff, hword, hquote]
  constructor
  · rintro ⟨before, between, rfl, hbefore, hbetween⟩
    exact ⟨between ++ ['"'] ++ rest, ⟨before, by simp, hbefore⟩, between, rfl, hbetween⟩
  · rintro ⟨after, ⟨before, rfl, hbefore⟩, between, rfl, hbetween⟩
    exact ⟨before, between, by simp, hbefore, hbetween⟩

instance (key body : List Char) : Decidable (NamesValue key body) :=
  decidable_of_iff ((word (".Values.".toList ++ key) (dropBlank body)).any (·.all isBlank) = true)
    (by rw [namesValue_iff, Option.any_eq_true])

instance (cs : List Char) : Decidable (Includes cs) :=
  decidable_of_iff ((includedName cs).isSome = true)
    (by simp only [Includes, including_iff, Option.isSome_iff_exists])

/-! ## Pieces -/

/-- A text without braces. -/
def Braceless (cs : List Char) : Prop := '\x7b' ∉ cs ∧ '\x7d' ∉ cs

instance (cs : List Char) : Decidable (Braceless cs) :=
  inferInstanceAs (Decidable ('\x7b' ∉ cs ∧ '\x7d' ∉ cs))

/-- A piece of a template. -/
inductive Piece where
  | text (cs : List Char)
  /-- An expression, by what stands between its braces. -/
  | expression (body : List Char)

namespace Piece

/-- How a piece is written. -/
def chars : Piece → List Char
  | .text cs => cs
  | .expression body => openBraces ++ body ++ closeBraces

/-- The piece holds no braces but those of an expression, an expression is on
one line, and the name in an inclusion has its closing quote. -/
def Simple : Piece → Prop
  | .text cs => Braceless cs
  | .expression body =>
    Braceless body ∧ '\n' ∉ body ∧ ∀ rest, Including body rest → '"' ∈ rest

instance : DecidablePred Simple
  | .text cs => inferInstanceAs (Decidable (Braceless cs))
  | .expression body =>
    decidable_of_iff (Braceless body ∧ '\n' ∉ body ∧ ∀ rest ∈ includedName body, '"' ∈ rest)
      (by simp only [Simple, including_iff, Option.mem_def])

end Piece

/-- The template that consists of the pieces. -/
def assemble (ps : List Piece) : List Char := ps.flatMap Piece.chars

/-- What takes the place of an expression. -/
def replacement (s : SanitizerSettings) (body : List Char) : List Char :=
  match s.placeholders.find? fun known => NamesValue known.1.toList body with
  | some known => known.2.toList
  | none => if Includes body then s.includePlaceholder.toList else []

/-- What becomes of a piece. -/
def Piece.plain (s : SanitizerSettings) : Piece → List Char
  | .text cs => cs
  | .expression body => replacement s body

/-! ## Up to the closing braces -/

/-- What holds no closing brace ends before the first one. -/
theorem exists_append_of_close {front cs' : List Char} (hfront : '\x7d' ∉ front)
    (h : front ++ cs' = cs ++ closeBraces ++ rest) :
    ∃ inner, cs = front ++ inner ∧ cs' = inner ++ closeBraces ++ rest := by
  rw [List.append_assoc] at h
  rcases List.append_eq_append_iff.1 h with ⟨inner, hcs, hcs'⟩ | ⟨inner, hf, hclose⟩
  · exact ⟨inner, hcs, by rw [hcs', List.append_assoc]⟩
  · cases inner with
    | nil =>
        rw [List.append_nil] at hf
        exact ⟨[], by rw [hf, List.append_nil], by simpa using hclose.symm⟩
    | cons c inner =>
        injection hclose with hc _
        rw [hf, ← hc] at hfront
        exact absurd (List.mem_append_right _ List.mem_cons_self) hfront

theorem eq_of_append_close {front : List Char} (hfront : '\x7d' ∉ front) (hcs : '\x7d' ∉ cs)
    (h : front ++ closeBraces ++ after = cs ++ closeBraces ++ rest) : cs = front := by
  rw [List.append_assoc] at h
  obtain ⟨inner, rfl, hclose⟩ := exists_append_of_close hfront h
  cases inner with
  | nil => exact List.append_nil front
  | cons c inner =>
      injection hclose with hc _
      rw [← hc] at hcs
      exact absurd (List.mem_append_right _ List.mem_cons_self) hcs

theorem dropBlank_close (cs rest : List Char) :
    dropBlank (cs ++ closeBraces ++ rest) = dropBlank cs ++ closeBraces ++ rest := by
  induction cs with
  | nil => exact dropBlank_cons (by decide)
  | cons c cs ih =>
      cases hc : isBlank c with
      | true =>
          rw [dropBlank, dropBlank, List.cons_append, List.cons_append,
            List.dropWhile_cons_of_pos hc, List.dropWhile_cons_of_pos hc]
          exact ih
      | false => rw [dropBlank_cons hc]; exact dropBlank_cons hc

theorem throughName_close (hquote : '"' ∈ cs) (hclose : '\x7d' ∉ cs) (hline : '\n' ∉ cs) :
    throughName (cs ++ closeBraces ++ rest) = some rest := by
  induction cs with
  | nil => cases hquote
  | cons c cs ih =>
      rw [List.mem_cons, not_or] at hclose hline
      rw [List.cons_append, List.cons_append, throughName, if_neg (Ne.symm hline.1)]
      by_cases hc : c = '"'
      · have hsub : (dropBlank cs).Sublist cs := List.dropWhile_sublist isBlank
        rw [if_pos hc, dropBlank_close, throughClose_append (fun h => hclose.2 (hsub.subset h))
          fun h => hline.2 (hsub.subset h)]
      · rw [if_neg hc]
        exact ih ((List.mem_cons.1 hquote).resolve_left (Ne.symm hc)) hclose.2 hline.2

/-! ## Picking expressions -/

/-- The pattern matches simple expressions as wholes, those whose bodies say
so, and nothing else. -/
structure Pattern.Picks (p : Pattern) (chosen : List Char → Prop) : Prop where
  opening : Opening p
  picked {body : List Char} (simple : (Piece.expression body).Simple) (chosen : chosen body)
    (rest : List Char) : p (openBraces ++ (body ++ closeBraces ++ rest)) = some rest
  passed {body : List Char} (simple : (Piece.expression body).Simple) (silent : ¬ chosen body)
    (rest : List Char) : p (openBraces ++ (body ++ closeBraces ++ rest)) = none

theorem valuePattern_open : valuePattern key (openBraces ++ cs) = some rest ↔
    ∃ before after, cs = before ++ (".Values.".toList ++ key) ++ after ++ closeBraces ++ rest ∧
      before.all isBlank = true ∧ after.all isBlank = true := by
  have hword (after : List Char) := word_dropBlank_iff
    (w := ".Values.".toList ++ key) rfl cs after
  have hclose (after : List Char) := word_dropBlank_iff
    (w := closeBraces) (by decide) after rest
  simp only [valuePattern, word_append, Option.bind_eq_bind, Option.bind_some,
    Option.bind_eq_some_iff, hword, hclose]
  constructor
  · rintro ⟨_, ⟨before, rfl, hbefore⟩, after, rfl, hafter⟩
    exact ⟨before, after, by simp, hbefore, hafter⟩
  · rintro ⟨before, after, rfl, hbefore, hafter⟩
    exact ⟨after ++ closeBraces ++ rest, ⟨before, by simp, hbefore⟩, after, rfl, hafter⟩

theorem value_picks (hkey : Braceless key) :
    Pattern.Picks (valuePattern key) (NamesValue key) where
  opening := opening_value key
  picked _ chosen rest := by
    obtain ⟨before, after, rfl, hbefore, hafter⟩ := chosen
    exact valuePattern_open.2 ⟨before, after, rfl, hbefore, hafter⟩
  passed simple silent rest := by
    refine Option.eq_none_iff_forall_ne_some.2 fun after' hm => silent ?_
    obtain ⟨before, after, hcs, hbefore, hafter⟩ := valuePattern_open.1 hm
    refine ⟨before, after, ?_, hbefore, hafter⟩
    refine eq_of_append_close ?_ simple.1.2 hcs.symm
    simp only [List.mem_append, not_or]
    exact ⟨⟨not_mem_of_blank (by decide) hbefore, by decide, hkey.2⟩,
      not_mem_of_blank (by decide) hafter⟩

theorem Including.suffix (h : Including cs rest) : rest <:+ cs := by
  obtain ⟨before, between, hcs, _⟩ := h
  exact ⟨_, hcs.symm⟩

theorem Including.append (h : Including cs rest) (more : List Char) :
    Including (cs ++ more) (rest ++ more) := by
  obtain ⟨before, between, rfl, hbefore, hbetween⟩ := h
  exact ⟨before, between, by simp, hbefore, hbetween⟩

/-- An inclusion that is found before closing braces is one in what stands
before them. -/
theorem includes_of_append_close (h : Including (cs ++ closeBraces ++ rest) after) :
    Includes cs := by
  obtain ⟨before, between, hcs, hbefore, hbetween⟩ := h
  have hfront : '\x7d' ∉ before ++ "include".toList ++ between ++ ['"'] := by
    simp only [List.mem_append, not_or]
    exact ⟨⟨⟨not_mem_of_blank (by decide) hbefore, by decide⟩,
      not_mem_of_blank (by decide) hbetween⟩, by decide⟩
  obtain ⟨inner, hcs, _⟩ := exists_append_of_close hfront hcs.symm
  exact ⟨inner, before, between, hcs, hbefore, hbetween⟩

theorem includePattern_open : includePattern (openBraces ++ cs) = some rest ↔
    ∃ after, Including cs after ∧ throughName after = some rest := by
  have hpattern : includePattern (openBraces ++ cs) = (includedName cs).bind throughName := by
    simp only [includePattern, includedName, word_append, Option.bind_eq_bind, Option.bind_some,
      Option.bind_assoc]
  simp only [hpattern, Option.bind_eq_some_iff, including_iff]

theorem include_picks : Pattern.Picks includePattern Includes where
  opening := opening_include
  picked simple chosen rest := by
    obtain ⟨name, hname⟩ := chosen
    obtain ⟨⟨_, hclose⟩, hline, hquote⟩ := simple
    have hincluding := hname.append (closeBraces ++ rest)
    rw [← List.append_assoc, ← List.append_assoc] at hincluding
    exact includePattern_open.2 ⟨_, hincluding, throughName_close (hquote name hname)
      (fun h => hclose (hname.suffix.subset h)) fun h => hline (hname.suffix.subset h)⟩
  passed simple silent rest := by
    refine Option.eq_none_iff_forall_ne_some.2 fun after hm => silent ?_
    obtain ⟨_, hincluding, _⟩ := includePattern_open.1 hm
    exact includes_of_append_close hincluding

theorem expression_picks : Pattern.Picks expressionPattern fun _ => True where
  opening := opening_expression
  picked simple _ rest := by
    rw [expressionPattern_open]
    exact throughClose_append simple.1.2 simple.2.1
  passed _ silent _ := absurd trivial silent

/-! ## Passes over pieces -/

/-- What one pass makes of a piece: it puts a text in the place of the
expressions that say so. -/
def Piece.pass (chosen : List Char → Prop) [DecidablePred chosen] (by_ : List Char) : Piece → Piece
  | .text cs => .text cs
  | .expression body => if chosen body then .text by_ else .expression body

variable {p : Pattern} {by_ : List Char} {chosen : List Char → Prop} [DecidablePred chosen]

theorem Piece.Simple.pass {x : Piece} (h : x.Simple) (hby : Braceless by_) :
    (x.pass chosen by_).Simple := by
  cases x with
  | text cs => exact h
  | expression body =>
      rw [Piece.pass]
      split
      · exact hby
      · exact h

theorem Piece.chars_append (body rest : List Char) : (Piece.expression body).chars ++ rest =
    '\x7b' :: '\x7b' :: (body ++ closeBraces ++ rest) := by
  rw [Piece.chars, List.append_assoc, List.append_assoc, List.append_assoc]
  rfl

/-- A pass comes to the end of a piece with nothing of the next one touched. -/
theorem Pattern.Picks.replace_chars (hp : Pattern.Picks p chosen) {x : Piece} (hx : x.Simple)
    (rest : List Char) :
    replace p by_ (x.chars ++ rest) = (x.pass chosen by_).chars ++ replace p by_ rest := by
  cases x with
  | text cs => exact replace_append hp.opening hx.1
  | expression body =>
      rw [Piece.pass, Piece.chars_append]
      split
      · next hchosen =>
          have hsuffix : rest <:+ '\x7b' :: (body ++ closeBraces ++ rest) :=
            (List.suffix_append _ rest).trans (List.suffix_cons _ _)
          have hmatch : p ('\x7b' :: '\x7b' :: (body ++ closeBraces ++ rest)) = some rest :=
            hp.picked hx hchosen rest
          rw [replace_of_some hmatch hsuffix]
          rfl
      · next hchosen =>
          have hfirst : p ('\x7b' :: '\x7b' :: (body ++ closeBraces ++ rest)) = none :=
            hp.passed hx hchosen rest
          -- The second of the opening braces opens nothing: no brace follows it in the
          -- body, and the closing ones are others.
          have hsecond : p ('\x7b' :: (body ++ closeBraces ++ rest)) = none := by
            refine hp.opening.eq_none fun after e => ?_
            injection e with _ e
            cases body with
            | nil => injection e with e _; exact absurd e (by decide)
            | cons c body =>
                injection e with hc _
                exact absurd (by rw [hc]; exact List.mem_cons_self) hx.1.1
          have hinner : '\x7b' ∉ body ++ closeBraces := by
            rw [List.mem_append, not_or]
            exact ⟨hx.1.1, by decide⟩
          rw [replace_of_none hfirst, replace_of_none hsecond,
            replace_append hp.opening hinner, Piece.chars_append]

/-- A pass over a template is one over its pieces. -/
theorem Pattern.Picks.replace_assemble (hp : Pattern.Picks p chosen) {ps : List Piece}
    (hps : ∀ x ∈ ps, x.Simple) :
    replace p by_ (assemble ps) = assemble (ps.map (Piece.pass chosen by_)) := by
  induction ps with
  | nil => rfl
  | cons x ps ih =>
      rw [assemble, List.flatMap_cons, hp.replace_chars (hps x List.mem_cons_self)]
      exact congrArg _ (ih fun y hy => hps y (List.mem_cons_of_mem _ hy))

/-- What the passes for known values make of a piece. -/
def Piece.valued (placeholders : List (String × String)) : Piece → Piece
  | .text cs => .text cs
  | .expression body =>
    match placeholders.find? fun known => NamesValue known.1.toList body with
    | some known => .text known.2.toList
    | none => .expression body

theorem Piece.valued_cons (known : String × String) (placeholders : List (String × String))
    (x : Piece) : (x.pass (NamesValue known.1.toList) known.2.toList).valued placeholders =
      x.valued (known :: placeholders) := by
  cases x with
  | text cs => rfl
  | expression body =>
      rw [Piece.pass, valued, List.find?_cons]
      split
      · next h => rw [decide_eq_true h]; rfl
      · next h => rw [decide_eq_false h]; rfl

theorem Piece.Simple.valued {placeholders : List (String × String)}
    (hplaceholders : ∀ known ∈ placeholders, Braceless known.2.toList) {x : Piece}
    (hx : x.Simple) : (x.valued placeholders).Simple := by
  cases x with
  | text cs => exact hx
  | expression body =>
      rw [Piece.valued]
      split
      · next hfind => exact hplaceholders _ (List.mem_of_find?_eq_some hfind)
      · exact hx

theorem replaceValues_cons (known : String × String) (placeholders : List (String × String))
    (cs : List Char) : replaceValues (known :: placeholders) cs =
      replaceValues placeholders (replace (valuePattern known.1.toList) known.2.toList cs) := rfl

/-- Each known value has its own pass, and an expression is gone after the
first one that it names. -/
theorem replaceValues_assemble {placeholders : List (String × String)}
    (hplaceholders : ∀ known ∈ placeholders,
      Braceless known.1.toList ∧ Braceless known.2.toList)
    {ps : List Piece} (hps : ∀ x ∈ ps, x.Simple) :
    replaceValues placeholders (assemble ps) = assemble (ps.map (Piece.valued placeholders)) := by
  induction placeholders generalizing ps with
  | nil =>
      have hid : Piece.valued [] = id := by
        funext x
        cases x <;> rfl
      rw [hid, List.map_id]
      rfl
  | cons known placeholders ih =>
      obtain ⟨hkey, htext⟩ := hplaceholders known List.mem_cons_self
      have hnext : ∀ x ∈ ps.map (Piece.pass (NamesValue known.1.toList) known.2.toList),
          x.Simple := by
        intro x hx
        obtain ⟨y, hy, rfl⟩ := List.mem_map.1 hx
        exact (hps y hy).pass htext
      have hrest := ih (fun k hk => hplaceholders k (List.mem_cons_of_mem _ hk)) hnext
      rw [replaceValues_cons, (value_picks hkey).replace_assemble hps, hrest, List.map_map]
      exact congrArg assemble (List.map_congr_left fun x _ => Piece.valued_cons known _ x)

/-- Neither the keys nor the texts that take the places of expressions hold a
brace. -/
structure BracelessSettings (s : SanitizerSettings) : Prop where
  values : ∀ known ∈ s.placeholders, Braceless known.1.toList ∧ Braceless known.2.toList
  inclusion : Braceless s.includePlaceholder.toList

/-- The last two passes leave no expression. -/
theorem Piece.pass_valued (s : SanitizerSettings) (x : Piece) :
    (((x.valued s.placeholders).pass Includes s.includePlaceholder.toList).pass
      (fun _ => True) []).chars = x.plain s := by
  cases x with
  | text cs => rfl
  | expression body =>
      rw [plain, replacement, valued]
      split
      · rfl
      · rw [Piece.pass]
        split <;> rfl

/-- A template of simple pieces is made plain piece by piece. -/
theorem sanitize_assemble {s : SanitizerSettings} (hs : BracelessSettings s) {ps : List Piece}
    (hps : ∀ x ∈ ps, x.Simple) :
    sanitize s (String.ofList (assemble ps)) = String.ofList (ps.flatMap (Piece.plain s)) := by
  have hvalued : ∀ x ∈ ps.map (Piece.valued s.placeholders), x.Simple := by
    intro x hx
    obtain ⟨y, hy, rfl⟩ := List.mem_map.1 hx
    exact (hps y hy).valued fun known hknown => (hs.values known hknown).2
  have hincluded : ∀ x ∈ (ps.map (Piece.valued s.placeholders)).map
      (Piece.pass Includes s.includePlaceholder.toList), x.Simple := by
    intro x hx
    obtain ⟨y, hy, rfl⟩ := List.mem_map.1 hx
    exact (hvalued y hy).pass hs.inclusion
  rw [sanitize, String.toList_ofList, sanitizeChars, replaceValues_assemble hs.values hps,
    include_picks.replace_assemble hvalued, expression_picks.replace_assemble hincluded,
    List.map_map, List.map_map, assemble, List.flatMap_map]
  exact congrArg (fun f => String.ofList (ps.flatMap f)) (funext (Piece.pass_valued s))

/-- A known value, an inclusion and another expression. -/
theorem sanitize_assemble_three :
    let ps : List Piece := [.text "a: ".toList, .expression ".Values.tag".toList,
      .expression " include \"n\" . ".toList, .text " ".toList, .expression "x".toList]
    let s : SanitizerSettings := { placeholders := [("tag", "1")] }
    BracelessSettings s ∧ (∀ x ∈ ps, x.Simple) ∧
      sanitize s (String.ofList (assemble ps)) = "a: 1default-name " := by
  intro ps s
  have hs : BracelessSettings s := ⟨by decide, by decide⟩
  have hps : ∀ x ∈ ps, x.Simple := by decide
  refine ⟨hs, hps, ?_⟩
  rw [sanitize_assemble hs hps]
  decide

end ManifestPolicy.Template
