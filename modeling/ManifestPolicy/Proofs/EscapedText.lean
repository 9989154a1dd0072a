import ManifestPolicy.Console.Print
import ManifestPolicy.Proofs.MarkupTags

/-!
# Escaped text is printed

A text that is printed is read as markup, and a closing tag in it that closes
nothing ends the printing. Escaping puts a backslash before everything that
looks like a tag, and doubles those that stand there. What looked like a tag
then has an odd number of backslashes, and is text; and nothing else comes to
look like one, because a bracket that opened no tag is followed by what it was
followed by, up to the next backslash that was put in (`parts_guarded`). The
induction is on the parts of a text, not on its characters: a tag is one step.

So an escaped text has no tags, whatever it holds, and whatever follows it as
long as that does not close a bracket (`tags_escapeChars`). It can be printed
by itself, behind text without tags, and behind a label between two tags.
-/

namespace ManifestPolicy

namespace Markup

open Text

/-! ## Escaping -/

section Escaping

variable {c : Char} {cs content tail : List Char}

/-- The text with backslashes before what looks like a tag. -/
def guarded (cs : List Char) : List Char := (parts cs).flatMap Part.escaped

theorem guarded_cons_char (h : bracket? ((c :: cs).dropWhile isBackslash) = none) :
    guarded (c :: cs) = c :: guarded cs := by
  rw [guarded, parts_cons_char h]
  rfl

theorem guarded_tagged (n : Nat) (h : IsTag content) (rest : List Char) :
    guarded (tagged n content rest) = tagged (2 * n + 1) content (guarded rest) := by
  rw [guarded, parts_tagged n h, List.flatMap_cons, Part.escaped, Part.text, tagged, guarded]
  simp

/-- The text goes on with no tag, and closes no bracket that was opened before it. -/
structure Sealed (cs : List Char) : Prop where
  until_ : untilBracket cs = none
  bracket? : bracket? (cs.dropWhile isBackslash) = none

theorem sealed_nil : Sealed [] := ⟨rfl, rfl⟩

theorem Sealed.backslash (h : Sealed tail) : Sealed ('\\' :: tail) where
  until_ := by
    rw [untilBracket, if_neg (by decide), if_neg (by decide), h.until_]
    rfl
  bracket? := h.bracket?

theorem untilBracket_backslashes (n : Nat) (cs : List Char) :
    untilBracket (List.replicate n '\\' ++ '[' :: cs) = none := by
  induction n with
  | zero => rfl
  | succ n ih =>
      rw [List.replicate_succ, List.cons_append, untilBracket, if_neg (by decide),
        if_neg (by decide), ih]
      rfl

theorem untilBracket_guarded (htail : Sealed tail) (h : untilBracket cs = none) :
    untilBracket (guarded cs ++ tail) = none := by
  induction cs using partsInduction with
  | nil => exact htail.until_
  | char c cs hchar ih =>
      rw [guarded_cons_char hchar, List.cons_append]
      rw [untilBracket] at h ⊢
      split at h
      · cases h
      next hclose =>
      rw [if_neg hclose]
      split
      · rfl
      · next hopen =>
          rw [if_neg hopen, Option.map_eq_none_iff] at h
          rw [ih h]
          rfl
  | tag n content rest htag _ =>
      rw [guarded_tagged n htag, tagged, List.append_assoc]
      exact untilBracket_backslashes _ _

/-- A bracket that what follows does not close opens no tag. -/
theorem bracket?_of_untilBracket (h : untilBracket cs = none) : bracket? ('[' :: cs) = none := by
  cases cs with
  | nil => rfl
  | cons c cs =>
      change (if opensTag c then (untilBracket cs).map _ else none) = none
      split
      · next hc =>
          have hclose : c ≠ ']' := by
            rintro rfl
            revert hc
            decide
          have hopen : c ≠ '[' := by
            rintro rfl
            revert hc
            decide
          rw [untilBracket, if_neg hclose, if_neg hopen, Option.map_eq_none_iff] at h
          rw [h]
          rfl
      · rfl

/-- What looked like no tag does not come to look like one. -/
theorem bracket?_guarded (htail : Sealed tail) (h : bracket? (cs.dropWhile isBackslash) = none) :
    bracket? ((guarded cs ++ tail).dropWhile isBackslash) = none := by
  induction cs using partsInduction with
  | nil => exact htail.bracket?
  | tag n content rest htag _ =>
      rw [bracket?_tagged n htag] at h
      cases h
  | char c cs hchar ih =>
      rw [guarded_cons_char hchar, List.cons_append]
      by_cases hslash : c = '\\'
      · rw [List.dropWhile_cons_of_pos (by simp [hslash])] at h ⊢
        exact ih h
      rw [List.dropWhile_cons_of_neg (by simpa using hslash)] at h ⊢
      by_cases hopen : c = '['
      · subst hopen
        -- What follows the bracket is what followed it, up to the next tag.
        cases cs using partsInduction with
        | nil => exact bracket?_of_untilBracket htail.until_
        | char d cs hchar' _ =>
            rw [guarded_cons_char hchar', List.cons_append]
            change (if opensTag d then (untilBracket _).map _ else none) = none
            change (if opensTag d then (untilBracket _).map _ else none) = none at h
            split
            · next hd =>
                rw [if_pos hd, Option.map_eq_none_iff] at h
                rw [untilBracket_guarded htail h]
                rfl
            · rfl
        | tag n content rest htag _ =>
            rw [guarded_tagged n htag]
            rfl
      · exact bracket?_of_ne hopen

/-- The part when it is escaped. -/
def Part.guarded : Part → Part
  | .char c => .char c
  | .bracket n content => .bracket (2 * n + 1) content

/-- The parts of an escaped text are those of the text, escaped. -/
theorem parts_guarded (htail : Sealed tail) (cs : List Char) :
    parts (guarded cs ++ tail) = (parts cs).map Part.guarded ++ parts tail := by
  induction cs using partsInduction with
  | nil => rfl
  | char c cs hchar ih =>
      have hnone := bracket?_guarded htail hchar
      rw [guarded_cons_char hchar, List.cons_append] at hnone
      rw [guarded_cons_char hchar, parts_cons_char hchar, List.cons_append,
        parts_cons_char hnone, ih]
      rfl
  | tag n content rest htag ih =>
      have happend : tagged (2 * n + 1) content (guarded rest) ++ tail =
          tagged (2 * n + 1) content (guarded rest ++ tail) := by simp [tagged]
      rw [guarded_tagged n htag, happend, parts_tagged _ htag, parts_tagged n htag, ih]
      rfl

theorem tagsOf_guarded (ps : List Part) : tagsOf (ps.map Part.guarded) = [] := by
  refine List.filterMap_eq_nil_iff.2 fun p hp => ?_
  obtain ⟨q, _, rfl⟩ := List.mem_map.1 hp
  cases q with
  | char c => rfl
  | bracket n content => rw [Part.guarded, Part.tag?, if_pos (by omega)]

/-- An escaped text has no tags. -/
theorem tags_escapeChars (cs : List Char) (htail : Sealed tail) :
    tags (escapeChars cs ++ tail) = tags tail := by
  have hguarded {rest : List Char} (hrest : Sealed rest) :
      tags (guarded cs ++ rest) = tags rest := by
    rw [tags, parts_guarded hrest, tagsOf, List.filterMap_append, ← tagsOf, tagsOf_guarded]
    rfl
  unfold escapeChars
  dsimp only
  split
  · rw [List.append_assoc, List.singleton_append]
    exact (hguarded htail.backslash).trans (tags_cons_char htail.bracket?)
  · exact hguarded htail

theorem tags_escape (s : String) : tags (escape s).toList = [] := by
  have h := tags_escapeChars s.toList sealed_nil
  rw [List.append_nil] at h
  rw [escape, String.toList_ofList, h]
  rfl

end Escaping

end Markup

namespace Piece

open Markup

variable {width : Nat} {s text : String}

theorem trouble_append (ps qs : List Piece) :
    (print (ps ++ qs)).2 = (print ps).2.or (print qs).2 := by
  induction ps with
  | nil => rfl
  | cons p ps ih =>
      cases p with
      | error t => rfl
      | ok cs => exact ih

theorem exists_rendered {cs : List Char} : (∃ out, rendered cs = .ok out) ↔ Markup.Balanced cs := by
  rw [← exists_render, rendered]
  cases render cs with
  | error f => exact iff_of_false (fun ⟨_, h⟩ => nomatch h) (fun ⟨_, h⟩ => nomatch h)
  | ok out => exact iff_of_true ⟨out, rfl⟩ ⟨out, rfl⟩

/-- A marked-up text can be printed if its tags close only what they opened. -/
theorem trouble_marked : (print [marked width s]).2 = none ↔ Markup.Balanced s.toList := by
  rw [← exists_rendered, marked]
  cases rendered s.toList with
  | error t => exact iff_of_false nofun (fun ⟨_, h⟩ => nomatch h)
  | ok out => exact iff_of_true rfl ⟨out, rfl⟩

/-- Whether a text behind a label between tags can be printed is up to the text. -/
theorem trouble_labelled {label : String} (tag word : List Char) (htag : IsWord tag)
    (hword : Plain word) (hlabel : label.toList = labelled tag word [' ']) :
    (print [marked width (label ++ text)]).2 = none ↔ Markup.Balanced text.toList := by
  have hspace : Plain [' '] := by decide
  rw [trouble_marked, String.toList_append, hlabel, labelled_append,
    balanced_labelled htag hword, balanced_append hspace]

theorem trouble_error (width : Nat) (text : String) :
    (print [marked width ("[red]Error:[/red] " ++ escape text)]).2 = none :=
  (trouble_labelled "red".toList "Error:".toList (by decide +kernel) (by decide +kernel) rfl).2
    (balanced_of_tags (tags_escape text))

theorem trouble_warning (width : Nat) (text : String) :
    (print [marked width ("[yellow]Warning:[/yellow] " ++ escape text)]).2 = none :=
  (trouble_labelled "yellow".toList "Warning:".toList (by decide +kernel) (by decide +kernel)
    rfl).2 (balanced_of_tags (tags_escape text))

theorem trouble_item (width : Nat) (text : String) :
    (print [marked width ("- " ++ escape text)]).2 = none := by
  have hplain : Plain "- ".toList := by decide +kernel
  rw [trouble_marked, String.toList_append, balanced_append hplain]
  exact balanced_of_tags (tags_escape text)

theorem trouble_items (width : Nat) (texts : List String) :
    (print (texts.map fun text => marked width ("- " ++ escape text))).2 = none := by
  induction texts with
  | nil => rfl
  | cons text texts ih =>
      rw [List.map_cons, ← List.singleton_append, trouble_append, ih, trouble_item]
      rfl

end Piece

end ManifestPolicy
