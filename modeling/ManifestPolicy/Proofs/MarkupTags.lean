import ManifestPolicy.Console.Markup
import ManifestPolicy.Proofs.Outcome

/-!
# The tags of a text

A text that is printed falls into parts: characters, and what looks like a tag,
with the backslashes before it. Only with an even number of backslashes it is a
tag. Where a tag stands does not matter for what it does: it opens something,
or it closes what is open, and a closing tag that finds nothing to close ends
the printing. So a text can be printed exactly if its tags, taken by themselves
and in their order, close only what they opened (`exists_render`). Nothing
needs to be closed in the end. What is open depends on the names that a style
can have; but a text without tags closes nothing (`balanced_of_tags`), and a
first tag that closes finds nothing to close (`not_balanced_of_closesFirst`).

The tags of a text that is put together are those of its pieces
(`tags_append`, `tags_labelled`), as long as no piece ends in the middle of
something that looks like a tag.
-/

namespace ManifestPolicy.Markup

open Text

/-! ## The parts of a text -/

section Parts

variable {c : Char} {n fuel : Nat} {cs rest content tail : List Char}

/-- Whether the character is the one that tags are escaped with. -/
abbrev isBackslash (c : Char) : Bool := decide (c = '\\')

/-- What stands between the brackets of something that looks like a tag. -/
def IsTag (content : List Char) : Prop :=
  (∃ c rest, content = c :: rest ∧ opensTag c = true) ∧ ∀ c ∈ content, c ≠ '[' ∧ c ≠ ']'

theorem untilBracket_eq_some : untilBracket cs = some (content, rest) ↔
    cs = content ++ ']' :: rest ∧ ∀ c ∈ content, c ≠ '[' ∧ c ≠ ']' := by
  induction cs generalizing content with
  | nil => simp [untilBracket]
  | cons c cs ih =>
      cases content with
      | nil =>
          rw [untilBracket]
          split
          · next hc => simp [hc]
          · next hc =>
              split <;> simp [hc]
      | cons d content =>
          rw [List.forall_mem_cons, List.cons_append, List.cons.injEq, untilBracket]
          split
          · next hc =>
              refine iff_of_false (by simp) ?_
              rintro ⟨⟨rfl, _⟩, ⟨_, hd⟩, _⟩
              exact hd hc
          next hclose =>
          split
          · next hc =>
              refine iff_of_false (by simp) ?_
              rintro ⟨⟨rfl, _⟩, ⟨hd, _⟩, _⟩
              exact hd hc
          next hopen =>
          rw [Option.map_eq_some_iff]
          constructor
          · rintro ⟨⟨content, rest⟩, hp, h⟩
            cases h
            obtain ⟨rfl, hcontent⟩ := ih.1 hp
            exact ⟨⟨rfl, rfl⟩, ⟨hopen, hclose⟩, hcontent⟩
          · rintro ⟨⟨rfl, rfl⟩, _, hcontent⟩
            exact ⟨_, ih.2 ⟨rfl, hcontent⟩, rfl⟩

theorem bracket?_eq_some : bracket? cs = some (content, rest) ↔
    cs = '[' :: (content ++ ']' :: rest) ∧ IsTag content := by
  constructor
  · intro h
    unfold bracket? at h
    split at h
    · next c more =>
        obtain ⟨hc, h⟩ := Option.ite_none_right_eq_some.1 h
        obtain ⟨⟨content, rest⟩, hp, hpair⟩ := Option.map_eq_some_iff.1 h
        cases hpair
        obtain ⟨rfl, hcontent⟩ := untilBracket_eq_some.1 hp
        refine ⟨rfl, ⟨c, content, rfl, hc⟩, List.forall_mem_cons.2 ⟨?_, hcontent⟩⟩
        constructor <;> rintro rfl <;> revert hc <;> decide
    · cases h
  · rintro ⟨rfl, ⟨c, more, rfl, hc⟩, hcontent⟩
    rw [List.cons_append, bracket?, if_pos hc,
      untilBracket_eq_some.2 ⟨rfl, (List.forall_mem_cons.1 hcontent).2⟩]
    rfl

theorem bracket?_of_ne (hc : c ≠ '[') : bracket? (c :: cs) = none := by
  unfold bracket?
  split
  · next h => exact absurd (List.cons.inj h).1 hc
  · rfl

theorem dropWhile_backslashes (n : Nat) (cs : List Char) :
    (List.replicate n '\\' ++ cs).dropWhile isBackslash = cs.dropWhile isBackslash :=
  List.dropWhile_append_of_pos fun c hc => by simp [List.eq_of_mem_replicate hc]

theorem takeWhile_backslashes (n : Nat) (hc : c ≠ '\\') :
    (List.replicate n '\\' ++ c :: cs).takeWhile isBackslash = List.replicate n '\\' := by
  rw [List.takeWhile_append_of_pos fun c hc => by simp [List.eq_of_mem_replicate hc],
    List.takeWhile_cons_of_neg (by simp [hc]), List.append_nil]

theorem drop_backslashes (cs : List Char) :
    cs.drop (cs.takeWhile isBackslash).length = cs.dropWhile isBackslash := by
  have h : cs.takeWhile isBackslash ++ cs.dropWhile isBackslash = cs :=
    List.takeWhile_append_dropWhile
  exact (congrArg (List.drop _) h.symm).trans List.drop_left

/-- Something that looks like a tag, with the backslashes before it. -/
def tagged (n : Nat) (content rest : List Char) : List Char :=
  List.replicate n '\\' ++ '[' :: (content ++ ']' :: rest)

theorem bracket?_tagged (n : Nat) (h : IsTag content) (rest : List Char) :
    bracket? ((tagged n content rest).dropWhile isBackslash) = some (content, rest) := by
  rw [tagged, dropWhile_backslashes, List.dropWhile_cons_of_neg (by decide)]
  exact bracket?_eq_some.2 ⟨rfl, h⟩

theorem tagged_of_bracket? (h : bracket? (cs.dropWhile isBackslash) = some (content, rest)) :
    cs = tagged (cs.takeWhile isBackslash).length content rest ∧ IsTag content := by
  obtain ⟨hcs, htag⟩ := bracket?_eq_some.1 h
  refine ⟨?_, htag⟩
  have hslashes : cs.takeWhile isBackslash =
      List.replicate (cs.takeWhile isBackslash).length '\\' := by
    refine List.eq_replicate_iff.2 ⟨rfl, fun c hc => ?_⟩
    simpa using List.all_eq_true.1 List.all_takeWhile c hc
  rw [tagged, ← hslashes, ← hcs]
  exact List.takeWhile_append_dropWhile.symm

theorem length_rest_lt (n : Nat) (content rest : List Char) :
    rest.length < (tagged n content rest).length := by
  simp only [tagged, List.length_append, List.length_cons]
  omega

theorem partsWithin_cons (fuel : Nat) (c : Char) (cs : List Char) :
    partsWithin (fuel + 1) (c :: cs) =
      match bracket? ((c :: cs).dropWhile isBackslash) with
      | some (content, rest) =>
        .bracket ((c :: cs).takeWhile isBackslash).length content :: partsWithin fuel rest
      | none => .char c :: partsWithin fuel cs := by
  rw [← drop_backslashes]
  rfl

/-- More fuel than characters makes no difference. -/
theorem partsWithin_of_le (h : cs.length ≤ fuel) : partsWithin fuel cs = parts cs := by
  unfold parts
  generalize hfuel' : cs.length = fuel'
  have hle' : cs.length ≤ fuel' := Nat.le_of_eq hfuel'
  clear hfuel'
  induction fuel generalizing fuel' cs with
  | zero =>
      obtain rfl := List.eq_nil_of_length_eq_zero (Nat.le_zero.1 h)
      cases fuel' <;> rfl
  | succ fuel ih =>
      cases cs with
      | nil => cases fuel' <;> rfl
      | cons c cs =>
          cases fuel' with
          | zero => cases hle'
          | succ fuel' =>
              rw [partsWithin_cons, partsWithin_cons]
              cases htag : bracket? ((c :: cs).dropWhile isBackslash) with
              | none =>
                  have hfuel := Nat.le_of_succ_le_succ hle'
                  exact congrArg _ (ih (Nat.le_of_succ_le_succ h) fuel' hfuel)
              | some p =>
                  have hlt := length_rest_lt ((c :: cs).takeWhile isBackslash).length p.1 p.2
                  rw [← (tagged_of_bracket? htag).1] at hlt
                  refine congrArg _ (ih ?_ fuel' ?_)
                  · exact Nat.le_of_lt_succ (Nat.lt_of_lt_of_le hlt h)
                  · exact Nat.le_of_lt_succ (Nat.lt_of_lt_of_le hlt hle')

theorem parts_cons_char (h : bracket? ((c :: cs).dropWhile isBackslash) = none) :
    parts (c :: cs) = .char c :: parts cs := by
  rw [parts, List.length_cons, partsWithin_cons, h]
  rfl

theorem parts_tagged (n : Nat) (h : IsTag content) (rest : List Char) :
    parts (tagged n content rest) = .bracket n content :: parts rest := by
  have hcount : ((tagged n content rest).takeWhile isBackslash).length = n := by
    rw [tagged, takeWhile_backslashes n (by decide), List.length_replicate]
  have hlt := length_rest_lt n content rest
  have hbracket := bracket?_tagged n h rest
  rw [parts]
  generalize tagged n content rest = cs at hcount hlt hbracket ⊢
  cases cs with
  | nil => cases hlt
  | cons c cs =>
      rw [List.length_cons, partsWithin_cons, hbracket]
      dsimp only
      rw [hcount, partsWithin_of_le (Nat.le_of_lt_succ hlt)]

/-- A text is empty, begins with a character that belongs to no tag, or begins with a tag. -/
theorem partsInduction {motive : List Char → Prop} (nil : motive [])
    (char : ∀ c cs, bracket? ((c :: cs).dropWhile isBackslash) = none → motive cs →
      motive (c :: cs))
    (tag : ∀ n content rest, IsTag content → motive rest → motive (tagged n content rest))
    (cs : List Char) : motive cs := by
  match cs with
  | [] => exact nil
  | c :: cs =>
      cases htag : bracket? ((c :: cs).dropWhile isBackslash) with
      | none => exact char c cs htag (partsInduction nil char tag cs)
      | some p =>
          obtain ⟨hcs, hcontent⟩ := tagged_of_bracket? htag
          have hlt : p.2.length < (c :: cs).length := by
            rw [hcs]
            exact length_rest_lt ..
          rw [hcs]
          exact tag _ _ _ hcontent (partsInduction nil char tag p.2)
termination_by cs.length
decreasing_by
  · exact Nat.lt_succ_self _
  · exact hlt

end Parts

/-! ## The tags of a text -/

section Tags

variable {c : Char} {cs ds content tag label : List Char} {stack stack' : List (List Char)}
  {ts : List (List Char)} {ps : List Part} {position : Nat}

/-- The tag that a part is; what is escaped is no tag. -/
def Part.tag? : Part → Option (List Char)
  | .char _ => none
  | .bracket n content => if n % 2 = 1 then none else some content

/-- The tags among some parts. -/
def tagsOf (ps : List Part) : List (List Char) := ps.filterMap Part.tag?

/-- The tags of a text. -/
def tags (cs : List Char) : List (List Char) := tagsOf (parts cs)

/-- What is open behind some tags, the innermost first, unless one of them finds nothing to
close. -/
def opened? : List (List Char) → List (List Char) → Option (List (List Char))
  | stack, [] => some stack
  | stack, tag :: ts =>
    match applyTag tag 0 stack with
    | .ok stack => opened? stack ts
    | .error _ => none

/-- The tags of the text close only what they opened. -/
def Balanced (cs : List Char) : Prop := (opened? [] (tags cs)).isSome = true

instance : DecidablePred Balanced := fun cs =>
  inferInstanceAs (Decidable ((opened? [] (tags cs)).isSome = true))

/-- The place of a tag is only for the wording of its fault. -/
theorem applyTag_eq_ok (position' : Nat) (h : applyTag content position stack = .ok stack') :
    applyTag content position' stack = .ok stack' := by
  unfold applyTag at h ⊢
  dsimp only at h ⊢
  split at h
  · split at h
    · next hblank =>
        rw [if_pos hblank]
        cases stack with
        | nil => cases h
        | cons top stack => exact h
    · next hblank =>
        rw [if_neg hblank]
        split at h
        · exact h
        · cases h
  · exact h

/-- What is rendered before does not matter for whether the rest is. -/
theorem exists_behind {x : Except Fault (List Char)} (before : List Char) :
    (∃ out, (x >>= fun cs => .ok (before ++ cs)) = .ok out) ↔ ∃ out, x = .ok out := by
  cases x with
  | error f => exact iff_of_false (fun ⟨_, h⟩ => nomatch h) (fun ⟨_, h⟩ => nomatch h)
  | ok cs => exact iff_of_true ⟨_, rfl⟩ ⟨cs, rfl⟩

/-- Parts are rendered if their tags close only what is open. -/
theorem exists_renderParts (position : Nat) (stretch : List Char) :
    (∃ out, renderParts position stretch stack ps = .ok out) ↔
      (opened? stack (tagsOf ps)).isSome = true := by
  induction ps generalizing position stretch stack with
  | nil => exact iff_of_true ⟨_, rfl⟩ rfl
  | cons p ps ih =>
      cases p with
      | char c => exact ih (position + 1) (c :: stretch)
      | bracket n content =>
          rw [renderParts]
          by_cases hn : n % 2 = 1
          · rw [if_pos hn, tagsOf, List.filterMap_cons_none (by rw [Part.tag?, if_pos hn]), ← tagsOf]
            exact (exists_behind _).trans (ih _ [])
          rw [if_neg hn, tagsOf, List.filterMap_cons_some (by rw [Part.tag?, if_neg hn]), ← tagsOf,
            opened?]
          cases htag : applyTag content 0 stack with
          | error f =>
              refine iff_of_false (fun ⟨_, h⟩ => ?_) nofun
              obtain ⟨stack', h, _⟩ := bind_eq_ok.1 h
              rw [applyTag_eq_ok 0 h] at htag
              cases htag
          | ok stack' =>
              rw [applyTag_eq_ok (position + n) htag]
              exact (exists_behind _).trans (ih _ [])

/-- A text can be printed if its tags close only what they opened. -/
theorem exists_render : (∃ out, render cs = .ok out) ↔ Balanced cs := exists_renderParts 0 []

theorem balanced_of_tags (h : tags cs = []) : Balanced cs := by
  rw [Balanced, h]
  rfl

/-- The first tag of the text is a closing one. -/
def ClosesFirst (cs : List Char) : Prop := ∃ name ts, tags cs = ('/' :: name) :: ts

/-- Before the first tag nothing is open that it could close. -/
theorem not_balanced_of_closesFirst (h : ClosesFirst cs) : ¬ Balanced cs := by
  obtain ⟨name, ts, htags⟩ := h
  have hfault : ∃ f, applyTag ('/' :: name) 0 [] = .error f := by
    unfold applyTag
    dsimp only
    rw [List.takeWhile_cons_of_pos (by decide)]
    split
    · split <;> exact ⟨_, rfl⟩
    · next hother => exact absurd rfl (hother _)
  obtain ⟨f, hf⟩ := hfault
  rw [Balanced, htags, opened?, hf]
  exact Bool.false_ne_true

/-! ### Texts that are put together -/

theorem tags_cons_char (h : bracket? ((c :: cs).dropWhile isBackslash) = none) :
    tags (c :: cs) = tags cs := by
  rw [tags, parts_cons_char h]
  rfl

theorem tags_tagged (h : IsTag content) (rest : List Char) :
    tags (tagged 0 content rest) = content :: tags rest := by
  rw [tags, parts_tagged 0 h]
  rfl

theorem bracket?_eq_none (h : '[' ∉ cs) : bracket? (cs.dropWhile isBackslash) = none := by
  refine Option.eq_none_iff_forall_ne_some.2 fun p hp => h ?_
  rw [(tagged_of_bracket? hp).1]
  simp [tagged]

/-- Without an opening bracket there is no tag. -/
theorem tags_of_not_mem (h : '[' ∉ cs) : tags cs = [] := by
  induction cs with
  | nil => rfl
  | cons c cs ih =>
      rw [tags_cons_char (bracket?_eq_none h)]
      exact ih fun hc => h (List.mem_cons_of_mem c hc)

/-- There is no tag in the text, and nothing that escapes one. -/
def Plain (cs : List Char) : Prop := ∀ c ∈ cs, c ≠ '[' ∧ c ≠ '\\'

instance : DecidablePred Plain := fun cs => List.decidableBAll (fun c => c ≠ '[' ∧ c ≠ '\\') cs

theorem tags_append (h : Plain cs) (ds : List Char) : tags (cs ++ ds) = tags ds := by
  induction cs with
  | nil => rfl
  | cons c cs ih =>
      obtain ⟨hc, hcs⟩ := List.forall_mem_cons.1 h
      have hnone : bracket? ((c :: (cs ++ ds)).dropWhile isBackslash) = none := by
        rw [List.dropWhile_cons_of_neg (by simpa using hc.2)]
        exact bracket?_of_ne hc.1
      rw [List.cons_append, tags_cons_char hnone, ih hcs]

theorem balanced_append (h : Plain cs) : Balanced (cs ++ ds) ↔ Balanced ds := by
  rw [Balanced, Balanced, tags_append h]

/-! ### Labels -/

/-- A word of small letters, as the names of colours are. -/
def IsWord (tag : List Char) : Prop := tag ≠ [] ∧ ∀ c ∈ tag, 'a' ≤ c ∧ c ≤ 'z'

instance : DecidablePred IsWord := fun tag =>
  letI := List.decidableBAll (fun c => 'a' ≤ c ∧ c ≤ 'z') tag
  inferInstanceAs (Decidable (tag ≠ [] ∧ _))

theorem isBlank_of_letter (h : 'a' ≤ c ∧ c ≤ 'z') : isBlank c = false := by
  have hlow : 97 ≤ c.toNat := h.1
  have hhigh : c.toNat ≤ 122 := h.2
  rw [isBlank, Ranges.has, blanks, Ranges.hasCode, if_neg (by omega), Ranges.hasCode,
    if_neg (by omega), Ranges.hasCode, if_pos (by omega), Bool.or_false, Bool.or_eq_false_iff,
    decide_eq_false_iff_not, decide_eq_false_iff_not]
  omega

theorem strip_of_forall (h : ∀ c ∈ cs, isBlank c = false) : strip cs = cs := by
  have hself {ds : List Char} (hds : ∀ c ∈ ds, isBlank c = false) : ds.dropWhile isBlank = ds := by
    cases ds with
    | nil => rfl
    | cons d ds => exact List.dropWhile_cons_of_neg (by simp [hds d List.mem_cons_self])
  rw [strip, dropBlank, hself h, dropBlankEnd,
    hself fun c hc => h c (List.mem_reverse.1 hc), List.reverse_reverse]

theorem IsWord.isTag (h : IsWord tag) : IsTag tag := by
  obtain ⟨hne, hletters⟩ := h
  obtain ⟨c, rest, rfl⟩ := List.exists_cons_of_ne_nil hne
  have hc := hletters c List.mem_cons_self
  refine ⟨⟨c, rest, rfl, by simp [opensTag, hc]⟩, fun d hd => ?_⟩
  have hd := hletters d hd
  constructor <;> rintro rfl <;> revert hd <;> decide

/-- A word opens something, and its closing tag closes that. -/
theorem opened?_word (h : IsWord tag) :
    opened? stack (tag :: ('/' :: tag) :: ts) = opened? stack ts := by
  have hequals : tag.takeWhile (· ≠ '=') = tag := by
    rw [← List.append_nil tag, List.takeWhile_append_of_pos fun c hc => ?_]
    · rfl
    · have hc := h.2 c hc
      rw [decide_eq_true_iff]
      rintro rfl
      revert hc
      decide
  have hstrip : strip tag = tag := strip_of_forall fun c hc => isBlank_of_letter (h.2 c hc)
  have hempty : tag.isEmpty = false := by simpa using h.1
  have hopen : applyTag tag 0 stack = .ok (normalName tag :: stack) := by
    unfold applyTag
    dsimp only
    rw [hequals]
    split
    · next rest => exact absurd (h.2 '/' List.mem_cons_self) (by decide)
    · rfl
  have hclose : applyTag ('/' :: tag) 0 (normalName tag :: stack) = .ok stack := by
    have hfirst : close? (normalName tag) (normalName tag :: stack) = some stack := by
      simp [close?]
    unfold applyTag
    dsimp only
    rw [List.takeWhile_cons_of_pos (by decide), hequals]
    simp only [hstrip, hempty, hfirst, Bool.false_eq_true, if_false]
  rw [opened?, hopen]
  dsimp only
  rw [opened?, hclose]

/-- A label between tags, and what stands behind it. -/
def labelled (tag label rest : List Char) : List Char :=
  tagged 0 tag (label ++ tagged 0 ('/' :: tag) rest)

theorem labelled_append (tag label rest more : List Char) :
    labelled tag label rest ++ more = labelled tag label (rest ++ more) := by
  simp [labelled, tagged]

theorem tags_labelled (htag : IsWord tag) (hlabel : Plain label) (rest : List Char) :
    tags (labelled tag label rest) = tag :: ('/' :: tag) :: tags rest := by
  have hend : IsTag ('/' :: tag) :=
    ⟨⟨'/', tag, rfl, by decide⟩, List.forall_mem_cons.2 ⟨by decide, htag.isTag.2⟩⟩
  rw [labelled, tags_tagged htag.isTag, tags_append hlabel, tags_tagged hend]

theorem balanced_labelled (htag : IsWord tag) (hlabel : Plain label) :
    Balanced (labelled tag label cs) ↔ Balanced cs := by
  rw [Balanced, Balanced, tags_labelled htag hlabel, opened?_word htag]

end Tags

end ManifestPolicy.Markup
