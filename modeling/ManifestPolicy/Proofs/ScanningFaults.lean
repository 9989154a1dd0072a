import ManifestPolicy.Proofs.Outcome
import ManifestPolicy.Yaml.Node

/-!
# The faults of a text before its values are built

Most faults of a YAML text are met with a place. While a text is scanned there
are only two spots at which a value is computed, and may be refused without a
place: the code point of an escape in a quoted scalar, and the numbers of a
version. Nothing behind the scanner computes values before the node graph of
the text is complete: the events and the graph hand on what stopped the
tokens, or stop with a fault of their own.

The first sections take the functions one by one. `Textual` says of a program
that it has no other errors; it is a property of its parts, so that most of
the functions need no more than their definition and the rules of the first
section.
-/

namespace ManifestPolicy.Yaml

/-- The refusals of scalars that are met while a text is scanned. -/
inductive ScalarFault.OfText : ScalarFault → Prop where
  | codePoint : OfText .codePoint
  | codePointSize : OfText .codePointSize
  | version (fault : Integer.Fault) : OfText (.integer fault)

/-- A fault with a place, or one that scanning may have of its own. -/
def Failure.OfText : Failure → Prop
  | .scalar f => f.OfText
  | _ => True

@[simp]
theorem Failure.ofText_fault (f : Fault) : (Failure.fault f).OfText := trivial

@[simp]
theorem Failure.ofText_character (c : Char) (position : Nat) :
    (Failure.character c position).OfText := trivial

@[simp]
theorem Failure.ofText_scalar {f : ScalarFault} : (Failure.scalar f).OfText ↔ f.OfText := Iff.rfl

/-- The program has no error but those of scanning. -/
def Textual {α : Type} (x : Except Failure α) : Prop := ∀ f, x = .error f → f.OfText

section

variable {α β : Type} {x y : Except Failure α}

@[simp]
theorem textual_ok (a : α) : Textual (.ok a) := fun _ e => nomatch e

@[simp]
theorem textual_pure (a : α) : Textual (pure a) := textual_ok a

@[simp]
theorem textual_error {f : Failure} : Textual (.error f : Except Failure α) ↔ f.OfText :=
  ⟨fun h => h f rfl, fun h _ e => Except.error.inj e ▸ h⟩

@[simp]
theorem textual_failAt (activity : Activity) (since : Mark) (p : Problem) (c : Cursor) :
    Textual (failAt activity since p c : Except Failure α) := textual_error.2 trivial

@[simp]
theorem textual_failPlain (p : Problem) (m : Mark) :
    Textual (failPlain p m : Except Failure α) := textual_error.2 trivial

@[simp]
theorem textual_bind {f : α → Except Failure β} :
    Textual (x >>= f) ↔ Textual x ∧ ∀ a, x = .ok a → Textual (f a) := by
  cases x with
  | ok a => exact ⟨fun h => ⟨textual_ok a, fun _ e => Except.ok.inj e ▸ h⟩, fun h => h.2 a rfl⟩
  | error e => exact ⟨fun h => ⟨textual_error.2 (h e rfl), fun _ e => nomatch e⟩,
        fun h => textual_error.2 (h.1 e rfl)⟩

@[simp]
theorem textual_map {g : α → β} : Textual (g <$> x) ↔ Textual x := by
  cases x with
  | ok a => exact iff_of_true (textual_ok (g a)) (textual_ok a)
  | error e =>
      show Textual (.error e : Except Failure β) ↔ _
      rw [textual_error, textual_error]

@[simp]
theorem textual_ite {p : Prop} [Decidable p] :
    Textual (if p then x else y) ↔ (p → Textual x) ∧ (¬ p → Textual y) := by
  split
  · next h => simp [h]
  · next h => simp [h]

end

/-! ## Names -/

@[simp]
theorem textual_scanAnchor (c : Cursor) : Textual (scanAnchor c) := by
  simp [scanAnchor]

@[simp]
theorem textual_scanHandle (place : TagPlace) (since : Mark) (c : Cursor) :
    Textual (scanHandle place since c) := by
  simp [scanHandle]

@[simp]
theorem textual_uriBytes (place : TagPlace) (since : Mark) (fuel : Nat) (c : Cursor) :
    Textual (uriBytes place since fuel c) := by
  induction fuel generalizing c with
  | zero => exact textual_ok _
  | succ fuel ih => simp [uriBytes, ih]

@[simp]
theorem textual_uriChars (place : TagPlace) (since : Mark) (fuel : Nat) (c : Cursor) :
    Textual (uriChars place since fuel c) := by
  induction fuel generalizing c with
  | zero => exact textual_ok _
  | succ fuel ih =>
      unfold uriChars
      split
      · simp [ih]
      · split
        · simp only [textual_bind, textual_uriBytes, true_and]
          intro a _
          split
          · simp
          · simp [ih]
        · simp

@[simp]
theorem textual_scanUri (place : TagPlace) (since : Mark) (c : Cursor) :
    Textual (scanUri place since c) := by
  simp [scanUri]

@[simp]
theorem textual_scanTag (c : Cursor) : Textual (scanTag c) := by
  simp [scanTag]

@[simp]
theorem textual_scanVersionNumber (since : Mark) (c : Cursor) :
    Textual (scanVersionNumber since c) := by
  unfold scanVersionNumber
  dsimp only
  split
  · simp
  · split
    · simp
    · next f _ => exact textual_error.2 (.version f)

@[simp]
theorem textual_scanDirective (c : Cursor) : Textual (scanDirective c) := by
  simp [scanDirective, scanVersion, scanTagDirective]

/-! ## Scalars -/

@[simp]
theorem textual_quotedBreaks (since : Mark) (fuel : Nat) (c : Cursor) :
    Textual (quotedBreaks since fuel c) := by
  induction fuel generalizing c with
  | zero => exact textual_ok _
  | succ fuel ih => simp [quotedBreaks, ih]

@[simp]
theorem textual_quotedGap (since : Mark) (c : Cursor) : Textual (quotedGap since c) := by
  simp [quotedGap]

@[simp]
theorem textual_charOfCode (code : Nat) : Textual (charOfCode code) := by
  simp [charOfCode, ScalarFault.OfText.codePoint,
    ScalarFault.OfText.codePointSize]

@[simp]
theorem textual_hexEscape (since : Mark) (length : Nat) (c : Cursor) :
    Textual (hexEscape since length c) := by
  unfold hexEscape
  dsimp only
  split
  · exact textual_failAt _ _ _ _
  · simp

@[simp]
theorem textual_quotedWord (double : Bool) (since : Mark) (fuel : Nat) (c : Cursor) :
    Textual (quotedWord double since fuel c) := by
  induction fuel generalizing c with
  | zero => exact textual_ok _
  | succ fuel ih =>
      unfold quotedWord
      dsimp only
      split
      · simp
      · split
        · split
          · simp
          · split
            · split
              · simp [ih]
              · split
                · simp [ih]
                · simp [ih]
            · simp [ih]
        · simp [ih]

@[simp]
theorem textual_quotedRest (double : Bool) (since : Mark) (fuel : Nat) (c : Cursor) :
    Textual (quotedRest double since fuel c) := by
  induction fuel generalizing c with
  | zero => exact textual_ok _
  | succ fuel ih => simp [quotedRest, ih]

@[simp]
theorem textual_scanQuoted (c : Cursor) : Textual (scanQuoted c) := by
  simp [scanQuoted]

@[simp]
theorem textual_incrementAt (since : Mark) (c : Cursor) : Textual (incrementAt since c) := by
  simp [incrementAt]

@[simp]
theorem textual_blockHeader (since : Mark) (c : Cursor) : Textual (blockHeader since c) := by
  unfold blockHeader
  dsimp only
  split
  · simp
  · simp only [textual_bind, textual_incrementAt, true_and]
    rintro ⟨increment, after⟩ -
    split <;> simp

@[simp]
theorem textual_scanBlock (parentIndent : Int) (c : Cursor) :
    Textual (scanBlock parentIndent c) := by
  simp [scanBlock]

/-! ## Tokens -/

namespace Lexer

@[simp]
theorem textual_dropStale (l : Lexer) : Textual l.dropStale := by
  unfold dropStale
  dsimp only
  split
  · simp
  · simp

@[simp]
theorem textual_dropCandidate (l : Lexer) : Textual l.dropCandidate := by
  unfold dropCandidate
  split
  · simp
  · simp

@[simp]
theorem textual_addCandidate (l : Lexer) : Textual l.addCandidate := by
  simp [addCandidate]

@[simp]
theorem textual_openBlockHere (kind : TokenKind) (refused : Problem) (l : Lexer) :
    Textual (l.openBlockHere kind refused) := by
  simp [openBlockHere]

@[simp]
theorem textual_fetchValue (l : Lexer) : Textual l.fetchValue := by
  unfold fetchValue
  split
  · simp
  · simp

theorem textual_fetchWith {scan : Cursor → Except Failure (Token × Cursor)}
    (h : ∀ c, Textual (scan c)) (l : Lexer) : Textual (l.fetchWith scan) := by
  simp [fetchWith, h]

theorem textual_fetch (l : Lexer) : Textual l.fetch := by
  simp [fetch, fetchEnd, fetchDirective, fetchSeparator, fetchFlowStart, fetchFlowEnd,
    fetchFlowEntry, fetchBlockEntry, fetchKey, fetchBlock, fetchPlain, textual_fetchWith]

theorem run_failure (fuel settled : Nat) (l : Lexer) :
    ∀ f ∈ (run fuel settled l).failure, f.OfText := by
  induction fuel generalizing settled l with
  | zero => simp [run]
  | succ fuel ih =>
      unfold run
      split
      · next f h => simpa using textual_dropStale l f h
      · next l' _ =>
          split
          · next f h => simpa using textual_fetch l' f h
          · split
            · simp
            · exact ih _ _

end Lexer

theorem tokens_failure (text : List Char) : ∀ f ∈ (Tokens.ofText text).failure, f.OfText := by
  unfold Tokens.ofText
  split
  · simp
  · exact Lexer.run_failure _ _ _

/-! ## Events -/

/-- A step that stops with a fault of scanning, or leaves a reader that may only be stopped by
one. -/
def Hands (x : EventReader.Step) : Prop :=
  Textual x ∧ ∀ p, x = .ok p → p.2.failure.OfText

section

variable {α : Type} {p : Event × EventReader} {x y : EventReader.Step}

@[simp]
theorem hands_ok : Hands (.ok p) ↔ p.2.failure.OfText :=
  ⟨fun h => h.2 p rfl, fun h => ⟨textual_ok p, fun _ e => Except.ok.inj e ▸ h⟩⟩

@[simp]
theorem hands_pure : Hands (pure p) ↔ p.2.failure.OfText := hands_ok

@[simp]
theorem hands_error {f : Failure} : Hands (.error f) ↔ f.OfText :=
  ⟨fun h => textual_error.1 h.1, fun h => ⟨textual_error.2 h, fun _ e => nomatch e⟩⟩

@[simp]
theorem hands_failPlain (p : Problem) (m : Mark) : Hands (failPlain p m) := hands_error.2 trivial

@[simp]
theorem hands_bind {x : Except Failure α} {f : α → EventReader.Step} :
    Hands (x >>= f) ↔ Textual x ∧ ∀ a, x = .ok a → Hands (f a) := by
  cases x with
  | ok a => exact ⟨fun h => ⟨textual_ok a, fun _ e => Except.ok.inj e ▸ h⟩, fun h => h.2 a rfl⟩
  | error e =>
      exact ⟨fun h => ⟨textual_error.2 (hands_error.1 h), fun _ e => nomatch e⟩,
        fun h => hands_error.2 (textual_error.1 h.1)⟩

@[simp]
theorem hands_ite {p : Prop} [Decidable p] :
    Hands (if p then x else y) ↔ (p → Hands x) ∧ (¬ p → Hands y) := by
  split
  · next h => simp [h]
  · next h => simp [h]

end

namespace EventReader

variable {r : EventReader}

@[simp]
theorem failure_resume (r : EventReader) : r.resume.failure = r.failure := by
  unfold resume
  split
  · rfl
  · rfl

@[simp]
theorem failure_close (r : EventReader) : r.close.failure = r.failure := failure_resume r

@[simp]
theorem failure_advance (r : EventReader) : r.advance.failure = r.failure := by
  rw [advance]

@[simp]
theorem textual_peek (h : r.failure.OfText) : Textual r.peek := by
  unfold peek
  split
  · simp
  · simpa using h

theorem textual_properties (h : r.failure.OfText) : Textual r.properties := by
  unfold properties
  simp only [textual_bind, textual_peek h, true_and]
  intro t _
  split
  · simp only [textual_bind, textual_peek (r := r.advance) h, true_and]
    intro u _
    split <;> simp
  · simp only [textual_bind, textual_peek (r := r.advance) h, true_and]
    intro u _
    split <;> simp
  · simp

theorem failure_properties {p : Properties × EventReader} (hp : r.properties = .ok p) :
    p.2.failure = r.failure := by
  unfold properties at hp
  obtain ⟨t, ht, hp⟩ := bind_eq_ok.1 hp
  split at hp
  · obtain ⟨u, _, hp⟩ := bind_eq_ok.1 hp
    split at hp <;> cases hp <;> rfl
  · obtain ⟨u, _, hp⟩ := bind_eq_ok.1 hp
    split at hp <;> cases hp <;> rfl
  · cases hp
    rfl

/-- A look at the next token hands on what is done with any token. -/
theorem hands_peek {f : Token → Step} (h : r.failure.OfText) (hf : ∀ t, Hands (f t)) :
    Hands (r.peek >>= f) :=
  hands_bind.2 ⟨textual_peek h, fun t _ => hf t⟩

@[simp]
theorem textual_fullTag (p : Properties) : Textual (r.fullTag p) := by
  unfold fullTag
  split
  · simp
  · simp
  · split
    · simp
    · simp

@[simp]
theorem hands_node (block indentless : Bool) (h : r.failure.OfText) :
    Hands (r.node block indentless) := by
  unfold node
  simp only [hands_bind, textual_peek h, true_and]
  intro t _
  split
  · simpa using h
  · simp only [hands_bind, textual_properties h, true_and]
    rintro ⟨p, r'⟩ hp
    have h' : r'.failure.OfText := failure_properties hp ▸ h
    simp only [textual_fullTag, textual_peek h', true_and]
    intro tag _ u _
    split
    · simpa using h'
    · simpa using h'
    · simpa using h'
    · simpa using h'
    · simpa using h'
    · simp [h']

theorem textual_directives (versioned : Bool) (handles : List (String × String))
    (ts : List Token) : Textual (directives versioned handles ts) := by
  induction ts generalizing versioned handles with
  | nil => simp [directives]
  | cons t ts ih =>
      unfold directives
      split <;> simp [ih]

@[simp]
theorem hands_document (h : r.failure.OfText) : Hands r.document := by
  unfold document
  dsimp only
  generalize r.tokens.dropWhile _ = ts
  simp only [hands_bind, textual_peek (r := { r with tokens := ts }) h, true_and]
  intro first _
  simp only [hands_ite, hands_pure]
  refine ⟨fun _ => h, fun _ => ?_⟩
  simp only [hands_bind, textual_directives, true_and]
  rintro ⟨own, rest⟩ -
  refine ⟨textual_peek h, fun t _ => ?_⟩
  simpa using fun _ => h

@[simp]
theorem hands_nodeThen (block indentless : Bool) (next : Expect) (h : r.failure.OfText) :
    Hands (r.nodeThen block indentless next) := hands_node block indentless h

@[simp]
theorem hands_empty (m : Mark) (next : Expect) (h : r.failure.OfText) :
    Hands (r.empty m next) := hands_ok.2 h

@[simp]
theorem hands_flowSequenceItem (t : Token) (h : r.failure.OfText) :
    Hands (r.flowSequenceItem t) := by
  unfold flowSequenceItem
  split <;> simp [h]

@[simp]
theorem hands_flowMappingItem (t : Token) (h : r.failure.OfText) :
    Hands (r.flowMappingItem t) := by
  unfold flowMappingItem
  split
  · simp [h]
  · refine hands_peek h fun u => ?_
    split <;> simp [h]
  · simp [h]

theorem hands_step (h : r.failure.OfText) : Hands r.step := by
  unfold step
  refine hands_peek h fun t => ?_
  -- one case for each state of the reader
  split
  · split <;> simp [h]
  · simp [h]
  · split <;> simp [h]
  · split <;> simp [h]
  · simp [h]
  · split
    · refine hands_peek h fun u => ?_
      split <;> simp [h]
    · simp [h]
    · simp
  · split <;> simp [h]
  · split <;> simp [h]
  · split <;> simp [h]
  · simp [h]
  · split <;> simp [h]
  · refine hands_peek h fun u => ?_
    split <;> simp [h]
  · split
    · refine hands_peek h fun u => ?_
      split <;> simp [h]
    · simp [h]
  · simp [h]
  · simp [h]
  · split <;> simp [h]
  · split
    · refine hands_peek h fun u => ?_
      split <;> simp [h]
    · simp [h]
  · simp [h]
  · simp [h]

theorem run_failure (fuel : Nat) (h : r.failure.OfText) :
    ∀ f ∈ (run fuel r).failure, f.OfText := by
  induction fuel generalizing r with
  | zero => simpa [run] using h
  | succ fuel ih =>
      have hstep := hands_step h
      unfold run
      split
      · next f hf => simpa using hstep.1 f hf
      · next e next hn =>
          split
          · simp
          · exact ih (hstep.2 (e, next) hn)

end EventReader

theorem events_failure (text : List Char) : ∀ f ∈ (Events.ofText text).failure, f.OfText := by
  refine EventReader.run_failure _ ?_
  show ((Tokens.ofText text).failure.getD _).OfText
  cases hf : (Tokens.ofText text).failure with
  | none => exact trivial
  | some f => exact tokens_failure text f hf

/-! ## Node graphs -/

namespace Graph

theorem textual_add (anchor : Option String) (n : Node) (b : Builder) :
    Textual (b.add anchor n) := by
  unfold Builder.add
  dsimp only
  split
  · simp
  · split
    · simp
    · simp

theorem textual_take (e : Event) (b : Builder) : Textual (b.take e) := by
  unfold Builder.take
  split
  · split <;> simp
  · simp [textual_add]
  · simp [textual_add]
  · simp [textual_add]
  · split <;> simp
  · split <;> simp
  all_goals simp

theorem textual_ofEvents {failure : Failure} (h : failure.OfText) (b : Builder)
    (es : List Event) : Textual (ofEvents failure b es) := by
  induction es generalizing b with
  | nil => simpa [ofEvents] using h
  | cons e es ih =>
      unfold ofEvents
      split
      · simp
      · split
        · exact ih _
        · next f hf => simpa using textual_take e b f hf

/-- What is missing behind the last event of a text is a fault of scanning as well. -/
theorem ending_ofText (text : List Char) :
    ((Events.ofText text).failure.getD (.character endChar text.length)).OfText := by
  cases hf : (Events.ofText text).failure with
  | none => exact trivial
  | some f => exact events_failure text f hf

/-- Before its values are built, a text has no faults but those of scanning. -/
theorem textual_ofText (text : List Char) : Textual (ofText? text) := by
  have hfailure := ending_ofText text
  unfold ofText?
  dsimp only
  split
  · simpa using hfailure
  · split
    · simp
    · split
      · next f hf => simpa using textual_ofEvents hfailure _ _ f hf
      · split
        · simpa using hfailure
        · split
          · simp
          · simp

end Graph

namespace Graphs

theorem failure_ofEvents {failure : Failure} (h : failure.OfText) (fuel : Nat)
    (es : List Event) : ∀ f ∈ (ofEvents failure fuel es).failure, f.OfText := by
  induction fuel generalizing es with
  | zero => simpa [ofEvents] using h
  | succ fuel ih =>
      cases es with
      | nil => simpa [ofEvents] using h
      | cons e es =>
          unfold ofEvents
          split
          · simp
          · split
            · next f hf => simpa using Graph.textual_ofEvents h _ _ f hf
            · exact ih _

/-- The same is so for a text of several documents. -/
theorem failure_ofText (text : List Char) : ∀ f ∈ (ofText text).failure, f.OfText :=
  failure_ofEvents (Graph.ending_ofText text) _ _

end Graphs

end ManifestPolicy.Yaml
