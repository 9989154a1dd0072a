import ManifestPolicy.Settings.Check

/-!
# The value that is no number

Among the numbers of the binary format there is one value that is none, and comparisons tell it
apart from all others only in that they fail (`Binary64.zero_lt_iff`). No rounding gives it, and so
it is not read from any numeral, but from its name alone (`Decimal.signed?_eq_nan`). A choice of
the settings that should be a number can be given in all the ways that the format has, and so it
can be given as this value too: as itself, or by a text with its name
(`Settings.checkNumber_eq_nan`).
-/

namespace ManifestPolicy

/-! ## What rounding gives -/

namespace Binary64

theorem ofFraction_ne_nan (negative : Bool) (num den : Nat) :
    ofFraction negative num den ≠ .nan := by
  unfold ofFraction
  dsimp only
  split
  · simp
  · split
    · split <;> simp
    · split <;> simp

theorem ofDecimal_ne_nan (negative : Bool) (digits : Nat) (exponent : Int) :
    ofDecimal negative digits exponent ≠ .nan := by
  unfold ofDecimal
  dsimp only
  split
  · simp
  split
  · simp
  split
  · simp
  split
  · exact ofFraction_ne_nan _ _ _
  · exact ofFraction_ne_nan _ _ _

/-- What is not at most zero is more than zero, unless it is no number. -/
theorem zero_lt_iff {x : Binary64} (h : x.le .zero = false) : zero.lt x = true ↔ x ≠ .nan := by
  cases x with
  | nan => exact iff_of_false (by decide) (fun h => h rfl)
  | infinite negative =>
      cases negative with
      | true => cases h
      | false => exact iff_of_true rfl nofun
  | finite negative m e =>
      refine iff_of_true ?_ nofun
      have hzero : unitsOf false 0 minExponent = 0 := by decide
      simp only [le, lt, eqv, zero, hzero, Bool.or_eq_false_iff, decide_eq_false_iff_not] at h ⊢
      rw [decide_eq_true_iff]
      omega

end Binary64

/-! ## How numbers are written -/

namespace Decimal

variable {cs : List Char}

/-- A text without the sign at its front. -/
def unsign : List Char → List Char
  | '-' :: cs => cs
  | '+' :: cs => cs
  | cs => cs

/-- What an unsigned number can be: a name of infinity or of no number, or a numeral. -/
theorem unsigned?_cases {negative : Bool} {x : Binary64} (h : unsigned? negative cs = some x) :
    x = .infinite negative ∧ (lowerAscii cs = "inf".toList ∨ lowerAscii cs = "infinity".toList) ∨
    x = .nan ∧ lowerAscii cs = "nan".toList ∨
    ∃ part rest digits scale e, (cs.dropWhile Char.isDigit = rest ∨
        cs.dropWhile Char.isDigit = '.' :: (part ++ rest) ∧ part.all Char.isDigit = true) ∧
      exponent? rest = some e ∧ x = .ofDecimal negative digits scale := by
  unfold unsigned? at h
  dsimp only at h
  split at h
  · next hinf =>
      rw [Bool.or_eq_true, decide_eq_true_iff, decide_eq_true_iff] at hinf
      exact .inl ⟨(Option.some.inj h).symm, hinf⟩
  split at h
  · next hnan => exact .inr (.inl ⟨(Option.some.inj h).symm, hnan⟩)
  · refine .inr (.inr ?_)
    split at h
    · next more hrest =>
        dsimp only at h
        split at h
        · cases h
        · obtain ⟨e, he, hx⟩ := Option.map_eq_some_iff.1 h
          refine ⟨more.takeWhile Char.isDigit, more.dropWhile Char.isDigit, _, _, e,
            .inr ⟨?_, List.all_takeWhile⟩, he, hx.symm⟩
          rw [hrest, List.takeWhile_append_dropWhile]
    · dsimp only at h
      split at h
      · cases h
      · obtain ⟨e, he, hx⟩ := Option.map_eq_some_iff.1 h
        exact ⟨[], _, _, _, e, .inl rfl, he, hx.symm⟩

theorem unsigned?_eq_nan {negative : Bool} :
    unsigned? negative cs = some .nan ↔ lowerAscii cs = "nan".toList := by
  constructor
  · intro h
    rcases unsigned?_cases h with ⟨hx, -⟩ | ⟨-, hnan⟩ | ⟨_, _, _, _, _, -, -, hx⟩
    · cases hx
    · exact hnan
    · exact absurd hx.symm (Binary64.ofDecimal_ne_nan _ _ _)
  · intro h
    unfold unsigned?
    dsimp only
    rw [h]
    rfl

/-- The value that is no number is written by its name, in any case and with any sign. -/
theorem signed?_eq_nan : signed? cs = some .nan ↔ lowerAscii (unsign cs) = "nan".toList := by
  unfold signed?
  split
  · exact unsigned?_eq_nan
  · exact unsigned?_eq_nan
  · next hminus hplus =>
      rw [unsign.eq_3 cs hminus hplus]
      exact unsigned?_eq_nan

theorem underscore_not_mem_digits {ds : List Char} (h : ds.all Char.isDigit = true) : '_' ∉ ds :=
  fun hmem => absurd (List.all_eq_true.1 h '_' hmem) (by decide)

theorem exponent?_underscore {e : Int} (h : exponent? cs = some e) : '_' ∉ cs := by
  cases cs with
  | nil => nofun
  | cons c rest =>
      unfold exponent? at h
      dsimp only at h
      split at h
      · next hc =>
          have hsign : '_' ≠ c := fun heq => absurd hc (by rw [← heq]; decide)
          have digits {ds : List Char} {n : Int}
              (h : (if (ds.isEmpty || !ds.all Char.isDigit) = true then none else some n) = some e) :
              '_' ∉ ds := by
            split at h
            · cases h
            · next hall =>
                rw [Bool.or_eq_true, not_or, Bool.not_eq_true', Bool.not_eq_false] at hall
                exact underscore_not_mem_digits hall.2
          rw [List.mem_cons, not_or]
          refine ⟨hsign, ?_⟩
          split at h
          · simpa using digits h
          · simpa using digits h
          · exact digits h
      · cases h

/-- A text with an underscore writes no number as it is. -/
theorem unsigned?_underscore {negative : Bool} {x : Binary64}
    (h : unsigned? negative cs = some x) : '_' ∉ cs := by
  intro hmem
  have hlower : '_' ∈ lowerAscii cs := List.mem_map.2 ⟨'_', hmem, by decide⟩
  rcases unsigned?_cases h with
    ⟨-, hinf | hinf⟩ | ⟨-, hnan⟩ | ⟨part, rest, _, _, e, hrest, he, -⟩
  · rw [hinf] at hlower
    exact absurd hlower (by decide)
  · rw [hinf] at hlower
    exact absurd hlower (by decide)
  · rw [hnan] at hlower
    exact absurd hlower (by decide)
  · have hwhole : '_' ∉ cs.takeWhile Char.isDigit := underscore_not_mem_digits List.all_takeWhile
    rw [← List.takeWhile_append_dropWhile (p := Char.isDigit) (l := cs)] at hmem
    have hdrop := (List.mem_append.1 hmem).resolve_left hwhole
    rcases hrest with hrest | ⟨hrest, hpart⟩
    · rw [hrest] at hdrop
      exact exponent?_underscore he hdrop
    · rw [hrest] at hdrop
      have hdrop := (List.mem_cons.1 hdrop).resolve_left (by decide)
      rcases List.mem_append.1 hdrop with hdrop | hdrop
      · exact underscore_not_mem_digits hpart hdrop
      · exact exponent?_underscore he hdrop

theorem signed?_underscore {x : Binary64} (h : signed? cs = some x) : '_' ∉ cs := by
  unfold signed? at h
  split at h
  · simpa using unsigned?_underscore h
  · simpa using unsigned?_underscore h
  · exact unsigned?_underscore h

end Decimal

namespace Settings

/-! ## What a choice gives -/

/-- A text names the value that is no number: its name is there in any case, with any sign, and
with any blanks around it. -/
def NamesNaN (cs : List Char) : Prop :=
  Decimal.lowerAscii (Decimal.unsign (trimNumber cs)) = "nan".toList

theorem signed?_trimNumber {cs : List Char} :
    Decimal.signed? (trimNumber cs) = some .nan ↔ NamesNaN cs := Decimal.signed?_eq_nan

theorem underscore_mem_trimNumber {cs : List Char} (h : '_' ∈ cs) : '_' ∈ trimNumber cs := by
  have kept {cs : List Char} (h : '_' ∈ cs) : '_' ∈ cs.dropWhile Text.isNumeralBlank := by
    rw [← List.takeWhile_append_dropWhile (p := Text.isNumeralBlank) (l := cs)] at h
    refine (List.mem_append.1 h).resolve_left fun hblank => ?_
    exact absurd (List.all_eq_true.1 List.all_takeWhile '_' hblank) (by decide)
  rw [trimNumber, Text.stripNumeral, List.mem_reverse]
  exact kept (List.mem_reverse.2 (kept h))

theorem dropUnderscores_eq {cs ds : List Char} (hnone : '_' ∉ cs)
    (h : dropUnderscores cs = some ds) : ds = cs := by
  unfold dropUnderscores at h
  split at h
  · cases h
  · rw [← Option.some.inj h, List.filter_eq_self]
    intro c hc
    exact decide_eq_true fun heq => hnone (heq ▸ hc)

theorem numberOfText_eq_nan {text : String} :
    numberOfText text = some .nan ↔
      NamesNaN text.toList ∨ ∃ cs, dropUnderscores text.toList = some cs ∧ NamesNaN cs := by
  unfold numberOfText
  dsimp only
  cases hplain : Decimal.signed? (trimNumber text.toList) with
  | none =>
      have hname : ¬ NamesNaN text.toList := by simp [← signed?_trimNumber, hplain]
      simp [Option.bind_eq_some_iff, signed?_trimNumber, hname]
  | some x =>
      -- A text that writes a number as it is has no underscores to drop.
      have hnone : '_' ∉ text.toList := fun h =>
        Decimal.signed?_underscore hplain (underscore_mem_trimNumber h)
      dsimp only
      rw [← hplain, signed?_trimNumber]
      refine ⟨.inl, ?_⟩
      rintro (h | ⟨cs, hcs, h⟩)
      · exact h
      · rw [dropUnderscores_eq hnone hcs] at h
        exact h

/-- A member gives the value that is no number: it is that value, or a text that names it, once its
underscores are dropped if it has some. -/
inductive GivesNaN : Json → Prop where
  | value : GivesNaN (.float .nan)
  | name {text : String} (h : NamesNaN text.toList) : GivesNaN (.str text)
  | underscored {text : String} {cs : List Char} (hcs : dropUnderscores text.toList = some cs)
      (h : NamesNaN cs) : GivesNaN (.str text)

theorem checkNumber_eq_nan {j : Json} : checkNumber j.toValue = .ok .nan ↔ GivesNaN j := by
  cases j with
  | null => exact iff_of_false nofun nofun
  | bool b => cases b <;> exact iff_of_false nofun nofun
  | int n =>
      refine iff_of_false (fun h => ?_) nofun
      rw [Json.toValue, checkNumber] at h
      split at h
      · cases h
      · exact Binary64.ofFraction_ne_nan _ _ _ (Except.ok.inj h)
  | float x =>
      constructor
      · intro h
        rw [Except.ok.inj h]
        exact .value
      · rintro ⟨⟩
        rfl
  | str text =>
      have hgives : GivesNaN (.str text) ↔ numberOfText text = some .nan := by
        rw [numberOfText_eq_nan]
        constructor
        · rintro (_ | h | ⟨hcs, h⟩)
          · exact .inl h
          · exact .inr ⟨_, hcs, h⟩
        · rintro (h | ⟨cs, hcs, h⟩)
          · exact .name h
          · exact .underscored hcs h
      rw [hgives, Json.toValue, checkNumber]
      cases numberOfText text with
      | none => exact iff_of_false nofun nofun
      | some x => simp
  | arr => exact iff_of_false nofun nofun
  | obj => exact iff_of_false nofun nofun

end Settings

end ManifestPolicy
