import ManifestPolicy.Proofs.NotANumber
import ManifestPolicy.Proofs.Outcome
import ManifestPolicy.Proofs.PathText
import ManifestPolicy.Proofs.PublishedGrammar
import ManifestPolicy.Proofs.SettingsAccepted
import ManifestPolicy.Settings.File

/-!
# Loaded settings

A settings file that is there is either refused, in a way that names the file, or read
(`Settings.load_existing`). What is read has a package of identifiers, and its times have been
compared with zero: a time is refused if it is at most zero. That does not make it more than
zero, for the value that is no number compares with nothing, and so it is taken as a time. It is
the only one that is (`Settings.positive_of_choice`).
-/

namespace ManifestPolicy

open Checked

namespace Settings

/-! ## Times -/

theorem checkTimeout_eq_ok {v : Value} {x : Binary64} :
    checkTimeout v = .ok x ↔ checkNumber v = .ok x ∧ x.le .zero = false := by
  unfold checkTimeout
  cases checkNumber v with
  | error => simp
  | ok y =>
      dsimp only
      rw [Except.ok.injEq]
      cases hle : y.le .zero with
      | true =>
          refine iff_of_false nofun ?_
          rintro ⟨rfl, h⟩
          rw [hle] at h
          cases h
      | false =>
          rw [if_neg (by decide), Except.ok.injEq]
          refine ⟨?_, And.left⟩
          rintro rfl
          exact ⟨rfl, hle⟩

theorem choice_eq_ok {α : Type} {name older : String} {dflt x : α} {check : Value → Checked α}
    {es : List (Value × Value)} :
    choice name older dflt check es = .ok x ↔
      (Value.entry? name es).or (Value.entry? older es) = none ∧ x = dflt ∨
      ∃ v, (Value.entry? name es).or (Value.entry? older es) = some v ∧ check v = .ok x := by
  unfold choice
  cases Value.entry? name es with
  | none => exact optional_eq_ok_iff
  | some v => simp [under_eq_ok]

/-- The time that a section of an object chooses, by its name or by the older one. -/
def timeout? (part : String) (members : List (String × Json)) : Option Json :=
  match Json.member? part members with
  | some (.obj fields) =>
    (Json.member? "timeoutSeconds" fields).or (Json.member? "timeout_seconds" fields)
  | _ => none

/-- A time that was accepted is more than zero, unless it is given as no number. -/
theorem positive_of_choice {fields : List (String × Json)} {x : Binary64}
    (h : choice "timeoutSeconds" "timeout_seconds" defaultTimeout checkTimeout
      (Json.toEntries fields) = .ok x) :
    Binary64.zero.lt x = true ↔
      ¬ ∃ j ∈ (Json.member? "timeoutSeconds" fields).or (Json.member? "timeout_seconds" fields),
        GivesNaN j := by
  rw [choice_eq_ok, Json.entry?_toEntries, Json.entry?_toEntries, ← Option.map_or] at h
  rcases h with ⟨hnone, rfl⟩ | ⟨v, hv, hcheck⟩
  · rw [Option.map_eq_none_iff.1 hnone]
    exact iff_of_true (by decide +kernel) nofun
  · obtain ⟨j, hj, rfl⟩ := Option.map_eq_some_iff.1 hv
    obtain ⟨hnumber, hle⟩ := checkTimeout_eq_ok.1 hcheck
    rw [hj, Binary64.zero_lt_iff hle]
    simp [← checkNumber_eq_nan, hnumber]

/-- The same for a section with a time, given how the section is checked. -/
theorem positive_of_section {σ : Type} {part : String} {dflt s : σ} {check : Value → Checked σ}
    {timeout : σ → Binary64} {members : List (String × Json)}
    (hcheck : ∀ {v s}, check v = .ok s → ∃ es, v = .map es ∧
      choice "timeoutSeconds" "timeout_seconds" defaultTimeout checkTimeout es = .ok (timeout s))
    (hdflt : timeout dflt = defaultTimeout)
    (h : optional part dflt check (Json.toEntries members) = .ok s) :
    Binary64.zero.lt (timeout s) = true ↔ ¬ ∃ j ∈ timeout? part members, GivesNaN j := by
  rcases optional_eq_ok_iff.1 h with ⟨hnone, rfl⟩ | ⟨v, hv, hs⟩
  · rw [Json.entry?_toEntries, Option.map_eq_none_iff] at hnone
    rw [hdflt, timeout?, hnone]
    exact iff_of_true (by decide +kernel) nofun
  · obtain ⟨es, rfl, htime⟩ := hcheck hs
    obtain ⟨fields, hfields, rfl⟩ := entry_map_iff.1 hv
    rw [timeout?, hfields]
    exact positive_of_choice htime

theorem time_of_checkRenderer {v : Value} {s : RendererSettings} (h : checkRenderer v = .ok s) :
    ∃ es, v = .map es ∧ choice "timeoutSeconds" "timeout_seconds" defaultTimeout checkTimeout es =
      .ok s.timeout := by
  rw [checkRenderer, bind_eq_ok] at h
  obtain ⟨es, hes, h⟩ := h
  -- The time is the last of six fields.
  simp only [app_eq_ok] at h
  obtain ⟨_, _, ⟨_, _, ⟨_, _, ⟨_, _, ⟨_, _, ⟨_, _, h, _, rfl⟩, _, rfl⟩, _, rfl⟩, _, rfl⟩, _, rfl⟩,
    htime, rfl⟩ := h
  cases h
  exact ⟨es, checkMapping_eq_ok.1 hes, htime⟩

theorem time_of_checkEvaluator {v : Value} {s : EvaluatorSettings} (h : checkEvaluator v = .ok s) :
    ∃ es, v = .map es ∧ choice "timeoutSeconds" "timeout_seconds" defaultTimeout checkTimeout es =
      .ok s.timeout := by
  rw [checkEvaluator, bind_eq_ok] at h
  obtain ⟨es, hes, h⟩ := h
  -- The time is the third of four fields.
  simp only [app_eq_ok] at h
  obtain ⟨_, _, ⟨_, _, ⟨_, _, ⟨_, _, h, _, rfl⟩, _, rfl⟩, htime, rfl⟩, _, rfl⟩ := h
  cases h
  exact ⟨es, checkMapping_eq_ok.1 hes, htime⟩

/-! ## Files that are there -/

/-- A text is one or more names with points between them. -/
def NamesJoined (s : String) : Prop :=
  ∃ names : List (List Char), names ≠ [] ∧ (∀ name ∈ names, Text.isIdentifier name = true) ∧
    s.toList = List.intercalate ['.'] names

theorem Dotted.namesJoined {s : String} (h : Dotted s) : NamesJoined s :=
  ⟨_, Text.splitAt_ne_nil '.' s.toList, List.all_eq_true.1 h,
    (Text.intercalate_splitAt '.' s.toList).symm⟩

/-- The file is the one that is asked for, or else the one that a search finds. -/
def Chosen (files : FileSystem) (asked : Option Path) (start file : Path) : Prop :=
  asked = some file ∨ asked = none ∧ find files start = .ok (some file)

/-- A fault blames what is in the file, or that it cannot be read. -/
def LoadFault.IsAbout (file : Path) : LoadFault → Prop
  | .invalid path _ => path = file
  | .unreadable path _ => path = file
  | .unreachable _ => False

theorem load_of_chosen {files : FileSystem} {asked : Option Path} {start file : Path}
    (h : Chosen files asked start file) : load files asked start = loadFile files file := by
  rcases h with rfl | ⟨rfl, hfind⟩
  · rfl
  · rw [load, hfind]

theorem ofJson_eq_ok {v : Json} {s : Settings} :
    ofJson v = .ok s ↔
      ∃ members, v = .obj members ∧ ofEntries (Json.toEntries members) = .ok s := by
  unfold ofJson
  cases v with
  | obj members =>
      dsimp only
      cases hs : ofEntries (Json.toEntries members) with
      | error => simp [hs]
      | ok s' => simp [hs]
  | _ => exact iff_of_false nofun nofun

theorem read_eq_ok {text : String} {s : Settings} :
    read text = .ok s ↔ ∃ members, Json.read text = .ok (.obj members) ∧
      ofEntries (Json.toEntries members) = .ok s := by
  unfold read
  cases Json.read text with
  | error => exact iff_of_false nofun nofun
  | ok v =>
      dsimp only
      rw [ofJson_eq_ok]
      simp

theorem loadFile_cases {files : FileSystem} {file : Path} (h : files.isThere file = .ok true) :
    (∃ fault, loadFile files file = .error fault ∧ fault.IsAbout file) ∨
    ∃ s text, loadFile files file = .ok s ∧ files.readText file = .ok text ∧
      read text = .ok s := by
  unfold loadFile
  rw [h]
  dsimp only
  cases htext : files.readText file with
  | error e => exact .inl ⟨_, rfl, rfl⟩
  | ok text =>
      dsimp only
      cases hread : read text with
      | error fault => exact .inl ⟨_, rfl, rfl⟩
      | ok s => exact .inr ⟨s, text, rfl, rfl, hread⟩

/-- Settings from a file that is there are refused with a fault of the file, or their package is
made of names and each of their times is more than zero, unless the file gives it as no number. -/
theorem load_existing {files : FileSystem} {asked : Option Path} {start file : Path}
    (hfile : Chosen files asked start file) (hthere : files.isThere file = .ok true) :
    (∃ fault, load files asked start = .error fault ∧ fault.IsAbout file) ∨
    ∃ s text members, load files asked start = .ok s ∧ files.readText file = .ok text ∧
      Json.read text = .ok (.obj members) ∧ NamesJoined s.policies.package ∧
      (Binary64.zero.lt s.renderer.timeout = true ↔
        ¬ ∃ j ∈ timeout? "renderer" members, GivesNaN j) ∧
      (Binary64.zero.lt s.evaluator.timeout = true ↔
        ¬ ∃ j ∈ timeout? "evaluator" members, GivesNaN j) := by
  rw [load_of_chosen hfile]
  rcases loadFile_cases hthere with hfault | ⟨s, text, hload, htext, hread⟩
  · exact .inl hfault
  · obtain ⟨members, hmembers, hs⟩ := read_eq_ok.1 hread
    obtain ⟨-, hrenderer, hevaluator⟩ := sections_of_ofEntries hs
    exact .inr ⟨s, text, members, hload, htext, hmembers, (package_of_ofEntries hs).namesJoined,
      positive_of_section time_of_checkRenderer rfl hrenderer,
      positive_of_section time_of_checkEvaluator rfl hevaluator⟩

/-- A file above the directory, with its times in both spellings. -/
theorem load_existing_short_times :
    let text := "\x7b\"renderer\": \x7b\"timeoutSeconds\": \" 1e-3 \"\x7d, " ++
      "\"evaluator\": \x7b\"timeout_seconds\": 5\x7d\x7d"
    let files : FileSystem :=
      ⟨[(["w"], .directory), (["w", ".kubepolicy.json"], .file text.toUTF8)],
        { here := ["w", "a"] }⟩
    let file := Path.ofLocation ["w", ".kubepolicy.json"]
    Chosen files none ⟨.none, []⟩ file ∧ files.isThere file = .ok true ∧
      ∃ s, load files none ⟨.none, []⟩ = .ok s ∧ NamesJoined s.policies.package ∧
        Binary64.zero.lt s.renderer.timeout = true ∧
        Binary64.zero.lt s.evaluator.timeout = true := by
  intro text files file
  have hchosen : Chosen files none ⟨.none, []⟩ file := .inr ⟨rfl, by decide +kernel⟩
  have hthere : files.isThere file = .ok true := by decide +kernel
  have hpositive : ∃ s, load files none ⟨.none, []⟩ = .ok s ∧
      Binary64.zero.lt s.renderer.timeout = true ∧
      Binary64.zero.lt s.evaluator.timeout = true := by decide +kernel
  refine ⟨hchosen, hthere, ?_⟩
  obtain ⟨s, hs, hpositive⟩ := hpositive
  rcases load_existing hchosen hthere with ⟨fault, hfault, -⟩ | ⟨s', _, _, hs', -, -, hnames, -⟩
  · rw [hs] at hfault
    cases hfault
  · rw [hs] at hs'
    cases hs'
    exact ⟨s, hs, hnames, hpositive⟩

/-- A file with a time that is no number is accepted. -/
theorem loaded_time_is_no_number :
    let text := "\x7b\"renderer\":\x7b\"timeoutSeconds\":NaN\x7d\x7d"
    let files : FileSystem := ⟨[([".kubepolicy.json"], .file text.toUTF8)], { here := [] }⟩
    let file := Path.ofLocation [".kubepolicy.json"]
    Chosen files none ⟨.none, []⟩ file ∧ files.isThere file = .ok true ∧
      ∃ s, load files none ⟨.none, []⟩ = .ok s ∧
        Binary64.zero.lt s.renderer.timeout = false := by
  intro text files file
  exact ⟨.inr ⟨rfl, by decide +kernel⟩, by decide +kernel, by decide +kernel⟩

end Settings

end ManifestPolicy
