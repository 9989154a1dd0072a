import Mathlib.Data.List.TakeWhile
import ManifestPolicy.Proofs.CallOrder
import ManifestPolicy.Proofs.OutputFaults

/-!
# Violations and their reasons

An output counts as a denial unless it is known to name none, and then a run
ends with violations. The reasons are looked for in another way: in a report
only values that are lists are gone through. So there are violations without
reasons, and they come from reports alone, since a text has lines and a value
that is no object is a reason itself.

Which reports these are is said by what stands in them (`ListsReasons`), without
a look at how either reader goes through them (`exists_listed_iff`). A run can
end with such a report only by the word of the evaluator, so that the same
holds of its result (`violations_without_reasons`).
-/

namespace ManifestPolicy

/-! ## Texts that are not blank -/

namespace Text

variable {c : Char} {cs line : List Char}

theorem strip_eq_nil_iff : strip cs = [] ↔ ∀ c ∈ cs, isBlank c = true := by
  rw [strip, dropBlankEnd, List.reverse_eq_nil_iff, List.dropWhile_eq_nil_iff]
  simp only [List.mem_reverse]
  constructor
  · intro h c hc
    rw [← List.takeWhile_append_dropWhile (p := isBlank) (l := cs)] at hc
    rcases List.mem_append.1 hc with hc | hc
    · exact List.mem_takeWhile_imp hc
    · exact h c hc
  · exact fun h c hc => h c ((List.dropWhile_sublist isBlank).subset hc)

theorem isBlank_of_isLineEnd (h : isLineEnd c = true) : isBlank c = true := by
  simp only [isLineEnd, Bool.or_eq_true, beq_iff_eq] at h
  rcases h with ((((((((rfl | rfl) | rfl) | rfl) | rfl) | rfl) | rfl) | rfl) | rfl) | rfl <;> decide

/-- What is not blank stands on some line. -/
theorem exists_mem_linesFrom (hblank : isBlank c = false) (hc : c ∈ line ++ cs) :
    ∃ l ∈ linesFrom line cs, c ∈ l := by
  have hend {d : Char} (hd : isLineEnd d = true) : c ≠ d := by
    rintro rfl
    rw [isBlank_of_isLineEnd hd] at hblank
    cases hblank
  have ended {line rest : List Char} (h : c ∈ line ∨ c ∈ rest)
      (ih : c ∈ rest → ∃ l ∈ linesFrom [] rest, c ∈ l) :
      ∃ l ∈ line.reverse :: linesFrom [] rest, c ∈ l := by
    rcases h with h | h
    · exact ⟨line.reverse, List.mem_cons_self, List.mem_reverse.2 h⟩
    · obtain ⟨l, hl, hc⟩ := ih h
      exact ⟨l, List.mem_cons_of_mem _ hl, hc⟩
  fun_induction linesFrom line cs with
  | case1 line hempty =>
      rw [List.isEmpty_iff.1 hempty] at hc
      cases hc
  | case2 line hempty => exact ⟨line.reverse, List.mem_singleton_self _, by simpa using hc⟩
  | case3 line rest ih =>
      refine ended ?_ ih
      simpa [hend (d := '\r') (by decide), hend (d := '\n') (by decide)] using hc
  | case4 line d rest hne hd ih =>
      refine ended ?_ ih
      simpa [hend hd] using hc
  | case5 line d rest hne hd ih =>
      refine ih ?_
      simpa [or_left_comm, or_assoc] using hc

end Text

namespace Output

open Text

variable {text : String} {ms : List (String × Json)} {v w : Json} {vs : List Json}

/-- A text that is not blank has a line that is not. -/
theorem exists_line (h : strip text.toList ≠ []) :
    (lines text).filter (fun l => !(strip l.toList).isEmpty) ≠ [] := by
  obtain ⟨c, hc, hblank⟩ : ∃ c ∈ text.toList, isBlank c = false := by
    simpa [strip_eq_nil_iff] using h
  have hmem : c ∈ [] ++ text.toList := hc
  obtain ⟨l, hl, hcl⟩ := exists_mem_linesFrom hblank hmem
  refine List.ne_nil_of_mem (a := String.ofList l) (List.mem_filter.2 ⟨List.mem_map_of_mem hl, ?_⟩)
  rw [String.toList_ofList, Bool.not_eq_true', List.isEmpty_eq_false_iff, Ne, strip_eq_nil_iff]
  intro hall
  rw [hall c hcl] at hblank
  cases hblank

/-! ## Reports that list reasons -/

/-- A result of the report has an expression whose value is a list with something in it. -/
def ListsReasons (ms : List (String × Json)) : Prop :=
  ∃ rs r es e v vs, Json.member? "result" ms = some (.arr rs) ∧ .obj r ∈ rs ∧
    Json.member? "expressions" r = some (.arr es) ∧ .obj e ∈ es ∧
    Json.member? "value" e = some (.arr (v :: vs))

theorem eq_arr_of_iterate {parts : List Json} (h : iterate v = .ok parts)
    (hobj : .obj ms ∈ parts) : v = .arr parts := by
  cases v with
  | arr items =>
      cases h
      rfl
  | str s =>
      cases h
      obtain ⟨c, _, hc⟩ := List.mem_map.1 hobj
      cases hc
  | obj members =>
      cases h
      obtain ⟨m, _, hm⟩ := List.mem_map.1 hobj
      cases hm
  | null | bool _ | int _ | float _ => cases h

/-- What is met in objects only is met in the objects of a list. -/
theorem mem_through {inside : Json → List (Except Fault Json)}
    (hobj : ∀ p, .ok w ∈ inside p → ∃ ms, p = .obj ms) :
    .ok w ∈ through v inside ↔
      ∃ parts, v = .arr parts ∧ ∃ ms, .obj ms ∈ parts ∧ .ok w ∈ inside (.obj ms) := by
  constructor
  · intro h
    unfold through at h
    cases hparts : iterate v with
    | error f =>
        rw [hparts] at h
        cases List.mem_singleton.1 h
    | ok parts =>
        rw [hparts] at h
        obtain ⟨p, hp, hw⟩ := List.mem_flatMap.1 h
        obtain ⟨ms, rfl⟩ := hobj p hw
        exact ⟨parts, eq_arr_of_iterate hparts hp, ms, hp, hw⟩
  · rintro ⟨parts, rfl, ms, hms, hw⟩
    exact List.mem_flatMap.2 ⟨.obj ms, hms, hw⟩

/-- A value that is no default is the value of a member. -/
theorem memberOr_eq_ok {name : String} {dflt : Json} (h : w ≠ dflt) :
    memberOr name dflt v = .ok w ↔ ∃ ms, v = .obj ms ∧ Json.member? name ms = some w := by
  cases v with
  | obj ms =>
      cases hm : Json.member? name ms with
      | none => simp [memberOr, hm, Ne.symm h]
      | some u => simp [memberOr, hm]
  | null | bool _ | int _ | float _ | str _ | arr _ =>
      exact iff_of_false (by intro h; cases h) (by rintro ⟨_, h, _⟩; cases h)

theorem mem_resultMet {r : Json} :
    .ok (.arr (v :: vs)) ∈ resultMet r ↔ ∃ ms es e, r = .obj ms ∧
      Json.member? "expressions" ms = some (.arr es) ∧ .obj e ∈ es ∧
      Json.member? "value" e = some (.arr (v :: vs)) := by
  have hvalue (e : Json) : .ok (.arr (v :: vs)) ∈ [memberOr "value" .null e] ↔
      ∃ ms, e = .obj ms ∧ Json.member? "value" ms = some (.arr (v :: vs)) := by
    rw [List.mem_singleton, eq_comm]
    exact memberOr_eq_ok (by simp)
  have hobj (e : Json) (h : .ok (.arr (v :: vs)) ∈ [memberOr "value" .null e]) :
      ∃ ms, e = .obj ms := by
    obtain ⟨ms, he, _⟩ := (hvalue e).1 h
    exact ⟨ms, he⟩
  unfold resultMet
  constructor
  · intro h
    cases hes : memberOr "expressions" (.arr []) r with
    | error f =>
        rw [hes] at h
        cases List.mem_singleton.1 h
    | ok es =>
        rw [hes] at h
        obtain ⟨parts, rfl, e, he, hmet⟩ := (mem_through hobj).1 h
        have hne : Json.arr parts ≠ .arr [] := by
          rintro ⟨⟩
          cases he
        obtain ⟨ms, rfl, hms⟩ := (memberOr_eq_ok hne).1 hes
        obtain ⟨_, ⟨⟩, hv⟩ := (hvalue _).1 hmet
        exact ⟨ms, parts, e, rfl, hms, he, hv⟩
  · rintro ⟨ms, es, e, rfl, hms, he, hv⟩
    rw [memberOr, hms]
    exact (mem_through hobj).2 ⟨es, rfl, e, he, (hvalue _).2 ⟨e, rfl, hv⟩⟩

theorem resultList_eq_cons {r : Json} {rs : List Json} :
    resultList ms = .arr (r :: rs) ↔ Json.member? "result" ms = some (.arr (r :: rs)) := by
  unfold resultList
  dsimp only
  cases hm : Json.member? "result" ms with
  | none => simp [Json.isVoid]
  | some v =>
      rw [Option.getD_some, Option.some.injEq]
      split
      · next hvoid =>
          refine iff_of_false (by simp) ?_
          rintro rfl
          cases hvoid
      · exact Iff.rfl

/-- A list with something in it is met in a report exactly if the report lists reasons. -/
theorem exists_listed_iff : (∃ v vs, .ok (.arr (v :: vs)) ∈ met ms) ↔ ListsReasons ms := by
  have hobj {v : Json} {vs : List Json} (r : Json) (h : .ok (.arr (v :: vs)) ∈ resultMet r) :
      ∃ ms, r = .obj ms := by
    obtain ⟨ms, _, _, hr, _⟩ := mem_resultMet.1 h
    exact ⟨ms, hr⟩
  constructor
  · rintro ⟨v, vs, h⟩
    obtain ⟨rs, hrs, r, hr, hmet⟩ := (mem_through hobj).1 h
    obtain ⟨_, es, e, ⟨⟩, hes, he, hv⟩ := mem_resultMet.1 hmet
    cases rs with
    | nil => cases hr
    | cons r' rs => exact ⟨_, r, es, e, v, vs, resultList_eq_cons.1 hrs, hr, hes, he, hv⟩
  · rintro ⟨rs, r, es, e, v, vs, hrs, hr, hes, he, hv⟩
    cases rs with
    | nil => cases hr
    | cons r' rs =>
        exact ⟨v, vs, (mem_through hobj).2 ⟨_, resultList_eq_cons.2 hrs, r, hr,
          mem_resultMet.2 ⟨r, es, e, rfl, hes, he, hv⟩⟩⟩

/-! ## Denials without reasons -/

/-- The output is a JSON object, and lists no reasons. -/
def Reasonless (text : String) : Prop :=
  ∃ ms, Json.read text = .ok (.obj ms) ∧ ¬ ListsReasons ms

theorem items_eq_nil_iff : vs.flatMap listItems = [] ↔ ∀ v us, .arr (v :: us) ∉ vs := by
  rw [List.flatMap_eq_nil_iff]
  constructor
  · intro h v us hmem
    cases h _ hmem
  · intro h v hv
    cases v with
    | arr items =>
        cases items with
        | nil => rfl
        | cons u us => exact absurd hv (h u us)
    | null | bool _ | int _ | float _ | str _ | obj _ => rfl

theorem items_values_eq_nil_iff (h : values ms = .ok vs) :
    vs.flatMap listItems = [] ↔ ¬ ListsReasons ms := by
  rw [values_eq_mapM] at h
  have hmet : met ms = vs.map .ok := by
    rw [← List.forall₂_eq_eq_eq, List.forall₂_map_right_iff]
    exact forall₂_of_mapM h
  have hmem (v : Json) : .ok v ∈ met ms ↔ v ∈ vs := by
    rw [hmet, List.mem_map]
    simp
  rw [items_eq_nil_iff, ← exists_listed_iff]
  simp only [hmem, not_exists]

theorem mapM_reason_eq_nil_iff {rs : List String} (h : vs.mapM reason = .ok rs) :
    rs = [] ↔ vs = [] := by
  rw [← List.length_eq_zero_iff, ← List.length_eq_zero_iff, (forall₂_of_mapM h).length_eq]

theorem strip_ne_nil_of_isEmpty (h : isEmpty text = .ok false) : strip text.toList ≠ [] := by
  intro hnil
  unfold isEmpty at h
  dsimp only at h
  rw [hnil] at h
  cases h

/-- A denial has no reasons exactly if the output is a report that lists none. -/
theorem reasons_eq_nil_iff {rs : List String} (hempty : isEmpty text = .ok false)
    (hreasons : reasons text = .ok rs) : rs = [] ↔ Reasonless text := by
  unfold Reasonless
  unfold reasons at hreasons
  cases hread : Json.read text with
  | error f =>
      rw [hread] at hreasons
      cases hreasons
      exact iff_of_false (exists_line (strip_ne_nil_of_isEmpty hempty))
        (by rintro ⟨_, h, _⟩; cases h)
  | ok v =>
      rw [hread] at hreasons
      rw [isEmpty_of_read hread] at hempty
      cases v with
      | null => cases hempty
      | arr items =>
          refine iff_of_false ?_ (by rintro ⟨_, h, _⟩; cases h)
          rw [mapM_reason_eq_nil_iff hreasons]
          rintro rfl
          cases hempty
      | obj members =>
          obtain ⟨vs, hvs, hrs⟩ := bind_eq_ok.1 hreasons
          rw [mapM_reason_eq_nil_iff hrs, items_values_eq_nil_iff hvs]
          exact ⟨fun h => ⟨members, rfl, h⟩, by rintro ⟨_, ⟨⟩, h⟩; exact h⟩
      | bool _ | int _ | float _ | str _ =>
          obtain ⟨r, _, hr⟩ := bind_eq_ok.1 hreasons
          cases hr
          exact iff_of_false (List.cons_ne_nil _ _) (by rintro ⟨_, h, _⟩; cases h)

end Output

/-! ## Violations of a run -/

/-- An answer of the evaluator that says something is an output that counts as a denial. -/
theorem Evaluator.isEmpty_of_output {e : Evaluator} {document policy : Path} {a : Answer}
    {out : String} (h : e.output document policy a = .ok out) :
    out = "" ∨ Output.isEmpty out = .ok false := by
  cases a with
  | completed c =>
      rw [output] at h
      split at h
      · cases h
      · split at h
        · cases h
        · cases h
          exact .inl rfl
        · next hempty =>
            cases h
            exact .inr hempty
  | notRun _ | timedOut _ | broken _ => cases h

namespace Validator

variable {v : Validator} {q : Request} {s s' : Session} {text : String}

/-- Trouble is no violation. -/
theorem outcome_ne_violations (t : Trouble) : t.outcome ≠ .violations text := by
  cases t <;> exact nofun

/-- Where a run has ended with violations the output counts as a denial. -/
def Denies : Point → Prop
  | .finished r => ∀ text, r.outcome = .violations text → Output.isEmpty text = .ok false
  | _ => True

theorem denies_verdict (v : Validator) (q : Request) (target policy : Path)
    (warnings : List String) (a : Answer) :
    Denies (.finished (v.verdict q target policy warnings a)) := by
  intro text h
  unfold verdict at h
  split at h
  · exact absurd h (outcome_ne_violations _)
  · next out hout =>
      dsimp only at h
      split at h
      · cases h
      · next hne =>
          cases h
          refine (Evaluator.isEmpty_of_output hout).resolve_left ?_
          rintro rfl
          exact hne rfl

theorem denies_move (v : Validator) (q : Request) {p : Point} (h : Denies p) (s : Session) :
    Denies (v.move q p s).2 := by
  have failed (stage : Stage) (target : Path) (warnings : List String) (t : Trouble) :
      Denies (.finished (failed q stage target warnings t)) :=
    fun _ h => absurd h (outcome_ne_violations t)
  cases p with
  | detect =>
      rw [move]
      split
      · exact failed _ _ _ _
      · trivial
      · dsimp only
        split <;> trivial
  | probe =>
      rw [move]
      split
      · exact failed _ _ _ _
      · trivial
      · trivial
  | render =>
      rw [move]
      split
      · exact failed _ _ _ _
      · trivial
  | fallBack =>
      rw [move]
      split
      · exact failed _ _ _ _
      · split
        · exact failed _ _ _ _
        · trivial
  | compile target warnings =>
      rw [move]
      unfold compiling
      split
      · exact failed _ _ _ _
      · trivial
  | evaluate target policy warnings => exact denies_verdict v q target policy warnings _
  | finished r => exact h

/-- A run ends with violations only by an output that counts as a denial. -/
theorem Visits.denies {p : Point} (h : Visits v q s s' p) : Denies p := by
  induction h with
  | detect => trivial
  | move _ ih => exact denies_move v q ih _

end Validator

namespace Output

/-- Of the outputs that count as a denial and whose reasons can be listed, those without a reason
are the reports that list none; and these are the only outputs with which a run has
violations without a reason. -/
theorem violations_without_reasons :
    (∀ text rs, isEmpty text = .ok false → reasons text = .ok rs → (rs = [] ↔ Reasonless text)) ∧
    ∀ (v : Validator) (q : Request) (s : Session) (r : Result) (text : String) (rs : List String),
      (v.run q s).2 = .ok r → r.outcome = .violations text → r.outcome.reasons = .ok rs →
        (rs = [] ↔ Reasonless text) := by
  refine ⟨fun text rs => reasons_eq_nil_iff, fun v q s r text rs hrun houtcome hreasons => ?_⟩
  obtain ⟨rfl, _⟩ := (v.run_calls q s).2 r hrun
  rw [houtcome] at hreasons
  exact reasons_eq_nil_iff ((v.visits_finished q s).denies text houtcome) hreasons

/-- A workspace without rules, and an evaluator that will print the text. -/
def askedOnce (text : String) : Session :=
  { files := (⟨[], { here := [] }⟩ : FileSystem).plant (.file "rules: []\n".toUTF8) []
      ["w", "policies", "rules.yaml"]
    replies := [⟨[], .completed ⟨0, text, ""⟩⟩] }

/-- A report with a result that lists a reason. -/
theorem violations_without_reasons_listed :
    let text :=
      "\x7b\"result\": [\x7b\"expressions\": [\x7b\"value\": [\"no limits\"]\x7d]\x7d]\x7d"
    let q : Request := ⟨⟨.none, ["pod.yaml"]⟩, ⟨.none, ["w"]⟩, some false, .save⟩
    ∃ r rs, (Validator.run ⟨{}, fun _ => none⟩ q (askedOnce text)).2 = .ok r ∧
      r.outcome = .violations text ∧ r.outcome.reasons = .ok rs ∧ rs ≠ [] ∧
      ¬ Reasonless text := by
  intro text q
  obtain ⟨r, hr, houtcome⟩ : ∃ r, (Validator.run ⟨{}, fun _ => none⟩ q (askedOnce text)).2 = .ok r ∧
      r.outcome = .violations text := by decide +kernel
  obtain ⟨rs, hrs, hne⟩ : ∃ rs, reasons text = .ok rs ∧ rs ≠ [] := by decide +kernel
  have hreasons : r.outcome.reasons = .ok rs := by rw [houtcome]; exact hrs
  have hiff := violations_without_reasons.2 _ q _ r text rs hr houtcome hreasons
  exact ⟨r, rs, hr, houtcome, hreasons, hne, fun h => hne (hiff.2 h)⟩

/-- The value of an expression may count for a denial and be no list. -/
theorem true_is_no_reason :
    let text := "\x7b\"result\": [\x7b\"expressions\": [\x7b\"value\": true\x7d]\x7d]\x7d"
    let q : Request := ⟨⟨.none, ["pod.yaml"]⟩, ⟨.none, ["w"]⟩, some false, .save⟩
    (∃ b, isEmpty text = .ok b ∧ b = false) ∧ (∃ rs, reasons text = .ok rs ∧ rs = []) ∧
      ∃ r, (Validator.run ⟨{}, fun _ => none⟩ q (askedOnce text)).2 = .ok r ∧
        r.outcome = .violations text := by
  refine ⟨by decide +kernel, by decide +kernel, by decide +kernel⟩

end Output

end ManifestPolicy
