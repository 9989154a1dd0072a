import ManifestPolicy.Proofs.EvaluatorReport
import ManifestPolicy.Proofs.ReportShown

/-!
# Outputs that cannot be gone through

Output that is no JSON is text, and JSON that is no report names its reasons
itself; neither reader fails on them. A report they go through, and there they
expect results that are objects, with expressions that are objects. They do not
look whether this is so.

What they meet on their way is a list: values, and a fault where something is
not as expected (`met`). Both readers are functions of this list. The one that
lists the reasons fails if there is a fault in it (`values_eq_mapM`), the one
that asks for a denial fails if no denial comes before the first fault
(`allResultsVoid_eq_verdict`). There is a fault in it exactly if the report is
not of the expected form (`sound_iff`).

Whatever uses the readers fails with them, and has nothing else to fail of in an
output: the evaluator, results as JSON, and reporters in every form.
-/

namespace ManifestPolicy

namespace Output

open Text

/-! ## What is met in a report -/

/-- What is met in the parts of a value, or that one cannot go through it. -/
def through (v : Json) (inside : Json → List (Except Fault Json)) : List (Except Fault Json) :=
  match iterate v with
  | .error f => [.error f]
  | .ok parts => parts.flatMap inside

/-- What is met in a result: the values of its expressions. -/
def resultMet (r : Json) : List (Except Fault Json) :=
  match memberOr "expressions" (.arr []) r with
  | .error f => [.error f]
  | .ok es => through es fun e => [memberOr "value" .null e]

/-- The results of a report as they are gone through. -/
def resultList (ms : List (String × Json)) : Json :=
  let r := (Json.member? "result" ms).getD .null
  if r.isVoid then .arr [] else r

/-- What is met in a report. -/
def met (ms : List (String × Json)) : List (Except Fault Json) := through (resultList ms) resultMet

/-- Whether all values are void, as far as the first that is not, or the first fault. -/
def verdict : List (Except Fault Json) → Except Fault Bool
  | [] => .ok true
  | .error f :: _ => .error f
  | .ok v :: xs => if v.isVoid then verdict xs else .ok false

/-- There is no fault among what is met. -/
def Faultless (xs : List (Except Fault Json)) : Prop := ∀ x ∈ xs, ∃ v, x = .ok v

/-- A denial is met before any fault. -/
def Decided (xs : List (Except Fault Json)) : Prop :=
  ∀ before f after, xs = before ++ .error f :: after → ∃ v, .ok v ∈ before ∧ v.isVoid = false

section Met

variable {xs ys : List (Except Fault Json)} {v r : Json} {ms : List (String × Json)}

/-! ### The reader that asks for a denial -/

theorem verdict_append (xs ys : List (Except Fault Json)) :
    verdict (xs ++ ys) = verdict xs >>= fun b => if b then verdict ys else .ok false := by
  induction xs with
  | nil => rfl
  | cons x xs ih =>
      cases x with
      | error f => rfl
      | ok v =>
          rw [List.cons_append, verdict, verdict]
          split
          · exact ih
          · rfl

theorem allVoid_eq_verdict (es : List Json) :
    allVoid es = verdict (es.flatMap fun e => [memberOr "value" .null e]) := by
  induction es with
  | nil => rfl
  | cons e es ih =>
      rw [allVoid, ih, List.flatMap_cons, List.singleton_append]
      cases memberOr "value" .null e <;> rfl

theorem verdict_resultMet (r : Json) : verdict (resultMet r) = expressions r >>= allVoid := by
  unfold resultMet expressions through
  cases memberOr "expressions" (.arr []) r with
  | error f => rfl
  | ok es =>
      dsimp only
      change _ = iterate es >>= allVoid
      cases iterate es with
      | error f => rfl
      | ok parts => exact (allVoid_eq_verdict parts).symm

theorem allResultsVoid_eq_verdict (ms : List (String × Json)) :
    (results ms >>= allResultsVoid) = verdict (met ms) := by
  have hresults (rs : List Json) : allResultsVoid rs = verdict (rs.flatMap resultMet) := by
    induction rs with
    | nil => rfl
    | cons r rs ih =>
        rw [List.flatMap_cons, verdict_append, verdict_resultMet, allResultsVoid, ih]
        cases expressions r <;> rfl
  change (iterate (resultList ms) >>= allResultsVoid) = _
  unfold met through
  cases iterate (resultList ms) with
  | error f => rfl
  | ok rs => exact hresults rs

theorem exists_verdict : (∃ b, verdict xs = .ok b) ↔ Decided xs := by
  induction xs with
  | nil => exact ⟨fun _ _ _ _ h => by simp at h, fun _ => ⟨true, rfl⟩⟩
  | cons x xs ih =>
      cases x with
      | error f =>
          refine ⟨fun ⟨_, h⟩ => (by cases h), fun h => ?_⟩
          obtain ⟨v, hv, _⟩ := h [] f xs rfl
          cases hv
      | ok v =>
          rw [verdict]
          split
          · next hvoid =>
              rw [ih]
              constructor
              · intro h before f after heq
                cases before with
                | nil => cases heq
                | cons y before =>
                    obtain ⟨w, hw, hne⟩ := h before f after (List.cons.inj heq).2
                    exact ⟨w, List.mem_cons_of_mem y hw, hne⟩
              · intro h before f after heq
                obtain ⟨w, hw, hne⟩ := h (.ok v :: before) f after (congrArg _ heq)
                rcases List.mem_cons.1 hw with hw | hw
                · cases hw
                  rw [hvoid] at hne
                  cases hne
                · exact ⟨w, hw, hne⟩
          · next hvoid =>
              refine iff_of_true ⟨false, rfl⟩ fun before f after heq => ?_
              cases before with
              | nil => cases heq
              | cons y before =>
                  rw [← (List.cons.inj heq).1]
                  exact ⟨v, List.mem_cons_self, by simpa using hvoid⟩

/-! ### The reader that lists the reasons -/

theorem mapM_flatMap {α : Type} (inside : α → List (Except Fault Json)) (parts : List α) :
    (parts.flatMap inside).mapM id =
      (parts.mapM fun p => (inside p).mapM id) >>= fun vss => .ok vss.flatten := by
  induction parts with
  | nil => rfl
  | cons p parts ih =>
      rw [List.flatMap_cons, List.mapM_append, List.mapM_cons, ih]
      cases (inside p).mapM id with
      | error f => rfl
      | ok vs =>
          cases parts.mapM fun p => (inside p).mapM id with
          | error f => rfl
          | ok vss => rfl

theorem mapM_through (v : Json) (inside : Json → List (Except Fault Json)) :
    (through v inside).mapM id =
      iterate v >>= fun parts => (parts.mapM fun p => (inside p).mapM id) >>= fun vss =>
        .ok vss.flatten := by
  unfold through
  cases iterate v with
  | error f => rfl
  | ok parts => exact mapM_flatMap inside parts

theorem mapM_resultMet (r : Json) :
    (resultMet r).mapM id = expressions r >>= fun es => es.mapM (memberOr "value" .null) := by
  have heach (es : List Json) : (es.flatMap fun e => [memberOr "value" .null e]).mapM id =
      es.mapM (memberOr "value" .null) := by
    induction es with
    | nil => rfl
    | cons e es ih =>
        rw [List.flatMap_cons, List.singleton_append, List.mapM_cons, List.mapM_cons, ih]
        rfl
  unfold resultMet expressions through
  cases memberOr "expressions" (.arr []) r with
  | error f => rfl
  | ok es =>
      dsimp only
      change _ = iterate es >>= fun es => es.mapM (memberOr "value" .null)
      cases iterate es with
      | error f => rfl
      | ok parts => exact heach parts

theorem values_eq_mapM (ms : List (String × Json)) : values ms = (met ms).mapM id := by
  unfold met
  rw [mapM_through]
  simp only [mapM_resultMet]
  rfl

/-! ### Reports of the expected form -/

/-- The value is an array of such items, or there is nothing to go through in it. -/
def Walks (p : Json → Prop) (v : Json) : Prop :=
  v = .str "" ∨ v = .obj [] ∨ ∃ items, v = .arr items ∧ ∀ item ∈ items, p item

/-- The result is an object, and its expressions, if there are any, are objects. -/
def SoundResult (r : Json) : Prop :=
  ∃ ms, r = .obj ms ∧ Walks (fun e => ∃ ms, e = .obj ms)
    ((Json.member? "expressions" ms).getD (.arr []))

/-- The report has no results, or an array of results of the expected form. -/
def Sound (ms : List (String × Json)) : Prop := Walks SoundResult (resultList ms)

theorem not_faultless (f : Fault) (xs : List (Except Fault Json)) :
    ¬ Faultless (.error f :: xs) := by
  intro h
  obtain ⟨_, hv⟩ := h _ List.mem_cons_self
  cases hv

/-- Nothing goes through the parts of a string or an object, unless it has none: they are strings,
and nothing is expected of strings. -/
theorem faultless_names {inside : Json → List (Except Fault Json)}
    (hstr : ∀ s, ¬ Faultless (inside (.str s))) (names : List String) :
    Faultless ((names.map Json.str).flatMap inside) ↔ names = [] := by
  cases names with
  | nil => exact iff_of_true nofun rfl
  | cons name names =>
      refine iff_of_false (fun h => hstr name fun x hx => h x ?_) (List.cons_ne_nil _ _)
      exact List.mem_append_left _ hx

theorem faultless_through {inside : Json → List (Except Fault Json)}
    (hstr : ∀ s, ¬ Faultless (inside (.str s))) :
    Faultless (through v inside) ↔ Walks (fun p => Faultless (inside p)) v := by
  unfold through Walks
  cases v with
  | arr items =>
      have hitems : Faultless (items.flatMap inside) ↔ ∀ p ∈ items, Faultless (inside p) :=
        List.forall_mem_flatMap
      rw [iterate]
      dsimp only
      rw [hitems]
      simp
  | str s =>
      have hnames := faultless_names hstr (s.toList.map fun c => String.ofList [c])
      rw [List.map_map, List.map_eq_nil_iff, String.toList_eq_nil_iff] at hnames
      rw [iterate]
      dsimp only
      refine hnames.trans ?_
      simp
  | obj members =>
      have hnames := faultless_names hstr (members.map Prod.fst)
      rw [List.map_map, List.map_eq_nil_iff] at hnames
      rw [iterate]
      dsimp only
      refine hnames.trans ?_
      simp
  | null | bool _ | int _ | float _ =>
      refine iff_of_false (not_faultless _ _) ?_
      rintro (h | h | ⟨_, h, _⟩) <;> cases h

theorem faultless_member {name : String} {dflt : Json} :
    Faultless [memberOr name dflt v] ↔ ∃ ms, v = .obj ms := by
  cases v with
  | obj members => exact iff_of_true (List.forall_mem_singleton.2 ⟨_, rfl⟩) ⟨members, rfl⟩
  | null | bool _ | int _ | float _ | str _ | arr _ =>
      exact iff_of_false (not_faultless _ _) (by rintro ⟨_, h⟩; cases h)

theorem faultless_resultMet : Faultless (resultMet r) ↔ SoundResult r := by
  cases r with
  | obj members =>
      have hstr (s : String) : ¬ Faultless [memberOr "value" .null (.str s)] := not_faultless _ _
      have hexpressions := @faultless_through ((Json.member? "expressions" members).getD (.arr []))
        (fun e => [memberOr "value" .null e]) hstr
      simp only [faultless_member] at hexpressions
      refine hexpressions.trans ⟨fun h => ⟨members, rfl, h⟩, ?_⟩
      rintro ⟨_, h, hwalks⟩
      cases h
      exact hwalks
  | null | bool _ | int _ | float _ | str _ | arr _ =>
      exact iff_of_false (not_faultless _ _) (by rintro ⟨_, h, _⟩; cases h)

theorem sound_iff : Sound ms ↔ Faultless (met ms) := by
  have hwalks := @faultless_through (resultList ms) resultMet fun s => not_faultless _ _
  simp only [faultless_resultMet] at hwalks
  exact hwalks.symm

/-! ### Values that were met can be shown -/

theorem shown_iterate {parts : List Json} (hv : v.Shown) (h : iterate v = .ok parts) :
    ∀ p ∈ parts, p.Shown := by
  have hstr (s : String) : (Json.str s).Shown := ⟨_, rfl⟩
  cases v with
  | arr items =>
      cases h
      exact Json.shown_arr.1 hv
  | str s =>
      cases h
      intro p hp
      obtain ⟨c, _, rfl⟩ := List.mem_map.1 hp
      exact hstr _
  | obj members =>
      cases h
      intro p hp
      obtain ⟨m, _, rfl⟩ := List.mem_map.1 hp
      exact hstr _
  | null | bool _ | int _ | float _ => cases h

theorem shown_through {inside : Json → List (Except Fault Json)} (hv : v.Shown)
    (hinside : ∀ p : Json, p.Shown → ∀ w, .ok w ∈ inside p → w.Shown) :
    ∀ w, .ok w ∈ through v inside → w.Shown := by
  intro w hw
  unfold through at hw
  cases hparts : iterate v with
  | error f =>
      rw [hparts] at hw
      cases List.mem_singleton.1 hw
  | ok parts =>
      rw [hparts] at hw
      obtain ⟨p, hp, hw⟩ := List.mem_flatMap.1 hw
      exact hinside p (shown_iterate hv hparts p hp) w hw

theorem shown_memberOr {name : String} {dflt w : Json} (hdflt : dflt.Shown) (hv : v.Shown)
    (h : memberOr name dflt v = .ok w) : w.Shown := by
  cases v with
  | obj members =>
      cases h
      cases hm : Json.member? name members with
      | none => exact hdflt
      | some u => exact shown_member hv hm
  | null | bool _ | int _ | float _ | str _ | arr _ => cases h

theorem shown_met (h : (Json.obj ms).Shown) : ∀ w, .ok w ∈ met ms → w.Shown := by
  have hnull : Json.null.Shown := ⟨_, rfl⟩
  have hnone : (Json.arr []).Shown := ⟨_, rfl⟩
  have hlist : (resultList ms).Shown := by
    unfold resultList
    dsimp only
    split
    · exact hnone
    · exact @shown_memberOr (.obj ms) "result" .null _ hnull h rfl
  refine shown_through hlist fun r hr w hw => ?_
  unfold resultMet at hw
  cases hes : memberOr "expressions" (.arr []) r with
  | error f =>
      rw [hes] at hw
      cases List.mem_singleton.1 hw
  | ok es =>
      rw [hes] at hw
      refine shown_through (shown_memberOr hnone hr hes) (fun e he w hw => ?_) w hw
      exact shown_memberOr hnull he (List.mem_singleton.1 hw).symm

end Met

/-! ## The two readers -/

section Readers

variable {text : String} {v : Json} {ms : List (String × Json)}

theorem exists_reasons_of_shown {vs : List Json} (h : ∀ v ∈ vs, v.Shown) :
    ∃ rs, vs.mapM reason = .ok rs :=
  exists_mapM.2 fun v hv => by
    obtain ⟨s, hs, _⟩ := exists_reason (h v hv)
    exact ⟨s, hs⟩

/-- The reasons of an output can be listed unless it is a report that is not of the expected
form. -/
theorem exists_reasons :
    (∃ rs, reasons text = .ok rs) ↔ ∀ ms, Json.read text = .ok (.obj ms) → Sound ms := by
  unfold reasons
  cases hread : Json.read text with
  | error f => exact iff_of_true ⟨_, rfl⟩ nofun
  | ok v =>
      have hshown := Json.shown_of_read hread
      cases v with
      | obj members =>
          have hmembers : (∀ ms, (Except.ok (.obj members) : Except Json.Fault Json) =
              .ok (.obj ms) → Sound ms) ↔ Sound members :=
            ⟨fun h => h members rfl, fun h ms heq => by cases heq; exact h⟩
          rw [hmembers, sound_iff]
          dsimp only
          rw [values_eq_mapM]
          constructor
          · rintro ⟨rs, h⟩
            obtain ⟨vs, hvs, _⟩ := bind_eq_ok.1 h
            exact exists_mapM.1 ⟨vs, hvs⟩
          · intro h
            obtain ⟨vs, hvs⟩ := exists_mapM.2 h
            have hitems : ∀ w ∈ vs.flatMap listItems, w.Shown := by
              intro w hw
              obtain ⟨u, hu, hw⟩ := List.mem_flatMap.1 hw
              obtain ⟨x, hx, rfl⟩ := exists_mem_of_forall₂ (forall₂_of_mapM hvs).flip hu
              have hu : u.Shown := shown_met hshown u hx
              cases u with
              | arr items => exact Json.shown_arr.1 hu w hw
              | null | bool _ | int _ | float _ | str _ | obj _ => cases hw
            obtain ⟨rs, hrs⟩ := exists_reasons_of_shown hitems
            exact ⟨rs, bind_eq_ok.2 ⟨vs, hvs, hrs⟩⟩
      | arr items =>
          exact iff_of_true (exists_reasons_of_shown (Json.shown_arr.1 hshown)) nofun
      | null | bool _ | int _ | float _ | str _ =>
          obtain ⟨s, hs, _⟩ := exists_reason hshown
          exact iff_of_true ⟨[s], bind_eq_ok.2 ⟨s, hs, rfl⟩⟩ nofun

/-- Whether an output names a denial is answered unless it is a report, with no other members
than reports have, in which a fault comes before any denial. -/
theorem exists_isEmpty :
    (∃ b, isEmpty text = .ok b) ↔
      ∀ ms, Json.read (String.ofList (strip text.toList)) = .ok (.obj ms) →
        (∀ m ∈ ms, m.1 ∈ reportMembers) → Decided (met ms) := by
  unfold isEmpty
  dsimp only
  cases hempty : (strip text.toList).isEmpty with
  | true =>
      rw [List.isEmpty_iff.1 hempty]
      refine iff_of_true ⟨true, rfl⟩ fun ms h => ?_
      have hnothing : (Json.read (String.ofList [])).toOption.isNone = true := by decide
      rw [h] at hnothing
      cases hnothing
  | false =>
      rw [if_neg Bool.false_ne_true]
      cases Json.read (String.ofList (strip text.toList)) with
      | error f => exact iff_of_true ⟨false, rfl⟩ nofun
      | ok v =>
          cases v with
          | obj members =>
              have hmembers : (∀ ms, (Except.ok (.obj members) : Except Json.Fault Json) =
                  .ok (.obj ms) → (∀ m ∈ ms, m.1 ∈ reportMembers) → Decided (met ms)) ↔
                  ((∀ m ∈ members, m.1 ∈ reportMembers) → Decided (met members)) :=
                ⟨fun h => h members rfl, fun h ms heq => by cases heq; exact h⟩
              rw [hmembers, ← exists_verdict, ← allResultsVoid_eq_verdict]
              dsimp only
              by_cases hreport : ∀ m ∈ members, m.1 ∈ reportMembers
              · rw [if_pos (by simpa using hreport)]
                exact ⟨fun h _ => h, fun h => h hreport⟩
              · rw [if_neg (by simpa using hreport)]
                exact iff_of_true ⟨false, rfl⟩ fun h => absurd h hreport
          | arr items => cases items <;> exact iff_of_true ⟨_, rfl⟩ nofun
          | null | bool _ | int _ | float _ | str _ => exact iff_of_true ⟨_, rfl⟩ nofun

end Readers

end Output

/-! ## What uses the readers -/

/-- The evaluator fails on an output that it was to answer with exactly if the first reader does. -/
theorem Evaluator.exists_output (e : Evaluator) (document policy : Path) {c : Completion}
    (hc : c.failed = false) :
    (∃ out, e.output document policy (.completed c) = .ok out) ↔
      ∃ b, Output.isEmpty c.stdout = .ok b := by
  rw [Evaluator.output, if_neg (by simp [hc])]
  cases Output.isEmpty c.stdout with
  | error f =>
      refine iff_of_false ?_ ?_
      · rintro ⟨_, h⟩
        cases h
      · rintro ⟨_, h⟩
        cases h
  | ok b => cases b <;> exact iff_of_true ⟨_, rfl⟩ ⟨_, rfl⟩

/-- The result when there were violations, with this output. -/
def Result.withOutput (r : Result) (text : String) : Result :=
  { r with outcome := .violations text }

theorem Result.exists_toJson (r : Result) (text : String) :
    (∃ v, (r.withOutput text).toJson = .ok v) ↔ ∃ rs, Output.reasons text = .ok rs := by
  constructor
  · rintro ⟨v, h⟩
    obtain ⟨rs, hrs, _⟩ := bind_eq_ok.1 h
    exact ⟨rs, hrs⟩
  · rintro ⟨rs, hrs⟩
    exact ⟨_, bind_eq_ok.2 ⟨rs, hrs, rfl⟩⟩

namespace Reporter

/-- Whether a result with violations can be reported is up to its reasons, and to what is shown
around them whatever they are. -/
theorem exists_around (p : Reporter) (r : Result) : ∃ around : Prop, ∀ text,
    p.trouble (.report (r.withOutput text)) = none ↔
      (∃ rs, Output.reasons text = .ok rs) ∧ around := by
  refine ⟨p.ShowsDocument (r.withOutput "") → Markup.Balanced (shownDocument r).toList,
    fun text => ?_⟩
  -- Where the path is shown does not depend on the output.
  have hshows : p.ShowsDocument (r.withOutput text) ↔ p.ShowsDocument (r.withOutput "") := by
    obtain ⟨form, width, quiet⟩ := p
    cases form with
    | table => exact iff_of_true ⟨text, rfl⟩ ⟨"", rfl⟩
    | json | markdown => exact Iff.rfl
  constructor
  · intro hcalm
    obtain ⟨reasons, hreasons⟩ := exists_reasons_of_calm hcalm
    refine ⟨⟨reasons, hreasons⟩, ?_⟩
    rw [← hshows]
    exact (trouble_report p hreasons).1 hcalm
  · rintro ⟨⟨reasons, hreasons⟩, haround⟩
    rw [← hshows] at haround
    exact (trouble_report (r := r.withOutput text) p hreasons).2 haround

end Reporter

namespace Output

end Output

end ManifestPolicy
