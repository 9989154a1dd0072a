import ManifestPolicy.Proofs.IntegerLimit
import ManifestPolicy.Proofs.JsonReading
import ManifestPolicy.Tool.Evaluator

/-!
# The two forms of the evaluator's output

The evaluator prints the reasons of denial as a list, or as a report whose
results have expressions whose values are such lists. The two readers of its
output go through the two forms in different ways. They find the same: the
reasons of a report are those of the list that its lists make together
(`ReportOf`), in whatever layout the one or the other is written.

That reasons can be shown as text has to do with integers only, and an integer
that was read is short enough to be written (`shown_of_read`).
-/

namespace ManifestPolicy

namespace Json

open Text

/-! ## What was read can be shown -/

/-- The value can be shown as text. -/
def Shown (v : Json) : Prop := ∃ text, displayInner v = .ok text

variable {v : Json} {vs : List Json} {ms : List (String × Json)}

theorem shown_int {n : Int} : Shown (.int n) ↔ n.natAbs < 10 ^ Integer.digitLimit := by
  rw [← Integer.exists_write_iff]
  constructor
  · rintro ⟨text, h⟩
    rw [displayInner] at h
    obtain ⟨s, hs, _⟩ := map_eq_ok.1 h
    exact ⟨s, hs⟩
  · rintro ⟨s, hs⟩
    refine ⟨s.toList, ?_⟩
    rw [displayInner, hs]
    rfl

theorem shown_items : (∃ text, displayItems vs = .ok text) ↔ ∀ v ∈ vs, Shown v := by
  induction vs with
  | nil => exact ⟨fun _ => by simp, fun _ => ⟨[], by rw [displayItems]; rfl⟩⟩
  | cons v vs ih =>
      rw [List.forall_mem_cons, ← ih]
      cases vs with
      | nil =>
          rw [displayItems]
          exact ⟨fun h => ⟨h, ih.2 (by simp)⟩, fun h => h.1⟩
      | cons w ws =>
          rw [displayItems.eq_3 v (w :: ws) (by simp)]
          constructor
          · rintro ⟨text, h⟩
            obtain ⟨head, hhead, h⟩ := bind_eq_ok.1 h
            obtain ⟨tail, htail, _⟩ := bind_eq_ok.1 h
            exact ⟨⟨head, hhead⟩, tail, htail⟩
          · rintro ⟨⟨head, hhead⟩, tail, htail⟩
            exact ⟨_, bind_eq_ok.2 ⟨head, hhead, bind_eq_ok.2 ⟨tail, htail, rfl⟩⟩⟩

theorem shown_arr : Shown (.arr vs) ↔ ∀ v ∈ vs, Shown v := by
  rw [← shown_items]
  constructor
  · rintro ⟨text, h⟩
    rw [displayInner] at h
    obtain ⟨body, hbody, _⟩ := bind_eq_ok.1 h
    exact ⟨body, hbody⟩
  · rintro ⟨body, hbody⟩
    rw [Shown, displayInner]
    exact ⟨_, bind_eq_ok.2 ⟨body, hbody, rfl⟩⟩

theorem shown_members : (∃ text, displayMembers ms = .ok text) ↔ ∀ m ∈ ms, Shown m.2 := by
  induction ms with
  | nil => exact ⟨fun _ => by simp, fun _ => ⟨[], by rw [displayMembers]; rfl⟩⟩
  | cons m ms ih =>
      rw [List.forall_mem_cons, ← ih]
      cases ms with
      | nil =>
          rw [displayMembers]
          constructor
          · rintro ⟨text, h⟩
            obtain ⟨text, htext, _⟩ := bind_eq_ok.1 h
            exact ⟨⟨text, htext⟩, ih.2 (by simp)⟩
          · rintro ⟨⟨text, htext⟩, _⟩
            exact ⟨_, bind_eq_ok.2 ⟨text, htext, rfl⟩⟩
      | cons m' ms =>
          obtain ⟨name, v⟩ := m
          rw [displayMembers.eq_3 name v (m' :: ms) (by simp)]
          constructor
          · rintro ⟨text, h⟩
            obtain ⟨head, hhead, h⟩ := bind_eq_ok.1 h
            obtain ⟨tail, htail, _⟩ := bind_eq_ok.1 h
            exact ⟨⟨head, hhead⟩, tail, htail⟩
          · rintro ⟨⟨head, hhead⟩, tail, htail⟩
            exact ⟨_, bind_eq_ok.2 ⟨head, hhead, bind_eq_ok.2 ⟨tail, htail, rfl⟩⟩⟩

theorem shown_obj : Shown (.obj ms) ↔ ∀ m ∈ ms, Shown m.2 := by
  rw [← shown_members]
  constructor
  · rintro ⟨text, h⟩
    rw [displayInner] at h
    obtain ⟨body, hbody, _⟩ := bind_eq_ok.1 h
    exact ⟨body, hbody⟩
  · rintro ⟨body, hbody⟩
    rw [Shown, displayInner]
    exact ⟨_, bind_eq_ok.2 ⟨body, hbody, rfl⟩⟩

theorem shown_number {cs after : List Char} (h : number cs = .ok (v, after)) : Shown v := by
  obtain ⟨whole, rest, _, hv, _⟩ := number_eq_ok h
  unfold numberOf at hv
  split at hv
  · split at hv
    · next n hread =>
        cases hv
        rw [shown_int]
        have hlt := Integer.natAbs_lt_of_read hread
        split
        · rwa [Int.natAbs_neg]
        · exact hlt
    · cases hv
  · cases hv
    exact ⟨_, rfl⟩

theorem shown_atom {cs after : List Char} (h : atom cs = .ok (v, after)) : Shown v := by
  rw [atom_eq] at h
  split at h
  · next p hnamed =>
      cases h
      obtain ⟨w, hw, hsome⟩ := List.exists_of_findSome?_eq_some hnamed
      obtain ⟨rest, hrest, hpair⟩ := Option.map_eq_some_iff.1 hsome
      cases hpair
      simp only [words, List.mem_cons, List.not_mem_nil, or_false] at hw
      rcases hw with rfl | rfl | rfl | rfl | rfl | rfl <;> exact ⟨_, rfl⟩
  · exact shown_number h

theorem shown_put (name : String) (hms : ∀ m ∈ ms, Shown m.2) (hv : Shown v) :
    ∀ m ∈ put name v ms, Shown m.2 := by
  induction ms with
  | nil =>
      intro m hm
      rw [put, List.mem_singleton] at hm
      rw [hm]
      exact hv
  | cons m ms ih =>
      rw [List.forall_mem_cons] at hms
      rw [put]
      split
      · exact List.forall_mem_cons.2 ⟨hv, hms.2⟩
      · exact List.forall_mem_cons.2 ⟨hms.1, ih hms.2⟩

/-- Whatever the budget, what the three readers read can be shown. -/
theorem shown_values (fuel : Nat) :
    (∀ cs v after, value fuel cs = .ok (v, after) → Shown v) ∧
    (∀ cs vs after, elements fuel cs = .ok (vs, after) → ∀ v ∈ vs, Shown v) ∧
    ∀ cs seen ms after, members fuel cs seen = .ok (ms, after) → (∀ m ∈ seen, Shown m.2) →
      ∀ m ∈ ms, Shown m.2 := by
  induction fuel with
  | zero =>
      refine ⟨fun cs v after h => ?_, fun cs vs after h => ?_, fun cs seen ms after h => ?_⟩
      · rw [value] at h
        cases h
      · rw [elements] at h
        cases h
      · rw [members] at h
        cases h
  | succ fuel ih =>
      obtain ⟨hvalue, helements, hmembers⟩ := ih
      refine ⟨fun cs v after h => ?_, fun cs vs after h => ?_, fun cs seen ms after h hseen => ?_⟩
      · cases readsValue_of_value h with
        | str hs => exact ⟨_, rfl⟩
        | noElements hrest => exact ⟨_, rfl⟩
        | arr _ hvs => exact shown_arr.2 (helements _ _ _ hvs)
        | noMembers hrest => exact ⟨_, rfl⟩
        | obj _ hms => exact shown_obj.2 (hmembers _ _ _ _ hms (by simp))
        | atom _ _ _ hv => exact shown_atom hv
      · obtain ⟨v, rest, hv, ⟨_, rfl⟩ | ⟨more, vs, _, hvs, rfl⟩⟩ := elements_eq_ok.1 h
        · exact List.forall_mem_singleton.2 (hvalue _ _ _ hv)
        · exact List.forall_mem_cons.2 ⟨hvalue _ _ _ hv, helements _ _ _ hvs⟩
      · obtain ⟨name, v, rest, ⟨_, _, _, _, _, _, hv⟩, hms⟩ := members_eq_ok.1 h
        have hput := shown_put name hseen (hvalue _ _ _ hv)
        rcases hms with ⟨_, rfl⟩ | ⟨more, _, hms⟩
        · exact hput
        · exact hmembers _ _ _ _ hms hput

theorem shown_of_read {text : String} (h : read text = .ok v) : Shown v := by
  obtain ⟨_, pre, _, _, _, _, hread⟩ := read_eq_ok.1 h
  exact (shown_values pre.length).1 _ _ _ (hread.again [] _ apart_nil (Nat.le_refl _))

end Json

namespace Output

open Text

/-! ## Reports -/

/-- The expression has these reasons. -/
def ExpressionOf (vs : List Json) (e : Json) : Prop :=
  ∃ ms, e = .obj ms ∧ Json.member? "value" ms = some (.arr vs)

/-- The result has expressions with these reasons. -/
def ResultOf (vss : List (List Json)) (r : Json) : Prop :=
  ∃ ms es, r = .obj ms ∧ Json.member? "expressions" ms = some (.arr es) ∧
    List.Forall₂ ExpressionOf vss es

/-- The report has results with these reasons, and no members that a report may not have. -/
def ReportOf (groups : List (List (List Json))) (j : Json) : Prop :=
  ∃ ms rs, j = .obj ms ∧ (∀ m ∈ ms, m.1 ∈ reportMembers) ∧
    Json.member? "result" ms = some (.arr rs) ∧ List.Forall₂ ResultOf groups rs

/-- The text is a list of these reasons, or a report of them. -/
def Names (flat : List Json) (text : String) : Prop :=
  Json.read text = .ok (.arr flat) ∨
    ∃ j groups, Json.read text = .ok j ∧ ReportOf groups j ∧ groups.flatten.flatten = flat

section Traversals

variable {vs : List Json} {vss : List (List Json)} {groups : List (List (List Json))}
  {es rs : List Json} {e r : Json} {ms : List (String × Json)}

theorem ExpressionOf.value (h : ExpressionOf vs e) : memberOr "value" .null e = .ok (.arr vs) := by
  obtain ⟨ms, rfl, hvalue⟩ := h
  rw [memberOr, hvalue]
  rfl

theorem ResultOf.expressions (h : ResultOf vss r) :
    ∃ es, expressions r = .ok es ∧ List.Forall₂ ExpressionOf vss es := by
  obtain ⟨ms, es, rfl, hes, hforms⟩ := h
  refine ⟨es, ?_, hforms⟩
  rw [Output.expressions, memberOr, hes]
  rfl

theorem results_eq (h : Json.member? "result" ms = some (.arr rs)) : results ms = .ok rs := by
  rw [results, h]
  cases rs <;> rfl

theorem allVoid_eq (h : List.Forall₂ ExpressionOf vss es) :
    allVoid es = .ok vss.flatten.isEmpty := by
  induction h with
  | nil => rfl
  | @cons vs e vss es hexpression _ ih =>
      rw [allVoid, hexpression.value]
      cases vs with
      | nil => exact ih
      | cons v vs => rfl

theorem allResultsVoid_eq (h : List.Forall₂ ResultOf groups rs) :
    allResultsVoid rs = .ok groups.flatten.flatten.isEmpty := by
  induction h with
  | nil => rfl
  | @cons vss r groups rs hresult _ ih =>
      obtain ⟨es, hes, hforms⟩ := hresult.expressions
      rw [allResultsVoid, hes]
      change (allVoid es >>= fun b => if b then allResultsVoid rs else .ok false) = _
      rw [allVoid_eq hforms, List.flatten_cons, List.flatten_append]
      cases vss.flatten with
      | nil => exact ih
      | cons v vs => rfl

theorem values_eq (hresult : Json.member? "result" ms = some (.arr rs))
    (h : List.Forall₂ ResultOf groups rs) : values ms = .ok (groups.flatten.map .arr) := by
  have hvalues : rs.mapM (fun r => do (← expressions r).mapM (memberOr "value" .null)) =
      .ok (groups.map fun vss => vss.map .arr) := by
    refine mapM_of_forall₂ ?_
    rw [List.forall₂_map_right_iff]
    refine h.flip.imp fun r vss hr => ?_
    obtain ⟨es, hes, hforms⟩ := ResultOf.expressions hr
    refine bind_eq_ok.2 ⟨es, hes, mapM_of_forall₂ ?_⟩
    rw [List.forall₂_map_right_iff]
    exact hforms.flip.imp fun e vs he => ExpressionOf.value he
  refine bind_eq_ok.2 ⟨rs, results_eq hresult, bind_eq_ok.2 ⟨_, hvalues, ?_⟩⟩
  rw [List.map_flatten]
  rfl

end Traversals

/-! ## The two readers -/

section Readers

variable {flat : List Json} {text : String} {v : Json}

/-- Whether the output names no reason is up to the value that it is read as. -/
theorem isEmpty_of_read (h : Json.read text = .ok v) : isEmpty text =
    match v with
    | .null => .ok true
    | .arr [] => .ok true
    | .obj members =>
      if members.all fun m => reportMembers.contains m.1 then do
        allResultsVoid (← results members)
      else .ok false
    | _ => .ok false := by
  obtain ⟨sp, pre, post, htext, hsp, hpost, hread⟩ := Json.read_eq_ok.1 h
  have hstrip : strip text.toList = pre := by
    rw [htext]
    exact Json.strip_piece (fun c hc => Json.isBlank_of_isSpace (hsp c hc))
      (fun c hc => Json.isBlank_of_isSpace (hpost c hc)) hread.opens hread.closes
  have hne : (strip text.toList).isEmpty = false := by
    obtain ⟨c, rest, rfl, _⟩ := hread.opens
    rw [hstrip]
    rfl
  unfold isEmpty
  dsimp only
  rw [hne, Json.read_strip h]
  cases v with
  | arr items => cases items <;> rfl
  | null | bool | int | float | str | obj => rfl

theorem Names.isEmpty_eq (h : Names flat text) : isEmpty text = .ok flat.isEmpty := by
  rcases h with h | ⟨j, groups, h, ⟨ms, rs, rfl, hmembers, hresult, hforms⟩, rfl⟩
  · rw [isEmpty_of_read h]
    cases flat <;> rfl
  · rw [isEmpty_of_read h]
    dsimp only
    rw [if_pos (by simpa using hmembers), results_eq hresult]
    exact allResultsVoid_eq hforms

theorem Names.reasons_eq (h : Names flat text) : reasons text = flat.mapM reason := by
  rcases h with h | ⟨j, groups, h, ⟨ms, rs, rfl, _, hresult, hforms⟩, rfl⟩
  · rw [reasons, h]
  · rw [reasons, h]
    dsimp only
    rw [values_eq hresult hforms]
    change ((groups.flatten.map Json.arr).flatMap listItems).mapM reason = _
    rw [List.flatMap_map, List.flatMap_def]
    simp [listItems]

theorem exists_mem_of_forall₂ {α β : Type} {R : α → β → Prop} {xs : List α} {ys : List β}
    (h : List.Forall₂ R xs ys) {x : α} (hx : x ∈ xs) : ∃ y ∈ ys, R x y := by
  obtain ⟨i, hi, rfl⟩ := List.getElem_of_mem hx
  exact ⟨_, List.getElem_mem (h.length_eq ▸ hi), h.get hi _⟩

theorem shown_member {name : String} {ms : List (String × Json)} (h : Json.Shown (.obj ms))
    (hv : Json.member? name ms = some v) : v.Shown := by
  obtain ⟨m, hm, rfl⟩ := Option.map_eq_some_iff.1 hv
  exact Json.shown_obj.1 h m (List.mem_of_find?_eq_some hm)

theorem Names.shown (h : Names flat text) : ∀ v ∈ flat, v.Shown := by
  rcases h with h | ⟨j, groups, h, ⟨ms, rs, rfl, _, hresult, hforms⟩, rfl⟩
  · exact Json.shown_arr.1 (Json.shown_of_read h)
  · intro v hv
    obtain ⟨vs, hvs, hv⟩ := List.mem_flatten.1 hv
    obtain ⟨vss, hvss, hvs⟩ := List.mem_flatten.1 hvs
    have hrs := Json.shown_arr.1 (shown_member (Json.shown_of_read h) hresult)
    obtain ⟨_, hr, ms, es, rfl, hes, hexpressions⟩ := exists_mem_of_forall₂ hforms hvss
    have hes := Json.shown_arr.1 (shown_member (hrs _ hr) hes)
    obtain ⟨_, he, ms, rfl, hvalue⟩ := exists_mem_of_forall₂ hexpressions hvs
    exact Json.shown_arr.1 (shown_member (hes _ he) hvalue) v hv

theorem exists_reason (h : v.Shown) :
    ∃ s, reason v = .ok s ∧ ∀ verbatim, v = .str verbatim → s = verbatim := by
  cases v with
  | str s => exact ⟨s, rfl, fun _ h => (by cases h; rfl)⟩
  | null | bool | int | float | arr | obj =>
      obtain ⟨text, htext⟩ := h
      refine ⟨String.ofList text, ?_, nofun⟩
      rw [reason, Json.display, htext]
      · rfl
      · simp

/-- There is a reason as text for each that the output names. -/
theorem Names.exists_texts (h : Names flat text) : ∃ texts, flat.mapM reason = .ok texts ∧
    List.Forall₂ (fun v s => reason v = .ok s ∧ ∀ verbatim, v = .str verbatim → s = verbatim)
      flat texts := by
  have hshown := h.shown
  clear h
  induction flat with
  | nil => exact ⟨[], rfl, .nil⟩
  | cons v vs ih =>
      rw [List.forall_mem_cons] at hshown
      obtain ⟨s, hs⟩ := exists_reason hshown.1
      obtain ⟨texts, hmap, htexts⟩ := ih hshown.2
      refine ⟨s :: texts, ?_, .cons hs htexts⟩
      rw [List.mapM_cons, hs.1, hmap]
      rfl

/-- The form and the layout of an output do not matter to the two readers, nor
to what the evaluator answers: the reasons that are named do. -/
theorem same_reasons_same_reading {other : String} (h : Names flat text) (h' : Names flat other) :
    isEmpty text = .ok flat.isEmpty ∧
    (∃ texts, reasons text = .ok texts ∧ reasons other = .ok texts ∧
      List.Forall₂ (fun v s => reason v = .ok s ∧ ∀ verbatim, v = .str verbatim → s = verbatim)
        flat texts) ∧
    ∀ (e : Evaluator) (document policy : Path) (c : Completion), c.failed = false →
      c.stdout = text →
      e.output document policy (.completed c) = .ok (if flat.isEmpty then "" else text) := by
  obtain ⟨texts, hmap, htexts⟩ := h.exists_texts
  refine ⟨h.isEmpty_eq, ⟨texts, ?_, ?_, htexts⟩, ?_⟩
  · rw [h.reasons_eq, hmap]
  · rw [h'.reasons_eq, hmap]
  · rintro e document policy c hc rfl
    rw [Evaluator.output, if_neg (by simp [hc]), h.isEmpty_eq]
    cases flat.isEmpty <;> rfl

/-- A report with two results, and the list of its reasons on two lines. -/
theorem two_layouts :
    let flat := [Json.str "no limits", .int 7]
    let report := "\x7b\"result\": [\x7b\"expressions\": [\x7b\"value\": [\"no limits\"]\x7d, \x7b\"value\": []\x7d]\x7d, \x7b\"expressions\": [\x7b\"value\": [7]\x7d]\x7d]\x7d"
    let list := " [\"no limits\",\n  7]\n"
    (Names flat report ∧ Names flat list) ∧
      isEmpty report = .ok false ∧ ∃ texts, reasons report = .ok texts ∧ reasons list = .ok texts := by
  intro flat report list
  have hreport : Names flat report := by
    have hread : ∃ j, Json.read report = .ok j ∧ j = .obj [("result", .arr [
        .obj [("expressions", .arr [.obj [("value", .arr [.str "no limits"])], .obj [("value", .arr [])]])],
        .obj [("expressions", .arr [.obj [("value", .arr [.int 7])]])]])] := by decide +kernel
    obtain ⟨_, hread, rfl⟩ := hread
    refine .inr ⟨_, [[[.str "no limits"], []], [[.int 7]]], hread, ⟨_, _, rfl, ?_, rfl, ?_⟩, rfl⟩
    · decide
    · exact .cons ⟨_, _, rfl, rfl, .cons ⟨_, rfl, rfl⟩ (.cons ⟨_, rfl, rfl⟩ .nil)⟩
        (.cons ⟨_, _, rfl, rfl, .cons ⟨_, rfl, rfl⟩ .nil⟩ .nil)
  have hlist : Names flat list := by
    have hread : ∃ j, Json.read list = .ok j ∧ j = .arr flat := by decide +kernel
    obtain ⟨_, hread, rfl⟩ := hread
    exact .inl hread
  obtain ⟨hempty, ⟨texts, hreasons, hreasons', _⟩, _⟩ := same_reasons_same_reading hreport hlist
  exact ⟨⟨hreport, hlist⟩, hempty, texts, hreasons, hreasons'⟩

end Readers

end Output

end ManifestPolicy
