import ManifestPolicy.Settings.Check

/-!
# What accepted settings are like

A check that succeeds has succeeded in all its parts, and so whatever a part
makes sure of can be relied on in the whole. Settings that were accepted have
sections that were (`sections_of_ofEntries`). Here this is followed for the
package of the policies: it consists of names with points between them
(`package_of_ofEntries`).
-/

namespace ManifestPolicy

/-! ## Checks that succeed -/

namespace Checked

variable {α β γ : Type}

theorem both_eq_ok {f : α → β → γ} {a : Checked α} {b : Checked β} {c : γ} :
    both f a b = .ok c ↔ ∃ x y, a = .ok x ∧ b = .ok y ∧ f x y = c := by
  cases a with
  | error is => cases b <;> simp [both]
  | ok x =>
      cases b with
      | error js => simp [both]
      | ok y => simp [both]

theorem app_eq_ok {f : Checked (α → β)} {a : Checked α} {b : β} :
    app f a = .ok b ↔ ∃ g x, f = .ok g ∧ a = .ok x ∧ g x = b := both_eq_ok

theorem under_eq_ok {key : String} {a : Checked α} {x : α} :
    under key a = .ok x ↔ a = .ok x := by
  cases a <;> simp [under]

theorem named_eq_ok {form : String} {a : Checked α} {x : α} :
    named form a = .ok x ↔ a = .ok x := by
  cases a <;> simp [named]

end Checked

open Checked

/-- A field with a default has passed its check, or has its default. -/
theorem optional_eq_ok {α : Type} {key : String} {dflt : α} {check : Value → Checked α}
    {entries : List (Value × Value)} {x : α} (h : optional key dflt check entries = .ok x) :
    x = dflt ∨ ∃ v, check v = .ok x := by
  rw [optional, under_eq_ok] at h
  split at h
  · next v _ => exact .inr ⟨v, h⟩
  · injection h with h
    exact .inl h.symm

namespace Settings

/-! ## The package -/

/-- A text is made of identifiers with points between them. -/
def Dotted (s : String) : Prop := (Text.splitAt '.' s.toList).all Text.isIdentifier = true

theorem dotted_of_checkPackage {v : Value} {s : String} (h : checkPackage v = .ok s) :
    Dotted s := by
  unfold checkPackage at h
  split at h
  · cases h
  · split at h
    · next hall =>
        injection h with h
        rw [← h]
        exact hall
    · cases h

theorem dotted_default : Dotted ({} : PolicySettings).package := by
  unfold Dotted
  decide +kernel

theorem package_of_checkPolicies {v : Value} {s : PolicySettings}
    (h : checkPolicies v = .ok s) : Dotted s.package := by
  simp only [checkPolicies, bind, Except.bind] at h
  split at h
  · cases h
  · -- The package is the fourth of six fields, counted from the innermost one.
    simp only [app_eq_ok] at h
    obtain ⟨_, _, ⟨_, _, ⟨_, package, ⟨_, _, ⟨_, _, ⟨_, _, h, _, rfl⟩, _, rfl⟩, _, rfl⟩,
      hpackage, rfl⟩, _, rfl⟩, _, rfl⟩ := h
    cases h
    rcases optional_eq_ok hpackage with rfl | ⟨v, hv⟩
    · exact dotted_default
    · exact dotted_of_checkPackage hv

/-- The sections on policies, rendering and evaluation have passed their checks. -/
theorem sections_of_ofEntries {es : List (Value × Value)} {s : Settings}
    (h : ofEntries es = .ok s) :
    optional "policies" {} checkPolicies es = .ok s.policies ∧
    optional "renderer" {} checkRenderer es = .ok s.renderer ∧
    optional "evaluator" {} checkEvaluator es = .ok s.evaluator := by
  rw [ofEntries, named_eq_ok, checkSections, both_eq_ok] at h
  obtain ⟨_, _, h, _, rfl⟩ := h
  -- They are the first three of six sections.
  simp only [app_eq_ok] at h
  obtain ⟨_, _, ⟨_, _, ⟨_, _, ⟨_, _, ⟨_, _, ⟨_, _, h, hpolicies, rfl⟩, hrenderer, rfl⟩,
    hevaluator, rfl⟩, _, rfl⟩, _, rfl⟩, _, rfl⟩ := h
  cases h
  exact ⟨hpolicies, hrenderer, hevaluator⟩

/-- The package of accepted settings is made of identifiers. -/
theorem package_of_ofEntries {es : List (Value × Value)} {s : Settings}
    (h : ofEntries es = .ok s) : Dotted s.policies.package := by
  rcases optional_eq_ok (sections_of_ofEntries h).1 with hdflt | ⟨v, hv⟩
  · rw [hdflt]
    exact dotted_default
  · exact package_of_checkPolicies hv

end Settings

end ManifestPolicy
