import ManifestPolicy.Proofs.Outcome
import ManifestPolicy.Value.Literal

/-!
# A literal is one line

Strings are the only part of a value that can hold a control character, and in
a literal a string is escaped, character by character, so that the characters
below the blank are no longer there. Everything else that is written is fixed
text or made of digits. Hence, whatever a value holds, its literal has no
character below the blank (`Literal.noControls_encode`), by induction on the
value: the same is said of items and of entries along with it. The line feed
is one of those characters, and this is the case that keeps literals to their
lines.
-/

namespace ManifestPolicy

/-! ## Control characters -/

namespace Text

/-- No character is below the blank. -/
def NoControls (cs : List Char) : Prop := ∀ c ∈ cs, 0x20 ≤ c.toNat

variable {c : Char} {cs ds : List Char}

@[simp]
theorem noControls_nil : NoControls [] := fun _ h => nomatch h

@[simp]
theorem noControls_cons : NoControls (c :: cs) ↔ 0x20 ≤ c.toNat ∧ NoControls cs :=
  List.forall_mem_cons

@[simp]
theorem noControls_append : NoControls (cs ++ ds) ↔ NoControls cs ∧ NoControls ds :=
  List.forall_mem_append

theorem NoControls.newline_not_mem (h : NoControls cs) : '\n' ∉ cs :=
  fun hc => absurd (h _ hc) (by decide)

end Text

open Text (NoControls)

/-! ## Numbers -/

theorem Integer.noControls_digits (n : Nat) : NoControls (toString n).toList := by
  intro c hc
  rw [Nat.toString_eq_repr, Nat.toList_repr] at hc
  have hdigit := Nat.isDigit_of_mem_toDigits (by decide) (by decide) hc
  simp only [Char.isDigit, Bool.and_eq_true, decide_eq_true_eq] at hdigit
  have hzero : '0'.toNat ≤ c.toNat := hdigit.1
  exact Nat.le_trans (by decide) hzero

theorem Integer.noControls_write {n : Int} {s : String} (h : write n = .ok s) :
    NoControls s.toList := by
  simp only [write, write?] at h
  split at h
  · next t ht =>
      injection h with h
      obtain ⟨_, ht⟩ := Option.ite_none_right_eq_some.1 ht
      injection ht with ht
      rw [← h, ← ht]
      split
      · rw [String.toList_append, Text.noControls_append]
        exact ⟨by simp, noControls_digits _⟩
      · exact noControls_digits _
  · cases h

theorem Shortest.noControls_layOut (l : Layout) (d : Nat) (g : Int) :
    NoControls (layOut l d g).toList := by
  have hdigits := Integer.noControls_digits d
  have zeros (k : Nat) : NoControls (List.replicate k '0') := fun c hc => by
    rw [List.eq_of_mem_replicate hc]
    decide
  simp only [layOut]
  generalize (toString d).toList = ds at hdigits
  split
  · split
    · simp [zeros, hdigits]
    · split
      · simp [zeros, hdigits]
      · have htake (k : Nat) : NoControls (ds.take k) :=
          fun c hc => hdigits c (List.mem_of_mem_take hc)
        have hdrop (k : Nat) : NoControls (ds.drop k) :=
          fun c hc => hdigits c (List.mem_of_mem_drop hc)
        simp [htake, hdrop]
  · -- With an exponent: the digits with a point, the sign, and the exponent's own digits.
    simp only [String.toList_append, Text.noControls_append]
    refine ⟨⟨?_, ?_⟩, ?_⟩
    · split
      · simpa using hdigits
      · simpa using hdigits
      · simp
    · split <;> simp
    · split
      · rw [String.toList_append, Text.noControls_append]
        exact ⟨by simp, Integer.noControls_digits _⟩
      · exact Integer.noControls_digits _

theorem Binary64.noControls_write (x : Binary64) : NoControls (x.write Shortest.json).toList := by
  cases x with
  | nan => simp [write, Shortest.json]
  | infinite negative => cases negative <;> simp [write, Shortest.json]
  | finite negative m e =>
      have body : NoControls (if m = 0 then "0.0" else
          Shortest.layOut Shortest.json (Shortest.digits m e).1
            (Shortest.digits m e).2).toList := by
        split
        · simp
        · exact Shortest.noControls_layOut _ _ _
      cases negative with
      | false => exact body
      | true =>
          show NoControls ("-" ++ _).toList
          rw [String.toList_append, Text.noControls_append]
          exact ⟨by simp, body⟩

/-! ## Strings -/

namespace Json

theorem noControls_escapedChar (c : Char) : NoControls (escapedChar c) := by
  have hcodes : ((List.range 0x20).all fun n =>
      (Text.Utf8.hexPadded 4 n).toList.all fun d => decide (0x20 ≤ d.toNat)) = true := by
    decide +kernel
  unfold escapedChar
  repeat' split
  all_goals try (simp; done)
  · next h =>
      have hcode := List.all_eq_true.1 hcodes c.toNat (List.mem_range.2 h)
      simpa [codeEscape, NoControls] using hcode
  · next h => simpa using h

theorem noControls_quotedString (s : String) : NoControls (quotedString s) := by
  have hescaped : NoControls (s.toList.flatMap escapedChar) := by
    intro c hc
    obtain ⟨d, _, hd⟩ := List.mem_flatMap.1 hc
    exact noControls_escapedChar d c hd
  simpa [quotedString, quotedBy] using hescaped

theorem newline_not_mem_quotedString (s : String) : '\n' ∉ quotedString s :=
  (noControls_quotedString s).newline_not_mem

end Json

/-! ## Values -/

namespace Literal

open Json (noControls_quotedString)

theorem noControls_integer {n : Int} {cs : List Char} (h : integer n = .ok cs) :
    NoControls cs := by
  unfold integer at h
  split at h
  · next hs =>
      injection h with h
      rw [← h]
      exact Integer.noControls_write hs
  · cases h

theorem noControls_key {v : Value} {cs : List Char} (h : key v = .ok cs) : NoControls cs := by
  unfold key at h
  split at h
  · injection h with h
    rw [← h]
    simp
  · next b =>
      injection h with h
      rw [← h]
      cases b <;> simp
  · obtain ⟨digits, hd, h⟩ := bind_eq_ok.1 h
    injection h with h
    rw [← h]
    simpa using noControls_integer hd
  · next x =>
      injection h with h
      rw [← h]
      simpa using x.noControls_write
  · injection h with h
    rw [← h]
    exact noControls_quotedString _
  · cases h

mutual

/-- The literal of a value has no control character. -/
theorem noControls_encode {v : Value} {cs : List Char} (h : encode v = .ok cs) :
    NoControls cs := by
  match v with
  | .null =>
      injection h with h
      rw [← h]
      simp
  | .bool b =>
      injection h with h
      rw [← h]
      cases b <;> simp
  | .int _ => exact noControls_integer h
  | .float x =>
      injection h with h
      rw [← h]
      exact x.noControls_write
  | .str s =>
      injection h with h
      rw [← h]
      exact noControls_quotedString s
  | .list items | .tuple items =>
      obtain ⟨body, hbody, h⟩ := bind_eq_ok.1 h
      injection h with h
      rw [← h]
      simpa using noControls_encodeItems hbody
  | .map entries =>
      obtain ⟨body, hbody, h⟩ := bind_eq_ok.1 h
      injection h with h
      rw [← h]
      simpa using noControls_encodeEntries hbody
  | .bytes _ | .date _ | .time _ | .set _ | .cycle => cases h

theorem noControls_encodeItems {vs : List Value} {cs : List Char}
    (h : encodeItems vs = .ok cs) : NoControls cs := by
  match vs with
  | [] =>
      injection h with h
      rw [← h]
      exact Text.noControls_nil
  | [v] => exact noControls_encode h
  | v :: w :: vs =>
      obtain ⟨head, hhead, h⟩ := bind_eq_ok.1 h
      obtain ⟨tail, htail, h⟩ := bind_eq_ok.1 h
      injection h with h
      rw [← h]
      simpa using ⟨noControls_encode hhead, noControls_encodeItems htail⟩

theorem noControls_encodeEntries {es : List (Value × Value)} {cs : List Char}
    (h : encodeEntries es = .ok cs) : NoControls cs := by
  match es with
  | [] =>
      injection h with h
      rw [← h]
      exact Text.noControls_nil
  | [(k, v)] =>
      obtain ⟨name, hname, h⟩ := bind_eq_ok.1 h
      obtain ⟨text, htext, h⟩ := bind_eq_ok.1 h
      injection h with h
      rw [← h]
      simpa using ⟨noControls_key hname, noControls_encode htext⟩
  | (k, v) :: e :: es =>
      obtain ⟨name, hname, h⟩ := bind_eq_ok.1 h
      obtain ⟨text, htext, h⟩ := bind_eq_ok.1 h
      obtain ⟨tail, htail, h⟩ := bind_eq_ok.1 h
      injection h with h
      rw [← h]
      simpa using ⟨noControls_key hname, noControls_encode htext,
        noControls_encodeEntries htail⟩

end

theorem newline_not_mem_encode {v : Value} {cs : List Char} (h : encode v = .ok cs) :
    '\n' ∉ cs := (noControls_encode h).newline_not_mem

end Literal

end ManifestPolicy
