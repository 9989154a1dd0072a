import ManifestPolicy.Proofs.JsonAtoms

/-!
# Strings in JSON

A string is read character by character. What spells the next one is a piece of
the text (`Spells`), but half a pair of surrogates looks at the escape behind
it: it stands for itself unless the other half follows. That escape is in the
string, whose closing quote is no escape, and hence is the same whatever
follows the string (`string_piece`).
-/

namespace ManifestPolicy.Json

section Strings

variable {start cs after rest s : List Char} {c : Char} {n fuel : Nat}

/-- The code in an escape at the front: there may be no escape, and no code in it. -/
def escapeAhead : List Char → Option (Option Nat)
  | '\\' :: 'u' :: low => some ((hex4 low).map Prod.fst)
  | _ => none

theorem escapeAhead_of_ne (hc : c ≠ '\\') : escapeAhead (c :: cs) = none := by
  unfold escapeAhead
  split
  · next h =>
      cases h
      exact absurd rfl hc
  · rfl

theorem escapeAhead_of_ne_u (hc : c ≠ 'u') : escapeAhead ('\\' :: c :: cs) = none := by
  unfold escapeAhead
  split
  · next h =>
      cases h
      exact absurd rfl hc
  · rfl

theorem hex4_eq_some : hex4 cs = some (n, after) ↔
    ∃ ds, cs = ds ++ after ∧ hex4 ds = some (n, []) := by
  constructor
  · intro h
    unfold hex4 at h
    split at h
    · next a b c d rest =>
        split at h
        · next hhex =>
            cases h
            exact ⟨[a, b, c, d], rfl, by rw [hex4, if_pos hhex]⟩
        · cases h
    · cases h
  · rintro ⟨ds, rfl, h⟩
    unfold hex4 at h
    split at h
    · next a b c d rest =>
        split at h
        · next hhex =>
            cases h
            rw [List.cons_append, List.cons_append, List.cons_append, List.cons_append,
              List.nil_append, hex4, if_pos hhex]
        · cases h
    · cases h

/-- How a text spells the next character of a string, and what it leaves. What
follows half a pair of surrogates decides whether it stands for itself. -/
inductive Spells : List Char → Char → List Char → Prop
  | plain {c : Char} {rest : List Char} : c ≠ '"' → c ≠ '\\' → 0x20 ≤ c.toNat → Spells (c :: rest) c rest
  | short {e c : Char} {rest : List Char} : e ≠ 'u' → shortEscape e = some c → Spells ('\\' :: e :: rest) c rest
  | pair {high low rest : List Char} {n m : Nat} : hex4 high = some (n, []) → hex4 low = some (m, []) →
      isHighSurrogate n = true → isLowSurrogate m = true →
      Spells ('\\' :: 'u' :: (high ++ '\\' :: 'u' :: (low ++ rest)))
        (Char.ofNat (0x10000 + (n - 0xd800) * 0x400 + (m - 0xdc00))) rest
  | code {ds rest : List Char} {n : Nat} : hex4 ds = some (n, []) → rest ≠ [] →
      (isHighSurrogate n = true →
        ∀ code, escapeAhead rest = some code → ∃ m, code = some m ∧ isLowSurrogate m = false) →
      Spells ('\\' :: 'u' :: (ds ++ rest)) (scalarOf n) rest

theorem chars_unicode : chars start (fuel + 1) ('\\' :: 'u' :: cs) =
    (match hex4 cs with
    | none => .error (.complaint .unicodeEscape ('u' :: cs))
    | some (_, []) => .error (.complaint .unicodeEscape ('u' :: cs))
    | some (n, after) =>
      match isHighSurrogate n, after with
      | true, '\\' :: 'u' :: low =>
        match hex4 low with
        | none => .error (.complaint .unicodeEscape ('u' :: low))
        | some (m, after') =>
          if isLowSurrogate m then do
            let (s, left) ← chars start fuel after'
            .ok (Char.ofNat (0x10000 + (n - 0xd800) * 0x400 + (m - 0xdc00)) :: s, left)
          else do
            let (s, left) ← chars start fuel after
            .ok (scalarOf n :: s, left)
      | _, _ => do
        let (s, left) ← chars start fuel after
        .ok (scalarOf n :: s, left)) := rfl

/-- A character, and then what is read behind it. -/
theorem cons_eq_ok {x : Except Stop (List Char × List Char)} :
    (x >>= fun p => Except.ok (c :: p.1, p.2)) = .ok (s, after) ↔
      ∃ s', x = .ok (s', after) ∧ s = c :: s' := by
  rw [bind_eq_ok]
  constructor
  · rintro ⟨⟨s', left⟩, hx, h⟩
    cases h
    exact ⟨s', hx, rfl⟩
  · rintro ⟨s', hx, rfl⟩
    exact ⟨(s', after), hx, rfl⟩

/-- What an escape with a code was read as, it spells. -/
theorem spells_of_unicode (h : chars start (fuel + 1) ('\\' :: 'u' :: cs) = .ok (s, after)) :
    ∃ c rest s', Spells ('\\' :: 'u' :: cs) c rest ∧ chars start fuel rest = .ok (s', after) ∧
      s = c :: s' := by
  rw [chars_unicode] at h
  split at h
  · cases h
  · cases h
  next n after' hne hhex =>
  obtain ⟨ds, rfl, hds⟩ := hex4_eq_some.1 hhex
  split at h
  · next low hhigh =>
      split at h
      · cases h
      next m after'' hlow =>
      split at h
      · next hm =>
          obtain ⟨s', hs, rfl⟩ := cons_eq_ok.1 h
          obtain ⟨ds', rfl, hds'⟩ := hex4_eq_some.1 hlow
          exact ⟨_, after'', s', .pair hds hds' hhigh hm, hs, rfl⟩
      · next hm =>
          obtain ⟨s', hs, rfl⟩ := cons_eq_ok.1 h
          refine ⟨_, _, s', .code hds (by simp) (fun _ code hcode => ?_), hs, rfl⟩
          rw [escapeAhead, hlow] at hcode
          cases hcode
          exact ⟨m, rfl, by simpa using hm⟩
  · next hahead =>
      obtain ⟨s', hs, rfl⟩ := cons_eq_ok.1 h
      refine ⟨_, _, s', .code hds hne (fun hhigh code hcode => ?_), hs, rfl⟩
      unfold escapeAhead at hcode
      split at hcode
      · next low => exact (hahead low hhigh rfl).elim
      · cases hcode

/-- What the front of a string was read as, it spells. -/
theorem spells_of_chars (h : chars start (fuel + 1) (c :: cs) = .ok (s, after)) (hc : c ≠ '"') :
    ∃ d rest s', Spells (c :: cs) d rest ∧ chars start fuel rest = .ok (s', after) ∧
      s = d :: s' := by
  rw [chars.eq_def] at h
  dsimp only at h
  rw [if_neg hc] at h
  split at h
  · next hslash =>
      subst hslash
      split at h
      · cases h
      · exact spells_of_unicode h
      · next e more hu =>
          split at h
          · next ch hshort =>
              obtain ⟨s', hs, rfl⟩ := cons_eq_ok.1 h
              exact ⟨ch, more, s', .short (fun he => hu he) hshort, hs, rfl⟩
          · cases h
  · next hslash =>
      split at h
      · cases h
      · next hcontrol =>
          obtain ⟨s', hs, rfl⟩ := cons_eq_ok.1 h
          exact ⟨c, cs, s', .plain hc hslash (Nat.not_lt.1 hcontrol), hs, rfl⟩

/-- What spells a character is read as it. -/
theorem Spells.chars_eq (h : Spells cs c rest) (hs : chars start fuel rest = .ok (s, after)) :
    chars start (fuel + 1) cs = .ok (c :: s, after) := by
  cases h with
  | plain hquote hslash hcontrol =>
      rw [chars.eq_def]
      dsimp only
      rw [if_neg hquote, if_neg hslash, if_neg (Nat.not_lt.2 hcontrol), hs]
      rfl
  | short hu hshort =>
      rw [chars.eq_def]
      dsimp only
      rw [if_neg (by decide), if_pos rfl]
      split
      · next h => cases h
      · next h => exact (hu (by cases h; rfl)).elim
      · next e more _ h =>
          cases h
          rw [hshort, hs]
          rfl
  | pair hhigh hlow hn hm =>
      rw [chars_unicode, hex4_eq_some.2 ⟨_, rfl, hhigh⟩]
      split
      · next h => cases h
      · next h => cases h
      next h =>
      cases h
      split
      · next h =>
          cases h
          rw [hex4_eq_some.2 ⟨_, rfl, hlow⟩]
          dsimp only
          rw [if_pos hm, hs]
          rfl
      · -- The other half is there, so this is not the case without it.
        next hahead => exact (hahead _ hn rfl).elim
  | code hds hne hahead =>
      rw [chars_unicode, hex4_eq_some.2 ⟨_, rfl, hds⟩]
      split
      · next h => cases h
      · next h =>
          cases h
          exact absurd rfl hne
      next h =>
      cases h
      split
      · next low hhigh _ =>
          obtain ⟨m, hm, hnot⟩ := hahead hhigh _ rfl
          obtain ⟨⟨m, left⟩, hlow, rfl⟩ := Option.map_eq_some_iff.1 hm
          rw [hlow]
          dsimp only
          rw [if_neg (by simpa using hnot), hs]
          rfl
      · rw [hs]
        rfl

theorem chars_eq_ok : chars start (fuel + 1) cs = .ok (s, after) ↔
    (cs = '"' :: after ∧ s = []) ∨
      ∃ c rest s', Spells cs c rest ∧ chars start fuel rest = .ok (s', after) ∧ s = c :: s' := by
  constructor
  · intro h
    cases cs with
    | nil => cases h
    | cons c cs =>
        by_cases hc : c = '"'
        · subst hc
          cases h
          exact .inl ⟨rfl, rfl⟩
        · exact .inr (spells_of_chars h hc)
  · rintro (⟨rfl, rfl⟩ | ⟨c, rest, s', hspells, hs, rfl⟩)
    · rfl
    · exact hspells.chars_eq hs

theorem hex4_append {ds : List Char} (h : hex4 ds = some (n, [])) (tail : List Char) :
    hex4 (ds ++ tail) = some (n, tail) :=
  hex4_eq_some.2 ⟨ds, rfl, h⟩

/-- A character is spelled by a piece of the text, and of what follows only the
escape matters that stands there. -/
theorem Spells.again (h : Spells cs c after) :
    ∃ pre, pre ≠ [] ∧ cs = pre ++ after ∧ ∀ tail, tail ≠ [] →
      escapeAhead tail = escapeAhead after →
      Spells (pre ++ tail) c tail ∧ escapeAhead (pre ++ tail) = escapeAhead cs := by
  cases h with
  | plain hquote hslash hcontrol =>
      refine ⟨[c], by simp, rfl, fun tail _ _ => ⟨.plain hquote hslash hcontrol, ?_⟩⟩
      rw [List.singleton_append, escapeAhead_of_ne hslash, escapeAhead_of_ne hslash]
  | @short e _ _ hu hshort =>
      refine ⟨['\\', e], by simp, rfl, fun tail _ _ => ⟨.short hu hshort, ?_⟩⟩
      rw [List.cons_append, List.singleton_append, escapeAhead_of_ne_u hu, escapeAhead_of_ne_u hu]
  | @pair high low _ n m hhigh hlow hn hm =>
      refine ⟨'\\' :: 'u' :: (high ++ '\\' :: 'u' :: low), by simp, by simp, fun tail _ _ => ?_⟩
      rw [List.cons_append, List.cons_append, List.append_assoc, List.cons_append, List.cons_append,
        escapeAhead, escapeAhead, hex4_append hhigh, hex4_append hhigh]
      exact ⟨.pair hhigh hlow hn hm, rfl⟩
  | @code ds _ n hds hne hahead =>
      refine ⟨'\\' :: 'u' :: ds, by simp, rfl, fun tail htail hsame => ?_⟩
      rw [List.cons_append, List.cons_append, escapeAhead, escapeAhead, hex4_append hds,
        hex4_append hds]
      exact ⟨.code hds htail (hsame ▸ hahead), rfl⟩

theorem chars_piece (h : chars start fuel cs = .ok (s, after)) :
    ∃ init, cs = init ++ '"' :: after ∧
      (∀ tail, escapeAhead (init ++ '"' :: tail) = escapeAhead cs) ∧
      ∀ start tail fuel, init.length < fuel →
        chars start fuel (init ++ '"' :: tail) = .ok (s, tail) := by
  induction fuel generalizing cs s with
  | zero =>
      unfold chars at h
      cases h
  | succ fuel ih =>
      rcases chars_eq_ok.1 h with ⟨rfl, rfl⟩ | ⟨c, rest, s', hspells, hs, rfl⟩
      · refine ⟨[], rfl, fun tail => ?_, fun start tail fuel hfuel => ?_⟩
        · rw [List.nil_append, escapeAhead_of_ne (by decide), escapeAhead_of_ne (by decide)]
        · obtain ⟨fuel, rfl⟩ := Nat.exists_eq_add_one_of_ne_zero (Nat.ne_of_gt hfuel)
          exact chars_eq_ok.2 (.inl ⟨rfl, rfl⟩)
      · obtain ⟨init, rfl, hahead, hread⟩ := ih hs
        obtain ⟨pre, hpre, rfl, hagain⟩ := hspells.again
        refine ⟨pre ++ init, by simp, fun tail => ?_, fun start tail fuel hfuel => ?_⟩
        · rw [List.append_assoc]
          exact (hagain _ (by simp) (hahead tail)).2
        · rw [List.length_append] at hfuel
          obtain ⟨fuel, rfl⟩ := Nat.exists_eq_add_one_of_ne_zero (Nat.ne_of_gt (Nat.zero_lt_of_lt hfuel))
          have hlen := List.length_pos_iff.2 hpre
          rw [List.append_assoc]
          exact chars_eq_ok.2 (.inr ⟨c, _, s', (hagain _ (by simp) (hahead tail)).1,
            hread start tail fuel (by omega), rfl⟩)

/-- A string is read again. -/
theorem string_piece {text : String} (h : string start cs = .ok (text, after)) :
    ∃ pre, cs = pre ++ after ∧ Closes pre ∧
      ∀ start tail, string start (pre ++ tail) = .ok (text, tail) := by
  obtain ⟨⟨s, left⟩, hs, h⟩ := bind_eq_ok.1 h
  cases h
  obtain ⟨init, rfl, _, hread⟩ := chars_piece hs
  refine ⟨init ++ ['"'], by simp, closes_concat init (by decide), fun start tail => ?_⟩
  refine bind_eq_ok.2 ⟨(s, tail), ?_, rfl⟩
  rw [List.append_assoc, List.singleton_append]
  exact hread start tail _ (by rw [List.length_append, List.length_cons]; omega)

end Strings

end ManifestPolicy.Json
