import ManifestPolicy.Policy.Compile
import ManifestPolicy.Proofs.PathText
import ManifestPolicy.Proofs.SettingsAccepted

/-!
# The first lines of a policy

The evaluator is told the package and the dialect of a policy beside the
policy itself, and both can be read off its first lines. The first line names
the package, whatever the rules are (`Policy.head?_lines`), since a package of
identifiers keeps to its line. The third line is the import of the newer
dialect if and only if the policy is written in it (`Policy.import_iff`): in
the older one a clause opens there, or the policy has ended.
-/

namespace ManifestPolicy

/-- A dotted text is on one line. -/
theorem Settings.Dotted.not_mem {s : String} (h : Dotted s) : '\n' ∉ s.toList := by
  intro hc
  rcases Text.mem_splitAt '.' hc with e | ⟨piece, hp, hc⟩
  · exact absurd e (by decide)
  · have hpiece := List.all_eq_true.1 h piece hp
    cases piece with
    | nil => cases hc
    | cons first rest =>
        rw [Text.isIdentifier, Bool.and_eq_true] at hpiece
        rcases List.mem_cons.1 hc with rfl | hc
        · exact absurd hpiece.1 (by decide)
        · exact absurd (List.all_eq_true.1 hpiece.2 _ hc) (by decide)

namespace Policy

variable {s : PolicySettings} {rules : RuleSet} {policy : Policy}

/-- The line that names the package. -/
def packageLine (s : PolicySettings) : Line := "package ".toList ++ s.package.toList

theorem newline_not_mem_packageLine (hs : Settings.Dotted s.package) : '\n' ∉ packageLine s := by
  intro hc
  rcases List.mem_append.1 hc with hc | hc
  · exact absurd hc (by decide)
  · exact hs.not_mem hc

/-- The line that imports the newer dialect. -/
def importLine : Line := "import rego.v1".toList

theorem joinParts_cons (p : List Line) (ps : List (List Line)) :
    joinParts (p :: ps) =
      joinLines p ++ '\n' :: if ps = [] then [] else '\n' :: joinParts ps := by
  cases ps with
  | nil => rfl
  | cons q ps => rfl

theorem joinLines_cons (l m : Line) (ls : List Line) :
    joinLines (l :: m :: ls) = l ++ '\n' :: joinLines (m :: ls) := rfl

/-- A clause opens with its opening line. -/
theorem clause_opening {d : Dialect} {r : Rule} {lines : List Line}
    (h : clause d r = .ok lines) : ∃ line rest, lines = clauseOpening d :: line :: rest := by
  simp only [clause, bind, Except.bind] at h
  split at h
  · cases h
  · injection h with h
    exact ⟨_, _, h.symm⟩

theorem compile_source (h : compile s rules = .ok policy) :
    ∃ clauses, rules.rules.mapM (clause s.dialect) = .ok clauses ∧
      policy.source.toList = joinParts (header s :: clauses) := by
  unfold compile at h
  split at h
  · cases h
  · split at h
    · cases h
    · next clauses hclauses =>
        injection h with h
        rw [← h]
        exact ⟨clauses, hclauses, String.toList_ofList⟩

/-- The clauses of rules, if there are any, begin with the opening line. -/
theorem joinParts_clauses {d : Dialect} {rs : List Rule} {clauses : List (List Line)}
    (h : rs.mapM (clause d) = .ok clauses) (hne : clauses ≠ []) :
    ∃ rest, joinParts clauses = clauseOpening d ++ '\n' :: rest := by
  cases rs with
  | nil =>
      cases h
      exact absurd rfl hne
  | cons r rs =>
      rw [List.mapM_cons] at h
      simp only [bind, Except.bind] at h
      split at h
      · cases h
      · next hr =>
          split at h
          · cases h
          · injection h with h
            obtain ⟨line, rest, hlines⟩ := clause_opening hr
            rw [← h, joinParts_cons, hlines, joinLines_cons, List.append_assoc]
            exact ⟨_, rfl⟩

/-- The first lines of a policy, of which only the first has to be there. -/
theorem lines_source (hs : Settings.Dotted s.package) (h : compile s rules = .ok policy) :
    ∃ rest, Text.splitAt '\n' policy.source.toList = packageLine s :: rest ∧
      (rest[1]? = some importLine ↔ s.dialect = .v1) := by
  obtain ⟨clauses, hclauses, hsource⟩ := compile_source h
  have package := newline_not_mem_packageLine hs
  have hblank (cs : List Char) : Text.splitAt '\n' ('\n' :: cs) = [] :: Text.splitAt '\n' cs :=
    Text.splitAt_append List.not_mem_nil
  rw [hsource, joinParts_cons]
  cases hd : s.dialect with
  | v0 =>
      rw [hd] at hclauses
      have hheader : joinLines (header s) = packageLine s := by
        simp only [header, hd]
        rfl
      rw [hheader, Text.splitAt_append package]
      refine ⟨_, rfl, iff_of_false ?_ (by simp)⟩
      split
      · exact fun e => by cases e
      · next hne =>
          obtain ⟨rest, hrest⟩ := joinParts_clauses hclauses hne
          rw [hrest, hblank, Text.splitAt_append (by decide), List.getElem?_cons_succ,
            List.getElem?_cons_zero]
          decide
  | v1 =>
      have hheader : joinLines (header s) = packageLine s ++ '\n' :: '\n' :: importLine := by
        simp only [header, hd]
        rfl
      rw [hheader, List.append_assoc, List.cons_append, List.cons_append,
        Text.splitAt_append package, hblank, Text.splitAt_append (by decide)]
      exact ⟨_, rfl, iff_of_true rfl rfl⟩

/-- The first line of a policy names its package. -/
theorem head?_lines (hs : Settings.Dotted s.package) (h : compile s rules = .ok policy) :
    (Text.splitAt '\n' policy.source.toList).head? = some ("package " ++ s.package).toList := by
  obtain ⟨rest, hlines, _⟩ := lines_source hs h
  rw [hlines, List.head?_cons, String.toList_append]
  rfl

/-- The third line is the import of the newer dialect in that dialect only. -/
theorem import_iff (hs : Settings.Dotted s.package) (h : compile s rules = .ok policy) :
    (Text.splitAt '\n' policy.source.toList)[2]? = some "import rego.v1".toList ↔
      s.dialect = .v1 := by
  obtain ⟨rest, hlines, himport⟩ := lines_source hs h
  rw [← himport, hlines, List.getElem?_cons_succ]
  rfl

end Policy

end ManifestPolicy
