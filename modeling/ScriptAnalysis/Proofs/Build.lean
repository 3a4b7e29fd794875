import ScriptAnalysis.SyntaxTree

/-!
# What a build gives

`SyntaxTree.checked` is the tree of a code with all its errors.  A tolerant build gives it
(`build_tolerant`); a strict one gives it if there are no errors (`build_strict_of_nil`) and else
fails with the first (`build_strict_of_cons`).  A version that names no edition fails either kind of
build (`build_unknown`).

* `Rules.ofDialect_eq_ok_iff`: which rules a dialect has.
* `exists_build_iff`: a strict build succeeds just when there are no errors.
* `mem_check_of_reports`: what a build reports are the errors of the check.
-/

namespace ScriptAnalysis

/-! ### Versions -/

/-- The versions that name an edition: none at all, the numbers 3, 5 and 6 to 16, and the years 2015
to 2025. -/
def NamesEdition : Option UInt32 → Prop
  | none => True
  | some version =>
    version.toNat = 3 ∨ version.toNat = 5 ∨ (6 ≤ version.toNat ∧ version.toNat ≤ 16) ∨
      (2015 ≤ version.toNat ∧ version.toNat ≤ 2025)

instance : DecidablePred NamesEdition
  | none => inferInstanceAs (Decidable True)
  | some _ => inferInstanceAs (Decidable (_ ∨ _ ∨ _ ∨ _))

theorem yearOf_of_namesEdition : ∀ {version : Option UInt32}, NamesEdition version →
    ∃ year, Rules.yearOf version = .ok year := by
  intro version h
  cases version with
  | none => exact ⟨_, rfl⟩
  | some version =>
    have hLatest : Rules.latestYear = 2025 := rfl
    rw [NamesEdition] at h
    rw [Rules.yearOf]
    split
    · exact ⟨_, rfl⟩
    split
    · exact ⟨_, rfl⟩
    split
    · exact ⟨_, rfl⟩
    split
    · exact ⟨_, rfl⟩
    · omega

theorem yearOf_of_not_namesEdition : ∀ {version : Option UInt32}, ¬NamesEdition version →
    ∃ unknown, version = some unknown ∧
      Rules.yearOf version = .error (.unknownVersion unknown) := by
  intro version h
  cases version with
  | none => exact absurd trivial h
  | some version =>
    refine ⟨version, rfl, ?_⟩
    simp only [NamesEdition, not_or] at h
    obtain ⟨h3, h5, hNumber, hYear⟩ := h
    have hLatest : Rules.latestYear = 2025 := rfl
    simp only [Rules.yearOf, if_neg h3, if_neg h5, if_neg hNumber, hLatest, if_neg hYear]

/-- The dialect with its errors recorded. -/
def Dialect.tolerating (dialect : Dialect) : Dialect := { dialect with tolerant := some true }

/-- Tolerance is no rule. -/
theorem Rules.ofDialect_tolerating (dialect : Dialect) :
    Rules.ofDialect dialect.tolerating = Rules.ofDialect dialect := rfl

theorem Rules.ofDialect_of_namesEdition {dialect : Dialect} (h : NamesEdition dialect.version) :
    ∃ rules, Rules.ofDialect dialect = .ok rules := by
  obtain ⟨year, hYear⟩ := yearOf_of_namesEdition h
  rw [Rules.ofDialect, hYear]
  exact ⟨_, rfl⟩

/-- **The rules of a dialect** are its year, its grammar and its flags, one by one. -/
theorem Rules.ofDialect_eq_ok_iff {dialect : Dialect} {rules : Rules} :
    Rules.ofDialect dialect = .ok rules ↔
      Rules.yearOf dialect.version = .ok rules.year ∧ rules.grammar = .ofDialect dialect ∧
        rules.isModule = dialect.isModule ∧ rules.markup = dialect.hasFeature "jsx" ∧
        rules.globalReturn = dialect.hasFeature "globalReturn" := by
  rw [Rules.ofDialect]
  cases Rules.yearOf dialect.version with
  | error unknown =>
    constructor
    · intro h
      cases h
    · rintro ⟨hYear, -⟩
      cases hYear
  | ok year =>
    constructor
    · intro h
      obtain rfl := Except.ok.inj h
      exact ⟨rfl, rfl, rfl, rfl, rfl⟩
    · obtain ⟨grammar, _, isModule, markup, globalReturn⟩ := rules
      rintro ⟨hYear, rfl, rfl, rfl, rfl⟩
      obtain rfl := Except.ok.inj hYear
      rfl

theorem Rules.grammar_of_ofDialect {dialect : Dialect} {rules : Rules}
    (h : Rules.ofDialect dialect = .ok rules) : rules.grammar = .ofDialect dialect :=
  (Rules.ofDialect_eq_ok_iff.mp h).2.1

theorem Rules.exists_unknown_of_ofDialect {dialect : Dialect} {error : BuildError}
    (h : Rules.ofDialect dialect = .error error) : ∃ version, error = .unknownVersion version := by
  by_cases hEdition : NamesEdition dialect.version
  · obtain ⟨rules, hRules⟩ := Rules.ofDialect_of_namesEdition hEdition
    rw [hRules] at h
    cases h
  · obtain ⟨unknown, -, hYear⟩ := yearOf_of_not_namesEdition hEdition
    rw [Rules.ofDialect, hYear] at h
    exact ⟨unknown, (Except.error.inj h).symm⟩

/-! ### Builds -/

namespace SyntaxTree

/-- The tree of a code with all its errors. -/
def checked (parse : Parser) (rules : Rules) (code : String) : SyntaxTree where
  code := code
  root := parse rules.grammar code
  grammar := rules.grammar
  errors := rules.check code.toList (parse rules.grammar code)

variable {parse : Parser} {dialect : Dialect} {rules : Rules} {code : String}

theorem build_tolerant (hRules : Rules.ofDialect dialect = .ok rules)
    (hTolerant : dialect.isTolerant = true) :
    build parse code dialect = .ok (checked parse rules code) := by
  rw [build, hRules, checked]
  simp only [hTolerant, if_true]
  cases rules.check code.toList (parse rules.grammar code) <;> rfl

theorem build_strict_of_nil (hRules : Rules.ofDialect dialect = .ok rules)
    (hNone : (checked parse rules code).errors = []) :
    build parse code dialect = .ok (checked parse rules code) := by
  rw [build, hRules, checked]
  rw [checked] at hNone
  simp only at hNone ⊢
  rw [hNone]

theorem build_strict_of_cons (hRules : Rules.ofDialect dialect = .ok rules)
    (hStrict : dialect.isTolerant = false) {first : BuildError} {rest : List BuildError}
    (hErrors : (checked parse rules code).errors = first :: rest) :
    build parse code dialect = .error first := by
  rw [build, hRules]
  rw [checked] at hErrors
  simp only at hErrors ⊢
  rw [hErrors, hStrict]
  rfl

theorem build_unknown {unknown : BuildError} (h : Rules.ofDialect dialect = .error unknown) :
    build parse code dialect = .error unknown := by
  rw [build, h]

/-- A strict build succeeds just when there are no errors. -/
theorem exists_build_iff (hRules : Rules.ofDialect dialect = .ok rules)
    (hStrict : dialect.isTolerant = false) :
    (∃ tree, build parse code dialect = .ok tree) ↔ (checked parse rules code).errors = [] := by
  refine ⟨?_, fun hNone => ⟨_, build_strict_of_nil hRules hNone⟩⟩
  rintro ⟨tree, hTree⟩
  cases hErrors : (checked parse rules code).errors with
  | nil => rfl
  | cons first rest =>
    rw [build_strict_of_cons hRules hStrict hErrors] at hTree
    cases hTree

/-- An error is one that a build fails with, or one that it records. -/
def Reports (parse : Parser) (code : String) (dialect : Dialect) (error : BuildError) : Prop :=
  build parse code dialect = .error error ∨
    ∃ tree, build parse code dialect = .ok tree ∧ error ∈ tree.errors

/-- **What a build reports** are the errors of the check, or that the version is unknown. -/
theorem mem_check_of_reports {error : BuildError} (h : Reports parse code dialect error) :
    (∃ version, error = .unknownVersion version) ∨
      ∃ rules, Rules.ofDialect dialect = .ok rules ∧
        error ∈ rules.check code.toList (parse rules.grammar code) := by
  cases hRules : Rules.ofDialect dialect with
  | error unknown =>
    have hBuild : build parse code dialect = .error unknown := build_unknown hRules
    rw [Reports, hBuild] at h
    rcases h with hFails | ⟨tree, hTree, -⟩
    · obtain rfl := Except.error.inj hFails
      exact Or.inl (Rules.exists_unknown_of_ofDialect hRules)
    · cases hTree
  | ok rules =>
    refine Or.inr ⟨rules, rfl, ?_⟩
    have hChecked : build parse code dialect = .ok (checked parse rules code) →
        error ∈ rules.check code.toList (parse rules.grammar code) := by
      intro hBuild
      rw [Reports, hBuild] at h
      rcases h with hFails | ⟨tree, hTree, hMem⟩
      · cases hFails
      · obtain rfl := Except.ok.inj hTree
        exact hMem
    cases hTolerant : dialect.isTolerant with
    | true => exact hChecked (build_tolerant hRules hTolerant)
    | false =>
      cases hErrors : (checked parse rules code).errors with
      | nil => exact hChecked (build_strict_of_nil hRules hErrors)
      | cons first rest =>
        rw [Reports, build_strict_of_cons hRules hTolerant hErrors] at h
        rcases h with hFails | ⟨tree, hTree, -⟩
        · obtain rfl := Except.error.inj hFails
          have hMem : first ∈ (checked parse rules code).errors := by
            rw [hErrors]
            exact List.mem_cons_self
          exact hMem
        · cases hTree

/-- **A strict build gives no tree with errors.** -/
theorem errors_of_build_strict (hStrict : dialect.isTolerant = false) {tree : SyntaxTree}
    (h : build parse code dialect = .ok tree) : tree.errors = [] := by
  cases hRules : Rules.ofDialect dialect with
  | error unknown =>
    rw [build_unknown hRules] at h
    cases h
  | ok rules =>
    have hNone := (exists_build_iff hRules hStrict).mp ⟨tree, h⟩
    rw [build_strict_of_nil hRules hNone] at h
    obtain rfl := Except.ok.inj h
    exact hNone

end SyntaxTree

end ScriptAnalysis
