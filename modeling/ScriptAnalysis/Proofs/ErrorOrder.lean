import ScriptAnalysis.Proofs.Sightings

/-!
# The order of errors

A check looks at the nodes of a tree in the order of the text, but it reports some of them at a
token that comes later: an operator, the `of` of a loop, what follows a name or a default value's
target.  Where such a node has a part in front of that token with an error of its own, the report on
the node leaps over it.

* `reports_pairwise`: the errors of nodes that stand apart are in order, up to blanks.
* `check_sorted_iff`: all errors are in order just when no report leaps over another.
* `late_of_leapsOver`: only a node that is too new leaps, and only one of the kinds that are
  reported at a later token.
* `check_in_order`: the three together, and what they say of the error that a strict build fails
  with.
-/

namespace ScriptAnalysis

open Syntax (Cursor Node)
open Text (IsPlace Token isBlankAt)

namespace Syntax.Node

/-- Every node of a tree starts where its first child does. -/
def StartsWithFirst (root : Node) : Prop :=
  ∀ node ∈ root.nodes, ∀ first ∈ node.children.head?, first.start = node.start

instance (root : Node) : Decidable root.StartsWithFirst :=
  inferInstanceAs (Decidable (∀ node ∈ root.nodes, ∀ first ∈ node.children.head?, _))

theorem firstLeaf_start {root : Node} (h : root.StartsWithFirst) : ∀ node : Node,
    node ∈ root.nodes → node.firstLeaf.start = node.start := by
  intro node
  induction node using Node.induction with
  | node label children ih =>
    intro hMem
    cases children with
    | nil => rw [firstLeaf]
    | cons child right =>
      have hFirst : child.start = (mk label (child :: right)).start := h _ hMem child rfl
      rw [firstLeaf, ih child List.mem_cons_self (mem_nodes_of_child hMem List.mem_cons_self),
        hFirst]

end Syntax.Node

namespace Rules

/-- One report leaps over another: it is on a node above, but its error comes behind. -/
def LeapsOver (first second : Cursor × BuildError) : Prop :=
  Cursor.Above first.1 second.1 ∧ second.2.index < first.2.index

variable {rules : Rules} {text : List Char} {root : Node}

/-! ### Nodes that stand apart -/

/-- Where the error of a report is. -/
structure Placed (text : List Char) (report : Cursor × BuildError) : Prop where
  inOrder : report.1.node.InOrder text
  isPlace : IsPlace text report.2.index
  start_le : report.1.node.start ≤ report.2.index
  le_behind : report.2.index ≤ (Token.atOffset text report.1.node.stop).start

/-- **Every report** is placed between its node's start and the token behind the node. -/
theorem placed_of_mem_reports (hOrder : root.InOrder text) {report : Cursor × BuildError}
    (h : report ∈ rules.reports text root) : Placed text report := by
  obtain ⟨hSeen, sighting, hSighting, hReport⟩ := exists_sighting_of_mem_reports h
  have hHere : report.1.node.InOrder text :=
    hOrder.of_mem (List.mem_map_of_mem (mem_positions_of_examined hSeen))
  have hSees := sees_of_sighting? hSighting
  obtain ⟨hStart, hBehind⟩ := index_mem_range hHere hSees
  have hIndex : report.2.index = sighting.index text := by
    rw [hReport, Sighting.index_report]
  exact ⟨hHere, hIndex ▸ isPlace_index hHere.fits hSees, hIndex ▸ hStart, hIndex ▸ hBehind⟩

theorem map_fst_reports_sublist (rules : Rules) (text : List Char) (root : Node) :
    ((rules.reports text root).map Prod.fst).Sublist root.positions := by
  have hFst : (rules.reports text root).map Prod.fst =
      (rules.examined text root).filter fun cursor =>
        (rules.errorAt? text cursor.ancestors cursor.node).isSome := by
    rw [reports, List.map_filterMap, ← List.filterMap_eq_filter]
    refine List.filterMap_congr fun cursor _ => ?_
    cases hError : rules.errorAt? text cursor.ancestors cursor.node <;>
      simp [Option.guard, hError]
  rw [hFst, examined_eq]
  exact List.filter_sublist.trans List.filter_sublist

/-- **The errors of nodes that stand apart** are in order, up to the blanks in front of the
second. -/
theorem reports_pairwise (rules : Rules) (hOrder : root.InOrder text) :
    (rules.reports text root).Pairwise fun first second =>
      Cursor.Above first.1 second.1 ∨
        first.2.index ≤ (Token.atOffset text second.2.index).start := by
  have hPositions := hOrder.positions_pairwise.sublist (rules.map_fst_reports_sublist text root)
  rw [List.pairwise_map] at hPositions
  refine hPositions.imp_of_mem fun {first second} hFirst hSecond hPrecedes => ?_
  rcases hPrecedes with hAbove | hApart
  · exact Or.inl hAbove
  · right
    have hBefore := placed_of_mem_reports hOrder hFirst
    have hBehind := placed_of_mem_reports hOrder hSecond
    have hStop := hBefore.inOrder.fits _ (Syntax.Node.mem_nodes_self _)
    have hNext := hBehind.start_le
    exact hBefore.le_behind.trans
      (Token.start_mono hStop.stop hBehind.isPlace (hApart.trans hNext))

/-- What reports may be out of order for: a leap, or a blank in front of the second. -/
theorem index_le_iff (hOrder : root.InOrder text)
    (hInk : ∀ error ∈ rules.check text root, isBlankAt text error.index = false)
    {first second : Cursor × BuildError} (hSecond : second ∈ rules.reports text root)
    (h : Cursor.Above first.1 second.1 ∨
      first.2.index ≤ (Token.atOffset text second.2.index).start) :
    first.2.index ≤ second.2.index ↔ ¬LeapsOver first second := by
  refine ⟨fun hLe hLeaps => Nat.not_lt.mpr hLe hLeaps.2, fun hStays => ?_⟩
  rcases h with hAbove | hApart
  · exact Nat.not_lt.mp fun hLess => hStays ⟨hAbove, hLess⟩
  · have hPlace := (placed_of_mem_reports hOrder hSecond).isPlace
    have hHere : isBlankAt text second.2.index = false := by
      refine hInk second.2 ?_
      rw [← map_reports]
      exact List.mem_map_of_mem hSecond
    rwa [Token.start_of_ink hPlace hHere] at hApart

/-- **All errors are in order** just when no report leaps over another, if no error is at a blank. -/
theorem check_sorted_iff (rules : Rules) (hOrder : root.InOrder text)
    (hInk : ∀ error ∈ rules.check text root, isBlankAt text error.index = false) :
    ((rules.check text root).Pairwise fun first second => first.index ≤ second.index) ↔
      (rules.reports text root).Pairwise fun first second => ¬LeapsOver first second := by
  have hPairs := rules.reports_pairwise hOrder
  rw [← map_reports, List.pairwise_map]
  constructor
  · intro hSorted
    refine (hSorted.and hPairs).imp_of_mem fun _ hSecond hBoth => ?_
    exact (index_le_iff hOrder hInk hSecond hBoth.2).mp hBoth.1
  · intro hNone
    refine (hNone.and hPairs).imp_of_mem fun _ hSecond hBoth => ?_
    exact (index_le_iff hOrder hInk hSecond hBoth.2).mpr hBoth.1

/-- **The first error** has the smallest index just when its report leaps over no other. -/
theorem first_le_iff (rules : Rules) (hOrder : root.InOrder text)
    (hInk : ∀ error ∈ rules.check text root, isBlankAt text error.index = false)
    {first : Cursor × BuildError} {rest : List (Cursor × BuildError)}
    (hReports : rules.reports text root = first :: rest) :
    (∀ other ∈ rules.check text root, first.2.index ≤ other.index) ↔
      ∀ report ∈ rest, ¬LeapsOver first report := by
  have hPairs := rules.reports_pairwise hOrder
  rw [hReports, List.pairwise_cons] at hPairs
  have hEach : ∀ report ∈ rest, first.2.index ≤ report.2.index ↔ ¬LeapsOver first report := by
    intro report hMem
    refine index_le_iff hOrder hInk ?_ (hPairs.1 report hMem)
    rw [hReports]
    exact List.mem_cons_of_mem _ hMem
  rw [← map_reports, hReports, List.map_cons]
  simp only [List.mem_cons, List.mem_map, forall_eq_or_imp, Nat.le_refl, true_and,
    forall_exists_index, and_imp, forall_apply_eq_imp_iff₂]
  exact forall₂_congr hEach

/-! ### Reports that leap -/

/-- **Only a node that is too new leaps,** and only one of the kinds that are reported at a later
token. -/
theorem late_of_leapsOver (hOrder : root.InOrder text) (hFirst : root.StartsWithFirst)
    {first second : Cursor × BuildError} (hIn : first ∈ rules.reports text root)
    (hBelow : second ∈ rules.reports text root) (h : LeapsOver first second) :
    rules.breach? text first.1.ancestors first.1.node = some .tooNew ∧
      first.1.node.kind ∈ lateKinds := by
  obtain ⟨hAbove, hLess⟩ := h
  obtain ⟨hSeen, sighting, hSighting, hReport⟩ := exists_sighting_of_mem_reports hIn
  have hSeenBelow := (exists_sighting_of_mem_reports hBelow).1
  have hNode : first.1.node ∈ root.nodes :=
    List.mem_map_of_mem (mem_positions_of_examined hSeen)
  have hWithin := (hOrder.of_mem hNode).range_of_mem (Node.node_mem_nodes_of_mem_below
    (Cursor.mem_below_of_above hAbove (mem_positions_of_examined hSeenBelow)).2)
  have hSecond := (placed_of_mem_reports hOrder hBelow).start_le
  have hLate : first.1.node.start < sighting.index text := by
    rw [hReport, Sighting.index_report] at hLess
    omega
  have hKind : sighting = .offending (.ofNode first.1.node) →
      first.1.node.kind ∈ lateKinds := by
    rintro rfl
    by_contra hNot
    rw [ofNode_of_not_late hNot] at hLate
    exact absurd (Node.firstLeaf_start hFirst _ hNode) (Nat.ne_of_gt hLate)
  rw [sighting?, isFault_of_above hSeenBelow hAbove, if_neg Bool.false_ne_true] at hSighting
  split at hSighting
  · obtain ⟨breach, hBreach, rfl⟩ := Option.map_eq_some_iff.mp hSighting
    cases breach with
    | moduleOnly => exact absurd (hKind rfl) (not_late_of_isModuleOnly (breaks_of_breach? hBreach).2)
    | withInModule => exact absurd hLate (Nat.lt_irrefl _)
    | markup => exact absurd hLate (Nat.lt_irrefl _)
    | returnOutsideFunction => exact absurd hLate (Nat.lt_irrefl _)
    | tooNew => exact ⟨hBreach, hKind rfl⟩
  · cases hSighting

/-- **Errors come in the order of the text but for those that a report leaps over.**  In a tree in
order every error lies between the start of its node and the token behind it, and the errors of
nodes that stand apart are in order, up to blanks.  A report that leaps over another is on a node
that is too new, of a kind that is reported at a later token.  So, if no error is at a blank, the
errors are in order just when none leaps, and the error that a strict build fails with has the
smallest index of all that a tolerant one records just when its own report leaps over no other. -/
theorem check_in_order (rules : Rules) (text : List Char) (root : Node)
    (hOrder : root.InOrder text) :
    let reports := rules.reports text root
    let Inked := ∀ error ∈ rules.check text root, isBlankAt text error.index = false
    rules.check text root = reports.map Prod.snd ∧
    (∀ report ∈ reports, report.1.node.start ≤ report.2.index ∧
      report.2.index ≤ (Token.atOffset text report.1.node.stop).start) ∧
    reports.Pairwise (fun first second => Cursor.Above first.1 second.1 ∨
      first.2.index ≤ (Token.atOffset text second.2.index).start) ∧
    (root.StartsWithFirst → ∀ first ∈ reports, ∀ second ∈ reports, LeapsOver first second →
      rules.breach? text first.1.ancestors first.1.node = some .tooNew ∧
        first.1.node.kind ∈ lateKinds) ∧
    (Inked →
      ((rules.check text root).Pairwise (fun first second => first.index ≤ second.index) ↔
        reports.Pairwise fun first second => ¬LeapsOver first second)) ∧
    (Inked → ∀ (parse : Parser) (code : String) (dialect : Dialect) (error : BuildError)
      (tree : SyntaxTree), Rules.ofDialect dialect = .ok rules → dialect.isTolerant = false →
      parse rules.grammar code = root → code.toList = text →
      SyntaxTree.build parse code dialect = .error error →
      SyntaxTree.build parse code dialect.tolerating = .ok tree →
      ∃ cursor rest, reports = (cursor, error) :: rest ∧
        ((∀ other ∈ tree.errors, error.index ≤ other.index) ↔
          ∀ report ∈ rest, ¬LeapsOver (cursor, error) report)) := by
  intro reports Inked
  refine ⟨(rules.map_reports text root).symm, ?_, rules.reports_pairwise hOrder, ?_, ?_, ?_⟩
  · intro report hMem
    have hPlaced := placed_of_mem_reports hOrder hMem
    exact ⟨hPlaced.start_le, hPlaced.le_behind⟩
  · intro hFirst first hIn second hBelow hLeaps
    exact late_of_leapsOver hOrder hFirst hIn hBelow hLeaps
  · exact rules.check_sorted_iff hOrder
  · intro hInk parse code dialect error tree hRules hStrict hRoot hText hFails hTree
    subst hRoot hText
    have hTolerant : dialect.tolerating.isTolerant = true := rfl
    rw [SyntaxTree.build_tolerant ((ofDialect_tolerating dialect).trans hRules) hTolerant] at hTree
    obtain rfl := Except.ok.inj hTree
    cases hReports : rules.reports code.toList (parse rules.grammar code) with
    | nil =>
      have hNone : rules.check code.toList (parse rules.grammar code) = [] := by
        rw [← map_reports, hReports, List.map_nil]
      rw [SyntaxTree.build_strict_of_nil hRules hNone] at hFails
      cases hFails
    | cons first rest =>
      have hErrors : rules.check code.toList (parse rules.grammar code) =
          first.2 :: rest.map Prod.snd := by
        rw [← map_reports, hReports, List.map_cons]
      rw [SyntaxTree.build_strict_of_cons hRules hStrict hErrors] at hFails
      obtain rfl := Except.error.inj hFails
      exact ⟨first.1, rest, hReports, rules.first_le_iff hOrder hInk hReports⟩

/-- The code `a ?? b ?? c;`: the left operand of the second operator has the first in it. -/
def chainOfOperators : Node :=
  .mk { kind := "program", start := 0, stop := 12 } [
    .mk { kind := "expression_statement", start := 0, stop := 12 } [
      .mk { kind := "binary_expression", start := 0, stop := 11 } [
        .mk { kind := "binary_expression", start := 0, stop := 6, field := some "left" } [
          .mk { kind := "identifier", start := 0, stop := 1, field := some "left" } [],
          .mk { kind := "??", named := false, start := 2, stop := 4, field := some "operator" } [],
          .mk { kind := "identifier", start := 5, stop := 6, field := some "right" } []],
        .mk { kind := "??", named := false, start := 7, stop := 9, field := some "operator" } [],
        .mk { kind := "identifier", start := 10, stop := 11, field := some "right" } []],
      .mk { kind := ";", named := false, start := 11, stop := 12 } []]]

/-- **The first error need not be the first in the text:** in the edition of 2019 the second operator
of a chain is reported before the first, and it is what a strict build fails with. -/
theorem check_out_of_order_of_chain :
    let text := "a ?? b ?? c;".toList
    let rules : Rules := { plain with year := 2019 }
    let second := BuildError.malformed 1 8 7 "Unexpected token ??"
    let first := BuildError.malformed 1 3 2 "Unexpected token ??"
    chainOfOperators.InOrder text ∧ rules.check text chainOfOperators = [second, first] ∧
    SyntaxTree.build (fun _ _ => chainOfOperators) "a ?? b ?? c;"
      (.ofOptions { language := some { version := some 2019 } }) = .error second := by
  intro text rules second first
  have hCheck : rules.check text chainOfOperators = [second, first] := by
    decide +kernel
  refine ⟨by decide +kernel, hCheck, ?_⟩
  exact SyntaxTree.build_strict_of_cons rfl rfl hCheck

/-- The code `a ** b ** c;`: the right operand of the first operator has the second in it. -/
def tower : Node :=
  .mk { kind := "program", start := 0, stop := 12 } [
    .mk { kind := "expression_statement", start := 0, stop := 12 } [
      .mk { kind := "binary_expression", start := 0, stop := 11 } [
        .mk { kind := "identifier", start := 0, stop := 1, field := some "left" } [],
        .mk { kind := "**", named := false, start := 2, stop := 4, field := some "operator" } [],
        .mk { kind := "binary_expression", start := 5, stop := 11, field := some "right" } [
          .mk { kind := "identifier", start := 5, stop := 6, field := some "left" } [],
          .mk { kind := "**", named := false, start := 7, stop := 9, field := some "operator" } [],
          .mk { kind := "identifier", start := 10, stop := 11, field := some "right" } []]],
      .mk { kind := ";", named := false, start := 11, stop := 12 } []]]

/-- In a tower of powers no report leaps, and a strict build fails with the first operator.  In a
chain of operators one leaps, and it is on a node that is too new. -/
theorem check_in_order_of_tower :
    let text := "a ** b ** c;".toList
    let rules : Rules := { plain with year := 2015 }
    let dialect : Dialect := .ofOptions { language := some { version := some 2015 } }
    let first := BuildError.malformed 1 3 2 "Unexpected token **"
    let second := BuildError.malformed 1 8 7 "Unexpected token **"
    tower.InOrder text ∧
    (rules.reports text tower).Pairwise (fun first second => ¬LeapsOver first second) ∧
    SyntaxTree.build (fun _ _ => tower) "a ** b ** c;" dialect = .error first ∧
    (∃ tree, SyntaxTree.build (fun _ _ => tower) "a ** b ** c;" dialect.tolerating = .ok tree ∧
      tree.errors = [first, second] ∧ ∀ other ∈ tree.errors, first.index ≤ other.index) ∧
    ∃ earlier later, LeapsOver earlier later ∧ earlier.1.node.kind ∈ lateKinds ∧
      ({ plain with year := 2019 } : Rules).breach? "a ?? b ?? c;".toList earlier.1.ancestors
        earlier.1.node = some .tooNew := by
  intro text rules dialect first second
  have hOrder : tower.InOrder text := by
    decide +kernel
  have hCheck : rules.check text tower = [first, second] := by
    decide +kernel
  have hInk : ∀ error ∈ rules.check text tower, isBlankAt text error.index = false := by
    rw [hCheck]
    decide +kernel
  have hSorted : (rules.check text tower).Pairwise fun first second =>
      first.index ≤ second.index := by
    rw [hCheck]
    decide +kernel
  obtain ⟨-, -, -, -, hIff, hBuilds⟩ := check_in_order rules text tower hOrder
  have hStays := (hIff hInk).mp hSorted
  have hFails : SyntaxTree.build (fun _ _ => tower) "a ** b ** c;" dialect = .error first :=
    SyntaxTree.build_strict_of_cons rfl rfl hCheck
  have hTree : SyntaxTree.build (fun _ _ => tower) "a ** b ** c;" dialect.tolerating =
      .ok (.checked (fun _ _ => tower) rules "a ** b ** c;") :=
    SyntaxTree.build_tolerant rfl rfl
  refine ⟨hOrder, hStays, hFails, ⟨_, hTree, hCheck, ?_⟩, ?_⟩
  · obtain ⟨cursor, rest, hReports, hFirst⟩ :=
      hBuilds hInk (fun _ _ => tower) "a ** b ** c;" dialect first _ rfl rfl rfl rfl hFails hTree
    rw [hReports, List.pairwise_cons] at hStays
    exact hFirst.mpr hStays.1
  · obtain ⟨-, -, -, hLate, hChain, -⟩ := check_in_order { plain with year := 2019 }
      "a ?? b ?? c;".toList chainOfOperators (by decide +kernel)
    have hUnsorted : ¬(({ plain with year := 2019 } : Rules).check "a ?? b ?? c;".toList
        chainOfOperators).Pairwise fun first second => first.index ≤ second.index := by
      decide +kernel
    rw [hChain (by decide +kernel), List.pairwise_iff_forall_sublist] at hUnsorted
    simp only [not_forall, not_not] at hUnsorted
    obtain ⟨earlier, later, hSub, hLeaps⟩ := hUnsorted
    have hIn := hSub.subset (List.mem_cons_self (a := earlier) (l := [later]))
    have hBelow := hSub.subset (List.mem_cons_of_mem earlier List.mem_cons_self)
    obtain ⟨hTooNew, hKind⟩ := hLate (by decide +kernel) earlier hIn later hBelow hLeaps
    exact ⟨earlier, later, hLeaps, hKind, hTooNew⟩

end Rules

end ScriptAnalysis
