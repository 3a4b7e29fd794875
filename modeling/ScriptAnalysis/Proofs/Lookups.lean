import ScriptAnalysis.Proofs.Locations

/-!
# A check without fallbacks

Where an offset is no place in the text, a check goes on with a fallback: it takes the end of the
text for a position, and an empty text for that of a token or of a node.  The functions below are
the check's own, in the same order of look-ups, but fall back on nothing.  They give none as soon as
the text cannot be cut where it is to be cut, as a node does not lie in the text, or as more is to
be taken from a number than it holds.

* `Exact.position?_eq`, `Exact.token?_eq`: at a place, the position and the token are found.
* `Exact.errorAt?_eq`: at a node of a tree that lies in the text, every look-up succeeds.
* `Exact.check_eq`: so a check of such a tree never falls back.
* `Exact.build_located`: the locations of what a build reports.
-/

namespace ScriptAnalysis.Exact

open Rules
open Syntax (Cursor Node Visitor opensFunction withinFunction)
open Text (IsPlace Position Token before? byteLength from? isBlank lastLineStart)

/-! ### Looking up -/

/-- One number less another, none if it is less than the other. -/
def difference? (whole part : Nat) : Option Nat :=
  if part ≤ whole then some (whole - part) else none

/-- The position of a byte offset, from the text before it. -/
def position? (text : List Char) (index : Nat) : Option Position := do
  let before ← before? text index
  let column ← difference? (byteLength before) (lastLineStart before)
  return ⟨before.count '\n' + 1, column + 1⟩

/-- The byte length of the token that a text without leading blanks begins with. -/
def tokenLength : List Char → Nat
  | [] => 0
  | c :: rest =>
    if Text.beginsIdentifier c || c.isDigit then
      byteLength ((c :: rest).takeWhile Text.continuesIdentifier)
    else c.utf8Size

/-- The token at or after a byte offset, cut out of the text that follows. -/
def token? (text : List Char) (offset : Nat) : Option Token := do
  let rest ← from? text offset
  let trimmed := rest.dropWhile isBlank
  let skipped ← difference? (byteLength rest) (byteLength trimmed)
  let found ← before? trimmed (tokenLength trimmed)
  return ⟨offset + skipped, found⟩

/-- The error at a byte offset. -/
def error? (text : List Char) (index : Nat) (description : String) : Option BuildError := do
  let position ← position? text index
  return .malformed position.line position.column index description

/-- The error at the token at or after a byte offset. -/
def errorAtToken? (text : List Char) (index : Nat) : Option BuildError := do
  let token ← token? text index
  error? text token.start (Token.describe token.text)

/-! ### Faults -/

def callsForMore? (text : List Char) (leaf : Node) : Option Bool :=
  if leaf.isMissing then some true
  else if leaf.isNamed then some false
  else do
    let covered ← leaf.text? text
    return !closingTokens.contains (String.ofList covered)

def isSound? (text : List Char) (node : Node) : Option Bool :=
  if node.isError || node.isMissing then some false
  else if node.isNamed then some true
  else do
    let covered ← node.text? text
    return covered.head?.any Text.beginsIdentifier

/-- Whether the input breaks off in a node: it runs to the end and calls for more there. -/
def breaksOff? (text : List Char) (node : Node) : Option Bool :=
  if contentEnd text ≤ node.stop then callsForMore? text node.lastLeaf else some false

def faultIndex? (text : List Char) (node : Node) : Option Nat := do
  if ← breaksOff? text node then return contentEnd text
  match node.children with
  | [] => return node.start
  | [first] =>
    if ← isSound? text first then
      let token ← token? text node.stop
      return if token.text.isEmpty then node.start else node.stop
    else return node.start
  | first :: _ :: _ => return if ← isSound? text first then first.stop else node.start

def recoveryIndex? (text : List Char) (node : Node) : Option Nat :=
  if node.isMissing then some node.start else faultIndex? text node

def recoveryError? (text : List Char) (node : Node) : Option BuildError := do
  let index ← recoveryIndex? text node
  errorAtToken? text index

/-! ### Breaches -/

def isImportMeta? (text : List Char) (node : Node) : Option Bool :=
  match node.kind with
  | "meta_property" => some (node.firstLeaf.kind == "import")
  | "member_expression" =>
    if (node.childOf? "object").map Node.kind == some "import" then
      match node.childOf? "property" with
      | none => some false
      | some property => do
        let covered ← property.text? text
        return covered == "meta".toList
    else some false
  | _ => some false

def isModuleOnly? (text : List Char) (node : Node) : Option Bool :=
  if node.kind == "import_statement" || node.kind == "export_statement" then some true
  else isImportMeta? text node

def operatorText? (text : List Char) (node : Node) : Option String :=
  match node.childOf? "operator" with
  | none => some ""
  | some operator => do
    let covered ← operator.text? text
    return String.ofList covered

def formYear? (text : List Char) (ancestors : List Node) (node : Node) : Option (Option Nat) :=
  match node.kind with
  | "binary_expression" => return binaryYears.lookup (← operatorText? text node)
  | "augmented_assignment_expression" => return assignmentYears.lookup (← operatorText? text node)
  | _ => some (Rules.formYear? text ancestors node)

def introduced? (text : List Char) (ancestors : List Node) (node : Node) : Option (Option Nat) := do
  let form ← formYear? text ancestors node
  return if isAsyncFunction node then some (max (form.getD 0) 2017) else form

/-- Whether a node is for modules only and not in one. -/
def isMisplaced? (rules : Rules) (text : List Char) (node : Node) : Option Bool :=
  if rules.isModule then some false else isModuleOnly? text node

def breach? (rules : Rules) (text : List Char) (ancestors : List Node) (node : Node) :
    Option (Option Breach) := do
  if ← isMisplaced? rules text node then return some .moduleOnly
  if rules.isModule && node.kind == "with_statement" then return some .withInModule
  if rules.rejectsMarkup node then return some .markup
  if node.kind == "return_statement" && !rules.globalReturn && !withinFunction ancestors then
    return some .returnOutsideFunction
  if rules.grammar == .javaScript then
    let year ← introduced? text ancestors node
    return if year.any fun year => decide (rules.year < year) then some .tooNew else none
  return none

def offence? (text : List Char) : Offence → Option BuildError
  | .node token => do
    let covered ← token.text? text
    error? text token.start (Token.describe covered)
  | .tokenAfter index => errorAtToken? text index

def report? (text : List Char) (node : Node) : Breach → Option BuildError
  | .moduleOnly => offence? text (.ofNode node)
  | .withInModule => error? text node.start "Strict mode code may not include a with statement"
  | .markup => error? text node.start "Unexpected token <"
  | .returnOutsideFunction => error? text node.start "Illegal return statement"
  | .tooNew => offence? text (.ofNode node)

/-! ### The check -/

/-- The error at a node, if there is one; none if a look-up misses. -/
def errorAt? (rules : Rules) (text : List Char) (ancestors : List Node) (node : Node) :
    Option (Option BuildError) :=
  if isFault node then return some (← recoveryError? text node)
  else if node.isNamed then do
    match ← breach? rules text ancestors node with
    | some breach => return some (← report? text node breach)
    | none => return none
  else return none

/-- The visitor that reports the errors of a tree, and none where a look-up misses. -/
def checker (rules : Rules) (text : List Char) : Visitor (Option BuildError) where
  enter ancestors node :=
    match errorAt? rules text ancestors node with
    | some found => (found.map some).toList
    | none => [none]
  descends ancestors node := rules.looksBelow text ancestors node
  leave _ _ := []

/-- All errors of a tree, in the order of the text, with none in the place of a missed look-up. -/
def check (rules : Rules) (text : List Char) (root : Node) : List (Option BuildError) :=
  (checker rules text).run (.atRoot root)

/-! ### At places -/

variable {text : List Char}

theorem difference?_of_le {whole part : Nat} (h : part ≤ whole) :
    difference? whole part = some (whole - part) := if_pos h

theorem position?_eq {index : Nat} (h : IsPlace text index) :
    position? text index = some (Position.ofOffset text index) := by
  obtain ⟨before, after, rfl, rfl⟩ := h
  rw [position?, Position.ofOffset, Text.before?_append, Option.getD_some, Position.after_eq]
  simp [difference?_of_le (Text.lastLineStart_le before)]

theorem before?_tokenLength (trimmed : List Char) :
    before? trimmed (tokenLength trimmed) = some (Token.munch trimmed) := by
  cases trimmed with
  | nil => rfl
  | cons c rest =>
    rw [tokenLength, Token.munch]
    split
    · have hCut := Text.before?_append ((c :: rest).takeWhile Text.continuesIdentifier)
        ((c :: rest).dropWhile Text.continuesIdentifier)
      rwa [List.takeWhile_append_dropWhile] at hCut
    · exact Text.before?_append [c] rest

theorem token?_eq {offset : Nat} (h : IsPlace text offset) :
    token? text offset = some (Token.atOffset text offset) := by
  obtain ⟨before, after, rfl, rfl⟩ := h
  have hLength : byteLength after =
      byteLength (after.takeWhile isBlank) + byteLength (after.dropWhile isBlank) := by
    rw [← Text.byteLength_append, List.takeWhile_append_dropWhile]
  have hSkipped : difference? (byteLength after) (byteLength (after.dropWhile isBlank)) =
      some (byteLength (after.takeWhile isBlank)) := by
    rw [difference?_of_le (by omega)]
    exact congrArg some (by omega)
  rw [token?, Token.atOffset, Text.from?_append]
  simp [hSkipped, before?_tokenLength, Token.first]

theorem error?_eq {index : Nat} (h : IsPlace text index) (description : String) :
    error? text index description = some (.atOffset text index description) := by
  rw [error?, position?_eq h]
  rfl

theorem errorAtToken?_eq {index : Nat} (h : IsPlace text index) :
    errorAtToken? text index = some (errorAtToken text index) := by
  rw [errorAtToken?, token?_eq h]
  exact error?_eq (Token.isPlace_start h) _

/-! ### At the nodes of a tree that lies in the text -/

theorem text?_eq {node : Node} (h : node.Fits text) : node.text? text = some (node.text text) := by
  obtain ⟨covered, hCovered⟩ := h.exists_text?
  rw [Node.text, hCovered, Option.getD_some]

theorem callsForMore?_eq {leaf : Node} (h : leaf.Fits text) :
    callsForMore? text leaf = some (callsForMore text leaf) := by
  rw [callsForMore?, callsForMore, text?_eq h]
  split
  · rfl
  split
  · rfl
  · rfl

theorem isSound?_eq {node : Node} (h : node.Fits text) :
    isSound? text node = some (isSound text node) := by
  rw [isSound?, isSound, text?_eq h]
  cases node.isError <;> cases node.isMissing <;> cases node.isNamed <;> rfl

section Tree

variable {root : Node} (hFits : ∀ node ∈ root.nodes, node.Fits text)

include hFits

theorem faultIndex?_eq {node : Node} (hMem : node ∈ root.nodes) :
    faultIndex? text node = some (faultIndex text node) := by
  have hLast := callsForMore?_eq (hFits _ (Node.lastLeaf_mem_nodes node hMem))
  have hChild : ∀ child ∈ node.children, isSound? text child = some (isSound text child) :=
    fun child hChild => isSound?_eq (hFits child (Node.mem_nodes_of_child hMem hChild))
  have hToken := token?_eq (hFits node hMem).stop
  have hBreaksOff : breaksOff? text node =
      some (decide (contentEnd text ≤ node.stop ∧ callsForMore text node.lastLeaf = true)) := by
    rw [breaksOff?, hLast]
    by_cases hEnd : contentEnd text ≤ node.stop <;> simp [hEnd]
  rw [faultIndex?, hBreaksOff, faultIndex]
  by_cases hEnd : contentEnd text ≤ node.stop ∧ callsForMore text node.lastLeaf = true
  · simp [hEnd]
  · rw [if_neg hEnd, decide_eq_false hEnd]
    rcases hChildren : node.children with _ | ⟨first, _ | ⟨second, rest⟩⟩
    · rfl
    · have hFirst := hChild first (by simp [hChildren])
      cases hSound : isSound text first with
      | false => simp [hFirst, hSound]
      | true =>
        simp only [hFirst, hSound, hToken, Option.bind_eq_bind, Option.bind_some, if_true,
          Bool.true_and]
        cases (Token.atOffset text node.stop).text.isEmpty <;> rfl
    · simp [hChild first (by simp [hChildren])]

theorem recoveryError?_eq {node : Node} (hMem : node ∈ root.nodes) :
    recoveryError? text node = some (recoveryError text node) := by
  have hIndex : recoveryIndex? text node =
      some (if node.isMissing then node.start else faultIndex text node) := by
    rw [recoveryIndex?, faultIndex?_eq hFits hMem]
    cases node.isMissing <;> rfl
  rw [recoveryError?, hIndex]
  exact errorAtToken?_eq (isPlace_recovery hFits hMem)

theorem isModuleOnly?_eq {node : Node} (hMem : node ∈ root.nodes) :
    isModuleOnly? text node = some (isModuleOnly text node) := by
  have hMeta : isImportMeta? text node = some (isImportMeta text node) := by
    rw [isImportMeta?]
    split
    · rename_i hKind
      rw [isImportMeta, hKind]
      rfl
    · rename_i hKind
      rw [isImportMeta, hKind]
      cases (node.childOf? "object").map Node.kind == some "import" with
      | false => rfl
      | true =>
        cases hProperty : node.childOf? "property" with
        | none => rfl
        | some property =>
          have hText := text?_eq (hFits property (Node.childOf?_mem_nodes hMem hProperty))
          simp [hText]
    · rename_i hNotMeta hNotMember
      rw [isImportMeta]
      split
      · exact absurd ‹_› hNotMeta
      · exact absurd ‹_› hNotMember
      · rfl
  rw [isModuleOnly?, isModuleOnly, hMeta]
  cases node.kind == "import_statement" <;> cases node.kind == "export_statement" <;> rfl

theorem operatorText?_eq {node : Node} (hMem : node ∈ root.nodes) :
    operatorText? text node = some (operatorText text node) := by
  rw [operatorText?, operatorText]
  cases hOperator : node.childOf? "operator" with
  | none => rfl
  | some operator =>
    have hText := text?_eq (hFits operator (Node.childOf?_mem_nodes hMem hOperator))
    simp [hText]

theorem introduced?_eq (ancestors : List Node) {node : Node} (hMem : node ∈ root.nodes) :
    introduced? text ancestors node = some (Rules.introduced? text ancestors node) := by
  have hForm : formYear? text ancestors node = some (Rules.formYear? text ancestors node) := by
    rw [formYear?]
    split
    · rename_i hKind
      rw [operatorText?_eq hFits hMem, Rules.formYear?, hKind]
      rfl
    · rename_i hKind
      rw [operatorText?_eq hFits hMem, Rules.formYear?, hKind]
      rfl
    · rfl
  rw [introduced?, hForm]
  rfl

theorem breach?_eq (rules : Rules) (ancestors : List Node) {node : Node}
    (hMem : node ∈ root.nodes) :
    breach? rules text ancestors node = some (rules.breach? text ancestors node) := by
  have hMisplaced : isMisplaced? rules text node =
      some (!rules.isModule && isModuleOnly text node) := by
    rw [isMisplaced?, isModuleOnly?_eq hFits hMem]
    cases rules.isModule <;> rfl
  have hIntroduced := introduced?_eq hFits ancestors hMem
  rw [breach?, hMisplaced, Rules.breach?, isTooNew, hIntroduced]
  simp only [Option.bind_eq_bind, Option.bind_some, Option.pure_def]
  split
  · rfl
  split
  · rfl
  split
  · rfl
  split
  · rfl
  · cases rules.grammar == .javaScript <;> rfl

theorem offence?_eq {node : Node} (hMem : node ∈ root.nodes) :
    offence? text (.ofNode node) = some ((Offence.ofNode node).report text) := by
  have hNode : ∀ token ∈ root.nodes, offence? text (.node token) =
      some ((Offence.node token).report text) := by
    intro token hToken
    rw [offence?, text?_eq (hFits token hToken)]
    exact error?_eq (hFits token hToken).start _
  rcases offence_cases hFits hMem with ⟨token, hToken, hOffence⟩ | ⟨index, hPlace, hOffence⟩
  · rw [hOffence]
    exact hNode token hToken
  · rw [hOffence]
    exact errorAtToken?_eq hPlace

theorem report?_eq {node : Node} (hMem : node ∈ root.nodes) (breach : Breach) :
    report? text node breach = some (breach.report text node) := by
  have hStart := (hFits node hMem).start
  cases breach with
  | moduleOnly => exact offence?_eq hFits hMem
  | withInModule => exact error?_eq hStart _
  | markup => exact error?_eq hStart _
  | returnOutsideFunction => exact error?_eq hStart _
  | tooNew => exact offence?_eq hFits hMem

/-- **At a node of a tree that lies in the text** every look-up succeeds. -/
theorem errorAt?_eq (rules : Rules) (ancestors : List Node) {node : Node}
    (hMem : node ∈ root.nodes) :
    errorAt? rules text ancestors node = some (rules.errorAt? text ancestors node) := by
  rw [errorAt?, Rules.errorAt?]
  split
  · rw [recoveryError?_eq hFits hMem]
    rfl
  split
  · rw [breach?_eq hFits rules ancestors hMem]
    cases rules.breach? text ancestors node with
    | none => rfl
    | some breach => simp [report?_eq hFits hMem]
  · rfl

/-- **A check never falls back** on a tree that lies in the text: every look-up it makes succeeds,
and with the same errors. -/
theorem check_eq (rules : Rules) : check rules text root = (rules.check text root).map some := by
  have hStops : (checker rules text).stops (.atRoot root) = rules.examined text root := by
    rw [examined_eq]
    exact Visitor.stops_atRoot (rules.looksBelow_eq text) root
  rw [check, Visitor.run_eq_stops fun _ _ => rfl, hStops, Rules.check_eq, List.map_filterMap,
    List.filterMap_eq_flatMap_toList]
  refine List.flatMap_congr fun cursor hSeen => ?_
  have hMem : cursor.node ∈ root.nodes := by
    rw [examined_eq, Cursor.mem_seen] at hSeen
    exact List.mem_map_of_mem hSeen.1
  simp only [checker, errorAt?_eq hFits rules cursor.ancestors hMem]

end Tree

/-! ### Builds -/

/-- **Every location is real and exact.**  Let the nodes of the tree that the parser leaves for a
code start and end at places of the code.  Each malformation that a build fails with or records is
at a place of the code; its line is one more than the line feeds before, and its column, from one,
counts the bytes from just after the last of them.  On the way no look-up misses: a check that falls
back on nothing finds the same errors. -/
theorem build_located (parse : Parser) (code : String) (dialect : Dialect)
    (hFits : ∀ node ∈ (parse (.ofDialect dialect) code).nodes, node.Fits code.toList) :
    (∀ line column index description,
      SyntaxTree.Reports parse code dialect (.malformed line column index description) →
      IsPlace code.toList index ∧ index ≤ byteLength code.toList ∧
        Text.IsPositionOf code.toList index ⟨line, column⟩) ∧
    ∀ rules, Rules.ofDialect dialect = .ok rules →
      check rules code.toList (parse (.ofDialect dialect) code) =
        (rules.check code.toList (parse (.ofDialect dialect) code)).map some := by
  constructor
  · intro line column index description h
    rcases SyntaxTree.mem_check_of_reports h with ⟨version, hUnknown⟩ | ⟨rules, hRules, hMem⟩
    · cases hUnknown
    · rw [Rules.grammar_of_ofDialect hRules] at hMem
      obtain ⟨place, described, hPlace, hError⟩ := exists_place_of_mem_check hFits rules hMem
      obtain ⟨rfl, rfl, rfl, rfl⟩ := BuildError.malformed.inj hError
      exact ⟨hPlace, hPlace.le, hPlace.isPositionOf⟩
  · intro rules _
    exact check_eq hFits rules

/-- Two statements with a word too many between them. -/
def wordTooMany : Node :=
  .mk { kind := "program", start := 0, stop := 10 } [
    .mk { kind := "expression_statement", start := 0, stop := 3 } [
      .mk { kind := "identifier", start := 0, stop := 2 } [],
      .mk { kind := ";", named := false, start := 2, stop := 3 } []],
    .mk { kind := "ERROR", error := true, start := 4, stop := 7 } [
      .mk { kind := "identifier", start := 4, stop := 7 } []],
    .mk { kind := "expression_statement", start := 8, stop := 10 } [
      .mk { kind := "identifier", start := 8, stop := 10 } []]]

/-- The fault is found behind the space, eight bytes and seven characters into the text. -/
theorem build_located_of_wordTooMany :
    (∀ node ∈ wordTooMany.nodes, node.Fits "ü;\nfoo é".toList) ∧
    SyntaxTree.build (fun _ _ => wordTooMany) "ü;\nfoo é" (.ofOptions {}) =
      .error (.malformed 2 5 8 "Unexpected identifier") ∧
    Text.IsPositionOf "ü;\nfoo é".toList 8 ⟨2, 5⟩ ∧
    check plain "ü;\nfoo é".toList wordTooMany =
      [some (.malformed 2 5 8 "Unexpected identifier")] := by
  have hFits : ∀ node ∈ wordTooMany.nodes, node.Fits "ü;\nfoo é".toList := by
    decide +kernel
  obtain ⟨hLocated, hExact⟩ :=
    build_located (fun _ _ => wordTooMany) "ü;\nfoo é" (.ofOptions {}) hFits
  have hRules : Rules.ofDialect (.ofOptions {}) = .ok plain := rfl
  have hErrors : (SyntaxTree.checked (fun _ _ => wordTooMany) plain "ü;\nfoo é").errors =
      [.malformed 2 5 8 "Unexpected identifier"] := by
    decide +kernel
  have hBuild := SyntaxTree.build_strict_of_cons hRules rfl hErrors
  refine ⟨hFits, hBuild, (hLocated 2 5 8 _ (Or.inl hBuild)).2.2, ?_⟩
  rw [hExact plain hRules]
  exact congrArg (List.map some) hErrors

end ScriptAnalysis.Exact
