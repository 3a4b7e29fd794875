import ScriptAnalysis.Proofs.OpenScopes

/-!
# Scopes and comments

A comment is a leaf that may stand anywhere, but never under a field.  So what is looked up under a
field is the same with the comments taken out of the tree, and so are the names of scopes, their
kinds and their lines.  Parameters are counted among all children of a list: there comments count.

* `childOf?_withoutComments`: what is held under a field is held there without comments.
* `filter_positionsAt`: the functions of a tree are those of the tree without comments.
* `ofNode_withoutComments`: a scope loses no more than the comments among its parameters.
* `scopes_without_comments`: which scopes a walk opens with comments and without them.
-/

namespace ScriptAnalysis

open Syntax (Crumb Cursor Label Node opensFunction)

/-! ### Trees without comments -/

namespace Syntax

namespace Node

/-- Whether a node is a comment: a leaf of that kind under no field. -/
def isComment (node : Node) : Bool :=
  node.kind == "comment" && node.label.field.isNone && node.children.isEmpty

mutual

/-- The tree of a node with all comments below it taken out. -/
def withoutComments : Node → Node
  | .mk label children => .mk label (allWithoutComments children)

/-- Some trees without their comments. -/
def allWithoutComments : List Node → List Node
  | [] => []
  | child :: rest =>
    if child.isComment then allWithoutComments rest
    else withoutComments child :: allWithoutComments rest

end

@[simp]
theorem label_withoutComments (node : Node) : node.withoutComments.label = node.label := by
  cases node; rw [withoutComments, label_mk, label_mk]

theorem allWithoutComments_eq (nodes : List Node) :
    allWithoutComments nodes =
      (nodes.filter fun node => !node.isComment).map withoutComments := by
  induction nodes with
  | nil => rw [allWithoutComments]; rfl
  | cons child rest ih =>
    rw [allWithoutComments, ih, List.filter_cons]
    cases child.isComment <;> rfl

theorem children_withoutComments (node : Node) :
    node.withoutComments.children =
      (node.children.filter fun child => !child.isComment).map withoutComments := by
  cases node
  rw [withoutComments, children_mk, children_mk, allWithoutComments_eq]

variable {node : Node}

theorem isComment_iff : node.isComment = true ↔
    (node.kind = "comment" ∧ node.label.field = none) ∧ node.children = [] := by
  simp [isComment]

/-- **What is held under a field** is held there without comments. -/
theorem childOf?_withoutComments (node : Node) (field : String) :
    node.withoutComments.childOf? field = (node.childOf? field).map withoutComments := by
  rw [childOf?, children_withoutComments, List.find?_map, List.find?_filter, childOf?]
  refine congrArg (Option.map withoutComments) (congrArg (List.find? · node.children) ?_)
  funext child
  rw [Function.comp_apply, label_withoutComments]
  cases hComment : child.isComment with
  | false => simp only [Bool.not_false, true_and, Bool.decide_eq_true]
  | true => simp [(isComment_iff.mp hComment).1.2]

end Node

/-- A step of the way up without comments. -/
def Crumb.withoutComments (crumb : Crumb) : Crumb where
  parent := crumb.parent.withoutComments
  right := Node.allWithoutComments crumb.right

/-- The same position in the tree without comments. -/
def Cursor.withoutComments (cursor : Cursor) : Cursor where
  node := cursor.node.withoutComments
  path := cursor.path.map Crumb.withoutComments

theorem Cursor.ancestors_withoutComments (cursor : Cursor) :
    cursor.withoutComments.ancestors = cursor.ancestors.map Node.withoutComments := by
  rw [ancestors, withoutComments, List.map_map, ancestors, List.map_map]
  rfl

end Syntax

/-! ### Scopes without comments -/

namespace Walk

namespace Scope

theorem opensAt_withoutComments (node : Node) : opensAt node.withoutComments = opensAt node := by
  rw [opensAt, Node.isNamed, Node.kind, Node.label_withoutComments, opensAt]

theorem opensAt_of_isComment {node : Node} (h : node.isComment = true) : opensAt node = false := by
  rw [opensAt, (Node.isComment_iff.mp h).1.1]
  exact Bool.and_false _

theorem namingPart?_withoutComments (parent : Node) :
    namingPart? parent.withoutComments = (namingPart? parent).map Node.withoutComments := by
  rw [namingPart?, namingPart?, Node.kind, Node.kind, Node.label_withoutComments]
  split
  · exact parent.childOf?_withoutComments "name"
  · exact parent.childOf?_withoutComments "key"
  · exact parent.childOf?_withoutComments "left"
  · rw [parent.childOf?_withoutComments, parent.childOf?_withoutComments, Option.map_or]
  · rw [parent.childOf?_withoutComments, parent.childOf?_withoutComments, Option.map_or]
  · rfl

theorem namingNode?_withoutComments (ancestors : List Node) (node : Node) :
    namingNode? (ancestors.map Node.withoutComments) node.withoutComments =
      (namingNode? ancestors node).map Node.withoutComments := by
  rw [namingNode?, namingNode?, node.childOf?_withoutComments, Option.map_or, List.head?_map]
  cases ancestors.head? with
  | none => rfl
  | some parent =>
    rw [Option.map_some, Option.bind_some, Option.bind_some, namingPart?_withoutComments]

/-- **A function is named** as it is without comments. -/
theorem nameOf_withoutComments (text : List Char) (ancestors : List Node) (node : Node) :
    nameOf text (ancestors.map Node.withoutComments) node.withoutComments =
      nameOf text ancestors node := by
  rw [nameOf, nameOf, namingNode?_withoutComments]
  cases namingNode? ancestors node with
  | none => rfl
  | some part =>
    rw [Option.map_some, Option.bind_some, Option.bind_some, Node.text?, Node.start, Node.stop,
      Node.label_withoutComments, Node.text?]

/-- The formal parameters of a function: the named children of its list that are no comments, or the
one that stands without a list. -/
def formalParamCount (node : Node) : Nat :=
  match node.childOf? "parameters" with
  | some params => params.children.countP fun child => child.isNamed && !child.isComment
  | none => if (node.childOf? "parameter").isSome then 1 else 0

/-- The comments in the parameter list of a function. -/
def commentsInParams (node : Node) : Nat :=
  match node.childOf? "parameters" with
  | some params => params.children.countP fun child => child.isNamed && child.isComment
  | none => 0

/-- **The parameters that a scope counts** are the formal ones and the comments among them. -/
theorem paramCountOf_eq (node : Node) :
    paramCountOf node = formalParamCount node + commentsInParams node := by
  rw [paramCountOf, formalParamCount, commentsInParams]
  cases node.childOf? "parameters" with
  | none => rfl
  | some params =>
    simp only [Node.namedChildCount]
    induction params.children with
    | nil => rfl
    | cons child rest ih =>
      rw [List.countP_cons, List.countP_cons, List.countP_cons, ih]
      cases child.isNamed <;> cases child.isComment <;> simp <;> omega

/-- Without comments the formal parameters are counted. -/
theorem paramCountOf_withoutComments (node : Node) :
    paramCountOf node.withoutComments = formalParamCount node := by
  rw [paramCountOf, formalParamCount, node.childOf?_withoutComments,
    node.childOf?_withoutComments]
  cases node.childOf? "parameters" with
  | none => rw [Option.map_none, Option.isSome_map]
  | some params =>
    simp only [Option.map_some, Node.namedChildCount, Node.children_withoutComments]
    rw [List.countP_map, List.countP_filter]
    refine List.countP_congr fun child _ => ?_
    rw [Function.comp_apply, Node.isNamed, Node.label_withoutComments]

/-- **A scope without comments** is the same but for the comments among its parameters. -/
theorem ofNode_withoutComments (text : List Char) (cursor : Cursor) :
    ofNode text cursor.withoutComments.ancestors cursor.withoutComments.node =
      { ofNode text cursor.ancestors cursor.node with
        paramCount := formalParamCount cursor.node } := by
  rw [cursor.ancestors_withoutComments, Cursor.withoutComments, ofNode, nameOf_withoutComments,
    paramCountOf_withoutComments, Node.kind, Node.start, Node.stop, Node.label_withoutComments]
  rfl

end Scope

/-! ### Walks without comments -/

mutual

/-- **The functions of a tree** are those of the tree without comments. -/
theorem filter_positionsAt : ∀ (node : Node) (path : List Crumb),
    (node.withoutComments.positionsAt (path.map Crumb.withoutComments)).filter
        (fun cursor => Scope.opensAt cursor.node) =
      ((node.positionsAt path).filter fun cursor => Scope.opensAt cursor.node).map
        Cursor.withoutComments
  | .mk label children, path => by
    have hBelow := filter_positionsAll children path (.mk label children)
    have hHere := Scope.opensAt_withoutComments (.mk label children)
    rw [Node.withoutComments] at hBelow hHere ⊢
    rw [Node.positionsAt, Node.positionsAt, List.filter_cons, List.filter_cons, hBelow, hHere]
    cases hOpens : Scope.opensAt (.mk label children) with
    | false => rfl
    | true =>
      rw [if_pos rfl, if_pos rfl, List.map_cons, Cursor.withoutComments, Node.withoutComments]

/-- The functions below a node are those without comments. -/
theorem filter_positionsAll : ∀ (nodes : List Node) (path : List Crumb) (parent : Node),
    (Node.positionsAll (path.map Crumb.withoutComments) parent.withoutComments
        (Node.allWithoutComments nodes)).filter (fun cursor => Scope.opensAt cursor.node) =
      ((Node.positionsAll path parent nodes).filter fun cursor => Scope.opensAt cursor.node).map
        Cursor.withoutComments
  | [], _, _ => by rw [Node.allWithoutComments]; rfl
  | child :: right, path, parent => by
    have hRight := filter_positionsAll right path parent
    have hChild := filter_positionsAt child (⟨parent, right⟩ :: path)
    rw [Node.allWithoutComments, Node.positionsAll, List.filter_append, List.map_append, ← hRight]
    cases hComment : child.isComment with
    | false =>
      rw [if_neg Bool.false_ne_true, Node.positionsAll, List.filter_append, ← hChild]
      rfl
    | true =>
      -- A comment is a leaf that opens no scope, so there is nothing to keep of it.
      have hNone := Scope.opensAt_of_isComment hComment
      rw [if_pos rfl, Node.positionsAt_eq, (Node.isComment_iff.mp hComment).2, Node.positionsAll,
        List.filter_cons, hNone]
      rfl

end

/-- **Scopes and comments**: a walk over a tree without comments opens the same scopes in the same
order, with the same names, kinds and lines, and with the formal parameters for count.  With the
comments each scope counts those among its parameters too.  So the scopes of the two walks are the
same just if no function has a comment among its parameters. -/
theorem Walker.scopes_without_comments (walker : Walker) (text : List Char) (root : Node) :
    let functions := root.positions.filter fun cursor => Scope.opensAt cursor.node
    scopes (walker.walk text root) =
      functions.map (fun cursor => .ofNode text cursor.ancestors cursor.node) ∧
    scopes (walker.walk text root.withoutComments) =
      functions.map (fun cursor =>
        { Scope.ofNode text cursor.ancestors cursor.node with
          paramCount := Scope.formalParamCount cursor.node }) ∧
    (∀ cursor ∈ functions, (Scope.ofNode text cursor.ancestors cursor.node).paramCount =
      Scope.formalParamCount cursor.node + Scope.commentsInParams cursor.node) ∧
    (scopes (walker.walk text root.withoutComments) = scopes (walker.walk text root) ↔
      ∀ cursor ∈ functions, Scope.commentsInParams cursor.node = 0) := by
  intro functions
  have hWith := walker.scopes_walk text root
  have hWithout : scopes (walker.walk text root.withoutComments) =
      functions.map (fun cursor =>
        { Scope.ofNode text cursor.ancestors cursor.node with
          paramCount := Scope.formalParamCount cursor.node }) := by
    have hFunctions := filter_positionsAt root []
    rw [List.map_nil] at hFunctions
    rw [walker.scopes_walk, Node.positions, hFunctions, List.map_map]
    exact List.map_congr_left fun cursor _ => Scope.ofNode_withoutComments text cursor
  have hCount : ∀ cursor : Cursor, (Scope.ofNode text cursor.ancestors cursor.node).paramCount =
      Scope.formalParamCount cursor.node + Scope.commentsInParams cursor.node :=
    fun cursor => Scope.paramCountOf_eq cursor.node
  refine ⟨hWith, hWithout, fun cursor _ => hCount cursor, ?_⟩
  rw [hWithout, hWith, List.map_inj_left]
  refine forall₂_congr fun cursor _ => ⟨fun hSame => ?_, fun hNone => ?_⟩
  · have hEqual := congrArg Scope.paramCount hSame
    rw [hCount] at hEqual
    simp only at hEqual
    omega
  · have hEqual := hCount cursor
    rw [hNone, Nat.add_zero] at hEqual
    rw [← hEqual]

/-- The parse of a function with two comments among its three parameters. -/
def commentedParams : Node :=
  .mk { kind := "program", start := 0, stop := 34 } [
    .mk { kind := "function_declaration", start := 0, stop := 34 } [
      .mk { kind := "function", named := false, start := 0, stop := 8 } [],
      .mk { kind := "identifier", start := 9, stop := 10, field := some "name" } [],
      .mk { kind := "formal_parameters", start := 10, stop := 31, field := some "parameters" } [
        .mk { kind := "(", named := false, start := 10, stop := 11 } [],
        .mk { kind := "identifier", start := 11, stop := 12 } [],
        .mk { kind := "comment", start := 13, stop := 18 } [],
        .mk { kind := ",", named := false, start := 18, stop := 19 } [],
        .mk { kind := "identifier", start := 20, stop := 21 } [],
        .mk { kind := ",", named := false, start := 21, stop := 22 } [],
        .mk { kind := "comment", start := 23, stop := 27 } [],
        .mk { kind := "identifier", start := 29, stop := 30 } [],
        .mk { kind := ")", named := false, start := 30, stop := 31 } []],
      .mk { kind := "statement_block", start := 32, stop := 34, field := some "body" } [
        .mk { kind := "\x7b", named := false, start := 32, stop := 33 } [],
        .mk { kind := "\x7d", named := false, start := 33, stop := 34 } []]]]

/-- **Comments are counted**: a function of three parameters is told to have five. -/
theorem comments_counted_in_params :
    let text := "function f(a /*c*/, b, // d\n c) \x7b\x7d".toList
    scopes (Walker.ofAll.walk text commentedParams) =
      [⟨"f", "function_declaration", 1, 2, 5⟩] ∧
    scopes (Walker.ofAll.walk text commentedParams.withoutComments) =
      [⟨"f", "function_declaration", 1, 2, 3⟩] := by
  decide +kernel

end Walk

end ScriptAnalysis
