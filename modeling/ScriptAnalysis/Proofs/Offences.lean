import ScriptAnalysis.Proofs.Denotations

/-!
# What is wrong with a value, and where

A value offends against what is wanted of it at places: where it is of another kind, where an
integer is no version, where a name is unknown, where an object should have one key or a list should
end.  All this is said of a place by itself, whatever else is wrong.  Places are ordered as they are
visited: keys as they ascend, items as they are listed, and a value before its parts.

* `Wanted.ofPart?`: what is wanted of the parts of a value.
* `Offends`: what is wrong with a value at a place.
* `at?_of_offends`: what a fault shows stands at the place of the offence.
* `IsFirst.unique`: one offence at most is the first.
* `isFirst_of_not_admits`: a value of another kind than wanted offends at no other place.
-/

namespace ScriptAnalysis

namespace Data

/-! ### Places -/

/-- A step from a value to one of its parts. -/
inductive Step where
  | key (name : String)
  | item (index : Nat)
  deriving DecidableEq, Repr

/-- Where a part of a value stands, by the steps that lead to it. -/
abbrev Place := List Step

/-- Keys are visited as they ascend, items as they are listed. -/
inductive Step.Before : Step → Step → Prop
  | keys {first second : String} (ascends : first < second) : Before (.key first) (.key second)
  | items {first second : Nat} (ascends : first < second) : Before (.item first) (.item second)

theorem Step.Before.asymm {first second : Step} (h : first.Before second) :
    ¬second.Before first := by
  intro hBack
  cases h with
  | keys hLess =>
    cases hBack with
    | keys hGreater => exact String.lt_asymm hLess hGreater
  | items hLess =>
    cases hBack with
    | items hGreater => omega

/-- The order in which places are visited; a value is visited before its parts. -/
def Place.Before (first second : Place) : Prop := List.Lex Step.Before first second

theorem Place.Before.asymm {first second : Place} (h : Place.Before first second) :
    ¬Place.Before second first :=
  List.lex_asymm Step.Before.asymm h

namespace Value

/-- The part of a value that a step leads to. -/
def part? : Value → Step → Option Value
  | .object fields, .key name => (Value.object fields).field? name
  | .array items, .item index => items[index]?
  | _, _ => none

/-- The part of a value at a place. -/
def at? : Value → Place → Option Value
  | value, [] => some value
  | value, step :: place => (value.part? step).bind fun part => part.at? place

end Value

/-! ### Offences -/

/-- Whether a value is of a kind that can be what is wanted. -/
def Wanted.admits : Wanted → Value → Bool
  | .options, .object _ => true
  | .language, .object _ => true
  | .language, .array _ => true
  | .source, .object _ => true
  | .source, .array _ => true
  | .version, .int _ => true
  | .boolean, .bool _ => true
  | .text, .string _ => true
  | .list, .array _ => true
  | .map, .object _ => true
  | .unit, .null => true
  | .textOrMap, .string _ => true
  | .textOrMap, .object _ => true
  | _, _ => false

/-- What is wanted of a part of what is wanted, and whether null is as good as its absence. -/
def Wanted.ofPart? : Wanted → Step → Option (Wanted × Bool)
  | .options, .key "ecmaOptions" => some (.language, true)
  | .options, .key "ignoreErrors" => some (.boolean, false)
  | .language, .key "ecmaFeatures" => some (.map, true)
  | .language, .key "ecmaVersion" => some (.version, true)
  | .language, .key "sourceType" => some (.textOrMap, true)
  | .language, .key "tolerant" => some (.boolean, true)
  | .language, .item 0 => some (.version, true)
  | .language, .item 1 => some (.textOrMap, true)
  | .language, .item 2 => some (.boolean, true)
  | .language, .item 3 => some (.map, true)
  | .map, .key _ => some (.boolean, false)
  | .textOrMap, .key _ => some (.unit, false)
  | _, _ => none

/-- A name that no source type has. -/
def IsUnknownName (name : String) : Prop := ∀ sourceType : SourceType, name ≠ sourceType.name

/-- **What is wrong** with a value at a place. -/
inductive Offends : Wanted → Value → Place → DecodeError → Prop
  | kind {wanted : Wanted} {value : Value} (other : wanted.admits value = false) :
      Offends wanted value [] (.wrongType value wanted)
  | range {n : Int} (outside : n < 0 ∨ UInt32.size ≤ n) :
      Offends .version (.int n) [] (.versionOutOfRange n)
  | name {name : String} (unknown : IsUnknownName name) :
      Offends .textOrMap (.string name) [] (.unknownSourceType name)
  | key {fields : List (String × Value)} {name : String} {content : Value}
      (only : (Value.object fields).HoldsOnly name content) (unknown : IsUnknownName name) :
      Offends .textOrMap (.object fields) [] (.unknownSourceType name)
  | keys {fields : List (String × Value)}
      (several : ¬∃ name content, (Value.object fields).HoldsOnly name content) :
      Offends .textOrMap (.object fields) [] .notOneKey
  | length {items : List Value} (long : 4 < items.length) :
      Offends .language (.array items) [.item 4] (.tooManyItems items.length)
  | part {wanted inner : Wanted} {nullable : Bool} {value part : Value} {step : Step}
      {place : Place} {fault : DecodeError} (asked : wanted.ofPart? step = some (inner, nullable))
      (found : value.part? step = some part) (given : ¬(nullable = true ∧ part = .null))
      (offends : Offends inner part place fault) : Offends wanted value (step :: place) fault

/-- An offence at a place that is visited before those of all the others. -/
def IsFirst (offends : Place → DecodeError → Prop) (place : Place) (fault : DecodeError) : Prop :=
  offends place fault ∧ ∀ other found, offends other found →
    (other = place ∧ found = fault) ∨ Place.Before place other

theorem IsFirst.unique {offends : Place → DecodeError → Prop} {place other : Place}
    {fault found : DecodeError} (h : IsFirst offends place fault)
    (hOther : IsFirst offends other found) : place = other ∧ fault = found := by
  rcases h.2 other found hOther.1 with ⟨rfl, rfl⟩ | hBefore
  · exact ⟨rfl, rfl⟩
  · rcases hOther.2 place fault h.1 with ⟨rfl, rfl⟩ | hAfter
    · exact ⟨rfl, rfl⟩
    · exact absurd hAfter hBefore.asymm

/-- What a fault shows of the value that is at fault. -/
def DecodeError.found? : DecodeError → Option Value
  | .wrongType found _ => some found
  | .versionOutOfRange n => some (.int n)
  | _ => none

/-- What a fault shows is what stands at the place of the offence. -/
theorem at?_of_offends {wanted : Wanted} {value found : Value} {place : Place} {fault : DecodeError}
    (h : Offends wanted value place fault) (hFound : fault.found? = some found) :
    value.at? place = some found := by
  induction h with
  | kind other => exact hFound
  | range outside => exact hFound
  | part asked hPart given offends ih =>
    rw [Value.at?, hPart]
    exact ih hFound
  | name | key | keys | length => cases hFound

/-- What offends a part that may not be null offends the whole. -/
theorem offends_of_required {wanted inner : Wanted} {value part : Value} {step : Step}
    {place : Place} {fault : DecodeError} (asked : wanted.ofPart? step = some (inner, false))
    (found : value.part? step = some part) (offends : Offends inner part place fault) :
    Offends wanted value (step :: place) fault :=
  .part asked found (fun hNull => Bool.false_ne_true hNull.1) offends

/-- A value of another kind than wanted has none of the parts that are asked for. -/
theorem part?_of_not_admits {wanted : Wanted} {value : Value} {step : Step} {asked : Wanted × Bool}
    (h : wanted.admits value = false) (hAsked : wanted.ofPart? step = some asked) :
    value.part? step = none := by
  cases value with
  | object fields => cases wanted <;> simp_all [Wanted.admits, Wanted.ofPart?]
  | array items =>
    cases step with
    | key name => rfl
    | item index => cases wanted <;> simp_all [Wanted.admits, Wanted.ofPart?]
  | _ => rfl

/-- A value of another kind has no other offence than its kind. -/
theorem isFirst_of_not_admits {wanted : Wanted} {value : Value}
    (h : wanted.admits value = false) :
    IsFirst (Offends wanted value) [] (.wrongType value wanted) := by
  refine ⟨.kind h, ?_⟩
  intro other found hOther
  cases hOther with
  | kind => exact Or.inl ⟨rfl, rfl⟩
  | part asked hPart given offends =>
    rw [part?_of_not_admits h asked] at hPart
    cases hPart
  | range | name | key | keys | length => cases h

end Data

end ScriptAnalysis
