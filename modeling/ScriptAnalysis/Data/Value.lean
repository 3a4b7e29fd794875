import ScriptAnalysis.Data.Table
import ScriptAnalysis.Number.Double

/-!
# Data values

The values a host hands over: null, booleans, integers, doubles, text, lists and objects. An integer
and a double are different values even when they stand for the same number. An object is canonical
when its keys ascend; `Value.ofFields` makes one from fields in any order.
-/

namespace ScriptAnalysis.Data

open Number (Double)

/-- A value of a host's data. -/
inductive Value where
  | null
  | bool (flag : Bool)
  | int (number : Int)
  | float (number : Double)
  | string (text : String)
  | array (items : List Value)
  | object (fields : List (String × Value))
  deriving Inhabited

namespace Value

/-- The object with the given fields; of two fields with the same key the later one stays. -/
def ofFields (fields : List (String × Value)) : Value := .object (Table.ofList fields).entries

mutual

/-- Whether two values are equal. Doubles are compared as numbers, so the two zeros agree. -/
def same : Value → Value → Bool
  | .null, .null => true
  | .bool a, .bool b => a == b
  | .int a, .int b => a == b
  | .float a, .float b => a.same b
  | .string a, .string b => a == b
  | .array as, .array bs => sameItems as bs
  | .object as, .object bs => sameFields as bs
  | _, _ => false

/-- Whether two lists of values are equal. -/
def sameItems : List Value → List Value → Bool
  | [], [] => true
  | a :: as, b :: bs => same a b && sameItems as bs
  | _, _ => false

/-- Whether two lists of fields are equal. -/
def sameFields : List (String × Value) → List (String × Value) → Bool
  | [], [] => true
  | (k, a) :: as, (l, b) :: bs => k == l && same a b && sameFields as bs
  | _, _ => false

end

instance : BEq Value := ⟨same⟩

/-- The flag of a boolean. -/
def flag? : Value → Option Bool
  | .bool flag => some flag
  | _ => none

/-- The number a value stands for, an integer rounded to the nearest double. -/
def number? : Value → Option Double
  | .int n => some (.ofInt n)
  | .float x => some x
  | _ => none

end Value

end ScriptAnalysis.Data
