import ScriptAnalysis.Text.CharClass
import ScriptAnalysis.Text.Offset

/-!
# Tokens, as far as error messages need them

The token at a place in a text is found after the blanks there. A word or a number is one token; of
anything else, a quote included, the token is a single character.

A token's text also tells how an error at it is described.
-/

namespace ScriptAnalysis.Text

/-- Whether a character can begin an identifier. -/
def beginsIdentifier (c : Char) : Bool := isAlphabetic c || c == '_' || c == '$'

/-- Whether a character can stand inside an identifier. -/
def continuesIdentifier (c : Char) : Bool :=
  isAlphabetic c || isNumeric c || c == '_' || c == '$'

/-- A token: its byte offset and its text, empty at the end of the input. -/
structure Token where
  start : Nat
  text : List Char
  deriving DecidableEq, Repr

namespace Token

/-- The text of the token that a text without leading blanks begins with. -/
def munch : List Char → List Char
  | [] => []
  | c :: rest =>
    if beginsIdentifier c || c.isDigit then (c :: rest).takeWhile continuesIdentifier
    else [c]

/-- The first token of a text that stands at a byte offset. -/
def first (offset : Nat) (text : List Char) : Token where
  start := offset + byteLength (text.takeWhile isBlank)
  text := munch (text.dropWhile isBlank)

/-- The token at or after a byte offset. Nothing follows an offset that is no place in the text. -/
def atOffset (text : List Char) (offset : Nat) : Token :=
  first offset ((from? text offset).getD [])

/-- The words that are named in full where they are not expected. -/
def reservedWords : List String :=
  ["async", "await", "break", "case", "catch", "class", "const", "continue", "debugger",
   "default", "delete", "do", "else", "export", "extends", "false", "finally", "for",
   "function", "if", "import", "in", "instanceof", "let", "new", "null", "return", "static",
   "super", "switch", "this", "throw", "true", "try", "typeof", "var", "void", "while", "with",
   "yield"]

/-- How a token that is not expected is described. -/
def describe : List Char → String
  | [] => "Unexpected end of input"
  | c :: rest =>
    let word := String.ofList (c :: rest)
    if beginsIdentifier c then
      if reservedWords.contains word then "Unexpected token " ++ word
      else "Unexpected identifier"
    else if c.isDigit then "Unexpected number"
    else if c == '"' || c == '\'' then "Unexpected string"
    else if c == '\x60' then "Unexpected template string"
    else "Unexpected token " ++ word

end Token

end ScriptAnalysis.Text
