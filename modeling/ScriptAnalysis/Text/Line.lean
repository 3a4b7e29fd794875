import ScriptAnalysis.Text.Offset

/-!
# Lines and columns

A position is a line and a column, both counted from one, the column in bytes. It is reached by
reading a text character by character: a line feed starts the next line, any other character
moves on by its own length.

`lineCount` counts the lines of a text; the line feed a text ends in starts no line of its own.
-/

namespace ScriptAnalysis.Text

/-- A line and a column, both from one; the column counts bytes. -/
structure Position where
  line : Nat
  column : Nat
  deriving DecidableEq, Repr

namespace Position

/-- Where every text begins. -/
def first : Position := ⟨1, 1⟩

/-- The position after one more character. -/
def next (position : Position) (c : Char) : Position :=
  if c = '\n' then ⟨position.line + 1, 1⟩
  else ⟨position.line, position.column + c.utf8Size⟩

/-- The position after a text. -/
def after (text : List Char) : Position := text.foldl next first

/-- The position of a byte offset; an offset inside a character or past the end is taken for the
end of the text. -/
def ofOffset (text : List Char) (offset : Nat) : Position :=
  after ((before? text offset).getD text)

end Position

/-- The number of line feeds before a byte offset. -/
def rowAt : List Char → Nat → Nat
  | [], _ => 0
  | _, 0 => 0
  | c :: rest, offset + 1 =>
    (if c = '\n' then 1 else 0) + rowAt rest (offset + 1 - c.utf8Size)

/-- The number of lines of a text; an empty line after the last line feed does not count. -/
def lineCount (text : List Char) : Nat :=
  text.count '\n' + if text.getLast?.all (· == '\n') then 0 else 1

end ScriptAnalysis.Text
