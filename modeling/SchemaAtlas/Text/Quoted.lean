import SchemaAtlas.Text.Hexadecimal
import SchemaAtlas.Text.Printable
/-!
Text as messages show it: between quotation marks on one line, with marks, backslashes and
characters that cannot be shown written as escapes.
-/
namespace SchemaAtlas.Text

/-- A single mark, unless the text holds single marks and no double one. -/
def quotationMark (text : Text) : Char :=
  if text.contains '\'' && !text.contains '"' then '"' else '\''

/-- A character that cannot be shown, by the shortest escape that holds its code point. -/
def pointEscape (c : Char) : Text :=
  let point := c.toNat
  if point < 0x100 then '\\' :: 'x' :: hexadecimal 2 point
  else if point < 0x10000 then '\\' :: 'u' :: hexadecimal 4 point
  else '\\' :: 'U' :: hexadecimal 8 point

def quotedCharacter (mark c : Char) : Text :=
  if c == mark || c == '\\' then ['\\', c]
  else if c == '\n' then ['\\', 'n']
  else if c == '\r' then ['\\', 'r']
  else if c == '\t' then ['\\', 't']
  else if isPrintable c then [c]
  else pointEscape c

def quoted (text : Text) : Text :=
  let mark := quotationMark text
  mark :: text.flatMap (quotedCharacter mark) ++ [mark]

end SchemaAtlas.Text
