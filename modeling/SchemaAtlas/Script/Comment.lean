import SchemaAtlas.Text.Blank
/-!
Comments and layout of a script. A line comment vanishes up to its line break, a block comment
becomes a space, and comment marks between quotation marks are ordinary text.
-/
namespace SchemaAtlas.Script

/-- The marks around literals and quoted names. -/
def isQuotationMark (c : Char) : Bool := c == '\'' || c == '"' || c == '\x60'

/-- Where the reader of comments stands. Between quotation marks it remembers the opening mark and
the character before, because a closing mark after a backslash does not close. -/
inductive Region where
  | code
  | quoted (mark last : Char)
  | lineComment
  | blockComment
deriving DecidableEq, Repr

def uncomment : Region → Text → Text
  | _, [] => []
  | .code, '-' :: '-' :: rest => uncomment .lineComment rest
  | .code, '/' :: '*' :: rest => ' ' :: uncomment .blockComment rest
  | .code, c :: rest => c :: uncomment (if isQuotationMark c then .quoted c c else .code) rest
  | .quoted mark last, c :: rest =>
    c :: uncomment (if c == mark && last != '\\' then .code else .quoted mark c) rest
  | .lineComment, c :: rest =>
    if c == '\n' then c :: uncomment .code rest else uncomment .lineComment rest
  | .blockComment, '*' :: '/' :: rest => uncomment .code rest
  | .blockComment, _ :: rest => uncomment .blockComment rest

def withoutComments (script : Text) : Text := uncomment .code script

/-- The script without comments, with single spaces for blanks and none at its ends. -/
def normalized (script : Text) : Text := Text.trim (Text.collapse ' ' (withoutComments script))

end SchemaAtlas.Script
