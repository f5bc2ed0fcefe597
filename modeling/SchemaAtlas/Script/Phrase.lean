import SchemaAtlas.Pattern.Basic
import SchemaAtlas.Text.Digit
/-!
The phrases of table, index and constraint definitions as patterns.
-/
namespace SchemaAtlas.Phrase
open Pattern

def delimited (opening closing : Char) : Pattern :=
  exactly opening ++ several (· != closing) ++ exactly closing

def plainWord : Pattern := several Text.isWordCharacter

/-- A name in brackets, in one of three quotation marks, or bare. -/
def identifier : Pattern :=
  delimited '[' ']' <|> delimited '"' '"' <|> delimited '\x60' '\x60' <|>
    delimited '\'' '\'' <|> plainWord

def qualifier : Pattern := identifier ++ perhapsBlanks ++ exactly '.' ++ perhapsBlanks

def qualified : Pattern := optional qualifier ++ identifier

/-- A whole text that is a name, perhaps with a qualifier. -/
def wholeName : Pattern := optional qualifier ++ named .name identifier ++ ending

def words (first second : String) : Pattern := word first ++ blanks ++ word second

/-- Parentheses around anything but parentheses. -/
def parenthesized (part : Part) : Pattern :=
  exactly '(' ++ named part (many fun c => c != '(' && c != ')') ++ exactly ')'

def ifNotExists : Pattern := optional (word "IF" ++ blanks ++ words "NOT" "EXISTS" ++ blanks)

def createTable : Pattern :=
  edge ++ word "CREATE" ++ blanks ++ optional ((word "GLOBAL" <|> word "LOCAL") ++ blanks) ++
    optional ((word "TEMPORARY" <|> word "TEMP") ++ blanks) ++ word "TABLE"

def createTableKeyword : Pattern := createTable ++ edge

/-- The head of a table definition, up to the parenthesis that opens its body. -/
def createTableHead : Pattern :=
  createTable ++ blanks ++ ifNotExists ++ named .table qualified ++ perhapsBlanks ++ exactly '('

def clustering : Pattern := word "CLUSTERED" <|> word "NONCLUSTERED"

def createIndex : Pattern :=
  edge ++ word "CREATE" ++ blanks ++ optional (named .unique (word "UNIQUE" ++ blanks)) ++
    optional (clustering ++ blanks) ++ word "INDEX" ++ blanks ++ ifNotExists ++
    named .name identifier ++ blanks ++ word "ON" ++ blanks ++ named .table qualified ++
    perhapsBlanks ++ parenthesized .columns

/-- An alteration that adds something to a table. -/
def alterTableAdd : Pattern :=
  words "ALTER" "TABLE" ++ blanks ++ optional (word "ONLY" ++ blanks) ++ named .table qualified ++
    blanks ++ optional (word "WITH" ++ blanks ++ optional (word "NO") ++ word "CHECK" ++ blanks) ++
    word "ADD" ++ blanks ++ named .body remainder

def addKeyword : Pattern := word "ADD" ++ blanks

def foreignKey : Pattern := words "FOREIGN" "KEY"

def primaryKey : Pattern := words "PRIMARY" "KEY"

/-- The beginning of a clause about the table and not about one column. -/
def constraintClause : Pattern :=
  (word "CONSTRAINT" <|> foreignKey <|> primaryKey <|> word "UNIQUE" <|> word "CHECK") ++ edge

def foreignKeyClause : Pattern := foreignKey ++ edge

def columnDefinition : Pattern :=
  perhapsBlanks ++ named .column identifier ++ blanks ++
    named .type (exactly '[' ++ plainWord ++ exactly ']' <|> plainWord) ++
    optional (perhapsBlanks ++ parenthesized .arguments) ++ named .body remainder

def constraintName : Pattern :=
  perhapsBlanks ++ word "CONSTRAINT" ++ blanks ++ named .name identifier

/-- A phrase that stands by itself, as a whole word or words. -/
def standalone (phrase : Pattern) : Pattern := edge ++ phrase ++ edge

def foreignKeyKeyword : Pattern := standalone foreignKey

def primaryKeyKeyword : Pattern := standalone primaryKey

def uniqueKeyword : Pattern := standalone (word "UNIQUE")

def checkKeyword : Pattern := standalone (word "CHECK")

def foreignKeyConstraint : Pattern :=
  foreignKey ++ perhapsBlanks ++ parenthesized .columns ++ perhapsBlanks ++ word "REFERENCES" ++
    blanks ++ named .table qualified ++ perhapsBlanks ++ parenthesized .targetColumns

def primaryKeyConstraint : Pattern :=
  primaryKey ++ optional (blanks ++ clustering) ++ perhapsBlanks ++ parenthesized .columns

def uniqueConstraint : Pattern :=
  word "UNIQUE" ++ optional (blanks ++ clustering) ++
    optional (blanks ++ (word "KEY" <|> word "INDEX")) ++ optional (blanks ++ identifier) ++
    perhapsBlanks ++ parenthesized .columns

/-- The beginning of a check, up to its parenthesis. -/
def checkOpening : Pattern := edge ++ word "CHECK" ++ perhapsBlanks ++ exactly '('

def action : Pattern :=
  word "CASCADE" <|> words "SET" "NULL" <|> words "SET" "DEFAULT" <|> words "NO" "ACTION" <|>
    word "RESTRICT"

def referentialAction (event : String) : Pattern :=
  edge ++ words "ON" event ++ blanks ++ named .action action ++ edge

def onDelete : Pattern := referentialAction "DELETE"

def onUpdate : Pattern := referentialAction "UPDATE"

def notNull : Pattern := standalone (words "NOT" "NULL")

def signedDigits : Pattern := optional (exactly '-') ++ several Text.isDecimalDigit

def identity : Pattern :=
  standalone (word "IDENTITY") ++
    optional (perhapsBlanks ++ exactly '(' ++ perhapsBlanks ++ named .seed signedDigits ++
      perhapsBlanks ++ exactly ',' ++ perhapsBlanks ++ named .increment signedDigits ++
      perhapsBlanks ++ exactly ')')

def autoIncrement : Pattern :=
  standalone (word "AUTO" ++ optional (exactly '_') ++ word "INCREMENT")

def default : Pattern := edge ++ word "DEFAULT" ++ blanks

def references : Pattern :=
  edge ++ word "REFERENCES" ++ blanks ++ named .table qualified ++ perhapsBlanks ++
    exactly '(' ++ perhapsBlanks ++ named .column identifier ++ perhapsBlanks ++ exactly ')'

def sortSuffix : Pattern := blanks ++ (word "ASC" <|> word "DESC") ++ ending

/-- ASCII letters, digits and underscores, beginning with no digit. A final line break is let
through. -/
def plainTableName : Pattern :=
  one (fun c => c.isAlpha || c == '_') ++ many (fun c => c.isAlphanum || c == '_') ++ ending

end SchemaAtlas.Phrase
