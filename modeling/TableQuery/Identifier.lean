import TableQuery.Text.Letter

/-! Names of tables, columns, relations and aliases: a letter or an underscore, then letters, numerals,
underscores and hyphens, in any script. -/
namespace TableQuery

def isIdentifierStart (c : Char) : Bool := Text.isLetter c || c == '_'

def isIdentifierPart (c : Char) : Bool :=
  Text.isLetter c || Text.isNumeral c || c == '_' || c == '-'

def isIdentifierText : List Char → Bool
  | [] => false
  | c :: cs => isIdentifierStart c && cs.all isIdentifierPart

def isIdentifier (s : String) : Bool := isIdentifierText s.toList

theorem isIdentifier_empty : isIdentifier "" = false := by decide

end TableQuery
