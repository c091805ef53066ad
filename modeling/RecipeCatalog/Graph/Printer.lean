import RecipeCatalog.Graph.Syntax
import RecipeCatalog.Graph.Suggest
import RecipeCatalog.Graph.Token

/-!
# Writing GraphQL values

Messages show the values a document holds as GraphQL writes them. A string is written in double
quotes with the quote, the backslash and control characters escaped; a block string in triple
quotes, on lines of its own when that reads better; lists and input objects with their items
separated by a comma and a space.

Arguments are compared by their written form with the fields of input objects sorted, so that
two arguments differing only in field order are the same.

Main definitions: `Graph.quoteString`, `Graph.blockString`, `Graph.Literal.render`,
`Graph.Literal.sorted`.
-/

namespace RecipeCatalog

namespace Graph

/-- The escaped form of a code point in a quoted string. -/
def escapeInString (c : Nat) : String :=
  if c == 8 then "\\b" else if c == 9 then "\\t" else if c == 10 then "\\n"
  else if c == 12 then "\\f" else if c == 13 then "\\r"
  else if c == 34 then "\\\"" else if c == 92 then "\\\\"
  else if c < 0x20 || (0x7F ≤ c && c ≤ 0x9F) then "\\u" ++ hexUpper c
  else (Char.ofNat c).toString

/-- A string in double quotes. -/
def quoteString (s : String) : String :=
  "\"" ++ String.join (s.toList.map fun c => escapeInString c.toNat) ++ "\""

/-- Replaces each triple quote by an escaped one. -/
def escapeTriples : List Char → List Char
  | '"' :: '"' :: '"' :: rest => '\\' :: '"' :: '"' :: '"' :: escapeTriples rest
  | c :: rest => c :: escapeTriples rest
  | [] => []

/-- A block string in triple quotes. Several lines, a long line, a trailing quote or backslash,
or indented later lines put the value on lines of its own; a single line starting with a blank
keeps its place after the opening quotes. -/
def blockString (s : String) : String :=
  let escaped := escapeTriples s.toList
  let ls := match lines (escaped.map Char.toNat) with
    | [] => [[]]
    | ls => ls
  let single := ls.length == 1
  let forceLeading := ls.length > 1 &&
    (ls.drop 1).all fun l => l.isEmpty || l.head? == some 32 || l.head? == some 9
  let trailingTriple := (escaped.reverse.take 4) == ['"', '"', '"', '\\']
  let trailingQuote := s.toList.getLast? == some '"' && !trailingTriple
  let trailingSlash := s.toList.getLast? == some '\\'
  let forceTrailing := trailingQuote || trailingSlash
  let multiple := !single || s.length > 70 || forceTrailing || forceLeading || trailingTriple
  let skipLeading := single && (s.toList.head? == some ' ' || s.toList.head? == some '\t')
  let before := if (multiple && !skipLeading) || forceLeading then "\n" else ""
  let after := if multiple || forceTrailing then "\n" else ""
  "\"\"\"" ++ before ++ String.ofList escaped ++ after ++ "\"\"\""

mutual
/-- A value as a document writes it. -/
def Literal.render : Literal → String
  | .var n _ => "$" ++ n
  | .int t _ => t
  | .float t _ => t
  | .string v block _ => if block then blockString v else quoteString v
  | .bool b _ => if b then "true" else "false"
  | .null _ => "null"
  | .enum n _ => n
  | .list items _ => "[" ++ renderItems items ++ "]"
  | .object fs _ => "\x7b" ++ renderFields fs ++ "\x7d"
/-- Values separated by a comma and a space. -/
def renderItems : List Literal → String
  | [] => ""
  | v :: rest => v.render ++ (if rest.isEmpty then "" else ", ") ++ renderItems rest
/-- Input object fields separated by a comma and a space. -/
def renderFields : List (String × Nat × Literal) → String
  | [] => ""
  | (n, _, v) :: rest => n ++ ": " ++ v.render ++ (if rest.isEmpty then "" else ", ") ++
      renderFields rest
end

mutual
/-- A value with the fields of every input object in natural order of their names. -/
def Literal.sorted : Literal → Literal
  | .list items s => .list (sortedItems items) s
  | .object fs s =>
    .object ((sortedFields fs).mergeSort fun a b => naturalCompare a.1 b.1 != .gt) s
  | v => v
/-- Each value sorted. -/
def sortedItems : List Literal → List Literal
  | [] => []
  | v :: rest => v.sorted :: sortedItems rest
/-- Each field's value sorted. -/
def sortedFields : List (String × Nat × Literal) → List (String × Nat × Literal)
  | [] => []
  | (n, p, v) :: rest => (n, p, v.sorted) :: sortedFields rest
end

end Graph

end RecipeCatalog
