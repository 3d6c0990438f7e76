/-!
This module contains the escaping of literal text in a pattern, and the reader of patterns that
spell nothing but literal text.
-/

namespace SearchBox.Pattern

def metacharacters : List Char :=
  ['.', '*', '+', '?', '^', '$', '\x7b', '\x7d', '(', ')', '|', '[', ']', '\\']

def isMeta (c : Char) : Bool :=
  c ∈ metacharacters

def escapeChar (c : Char) : List Char :=
  if isMeta c then ['\\', c] else [c]

def escapeChars (cs : List Char) : List Char :=
  cs.flatMap escapeChar

def escape (text : String) : String :=
  String.ofList (escapeChars text.toList)

theorem escapeChars_cons (c : Char) (cs : List Char)
    : escapeChars (c :: cs) = escapeChar c ++ escapeChars cs := rfl

theorem escapeChars_append (cs ds : List Char)
    : escapeChars (cs ++ ds) = escapeChars cs ++ escapeChars ds :=
  List.flatMap_append

/--
The text that a pattern spells, if it spells nothing but literal text: a backslash and a
metacharacter stand for the metacharacter, and any other character for itself. A metacharacter that
stands alone has a meaning of its own, and so has a backslash before another character.
-/
def literal? : List Char → Option (List Char)
  | [] => some []
  | c :: rest =>
    if c = '\\' then
      match rest with
      | [] => none
      | d :: rest => if isMeta d then (literal? rest).map (d :: ·) else none
    else if isMeta c then
      none
    else
      (literal? rest).map (c :: ·)

end SearchBox.Pattern
