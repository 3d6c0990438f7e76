import SearchBox.Lexeme.Basic
import SearchBox.Token.Lookahead

/-!
This module contains the grammar of the search box language as a recursion on the unread text, which
reads one lexeme after the other and keeps no state between them.
-/

namespace SearchBox.Lexeme

/--
The key of the qualifier at the front of `cs` and the text behind its colon, if a qualifier starts
there: at least one character that is not a stop, and then a colon.
-/
def key? (cs : List Char) : Option (List Char × List Char) :=
  match cs.takeWhile (!Token.isStop ·), cs.dropWhile (!Token.isStop ·) with
  | c :: key, ':' :: rest => some (c :: key, rest)
  | _, _ => none

theorem eq_of_key? {cs key rest : List Char} (h : key? cs = some (key, rest))
    : cs = key ++ ':' :: rest := by
  rw [key?] at h
  split at h
  . next c ks rest' hkey hrest =>
    simp only [Option.some.injEq, Prod.mk.injEq] at h
    rw [← List.takeWhile_append_dropWhile (p := (!Token.isStop ·)) (l := cs), hkey, hrest, h.1, h.2]
  . contradiction

/--
The free text before the first qualifier in `cs`, and the text from this qualifier on.
-/
def spanText : List Char → List Char × List Char
  | [] => ([], [])
  | c :: cs =>
    if (key? (c :: cs)).isSome then
      ([], c :: cs)
    else
      let span := spanText cs
      (c :: span.1, span.2)

theorem append_spanText (cs : List Char) : (spanText cs).1 ++ (spanText cs).2 = cs := by
  induction cs with
  | nil => rfl
  | cons c cs ih =>
    rw [spanText]
    split
    . rfl
    . simp [ih]

theorem length_spanText_lt {c : Char} {cs : List Char} (h : key? (c :: cs) = none)
    : (spanText (c :: cs)).2.length < (c :: cs).length := by
  have := congrArg List.length (append_spanText cs)
  simp only [List.length_append] at this
  simp only [spanText, h, Option.isSome_none, Bool.false_eq_true, ite_false, List.length_cons]
  omega

/--
Read behind an opening quote: the spelling up to the first quote without a backslash before it,
whether there is such a quote, and the text behind it.
-/
def readQuoted : List Char → List Char × Bool × List Char
  | '\\' :: '\x27' :: cs =>
    let read := readQuoted cs
    ('\\' :: '\x27' :: read.1, read.2)
  | '\x27' :: cs => ([], true, cs)
  | c :: cs =>
    let read := readQuoted cs
    (c :: read.1, read.2)
  | [] => ([], false, [])

def readValue : List Char → Value × List Char
  | [] => (.bare [], [])
  | c :: cs =>
    if c = '\x27' then
      let read := readQuoted cs
      (.quoted read.1 read.2.1, read.2.2)
    else
      (.bare ((c :: cs).takeWhile (· != ' ')), (c :: cs).dropWhile (· != ' '))

theorem length_readQuoted_le (cs : List Char) : (readQuoted cs).2.2.length ≤ cs.length := by
  fun_induction readQuoted cs with
  | case1 cs read ih => simp only [read, List.length_cons]; omega
  | case2 cs => simp
  | case3 c cs _ _ read ih => simp only [read, List.length_cons]; omega
  | case4 => simp

theorem length_readValue_le (cs : List Char) : (readValue cs).2.length ≤ cs.length := by
  cases cs with
  | nil => simp [readValue]
  | cons c cs =>
    rw [readValue]
    split
    . have := length_readQuoted_le cs
      simp only [List.length_cons]
      omega
    . exact (List.dropWhile_sublist _).length_le

/--
The first lexeme of a text and the text behind it. Spaces before the lexeme do not count.
-/
def next? (cs : List Char) : Option (Lexeme × List Char) :=
  match cs.dropWhile (· == ' ') with
  | [] => none
  | c :: rest =>
    match key? (c :: rest) with
    | some (key, behind) =>
      let spaces := (behind.takeWhile (· == ' ')).length
      let read := readValue (behind.dropWhile (· == ' '))
      some (.qualifier key spaces read.1, read.2)
    | none =>
      let span := spanText (c :: rest)
      some (.text span.1, span.2)

theorem length_lt_of_next? {cs rest : List Char} {lexeme : Lexeme}
    (h : next? cs = some (lexeme, rest)) : rest.length < cs.length := by
  have hcs := (List.dropWhile_sublist (l := cs) (· == ' ')).length_le
  rw [next?] at h
  split at h
  . contradiction
  . next c tail htail =>
    rw [htail] at hcs
    split at h
    . next key behind hkey =>
      have hbehind := (List.dropWhile_sublist (l := behind) (· == ' ')).length_le
      have hvalue := length_readValue_le (behind.dropWhile (· == ' '))
      have hlength := congrArg List.length (eq_of_key? hkey)
      simp only [Option.some.injEq, Prod.mk.injEq] at h
      simp only [List.length_append, List.length_cons, ← h.2] at hcs hlength ⊢
      omega
    . next hkey =>
      have htext := length_spanText_lt hkey
      simp only [Option.some.injEq, Prod.mk.injEq] at h
      simp only [← h.2]
      omega

def ofText (cs : List Char) : List Lexeme :=
  match h : next? cs with
  | none => []
  | some (lexeme, rest) =>
    have := length_lt_of_next? h
    lexeme :: ofText rest
termination_by cs.length

/--
The tokens of a query by the grammar. A blank query has none.
-/
def tokens (query : String) : List Token :=
  if query.toList.all Text.isBlank then [] else (ofText query.toList).map token

end SearchBox.Lexeme
