import SearchBox.Text.Blank
import SearchBox.Token.Basic

/-!
This module contains lexemes: the stretches of a query that tokens are made of, just as they are
spelled. A lexeme still knows how its value was quoted, and whether the quote was closed.
-/

namespace SearchBox

inductive Lexeme.Value where
  | bare (spelling : List Char)
  /--
  What is spelled behind an opening quote, and whether a closing quote follows it.
  -/
  | quoted (spelling : List Char) (closed : Bool)
  deriving DecidableEq, Repr

inductive Lexeme where
  | qualifier (key : List Char) (spaces : Nat) (value : Lexeme.Value)
  | text (spelling : List Char)
  deriving DecidableEq, Repr

namespace Lexeme

/--
Replace each backslash before a quote by nothing.
-/
def unescape : List Char → List Char
  | [] => []
  | c :: cs =>
    if c = '\\' ∧ cs.head? = some '\x27' then unescape cs else c :: unescape cs

def Value.content : Value → List Char
  | .bare spelling => spelling
  | .quoted spelling _ => unescape spelling

def Value.source : Value → List Char
  | .bare spelling => spelling
  | .quoted spelling true => '\x27' :: spelling ++ ['\x27']
  | .quoted spelling false => '\x27' :: spelling

def source : Lexeme → List Char
  | .qualifier key spaces value => key ++ ':' :: List.replicate spaces ' ' ++ value.source
  | .text spelling => spelling

def token : Lexeme → Token
  | .qualifier key _ value => Token.ofKeyValue (Text.trim key) value.content
  | .text spelling => Token.ofText (Text.trim spelling)

/--
Whether more characters behind a lexeme can still become part of its value although a space stands
before them: its value is quoted and the quote is not closed, or its value is still missing.
-/
def isOpen : Lexeme → Bool
  | .qualifier _ _ (.bare []) => true
  | .qualifier _ _ (.quoted _ false) => true
  | _ => false

end Lexeme

end SearchBox
