/-!
This module contains the cutting of a text at every occurrence of one character.
-/

namespace SearchBox.Text

def consFirst (c : Char) : List (List Char) → List (List Char)
  | [] => [[c]]
  | piece :: pieces => (c :: piece) :: pieces

/--
The pieces of a text between the occurrences of `separator`. There is one more than occurrences.
-/
def splitOn (separator : Char) : List Char → List (List Char)
  | [] => [[]]
  | c :: cs =>
    if c = separator then [] :: splitOn separator cs else consFirst c (splitOn separator cs)

end SearchBox.Text
