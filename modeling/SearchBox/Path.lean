import SearchBox.Text.Split
import SearchBox.Vocabulary

/-!
This module contains the parts of a path that tell the type of its file. The name of a file may end
in several suffixes, and the last one that is a file object type is the type of the file.
-/

namespace SearchBox.Path

/--
The components of a path: what stands between slashes. Empty components and single dots do not
count.
-/
def components (path : List Char) : List (List Char) :=
  (Text.splitOn '/' path).filter (fun component => component != [] && component != ['.'])

def name (path : List Char) : List Char :=
  (components path).getLast?.getD []

/--
The suffixes of a name, without their dots. Dots at the front do not start a suffix, and a name that
ends in a dot has no suffixes.
-/
def suffixes (name : List Char) : List (List Char) :=
  if name.getLast? = some '.' then
    []
  else
    (Text.splitOn '.' (name.dropWhile (· == '.'))).tail

def fileType? (path : String) : Option String :=
  ((suffixes (name path.toList)).map String.ofList).reverse.find? Vocabulary.isFileObjectType

end SearchBox.Path
