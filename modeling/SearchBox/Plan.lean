import SearchBox.Journal
import SearchBox.OrderedMap
import SearchBox.Operator.Basic
import SearchBox.Path

/-!
This module contains what is handed to the search engine: the files, the operators and the number of
a search, and the jobs that they split into.
-/

namespace SearchBox

open Journal

structure File where
  path : String
  content : String
  deriving DecidableEq, Repr, Inhabited

structure Plan where
  files : OrderedMap File
  operators : List Operator
  id : Int

structure Job where
  file : File
  op : Operator
  id : Int
  deriving DecidableEq, Repr

/--
Whether an operator applies to files of this type. One that is restricted to a type needs that type.
-/
def Operator.appliesTo (op : Operator) (fileType : Option String) : Bool :=
  op.options.fileType.isNone || op.options.fileType == fileType

inductive FileSource where
  /--
  A list of files, each under its own path. Of files with the same path, the last one counts, in the
  place of the first.
  -/
  | list (files : List File)
  /--
  Files under keys that need not be their paths.
  -/
  | map (files : OrderedMap File)

def FileSource.toMap : FileSource → OrderedMap File
  | .list files => .ofList (files.map (fun file => (file.path, file)))
  | .map files => files

namespace Plan

def ofSource (source : FileSource) (operators : List Operator) (id : Int) : Plan :=
  ⟨source.toMap, operators, id⟩

def jobsOf (plan : Plan) (file : File) : List Job :=
  -- the key of a file in a map tells nothing about its type
  let fileType := Path.fileType? file.path
  (plan.operators.filter (·.appliesTo fileType)).map (⟨file, ·, plan.id⟩)

def jobs (plan : Plan) : List Job :=
  plan.files.values.flatMap plan.jobsOf

def run (plan : Plan) (take : Option Nat) : Logged (List Job) :=
  let jobs := plan.jobs
  let finished := Report.split plan.id plan.files.size plan.operators.length
  -- the end is reported to who asks for more jobs than there are
  match take with
  | none => ⟨jobs, [finished]⟩
  | some n => if jobs.length < n then ⟨jobs, [finished]⟩ else ⟨jobs.take n, []⟩

end Plan

end SearchBox
