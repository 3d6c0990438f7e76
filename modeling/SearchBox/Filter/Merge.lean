import SearchBox.Filter.Entry

/-!
This module contains the merging of neighbouring text filters. A list is cut into stretches: runs of
texts, and the other elements one by one. Each run becomes one text with spaces between its parts.
-/

namespace SearchBox

/--
A stretch of a list: a run of texts, or one element that is not a text.
-/
inductive Stretch (β : Type) where
  | run (texts : List String)
  | other (value : β)
  deriving DecidableEq, Repr

namespace Stretch

variable {β : Type}

/--
Put an element before the stretches behind it. A text joins the run that starts them.
-/
def add (text? : β → Option String) (x : β) (stretches : List (Stretch β)) : List (Stretch β) :=
  match text? x, stretches with
  | none, stretches => .other x :: stretches
  | some text, .run texts :: rest => .run (text :: texts) :: rest
  | some text, stretches => .run [text] :: stretches

def ofList (text? : β → Option String) (xs : List β) : List (Stretch β) :=
  xs.foldr (add text?) []

def close (ofText : String → β) : Stretch β → β
  | .run texts => ofText (String.ofList (List.intercalate [' '] (texts.map String.toList)))
  | .other value => value

def mergeRuns (text? : β → Option String) (ofText : String → β) (xs : List β) : List β :=
  (ofList text? xs).map (close ofText)

end Stretch

/--
Join neighbouring text filters. All other filters stay as they are and end a run.
-/
def Filter.merge (filters : List Filter) : List Filter :=
  Stretch.mergeRuns Filter.text? .text filters

def Entry.merge {α : Type} (entries : List (Entry α)) : List (Entry α) :=
  Stretch.mergeRuns Entry.text? Entry.ofText entries

end SearchBox
