import SearchBox.Json.Basic

/-!
This module contains the reasons for which a value is refused, and the checks of several fields in
which all faults are collected.
-/

namespace SearchBox

inductive Fault where
  | notBool
  | unreadableBool
  | notInt
  | unreadableInt
  | fractionalInt
  | oversizedInt
  | notFinite
  | notString
  | notPattern
  | missing
  | notObject
  deriving DecidableEq, Repr

namespace Fault

def code : Fault → String
  | .notBool => "bool_type"
  | .unreadableBool => "bool_parsing"
  | .notInt => "int_type"
  | .unreadableInt => "int_parsing"
  | .fractionalInt => "int_from_float"
  | .oversizedInt => "int_parsing_size"
  | .notFinite => "finite_number"
  | .notString => "string_type"
  | .notPattern => "pattern_type"
  | .missing => "missing"
  | .notObject => "model_attributes_type"

def message : Fault → String
  | .notBool => "Input should be a valid boolean"
  | .unreadableBool => "Input should be a valid boolean, unable to interpret input"
  | .notInt => "Input should be a valid integer"
  | .unreadableInt => "Input should be a valid integer, unable to parse string as an integer"
  | .fractionalInt => "Input should be a valid integer, got a number with a fractional part"
  | .oversizedInt => "Unable to parse input string as an integer, exceeded maximum size"
  | .notFinite => "Input should be a finite number"
  | .notString => "Input should be a valid string"
  | .notPattern => "Input should be a valid pattern"
  | .missing => "Field required"
  | .notObject => "Input should be a valid dictionary or object to extract fields from"

end Fault

structure FieldFault where
  field : String
  fault : Fault
  input : Json
  deriving Repr

def FieldFault.message (fault : FieldFault) : String :=
  fault.field ++ ": " ++ fault.fault.code ++ ": " ++ fault.fault.message

abbrev FieldFaults := List FieldFault

def FieldFaults.message (faults : FieldFaults) : String :=
  "; ".intercalate (faults.map FieldFault.message)

/--
A value whose fields were checked, or the faults of all its fields.
-/
abbrev Checked (α : Type) := Except FieldFaults α

namespace Checked

variable {α β γ : Type}

def ofField (field : String) (read : Json → Except Fault α) (input : Json) : Checked α :=
  (read input).mapError (fun fault => [⟨field, fault, input⟩])

def ofField? (field : String) (read : Json → Except Fault α) (default : α)
    : Option Json → Checked α
  | none => .ok default
  | some input => ofField field read input

/--
Combine two checks. If both fail, the faults of both are kept in order.
-/
def map₂ (f : α → β → γ) : Checked α → Checked β → Checked γ
  | .ok a, .ok b => .ok (f a b)
  | .ok _, .error faults => .error faults
  | .error faults, .ok _ => .error faults
  | .error faults, .error more => .error (faults ++ more)

end Checked

end SearchBox
