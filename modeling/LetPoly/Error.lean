import LetPoly.Position
import LetPoly.Signature.Parse

/-!
# Failures

Every way in which an operation of the library can fail, as a cause with what a reader needs to
know, and the one place where causes are put into words.
-/

namespace LetPoly

/-- Why an operation failed. Types appear as they were shown when the failure arose. -/
inductive Error where
  /-- Two operators differ in name or in their number of components. -/
  | mismatch (left right : String)
  /-- A variable would have to stand for a type that holds it. -/
  | recursive (label type : String)
  /-- A name that is neither in the environment nor an integer. -/
  | undefined (name : String)
  /-- A text that is not a signature. -/
  | signature (text : String) (problem : Signature.Problem)
  /-- A numeral with more digits than are ever read. -/
  | numeralTooLong (digits : Nat)
  /-- A number with more digits than are ever written. -/
  | numberTooLong
  /-- A bound variable cannot be bound again. -/
  | alreadyBound (id : Nat)
  /-- The bare type was met where a type is looked into. -/
  | invalidType
  /-- Two types, one of them bare and none a variable, cannot be unified. -/
  | invalidCase (left right : String)
  /-- The bare term was met where a term is looked into. -/
  | invalidTerm
  /-- A term is missing where one is looked into. -/
  | missingTerm
  /-- A builder was given nothing to build from. -/
  | nothingToBuild
  /-- An operator has no component at the given position. -/
  | noSuchComponent (fault : Position.Fault)
  /-- A type other than an operator has no components. -/
  | noComponents (bare : Bool)
  /-- A type other than a variable was given where a variable is needed. -/
  | notVariable
  /-- Nothing is kept under the given name. -/
  | unknownRegister (name : String)
  /-- The bindings of the store form a cycle. -/
  | cyclic
deriving DecidableEq, Inhabited

/-- Whether the failure says that a program has no type. -/
def Error.isUntypable : Error → Bool
  | .mismatch .. | .recursive .. | .undefined _ => true
  | _ => false

/-- The failure in words. -/
def Error.message : Error → String
  | .mismatch left right => "Type mismatch " ++ left ++ " != " ++ right
  | .recursive label type => "Recursive unification, " ++ label ++ " occurs in " ++ type
  | .undefined name => "Undefined symbol " ++ name
  | .signature text problem =>
    "Invalid type signature " ++ Text.quoted text ++ ": " ++ problem.message
  | .numeralTooLong digits =>
    "Exceeds the limit (4300 digits) for integer string conversion: value has "
      ++ toString digits
      ++ " digits; use sys.set_int_max_str_digits() to increase the limit"
  | .numberTooLong =>
    "Exceeds the limit (4300 digits) for integer string conversion; "
      ++ "use sys.set_int_max_str_digits() to increase the limit"
  | .alreadyBound id => "TypeVariable(" ++ toString id ++ ") is already bound"
  | .invalidType => "invalid type <hmtypes.Type object>"
  | .invalidCase left right => "invalid case " ++ left ++ " " ++ right
  | .invalidTerm => "invalid term <fphack.Term object>"
  | .missingTerm => ""
  | .nothingToBuild => "not enough values to unpack (expected at least 1, got 0)"
  | .noSuchComponent fault => fault.message "tuple"
  | .noComponents true => "'Type' object has no attribute 'types'"
  | .noComponents false => "'TypeVariable' object has no attribute 'types'"
  | .notVariable => "a type variable is needed"
  | .unknownRegister name => Text.quoted name
  | .cyclic => "the bindings form a cycle"

end LetPoly
