import LetPoly.Datatype.Field
import LetPoly.Param
import LetPoly.Report
import LetPoly.Text.Form
import LetPoly.Text.Identifier
import LetPoly.Text.Words

/-!
# Datatypes from specifications

A datatype is declared by its name and one line for each constructor: the constructor's name and
the names of its fields, with blanks between them. Its values are immutable, and equal when they
have the same constructor, by position, and equal fields.

A constructor is a function whose parameters are the value under construction and then the fields.
So the names of fields must be fit for parameters: identifiers in compatible form, none of them
reserved, and all different, also from the name of the value under construction. A field whose name
has a meaning for every constructor has this meaning for its default, and only fields with a default
may follow it.
-/

namespace LetPoly

/-- A constructor with its fields. -/
structure Constructor where
  name : String
  params : List (Param Datatype.Field)
deriving DecidableEq, Inhabited

/-- The names of the fields. -/
def Constructor.fields (c : Constructor) : List String := c.params.map Param.name

/-- A datatype with its constructors. -/
structure Datatype where
  name : String
  constructors : List Constructor
deriving DecidableEq, Inhabited

namespace Datatype

/-! ## Refusals -/

/-- Why a declaration is refused, or the use of a value. -/
inductive Refusal where
  /-- A specification without a word. -/
  | blank
  | notIdentifier (field : String)
  | reserved (field : String)
  | duplicated (field : String)
  /-- A name with a null character in it. -/
  | nullInName
  /-- A default of the given kind that could change. -/
  | changingDefault (kind field : String)
  /-- A field without a default after one with a default. -/
  | missingDefault (field : String)
  /-- Two fields of the same compatible form. -/
  | sameForm (form : String)
  /-- A field of the same compatible form as the name of the value under construction. -/
  | receiverForm (form : String)
  /-- A field of the name that stands for a constant. -/
  | constant
  /-- A field that is not in compatible form. -/
  | otherForm (field : String)
  /-- A field of the given kind that stands where the fields of a value are listed. -/
  | noListing (kind : String)
deriving DecidableEq, Inhabited

/-- The name that stands for a constant. -/
def constantName : String := "__debug__"

/-- The refusal in words. -/
def Refusal.message : Refusal → String
  | .blank => Position.Fault.outOfRange.message "list"
  | .notIdentifier field => "Field names must be valid identifiers: " ++ Text.quoted field
  | .reserved field => "Field names must not be keywords: " ++ Text.quoted field
  | .duplicated field => "Field name duplicated: " ++ Text.quoted field
  | .nullInName => "type name must not contain null characters"
  | .changingDefault kind field =>
    "mutable default <class '" ++ kind ++ "'> for field " ++ field
      ++ " is not allowed: use default_factory"
  | .missingDefault field =>
    "non-default argument " ++ Text.quoted field ++ " follows default argument"
  | .sameForm form =>
    "duplicate argument '_type_" ++ form ++ "' in function definition (<string>, line 1)"
  | .receiverForm form =>
    "duplicate argument '" ++ form ++ "' in function definition (<string>, line 2)"
  | .constant => "cannot assign to " ++ constantName ++ " (<string>, line 2)"
  | .otherForm field =>
    "__create_fn__() got an unexpected keyword argument '_type_" ++ field ++ "'"
  | .noListing kind => "'" ++ kind ++ "' object has no attribute 'values'"

/-! ## Declarations -/

/-- Words that cannot name a field. -/
def reservedWords : List String :=
  ["False", "None", "True", "and", "as", "assert", "async", "await", "break", "class", "continue",
   "def", "del", "elif", "else", "except", "finally", "for", "from", "global", "if", "import", "in",
   "is", "lambda", "nonlocal", "not", "or", "pass", "raise", "return", "try", "while", "with",
   "yield"]

/-- Checks the names of fields from left to right, of which `seen` come before. -/
def checkFields (seen : List String) : List String → Except Refusal Unit
  | [] => .ok ()
  | field :: rest =>
    if !Text.isIdentifier field then .error (.notIdentifier field)
    else if reservedWords.contains field then .error (.reserved field)
    else if seen.contains field then .error (.duplicated field)
    else checkFields (field :: seen) rest

/-- Checks the name of a datatype or of a constructor. -/
def checkName (name : String) : Except Refusal Unit :=
  if name.toList.contains (Char.ofNat 0) then .error .nullInName else .ok ()

/-- The parameter of a field, with its default. -/
def param (setting : Meaning.Setting) (field : String) : Except Refusal (Param Field) :=
  match Meaning.of? setting field with
  | none => .ok { name := field }
  | some (.fixed x) => .ok { name := field, default? := some x }
  | some (.changing kind) => .error (.changingDefault kind field)

/-- The parameters of fields, whose meanings are looked up from left to right. -/
def paramsOf (setting : Meaning.Setting) : List String → Except Refusal (List (Param Field))
  | [] => .ok []
  | field :: rest => do
    let p ← param setting field
    return p :: (← paramsOf (setting.afterLookup field) rest)

/-- Checks that fields with a default come last, where `seen` tells whether there was one. -/
def checkDefaults (seen : Bool) : List (Param Field) → Except Refusal Unit
  | [] => .ok ()
  | p :: rest =>
    if seen && p.default?.isNone then .error (.missingDefault p.name)
    else checkDefaults (seen || p.default?.isSome) rest

/-- The first text that comes a second time. -/
def firstRepeated? (seen : List String) : List String → Option String
  | [] => none
  | s :: rest => if seen.contains s then some s else firstRepeated? (s :: seen) rest

/-- The name of the value under construction, beside fields of the given names. -/
def receiver (fields : List String) : String :=
  if fields.contains "self" then "__dataclass_self__" else "self"

/-- Checks the compatible forms of the names of fields. -/
def checkForms (fields : List String) : Except Refusal Unit :=
  let forms := fields.map Text.compatibleForm
  match firstRepeated? [] forms with
  | some form => .error (.sameForm form)
  | none =>
    if forms.contains (receiver fields) then .error (.receiverForm (receiver fields))
    else if forms.contains constantName then .error .constant
    else
      match fields.find? fun field => Text.compatibleForm field != field with
      | some field => .error (.otherForm field)
      | none => .ok ()

/-- The constructor of a specification, in the datatype of the given name. -/
def constructor (datatype spec : String) : Except Refusal Constructor :=
  match Text.words spec with
  | [] => .error .blank
  | name :: fields => do
    checkFields [] fields
    checkName name
    let params ← paramsOf { datatype, constructor := name } fields
    checkDefaults false params
    checkForms fields
    return { name, params }

/-- Declares a datatype. -/
def declare (name : String) (specs : List String) : Except Refusal Datatype := do
  checkName name
  return { name, constructors := ← specs.mapM (constructor name) }

/-! ## Values -/

/-- A value: the position of its constructor, the constructor, and its fields. -/
structure Instance where
  position : Nat
  constructor : Constructor
  fields : List Field
deriving DecidableEq, Inhabited

/-- Why a value is not made. -/
inductive Unmade where
  /-- There is no constructor at the position. -/
  | noConstructor (fault : Position.Fault)
  /-- The given fields do not fit the constructor, or one of them cannot be set to what is given. -/
  | unfit
  /-- The constructor has a field that is never set. -/
  | notWritable
deriving DecidableEq, Inhabited

/-- The name by which values are given their fields. A constructor that has a field of this name
cannot give its values any. -/
def setterName : String := "__dataclass_builtins_object__"

/-- Checks that fields can be set, which is done from left to right. The field that tells what kind
of value a value is takes no number and no text, and the one that leads to those who refer to the
value is never set. -/
def checkSettable : List String → Except Unmade Unit
  | [] => .ok ()
  | "__class__" :: _ => .error .unfit
  | "__weakref__" :: _ => .error .notWritable
  | _ :: rest => checkSettable rest

/-- Makes a value. -/
def make (d : Datatype) (i : Int) (given : List Field) : Except Unmade Instance :=
  match Position.get d.constructors i with
  | .error fault => .error (.noConstructor fault)
  | .ok (position, c) =>
    match Param.values? c.params given [] with
    | none => .error .unfit
    | some fields => do
      if c.fields.contains setterName then throw .unfit
      checkSettable c.fields
      return { position, constructor := c, fields }

namespace Instance

/-- The value written out, each field with its name. -/
def describe (v : Instance) : String :=
  let fields := (v.constructor.fields.zip v.fields).map fun (name, x) => name ++ "=" ++ x.describe
  v.constructor.name ++ "(" ++ ", ".intercalate fields ++ ")"

/-- The message for an assignment to a field: values do not change. -/
def assignMessage (field : String) : String := "cannot assign to field " ++ Text.quoted field

/-- The name under which the fields of a value are listed. -/
def listingName : String := "__dataclass_fields__"

/-- The messages for an assignment to each field. There is no telling what the fields are if one of
them stands in place of their listing. -/
def assignMessages (v : Instance) : Except Refusal (List String) :=
  match (v.constructor.fields.zip v.fields).lookup listingName with
  | some x => .error (.noListing x.kind)
  | none => .ok (v.constructor.fields.map assignMessage)

end Instance

/-- The positions `i < j` of equal values in a list in which some could not be made. -/
def equalPairs (vs : List (Option Instance)) : List (Nat × Nat) :=
  (Report.equalPairs vs).filter fun (i, _) => (vs[i]?.join).isSome

end Datatype

end LetPoly
