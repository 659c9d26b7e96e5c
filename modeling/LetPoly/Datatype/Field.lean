import LetPoly.Text.Quoted

/-!
# Fields

What the fields of a value hold: a number or a text that was given, or something that its
constructor had from the start. Some names have a meaning for every constructor, whatever its
fields are: what it is called, what it is made from, what can be done with its values. A field of
such a name has this meaning for its default.
-/

namespace LetPoly.Datatype

/-- What a field holds. -/
inductive Field where
  | int (n : Int)
  | text (s : String)
  /-- Something other than a number or a text, as it is written out. -/
  | other (written : String)
deriving DecidableEq, Inhabited

/-- The field written out. -/
def Field.describe : Field → String
  | .int n => toString n
  | .text s => Text.quoted s
  | .other written => written

/-- What kind of thing a field holds, in a word. -/
def Field.kind : Field → String
  | .int _ => "int"
  | .text _ => "str"
  | .other _ => "object"

/-- What a name means for a constructor. -/
inductive Meaning where
  /-- Something that stays as it is, and so can be a default. -/
  | fixed (x : Field)
  /-- Something of the given kind that may change. -/
  | changing (kind : String)
deriving DecidableEq, Inhabited

namespace Meaning

/-- How a kind of values is written out. -/
def kind (place name : String) : String := "<class " ++ "'" ++ place ++ "." ++ name ++ "'>"

/-- What every value can do, and what can be done to it. -/
def abilities : List String :=
  ["__delattr__", "__eq__", "__ge__", "__getattribute__", "__gt__", "__hash__", "__init__",
   "__le__", "__lt__", "__ne__", "__repr__", "__setattr__", "__str__"]

/-- What every value can tell of itself. -/
def accounts : List String :=
  ["__dir__", "__format__", "__getstate__", "__reduce__", "__reduce_ex__", "__sizeof__"]

/-- What every kind of values can do. -/
def kindAbilities : List String :=
  ["__init_subclass__", "__instancecheck__", "__new__", "__prepare__", "__subclasscheck__",
   "__subclasses__", "__subclasshook__", "mro"]

/-- The operators that every kind of values has. -/
def kindOperators : List String := ["__call__", "__or__", "__ror__"]

/-- What the meaning of a name depends on. -/
structure Setting where
  datatype : String
  constructor : String
  /-- Whether the constructor has answered to a name before. -/
  answered : Bool := false
deriving DecidableEq, Inhabited

/-- The properties of kinds as such: for these names a constructor is not asked. -/
def kindProperties : List String :=
  ["__abstractmethods__", "__annotations__", "__base__", "__bases__", "__basicsize__", "__class__",
   "__dict__", "__dictoffset__", "__doc__", "__flags__", "__itemsize__", "__module__", "__mro__",
   "__name__", "__qualname__", "__text_signature__", "__weakrefoffset__"]

/-- The length of the longest name to which a constructor keeps its answer. -/
def longestKept : Nat := 100

/-- The setting after a name was looked up. A constructor that has kept an answer is marked as one
that has. -/
def Setting.afterLookup (s : Setting) (name : String) : Setting :=
  { s with answered :=
      s.answered || (!kindProperties.contains name && name.length ≤ longestKept) }

/-- The marks of a constructor, one bit for each. -/
def Setting.flags (s : Setting) : Int := if s.answered then 546320 else 22032

/-- What names mean for a constructor of a datatype, apart from abilities. -/
def properties (s : Setting) : List (String × Meaning) :=
  let base := kind "fphack" s.datatype
  let own := kind "types" s.constructor
  [("__annotations__", .changing "dict"),
   ("__base__", .fixed (.other base)),
   ("__bases__", .fixed (.other ("(" ++ base ++ ",)"))),
   ("__basicsize__", .fixed (.int 24)),
   ("__class__", .fixed (.other "<class 'type'>")),
   ("__dataclass_params__", .fixed (.other ("_DataclassParams(init=True,repr=True,eq=True,"
      ++ "order=False,unsafe_hash=False,frozen=True)"))),
   ("__dict__", .changing "mappingproxy"),
   ("__dictoffset__", .fixed (.int (-48))),
   ("__doc__", .fixed (.other "None")),
   ("__flags__", .fixed (.int s.flags)),
   ("__itemsize__", .fixed (.int 0)),
   ("__module__", .fixed (.text "types")),
   ("__mro__", .fixed (.other ("(" ++ own ++ ", " ++ base ++ ", <class 'object'>)"))),
   ("__name__", .fixed (.text s.constructor)),
   ("__qualname__", .fixed (.text s.constructor)),
   ("__slots__", .fixed (.other "()")),
   ("__text_signature__", .fixed (.other "None")),
   ("__weakref__", .fixed (.other ("<attribute '__weakref__' of '" ++ s.constructor
      ++ "' objects>"))),
   ("__weakrefoffset__", .fixed (.int 16))]

/-- What a name means for a constructor, if it means anything. -/
def of? (s : Setting) (name : String) : Option Meaning :=
  if abilities.contains name then
    some (.fixed (.other ("<slot wrapper '" ++ name ++ "' of 'object' objects>")))
  else if accounts.contains name then
    some (.fixed (.other ("<method '" ++ name ++ "' of 'object' objects>")))
  else if kindAbilities.contains name then
    some (.fixed (.other ("<built-in method " ++ name ++ " of type object>")))
  else if kindOperators.contains name then
    some (.fixed (.other ("<method-wrapper '" ++ name ++ "' of type object>")))
  else (properties s).lookup name

end Meaning

end LetPoly.Datatype
