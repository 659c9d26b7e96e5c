import LetPoly.Decimal

/-!
# Attempts

An attempt holds a value or the failure that came in its place. Applying a function to an attempt
applies it to the value; a failure is passed on and no function is called any more. A failure that
the function raises is held from then on, unless it is a fatal one: those leave the attempt.

An attempt is itself a value, so attempts can be nested; a failure can also be returned like any
other value. Functions may have effects of any sort: they are computations that can raise failures.

Failures are of kinds, of which some are special cases of others. Values are written out, unless
they hold a number that is too long to be written.
-/

namespace LetPoly

/-! ## Failures -/

/-- What a failure says. -/
inductive Detail where
  | int (n : Int)
  | text (s : String)
deriving DecidableEq, Inhabited

/-- The detail written out. -/
def Detail.describe : Detail → String
  | .int n => toString n
  | .text s => Text.quoted s

/-- A failure of some kind, with details. A kind that is not built in names the kinds under which it
was declared. -/
structure Failure where
  kind : String
  details : List Detail := []
  bases : List String := []
deriving DecidableEq, Inhabited

namespace Failure

/-! ### Kinds -/

/-- The built-in kinds, each with a kind that it is a special case of. Special cases come first. -/
def parents : List (String × String) :=
  [("UnboundLocalError", "NameError"),
   ("ModuleNotFoundError", "ImportError"),
   ("TabError", "IndentationError"), ("IndentationError", "SyntaxError"),
   ("FloatingPointError", "ArithmeticError"), ("OverflowError", "ArithmeticError"),
   ("ZeroDivisionError", "ArithmeticError"),
   ("IndexError", "LookupError"), ("KeyError", "LookupError"),
   ("BrokenPipeError", "ConnectionError"), ("ConnectionAbortedError", "ConnectionError"),
   ("ConnectionRefusedError", "ConnectionError"), ("ConnectionResetError", "ConnectionError"),
   ("BlockingIOError", "OSError"), ("ChildProcessError", "OSError"), ("ConnectionError", "OSError"),
   ("FileExistsError", "OSError"), ("FileNotFoundError", "OSError"),
   ("InterruptedError", "OSError"), ("IsADirectoryError", "OSError"),
   ("NotADirectoryError", "OSError"),
   ("PermissionError", "OSError"), ("ProcessLookupError", "OSError"), ("TimeoutError", "OSError"),
   ("NotImplementedError", "RuntimeError"), ("RecursionError", "RuntimeError"),
   ("UnicodeDecodeError", "UnicodeError"), ("UnicodeEncodeError", "UnicodeError"),
   ("UnicodeTranslateError", "UnicodeError"), ("UnicodeError", "ValueError"),
   ("BytesWarning", "Warning"), ("DeprecationWarning", "Warning"), ("EncodingWarning", "Warning"),
   ("FutureWarning", "Warning"), ("ImportWarning", "Warning"),
   ("PendingDeprecationWarning", "Warning"), ("ResourceWarning", "Warning"),
   ("RuntimeWarning", "Warning"), ("SyntaxWarning", "Warning"), ("UnicodeWarning", "Warning"),
   ("UserWarning", "Warning"),
   ("ArithmeticError", "Exception"), ("AssertionError", "Exception"),
   ("AttributeError", "Exception"), ("BufferError", "Exception"), ("EOFError", "Exception"),
   ("ExceptionGroup", "Exception"), ("ImportError", "Exception"), ("LookupError", "Exception"),
   ("MemoryError", "Exception"), ("NameError", "Exception"), ("OSError", "Exception"),
   ("ReferenceError", "Exception"), ("RuntimeError", "Exception"), ("StopIteration", "Exception"),
   ("StopAsyncIteration", "Exception"), ("SyntaxError", "Exception"), ("SystemError", "Exception"),
   ("TypeError", "Exception"), ("ValueError", "Exception"), ("Warning", "Exception"),
   ("ExceptionGroup", "BaseExceptionGroup"),
   ("BaseExceptionGroup", "BaseException"), ("Exception", "BaseException"),
   ("GeneratorExit", "BaseException"), ("KeyboardInterrupt", "BaseException"),
   ("SystemExit", "BaseException")]

/-- Kinds with the kinds that they are special cases of by a table. -/
def withParents (table : List (String × String)) (kinds : List String) : List String :=
  table.foldl (fun known row => if row.1 ∈ known then row.2 :: known else known) kinds

/-- Whether a kind is built in. -/
def isBuiltIn (kind : String) : Bool := parents.any fun row => row.1 = kind || row.2 = kind

/-- The kinds under which the kind of a failure was declared: if it is not built in and none are
given, it counts as a special case of `Exception`. -/
def declaredBases (f : Failure) : List String :=
  if f.bases.isEmpty && !isBuiltIn f.kind then ["Exception"] else f.bases

/-- All kinds that a failure is of. -/
def lineage (f : Failure) : List String := withParents parents (f.kind :: f.declaredBases)

/-- Whether a failure is of a kind, which may be more general than its own. -/
def isA (f : Failure) (kind : String) : Bool := f.lineage.contains kind

/-- The kinds of failure that no attempt holds when they are raised: broken programs, exhausted
machines, the signals by which iterations end, and warnings. -/
def unheldKinds : List String :=
  ["AssertionError", "NameError", "ImportError", "SyntaxError", "MemoryError", "OverflowError",
   "StopIteration", "StopAsyncIteration", "SystemError", "Warning"]

/-- Whether the failure leaves an attempt when it is raised: it is no `Exception` at all, such as
the signals by which programs end, or of a kind that is not held. -/
def isFatal (f : Failure) : Bool := !f.isA "Exception" || unheldKinds.any f.isA

/-! ### Texts -/

/-- The failure written out. -/
def describe (f : Failure) : String :=
  f.kind ++ "(" ++ ", ".intercalate (f.details.map Detail.describe) ++ ")"

/-- What the failure says, as a message. -/
def message (f : Failure) : String :=
  match f.details with
  | [] => ""
  | [.text s] => s
  | [.int n] => toString n
  | details => "(" ++ ", ".intercalate (details.map Detail.describe) ++ ")"

/-- A failure with a text. -/
def ofText (kind text : String) : Failure := { kind, details := [.text text] }

/-- Second names of kinds. -/
def aliases : List (String × String) :=
  [("EnvironmentError", "OSError"), ("IOError", "OSError")]

/-- The kind of a name. -/
def kindNamed (name : String) : String := (aliases.lookup name).getD name

/-- Kinds that take more than a text, with the complaint when a text is all they get. -/
def demanding : List (String × String) :=
  [("UnicodeDecodeError", "function takes exactly 5 arguments (1 given)"),
   ("UnicodeEncodeError", "function takes exactly 5 arguments (1 given)"),
   ("UnicodeTranslateError", "function takes exactly 4 arguments (1 given)"),
   ("BaseExceptionGroup", "BaseExceptionGroup.__new__() takes exactly 2 arguments (1 given)"),
   ("ExceptionGroup", "BaseExceptionGroup.__new__() takes exactly 2 arguments (1 given)")]

/-- The failure that arises when one of the named kind is raised with a text. -/
def raisedAs (name text : String) : Failure :=
  match demanding.lookup name with
  | some complaint => ofText "TypeError" complaint
  | none => ofText (kindNamed name) text

end Failure

/-! ## Values and attempts -/

/-- Values: plain ones, failures, and attempts that hold a value. -/
inductive Value (α : Type) where
  | plain (a : α)
  | failure (f : Failure)
  | attempt (held : Value α)
deriving DecidableEq, Inhabited

/-- An attempt holds a value; it has failed when the value is a failure. -/
structure Attempt (α : Type) where
  held : Value α
deriving DecidableEq, Inhabited

namespace Value

variable {α : Type}

/-- The value written out, with `text` for plain values. -/
def describe {ε : Type} (text : α → Except ε String) : Value α → Except ε String
  | .plain a => text a
  | .failure f => .ok f.describe
  | .attempt held => do return "ExceptionMonad(" ++ (← held.describe text) ++ ")"

/-- The value inside all attempts around it. -/
def core : Value α → Value α
  | .attempt held => held.core
  | v => v

/-- Whether the value is a failure, apart from those that are no `Exception`. -/
def isException : Value α → Bool
  | .failure f => f.isA "Exception"
  | _ => false

/-- Values are equal when they are the same apart from attempts around them. Two things are assumed:
that equality of plain values is reflexive, and that failures that are no `Exception` are known by
their kind and details as the others are. Where such failures come from they are compared by
identity, so that one of them equals itself and no other. -/
def same [DecidableEq α] (v w : Value α) : Bool := v.core = w.core

end Value

namespace Attempt

variable {α : Type}

/-- The attempt that holds a value. -/
def ret (v : Value α) : Attempt α := ⟨v⟩

/-- The attempt as a value. -/
def toValue (m : Attempt α) : Value α := .attempt m.held

/-- Whether the attempt holds a failure. -/
def failed (m : Attempt α) : Bool := m.held.isException

/-- The value that an attempt holds; any other value stays as it is. -/
def join : Value α → Value α
  | .attempt held => held
  | v => v

section

variable {μ : Type → Type} [Monad μ] [MonadExceptOf Failure μ]

/-- Applies a function to the value held. A failure is passed on; one that the function raises is
held, unless it is fatal. -/
def map (m : Attempt α) (f : Value α → μ (Value α)) : μ (Attempt α) :=
  if m.failed then pure m
  else tryCatch (do return ⟨← f m.held⟩) fun e => if e.isFatal then throw e else pure ⟨.failure e⟩

/-- Applies a function and takes the outer attempt off. -/
def flatMap (m : Attempt α) (f : Value α → μ (Value α)) : μ (Value α) := do
  return join (← m.map f).toValue

/-- The failure of `flatMap` on a value of some other sort than an attempt. -/
def noFlatMap (sort : String) : Failure :=
  .ofText "AttributeError" ("'" ++ sort ++ "' object has no attribute 'flatmap'")

/-- Goes on with `flatMap` from any value, which is possible from an attempt only. Plain values are
of the sort that `sort` says. -/
def flatMapFrom (sort : α → String) (v : Value α) (f : Value α → μ (Value α)) : μ (Value α) :=
  match v with
  | .attempt held => flatMap ⟨held⟩ f
  | .failure e => throw (noFlatMap e.kind)
  | .plain a => throw (noFlatMap (sort a))

/-- Goes on with `flatMap` from an attempt through any number of functions. -/
def flatMapAll (sort : α → String) (m : Attempt α) (fs : List (Value α → μ (Value α))) :
    μ (Value α) :=
  fs.foldlM (flatMapFrom sort) m.toValue

end

/-- Whether an attempt equals a value. -/
def equals [DecidableEq α] (m : Attempt α) (v : Value α) : Bool := m.toValue.same v

end Attempt

/-! ## Sample functions -/

namespace Attempt

/-- Fails because an operator is given an attempt and a number. -/
def unsupported (operator : String) : Failure :=
  .ofText "TypeError"
    ("unsupported operand type(s) for " ++ operator ++ ": 'ExceptionMonad' and 'int'")

/-- Uses the number that a value is; an attempt is none. -/
def withInt (operator : String) (v : Value Int) (f : Int → Except Failure (Value Int)) :
    Except Failure (Value Int) :=
  match v with
  | .plain a => f a
  | _ => .error (unsupported operator)

/-- The sample functions. -/
inductive Sample where
  /-- Subtracts, and fails below zero. -/
  | sub
  /-- Divides, rounding down. -/
  | div
  /-- Adds, and returns the sum in an attempt. -/
  | wrap
  /-- Raises a failure of the given kind at one number and returns any other value. -/
  | raise (kind : String)
deriving DecidableEq, Inhabited

/-- The sample function with its number `n`. -/
def Sample.apply (n : Int) : Sample → Value Int → Except Failure (Value Int)
  | .sub, v => withInt "-" v fun a =>
    if a - n < 0 then .error (.ofText "ValueError" "underflow") else .ok (.plain (a - n))
  | .div, v => withInt "//" v fun a =>
    if n = 0 then .error (.ofText "ZeroDivisionError" "integer division or modulo by zero")
    else .ok (.plain (a.fdiv n))
  | .wrap, v => withInt "+" v fun a => .ok (.attempt (.plain (a + n)))
  | .raise kind, v =>
    if v.same (.plain n) then
      match v.describe Decimal.write with
      | .ok text => .error (.raisedAs kind ("got " ++ text))
      | .error e => .error (.ofText "ValueError" e.message)
    else .ok v

/-! ## Chains -/

/-- The steps of a chain. -/
inductive Move where
  | map (f : Sample) (n : Int)
  | flatMap (f : Sample) (n : Int)
  | join (n : Int)
deriving DecidableEq, Inhabited

/-- The value that a step gives. -/
def Move.apply (m : Attempt Int) : Move → Except Failure (Value Int)
  | .map f n => (m.map (f.apply n)).map toValue
  | .flatMap f n => m.flatMap (f.apply n)
  | .join n => .ok (Attempt.join (.plain n))

/-- A value as an attempt: an attempt stays one, and any other value is held. -/
def ofValue {α : Type} (v : Value α) : Attempt α := ⟨join v⟩

/-- Whether a value is an attempt. -/
def isAttempt {α : Type} : Value α → Bool
  | .attempt _ => true
  | _ => false

/-- The attempt after a step; a step that raises leaves it as it was. -/
def next {α : Type} (m : Attempt α) : Except Failure (Value α) → Attempt α
  | .ok v => ofValue v
  | .error _ => m

/-- What is told of a step. -/
inductive Told where
  /-- The step raised a fatal failure. -/
  | raised (f : Failure)
  /-- The step gave a value: whether it is an attempt, its text, and whether the attempt from then
  on has failed. -/
  | gave (isAttempt : Bool) (text : String) (failed : Bool)
deriving DecidableEq, Inhabited

/-- Tells of a step. -/
def tell : Except Failure (Value Int) → Except Error Told
  | .error f => .ok (.raised f)
  | .ok v => do return .gave (isAttempt v) (← v.describe Decimal.write) (ofValue v).failed

/-- Runs a chain: what each step gave, and the attempt at the end. -/
def run (m : Attempt Int) : List Move → List (Except Failure (Value Int)) × Attempt Int
  | [] => ([], m)
  | move :: rest =>
    let r := move.apply m
    let (rs, m) := run (m.next r) rest
    (r :: rs, m)

end Attempt

end LetPoly
