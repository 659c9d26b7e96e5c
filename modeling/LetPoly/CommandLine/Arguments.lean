import LetPoly.Text.Digit
import LetPoly.Text.Quoted

/-!
# Arguments

How the words of a command line are understood. A word is an option or a name:

* `-h`, `--help` and `--trace` are options; so is a beginning of a long one that only it has.
* After a word `--` all words are names. Before it a word is a name if it does not start with `-`,
  if it is `-` alone, if it is a negative number, or if it holds a blank and is no option.
* Any other word is an unknown option.

No option takes a value. The letter of `-h` may be repeated in its word, also after a `=` that
directly follows the first one; anything else in the word is a value.

All words are classified first; a beginning that several options have is refused then. After that
they are taken from left to right: help ends everything, and a value given to an option is
refused. The names must stand together: those after the first run of names, and unknown options,
are left over, which is refused at the end.
-/

namespace LetPoly.CommandLine

/-! ## Options -/

/-- The options. -/
inductive Flag where
  | help
  | trace
deriving DecidableEq, Inhabited

/-- How an option is named in messages. -/
def Flag.label : Flag → String
  | .help => "-h/--help"
  | .trace => "--trace"

/-- The long names of options, in the order in which messages list them. -/
def longOptions : List (String × Flag) := [("--help", .help), ("--trace", .trace)]

/-- Why a command line is refused. -/
inductive Refusal where
  | ambiguous (word : String) (options : List String)
  | valueIgnored (flag : Flag) (value : String)
  | unrecognized (words : List String)
  | unknownSample (name : String)
deriving DecidableEq, Inhabited

/-- The refusal in words. -/
def Refusal.message : Refusal → String
  | .ambiguous word options =>
    "ambiguous option: " ++ word ++ " could match " ++ ", ".intercalate options
  | .valueIgnored flag value =>
    "argument " ++ flag.label ++ ": ignored explicit argument " ++ Text.quoted value
  | .unrecognized words => "unrecognized arguments: " ++ " ".intercalate words
  | .unknownSample name => "unknown example " ++ name

/-! ## Classification -/

/-- What a word of the command line is. -/
inductive Word where
  | name
  /-- The word `--`, which stands with the names. -/
  | dashes
  /-- A long option, with a value if one was given. -/
  | long (flag : Flag) (value : Option String)
  /-- The option `-h`, with what follows it in the word if anything does; a `=` is left out. -/
  | short (rest : Option (List Char))
  | unknown
deriving DecidableEq, Inhabited

/-- Splits a word at its first `=`. -/
def splitValue (cs : List Char) : List Char × Option String :=
  match cs.dropWhile (· != '=') with
  | [] => (cs, none)
  | _ :: value => (cs.takeWhile (· != '='), some (String.ofList value))

/-- Digits, at least one, up to the end or to a newline that ends the word. -/
def endsInDigits (cs : List Char) : Bool :=
  let rest := cs.dropWhile Text.isDecimalDigit
  rest.length < cs.length && (rest.isEmpty || rest == ['\n'])

/-- Whether a word reads as a negative number: `-` and digits, with a point before the last ones
if there is one. -/
def isNegativeNumber (cs : List Char) : Bool :=
  match cs with
  | '-' :: ds =>
    endsInDigits ds ||
      match ds.dropWhile Text.isDecimalDigit with
      | '.' :: fraction => endsInDigits fraction
      | _ => false
  | _ => false

/-- The word of a name or of an unknown option, once it is known to be no option. -/
def classifyOther (cs : List Char) : Word :=
  if isNegativeNumber cs || cs.contains ' ' then .name else .unknown

/-- Classifies a word that stands before `--`. -/
def classify (word : String) : Except Refusal Word :=
  let cs := word.toList
  match cs with
  | '-' :: '-' :: _ =>
    let (option, value) := splitValue cs
    match longOptions.filter fun o => option.isPrefixOf o.1.toList with
    | [(_, flag)] => .ok (.long flag value)
    | [] => .ok (classifyOther cs)
    | several => .error (.ambiguous word (several.map Prod.fst))
  | ['-'] => .ok .name
  | ['-', 'h'] => .ok (.short none)
  | '-' :: 'h' :: '=' :: rest => .ok (.short (some rest))
  | '-' :: 'h' :: rest => .ok (.short (some rest))
  | '-' :: _ => .ok (classifyOther cs)
  | _ => .ok .name

/-- Classifies all words. -/
def classifyAll : List String → Except Refusal (List (String × Word))
  | [] => .ok []
  | "--" :: rest => .ok (("--", .dashes) :: rest.map fun word => (word, .name))
  | word :: rest => do
    let kind ← classify word
    let kinds ← classifyAll rest
    return (word, kind) :: kinds

/-! ## Requests -/

/-- What a command line asks for. -/
inductive Request where
  | help
  | run (names : List String) (traced : Bool)
deriving DecidableEq, Inhabited

/-- What has been taken from the left. -/
structure Taken where
  /-- The run of names, latest first, with the word `--` among them. -/
  names : List String := []
  /-- Whether the run of names has ended. -/
  closed : Bool := false
  traced : Bool := false
  /-- Words that are left over, latest first. -/
  extras : List String := []
deriving DecidableEq, Inhabited

/-- Takes a name, or leaves it over after the run of names. -/
def Taken.name (t : Taken) (word : String) : Taken :=
  if t.closed then { t with extras := word :: t.extras } else { t with names := word :: t.names }

/-- An option ends a run of names that has begun. -/
def Taken.option (t : Taken) : Taken := { t with closed := t.closed || !t.names.isEmpty }

/-- Reads what follows `-h` in its word: help is asked for if it is the letter again, once or more,
and anything after that is a value. -/
def shortRest : List Char → Except Refusal Request
  | ['h'] => .ok .help
  | 'h' :: rest => shortRest rest
  | value => .error (.valueIgnored .help (String.ofList value))

/-- Takes words from the left. -/
def take (t : Taken) : List (String × Word) → Except Refusal Request
  | [] =>
    if t.extras.isEmpty then .ok (.run (t.names.reverse.erase "--") t.traced)
    else .error (.unrecognized t.extras.reverse)
  | (word, kind) :: rest =>
    match kind with
    | .name | .dashes => take (t.name word) rest
    | .unknown => let t := t.option; take { t with extras := word :: t.extras } rest
    | .long flag (some value) => .error (.valueIgnored flag value)
    | .long .help none => .ok .help
    | .long .trace none => take { t.option with traced := true } rest
    | .short none => .ok .help
    | .short (some rest) => shortRest rest

/-- What a command line asks for, or why it is refused. -/
def request (words : List String) : Except Refusal Request := do
  take {} (← classifyAll words)

end LetPoly.CommandLine
