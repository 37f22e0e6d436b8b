import TargetResolution.Text.CharClass
import TargetResolution.Text.Digits
import TargetResolution.Text.Quoted

/-!
Grammars of command lines: the options and operands of a command, and what each token of a command
line is before any of them is used. Options can be shortened as long as one option is meant.
-/

namespace TargetResolution.CommandLine

open Text

/-- What an option does. -/
inductive Effect where
  | help
  | version
  | switch
  /-- Takes a value, one of the given ones if there are any given. -/
  | value (choices : List String)
  deriving DecidableEq, Repr

/-- An option with its spellings. -/
structure OptionSpec where
  spellings : List String
  effect : Effect
  required : Bool := false
  deriving DecidableEq, Repr

/-- How many tokens an operand takes. -/
inductive Arity where
  | one
  | many
  /-- A token that is one of the given names, and all tokens behind it. -/
  | command (names : List String)
  deriving DecidableEq, Repr

/-- An operand: a name and the tokens that it takes. -/
structure OperandSpec where
  name : String
  arity : Arity
  required : Bool := true
  deriving DecidableEq, Repr

/-- An option or an operand. -/
inductive Part where
  | option (spec : OptionSpec)
  | operand (spec : OperandSpec)
  deriving DecidableEq, Repr

/-- The grammar of a command: its parts in order. -/
structure Grammar where
  parts : List Part
  deriving DecidableEq, Repr

/-- The name of an option in messages: all its spellings. -/
def OptionSpec.name (o : OptionSpec) : String := "/".intercalate o.spellings

/-- Whether an option takes a value. -/
def OptionSpec.takesValue (o : OptionSpec) : Bool :=
  match o.effect with
  | .value _ => true
  | _ => false

namespace Grammar

/-- The operands, in order. -/
def operands (g : Grammar) : List OperandSpec :=
  g.parts.filterMap fun
    | .operand o => some o
    | .option _ => none

/-- The options, each with each of its spellings. -/
def spellings (g : Grammar) : List (String × OptionSpec) :=
  g.parts.flatMap fun
    | .option o => o.spellings.map fun s => (s, o)
    | .operand _ => []

/-- The option of a spelling. -/
def option? (g : Grammar) (spelling : String) : Option OptionSpec := g.spellings.lookup spelling

end Grammar

/-! ### Errors -/

/-- What is wrong with an argument. -/
inductive Problem where
  | unwantedValue (value : String)
  | missingValue
  | noChoice (value : String) (choices : List String)
  deriving DecidableEq, Repr

/-- Why a command line is refused. -/
inductive Refusal where
  | ambiguous (token : String) (candidates : List String)
  | argument (name : String) (problem : Problem)
  | missing (names : List String)
  | unrecognized (tokens : List String)
  deriving DecidableEq, Repr

/-- The wording of a problem. -/
def Problem.message : Problem → String
  | .unwantedValue value => "ignored explicit argument " ++ quoted value
  | .missingValue => "expected one argument"
  | .noChoice value choices =>
    "invalid choice: " ++ quoted value ++ " (choose from " ++ ", ".intercalate (choices.map quoted)
      ++ ")"

/-- The wording of a refusal. -/
def Refusal.message : Refusal → String
  | .ambiguous token candidates =>
    "ambiguous option: " ++ token ++ " could match " ++ ", ".intercalate candidates
  | .argument name problem => "argument " ++ name ++ ": " ++ problem.message
  | .missing names => "the following arguments are required: " ++ ", ".intercalate names
  | .unrecognized tokens => "unrecognized arguments: " ++ " ".intercalate tokens

/-! ### Tokens -/

/-- What a token is. -/
inductive Role where
  | plain
  | separator
  /-- An option, the spelling that is meant, and the text in the token behind it. -/
  | option (spec : OptionSpec) (spelling : String) (attached : Option (List Char))
  | unknown
  deriving DecidableEq, Repr

/-- A token and what it is. -/
structure Token where
  text : String
  role : Role
  deriving DecidableEq, Repr

/-- The token that ends the options. -/
def separator : String := "--"

/-- Whether a text is a negative number, which is no option. -/
def isNegativeNumber (cs : List Char) : Bool :=
  match withoutFinalBreak cs with
  | '-' :: body =>
    let whole := body.takeWhile isDecimalDigit
    match body.dropWhile isDecimalDigit with
    | [] => !whole.isEmpty
    | '.' :: fraction => !fraction.isEmpty && fraction.all isDecimalDigit
    | _ => false
  | _ => false

namespace Grammar

/-- The options that a shortened token can mean: two dashes and the start of a spelling with an
optional value, or one dash and a letter with what is attached to it. -/
def candidates (g : Grammar) (cs : List Char) :
    List (OptionSpec × String × Option (List Char)) :=
  match cs with
  | '-' :: '-' :: _ =>
    let start := cs.takeWhile (· != '=')
    let attached := if '=' ∈ cs then some ((cs.dropWhile (· != '=')).drop 1) else none
    g.spellings.filterMap fun (spelling, o) =>
      if start.isPrefixOf spelling.toList then some (o, spelling, attached) else none
  | _ =>
    g.spellings.filterMap fun (spelling, o) =>
      if spelling.toList = cs.take 2 then some (o, spelling, some (cs.drop 2))
      else if cs.isPrefixOf spelling.toList then some (o, spelling, none)
      else none

/-- The role of a token before the separator. -/
def role (g : Grammar) (token : String) : Except Refusal Role :=
  let cs := token.toList
  if cs.head? ≠ some '-' then .ok .plain
  else
    match g.option? token with
    | some o => .ok (.option o token none)
    | none =>
      let start := String.ofList (cs.takeWhile (· != '='))
      if cs.length = 1 then .ok .plain
      else
        match if '=' ∈ cs then g.option? start else none with
        | some o => .ok (.option o start (some ((cs.dropWhile (· != '=')).drop 1)))
        | none =>
          match g.candidates cs with
          | [(o, spelling, attached)] => .ok (.option o spelling attached)
          | [] => .ok (if isNegativeNumber cs || ' ' ∈ cs then .plain else .unknown)
          | several => .error (.ambiguous token (several.map fun (_, spelling, _) => spelling))

/-- The roles of all tokens. Behind the separator all are plain. -/
def roles (g : Grammar) : List String → Except Refusal (List Token)
  | [] => .ok []
  | token :: rest =>
    if token = separator then
      .ok (⟨token, .separator⟩ :: rest.map fun t => ⟨t, .plain⟩)
    else do
      let role ← g.role token
      let more ← g.roles rest
      pure (⟨token, role⟩ :: more)

end Grammar

end TargetResolution.CommandLine
