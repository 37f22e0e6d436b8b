import TargetResolution.CommandLine.Grammar
import TargetResolution.Value.Text

/-!
Reading command lines by a grammar. Options are used in order. Operands are filled where the first
plain tokens stand, as many of them as can be filled there; plain tokens that come when all operands
are filled are left over, and so are unknown options.
-/

namespace TargetResolution.CommandLine

/-- A part of a grammar that a command line uses, with its values. A switch has none, and the
separator is no value. -/
inductive Setting where
  | option (spec : OptionSpec) (values : List String)
  | operand (spec : OperandSpec) (values : List String)
  deriving DecidableEq, Repr

/-- What a command line sets, and the tokens that are left over. -/
structure Reading where
  settings : List Setting := []
  extras : List String := []
  deriving DecidableEq, Repr

/-- Why reading ends early. -/
inductive Stop where
  | help
  | version
  | refused (refusal : Refusal)
  deriving DecidableEq, Repr

/-- The refusal of an argument. -/
def Stop.about (name : String) (problem : Problem) : Stop := .refused (.argument name problem)

/-! ### Options -/

/-- The options that one token uses with the texts that they are given, and the option that still
waits for one. -/
structure Cluster where
  used : List (OptionSpec × List String) := []
  waiting : Option OptionSpec := none

/-- Whether a spelling has one dash. -/
def isShort (spelling : String) : Bool := spelling.toList.drop 1 |>.head? |>.any (· != '-')

/-- The options of a token with attached text. Behind a switch of one letter the text goes on with
further options of one letter, and each letter of it must be one. -/
def cluster (g : Grammar) (o : OptionSpec) (spelling : String) : List Char → Except Stop Cluster
  | [] =>
    if o.takesValue then .ok { used := [(o, [""])] }
    else .error (.about o.name (.unwantedValue ""))
  | c :: rest =>
    let text := String.ofList (c :: rest)
    if o.takesValue then .ok { used := [(o, [text])] }
    else
      let letter := String.ofList ['-', c]
      match if isShort spelling then g.option? letter else none with
      | none => .error (.about o.name (.unwantedValue text))
      | some next =>
        let inner : Except Stop Cluster :=
          if rest.isEmpty then .ok { waiting := some next } else cluster g next letter rest
        inner.map fun k => { k with used := (o, []) :: k.used }

/-- The cluster with the text for the waiting option from the next token, and the tokens behind. -/
def Cluster.complete (k : Cluster) (rest : List Token) :
    Except Stop (List (OptionSpec × List String) × List Token) :=
  match k.waiting with
  | none => .ok (k.used, rest)
  | some o =>
    if o.takesValue then
      match rest with
      | ⟨text, .plain⟩ :: rest => .ok (k.used ++ [(o, [text])], rest)
      | _ => .error (.about o.name .missingValue)
    else .ok (k.used ++ [(o, [])], rest)

/-- The setting of a used option, if the option does not end reading and has allowed values. -/
def useOption (o : OptionSpec) (given : List String) : Except Stop Setting :=
  let values := given.erase separator
  match o.effect with
  | .help => .error .help
  | .version => .error .version
  | .switch => .ok (.option o values)
  | .value choices =>
    match if choices.isEmpty then none else values.find? (!choices.contains ·) with
    | none => .ok (.option o values)
    | some value => .error (.about o.name (.noChoice value choices))

/-! ### Operands -/

/-- Whether a token is a separator. -/
def Token.isSeparator (t : Token) : Bool := t.role == .separator

/-- Whether a token is plain or a separator. -/
def Token.isPlain (t : Token) : Bool := t.role == .plain || t.role == .separator

/-- The tokens that an operand takes at the start of some, and the tokens behind them. -/
def Arity.take? (a : Arity) (ts : List Token) : Option (List Token × List Token) :=
  let lead := ts.takeWhile Token.isSeparator
  match a, ts.dropWhile Token.isSeparator with
  | .many, _ => some (ts.takeWhile Token.isPlain, ts.dropWhile Token.isPlain)
  | .one, t :: rest =>
    if t.isPlain then
      some (lead ++ t :: rest.takeWhile Token.isSeparator, rest.dropWhile Token.isSeparator)
    else none
  | .command _, t :: _ => if t.isPlain then some (ts, []) else none
  | _, [] => none

/-- The values of the tokens that an operand takes. One separator among them is dropped, but a
command keeps all. -/
def OperandSpec.values (o : OperandSpec) (taken : List Token) : List String :=
  match o.arity with
  | .command _ => taken.map Token.text
  | _ => (taken.map Token.text).erase separator

/-- The setting of a filled operand, if it names a command that exists. -/
def useOperand (o : OperandSpec) (taken : List Token) : Except Stop Setting :=
  let values := o.values taken
  match o.arity with
  | .command names =>
    if values.headD "" ∈ names then .ok (.operand o values)
    else .error (.about o.name (.noChoice (values.headD "") names))
  | _ => .ok (.operand o values)

/-- The operands that can be filled from the start of some tokens with what they take, the operands
that are left, and the tokens behind. -/
def fill : List OperandSpec → List Token →
    List (OperandSpec × List Token) × List OperandSpec × List Token
  | [], ts => ([], [], ts)
  | o :: os, ts =>
    match o.arity.take? ts with
    | none => ([], o :: os, ts)
    | some (taken, rest) =>
      let (filled, left, rest) := fill os rest
      ((o, taken) :: filled, left, rest)

/-! ### Whole command lines -/

/-- The reading with more settings and left-over tokens. -/
def Reading.add (r : Reading) (settings : List Setting) (extras : List String) : Reading :=
  ⟨r.settings ++ settings, r.extras ++ extras⟩

/-- The reading of tokens with the operands that are still to be filled. Each round uses up at least
one token. -/
def readFrom (g : Grammar) : Nat → List Token → List OperandSpec → Reading → Except Stop Reading
  | 0, _, _, r => .ok r
  | fuel + 1, ts, operands, r => do
    let (filled, left, behind) := fill operands ts
    if ts.all Token.isPlain then
      let settings ← filled.mapM fun (o, taken) => useOperand o taken
      pure (r.add settings (behind.map Token.text))
    else
      match ts with
      | ⟨text, .unknown⟩ :: rest => readFrom g fuel rest operands (r.add [] [text])
      | ⟨_, .option o spelling attached⟩ :: rest =>
        let k ←
          match attached with
          | none => pure { waiting := some o }
          | some text => cluster g o spelling text
        let (used, rest) ← k.complete rest
        let settings ← used.mapM fun (o, given) => useOption o given
        readFrom g fuel rest operands (r.add settings [])
      | ts =>
        if behind.length < ts.length then
          let settings ← filled.mapM fun (o, taken) => useOperand o taken
          readFrom g fuel behind left (r.add settings [])
        else
          readFrom g fuel (ts.dropWhile Token.isPlain) operands
            (r.add [] ((ts.takeWhile Token.isPlain).map Token.text))

/-- Whether a reading uses a part. -/
def Reading.uses (r : Reading) (p : Part) : Bool :=
  r.settings.any fun s =>
    match s, p with
    | .option o _, .option o' => o == o'
    | .operand o _, .operand o' => o == o'
    | _, _ => false

/-- The name of a part if a command line must use it. -/
def Part.requiredName? : Part → Option String
  | .option o => if o.required then some o.name else none
  | .operand o => if o.required then some o.name else none

/-- The reading of a command line. All required parts must be used. -/
def Grammar.read (g : Grammar) (tokens : List String) : Except Stop Reading := do
  let ts ← (g.roles tokens).mapError .refused
  let r ← readFrom g (ts.length + 1) ts g.operands {}
  let missing := (g.parts.filter fun p => !r.uses p).filterMap Part.requiredName?
  if missing.isEmpty then pure r else .error (.refused (.missing missing))

/-- What an option is given: a text, or nothing, where all that stands there is a separator. -/
inductive Argument where
  | text (s : String)
  | nothing
  deriving DecidableEq, Repr

namespace Argument

/-- What the values of an option come to. -/
def ofValues : List String → Argument
  | [s] => .text s
  | _ => .nothing

/-- The text, if there is one. -/
def text? : Argument → Option String
  | .text s => some s
  | .nothing => none

/-- What is given as plain data. Nothing is an empty list. -/
def value : Argument → Value
  | .text s => .str s
  | .nothing => .list []

/-- What is given as messages show it. -/
def shown (a : Argument) : String := a.value.text

end Argument

namespace Reading

/-- What all uses of an option give it. -/
def arguments (r : Reading) (o : OptionSpec) : List Argument :=
  r.settings.filterMap fun
    | .option o' values => if o' = o then some (Argument.ofValues values) else none
    | .operand _ _ => none

/-- What the last use of an option gives it. -/
def argument? (r : Reading) (o : OptionSpec) : Option Argument := (r.arguments o).getLast?

/-- Whether a switch is on. -/
def isOn (r : Reading) (o : OptionSpec) : Bool := r.uses (.option o)

/-- The values of an operand. -/
def operand (r : Reading) (o : OperandSpec) : List String :=
  (r.settings.findSome? fun
    | .operand o' values => if o' = o then some values else none
    | .option _ _ => none).getD []

end Reading

end TargetResolution.CommandLine
