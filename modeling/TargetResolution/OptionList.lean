/-!
Driver options in the order of the command line. Most questions about them ask which of some options
came last, since later options override earlier ones.
-/

namespace TargetResolution

/-- One option. The name of an option with a value ends in an equals sign. -/
structure DriverOption where
  name : String
  value : String := ""
  /-- The option as it was written. -/
  spelling : String := ""
  deriving DecidableEq, Repr

namespace DriverOption

/-- The option as it was written, or name and value if that is not known. -/
def text (o : DriverOption) : String := if o.spelling = "" then o.name ++ o.value else o.spelling

/-- The options that may take their value as the next token. -/
def separateValueNames : List String := ["--sysroot", "--target", "-target"]

/-- The option that one token writes: a dash and an equals sign make a name and a value. -/
def ofToken (token : String) : DriverOption :=
  let cs := token.toList
  if cs.head? = some '-' ∧ '=' ∈ cs then
    { name := String.ofList (cs.takeWhile (· != '=') ++ ['=']),
      value := String.ofList ((cs.dropWhile (· != '=')).drop 1),
      spelling := token }
  else { name := token, spelling := token }

/-- The option that a name and the next token write. -/
def ofPair (token value : String) : DriverOption where
  name := token ++ "="
  value := value
  spelling := token ++ " " ++ value

end DriverOption

/-- A list of options, with the tokens that wrote it. -/
structure OptionList where
  tokens : List String
  options : List DriverOption
  deriving DecidableEq, Repr

namespace OptionList

/-- The options that tokens write. A name that may take its value from the next token does so
whenever there is one. -/
def scan : List String → List DriverOption
  | [] => []
  | [token] => [.ofToken token]
  | token :: value :: rest =>
    if token ∈ DriverOption.separateValueNames then .ofPair token value :: scan rest
    else .ofToken token :: scan (value :: rest)

/-- The list that tokens write. -/
def ofTokens (tokens : List String) : OptionList := ⟨tokens, scan tokens⟩

/-- The last option with one of the names. -/
def last? (l : OptionList) (names : List String) : Option DriverOption :=
  l.options.reverse.find? fun o => decide (o.name ∈ names)

/-- The value of the last option with the name. -/
def lastValue? (l : OptionList) (name : String) : Option String := (l.last? [name]).map (·.value)

/-- Whether an option with one of the names occurs. -/
def has (l : OptionList) (names : List String) : Bool := (l.last? names).isSome

/-- Whether the last of two opposite flags is the positive one. -/
def flag (l : OptionList) (positive negative : String) (default : Bool) : Bool :=
  match l.last? [positive, negative] with
  | none => default
  | some o => o.name == positive

end OptionList

end TargetResolution
