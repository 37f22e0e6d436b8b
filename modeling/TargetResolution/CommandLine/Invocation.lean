import TargetResolution.CommandLine.Help
import TargetResolution.CommandLine.Reading
import TargetResolution.Environment
import TargetResolution.Path
import TargetResolution.Report
import TargetResolution.RuntimeLibrary

/-!
Invocations: what a command line of the program asks for, in typed form. The grammars of the program
and of its commands are values; an invocation is read off their readings.
-/

namespace TargetResolution.CommandLine

/-! ### The grammars -/

/-- The option that asks for help. -/
def helpOption : OptionSpec := ⟨["-h", "--help"], .help, false⟩

/-- The option that asks for the version. -/
def versionOption : OptionSpec := ⟨["--version"], .version, false⟩

/-- The switch for a log of all levels. -/
def verboseOption : OptionSpec := ⟨["--verbose", "-v"], .switch, false⟩

/-- The switch for a log of errors only. -/
def quietOption : OptionSpec := ⟨["--quiet", "-q"], .switch, false⟩

/-- An option with any value. -/
def valueOption (spelling : String) : OptionSpec := ⟨[spelling], .value [], false⟩

/-- The option with the target. -/
def targetOption : OptionSpec := ⟨["--target"], .value [], true⟩

/-- The option with the resource directory. -/
def resourceDirOption : OptionSpec := valueOption "--resource-dir"

/-- The option with the file of the environment. -/
def environmentFileOption : OptionSpec := valueOption "--env-file"

/-- The option with the sysroot. -/
def sysrootOption : OptionSpec := valueOption "--sysroot"

/-- The option with the directory of the compiler binary. -/
def installedDirOption : OptionSpec := valueOption "--installed-dir"

/-- The option with the directory of the driver executable. -/
def driverDirOption : OptionSpec := valueOption "--driver-dir"

/-- The option with a C include directory. It adds up. -/
def includeDirOption : OptionSpec := valueOption "--c-include-dir"

/-- The switch for the C++ mode. -/
def cxxOption : OptionSpec := ⟨["--cxx"], .switch, false⟩

/-- The switch for build ids. -/
def buildIdOption : OptionSpec := ⟨["--build-id"], .switch, false⟩

/-- The option with the file of a listing. -/
def listingFileOption : OptionSpec := valueOption "--vfs"

/-- The switch that adds all probes to the report. -/
def traceOption : OptionSpec := ⟨["--trace-probes"], .switch, false⟩

/-- The option with the form of the report. -/
def formatOption : OptionSpec := ⟨["--format"], .value (Report.Format.all.map (·.name)), false⟩

/-- The switch that lists all multilibs. -/
def listOption : OptionSpec := ⟨["--list"], .switch, false⟩

/-- The option with the kind of an artifact. -/
def kindOption : OptionSpec := ⟨["--kind"], .value (ArtifactKind.all.map (·.name)), false⟩

/-- The operand that names a command. -/
def commandOperand : OperandSpec := ⟨"COMMAND", .command (CommandName.all.map (·.name)), false⟩

/-- The operand that names a component. -/
def componentOperand : OperandSpec := ⟨"COMPONENT", .one, true⟩

/-- The operand with the driver's options. -/
def driverOperand : OperandSpec := ⟨"DRIVER_ARG", .many, true⟩

/-- The grammar of the program. -/
def programGrammar : Grammar where
  parts := [.option helpOption, .option versionOption, .option verboseOption, .option quietOption,
    .operand commandOperand]

/-- The parts that the commands with an environment share. -/
def environmentParts : List Part :=
  [.option targetOption, .option resourceDirOption, .option environmentFileOption,
    .operand driverOperand]

/-- The grammar of a command. -/
def grammarOf : CommandName → Grammar
  | .resolve => ⟨.option helpOption :: environmentParts
      ++ [.option sysrootOption, .option installedDirOption, .option driverDirOption,
        .option includeDirOption, .option cxxOption, .option buildIdOption,
        .option listingFileOption, .option traceOption, .option formatOption]⟩
  | .multilib => ⟨[.option helpOption, .option listOption, .operand driverOperand]⟩
  | .compilerRt => ⟨[.option helpOption, .operand componentOperand, .option kindOption]
      ++ environmentParts⟩

/-! ### What is asked for -/

/-- A request for a whole configuration. -/
structure ResolveRequest where
  target : Argument
  driverOptions : List String
  environmentFile : Option String
  overrides : Environment.Overrides
  listingFile : Option String
  trace : Bool
  /-- The name of the form of the report. -/
  format : String

/-- A request for the path of a runtime artifact. -/
structure ArtifactRequest where
  component : String
  /-- The kind, unless nothing stands where its name is asked for. -/
  kind : Option ArtifactKind
  target : Argument
  driverOptions : List String
  environmentFile : Option String
  overrides : Environment.Overrides

/-- The commands with what they are asked for. -/
inductive Command where
  | resolve (request : ResolveRequest)
  | listMultilibs
  | selectMultilib (driverOptions : List String)
  | artifact (request : ArtifactRequest)

/-- What a command line asks for. Without a command the help is shown. -/
structure Invocation where
  verbose : Bool
  quiet : Bool
  command : Option Command

/-- What becomes of a command line. -/
inductive Outcome where
  | invocation (i : Invocation)
  | help (command : Option CommandName)
  | version
  | refused (command : Option CommandName) (refusal : Refusal)

/-- Driver options without one separator in front of them. -/
def dropSeparator : List String → List String
  | [] => []
  | token :: rest => if token = separator then rest else token :: rest

/-- What an option is given as plain data. -/
def Reading.value? (r : Reading) (o : OptionSpec) : Option Value :=
  (r.argument? o).map Argument.value

/-- The values that override the environment. -/
def Reading.overrides (r : Reading) : Environment.Overrides where
  sysroot := r.value? sysrootOption
  installedDir := r.value? installedDirOption
  resourceDir := r.value? resourceDirOption
  driverDir := r.value? driverDirOption
  includeDirs :=
    if r.uses (.option includeDirOption) then
      some (.list ((r.arguments includeDirOption).map Argument.value))
    else none
  cxxMode := r.isOn cxxOption
  buildId := r.isOn buildIdOption

/-- The driver options of a reading. -/
def Reading.driverOptions (r : Reading) : List String := dropSeparator (r.operand driverOperand)

/-- The file that an option names. -/
def Reading.file? (r : Reading) (o : OptionSpec) : Option String :=
  ((r.argument? o).bind Argument.text?).map Path.tidy

/-- The target. -/
def Reading.target (r : Reading) : Argument := (r.argument? targetOption).getD .nothing

/-- The kind of an artifact. -/
def Reading.kind? (r : Reading) : Option ArtifactKind :=
  match r.argument? kindOption with
  | none => some .static
  | some name => name.text?.bind ArtifactKind.ofName?

/-- The command that the reading of its tokens asks for. -/
def Command.ofReading (r : Reading) : CommandName → Command
  | .resolve => .resolve {
      target := r.target
      driverOptions := r.driverOptions
      environmentFile := r.file? environmentFileOption
      overrides := r.overrides
      listingFile := r.file? listingFileOption
      trace := r.isOn traceOption
      format := (r.argument? formatOption).elim Report.Format.text.name Argument.shown
    }
  | .multilib => if r.isOn listOption then .listMultilibs else .selectMultilib r.driverOptions
  | .compilerRt => .artifact {
      component := (r.operand componentOperand).headD ""
      kind := r.kind?
      target := r.target
      driverOptions := r.driverOptions
      environmentFile := r.file? environmentFileOption
      overrides := r.overrides
    }

/-- What becomes of a command line when reading ends early. -/
def Outcome.ofStop (command : Option CommandName) : Stop → Outcome
  | .help => .help command
  | .version => .version
  | .refused refusal => .refused command refusal

/-- An invocation, unless tokens are left over. -/
def Outcome.ofInvocation (extras : List String) (i : Invocation) : Outcome :=
  if extras.isEmpty then .invocation i else .refused none (.unrecognized extras)

/-- What becomes of the tokens of a command line. -/
def Outcome.ofTokens (tokens : List String) : Outcome :=
  match programGrammar.read tokens with
  | .error stop => ofStop none stop
  | .ok r =>
    let verbose := r.isOn verboseOption
    let quiet := r.isOn quietOption
    match r.operand commandOperand with
    | [] => ofInvocation r.extras ⟨verbose, quiet, none⟩
    | name :: rest =>
      match CommandName.ofName? name with
      | none => ofInvocation r.extras ⟨verbose, quiet, none⟩
      | some command =>
        match (grammarOf command).read rest with
        | .error stop => ofStop (some command) stop
        | .ok inner =>
          ofInvocation (r.extras ++ inner.extras)
            ⟨verbose, quiet, some (Command.ofReading inner command)⟩

end TargetResolution.CommandLine
