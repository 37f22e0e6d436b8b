/-!
Help texts, eighty columns wide.
-/

namespace TargetResolution.CommandLine

/-- The commands. -/
inductive CommandName where
  | resolve
  | multilib
  | compilerRt
  deriving DecidableEq, Repr

namespace CommandName

/-- The name of a command. -/
def name : CommandName → String
  | .resolve => "resolve"
  | .multilib => "multilib"
  | .compilerRt => "compiler-rt"

/-- All commands. -/
def all : List CommandName := [.resolve, .multilib, .compilerRt]

/-- The command of a name. -/
def ofName? (name : String) : Option CommandName := all.find? fun c => c.name == name

end CommandName

/-- The name of the program. -/
def programName : String := "ohoskit"

/-- What the program says about its version. -/
def versionText : String := programName ++ " 0.1.0\n"

/-- How messages call the program, or a command of it. -/
def titleOf : Option CommandName → String
  | none => programName
  | some c => programName ++ " " ++ c.name

/-- Lines, each with its end. -/
def linesText (lines : List String) : String := String.join (lines.map (· ++ "\n"))

/-! ### Usage -/

/-- The usage of the program. -/
def programUsage : String := linesText
  [ "usage: ohoskit [-h] [--version] [--verbose] [--quiet] COMMAND ..." ]

/-- The usage of the command that resolves a configuration. -/
def resolveUsage : String := linesText
  [ "usage: ohoskit resolve [-h] --target TRIPLE [--resource-dir DIR]",
    "                       [--env-file PATH] [--sysroot DIR] [--installed-dir DIR]",
    "                       [--driver-dir DIR] [--c-include-dir DIR] [--cxx]",
    "                       [--build-id] [--vfs PATH] [--trace-probes]",
    "                       [--format FORMAT]",
    "                       [DRIVER_ARG ...]" ]

/-- The usage of the command that shows multilibs. -/
def multilibUsage : String := linesText
  [ "usage: ohoskit multilib [-h] [--list] [DRIVER_ARG ...]" ]

/-- The usage of the command that prints the path of a runtime artifact. -/
def compilerRtUsage : String := linesText
  [ "usage: ohoskit compiler-rt [-h] [--kind KIND] --target TRIPLE",
    "                           [--resource-dir DIR] [--env-file PATH]",
    "                           COMPONENT [DRIVER_ARG ...]" ]

/-- The usage of the program or of a command. -/
def usageOf : Option CommandName → String
  | none => programUsage
  | some .resolve => resolveUsage
  | some .multilib => multilibUsage
  | some .compilerRt => compilerRtUsage

/-! ### What the help says after the usage -/

/-- The guide to the program. -/
def programGuide : String := linesText
  [ "ohoskit - OHOS target configuration resolver",
    "",
    "positional arguments:",
    "  COMMAND        Available commands",
    "    resolve      Resolve the full target configuration",
    "    multilib     Show the selected multilib",
    "    compiler-rt  Print the path of a compiler runtime artifact",
    "",
    "options:",
    "  -h, --help     show this help message and exit",
    "  --version      show program's version number and exit",
    "  --verbose, -v  Enable verbose output",
    "  --quiet, -q    Enable minimal output (errors only)",
    "",
    "Use \"ohoskit COMMAND --help\" for command-specific help" ]

/-- The guide to the command that resolves a configuration. -/
def resolveGuide : String := linesText
  [ "Resolve multilib, search paths, runtime, loader and link policy",
    "",
    "positional arguments:",
    "  DRIVER_ARG           Driver options to resolve against, after '--'",
    "",
    "options:",
    "  -h, --help           show this help message and exit",
    "  --target TRIPLE      Target triple (e.g., aarch64-linux-ohos, arm-linux-",
    "                       ohosmusl)",
    "  --resource-dir DIR   Compiler resource directory (lib/clang/<version>)",
    "  --env-file PATH      YAML file with driver environment values",
    "  --sysroot DIR        Sysroot override (default: <installed-",
    "                       dir>/../../sysroot if present)",
    "  --installed-dir DIR  Directory the compiler binary is installed in",
    "  --driver-dir DIR     Directory of the driver executable",
    "  --c-include-dir DIR  Configure-time C include directory (can be used",
    "                       multiple times)",
    "  --cxx                Resolve as the C++ driver",
    "  --build-id           Pass --build-id to the linker",
    "  --vfs PATH           YAML listing of existing paths to use instead of the",
    "                       real filesystem",
    "  --trace-probes       Print every filesystem probe",
    "  --format FORMAT      Output format (text|json|yaml) [default: text]" ]

/-- The guide to the command that shows multilibs. -/
def multilibGuide : String := linesText
  [ "Show the multilib selected for the given driver options",
    "",
    "positional arguments:",
    "  DRIVER_ARG  Driver options to select against, after '--'",
    "",
    "options:",
    "  -h, --help  show this help message and exit",
    "  --list      List the whole multilib catalog" ]

/-- The guide to the command that prints the path of a runtime artifact. -/
def compilerRtGuide : String := linesText
  [ "Print the path of a compiler-rt artifact for the target",
    "",
    "positional arguments:",
    "  COMPONENT           Runtime component (e.g., builtins)",
    "  DRIVER_ARG          Driver options to resolve against, after '--'",
    "",
    "options:",
    "  -h, --help          show this help message and exit",
    "  --kind KIND         Artifact kind (object|static|shared) [default: static]",
    "  --target TRIPLE     Target triple (e.g., aarch64-linux-ohos, arm-linux-",
    "                      ohosmusl)",
    "  --resource-dir DIR  Compiler resource directory (lib/clang/<version>)",
    "  --env-file PATH     YAML file with driver environment values" ]

/-- The guide to the program or to a command. -/
def guideOf : Option CommandName → String
  | none => programGuide
  | some .resolve => resolveGuide
  | some .multilib => multilibGuide
  | some .compilerRt => compilerRtGuide

/-- The help of the program or of a command. -/
def helpOf (command : Option CommandName) : String := usageOf command ++ "\n" ++ guideOf command

end TargetResolution.CommandLine
