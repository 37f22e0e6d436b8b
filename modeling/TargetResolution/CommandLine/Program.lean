import TargetResolution.CommandLine.Invocation
import TargetResolution.Environment.Document
import TargetResolution.Listing.Document
import TargetResolution.Recorder
import TargetResolution.Resolution.Toolchain

/-!
The program: the commands as searches, and what it writes and which status it ends with. A command
that fails is logged as an error and ends with status one; so does a command during which an error
is found in an option, except where only a path is asked for.
-/

namespace TargetResolution.CommandLine

/-- What a command prints, and its status. -/
structure Answer where
  output : String
  status : Nat
  deriving DecidableEq, Repr

/-- Why a command fails. -/
inductive Failure where
  | environment (error : Environment.LoadError)
  | listing (error : Listing.LoadError)
  | target (error : Triple.Error)
  | report (error : Report.Error)
  /-- Nothing stands where a kind of artifact is asked for. -/
  | noKind
  deriving DecidableEq, Repr

/-- The wording of a failure. -/
def Failure.message : Failure → String
  | .environment e => e.message
  | .listing e => e.message
  | .target e => e.message
  | .report e => e.message
  | .noKind => "'list' object has no attribute 'upper'"

/-- The status after diagnostics. -/
def statusOf (ds : Diagnostics) : Nat := if ds.hasErrors then 1 else 0

/-! ### The commands -/

/-- The listing of a file, if one is named. -/
def listingOf (files : String → FileState) :
    Option String → Search Note (Except Listing.LoadError (Option Listing))
  | none => .done (.ok none)
  | some f => (Listing.load f (files f)).ifOk fun t => .done (.ok (some t))

/-- The search with its questions answered by a listing, if there is one. -/
def withinListing {α : Type} (s : Search Note α) : Option Listing → Search Note α
  | none => s
  | some t => s.within t.contains

/-- The key of the probes in a report. -/
def probesKey : String := "probes"

/-- The entries of a report about a configuration, with the probes if they are asked for. -/
def reportEntries (c : Configuration) (trace : Bool) (trail : List (String × Bool)) :
    List (Value × Value) :=
  c.entries ++ if trace then
    [(.str probesKey, Configuration.textList (Recorder.ofTrail trail).labels)] else []

/-- The answer to a request for a configuration that was found. -/
def reportAnswer (r : ResolveRequest) (c : Configuration) (trail : List (String × Bool)) :
    Except Failure Answer :=
  match Report.renderNamed r.format (reportEntries c r.trace trail) with
  | .ok text => .ok ⟨text ++ "\n", statusOf c.diagnostics⟩
  | .error e => .error (.report e)

/-- The search for the configuration of a target that is given. -/
def resolveGiven (target : Argument) (driverOptions : List String) (e : Environment) :
    Except Failure (Search Note Configuration) :=
  match target with
  | .text target => (resolve target driverOptions e).mapError .target
  | .nothing => .error (.target (.invalid target.shown .empty))

/-- The search for a configuration. -/
def ResolveRequest.search (r : ResolveRequest) (files : String → FileState) :
    Search Note (Except Failure Answer) :=
  ((Environment.gather files r.environmentFile r.overrides).mapError .environment).ifOk fun e =>
    ((listingOf files r.listingFile).mapError .listing).ifOk fun listing =>
      .note (.resolving r.target.shown r.driverOptions)
        (match resolveGiven r.target r.driverOptions e with
          | .error failure => .done (.error failure)
          | .ok s =>
            (withinListing s.traced listing).andThen fun (c, trail) =>
              .done (reportAnswer r c trail))

/-- The search for the path of an artifact. Nothing exists for it, since the path does not depend on
what exists. -/
def ArtifactRequest.search (r : ArtifactRequest) (files : String → FileState) :
    Search Note (Except Failure Answer) :=
  ((Environment.gather files r.environmentFile r.overrides).mapError .environment).ifOk fun e =>
    match resolveGiven r.target r.driverOptions e with
    | .error failure => .done (.error failure)
    | .ok s =>
      (s.within fun _ => false).andThen fun c =>
        match r.kind with
        | none => .done (.error .noKind)
        | some kind => .done (.ok ⟨c.artifactPath r.component kind ++ "\n", 0⟩)

/-- The requirements of a multilib as they are listed. -/
def requirementsText (m : Multilib) : String :=
  if m.required.isEmpty then "(always)" else " ".intercalate (m.required.map ("+" ++ ·))

/-- The line of a multilib in a list. -/
def multilibLine (m : Multilib) : String :=
  Report.padTo 24 m.displayName ++ " " ++ Report.padTo 24 (if m.suffix = "" then "/" else m.suffix)
    ++ " " ++ requirementsText m

/-- The answer with all multilibs. -/
def multilibList : Answer := ⟨linesText (Multilib.catalog.map multilibLine), 0⟩

/-- The search for the multilib that options select. -/
def selectSearch (driverOptions : List String) : Search Note (Except Failure Answer) :=
  let options := OptionList.ofTokens driverOptions
  let (abi, report) := options.floatAbi
  let flags := FlagSet.ofOptions options abi
  let notes := report.toList.map Note.diagnosed
    ++ [.flagsFound flags.predicates, Toolchain.multilibNote Multilib.catalog flags]
  (Toolchain.leaveAll notes).andThen fun _ =>
    .done (.ok ⟨(Multilib.select Multilib.catalog flags).displayName ++ "\n",
      statusOf (Diagnostics.add {} report)⟩)

/-- The search that a command stands for. -/
def Command.search (files : String → FileState) : Command → Search Note (Except Failure Answer)
  | .resolve r => r.search files
  | .listMultilibs => .done (.ok multilibList)
  | .selectMultilib driverOptions => selectSearch driverOptions
  | .artifact r => r.search files

/-- The files that a command names. -/
def Command.files : Command → List String
  | .resolve r => r.environmentFile.toList ++ r.listingFile.toList
  | .artifact r => r.environmentFile.toList
  | _ => []

/-! ### The log -/

/-- The channel of the program itself. -/
def ownChannel : String := "ohoskit.cli.parser"

/-- The entry of a failure. -/
def Failure.entry (f : Failure) : LogEntry := ⟨.error, ownChannel, "Error: " ++ f.message⟩

/-- The entry about a name that is no command. -/
def unknownCommand (name : String) : LogEntry := ⟨.error, ownChannel, "Unknown command: " ++ name⟩

namespace Invocation

/-- The least level that is logged. -/
def threshold (i : Invocation) : LogLevel :=
  if i.verbose then .debug else if i.quiet then .error else .warning

/-- The line of an entry. The channel is shown with all levels only. -/
def line (i : Invocation) (e : LogEntry) : String :=
  e.level.name ++ (if i.verbose then " [" ++ e.channel ++ "] " else ": ") ++ e.text

end Invocation

/-- The entries that events leave. -/
def entriesOf (events : List (Event Note)) : List LogEntry :=
  events.filterMap fun
    | .noted n => some n.entry
    | .probed _ _ => none

/-- What a run of the program leaves behind. -/
structure Transcript where
  output : String := ""
  /-- The usage that stands before the errors of a refused command line. -/
  usage : String := ""
  errors : String := ""
  status : Nat := 0
  /-- The failure of the command, if it failed. -/
  failure : Option Failure := none
  deriving DecidableEq, Repr

/-- The text of a log. -/
def Invocation.logText (i : Invocation) (entries : List LogEntry) : String :=
  linesText ((entries.filter fun e => decide (i.threshold.rank ≤ e.level.rank)).map i.line)

/-- What an invocation leaves behind when its command ends. -/
def Invocation.transcript (i : Invocation) (result : Except Failure Answer)
    (events : List (Event Note)) : Transcript :=
  match result with
  | .ok a => { output := a.output, errors := i.logText (entriesOf events), status := a.status }
  | .error f =>
    { errors := i.logText (entriesOf events ++ [f.entry]), status := 1, failure := some f }

/-- What a refused command line leaves behind. -/
def refusedTranscript (command : Option CommandName) (refusal : Refusal) : Transcript where
  usage := usageOf command
  errors := titleOf command ++ ": error: " ++ refusal.message ++ "\n"
  status := 2

/-- What a command line leaves behind, given its files and the paths that exist. -/
def Outcome.run (files : String → FileState) (present : String → Bool) : Outcome → Transcript
  | .help command => { output := helpOf command }
  | .version => { output := versionText }
  | .refused command refusal => refusedTranscript command refusal
  | .invocation i =>
    match i.command with
    | none => { output := helpOf none, status := 1 }
    | some command =>
      let s := command.search files
      i.transcript (s.answer present) (s.events present)

end TargetResolution.CommandLine
