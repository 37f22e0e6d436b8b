import TargetResolution.Diagnostic.Basic
import TargetResolution.Text.Quoted

/-!
Notes: what a resolution leaves in the log on its way. A note has a level, the channel that it is
logged on, and a text.
-/

namespace TargetResolution

open Text

/-- How important a line of the log is. -/
inductive LogLevel where
  | debug
  | warning
  | error
  deriving DecidableEq, Repr

namespace LogLevel

/-- The name of a level. -/
def name : LogLevel → String
  | .debug => "DEBUG"
  | .warning => "WARNING"
  | .error => "ERROR"

/-- The rank of a level. -/
def rank : LogLevel → Nat
  | .debug => 10
  | .warning => 30
  | .error => 40

/-- The level at which a diagnostic is logged. -/
def ofSeverity : Severity → LogLevel
  | .warning => .warning
  | .error => .error

end LogLevel

/-- One line of the log. -/
structure LogEntry where
  level : LogLevel
  channel : String
  text : String
  deriving DecidableEq, Repr

/-- What can be noted during a resolution. -/
inductive Note where
  | environmentLoaded (file : String)
  | listingLoaded (file : String) (count : Nat)
  | resolving (target : String) (options : List String)
  | diagnosed (d : Diagnostic)
  | flagsFound (predicates : List String)
  | noMultilibFits
  | multilibSelected (name : String)
  | bundledSysroot (path : String)
  | noSysroot
  | noMultiarch (architecture text : String)
  | found (path : String)
  | skipped (path : String)
  | profileArguments (arguments : List String)
  | resolved (target multilib sysroot : String) (libraryDirs : Nat)
  deriving DecidableEq, Repr

/-- The line of the log for a note. -/
def Note.entry : Note → LogEntry
  | .environmentLoaded file =>
    ⟨.debug, "ohoskit.toolchain.environment", "Loaded driver environment from " ++ file⟩
  | .listingLoaded file count =>
    ⟨.debug, "ohoskit.core.filesystem", s!"Loaded {count} path(s) from " ++ file⟩
  | .resolving target options =>
    ⟨.debug, "ohoskit.cli.commands.resolve",
      "Resolving " ++ target ++ " with " ++ quotedList options⟩
  | .diagnosed d => ⟨.ofSeverity d.severity, "ohoskit.toolchain.diagnostics", d.message⟩
  | .flagsFound predicates =>
    ⟨.debug, "ohoskit.toolchain.flags", "Multilib flags: " ++ quotedList predicates⟩
  | .noMultilibFits =>
    ⟨.debug, "ohoskit.toolchain.multilib", "No multilib matched, using the default"⟩
  | .multilibSelected name =>
    ⟨.debug, "ohoskit.toolchain.multilib", "Selected multilib '" ++ name ++ "'"⟩
  | .bundledSysroot path => ⟨.debug, "ohoskit.cross.sysroot", "Using bundled sysroot " ++ path⟩
  | .noSysroot =>
    ⟨.debug, "ohoskit.cross.sysroot", "No sysroot found, deferring to the system default"⟩
  | .noMultiarch architecture text =>
    ⟨.debug, "ohoskit.cross.multiarch",
      "No multiarch mapping for '" ++ architecture ++ "', using '" ++ text ++ "'"⟩
  | .found path => ⟨.debug, "ohoskit.toolchain.runtime", "Found " ++ path⟩
  | .skipped path => ⟨.debug, "ohoskit.cross.sysroot", "Skipping missing search path " ++ path⟩
  | .profileArguments arguments =>
    ⟨.debug, "ohoskit.toolchain.linker",
      "Profiling runtime link arguments: " ++ quotedList arguments⟩
  | .resolved target multilib sysroot libraryDirs =>
    ⟨.debug, "ohoskit.toolchain.ohos",
      "Resolved " ++ target ++ ": multilib '" ++ multilib ++ "', sysroot '" ++ sysroot
        ++ s!"', {libraryDirs} library dir(s)"⟩

end TargetResolution
