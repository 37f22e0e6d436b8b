import TargetResolution.Calendar
import TargetResolution.CommandLine.Grammar
import TargetResolution.CommandLine.Help
import TargetResolution.CommandLine.Invocation
import TargetResolution.CommandLine.Program
import TargetResolution.CommandLine.Reading
import TargetResolution.Decimal.Fraction
import TargetResolution.Decimal.Layout
import TargetResolution.Decimal.Reading
import TargetResolution.Decimal.Shortest
import TargetResolution.Diagnostic.Basic
import TargetResolution.Diagnostic.Journal
import TargetResolution.Diagnostic.Subject
import TargetResolution.Diagnostic.Template
import TargetResolution.Document
import TargetResolution.Environment
import TargetResolution.Environment.Document
import TargetResolution.FloatAbi
import TargetResolution.Host
import TargetResolution.LinkPolicy
import TargetResolution.Listing
import TargetResolution.Listing.Document
import TargetResolution.Main
import TargetResolution.Multilib
import TargetResolution.OptionList
import TargetResolution.Path
import TargetResolution.Proofs.CommandLine.Agreement
import TargetResolution.Proofs.CommandLine.Status
import TargetResolution.Proofs.CommandLine.Trace
import TargetResolution.Proofs.Diagnostic.Journal
import TargetResolution.Proofs.Diagnostic.Template
import TargetResolution.Proofs.Diagnostic.Unfillable
import TargetResolution.Proofs.Environment.Gathering
import TargetResolution.Proofs.Environment.Mapping
import TargetResolution.Proofs.Environment.Override
import TargetResolution.Proofs.Environment.Shape
import TargetResolution.Proofs.LinkPolicy.Profile
import TargetResolution.Proofs.Listing.Closure
import TargetResolution.Proofs.Listing.Growth
import TargetResolution.Proofs.Listing.Shape
import TargetResolution.Proofs.Listing.Spelling
import TargetResolution.Proofs.Multilib.Catalog
import TargetResolution.Proofs.Multilib.Selection
import TargetResolution.Proofs.OptionList.Amendment
import TargetResolution.Proofs.OptionList.Choice
import TargetResolution.Proofs.OptionList.Consulted
import TargetResolution.Proofs.OptionList.FloatAbi
import TargetResolution.Proofs.OptionList.Override
import TargetResolution.Proofs.OptionList.Scan
import TargetResolution.Proofs.OptionList.Spelling
import TargetResolution.Proofs.Path.Ancestor
import TargetResolution.Proofs.Path.Canonical
import TargetResolution.Proofs.Path.Joining
import TargetResolution.Proofs.Path.NormalForm
import TargetResolution.Proofs.Path.Respelling
import TargetResolution.Proofs.Recorder.History
import TargetResolution.Proofs.Report.TextForm
import TargetResolution.Proofs.Resolution.Diagnostics
import TargetResolution.Proofs.Resolution.Growth
import TargetResolution.Proofs.Resolution.Loader
import TargetResolution.Proofs.Resolution.Multiarch
import TargetResolution.Proofs.Resolution.Options
import TargetResolution.Proofs.Resolution.Outcome
import TargetResolution.Proofs.Resolution.Questions
import TargetResolution.Proofs.Resolution.Record
import TargetResolution.Proofs.Resolution.Reports
import TargetResolution.Proofs.Resolution.Respelling
import TargetResolution.Proofs.Resolution.Session
import TargetResolution.Proofs.Result
import TargetResolution.Proofs.RuntimeLibrary.Artifact
import TargetResolution.Proofs.Sanitizer.Names
import TargetResolution.Proofs.Search.Lockstep
import TargetResolution.Proofs.Search.Reports
import TargetResolution.Proofs.Search.Run
import TargetResolution.Proofs.Search.Tier
import TargetResolution.Proofs.Sysroot.Specificity
import TargetResolution.Proofs.Text.Numeral
import TargetResolution.Proofs.Text.Strip
import TargetResolution.Proofs.Triple.Architecture
import TargetResolution.Proofs.Triple.Environment
import TargetResolution.Proofs.Triple.Normalized
import TargetResolution.Proofs.Triple.Places
import TargetResolution.Proofs.Triple.Rejection
import TargetResolution.Proofs.Triple.Version
import TargetResolution.Recorder
import TargetResolution.Report
import TargetResolution.Resolution.Configuration
import TargetResolution.Resolution.Note
import TargetResolution.Resolution.SearchPath
import TargetResolution.Resolution.Session
import TargetResolution.Resolution.Toolchain
import TargetResolution.RuntimeLibrary
import TargetResolution.Sanitizer
import TargetResolution.Search
import TargetResolution.Text.Case
import TargetResolution.Text.CharClass
import TargetResolution.Text.Digits
import TargetResolution.Text.Lists
import TargetResolution.Text.Printable
import TargetResolution.Text.Quoted
import TargetResolution.Triple.Architecture
import TargetResolution.Triple.Basic
import TargetResolution.Triple.Multiarch
import TargetResolution.Triple.Version
import TargetResolution.Value.Basic
import TargetResolution.Value.Json
import TargetResolution.Value.Text
import TargetResolution.Yaml.Cursor
import TargetResolution.Yaml.Document
import TargetResolution.Yaml.Fault
import TargetResolution.Yaml.Key
import TargetResolution.Yaml.Members
import TargetResolution.Yaml.Node
import TargetResolution.Yaml.Object
import TargetResolution.Yaml.Scalar
import TargetResolution.Yaml.Token
import TargetResolution.Yaml.TokenStream
import TargetResolution.Yaml.Writer
