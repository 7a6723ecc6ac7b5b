import MountSweep.Main
import MountSweep.Proofs.Requests
import MountSweep.Proofs.Service.Calls
import MountSweep.Proofs.Service.Recording
import MountSweep.Proofs.Service.Machine
import MountSweep.Proofs.Service.Teardown
import MountSweep.Proofs.Service.Life
import MountSweep.Proofs.Sweep.Window
import MountSweep.Proofs.Service.Progress
import MountSweep.Proofs.Sweep.Crash
import MountSweep.Proofs.Sweep.Deadlines
import MountSweep.Proofs.Regex.Language
import MountSweep.Proofs.Regex.Matcher
import MountSweep.Proofs.Regex.Occurrences
import MountSweep.Proofs.Output.Allowance
import MountSweep.Proofs.Output.Keywords
import MountSweep.Proofs.Output.Verdict
import MountSweep.Proofs.Output.Additions
import MountSweep.Proofs.Service.Start
import MountSweep.Proofs.Settings
import MountSweep.Proofs.Sweep.Plan
import MountSweep.Proofs.Views
import MountSweep.Proofs.Sweep.Accounting
import MountSweep.Proofs.Identifiers
import MountSweep.Proofs.Service.Simulation
import MountSweep.Proofs.Sweep.Registry
import MountSweep.Proofs.Sweep.Isolation
import MountSweep.Proofs.Enumeration
import MountSweep.Names.Threads
import MountSweep.Proofs.Names
import MountSweep.Output.Drain
import MountSweep.Proofs.Output.Drain
import MountSweep.Proofs.Listing
import MountSweep.Proofs.Service.Readiness
import MountSweep.Proofs.Service.Waiting
import MountSweep.Proofs.Substitution
import MountSweep.Proofs.Scenarios.Sequence
import MountSweep.Proofs.Validation
import MountSweep.Proofs.Pinning
import MountSweep.Proofs.Sweep.Caching
import MountSweep.Proofs.Text.Utf8
import MountSweep.Proofs.Service.PathArguments
import MountSweep.Proofs.Text.Reading
import MountSweep.Proofs.Output.Undecodable
import MountSweep.Proofs.Output.Residue
import MountSweep.Proofs.Regex.Escaping
import MountSweep.Proofs.Regex.Size
import MountSweep.Proofs.Regex.Literal
import MountSweep.Proofs.Output.Literals
import MountSweep.Proofs.Sweep.Summary
import MountSweep.Proofs.Arguments
import MountSweep.Proofs.Overrides
import MountSweep.Proofs.Documents.Partial
import MountSweep.Proofs.Scenarios.Comparison
import MountSweep.Proofs.Scenarios.TimeStamps
import MountSweep.Proofs.Service.MappingFiles
