import JobControl.Text.Blank
import JobControl.Text.Decimal
import JobControl.Line.Pipeline
import JobControl.Line.Parse
import JobControl.Job.Id
import JobControl.Job.Basic
import JobControl.Job.Table
import JobControl.Path
import JobControl.Locations
import JobControl.Config
import JobControl.Wait
import JobControl.Shell.Outcome
import JobControl.Sys.Errno
import JobControl.Sys.Call
import JobControl.Resolve
import JobControl.Shell.State
import JobControl.Shell.Reap
import JobControl.Shell.Launch
import JobControl.Shell.Builtin
import JobControl.Shell.Session
import JobControl.Text.Utf8
import JobControl.Text.Unicode
import JobControl.Host.Files
import JobControl.Host.Script.Syntax
import JobControl.Host.Script.Pattern
import JobControl.Host.Script.Arith
import JobControl.Host.Script.Lex
import JobControl.Host.Script.Parse
import JobControl.Host.Signal
import JobControl.Host.Binary
import JobControl.Host.Format
import JobControl.Host.Script.Context
import JobControl.Host.Script.Expand
import JobControl.Host.FileTest
import JobControl.Host.Script.Test
import JobControl.Host.Tools.Test
import JobControl.Host.Script.Builtin
import JobControl.Host.Script.Run
import JobControl.Host.Script.Start
import JobControl.Host.Quoting
import JobControl.Host.Tools.Utility
import JobControl.Host.Tools.Basic
import JobControl.Host.Tools.Mode
import JobControl.Host.Tools.Files
import JobControl.Host.Tools.Listing
import JobControl.Host.Tools.Dump
import JobControl.Host.Tools.Lines
import JobControl.Host.Tools.Sort
import JobControl.Host.Tools.Sequence
import JobControl.Host.Regex.Syntax
import JobControl.Host.Regex.Match
import JobControl.Host.Tools.Grep
import JobControl.Host.Tools.Translate
import JobControl.Host.Tools.Cut
import JobControl.Host.Tools.Sed.Script
import JobControl.Host.Tools.Sed.Run
import JobControl.Host.Program
import JobControl.Host.Machine
import JobControl.Host.Calls
import JobControl.Host.Exec
import JobControl.Host.Image
import JobControl.Host.Programs
import JobControl.Host.Run
import JobControl.Proofs.Table.Basic
import JobControl.Proofs.Table.Run
import JobControl.Proofs.Table.Coherence
import JobControl.Proofs.Table.Numbering
import JobControl.Proofs.Table.Notices
import JobControl.Proofs.Table.Members
import JobControl.Proofs.Table.Reorder
import JobControl.Proofs.Table.Waiting
import JobControl.Proofs.Shell.Reaping
import JobControl.Proofs.Sys.Runs
import JobControl.Proofs.Shell.Launching
import JobControl.Proofs.Shell.Status
import JobControl.Proofs.Shell.Collecting
import JobControl.Proofs.Shell.Resuming
import JobControl.Proofs.Shell.Registering
import JobControl.Proofs.Line.Reading
import JobControl.Proofs.Text.Decimal
import JobControl.Proofs.Job.Reference
import JobControl.Proofs.Table.Frame
import JobControl.Proofs.Shell.Dispatching
import JobControl.Proofs.Shell.Directory
import JobControl.Proofs.Shell.Locating
import JobControl.Proofs.Shell.Listing
