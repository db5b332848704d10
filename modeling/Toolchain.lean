import Toolchain.Capability
import Toolchain.Command
import Toolchain.CommandLine.Console
import Toolchain.CommandLine.Options
import Toolchain.CommandLine.Run
import Toolchain.CommandLine.Snapshot
import Toolchain.Compiler
import Toolchain.Config
import Toolchain.Data.Decimal
import Toolchain.Data.Json
import Toolchain.Data.Toml
import Toolchain.Data.TomlText
import Toolchain.Data.Tree
import Toolchain.Detected
import Toolchain.Diagnostic
import Toolchain.Dict
import Toolchain.Environment.Activation
import Toolchain.Environment.Dump
import Toolchain.Environment.ModuleScript
import Toolchain.Environment.Modules
import Toolchain.Environment.Mutation
import Toolchain.Environment.Session
import Toolchain.Environment.Variables
import Toolchain.Error
import Toolchain.Family
import Toolchain.Files.Access
import Toolchain.Files.Executable
import Toolchain.Files.Fault
import Toolchain.Files.Glob
import Toolchain.Files.Scratch
import Toolchain.Files.Tree
import Toolchain.Flag.Atoms
import Toolchain.Flag.Category
import Toolchain.Host
import Toolchain.Library
import Toolchain.LinkLine
import Toolchain.Log
import Toolchain.Machine.Condition
import Toolchain.Machine.Launch
import Toolchain.Machine.Printing
import Toolchain.Machine.Process
import Toolchain.Machine.System
import Toolchain.Machine.Utility
import Toolchain.Machine.Voice
import Toolchain.Main
import Toolchain.Path
import Toolchain.Probe
import Toolchain.Proofs.Capability
import Toolchain.Proofs.Compiler.Acceptance
import Toolchain.Proofs.Compiler.Activation
import Toolchain.Proofs.Compiler.Detection
import Toolchain.Proofs.Compiler.File
import Toolchain.Proofs.Compiler.HostTag
import Toolchain.Proofs.Compiler.Record
import Toolchain.Proofs.Dict
import Toolchain.Proofs.Environment.Difference
import Toolchain.Proofs.Environment.Failure
import Toolchain.Proofs.Environment.Frame
import Toolchain.Proofs.Environment.Inside
import Toolchain.Proofs.Environment.Lock
import Toolchain.Proofs.Environment.ModuleScript
import Toolchain.Proofs.Environment.Mutation
import Toolchain.Proofs.Environment.PathVariable
import Toolchain.Proofs.Environment.Protocol
import Toolchain.Proofs.Environment.Run
import Toolchain.Proofs.Environment.ScriptWords
import Toolchain.Proofs.Environment.Scopes
import Toolchain.Proofs.Environment.Threads
import Toolchain.Proofs.Environment.Transcript
import Toolchain.Proofs.Environment.Validity
import Toolchain.Proofs.Environment.View
import Toolchain.Proofs.Flag.Config
import Toolchain.Proofs.Flag.Grouping
import Toolchain.Proofs.Flag.Invocation
import Toolchain.Proofs.Flag.Normal
import Toolchain.Proofs.Flag.Reachable
import Toolchain.Proofs.Host.Release
import Toolchain.Proofs.Library.Names
import Toolchain.Proofs.Library.Search
import Toolchain.Proofs.LinkLine.Directories
import Toolchain.Proofs.LinkLine.Streams
import Toolchain.Proofs.LinkLine.Tokens
import Toolchain.Proofs.Path.Components
import Toolchain.Proofs.Path.Join
import Toolchain.Proofs.Path.NormalForm
import Toolchain.Proofs.Path.Normalization
import Toolchain.Proofs.Path.Order
import Toolchain.Proofs.Path.Spelling
import Toolchain.Proofs.Probe.Course
import Toolchain.Proofs.Probe.Invocation
import Toolchain.Proofs.Probe.Recording
import Toolchain.Proofs.Shell.Fields
import Toolchain.Proofs.Shell.Lines
import Toolchain.Proofs.Shell.Quoting
import Toolchain.Proofs.Shell.Steps
import Toolchain.Proofs.Shell.Words
import Toolchain.Proofs.Spec.Canonical
import Toolchain.Proofs.Text.Marks
import Toolchain.Proofs.Text.Trim
import Toolchain.Proofs.Text.Words
import Toolchain.Proofs.Version.Order
import Toolchain.Proofs.Version.Reading
import Toolchain.Record
import Toolchain.Role
import Toolchain.Shell.Arithmetic
import Toolchain.Shell.Builtin
import Toolchain.Shell.Expansion
import Toolchain.Shell.Pattern
import Toolchain.Shell.Reader
import Toolchain.Shell.Run
import Toolchain.Shell.State
import Toolchain.Shell.Statement
import Toolchain.Spec
import Toolchain.Text.Escape
import Toolchain.Text.Pad
import Toolchain.Text.Split
import Toolchain.Text.Utf8
import Toolchain.Version
import Toolchain.Proofs.Capability.Standards
import Toolchain.Proofs.Spec.Grammar
import Toolchain.Proofs.Version.Lawful
import Toolchain.Proofs.Spec.Selection
import Toolchain.Proofs.Text.Fields
import Toolchain.Proofs.Environment.Conflicts
import Toolchain.Proofs.Environment.Writes
import Toolchain.Proofs.Data.Decoding
import Toolchain.Proofs.Compiler.RecordData
import Toolchain.Proofs.Path.Unique
import Toolchain.Proofs.CommandLine.Acting
import Toolchain.Proofs.CommandLine.Directories
import Toolchain.Proofs.Version.Prefix
import Toolchain.Proofs.Host.Layout
import Toolchain.Proofs.CommandLine.Verification
