import ScriptMachine.Arithmetic
import ScriptMachine.Console
import ScriptMachine.Document.Basic
import ScriptMachine.Document.Build
import ScriptMachine.Document.LoadError
import ScriptMachine.Host.Function
import ScriptMachine.Host.Registry
import ScriptMachine.Json.Document
import ScriptMachine.Json.Token
import ScriptMachine.Json.Tree
import ScriptMachine.Loader
import ScriptMachine.Location
import ScriptMachine.Machine.Action
import ScriptMachine.Machine.Basic
import ScriptMachine.Machine.Record
import ScriptMachine.Machine.Step
import ScriptMachine.Main
import ScriptMachine.Memory.Stack
import ScriptMachine.Memory.Symbols
import ScriptMachine.Notice
import ScriptMachine.Number.Binary64
import ScriptMachine.Number.Decimal
import ScriptMachine.Number.Power
import ScriptMachine.Number.Shortest
import ScriptMachine.Opcode
import ScriptMachine.Operand
import ScriptMachine.Program
import ScriptMachine.Proofs.Opcodes
import ScriptMachine.Proofs.Control
import ScriptMachine.Proofs.Step
import ScriptMachine.Runner
import ScriptMachine.Scheduler
import ScriptMachine.ScriptError
import ScriptMachine.SortedMap
import ScriptMachine.Text.Blank
import ScriptMachine.Text.CaseTable
import ScriptMachine.Text.Diagnostic
import ScriptMachine.Text.Digits
import ScriptMachine.Text.Lowercase
import ScriptMachine.Text.Quoted
import ScriptMachine.Text.RangeTable
import ScriptMachine.Text.Unprintable
import ScriptMachine.Text.Uppercase
import ScriptMachine.Value
import ScriptMachine.ValueType
import ScriptMachine.Yaml.Cursor
import ScriptMachine.Yaml.Document
import ScriptMachine.Yaml.Node
import ScriptMachine.Yaml.Scalar
import ScriptMachine.Yaml.Token
import ScriptMachine.Proofs.Typing
import ScriptMachine.Proofs.Serve
import ScriptMachine.Proofs.Session
import ScriptMachine.Proofs.Reporting
import ScriptMachine.Proofs.Isolation
import ScriptMachine.Proofs.Hosted
import ScriptMachine.Proofs.Operands
import ScriptMachine.Proofs.Atomicity
import ScriptMachine.Proofs.Writes
import ScriptMachine.Proofs.Runs
import ScriptMachine.Proofs.Noninterference
import ScriptMachine.Proofs.DeclaredTypes
import ScriptMachine.Proofs.Grouping
import ScriptMachine.Proofs.Registration
import ScriptMachine.Proofs.Complaints
import ScriptMachine.Proofs.Loading
import ScriptMachine.Proofs.Expressible
import ScriptMachine.Proofs.Computation
import ScriptMachine.Proofs.Register
import ScriptMachine.Proofs.HostCalls
import ScriptMachine.Proofs.Console
import ScriptMachine.Proofs.Words
import ScriptMachine.Proofs.Doubles
import ScriptMachine.Proofs.Comparison
import ScriptMachine.Proofs.RoundRobin
import ScriptMachine.Proofs.Forward
import ScriptMachine.Proofs.Faults
import ScriptMachine.Proofs.Pace
import ScriptMachine.Proofs.Abandonment
import ScriptMachine.Proofs.Literals
import ScriptMachine.Proofs.Names
import ScriptMachine.Proofs.ByteOrder
import ScriptMachine.Proofs.Variables
import ScriptMachine.Proofs.Rearrangement
