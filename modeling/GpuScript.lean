import GpuScript.File.Tree
import GpuScript.Main
import GpuScript.Script.Reader
import GpuScript.Proofs.Script.LineNumbers
import GpuScript.Proofs.Pipeline.Coordinates
import GpuScript.Proofs.Token.Partition
import GpuScript.Proofs.Command.Setting
import GpuScript.Proofs.Test.Settings
import GpuScript.Proofs.Token.Runs
import GpuScript.Proofs.Command.Snapshot
import GpuScript.Proofs.Test.Snapshots
import GpuScript.Proofs.Replacement
import GpuScript.Proofs.Script.Replacing
import GpuScript.Proofs.Script.Unread
import GpuScript.Proofs.Script.Concatenation
import GpuScript.Proofs.Operation.Floats
import GpuScript.Proofs.Script.CarriageReturns
import GpuScript.Proofs.Script.Reader
import GpuScript.Proofs.Operation.BufferTypes
import GpuScript.Proofs.VertexTable.Shape
import GpuScript.Proofs.Token.Literal
import GpuScript.Proofs.Section.Preamble
import GpuScript.Proofs.Token.Layout
import GpuScript.Proofs.Checked.Text
import GpuScript.Proofs.Checked.Replacement
import GpuScript.Proofs.Checked.Token
import GpuScript.Proofs.Checked.Section
import GpuScript.Proofs.Checked.Table
import GpuScript.Proofs.Checked.Result
import GpuScript.Proofs.Checked.VertexTable
import GpuScript.Proofs.Checked.Command
import GpuScript.Proofs.Checked.Requirement
import GpuScript.Proofs.Checked.Script
import GpuScript.Proofs.VertexTable.Alignment
import GpuScript.Proofs.Replacement.Apart
import GpuScript.Proofs.Replacement.Order
import GpuScript.Proofs.Test.Refusal
import GpuScript.Proofs.Command.BitList
import GpuScript.Proofs.Test.BitLists
import GpuScript.Proofs.Command.ProbeGrammar
import GpuScript.Proofs.Test.ProbeLines
import GpuScript.Proofs.Test.Tolerances
import GpuScript.Proofs.Command.ExtraOperand
import GpuScript.Proofs.Test.ExtraOperands
import GpuScript.Proofs.Token.Unsigned
import GpuScript.Proofs.Test.Bindings
import GpuScript.Proofs.Indices
import GpuScript.Proofs.Section.Scan
import GpuScript.Proofs.Section.Header
import GpuScript.Proofs.Requirement.Lines
import GpuScript.Proofs.ShaderWords.Literal
import GpuScript.Proofs.ShaderWords.Layout
import GpuScript.Proofs.VertexTable.Header
import GpuScript.Proofs.Value.Casts
import GpuScript.Proofs.Test.NamelessLists
import GpuScript.Proofs.Log.Delivery
import GpuScript.Proofs.LookUps
import GpuScript.Proofs.Test.Pulling
