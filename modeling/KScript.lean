import KScript.CommandLine.Basic
import KScript.Main
import KScript.Proofs.Text.Lines
import KScript.Session
import KScript.Proofs.Statement.Reading
import KScript.Proofs.Statement.Binding
import KScript.Proofs.Literal.Pieces
import KScript.Proofs.Run.Items
import KScript.Proofs.Run.History
import KScript.Proofs.Run.Replay
import KScript.Proofs.Run.BoundNames
import KScript.Proofs.Value
import KScript.Proofs.Statement.Assignment
import KScript.Proofs.Run.Declarations
import KScript.Proofs.Run.Reports
import KScript.Proofs.Nesting.Outline
import KScript.Proofs.Nesting.Program
import KScript.Proofs.Run.Characters
import KScript.Proofs.Nesting.Lines
import KScript.Proofs.Nesting.Preservation
import KScript.Proofs.Text.Joining
import KScript.Proofs.Run.Tracing
import KScript.Proofs.Run.Growth
import KScript.Proofs.Run.Chunks
import KScript.Proofs.Session.Histories
import KScript.Proofs.Literal.Scan
import KScript.Proofs.Run.SideBySide
import KScript.Proofs.Run.Keywords
import KScript.Proofs.Run.Unterminated
import KScript.Proofs.Contents.Values
import KScript.Proofs.Contents.Headers
import KScript.Proofs.Contents.Statements
import KScript.Proofs.Session.Contents
import KScript.Proofs.Run.Indentation
import KScript.Proofs.Literal.Joining
import KScript.Proofs.Files.Writing
import KScript.Proofs.Build.Endings
import KScript.Proofs.CommandLine.Arguments
import KScript.Proofs.CommandLine.Delivery
import KScript.Proofs.Build.Gate
import KScript.Proofs.Value.Settled
import KScript.Proofs.Build.Progress
import KScript.Proofs.CommandLine.Verbosity
import KScript.Proofs.CommandLine.StandardInput
import KScript.Proofs.Literal.Escapes
import KScript.Proofs.Value.Calls
import KScript.Proofs.Session.Assigning
import KScript.Proofs.Session.Atomicity
import KScript.Proofs.Literal.Words
import KScript.Proofs.Number
import KScript.Proofs.Build.Keywords
import KScript.Proofs.Value.Literals
import KScript.Proofs.Statement.Parameters
import KScript.Proofs.Run.Comments
import KScript.Proofs.Session.Updating
import KScript.Proofs.Literal.Decoding
import KScript.Proofs.Value.Counts
