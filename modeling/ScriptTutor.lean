import ScriptTutor.Binary64.Decimal
import ScriptTutor.Challenge.Assessment
import ScriptTutor.Challenge.Collection
import ScriptTutor.Display.Adjusted
import ScriptTutor.Value.Reading
import ScriptTutor.Logging.Registry
import ScriptTutor.Opcode.Dispatch
import ScriptTutor.Stack.Access
import ScriptTutor.Template
import ScriptTutor.Transcript
import ScriptTutor.Value.Octets
import ScriptTutor.Proofs.Dispatch
import ScriptTutor.Proofs.Machine.Step
import ScriptTutor.Proofs.Machine.Passes
import ScriptTutor.Proofs.Nesting.Basic
import ScriptTutor.Proofs.Nesting.Conditional
import ScriptTutor.Proofs.Nesting.Pair
import ScriptTutor.Proofs.PayToHash
import ScriptTutor.Proofs.Representation.Item
import ScriptTutor.Proofs.Representation.Machine
import ScriptTutor.Proofs.Representation.Run
import ScriptTutor.Proofs.Fault
import ScriptTutor.Proofs.Trace
import ScriptTutor.Proofs.Machine.Below
import ScriptTutor.Proofs.Nesting.Skeleton
import ScriptTutor.Proofs.Beginning
import ScriptTutor.Proofs.Obstacle
import ScriptTutor.Proofs.Course
import ScriptTutor.Proofs.Provenance
import ScriptTutor.Proofs.History
import ScriptTutor.Proofs.Assessment
import ScriptTutor.Proofs.Nesting.Skipped
import ScriptTutor.Proofs.Representation.Relation
import ScriptTutor.Proofs.Representation.Bytes
import ScriptTutor.Proofs.Numeral
import ScriptTutor.Proofs.Document.Texts
import ScriptTutor.Proofs.Document.Tokens
import ScriptTutor.Proofs.Document.Reader
import ScriptTutor.Proofs.Aftermath
import ScriptTutor.Proofs.Representation.Equality
import ScriptTutor.Proofs.ScriptNumber
import ScriptTutor.Proofs.Text.Utf8
import ScriptTutor.Proofs.Text.Digits
import ScriptTutor.Proofs.Representation.Text
import ScriptTutor.Proofs.Text.Grammar
import ScriptTutor.Proofs.TypedInput
import ScriptTutor.Proofs.Portable
import ScriptTutor.Proofs.Expansion
import ScriptTutor.Proofs.Arithmetic
import ScriptTutor.Proofs.Respelling
import ScriptTutor.Proofs.Display
import ScriptTutor.Proofs.Branches
import ScriptTutor.Proofs.DuplicateSum
import ScriptTutor.Proofs.Size
import ScriptTutor.Proofs.Logging.Registry
import ScriptTutor.Proofs.Logging.History
import ScriptTutor.Proofs.Arity
