import Scl.CommandLine
import Scl.Session.Operation
import Scl.Main
import Scl.Proofs.Keyword
import Scl.Proofs.Dispatch
import Scl.Proofs.Sentence
import Scl.Proofs.Reading
import Scl.Proofs.Outcome
import Scl.Proofs.Acceptance
import Scl.Proofs.Completion
import Scl.Proofs.Rejection
import Scl.Proofs.Concatenation
import Scl.Proofs.Trace
import Scl.Proofs.StatementStart
import Scl.Proofs.Undeclared
import Scl.Proofs.Chronicle
import Scl.Proofs.Session.Correspondence
import Scl.Proofs.Session.OracleIndependence
import Scl.Proofs.Session.Onward
import Scl.Proofs.Session.History
import Scl.Proofs.Session.Invariant
import Scl.Proofs.Session.Quoting
import Scl.Proofs.Session.Displacement
import Scl.Proofs.Tree.Preorder
import Scl.Proofs.Tree.Walking
import Scl.Proofs.Tree.Outline
import Scl.Proofs.Tree.Rendering
import Scl.Proofs.Role
import Scl.Proofs.Leaves
import Scl.Proofs.Unparse
import Scl.Proofs.Alignment
import Scl.Proofs.LetterCase
import Scl.Proofs.CheckedKinds
import Scl.Proofs.Excerpt
import Scl.Proofs.Caret
import Scl.Proofs.Excerpt.Line
import Scl.Proofs.Json.Escape
import Scl.Proofs.Json.Lexeme
import Scl.Proofs.Json.RoundTrip
import Scl.Proofs.Json.Agreement
import Scl.Proofs.Json.ScalarAgreement
import Scl.Proofs.Json.NestingAgreement
import Scl.Proofs.Json.Sources
import Scl.Proofs.CommandLine.Ending
import Scl.Proofs.Json.Syntax
import Scl.Proofs.Json.Settled
import Scl.Proofs.Json.Strings
import Scl.Proofs.Json.Numerals
import Scl.Proofs.Json.Brackets
import Scl.Proofs.Json.Skipping
import Scl.Proofs.Json.Values
import Scl.Proofs.Json.TokenObjects
import Scl.Proofs.Json.UnknownMembers
import Scl.Proofs.Session.WordSequence
import Scl.Proofs.Json.TokenValues
import Scl.Proofs.Json.Elements
import Scl.Proofs.CommandLine.Breaking
import Scl.Proofs.CommandLine.Comparison
