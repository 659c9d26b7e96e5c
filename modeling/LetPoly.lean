import LetPoly.Datatype
import LetPoly.Main
import LetPoly.Proofs.Alike
import LetPoly.Proofs.Analysis
import LetPoly.Proofs.CommandLines
import LetPoly.Proofs.Completeness
import LetPoly.Proofs.Compression
import LetPoly.Proofs.Contexts
import LetPoly.Proofs.Copying
import LetPoly.Proofs.Denotation
import LetPoly.Proofs.Failures
import LetPoly.Proofs.Frame
import LetPoly.Proofs.Generality
import LetPoly.Proofs.Grammar
import LetPoly.Proofs.History
import LetPoly.Proofs.IllFormed
import LetPoly.Proofs.Instantiation
import LetPoly.Proofs.Lexing
import LetPoly.Proofs.Operations
import LetPoly.Proofs.Principal
import LetPoly.Proofs.Replacement
import LetPoly.Proofs.RoundTrip
import LetPoly.Proofs.Sessions
import LetPoly.Proofs.Soundness
import LetPoly.Proofs.Termination
import LetPoly.Proofs.Tracing
import LetPoly.Proofs.TwinRuns
import LetPoly.Proofs.Twins
import LetPoly.Proofs.Typing
import LetPoly.Proofs.Unfolding
import LetPoly.Proofs.Unification
import LetPoly.Session
import LetPoly.Proofs.Constraints
import LetPoly.Proofs.BoundNames
import LetPoly.Proofs.TopLevel
import LetPoly.Proofs.Leftmost
import LetPoly.Proofs.Labelling
import LetPoly.Proofs.Bracketing
import LetPoly.Proofs.Literals
import LetPoly.Proofs.Parentheses
import LetPoly.Pipeline
import LetPoly.Proofs.Attempts
import LetPoly.Proofs.Pipelines
import LetPoly.Proofs.Representatives
