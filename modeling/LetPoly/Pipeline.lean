import LetPoly.Attempt
import LetPoly.Pipe

/-!
# Pipelines of attempts

A value goes through stages one after the other, held by an attempt all the way. A stage is a
function, or a call with holes that the value so far fills. Stages may have effects on a state.

A stage is made ready when the pipeline comes to it, and only then gets the value. A call that
cannot wait for the value is no stage: the pipeline breaks off there, whether or not it has failed
before.
-/

namespace LetPoly

/-- A stage of a pipeline: a function of one value, or a call with holes for one. -/
inductive Stage (σ α : Type) where
  | function (f : Value α → EStateM Failure σ (Value α))
  | call (c : Pipe.Invocation (Value α) (EStateM Failure σ (Value α))) (hole : c.hasHole = true)

end LetPoly
