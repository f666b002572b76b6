import JsonShapes.Definitions.Generate
import JsonShapes.Proofs.Except
import JsonShapes.Proofs.Shape.Stopping

/-! # What a generation does

A value that is not null is walked and written, and a fault of either becomes a failure under the root
name (`generate_outcome`). So a generation fails where one of the two steps does; the null alone is
rejected before them. -/

namespace JsonShapes.Definitions

open Inference Naming

variable {v : Value} {hint : Hint} {dates : Bool} {now : Moment}

/-- **A value that is not null is walked and written.** -/
theorem generate_outcome (hv : v ≠ .null) : (generate v hint dates now).outcome =
    ((start dates v hint .empty).mapError Inference.Failure.message >>= fun found =>
      (render found.registry.declarations hint found.type now).mapError Fault.message).mapError
        (failure hint) := by
  rw [generate]
  · cases start dates v hint .empty with
    | error fault => rfl
    | ok found =>
      change _ = ((render found.registry.declarations hint found.type now).mapError _).mapError _
      dsimp only
      cases render found.registry.declarations hint found.type now with
      | error fault => rfl
      | ok text => rfl
  · exact hv

theorem start_text (hkeys : ShortKeys v) (s : String) :
    start dates v (.text s) .empty = .ok (infer dates v s .empty) := by
  rw [start, walk, stop?_eq_none hkeys]

/-- **A walk that stops makes the generation fail**, and the failure tells of the long key. -/
theorem generate_of_stop (hv : v ≠ .null) {s : String} {left : Registry} {events : List Event}
    (h : stop? dates v s .empty = some (left, events)) :
    (generate v (.text s) dates now).outcome =
      .error (.rejected (Rejection.inference Json.unwrittenIntegerText (some s))) := by
  rw [generate_outcome hv, start, walk, h]
  rfl

end JsonShapes.Definitions
