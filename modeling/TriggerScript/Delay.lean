/-!
# Delay

Whether the code being compiled runs after a suspension point: never, always, or on some paths only.
-/

namespace TriggerScript

inductive Delay where
  /-- No path so far has been suspended. -/
  | no
  /-- Every path so far has been suspended. -/
  | yes
  /-- Some paths may have been suspended. -/
  | maybe
deriving DecidableEq, Repr, Inhabited

namespace Delay

/-- Both of two states. -/
def and : Delay → Delay → Delay
  | .yes, .yes => .yes
  | .no, _ => .no
  | _, .no => .no
  | _, _ => .maybe

/-- Either of two states. -/
def or : Delay → Delay → Delay
  | .no, .no => .no
  | .yes, _ => .yes
  | _, .yes => .yes
  | _, _ => .maybe

/-- The state after a body that may be skipped, from the states before it and at its end. -/
def mergeOptional : (before after : Delay) → Delay
  | .yes, _ => .yes
  | before, .no => before
  | _, _ => .maybe

/-- The state after a choice between two bodies, from the states before it and at their ends. -/
def mergeBranches (before afterThen afterElse : Delay) : Delay :=
  (afterElse.and afterThen).or before

def text : Delay → String
  | .no => "no"
  | .yes => "yes"
  | .maybe => "maybe"

end Delay

end TriggerScript
