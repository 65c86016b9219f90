import TriggerScript.Delay
import TriggerScript.Proofs.Flow

/-!
# Delay along a flow

The delay state folded over a flow, and what it says about the paths of the flow at its end:
`delayAfter_eq_yes_iff`.
-/

namespace TriggerScript

namespace Delay

theorem mergeOptional_eq_yes_iff (before after : Delay) :
    mergeOptional before after = .yes ↔ before = .yes := by
  cases before <;> cases after <;> decide

theorem mergeOptional_eq_no_iff (before after : Delay) :
    mergeOptional before after = .no ↔ before = .no ∧ after = .no := by
  cases before <;> cases after <;> decide

theorem mergeBranches_eq_yes_iff (before first second : Delay) :
    mergeBranches before first second = .yes ↔ before = .yes ∨ (first = .yes ∧ second = .yes) := by
  cases before <;> cases first <;> cases second <;> decide

theorem mergeBranches_eq_no_iff (before first second : Delay) :
    mergeBranches before first second = .no ↔ before = .no ∧ (first = .no ∨ second = .no) := by
  cases before <;> cases first <;> cases second <;> decide

end Delay

namespace Flow

variable {α β : Type}

/-! ## The state at the end -/

/-- The state behind a step. -/
def delayAfterStep (suspends : α → Bool) (value : α) (delay : Delay) : Delay :=
  if suspends value then .yes else delay

def delayAfter (suspends : α → Bool) : Flow α → Delay → Delay
  | .done, delay => delay
  | .step value rest, delay => rest.delayAfter suspends (delayAfterStep suspends value delay)
  | .optional body rest, delay =>
    rest.delayAfter suspends (.mergeOptional delay (body.delayAfter suspends delay))
  | .either body other rest, delay =>
    rest.delayAfter suspends
      (.mergeBranches delay (body.delayAfter suspends delay) (other.delayAfter suspends delay))
  | .repeated body rest, delay =>
    rest.delayAfter suspends (.mergeOptional delay (body.delayAfter suspends delay))

theorem delayAfter_append (suspends : α → Bool) (first second : Flow α) (delay : Delay) :
    (first.append second).delayAfter suspends delay =
      second.delayAfter suspends (first.delayAfter suspends delay) := by
  induction first generalizing delay with
  | done => rfl
  | step _ _ restDelay => exact restDelay _
  | optional _ _ _ restDelay => exact restDelay _
  | either _ _ _ _ _ restDelay => exact restDelay _
  | repeated _ _ _ restDelay => exact restDelay _

theorem delayAfterStep_eq_yes_iff (suspends : α → Bool) (value : α) (delay : Delay) :
    delayAfterStep suspends value delay = .yes ↔ suspends value = true ∨ delay = .yes := by
  unfold delayAfterStep
  split <;> simp_all

theorem delayAfterStep_eq_no_iff (suspends : α → Bool) (value : α) (delay : Delay) :
    delayAfterStep suspends value delay = .no ↔ suspends value = false ∧ delay = .no := by
  unfold delayAfterStep
  split <;> simp_all

/-! ## Paths around a suspension -/

/-- Every path is suspended. -/
def Unavoidable (suspends : α → Bool) (flow : Flow α) : Prop :=
  ∀ path, Runs flow path → ∃ value ∈ path, suspends value = true

/-- Some path is not suspended. -/
def Avoidable (suspends : α → Bool) (flow : Flow α) : Prop :=
  ∃ path, Runs flow path ∧ ∀ value ∈ path, suspends value = false

theorem avoidable_iff (suspends : α → Bool) (flow : Flow α) :
    flow.Avoidable suspends ↔ ¬ flow.Unavoidable suspends := by
  simp only [Avoidable, Unavoidable, Classical.not_forall, not_exists, not_and, Bool.not_eq_true,
    exists_prop]

variable {suspends : α → Bool}

theorem not_unavoidable_done : ¬ Unavoidable suspends .done := by
  intro unavoidable
  obtain ⟨_, member, _⟩ := unavoidable [] .done
  cases member

theorem unavoidable_step {value : α} {rest : Flow α} :
    Unavoidable suspends (.step value rest) ↔ suspends value = true ∨ Unavoidable suspends rest := by
  constructor
  · intro unavoidable
    by_cases suspended : suspends value = true
    · exact .inl suspended
    · refine .inr fun path runs => ?_
      obtain ⟨found, member, foundSuspends⟩ := unavoidable _ (.step runs)
      rcases List.mem_cons.mp member with rfl | member
      · exact absurd foundSuspends suspended
      · exact ⟨found, member, foundSuspends⟩
  · rintro (suspended | unavoidable) path runs
    · obtain ⟨later, _, rfl⟩ := runs_step.mp runs
      exact ⟨value, List.mem_cons_self, suspended⟩
    · obtain ⟨later, laterRuns, rfl⟩ := runs_step.mp runs
      obtain ⟨found, member, foundSuspends⟩ := unavoidable later laterRuns
      exact ⟨found, List.mem_cons_of_mem _ member, foundSuspends⟩

/-- A body with all that follows is suspended on every path if one of them is. -/
theorem unavoidable_product {body rest : Flow α} :
    (∀ inner path, Runs body inner → Runs rest path → ∃ value ∈ inner ++ path, suspends value = true) ↔
      Unavoidable suspends body ∨ Unavoidable suspends rest := by
  constructor
  · intro unavoidable
    by_cases avoidable : Avoidable suspends rest
    · -- A path around the suspension in `rest` leaves it to `body` alone.
      obtain ⟨path, runs, quiet⟩ := avoidable
      refine .inl fun inner innerRuns => ?_
      obtain ⟨found, member, foundSuspends⟩ := unavoidable inner path innerRuns runs
      rcases List.mem_append.mp member with member | member
      · exact ⟨found, member, foundSuspends⟩
      · simp [quiet found member] at foundSuspends
    · rw [avoidable_iff, Classical.not_not] at avoidable
      exact .inr avoidable
  · rintro (unavoidable | unavoidable) inner path innerRuns runs
    · obtain ⟨found, member, foundSuspends⟩ := unavoidable inner innerRuns
      exact ⟨found, List.mem_append_left _ member, foundSuspends⟩
    · obtain ⟨found, member, foundSuspends⟩ := unavoidable path runs
      exact ⟨found, List.mem_append_right _ member, foundSuspends⟩

theorem unavoidable_optional {body rest : Flow α} :
    Unavoidable suspends (.optional body rest) ↔ Unavoidable suspends rest := by
  constructor
  · intro unavoidable path runs
    exact unavoidable path (.skip runs)
  · intro unavoidable path runs
    cases runs with
    | skip later => exact unavoidable _ later
    | enter inside later => exact unavoidable_product.mpr (.inr unavoidable) _ _ inside later

theorem unavoidable_either {body other rest : Flow α} :
    Unavoidable suspends (.either body other rest) ↔
      (Unavoidable suspends body ∧ Unavoidable suspends other) ∨ Unavoidable suspends rest := by
  constructor
  · intro unavoidable
    have throughFirst := unavoidable_product.mp fun inner path inside later =>
      unavoidable (inner ++ path) (.first inside later)
    have throughSecond := unavoidable_product.mp fun inner path inside later =>
      unavoidable (inner ++ path) (.second inside later)
    exact and_or_right.mpr ⟨throughFirst, throughSecond⟩
  · intro unavoidable path runs
    cases runs with
    | first inside later =>
      exact unavoidable_product.mpr (unavoidable.imp_left And.left) _ _ inside later
    | second inside later =>
      exact unavoidable_product.mpr (unavoidable.imp_left And.right) _ _ inside later

theorem unavoidable_repeated {body rest : Flow α} :
    Unavoidable suspends (.repeated body rest) ↔ Unavoidable suspends rest := by
  constructor
  · intro unavoidable path runs
    exact unavoidable path (.leave runs)
  · intro unavoidable path runs
    -- Whatever the rounds do, every path ends with a path of `rest`.
    obtain ⟨rounds, later, _, laterRuns, rfl⟩ := runs.after_loop
    obtain ⟨found, member, foundSuspends⟩ := unavoidable later laterRuns
    exact ⟨found, List.mem_append_right _ member, foundSuspends⟩

/-- The state at the end is `yes` exactly where it was at the start or every path is suspended. -/
theorem delayAfter_eq_yes_iff (flow : Flow α) (delay : Delay) :
    flow.delayAfter suspends delay = .yes ↔ delay = .yes ∨ flow.Unavoidable suspends := by
  induction flow generalizing delay with
  | done => simp only [delayAfter, not_unavoidable_done, or_false]
  | step value rest restDelay =>
    rw [delayAfter, restDelay, delayAfterStep_eq_yes_iff, unavoidable_step, or_left_comm, or_assoc]
  | optional body rest _ restDelay =>
    rw [delayAfter, restDelay, Delay.mergeOptional_eq_yes_iff, unavoidable_optional]
  | either body other rest bodyDelay otherDelay restDelay =>
    rw [delayAfter, restDelay, Delay.mergeBranches_eq_yes_iff, bodyDelay, otherDelay,
      unavoidable_either, ← or_and_left, or_self_left, or_assoc]
  | repeated body rest _ restDelay =>
    rw [delayAfter, restDelay, Delay.mergeOptional_eq_yes_iff, unavoidable_repeated]

end Flow

end TriggerScript
