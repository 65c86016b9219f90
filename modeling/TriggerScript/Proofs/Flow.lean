import TriggerScript.Item

/-!
# How a block runs

What matters of a block when it runs is the order of its statements, and where a body may be skipped,
replaced by another, or run again. A `Flow` keeps just that. It is generic in its steps, so that the
same flow can carry a statement alone or a statement with a remark about it.

`Flow.Runs` gives the paths of a flow: the sequences of steps that one execution may take.
-/

namespace TriggerScript

inductive Flow (α : Type) where
  | done
  | step (value : α) (rest : Flow α)
  /-- A body that is run or skipped. -/
  | optional (body rest : Flow α)
  /-- Two bodies of which one is run. -/
  | either (body other rest : Flow α)
  /-- A body that is run any number of times. -/
  | repeated (body rest : Flow α)
deriving DecidableEq, Repr, Inhabited

mutual

/-- The flow of an item, followed by more. -/
def Item.flow : Item → Flow Statement → Flow Statement
  | .statement statement, rest => .step statement rest
  | .conditional _ body, rest => .optional (Block.flow body) rest
  | .choice _ body other, rest => .either (Block.flow body) (Block.flow other) rest
  | .loop _ body, rest => .repeated (Block.flow body) rest
  | .while _ body, rest => .repeated (Block.flow body) rest
termination_by structural item => item

def Block.flow : Block → Flow Statement
  | [] => .done
  | item :: rest => item.flow (Block.flow rest)
termination_by structural block => block

end

namespace Flow

variable {α β : Type}

def append : Flow α → Flow α → Flow α
  | .done, after => after
  | .step value rest, after => .step value (rest.append after)
  | .optional body rest, after => .optional body (rest.append after)
  | .either body other rest, after => .either body other (rest.append after)
  | .repeated body rest, after => .repeated body (rest.append after)

def map (change : α → β) : Flow α → Flow β
  | .done => .done
  | .step value rest => .step (change value) (rest.map change)
  | .optional body rest => .optional (body.map change) (rest.map change)
  | .either body other rest => .either (body.map change) (other.map change) (rest.map change)
  | .repeated body rest => .repeated (body.map change) (rest.map change)

/-- All steps, in the order in which they are written. -/
def steps : Flow α → List α
  | .done => []
  | .step value rest => value :: rest.steps
  | .optional body rest => body.steps ++ rest.steps
  | .either body other rest => body.steps ++ other.steps ++ rest.steps
  | .repeated body rest => body.steps ++ rest.steps

/-- The paths of a flow, each as the sequence of its steps. -/
inductive Runs : Flow α → List α → Prop where
  | done : Runs .done []
  | step (later : Runs rest path) : Runs (.step value rest) (value :: path)
  | skip (later : Runs rest path) : Runs (.optional body rest) path
  | enter (inside : Runs body nested) (later : Runs rest path) :
      Runs (.optional body rest) (nested ++ path)
  | first (inside : Runs body nested) (later : Runs rest path) :
      Runs (.either body other rest) (nested ++ path)
  | second (inside : Runs other nested) (later : Runs rest path) :
      Runs (.either body other rest) (nested ++ path)
  | leave (later : Runs rest path) : Runs (.repeated body rest) path
  | again (inside : Runs body nested) (later : Runs (.repeated body rest) path) :
      Runs (.repeated body rest) (nested ++ path)

/-! ## Flows one after the other -/

theorem steps_append (first second : Flow α) :
    (first.append second).steps = first.steps ++ second.steps := by
  induction first with
  | done => rfl
  | step _ _ restSteps => simp only [append, steps, restSteps, List.cons_append]
  | optional _ _ _ restSteps => simp only [append, steps, restSteps, List.append_assoc]
  | either _ _ _ _ _ restSteps => simp only [append, steps, restSteps, List.append_assoc]
  | repeated _ _ _ restSteps => simp only [append, steps, restSteps, List.append_assoc]

/-! ## Paths -/

theorem runs_step {value : α} {rest : Flow α} {path : List α} :
    Runs (.step value rest) path ↔ ∃ later, Runs rest later ∧ path = value :: later := by
  constructor
  · intro runs
    cases runs with
    | step later => exact ⟨_, later, rfl⟩
  · rintro ⟨later, runs, rfl⟩
    exact .step runs

/-- A path of a loop ends with a path of what follows the loop. -/
theorem Runs.after_loop {body rest : Flow α} {path : List α} (runs : Runs (.repeated body rest) path) :
    ∃ rounds later, Runs (.repeated body .done) rounds ∧ Runs rest later ∧ path = rounds ++ later := by
  generalize loop : Flow.repeated body rest = flow at runs
  induction runs with
  | leave later =>
    cases loop
    exact ⟨[], _, .leave .done, later, rfl⟩
  | again inside _ _ laterParts =>
    cases loop
    obtain ⟨rounds, later, roundsRun, laterRuns, rfl⟩ := laterParts rfl
    exact ⟨_, later, .again inside roundsRun, laterRuns, by rw [List.append_assoc]⟩
  | done | step _ _ | skip _ _ | enter _ _ _ _ | first _ _ _ _ | second _ _ _ _ => cases loop

/-- A changed path is a path of the changed flow. -/
theorem Runs.map {flow : Flow α} {path : List α} (runs : Runs flow path) (change : α → β) :
    Runs (flow.map change) (path.map change) := by
  induction runs with
  | done => exact .done
  | step _ laterRuns => exact .step laterRuns
  | skip _ laterRuns => exact .skip laterRuns
  | enter _ _ insideRuns laterRuns => exact List.map_append ▸ .enter insideRuns laterRuns
  | first _ _ insideRuns laterRuns => exact List.map_append ▸ .first insideRuns laterRuns
  | second _ _ insideRuns laterRuns => exact List.map_append ▸ .second insideRuns laterRuns
  | leave _ laterRuns => exact .leave laterRuns
  | again _ _ insideRuns laterRuns => exact List.map_append ▸ .again insideRuns laterRuns

/-- Every path of a changed flow is a changed path. -/
theorem Runs.of_map {change : α → β} {flow : Flow α} {path : List β} (runs : Runs (flow.map change) path) :
    ∃ original, Runs flow original ∧ original.map change = path := by
  generalize changed : flow.map change = target at runs
  induction runs generalizing flow with
  | done =>
    cases flow <;> cases changed
    exact ⟨[], .done, rfl⟩
  | step later laterOriginal =>
    cases flow <;> cases changed
    obtain ⟨original, runs, rfl⟩ := laterOriginal rfl
    exact ⟨_ :: original, .step runs, rfl⟩
  | skip later laterOriginal =>
    cases flow <;> cases changed
    obtain ⟨original, runs, rfl⟩ := laterOriginal rfl
    exact ⟨original, .skip runs, rfl⟩
  | enter inside later insideOriginal laterOriginal =>
    cases flow <;> cases changed
    obtain ⟨inner, innerRuns, rfl⟩ := insideOriginal rfl
    obtain ⟨original, runs, rfl⟩ := laterOriginal rfl
    exact ⟨inner ++ original, .enter innerRuns runs, List.map_append⟩
  | first inside later insideOriginal laterOriginal =>
    cases flow <;> cases changed
    obtain ⟨inner, innerRuns, rfl⟩ := insideOriginal rfl
    obtain ⟨original, runs, rfl⟩ := laterOriginal rfl
    exact ⟨inner ++ original, .first innerRuns runs, List.map_append⟩
  | second inside later insideOriginal laterOriginal =>
    cases flow <;> cases changed
    obtain ⟨inner, innerRuns, rfl⟩ := insideOriginal rfl
    obtain ⟨original, runs, rfl⟩ := laterOriginal rfl
    exact ⟨inner ++ original, .second innerRuns runs, List.map_append⟩
  | leave later laterOriginal =>
    cases flow <;> cases changed
    obtain ⟨original, runs, rfl⟩ := laterOriginal rfl
    exact ⟨original, .leave runs, rfl⟩
  | again inside later insideOriginal laterOriginal =>
    cases flow with
    | repeated body rest =>
      cases changed
      obtain ⟨inner, innerRuns, rfl⟩ := insideOriginal rfl
      obtain ⟨original, runs, rfl⟩ := @laterOriginal (.repeated body rest) rfl
      exact ⟨inner ++ original, .again innerRuns runs, List.map_append⟩
    | done | step _ _ | optional _ _ | either _ _ _ => cases changed

end Flow

theorem Item.flow_append (item : Item) (rest after : Flow Statement) :
    item.flow (rest.append after) = (item.flow rest).append after := by
  cases item <;> rfl

theorem Block.flow_append (first second : Block) :
    Block.flow (first ++ second) = (Block.flow first).append (Block.flow second) := by
  induction first with
  | nil => rfl
  | cons item rest restFlow => simp only [List.cons_append, Block.flow, restFlow, Item.flow_append]

end TriggerScript
