import TriggerScript.Proofs.Advance
import TriggerScript.Proofs.BlockFrame

/-!
# The depth of blocks

Where no block is open there is none to leave, and `Context.leaveBlock` keeps the depth at zero. The compiler of
blocks never comes to that: each block, however deep inside, is left one level below the one it was entered from.
`compileBlockOr` compiles a block as `compileBlock` does, except that at depth zero it does not leave but calls a
function of its own, which may return any context and note anything. Since the two agree whatever that function
is, it is never called.
-/

namespace TriggerScript

/-- Leaves a block, or does something else where no block is open. -/
def Context.leaveBlockOr (stray : Context → Recorded Context) (context : Context) : Recorded Context :=
  if context.depth = 0 then stray context else pure context.leaveBlock

namespace Compile

variable {stray : Context → Recorded Context}

/-! ## One section, however its body is compiled -/

/-- Compiles a section whose body is compiled by `inside`. -/
def compileSectionBy (inside : Context → Recorded (Block × Context)) (grammar : Grammar) (name : String) (line : Nat)
    (pending : Option OpenConditional) (context : Context) : Recorded Progress :=
  match Header.of name with
  | .otherwise =>
    match pending with
    | none => do
      let context ← (context.atLine line).fail .strayElse
      pure ⟨[], none, context⟩
    | some conditional => do
      note (.elseHeader context.depth)
      let (other, after) ← inside ((context.atLine line).withDelay conditional.before)
      let delay := Delay.mergeBranches conditional.before context.delay after.delay
      pure ⟨[.choice conditional.condition conditional.body other], none, after.withDelay delay⟩
  | .loop header => do
    let (closed, context) := settle pending (context.atLine line)
    let (iterable, context) ← readLoop grammar header context
    match iterable with
    | none => pure ⟨closed, none, context⟩
    | some iterable =>
      note (.loopHeader context.depth iterable.source)
      let (body, after) ← inside context
      let delay := Delay.mergeOptional context.delay after.delay
      pure ⟨closed ++ [.loop iterable body], none, after.withDelay delay⟩
  | .while header => do
    let (closed, context) := settle pending (context.atLine line)
    let (condition, context) ← readCondition grammar header context
    match condition with
    | none => pure ⟨closed, none, context⟩
    | some condition =>
      note (.whileHeader context.depth condition.source)
      let (body, after) ← inside context
      let delay := Delay.mergeOptional context.delay after.delay
      pure ⟨closed ++ [.while condition body], none, after.withDelay delay⟩
  | .condition header => do
    let (closed, context) := settle pending (context.atLine line)
    let (condition, context) ← readCondition grammar header context
    match condition with
    | none => pure ⟨closed, none, context⟩
    | some condition =>
      note (.conditionHeader context.depth condition.source)
      let (body, after) ← inside context
      pure ⟨closed, some ⟨condition, body, context.delay⟩, after⟩

theorem compileNode_eq_compileSectionBy (grammar : Grammar) (name : String) (children : List Node) (line : Nat) :
    compileNode grammar (.section name children line) =
      compileSectionBy (within line (compileNodes grammar children none)) grammar name line := by
  funext pending context
  unfold compileNode compileSectionBy
  cases Header.of name with
  | otherwise => cases pending <;> rfl
  | loop _ | «while» _ | condition _ => rfl

/-! ## A compiler that would show a block left at depth zero -/

def withinOr (stray : Context → Recorded Context) (line : Nat) (walk : Context → Recorded Progress)
    (context : Context) : Recorded (Block × Context) := do
  let progress ← walk context.enterBlock
  let (closed, context) := settle progress.pending progress.context
  let outside ← (context.atLine line).leaveBlockOr stray
  pure (progress.items ++ closed, outside)

mutual

def compileNodeOr (stray : Context → Recorded Context) (grammar : Grammar) :
    Node → Option OpenConditional → Context → Recorded Progress
  -- Lines and entries open no block.
  | .line text line => compileNode grammar (.line text line)
  | .entry key value line => compileNode grammar (.entry key value line)
  | .section name children line =>
    compileSectionBy (withinOr stray line (compileNodesOr stray grammar children none)) grammar name line
termination_by structural node => node

def compileNodesOr (stray : Context → Recorded Context) (grammar : Grammar) :
    List Node → Option OpenConditional → Context → Recorded Progress
  | [], pending, context => pure ⟨[], pending, context⟩
  | node :: rest, pending, context => do
    let first ← compileNodeOr stray grammar node pending context
    let others ← compileNodesOr stray grammar rest first.pending first.context
    pure { others with items := first.items ++ others.items }
termination_by structural nodes => nodes

end

/-- Compiles a block, and does something else instead of leaving one at depth zero. -/
def compileBlockOr (stray : Context → Recorded Context) (grammar : Grammar) (node : Node) (context : Context) :
    Recorded (Block × Context) :=
  withinOr stray node.lineNumber (compileNodesOr stray grammar node.children none) context

/-! ## Every block is left one level below -/

theorem depth_compileNodes (grammar : Grammar) (nodes : List Node) (pending : Option OpenConditional)
    (context : Context) : (compileNodes grammar nodes pending context).value.context.depth = context.depth :=
  congrArg Surroundings.depth (compileNodes_walk grammar nodes pending context).surroundings_eq

theorem depth_settle (pending : Option OpenConditional) (context : Context) :
    (settle pending context).2.depth = context.depth := by
  cases pending <;> rfl

/-- Behind a walk that ends on the level it started on, the block that was entered for it is still open. -/
theorem withinOr_eq {walk : Context → Recorded Progress} {context : Context}
    (level : (walk context.enterBlock).value.context.depth = context.enterBlock.depth) (line : Nat) :
    withinOr stray line walk context = within line walk context := by
  rcases walked : walk context.enterBlock with ⟨progress, activity⟩
  rcases settled : settle progress.pending progress.context with ⟨closed, last⟩
  have below : last.depth = context.depth + 1 := by
    have same := depth_settle progress.pending progress.context
    rw [settled] at same
    rw [walked] at level
    exact same.trans level
  have leaves : (last.atLine line).leaveBlockOr stray = pure (last.atLine line).leaveBlock := by
    apply if_neg
    change ¬ last.depth = 0
    omega
  simp only [withinOr, within, walked, settled, leaves, Recorded.ext_iff, Recorded.value_bind, Recorded.value_pure,
    Recorded.activity_bind, Recorded.activity_pure, List.append_nil, and_self]

theorem withinOr_compileNodes (grammar : Grammar) (children : List Node) (line : Nat) :
    withinOr stray line (compileNodes grammar children none) = within line (compileNodes grammar children none) := by
  funext context
  exact withinOr_eq (depth_compileNodes grammar children none context.enterBlock) line

mutual

theorem compileNodeOr_eq (grammar : Grammar) :
    ∀ node : Node, compileNodeOr stray grammar node = compileNode grammar node
  | .line _ _ => rfl
  | .entry _ _ _ => rfl
  | .section name children line => by
    rw [compileNodeOr, compileNodesOr_eq grammar children, withinOr_compileNodes, compileNode_eq_compileSectionBy]

theorem compileNodesOr_eq (grammar : Grammar) :
    ∀ nodes : List Node, compileNodesOr stray grammar nodes = compileNodes grammar nodes
  | [] => rfl
  | node :: rest => by
    funext pending context
    rw [compileNodesOr, compileNodes, compileNodeOr_eq grammar node, compileNodesOr_eq grammar rest]

end

theorem compileBlockOr_eq (stray : Context → Recorded Context) (grammar : Grammar) (node : Node) (context : Context) :
    compileBlockOr stray grammar node context = compileBlock grammar node context := by
  rw [compileBlockOr, compileBlock, compileNodesOr_eq, withinOr_compileNodes]

/-! ## The frame of a block -/

theorem line_compileBlock (grammar : Grammar) (node : Node) (context : Context) :
    (compileBlock grammar node context).value.2.line = node.lineNumber := rfl

/--
A block leaves the file, the event, the tables and the depth as they were, goes back to the line of its section,
takes no report back but only adds to them, and whenever a block is left on the way there is one to leave.
-/
theorem block_keeps_frame (grammar : Grammar) (node : Node) (context : Context) :
    let after := (compileBlock grammar node context).value.2
    (after.file = context.file ∧ after.event = context.event ∧ after.options = context.options ∧
        after.aliases = context.aliases ∧ after.depth = context.depth) ∧
      after.line = node.lineNumber ∧
      (∃ reports, after.diagnostics = context.diagnostics ++ reports) ∧
      ∀ stray, compileBlockOr stray grammar node context = compileBlock grammar node context := by
  have around := compileBlock_surroundings grammar node context
  obtain ⟨reports, appended⟩ := (compileBlock_advances grammar node context).kept
  refine ⟨⟨congrArg Surroundings.file around, congrArg Surroundings.event around,
    congrArg Surroundings.options around, congrArg Surroundings.aliases around,
    congrArg Surroundings.depth around⟩, line_compileBlock grammar node context, ⟨reports, appended.symm⟩, ?_⟩
  intro stray
  exact compileBlockOr_eq stray grammar node context

end Compile

end TriggerScript
