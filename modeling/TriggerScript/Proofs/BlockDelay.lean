import TriggerScript.Proofs.CompiledDelay

/-!
# The delay told from the block

What a block does to the delay can be told from its items alone, one after the other. The compiler goes
about it in another way: it merges behind a conditional only when the next child shows that no other
branch follows, and sets the state back for the branch that does. Both come to the same, and a child
that is left out has no say in it.
-/

namespace TriggerScript

mutual

/-- The delay behind an item, from the delay in front of it. -/
def Item.delayAfter : Item → Delay → Delay
  | .statement statement, delay => if statement.suspends then .yes else delay
  | .conditional _ body, delay => .mergeOptional delay (Block.delayAfter body delay)
  | .choice _ body other, delay =>
    .mergeBranches delay (Block.delayAfter body delay) (Block.delayAfter other delay)
  | .loop _ body, delay => .mergeOptional delay (Block.delayAfter body delay)
  | .while _ body, delay => .mergeOptional delay (Block.delayAfter body delay)
termination_by structural item => item

def Block.delayAfter : Block → Delay → Delay
  | [], delay => delay
  | item :: rest, delay => Block.delayAfter rest (item.delayAfter delay)
termination_by structural block => block

end

mutual

theorem Item.delayAfter_flow : ∀ (item : Item) (rest : Flow Statement) (delay : Delay),
    (item.flow rest).delayAfter Statement.suspends delay =
      rest.delayAfter Statement.suspends (item.delayAfter delay)
  | .statement _, _, _ => rfl
  | .conditional _ body, _, _ | .loop _ body, _, _ | .while _ body, _, _ => by
    rw [Item.flow, Flow.delayAfter, Block.delayAfter_flow body, Item.delayAfter]
  | .choice _ body other, _, _ => by
    rw [Item.flow, Flow.delayAfter, Block.delayAfter_flow body, Block.delayAfter_flow other, Item.delayAfter]

/-- The fold over the items of a block is the fold over its flow. -/
theorem Block.delayAfter_flow : ∀ (block : Block) (delay : Delay),
    (Block.flow block).delayAfter Statement.suspends delay = Block.delayAfter block delay
  | [], _ => rfl
  | item :: rest, delay => by
    rw [Block.flow, item.delayAfter_flow, Block.delayAfter_flow rest, Block.delayAfter]

end

namespace Compile

theorem Compiled.delay_eq {grammar : Grammar} {entry exit : Delay} {block : Block} {activity : List Activity}
    (compiled : Compiled grammar entry block exit activity) : exit = Block.delayAfter block entry :=
  compiled.delay.trans (Block.delayAfter_flow block entry)

/-! ## Children that are left out -/

/-- A child that is compiled from an open conditional and a context to nothing. -/
inductive LeftOut (grammar : Grammar) : Node → Option OpenConditional → Context → Prop where
  /-- A line or an entry that is no statement. -/
  | unread (source : Node.source? node = some text)
      (closing : settle pending (Context.atLine context (Node.lineNumber node)) = (closed, before))
      (reading : compileStatement grammar text before = ⟨(none, after), asked⟩) :
      LeftOut grammar node pending context
  /-- A section whose header is not understood, or a loop over a single value. -/
  | refused (closing : settle pending (Context.atLine context line) = (closed, before))
      (reading : Refused grammar (Header.of name) before after asked) :
      LeftOut grammar (.section name children line) pending context
  /-- Another branch with no open conditional before it. -/
  | stray (header : Header.of name = .otherwise) :
      LeftOut grammar (.section name children line) none context

/-- A section with a refused header is closed in front of, and that is all. -/
theorem compileNode_refused {grammar : Grammar} {name : String} {children : List Node} {line : Nat}
    {pending : Option OpenConditional} {context before after : Context} {closed : Block} {asked : List Activity}
    (closing : settle pending (context.atLine line) = (closed, before))
    (reading : Refused grammar (Header.of name) before after asked) :
    compileNode grammar (.section name children line) pending context = ⟨⟨closed, none, after⟩, asked⟩ := by
  generalize header : Header.of name = kind at reading
  cases reading with
  | loop reading | «while» reading | condition reading =>
    simp only [compileNode, header, closing, reading, Recorded.ext_iff, Recorded.value_bind,
      Recorded.value_pure, Recorded.activity_bind, Recorded.activity_pure, List.append_nil, and_self]

/-- A branch with no open conditional before it is reported, and that is all. -/
theorem compileNode_stray {grammar : Grammar} {name : String} {children : List Node} {line : Nat}
    {context : Context} (header : Header.of name = .otherwise) :
    compileNode grammar (.section name children line) none context =
      ⟨⟨[], none, ((context.atLine line).fail .strayElse).value⟩,
        ((context.atLine line).fail .strayElse).activity⟩ := by
  simp only [compileNode, header, Recorded.ext_iff, Recorded.value_bind, Recorded.value_pure,
    Recorded.activity_bind, Recorded.activity_pure, List.append_nil, and_self]

theorem settle_atLine (pending : Option OpenConditional) (context : Context) (line : Nat) :
    settle pending (context.atLine line) = ((settle pending context).1, (settle pending context).2.atLine line) := by
  cases pending <;> rfl

/-- A child that is left out only closes the conditional before it. -/
theorem LeftOut.compileNode_value {grammar : Grammar} {child : Node} {pending : Option OpenConditional}
    {context : Context} (left : LeftOut grammar child pending context) :
    let progress := (compileNode grammar child pending context).value
    progress.items = (settle pending context).1 ∧ progress.pending = none ∧
      progress.context.delay = (settle pending context).2.delay := by
  cases left with
  | unread source closing reading =>
    rw [compileNode_source source closing reading]
    have sameDelay := (compileStatement_compiled reading).delay
    rw [settle_atLine] at closing
    cases closing
    exact ⟨List.append_nil _, rfl, sameDelay⟩
  | refused closing reading =>
    rw [compileNode_refused closing reading]
    have sameDelay := reading.silent.1
    rw [settle_atLine] at closing
    cases closing
    exact ⟨rfl, rfl, sameDelay⟩
  | stray header =>
    rw [compileNode_stray header]
    exact ⟨rfl, rfl, rfl⟩

/--
The delay that a compiled block leaves is the fold over its items, from the delay it was compiled from.
A child that is left out changes nothing: the block and the delay behind it are those in front of it.
-/
theorem delay_told_from_block (grammar : Grammar) (node : Node) (context : Context) :
    (compileBlock grammar node context).value.2.delay =
        Block.delayAfter (compileBlock grammar node context).value.1 context.delay ∧
      ∀ child pending before, LeftOut grammar child pending before →
        let progress := (compileNode grammar child pending before).value
        progress.items = (settle pending before).1 ∧ progress.pending = none ∧
          progress.context.delay = (settle pending before).2.delay := by
  refine ⟨(compileBlock_compiled grammar node context).delay_eq, ?_⟩
  intro child pending before left
  exact left.compileNode_value

/-- A conditional with a suspended body, and behind it one child of each kind that is left out. -/
def spoiled : Node :=
  .section "on test"
    [.section "if x" [.line "delay 1" 3] 2, .section "loop one" [.line "delay 1" 5] 4,
      .section "else" [.line "delay 1" 7] 6, .line "bad" 8, .section "while bad" [.line "delay 1" 10] 9] 1

/-- The conditional of `spoiled`, while it is open. -/
def spoiledConditional : OpenConditional := ⟨⟨"x", .none⟩, [.statement ⟨"delay 1", true, .none⟩], .no⟩

theorem spoiled_delay_told_from_block :
    let grammar := Rehearsal.grammar []
    let single := Node.section "loop one" [.line "delay 1" 5] 4
    let before := ({} : Context).withDelay .yes
    (compileBlock grammar spoiled {}).value.1 = [spoiledConditional.item] ∧
      (compileBlock grammar spoiled {}).value.2.delay = .maybe ∧
      LeftOut grammar single (some spoiledConditional) before ∧
      (compileNode grammar single (some spoiledConditional) before).value.context.delay = .maybe := by
  intro grammar single before
  have told := delay_told_from_block grammar spoiled {}
  have items : (compileBlock grammar spoiled {}).value.1 = [spoiledConditional.item] := by decide +kernel
  have header : Header.of "loop one" = .loop "one" := by decide +kernel
  have nothing : (readLoop grammar "one" (settle (some spoiledConditional) (before.atLine 4)).2).value.1 = none := by
    decide +kernel
  have left : LeftOut grammar single (some spoiledConditional) before := by
    apply LeftOut.refused rfl
    rw [header]
    exact .loop (Recorded.ext_iff.mpr ⟨Prod.ext nothing rfl, rfl⟩)
  refine ⟨items, ?_, left, (told.2 _ _ _ left).2.2⟩
  rw [told.1, items]
  rfl

end Compile

end TriggerScript
