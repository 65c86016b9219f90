import TriggerScript.Proofs.Reading
import TriggerScript.Proofs.Walk

/-!
# What a block leaves alone

While a block is compiled the context moves from line to line, goes in and out of nested blocks, gathers
delays and reports. When the block is done, all else is as it was: the file, the event, the tables, and
the depth, since every nested block that was entered has been left.
-/

namespace TriggerScript

/-- What the code of a block sees around it. -/
structure Surroundings where
  file : Option Path
  event : Option ActiveEvent
  options : Table String String
  aliases : Table String ItemType
  depth : Nat

namespace Context

def surroundings (context : Context) : Surroundings :=
  ⟨context.file, context.event, context.options, context.aliases, context.depth⟩

/-- Behind a nested block the surroundings are those in front of it. -/
theorem surroundings_leaveBlock {outer inner : Context}
    (inside : inner.surroundings = outer.enterBlock.surroundings) :
    inner.leaveBlock.surroundings = outer.surroundings := by
  obtain ⟨sameFile, sameEvent, sameOptions, sameAliases, sameDepth⟩ := Surroundings.mk.inj inside
  have left : inner.leaveBlock.depth = outer.depth := by
    change inner.depth - 1 = outer.depth
    rw [sameDepth]
    exact Nat.add_sub_cancel outer.depth 1
  exact (Surroundings.mk.injEq ..).mpr ⟨sameFile, sameEvent, sameOptions, sameAliases, left⟩

end Context

namespace Compile

variable {grammar : Grammar}

theorem Reads.surroundings_eq {α : Type} {asks : String → Consultation} {parses : String → α → Prop}
    {context after : Context} {value : Option α} {asked : List Activity}
    (reads : Reads asks parses context value after asked) : after.surroundings = context.surroundings := by
  cases reads <;> rfl

theorem compileStatement_surroundings {text : String} {context after : Context} {item : Option Item}
    {asked : List Activity} (reading : compileStatement grammar text context = ⟨(item, after), asked⟩) :
    after.surroundings = context.surroundings := by
  have reads := compileStatement_reads grammar text context
  rw [reading] at reads
  cases reads with
  | understood _ => rfl
  | missing reads => exact reads.surroundings_eq

theorem readLoop_surroundings {text : String} {context after : Context} {iterable : Option Expression}
    {asked : List Activity} (reading : readLoop grammar text context = ⟨(iterable, after), asked⟩) :
    after.surroundings = context.surroundings := by
  have reads := readLoop_reads grammar text context
  rw [reading] at reads
  exact reads.surroundings_eq

theorem readCondition_surroundings {text : String} {context after : Context} {condition : Option Condition}
    {asked : List Activity} (reading : readCondition grammar text context = ⟨(condition, after), asked⟩) :
    after.surroundings = context.surroundings := by
  have reads := readCondition_reads grammar text context
  rw [reading] at reads
  exact reads.surroundings_eq

theorem Refused.surroundings_eq {header : Header} {context after : Context} {asked : List Activity}
    (refused : Refused grammar header context after asked) : after.surroundings = context.surroundings := by
  cases refused with
  | loop reading => exact readLoop_surroundings reading
  | «while» reading | condition reading => exact readCondition_surroundings reading

theorem OpensLoop.surroundings_eq {header : Header} {context after : Context} {asked : List Activity}
    {notice : Notice} {loop : Block → Item}
    (opens : OpensLoop grammar header context after asked notice loop) :
    after.surroundings = context.surroundings := by
  cases opens with
  | loop reading => exact readLoop_surroundings reading
  | «while» reading => exact readCondition_surroundings reading

theorem settle_surroundings {pending : Option OpenConditional} {context after : Context} {closed : Block}
    (closing : settle pending context = (closed, after)) : after.surroundings = context.surroundings := by
  cases pending <;> cases closing <;> rfl

theorem Walk.surroundings_eq {nodes : List Node} {pending last : Option OpenConditional}
    {context final : Context} {items : Block} {activity : List Activity}
    (walk : Walk grammar nodes pending context items last final activity) :
    final.surroundings = context.surroundings := by
  induction walk with
  | done => rfl
  | statement _ closing reading _ later =>
    have settled := settle_surroundings closing
    have read := compileStatement_surroundings reading
    exact (later.trans read).trans settled
  | refused closing reading _ later =>
    have settled := settle_surroundings closing
    exact (later.trans reading.surroundings_eq).trans settled
  | loop closing reading _ innerClosing _ inside later =>
    have settled := settle_surroundings closing
    -- The body ends at the depth at which it began, so leaving it ends at that of the header.
    have left := Context.surroundings_leaveBlock ((settle_surroundings innerClosing).trans inside)
    exact ((later.trans left).trans reading.surroundings_eq).trans settled
  | condition _ closing reading _ innerClosing _ inside later =>
    have settled := settle_surroundings closing
    have read := readCondition_surroundings reading
    have left := Context.surroundings_leaveBlock ((settle_surroundings innerClosing).trans inside)
    exact ((later.trans left).trans read).trans settled
  | other conditional context _ _ innerClosing _ inside later =>
    have left := Context.surroundings_leaveBlock ((settle_surroundings innerClosing).trans inside)
    exact later.trans left
  | stray _ reading _ later =>
    cases reading
    exact later

theorem compileBlock_surroundings (grammar : Grammar) (node : Node) (context : Context) :
    (compileBlock grammar node context).value.2.surroundings = context.surroundings := by
  have walked := compileNodes_walk grammar node.children none context.enterBlock
  rw [compileBlock, value_within]
  generalize (compileNodes grammar node.children none context.enterBlock).value = progress at *
  have settled : (settle progress.pending progress.context).2.surroundings = progress.context.surroundings :=
    settle_surroundings rfl
  exact Context.surroundings_leaveBlock (settled.trans walked.surroundings_eq)

end Compile

end TriggerScript
