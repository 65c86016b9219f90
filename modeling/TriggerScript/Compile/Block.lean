import TriggerScript.Options
import TriggerScript.Services
import TriggerScript.Text.Keyword

/-!
# Compiling a block

The children of a section become the items of a block. Lines and entries are statements; a section is
a loop, a conditional, or the other branch of the conditional just before it. The context is carried
from child to child, and with it the knowledge whether the code so far has been suspended:

* after a suspending statement it has,
* a body that may be skipped leaves the merged state of before and after,
* two branches leave the merged state of both.

A conditional stays open until its next sibling shows whether another branch follows. A child that
cannot be compiled is reported and left out.
-/

namespace TriggerScript.Compile

/-! ## Headers -/

inductive Header where
  | otherwise
  | loop (text : String)
  | while (text : String)
  | condition (text : String)
deriving DecidableEq, Repr

def Header.of (name : String) : Header :=
  if Text.isKeyword "else" (Text.trim name) then .otherwise
  else match Text.afterKeyword? "loop " name with
    | some text => .loop text
    | none => match Text.afterKeyword? "while " name with
      | some text => .while text
      | none => .condition ((Text.afterKeyword? "if " name).getD name)

/-- The type of value that a loop goes through. -/
def loopable : String := "object"

def readLoop (grammar : Grammar) (header : String) (context : Context) :
    Recorded (Option Expression × Context) := do
  let (text, context) ← Options.substitute header context
  match text with
  | none => pure (none, context)
  | some text =>
    match ← grammar.readExpression text loopable context with
    | .error reason =>
      let context ← context.fail (.notUnderstood .expression text reason)
      pure (none, context)
    | .ok iterable =>
      if iterable.single then
        let context ← context.fail (.notLoopable iterable.source)
        pure (none, context)
      else pure (some iterable, context)

def readCondition (grammar : Grammar) (header : String) (context : Context) :
    Recorded (Option Condition × Context) := do
  let (text, context) ← Options.substitute header context
  match text with
  | none => pure (none, context)
  | some text =>
    match ← grammar.readCondition text context with
    | .error reason =>
      let context ← context.fail (.notUnderstood .condition text reason)
      pure (none, context)
    | .ok condition => pure (some condition, context)

/-! ## Statements -/

def compileStatement (grammar : Grammar) (source : String) (context : Context) :
    Recorded (Option Item × Context) := do
  let (text, context) ← Options.substitute source context
  match text with
  | none => pure (none, context)
  | some text =>
    match ← grammar.readStatement text context with
    | .error reason =>
      let context ← context.fail (.notUnderstood .statement text reason)
      pure (none, context)
    | .ok statement =>
      note (.statement context.depth statement.source)
      let delay := if statement.suspends then .yes else context.delay
      pure (some (.statement statement), context.withDelay delay)

/-! ## Open conditionals -/

/-- A conditional that another branch may still follow, with the state before it. -/
structure OpenConditional where
  condition : Condition
  body : Block
  before : Delay

def OpenConditional.item (conditional : OpenConditional) : Item :=
  .conditional conditional.condition conditional.body

/-- Closes a conditional that no other branch follows. -/
def settle (pending : Option OpenConditional) (context : Context) : Block × Context :=
  match pending with
  | none => ([], context)
  | some conditional =>
    ([conditional.item], context.withDelay (.mergeOptional conditional.before context.delay))

/-- How far the children of a section have come. -/
structure Progress where
  items : Block
  pending : Option OpenConditional
  context : Context

/-- Runs through the children of a nested section, which stands on a line. -/
def within (line : Nat) (walk : Context → Recorded Progress) (context : Context) :
    Recorded (Block × Context) := do
  let progress ← walk context.enterBlock
  let (closed, context) := settle progress.pending progress.context
  pure (progress.items ++ closed, (context.atLine line).leaveBlock)

/-! ## Children -/

mutual

def compileNode (grammar : Grammar) :
    Node → Option OpenConditional → Context → Recorded Progress
  | .line text line, pending, context => do
    let (closed, context) := settle pending (context.atLine line)
    let (statement, context) ← compileStatement grammar text context
    pure ⟨closed ++ statement.toList, none, context⟩
  | .entry key value line, pending, context => do
    let (closed, context) := settle pending (context.atLine line)
    let (statement, context) ← compileStatement grammar (key ++ ": " ++ value) context
    pure ⟨closed ++ statement.toList, none, context⟩
  | .section name children line, pending, context =>
    match Header.of name with
    | .otherwise =>
      match pending with
      | none => do
        let context ← (context.atLine line).fail .strayElse
        pure ⟨[], none, context⟩
      | some conditional => do
        note (.elseHeader context.depth)
        let (other, after) ← within line (compileNodes grammar children none)
          ((context.atLine line).withDelay conditional.before)
        let delay := Delay.mergeBranches conditional.before context.delay after.delay
        pure ⟨[.choice conditional.condition conditional.body other], none, after.withDelay delay⟩
    | .loop header => do
      let (closed, context) := settle pending (context.atLine line)
      let (iterable, context) ← readLoop grammar header context
      match iterable with
      | none => pure ⟨closed, none, context⟩
      | some iterable =>
        note (.loopHeader context.depth iterable.source)
        let (body, after) ← within line (compileNodes grammar children none) context
        let delay := Delay.mergeOptional context.delay after.delay
        pure ⟨closed ++ [.loop iterable body], none, after.withDelay delay⟩
    | .while header => do
      let (closed, context) := settle pending (context.atLine line)
      let (condition, context) ← readCondition grammar header context
      match condition with
      | none => pure ⟨closed, none, context⟩
      | some condition =>
        note (.whileHeader context.depth condition.source)
        let (body, after) ← within line (compileNodes grammar children none) context
        let delay := Delay.mergeOptional context.delay after.delay
        pure ⟨closed ++ [.while condition body], none, after.withDelay delay⟩
    | .condition header => do
      let (closed, context) := settle pending (context.atLine line)
      let (condition, context) ← readCondition grammar header context
      match condition with
      | none => pure ⟨closed, none, context⟩
      | some condition =>
        note (.conditionHeader context.depth condition.source)
        let (body, after) ← within line (compileNodes grammar children none) context
        pure ⟨closed, some ⟨condition, body, context.delay⟩, after⟩
termination_by structural node => node

def compileNodes (grammar : Grammar) :
    List Node → Option OpenConditional → Context → Recorded Progress
  | [], pending, context => pure ⟨[], pending, context⟩
  | node :: rest, pending, context => do
    let first ← compileNode grammar node pending context
    let others ← compileNodes grammar rest first.pending first.context
    pure { others with items := first.items ++ others.items }
termination_by structural nodes => nodes

end

/-- Compiles the children of a section into a block. -/
def compileBlock (grammar : Grammar) (node : Node) (context : Context) : Recorded (Block × Context) :=
  within node.lineNumber (compileNodes grammar node.children none) context

end TriggerScript.Compile
