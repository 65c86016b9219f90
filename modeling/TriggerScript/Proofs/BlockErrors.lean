import Mathlib.Data.List.Forall2
import TriggerScript.Proofs.Advance
import TriggerScript.Proofs.BlockSteps

/-!
# What a block reports

A child that cannot be compiled is left out with all that is inside it, and that costs one report. So the reports
of a block can be told from its items: of the nodes that the compiler comes to, each is an item, or the other branch
of one, or it has a report of its own. The reports stand in the order of the script and at the lines of their nodes.
-/

namespace TriggerScript

mutual

/-- An item and all that are inside it, in the order of the script. -/
def Item.allItems : Item → List Item
  | .statement statement => [.statement statement]
  | .conditional condition body => .conditional condition body :: Block.allItems body
  | .choice condition body other => .choice condition body other :: (Block.allItems body ++ Block.allItems other)
  | .loop iterable body => .loop iterable body :: Block.allItems body
  | .while condition body => .while condition body :: Block.allItems body
termination_by structural item => item

/-- The items of a block at all depths. -/
def Block.allItems : Block → List Item
  | [] => []
  | item :: rest => item.allItems ++ Block.allItems rest
termination_by structural block => block

end

/-- Whether an item has another branch. -/
def Item.hasOther : Item → Bool
  | .choice .. => true
  | _ => false

@[simp] theorem Block.allItems_append (first second : Block) :
    Block.allItems (first ++ second) = Block.allItems first ++ Block.allItems second := by
  induction first with
  | nil => rfl
  | cons item rest inductionHypothesis =>
    rw [List.cons_append, Block.allItems, inductionHypothesis, Block.allItems, List.append_assoc]

namespace Compile

/-! ## Visits -/

/-- What a node is compiled into. -/
inductive Yield where
  /-- An item of its own. -/
  | item
  /-- The other branch of the item before it. -/
  | branch
  | nothing
deriving DecidableEq

/-- What a node is compiled into, told from the items in front of it and behind it. -/
def Yield.between (before behind : Block) : Yield :=
  if behind = before then .nothing
  else if behind.length = before.length then .branch
  else .item

/-- A node that the compiler came to. -/
structure Visit where
  node : Node
  yield : Yield

def yieldOf (grammar : Grammar) (node : Node) (pending : Option OpenConditional) (context : Context) : Yield :=
  .between (settle pending context).1 (compileNode grammar node pending context).value.emitted

/-- The context in which the children of a section are compiled. -/
def bodyContext (node : Node) (pending : Option OpenConditional) (context : Context) : Context :=
  match node.isElse, pending with
  | true, some conditional => (context.atLine node.lineNumber).withDelay conditional.before
  | _, _ => (settle pending (context.atLine node.lineNumber)).2

mutual

/-- The visit of a node and, unless it is compiled into nothing, those of all nodes inside it. -/
def visitNode (grammar : Grammar) : Node → Option OpenConditional → Context → List Visit
  | .section name children line, pending, context =>
    let node := .section name children line
    let yield := yieldOf grammar node pending context
    ⟨node, yield⟩ ::
      if yield = .nothing then []
      else visitNodes grammar children none (bodyContext node pending context).enterBlock
  | node, pending, context => [⟨node, yieldOf grammar node pending context⟩]
termination_by structural node => node

/-- The visits of some children and of the nodes inside them, in the order of the script. -/
def visitNodes (grammar : Grammar) : List Node → Option OpenConditional → Context → List Visit
  | [], _, _ => []
  | node :: rest, pending, context =>
    let progress := (compileNode grammar node pending context).value
    visitNode grammar node pending context ++ visitNodes grammar rest progress.pending progress.context
termination_by structural nodes => nodes

end

def countOf (yield : Yield) (visits : List Visit) : Nat := visits.countP (·.yield = yield)

/-- The nodes that were visited and compiled into nothing. -/
def droppedNodes (visits : List Visit) : List Node := (visits.filter (·.yield = .nothing)).map Visit.node

/-- A report of an error at the line of a node. -/
structure IsErrorAt (file : Option Path) (node : Node) (report : Diagnostic) : Prop where
  severity : report.severity = .error
  file : report.file = file
  line : report.line = node.lineNumber

variable {grammar : Grammar}

theorem Yield.between_self (block : Block) : Yield.between block block = .nothing := if_pos rfl

theorem Yield.between_concat (block : Block) (item : Item) : Yield.between block (block ++ [item]) = .item := by
  simp [Yield.between]

theorem Yield.between_branch (conditional : OpenConditional) (other : Block) :
    Yield.between [conditional.item] [.choice conditional.condition conditional.body other] = .branch := by
  simp [Yield.between, OpenConditional.item]

theorem visitNode_source {node : Node} {text : String} (source : node.source? = some text)
    (pending : Option OpenConditional) (context : Context) :
    visitNode grammar node pending context = [⟨node, yieldOf grammar node pending context⟩] := by
  cases node with
  | line _ _ | entry _ _ _ => rfl
  | «section» _ _ _ => cases source

theorem visitNode_dropped {node : Node} {pending : Option OpenConditional} {context : Context}
    (yields : yieldOf grammar node pending context = .nothing) :
    visitNode grammar node pending context = [⟨node, .nothing⟩] := by
  cases node with
  | line _ _ | entry _ _ _ => rw [visitNode_source rfl, yields]
  | «section» _ _ _ => simp only [visitNode, yields, if_true]

theorem visitNode_section {name : String} {children : List Node} {line : Nat} {pending : Option OpenConditional}
    {context inside : Context} {yield : Yield}
    (yields : yieldOf grammar (.section name children line) pending context = yield) (kept : yield ≠ .nothing)
    (body : bodyContext (.section name children line) pending context = inside) :
    visitNode grammar (.section name children line) pending context =
      ⟨.section name children line, yield⟩ :: visitNodes grammar children none inside.enterBlock := by
  simp only [visitNode, yields, kept, body, if_false]

theorem bodyContext_of_ne {name : String} {children : List Node} {line : Nat} {pending : Option OpenConditional}
    {context before : Context} {closed : Block} (notElse : Header.of name ≠ .otherwise)
    (closing : settle pending (context.atLine line) = (closed, before)) :
    bodyContext (.section name children line) pending context = before := by
  have isElse : (Node.section name children line).isElse = false := by
    rw [← Bool.not_eq_true, isElse_section]
    exact notElse
  unfold bodyContext
  rw [isElse]
  exact congrArg Prod.snd closing

theorem bodyContext_of_eq {name : String} {children : List Node} {line : Nat} {conditional : OpenConditional}
    {context : Context} (header : Header.of name = .otherwise) :
    bodyContext (.section name children line) (some conditional) context =
      (context.atLine line).withDelay conditional.before := by
  unfold bodyContext
  rw [(isElse_section name children line).mpr header]
  rfl

/-! ## Accounts -/

/--
Some visits account for all that changes: the reports are one for each node that was dropped, the items one for
each that was compiled into an item, and the branches one for each that was compiled into a branch.
-/
structure Accounts (visits : List Visit) (start final : Standing) (before behind : Block) : Prop where
  file : final.file = start.file
  reports : ∃ errors, final.diagnostics = start.diagnostics ++ errors ∧
    List.Forall₂ (IsErrorAt start.file) (droppedNodes visits) errors
  items : (Block.allItems behind).length = (Block.allItems before).length + countOf .item visits
  branches : (Block.allItems behind).countP Item.hasOther =
    (Block.allItems before).countP Item.hasOther + countOf .branch visits

namespace Accounts

variable {visits later : List Visit} {start middle final : Standing} {before between behind body closed : Block}
  {node : Node}

theorem refl (standing : Standing) (block : Block) : Accounts [] standing standing block block :=
  ⟨rfl, ⟨[], (List.append_nil _).symm, .nil⟩, rfl, rfl⟩

theorem trans (first : Accounts visits start middle before between)
    (second : Accounts later middle final between behind) : Accounts (visits ++ later) start final before behind where
  file := second.file.trans first.file
  reports := by
    obtain ⟨errors, reported, matched⟩ := first.reports
    obtain ⟨more, reportedLater, matchedLater⟩ := second.reports
    refine ⟨errors ++ more, by rw [reportedLater, reported, List.append_assoc], ?_⟩
    rw [first.file] at matchedLater
    rw [droppedNodes, List.filter_append, List.map_append]
    exact List.rel_append matched matchedLater
  items := by rw [second.items, first.items, countOf, countOf, countOf, List.countP_append, Nat.add_assoc]
  branches := by rw [second.branches, first.branches, countOf, countOf, countOf, List.countP_append, Nat.add_assoc]

/-- Items in front make no difference. -/
theorem behindItems (accounts : Accounts visits start final before behind) (items : Block) :
    Accounts visits start final (items ++ before) (items ++ behind) where
  file := accounts.file
  reports := accounts.reports
  items := by simp only [Block.allItems_append, List.length_append, accounts.items, Nat.add_assoc]
  branches := by simp only [Block.allItems_append, List.countP_append, accounts.branches, Nat.add_assoc]

/-- A node becomes one item more, in which there is what the nodes inside it become. -/
theorem item (inside : Accounts visits start final [] body) {item : Item}
    (parts : item.allItems = item :: Block.allItems body) (alone : item.hasOther = false) :
    Accounts (⟨node, .item⟩ :: visits) start final closed (closed ++ [item]) where
  file := inside.file
  reports := inside.reports
  items := by
    have nested := inside.items
    simp [parts, countOf, Block.allItems] at nested ⊢
    omega
  branches := by
    have nested := inside.branches
    simpa [parts, alone, countOf, Block.allItems] using nested

/-- A node becomes the other branch of a conditional. -/
theorem branch (inside : Accounts visits start final [] body) (conditional : OpenConditional) :
    Accounts (⟨node, .branch⟩ :: visits) start final [conditional.item]
      [.choice conditional.condition conditional.body body] where
  file := inside.file
  reports := inside.reports
  items := by
    have nested := inside.items
    simp [OpenConditional.item, Item.allItems, countOf, Block.allItems] at nested ⊢
    omega
  branches := by
    have nested := inside.branches
    simp [OpenConditional.item, Item.allItems, List.countP_cons, Item.hasOther, countOf, Block.allItems] at nested ⊢
    omega

/-- A node is dropped with a report at its line. -/
theorem dropped {context : Context} (onLine : context.line = node.lineNumber) (problem : Problem) (block : Block) :
    Accounts [⟨node, .nothing⟩] context.standing (context.fail problem).value.standing block block where
  file := rfl
  reports := ⟨[context.diagnosticOf .error problem.message], rfl, .cons ⟨rfl, rfl, onLine⟩ .nil⟩
  items := rfl
  branches := rfl

end Accounts

/-! ## Along the children -/

/-- Some visits account for how far the compiler comes from an open conditional and a context. -/
def AccountsFor (visits : List Visit) (pending : Option OpenConditional) (context : Context) (progress : Progress) :
    Prop :=
  Accounts visits context.standing progress.context.standing (settle pending context).1 progress.emitted

/-- A conditional is closed at the line of the next child, and nothing is reported. -/
theorem settle_standing {pending : Option OpenConditional} {context before : Context} {line : Nat} {closed : Block}
    (closing : settle pending (context.atLine line) = (closed, before)) :
    before.standing = context.standing ∧ before.line = line := by
  cases pending <;> cases closing <;> exact ⟨rfl, rfl⟩

theorem emitted_closed (items : Block) (context : Context) : (Progress.mk items none context).emitted = items :=
  List.append_nil items

theorem emitted_open (items : Block) (conditional : OpenConditional) (context : Context) :
    (Progress.mk items (some conditional) context).emitted = items ++ [conditional.item] := rfl

theorem OpensLoop.allItems {header : Header} {context after : Context} {asked : List Activity} {notice : Notice}
    {loop : Block → Item} (opens : OpensLoop grammar header context after asked notice loop) (body : Block) :
    (loop body).allItems = loop body :: Block.allItems body := by
  cases opens <;> rfl

theorem OpensLoop.hasOther {header : Header} {context after : Context} {asked : List Activity} {notice : Notice}
    {loop : Block → Item} (opens : OpensLoop grammar header context after asked notice loop) (body : Block) :
    (loop body).hasOther = false := by
  cases opens <;> rfl

section

variable {node : Node} (children : ∀ pending context, AccountsFor (visitNodes grammar node.children pending context)
  pending context (compileNodes grammar node.children pending context).value)
include children

/-- Where the children of a section are accounted for, its block is. -/
theorem accounts_block {context after : Context} {body : Block} {activity : List Activity}
    (inside : compileBlock grammar node context = ⟨(body, after), activity⟩) :
    Accounts (visitNodes grammar node.children none context.enterBlock) context.standing after.standing [] body := by
  have accounts := children none context.enterBlock
  have value := congrArg Recorded.value inside
  rw [compileBlock, value_within] at value
  generalize (compileNodes grammar node.children none context.enterBlock).value = progress at accounts value
  obtain ⟨items, pending, last⟩ := progress
  cases pending <;> cases value <;> exact accounts

/-- Where the children of a child are accounted for, it is. -/
theorem accounts_node (pending : Option OpenConditional) (context : Context) :
    AccountsFor (visitNode grammar node pending context) pending context
      (compileNode grammar node pending context).value := by
  have becomes := compileNode_becomes grammar node pending context
  have yields : yieldOf grammar node pending context = .between _ _ := rfl
  generalize (compileNode grammar node pending context).value = progress at becomes yields
  rw [AccountsFor]
  -- The items in front are always those of the closed conditional, so closing it is not put down to the child.
  cases becomes with
  | statement source closing parsed =>
    rw [closed_of_atLine closing, emitted_closed] at yields ⊢
    rw [visitNode_source source, yields, Yield.between_concat, ← (settle_standing closing).1]
    exact (Accounts.refl _ []).item rfl rfl
  | dropped closing problem =>
    rw [closed_of_atLine closing, emitted_closed] at yields ⊢
    rw [visitNode_dropped (yields.trans (Yield.between_self _)), ← (settle_standing closing).1]
    exact .dropped (settle_standing closing).2 problem _
  | loop notElse closing opens inside =>
    rw [closed_of_atLine closing, emitted_closed] at yields ⊢
    rw [visitNode_section (yields.trans (Yield.between_concat _ _)) nofun (bodyContext_of_ne notElse closing),
      ← (settle_standing closing).1]
    exact (accounts_block children inside).item (opens.allItems _) (opens.hasOther _)
  | condition header closing reading inside =>
    rw [closed_of_atLine closing, emitted_open] at yields ⊢
    rw [visitNode_section (yields.trans (Yield.between_concat _ _)) nofun
      (bodyContext_of_ne (by rw [header]; nofun) closing), ← (settle_standing closing).1]
    exact (accounts_block children inside).item rfl rfl
  | other header conditional context inside =>
    rw [emitted_closed] at yields ⊢
    rw [visitNode_section (yields.trans (Yield.between_branch _ _)) nofun (bodyContext_of_eq header)]
    exact (accounts_block children inside).branch conditional

end

mutual

theorem compileNode_accounts (grammar : Grammar) : ∀ (node : Node) (pending : Option OpenConditional)
    (context : Context),
    AccountsFor (visitNode grammar node pending context) pending context
      (compileNode grammar node pending context).value
  | .line text line => @accounts_node grammar (.line text line) fun _ _ => Accounts.refl _ _
  | .entry key value line => @accounts_node grammar (.entry key value line) fun _ _ => Accounts.refl _ _
  | .section name children line =>
    @accounts_node grammar (.section name children line) (compileNodes_accounts grammar children)

theorem compileNodes_accounts (grammar : Grammar) : ∀ (nodes : List Node) (pending : Option OpenConditional)
    (context : Context),
    AccountsFor (visitNodes grammar nodes pending context) pending context
      (compileNodes grammar nodes pending context).value
  | [], pending, context => Accounts.refl _ _
  | node :: rest, pending, context => by
    have first := compileNode_accounts grammar node pending context
    have others := compileNodes_accounts grammar rest (compileNode grammar node pending context).value.pending
      (compileNode grammar node pending context).value.context
    -- What the first child has emitted stays in front; only the conditional that it leaves open may still change.
    have whole := first.trans (others.behindItems (compileNode grammar node pending context).value.items)
    rw [compileNodes_cons, visitNodes, AccountsFor, Progress.emitted, List.append_assoc]
    exact whole

end

theorem length_eq_countOf (visits : List Visit) :
    visits.length = countOf .item visits + countOf .branch visits + (droppedNodes visits).length := by
  induction visits with
  | nil => rfl
  | cons visit rest inductionHypothesis =>
    obtain ⟨node, yield⟩ := visit
    cases yield <;> simp [countOf, droppedNodes] at inductionHypothesis ⊢ <;> omega

/--
The compiler comes to the children of a section, and of each node that is not dropped to its children. What it
reports are errors, one for each dropped node, at the line of the node and in the order of the script. All other
nodes that it came to are items of the block, at some depth, or the other branch of one.
-/
theorem errors_match_dropped_nodes (grammar : Grammar) (node : Node) (context : Context) :
    let compiled := compileBlock grammar node context
    let visits := visitNodes grammar node.children none context.enterBlock
    let items := Block.allItems compiled.value.1
    ∃ errors, compiled.value.2.diagnostics = context.diagnostics ++ errors ∧
      List.Forall₂ (IsErrorAt context.file) (droppedNodes visits) errors ∧
      visits.length = items.length + items.countP Item.hasOther + errors.length := by
  intro compiled visits items
  have accounts : Accounts visits context.standing compiled.value.2.standing [] compiled.value.1 :=
    accounts_block (compileNodes_accounts grammar node.children) rfl
  obtain ⟨errors, reported, matched⟩ := accounts.reports
  refine ⟨errors, reported, matched, ?_⟩
  have itemCount : items.length = countOf .item visits := by simpa [Block.allItems] using accounts.items
  have branchCount : items.countP Item.hasOther = countOf .branch visits := by
    simpa [Block.allItems] using accounts.branches
  rw [length_eq_countOf, itemCount, branchCount, matched.length_eq]

/-- A refused loop, a branch with nothing to join, a line and a refused header, each dropped with all that is inside. -/
example : (droppedNodes (visitNodes (Rehearsal.grammar []) spoiled.children none
    ({} : Context).enterBlock)).map Node.lineNumber = [4, 6, 8, 9] := by
  decide +kernel

end Compile

end TriggerScript
