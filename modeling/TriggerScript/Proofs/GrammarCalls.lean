import TriggerScript.Proofs.FaultySections

/-!
# What the grammar is shown

Whenever a text of a script is put to the grammar, the grammar is shown the context. One context serves a whole
script: its line, its depth and its event are changed on the way into every node and back on the way out of it.
Still, what the grammar sees there is what the place of the node in the tree says: the line of the node, as many
blocks as sections are around it, and the event of the outermost one.
-/

namespace TriggerScript

/-- A text of a script that is put to the grammar, if the activity is that. -/
def Activity.grammarCall? : Activity → Option Consultation
  | .consulted (.event text context) => some (.event text context)
  | .consulted (.condition text context) => some (.condition text context)
  | .consulted (.expression text expected context) => some (.expression text expected context)
  | .consulted (.statement text context) => some (.statement text context)
  | _ => none

/-- The calls of the grammar among some activity. -/
def grammarCalls (activity : List Activity) : List Consultation := activity.filterMap Activity.grammarCall?

@[simp] theorem grammarCalls_append (first second : List Activity) :
    grammarCalls (first ++ second) = grammarCalls first ++ grammarCalls second := List.filterMap_append

theorem grammarCalls_of_tableWork {α : Type} {recorded : Recorded α} (work : recorded.TableWork) :
    grammarCalls recorded.activity = [] :=
  work.filterMap_eq_nil fun activity => by cases activity with
    | noted _ => exact fun _ => rfl
    | consulted consultation => cases consultation <;> simp [Activity.isTableWork, Activity.grammarCall?]

/-- What is around the children of a section that has this around it. -/
def Surroundings.nested (around : Surroundings) : Surroundings := { around with depth := around.depth + 1 }

theorem Context.surroundings_enterBlock (context : Context) :
    context.enterBlock.surroundings = context.surroundings.nested := rfl

namespace Compile

/-! ## The place of a call -/

/-- A way in which the grammar reads texts: how it is called, and what it understands. -/
structure Reading where
  ask : String → Context → Consultation
  Understands : String → Context → Prop

def statementReading (grammar : Grammar) : Reading :=
  ⟨.statement, fun text context => ∃ statement, grammar.parseStatement text context = .ok statement⟩

def conditionReading (grammar : Grammar) : Reading :=
  ⟨.condition, fun text context => ∃ condition, grammar.parseCondition text context = .ok condition⟩

def loopReading (grammar : Grammar) : Reading :=
  ⟨(.expression · loopable ·), fun text context =>
    ∃ iterable, grammar.parseExpression text loopable context = .ok iterable ∧ iterable.single = false⟩

/-- The text of a header and how it is read; another branch has nothing to read. -/
def Header.reading? (grammar : Grammar) : Header → Option (String × Reading)
  | .otherwise => none
  | .loop text => some (text, loopReading grammar)
  | .while text | .condition text => some (text, conditionReading grammar)

def Header.isCondition : Header → Bool
  | .condition _ => true
  | _ => false

/--
A text on a line is read, once its option references are replaced, in a context with the given surroundings, and is
understood or not. If one of the references is undefined, the grammar is not called.
-/
inductive Question (reading : Reading) (around : Surroundings) (line : Nat) (text : String) :
    (understood : Bool) → List Consultation → Prop where
  | undefined (name : String) (missing : Options.expand around.options (Options.pieces text.toList) = .error name) :
      Question reading around line text false []
  | refused (context : Context) (expanded : Options.expand around.options (Options.pieces text.toList) = .ok chars)
      (sees : context.surroundings = around) (onLine : context.line = line)
      (fails : ¬ reading.Understands (String.ofList chars) context) :
      Question reading around line text false [reading.ask (String.ofList chars) context]
  | understood (context : Context) (expanded : Options.expand around.options (Options.pieces text.toList) = .ok chars)
      (sees : context.surroundings = around) (onLine : context.line = line)
      (parses : reading.Understands (String.ofList chars) context) :
      Question reading around line text true [reading.ask (String.ofList chars) context]

/--
The calls that the children of a section give rise to, in their order. A section inside counts as one more around
its own children. Whether another branch is compiled depends on a conditional that may be open in front of it.
-/
inductive Inquiry (grammar : Grammar) :
    Surroundings → (conditional : Bool) → List Node → List Consultation → Prop where
  | done : Inquiry grammar around conditional [] []
  /-- A line or an entry. -/
  | statement (source : Node.source? node = some text)
      (question : Question (statementReading grammar) around (Node.lineNumber node) text understood asked)
      (later : Inquiry grammar around false rest calls) :
      Inquiry grammar around conditional (node :: rest) (asked ++ calls)
  /-- A section whose header is not understood; its children are left out. -/
  | closed (header : Header.reading? grammar (Header.of name) = some (text, reading))
      (question : Question reading around line text false asked)
      (later : Inquiry grammar around false rest calls) :
      Inquiry grammar around conditional (.section name children line :: rest) (asked ++ calls)
  | opened (header : Header.reading? grammar (Header.of name) = some (text, reading))
      (question : Question reading around line text true asked)
      (inside : Inquiry grammar around.nested false children innerCalls)
      (later : Inquiry grammar around (Header.of name).isCondition rest calls) :
      Inquiry grammar around conditional (.section name children line :: rest) (asked ++ innerCalls ++ calls)
  /-- The other branch of a conditional. -/
  | other (header : Header.of name = .otherwise) (inside : Inquiry grammar around.nested false children innerCalls)
      (later : Inquiry grammar around false rest calls) :
      Inquiry grammar around true (.section name children line :: rest) (innerCalls ++ calls)
  /-- Another branch with no conditional in front of it. -/
  | stray (header : Header.of name = .otherwise) (later : Inquiry grammar around false rest calls) :
      Inquiry grammar around false (.section name children line :: rest) calls

/-- The header of an event section is shown to the grammar with no event, outside of all blocks, on its own line. -/
structure HeaderShown (node : Node) (text : String) (context : Context) : Prop where
  noEvent : context.event = none
  noBlock : context.depth = 0
  onLine : context.line = node.lineNumber
  expanded : (Options.expand context.options (Options.pieces (eventText node).toList)).map String.ofList = .ok text

/-- The calls that a node of a script gives rise to. -/
inductive SectionCalls {σ : Type} (services : Services σ) (node : Node) : List Consultation → Prop where
  /-- Tables, and nodes that are at fault. -/
  | silent (bare : node.isCode = false) : SectionCalls services node []
  | undefined (isEvent : node.isOfKind .event = true) (options : Table String String) (name : String)
      (missing : Options.expand options (Options.pieces (eventText node).toList) = .error name) :
      SectionCalls services node []
  | refused (isEvent : node.isOfKind .event = true) (shown : HeaderShown node text context)
      (refuses : services.grammar.parseEvent text context = .error reason) :
      SectionCalls services node [.event text context]
  /-- The header is understood, and all calls for nodes inside see the event that it names. -/
  | compiled (isEvent : node.isOfKind .event = true) (shown : HeaderShown node text context)
      (understood : services.grammar.parseEvent text context = .ok (info, spec))
      (inside : Inquiry services.grammar
        ⟨context.file, some (.trigger spec info.eventTypes), context.options, context.aliases, 1⟩ false node.children
        calls) :
      SectionCalls services node (.event text context :: calls)
  /-- The compiler of commands is on its own, with the event of a command. -/
  | command (isCommand : node.isOfKind .command = true) (context : Context) (state : σ)
      (isEvent : context.event = some .command) (noBlock : context.depth = 0)
      (onLine : context.line = node.lineNumber) :
      SectionCalls services node (grammarCalls (services.commands.compile node context state).activity)

variable {σ : Type} {grammar : Grammar} {services : Services σ} {node : Node}

/-! ## Readings -/

theorem compileStatement_question {text : String} {context after : Context} {item : Option Item}
    {asked : List Activity} (course : compileStatement grammar text context = ⟨(item, after), asked⟩) :
    Question (statementReading grammar) context.surroundings context.line text item.isSome (grammarCalls asked) := by
  unfold compileStatement Options.substitute Grammar.readStatement at course
  cases expanded : Options.expand context.options (Options.pieces text.toList) with
  | error name =>
    rw [expanded] at course
    cases course
    exact .undefined name expanded
  | ok chars =>
    simp only [expanded, pure_bind, bind_assoc] at course
    cases parsed : grammar.parseStatement (String.ofList chars) context with
    | error reason =>
      rw [parsed] at course
      cases course
      exact .refused context expanded rfl rfl (by simp [statementReading, parsed])
    | ok statement =>
      rw [parsed] at course
      cases course
      exact .understood context expanded rfl rfl ⟨statement, parsed⟩

theorem readLoop_question {text : String} {context after : Context} {iterable : Option Expression}
    {asked : List Activity} (course : readLoop grammar text context = ⟨(iterable, after), asked⟩) :
    Question (loopReading grammar) context.surroundings context.line text iterable.isSome (grammarCalls asked) := by
  unfold readLoop Options.substitute Grammar.readExpression at course
  cases expanded : Options.expand context.options (Options.pieces text.toList) with
  | error name =>
    rw [expanded] at course
    cases course
    exact .undefined name expanded
  | ok chars =>
    simp only [expanded, pure_bind, bind_assoc] at course
    cases parsed : grammar.parseExpression (String.ofList chars) loopable context with
    | error reason =>
      rw [parsed] at course
      cases course
      exact .refused context expanded rfl rfl (by simp [loopReading, parsed])
    | ok found =>
      cases single : found.single with
      | true =>
        simp only [parsed, single] at course
        cases course
        exact .refused context expanded rfl rfl (by simp [loopReading, parsed, single])
      | false =>
        simp only [parsed, single] at course
        cases course
        exact .understood context expanded rfl rfl ⟨found, parsed, single⟩

theorem readCondition_question {text : String} {context after : Context} {condition : Option Condition}
    {asked : List Activity} (course : readCondition grammar text context = ⟨(condition, after), asked⟩) :
    Question (conditionReading grammar) context.surroundings context.line text condition.isSome
      (grammarCalls asked) := by
  unfold readCondition Options.substitute Grammar.readCondition at course
  cases expanded : Options.expand context.options (Options.pieces text.toList) with
  | error name =>
    rw [expanded] at course
    cases course
    exact .undefined name expanded
  | ok chars =>
    simp only [expanded, pure_bind, bind_assoc] at course
    cases parsed : grammar.parseCondition (String.ofList chars) context with
    | error reason =>
      rw [parsed] at course
      cases course
      exact .refused context expanded rfl rfl (by simp [conditionReading, parsed])
    | ok found =>
      rw [parsed] at course
      cases course
      exact .understood context expanded rfl rfl ⟨found, parsed⟩

/-! ## Blocks -/

theorem Refused.question {header : Header} {context after : Context} {asked : List Activity}
    (refused : Refused grammar header context after asked) :
    ∃ text reading, header.reading? grammar = some (text, reading) ∧
      Question reading context.surroundings context.line text false (grammarCalls asked) := by
  cases refused with
  | loop course => exact ⟨_, _, rfl, readLoop_question course⟩
  | «while» course | condition course => exact ⟨_, _, rfl, readCondition_question course⟩

theorem OpensLoop.question {header : Header} {context after : Context} {asked : List Activity}
    {notice : Notice} {loop : Block → Item} (opens : OpensLoop grammar header context after asked notice loop) :
    ∃ text reading, header.reading? grammar = some (text, reading) ∧ header.isCondition = false ∧
      Question reading context.surroundings context.line text true (grammarCalls asked) := by
  cases opens with
  | loop course => exact ⟨_, _, rfl, rfl, readLoop_question course⟩
  | «while» course => exact ⟨_, _, rfl, rfl, readCondition_question course⟩

/-- A conditional is closed without a change to the line or the surroundings. -/
theorem settle_place {pending : Option OpenConditional} {context before : Context} {line : Nat} {closed : Block}
    (closing : settle pending (context.atLine line) = (closed, before)) :
    before.surroundings = context.surroundings ∧ before.line = line := by
  cases pending <;> cases closing <;> exact ⟨rfl, rfl⟩

/-- Along a walk every call sees the place of its node. -/
theorem Walk.inquiry {nodes : List Node} {pending last : Option OpenConditional} {context final : Context}
    {items : Block} {activity : List Activity} (walk : Walk grammar nodes pending context items last final activity) :
    Inquiry grammar context.surroundings pending.isSome nodes (grammarCalls activity) := by
  -- The surroundings are the invariant: behind each node they are those in front of it.
  induction walk with
  | done => exact .done
  | statement source closing course _ later =>
    obtain ⟨sameAround, onLine⟩ := settle_place closing
    have question := compileStatement_question course
    rw [compileStatement_surroundings course, sameAround] at later
    rw [sameAround, onLine] at question
    rw [grammarCalls_append]
    exact .statement source question later
  | refused closing refused _ later =>
    obtain ⟨sameAround, onLine⟩ := settle_place closing
    obtain ⟨text, reading, header, question⟩ := refused.question
    rw [refused.surroundings_eq, sameAround] at later
    rw [sameAround, onLine] at question
    rw [grammarCalls_append]
    exact .closed header question later
  | loop closing opens walk innerClosing _ inside later =>
    obtain ⟨sameAround, onLine⟩ := settle_place closing
    obtain ⟨text, reading, header, noCondition, question⟩ := opens.question
    have left := Context.surroundings_leaveBlock ((settle_surroundings innerClosing).trans walk.surroundings_eq)
    have around := opens.surroundings_eq.trans sameAround
    rw [sameAround, onLine] at question
    rw [Context.surroundings_enterBlock, around] at inside
    rw [grammarCalls_append, grammarCalls_append]
    refine .opened header question inside ?_
    rw [noCondition, ← left.trans around]
    exact later
  | condition isCondition closing course walk innerClosing _ inside later =>
    obtain ⟨sameAround, onLine⟩ := settle_place closing
    have question := readCondition_question course
    have left := Context.surroundings_leaveBlock ((settle_surroundings innerClosing).trans walk.surroundings_eq)
    have around := (readCondition_surroundings course).trans sameAround
    rw [sameAround, onLine] at question
    rw [Context.surroundings_enterBlock, around] at inside
    rw [grammarCalls_append, grammarCalls_append]
    refine .opened (by rw [isCondition]; rfl) question inside ?_
    rw [isCondition, ← left.trans around]
    exact later
  | other conditional context header walk innerClosing _ inside later =>
    have left := Context.surroundings_leaveBlock ((settle_surroundings innerClosing).trans walk.surroundings_eq)
    rw [grammarCalls_append]
    exact .other header inside (left ▸ later)
  | stray header reading _ later =>
    cases reading
    exact .stray header later

theorem compileBlock_inquiry (grammar : Grammar) (node : Node) (context : Context) :
    Inquiry grammar context.surroundings.nested false node.children
      (grammarCalls (compileBlock grammar node context).activity) := by
  rw [compileBlock, activity_within]
  exact (compileNodes_walk grammar node.children none context.enterBlock).inquiry

/-! ## Sections -/

theorem compileEvent_calls (isEvent : node.isOfKind .event = true) {context : Context} {delay : Delay}
    (between : context.posture = .between delay) (onLine : context.line = node.lineNumber) :
    SectionCalls services node (grammarCalls (compileEvent services.grammar node context).activity) := by
  obtain ⟨noEvent, noBlock, -⟩ := Posture.mk.inj between
  rw [compileEvent_eq]
  cases expanded : Options.expand context.options (Options.pieces (eventText node).toList) with
  | error name => exact .undefined isEvent context.options name expanded
  | ok chars =>
    have shown : HeaderShown node (String.ofList chars) context := ⟨noEvent, noBlock, onLine, by rw [expanded]; rfl⟩
    dsimp only
    cases parsed : services.grammar.parseEvent (String.ofList chars) context with
    | error reason => exact .refused isEvent shown parsed
    | ok understood =>
      let body := (context.withEvent (some (.trigger understood.2 understood.1.eventTypes))).withDelay .no
      have inside : Inquiry services.grammar
          ⟨context.file, some (.trigger understood.2 understood.1.eventTypes), context.options, context.aliases,
            context.depth + 1⟩
          false node.children (grammarCalls (compileBlock services.grammar node body).activity) :=
        compileBlock_inquiry services.grammar node body
      rw [noBlock] at inside
      exact .compiled isEvent shown parsed inside

/-- Around the compiler of commands the grammar is not called. -/
theorem grammarCalls_compileCommand (commands : Commands σ) (node : Node) (session : Session σ) :
    grammarCalls (compileCommand commands node session).activity =
      grammarCalls (commands.compile node (session.context.withEvent (some .command)) session.state).activity := by
  unfold compileCommand Commands.compileSection
  simp only [Recorded.activity_bind, Recorded.value_bind, grammarCalls_append]
  generalize commands.compile node _ session.state = result
  obtain ⟨⟨reason | command, after, state⟩, activity⟩ := result <;> exact List.append_nil _

theorem compileSection_calls (isSection : node.isSection = true) {session : Session σ} {delay : Delay}
    (between : session.context.posture = .between delay) (onLine : session.context.line = node.lineNumber) :
    SectionCalls services node (grammarCalls (compileSection services node session).activity) := by
  unfold compileSection
  cases kind : SectionKind.of (Text.trim node.name) <;>
    simp only [Recorded.activity_bind, Recorded.activity_pure, List.append_nil]
  case aliases =>
    rw [grammarCalls_of_tableWork (compileAliases_tableWork ..)]
    exact .silent (by simp [Node.isCode, Node.isOfKind, kind])
  case options =>
    rw [grammarCalls_of_tableWork (compileOptions_tableWork ..)]
    exact .silent (by simp [Node.isCode, Node.isOfKind, kind])
  case defaults =>
    rw [grammarCalls_of_tableWork (compileVariables_tableWork ..)]
    exact .silent (by simp [Node.isCode, Node.isOfKind, kind])
  case unbalanced => exact .silent (by simp [Node.isCode, Node.isOfKind, kind])
  case command =>
    rw [grammarCalls_compileCommand]
    exact .command (by simp [Node.isOfKind, isSection, kind]) _ _ rfl (congrArg Posture.depth between) onLine
  case event => exact compileEvent_calls (by simp [Node.isOfKind, isSection, kind]) between onLine

theorem compileTopLevel_calls (node : Node) {session : Session σ} {delay : Delay}
    (between : session.context.posture = .between delay) :
    SectionCalls services node (grammarCalls (compileTopLevel services node session).activity) := by
  unfold compileTopLevel
  dsimp only
  split
  case isTrue isSection => exact compileSection_calls isSection between rfl
  case isFalse loose => exact .silent (by simp [Node.isCode, Node.isOfKind, loose])

theorem compileAll_calls (leaves : services.commands.LeavesBlocks) (nodes : List Node) {session : Session σ}
    {delay : Delay} (between : session.context.posture = .between delay) :
    ∃ parts, grammarCalls (compileAll services nodes session).activity = parts.flatten ∧
      List.Forall₂ (SectionCalls services) nodes parts := by
  induction nodes generalizing session delay with
  | nil => exact ⟨[], rfl, .nil⟩
  | cons node rest inductionHypothesis =>
    have passes := compileTopLevel_passes leaves node between
    obtain ⟨parts, calls, sections⟩ := inductionHypothesis passes.posture
    refine ⟨_ :: parts, ?_, .cons (compileTopLevel_calls node between) sections⟩
    simp only [compileAll, Recorded.activity_bind, Recorded.activity_pure, List.append_nil, grammarCalls_append, calls,
      List.flatten_cons]

/--
A file is compiled. The calls of the grammar are those for its nodes, in their order. The header of an event section
is read with no event, outside of all blocks and on the section's line. All calls for nodes inside see the event that
was read there, the line of the node, and as many blocks as there are sections around it. In the end there is neither
an event nor a block, whatever was at fault.
-/
theorem grammar_calls_see_their_place (services : Services σ) (leaves : services.commands.LeavesBlocks) (file : Path)
    (root : Node) (values : Variables) (state : σ) :
    let compiled := compileFile services file root values state
    (∃ parts, grammarCalls compiled.activity = parts.flatten ∧
      List.Forall₂ (SectionCalls services) root.children parts) ∧
      compiled.value.2.context.event = none ∧ compiled.value.2.context.depth = 0 := by
  let start : Session σ := ⟨.ofFile (some file), values, state⟩
  have between : start.context.posture = .between .no := rfl
  obtain ⟨parts, calls, sections⟩ := compileAll_calls leaves root.children between
  obtain ⟨noEvent, noBlock, -⟩ := Posture.mk.inj (compileAll_between leaves root.children between).1
  have whole : grammarCalls (compileFile services file root values state).activity =
      grammarCalls (compileAll services root.children start).activity := by
    simp only [compileFile, compileScript, Recorded.activity_bind, grammarCalls_append]
    exact List.append_nil _
  exact ⟨⟨parts, whole.trans calls, sections⟩, noEvent, noBlock⟩

end Compile

namespace Rehearsal

open Compile

/-- Blocks within blocks, another branch, a command, and a header, a line and an event that are refused. -/
def nestedScript : Node :=
  .section "" [
    .section "options" [.line "who: all players" 2] 1,
    .section "on join" [
      .section "if x" [.section "loop \x7b@who\x7d" [.line "delay 1" 6] 5, .line "bad" 7] 4,
      .section "else" [.line "b" 9] 8,
      .section "while bad" [.line "c" 11] 10,
      .line "send \x7b@missing\x7d" 12,
      .line "d" 13] 3,
    .section "command /body one" [.line "e" 15] 14,
    .section "on why" [.line "f" 17] 16,
    .section "on quit" [.line "g" 19] 18] 0

theorem nested_calls_see_their_place :
    let compiled := compileFile sceneServices scenePath nestedScript {} {}
    (grammarCalls compiled.activity).length = 12 ∧ compiled.value.2.context.diagnostics.length = 4 ∧
      sceneServices.commands.LeavesBlocks ∧
      (∃ parts, grammarCalls compiled.activity = parts.flatten ∧
        List.Forall₂ (SectionCalls sceneServices) nestedScript.children parts) ∧
      compiled.value.2.context.event = none ∧ compiled.value.2.context.depth = 0 :=
  have leaves := (commands_keepsSurroundings (grammar []) []).leavesBlocks
  ⟨by decide +kernel, by decide +kernel, leaves,
    grammar_calls_see_their_place sceneServices leaves scenePath nestedScript {} {}⟩

end Rehearsal

end TriggerScript
