import Mathlib.Data.List.Forall2
import TriggerScript.Proofs.DefaultVariables
import TriggerScript.Proofs.RehearsalServices

/-!
# Scripts without errors

A child that cannot be compiled is left out, but never in silence: it is reported as an error. So where
a compilation ends without errors, nothing was left out. `Mirrors` relates the children of a section to
the block that holds all of them, and `Lossless` the sections of a script to its unit.
-/

namespace TriggerScript

theorem Context.errorCount_fail (context : Context) (problem : Problem) :
    (context.fail problem).value.errorCount = context.errorCount + 1 := by
  simp [Context.errorCount, Context.fail, Context.report, Context.addDiagnostic, Context.diagnosticOf,
    TriggerScript.errorCount, List.countP_append, Diagnostic.isError]

namespace Compile

variable {σ : Type} {grammar : Grammar}

/-! ## Readings -/

/-- A text is understood by a parser in some context, once its option references are replaced. -/
def Understood {α : Type} (parse : String → Context → Except String α) (text : String) (value : α) : Prop :=
  ∃ (context : Context) (expanded : List Char),
    Options.expand context.options (Options.pieces text.toList) = .ok expanded ∧
      parse (String.ofList expanded) context = .ok value

theorem compileStatement_understood {text : String} {context after : Context} {item : Item}
    {asked : List Activity} (reading : compileStatement grammar text context = ⟨(some item, after), asked⟩) :
    ∃ statement, item = .statement statement ∧ Understood grammar.parseStatement text statement := by
  unfold compileStatement Options.substitute Grammar.readStatement at reading
  cases expansion : Options.expand context.options (Options.pieces text.toList) with
  | error name => simp [expansion, Recorded.ext_iff] at reading
  | ok expanded =>
    cases parsed : grammar.parseStatement (String.ofList expanded) context with
    | error reason => simp [expansion, parsed, Recorded.ext_iff] at reading
    | ok statement =>
      simp only [expansion, parsed, Recorded.ext_iff, Recorded.value_bind, Recorded.value_pure,
        Prod.mk.injEq, Option.some.injEq] at reading
      exact ⟨statement, reading.1.1.symm, context, expanded, expansion, parsed⟩

theorem readCondition_understood {text : String} {context after : Context} {condition : Condition}
    {asked : List Activity} (reading : readCondition grammar text context = ⟨(some condition, after), asked⟩) :
    Understood grammar.parseCondition text condition := by
  unfold readCondition Options.substitute Grammar.readCondition at reading
  cases expansion : Options.expand context.options (Options.pieces text.toList) with
  | error name => simp [expansion, Recorded.ext_iff] at reading
  | ok expanded =>
    cases parsed : grammar.parseCondition (String.ofList expanded) context with
    | error reason => simp [expansion, parsed, Recorded.ext_iff] at reading
    | ok found =>
      simp only [expansion, parsed, Recorded.ext_iff, Recorded.value_bind, Recorded.value_pure,
        Prod.mk.injEq, Option.some.injEq] at reading
      exact ⟨context, expanded, expansion, reading.1.1 ▸ parsed⟩

theorem readLoop_understood {text : String} {context after : Context} {iterable : Expression}
    {asked : List Activity} (reading : readLoop grammar text context = ⟨(some iterable, after), asked⟩) :
    Understood (grammar.parseExpression · loopable) text iterable := by
  unfold readLoop Options.substitute Grammar.readExpression at reading
  cases expansion : Options.expand context.options (Options.pieces text.toList) with
  | error name => simp [expansion, Recorded.ext_iff] at reading
  | ok expanded =>
    cases parsed : grammar.parseExpression (String.ofList expanded) loopable context with
    | error reason => simp [expansion, parsed, Recorded.ext_iff] at reading
    | ok found =>
      cases single : found.single with
      | true => simp [expansion, parsed, single, Recorded.ext_iff] at reading
      | false =>
        simp only [expansion, parsed, single, Recorded.ext_iff, Recorded.value_bind, Recorded.value_pure,
          Prod.mk.injEq, Option.some.injEq, Bool.false_eq_true, if_false] at reading
        exact ⟨context, expanded, expansion, reading.1.1 ▸ parsed⟩

/-- A text that is not understood leaves an error behind. -/
theorem Reads.errorCount_ne_zero {α : Type} {asks : String → Consultation} {parses : String → α → Prop}
    {context after : Context} {asked : List Activity} (reads : Reads asks parses context none after asked) :
    after.errorCount ≠ 0 := by
  cases reads <;> simp [Context.errorCount_fail]

theorem readLoop_errorCount_ne_zero {text : String} {context after : Context} {asked : List Activity}
    (reading : readLoop grammar text context = ⟨(none, after), asked⟩) : after.errorCount ≠ 0 := by
  have reads := readLoop_reads grammar text context
  rw [reading] at reads
  exact reads.errorCount_ne_zero

theorem readCondition_errorCount_ne_zero {text : String} {context after : Context} {asked : List Activity}
    (reading : readCondition grammar text context = ⟨(none, after), asked⟩) : after.errorCount ≠ 0 := by
  have reads := readCondition_reads grammar text context
  rw [reading] at reads
  exact reads.errorCount_ne_zero

theorem Refused.errorCount_ne_zero {header : Header} {context after : Context} {asked : List Activity}
    (refused : Refused grammar header context after asked) : after.errorCount ≠ 0 := by
  cases refused with
  | loop reading => exact readLoop_errorCount_ne_zero reading
  | «while» reading | condition reading => exact readCondition_errorCount_ne_zero reading

/-- Without an error there is an item, and it is the statement of the text. -/
theorem compileStatement_of_clean {text : String} {context after : Context} {item : Option Item}
    {asked : List Activity} (reading : compileStatement grammar text context = ⟨(item, after), asked⟩)
    (clean : after.errorCount = 0) :
    ∃ statement, item = some (.statement statement) ∧ Understood grammar.parseStatement text statement := by
  cases item with
  | none =>
    have reads := compileStatement_reads grammar text context
    rw [reading] at reads
    cases reads with
    | missing reads => exact absurd clean reads.errorCount_ne_zero
  | some item =>
    obtain ⟨statement, rfl, understood⟩ := compileStatement_understood reading
    exact ⟨statement, rfl, understood⟩

/-! ## Blocks -/

/-- The next sibling is another branch. -/
def BranchFollows : List Node → Prop
  | .section name _ _ :: _ => Header.of name = .otherwise
  | _ => False

/--
A block holds the children of a section: each of them is one item, in order and at every depth, and
only another branch is part of the conditional before it.
-/
inductive Mirrors (grammar : Grammar) : List Node → Block → Prop where
  | done : Mirrors grammar [] []
  | statement (source : node.source? = some text)
      (understood : Understood grammar.parseStatement text statement)
      (later : Mirrors grammar rest block) :
      Mirrors grammar (node :: rest) (.statement statement :: block)
  | loop (header : Header.of name = .loop text)
      (understood : Understood (grammar.parseExpression · loopable) text iterable)
      (inside : Mirrors grammar children body) (later : Mirrors grammar rest block) :
      Mirrors grammar (.section name children line :: rest) (.loop iterable body :: block)
  | while (header : Header.of name = .while text)
      (understood : Understood grammar.parseCondition text condition)
      (inside : Mirrors grammar children body) (later : Mirrors grammar rest block) :
      Mirrors grammar (.section name children line :: rest) (.while condition body :: block)
  | conditional (header : Header.of name = .condition text)
      (understood : Understood grammar.parseCondition text condition)
      (inside : Mirrors grammar children body) (alone : ¬ BranchFollows rest)
      (later : Mirrors grammar rest block) :
      Mirrors grammar (.section name children line :: rest) (.conditional condition body :: block)
  | choice (header : Header.of name = .condition text)
      (understood : Understood grammar.parseCondition text condition)
      (inside : Mirrors grammar children body) (otherHeader : Header.of otherName = .otherwise)
      (otherInside : Mirrors grammar otherChildren other) (later : Mirrors grammar rest block) :
      Mirrors grammar (.section name children line :: .section otherName otherChildren otherLine :: rest)
        (.choice condition body other :: block)

/--
A block holds some children together with the conditional that is open in front of them, whatever
section that conditional came from.
-/
def MirrorsAfter (grammar : Grammar) : Option OpenConditional → List Node → Block → Prop
  | none, nodes, block => Mirrors grammar nodes block
  | some conditional, nodes, block => ∀ name children line text, Header.of name = .condition text →
      Understood grammar.parseCondition text conditional.condition → Mirrors grammar children conditional.body →
      Mirrors grammar (.section name children line :: nodes) block

/-- An open conditional is closed where no other branch follows. -/
theorem MirrorsAfter.settled {pending : Option OpenConditional} {context after : Context} {closed block : Block}
    {nodes : List Node} (closing : settle pending context = (closed, after)) (alone : ¬ BranchFollows nodes)
    (mirrors : Mirrors grammar nodes block) : MirrorsAfter grammar pending nodes (closed ++ block) := by
  cases pending <;> cases closing
  case none => exact mirrors
  case some conditional =>
    intro name children line text header understood inside
    exact .conditional header understood inside alone mirrors

theorem not_branchFollows_source {node : Node} {text : String} (source : node.source? = some text)
    (rest : List Node) : ¬ BranchFollows (node :: rest) := by
  cases node with
  | line _ _ | entry _ _ _ => exact id
  | «section» _ _ _ => cases source

theorem OpensLoop.alone {name : String} {context after : Context} {asked : List Activity} {notice : Notice}
    {loop : Block → Item} (opens : OpensLoop grammar (Header.of name) context after asked notice loop) :
    Header.of name ≠ .otherwise := by
  intro other
  rw [other] at opens
  cases opens

theorem OpensLoop.mirrors {name : String} {context after : Context} {asked : List Activity} {notice : Notice}
    {loop : Block → Item} {children rest : List Node} {body block : Block} {line : Nat}
    (opens : OpensLoop grammar (Header.of name) context after asked notice loop)
    (inside : Mirrors grammar children body) (later : Mirrors grammar rest block) :
    Mirrors grammar (.section name children line :: rest) (loop body :: block) := by
  generalize header : Header.of name = kind at opens
  cases opens with
  | loop reading => exact .loop header (readLoop_understood reading) inside later
  | «while» reading => exact .while header (readCondition_understood reading) inside later

/-- A walk that ends without an error leaves no child out, and adds nothing. -/
theorem Walk.mirrors {nodes : List Node} {pending last : Option OpenConditional}
    {context final : Context} {items : Block} {activity : List Activity}
    (walk : Walk grammar nodes pending context items last final activity) (clean : final.errorCount = 0) :
    MirrorsAfter grammar pending nodes (items ++ (settle last final).1) := by
  -- A conditional that is open is part of the invariant, since its item depends on the next child.
  induction walk with
  | done =>
    rw [← List.append_nil ([] ++ _)]
    exact MirrorsAfter.settled rfl id .done
  | statement source closing reading laterWalk later =>
    obtain ⟨statement, rfl, understood⟩ := compileStatement_of_clean reading (laterWalk.advances.clean clean)
    rw [List.append_assoc, List.append_assoc]
    exact .settled closing (not_branchFollows_source source _) (.statement source understood (later clean))
  | refused closing reading laterWalk =>
    -- The refusal was reported, and no report is ever withdrawn.
    exact absurd (laterWalk.advances.clean clean) reading.errorCount_ne_zero
  | loop closing reading _ innerClosing laterWalk inside later =>
    have innerClean := (settle_advances innerClosing).clean (laterWalk.advances.clean clean)
    have mirrored := inside innerClean
    rw [innerClosing] at mirrored
    rw [List.append_assoc, List.append_assoc]
    exact .settled closing reading.alone (reading.mirrors mirrored (later clean))
  | condition header closing reading _ innerClosing laterWalk inside later =>
    have innerClean := (settle_advances innerClosing).clean (laterWalk.advances.clean clean)
    have mirrored := inside innerClean
    rw [innerClosing] at mirrored
    rw [List.append_assoc]
    -- The conditional is open now; the children after it say which item it becomes.
    refine .settled closing (by simp [BranchFollows, header]) ?_
    exact later clean _ _ _ _ header (readCondition_understood reading) mirrored
  | other conditional context otherHeader _ innerClosing laterWalk inside later =>
    have innerClean := (settle_advances innerClosing).clean (laterWalk.advances.clean clean)
    have mirrored := inside innerClean
    rw [innerClosing] at mirrored
    intro name children line text header understood opened
    exact .choice header understood opened otherHeader mirrored (later clean)
  | stray _ reading laterWalk =>
    have counted := congrArg (·.value.errorCount) reading
    rw [Context.errorCount_fail] at counted
    exact absurd (counted.trans (laterWalk.advances.clean clean)) (Nat.succ_ne_zero _)

theorem compileBlock_mirrors {node : Node} {context : Context}
    (clean : (compileBlock grammar node context).value.2.errorCount = 0) :
    Mirrors grammar node.children (compileBlock grammar node context).value.1 := by
  have walked := compileNodes_walk grammar node.children none context.enterBlock
  rw [compileBlock, value_within] at clean ⊢
  generalize (compileNodes grammar node.children none context.enterBlock).value = progress at *
  exact walked.mirrors ((settle_advances rfl).clean clean)

end Compile

/-! ## Sections -/

/-- The file stays, and no error is withdrawn. -/
structure Upholds (before after : Standing) : Prop where
  file : after.file = before.file
  errors : errorCount before.diagnostics ≤ errorCount after.diagnostics

namespace Upholds

variable {before between after : Standing}

theorem refl (standing : Standing) : Upholds standing standing := ⟨rfl, Nat.le_refl _⟩

theorem trans (first : Upholds before between) (second : Upholds between after) : Upholds before after :=
  ⟨second.file.trans first.file, Nat.le_trans first.errors second.errors⟩

end Upholds

theorem Advances.upholds {before after : Standing} (advances : Advances before after) : Upholds before after :=
  ⟨advances.file, advances.kept.sublist.countP_le⟩

/-- The compiler of commands stays with its file and withdraws no error. -/
def Commands.Upholds {σ : Type} (commands : Commands σ) : Prop :=
  ∀ node context state,
    TriggerScript.Upholds (Context.standing context) (commands.compile node context state).value.2.1.standing

theorem Commands.Advances.upholds {σ : Type} {commands : Commands σ} (proper : commands.Advances) :
    commands.Upholds :=
  fun node context state => (proper node context state).upholds

/-- The node is a top-level section of some kind. -/
def Node.isOfKind (kind : Compile.SectionKind) (node : Node) : Bool :=
  node.isSection && decide (Compile.SectionKind.of (Text.trim node.name) = kind)

namespace Compile

variable {σ : Type} {services : Services σ}

theorem compileCommand_upholds {commands : Commands σ} (proper : commands.Upholds) (node : Node)
    (session : Session σ) :
    Upholds session.context.standing (compileCommand commands node session).value.2.context.standing := by
  have compiled := proper node (session.context.withEvent (some .command)) session.state
  unfold compileCommand Commands.compileSection
  dsimp only [Recorded.value_bind]
  generalize commands.compile node _ session.state = result at compiled ⊢
  obtain ⟨⟨reason | command, after, state⟩, activity⟩ := result
  · exact compiled.trans (((after.withEvent none).atLine node.lineNumber).fail_advances _).upholds
  · exact compiled

theorem compileSection_upholds (proper : services.commands.Upholds) (node : Node) (session : Session σ) :
    Upholds session.context.standing (compileSection services node session).value.2.context.standing := by
  unfold compileSection
  cases SectionKind.of (Text.trim node.name) <;>
    simp only [Recorded.value_bind, Recorded.value_pure, Session.withContext]
  case aliases => exact (compileAliases_advances services.classes node.children session.context).upholds
  case options => exact (compileOptions_advances node.children session.context).upholds
  case defaults =>
    exact (compileVariables_advances services.classes node.children session.context session.values).upholds
  case unbalanced => exact (session.context.fail_advances _).upholds
  case command => exact compileCommand_upholds proper node session
  case event => exact (compileEvent_advances services.grammar node session.context).upholds

theorem compileTopLevel_upholds (proper : services.commands.Upholds) (node : Node) (session : Session σ) :
    Upholds session.context.standing (compileTopLevel services node session).value.2.context.standing := by
  unfold compileTopLevel
  dsimp only
  split
  · exact compileSection_upholds proper node (session.withContext (session.context.atLine node.lineNumber))
  · exact ((session.context.atLine node.lineNumber).fail_advances _).upholds

theorem compileAll_upholds (proper : services.commands.Upholds) (nodes : List Node) (session : Session σ) :
    Upholds session.context.standing (compileAll services nodes session).value.2.context.standing := by
  induction nodes generalizing session with
  | nil => exact .refl _
  | cons node rest inductionHypothesis =>
    exact (compileTopLevel_upholds proper node session).trans (inductionHypothesis _)

/-! ## Units -/

/-- A trigger is all of an event section. -/
structure IsTriggerOf (grammar : Grammar) (file : Path) (node : Node) (trigger : Trigger) : Prop where
  file : trigger.file = some file
  name : trigger.name = Text.trim node.name
  event : ∃ info, Understood grammar.parseEvent
    ((Text.afterKeyword? "on " (Text.trim node.name)).getD (Text.trim node.name)) (info, trigger.event)
  body : Mirrors grammar node.children trigger.body

/-- A command is what the compiler of commands made of a section; it has a file in any case. -/
structure IsCommandOf (commands : Commands σ) (file : Path) (node : Node) (command : Command) : Prop where
  compiled : ∃ context state answer, (commands.compile node context state).value.1 = .ok answer ∧
    command = { answer with file := answer.file <|> some file }
  file : command.file.isSome = true

/-- Every top-level node is a section, and a unit holds all those with code in their order. -/
structure Lossless (services : Services σ) (file : Path) (nodes : List Node) (unit : CompiledUnit) : Prop where
  sections : ∀ node ∈ nodes, node.isSection = true ∧ node.isOfKind .unbalanced = false
  triggers : List.Forall₂ (IsTriggerOf services.grammar file) (nodes.filter (Node.isOfKind .event)) unit.triggers
  commands : List.Forall₂ (IsCommandOf services.commands file) (nodes.filter (Node.isOfKind .command)) unit.commands

theorem Lossless.append {file : Path} {first second : List Node} {unit later : CompiledUnit}
    (lossless : Lossless services file first unit) (rest : Lossless services file second later) :
    Lossless services file (first ++ second) (unit ++ later) where
  sections node member := (List.mem_append.mp member).elim (lossless.sections node) (rest.sections node)
  triggers := by
    rw [List.filter_append]
    exact List.rel_append lossless.triggers rest.triggers
  commands := by
    rw [List.filter_append]
    exact List.rel_append lossless.commands rest.commands

/-- A section without code adds nothing to a unit. -/
theorem Lossless.table {file : Path} {node : Node} {kind : SectionKind} (isSection : node.isSection = true)
    (of : SectionKind.of (Text.trim node.name) = kind) (table : kind = .aliases ∨ kind = .options ∨ kind = .defaults) :
    Lossless services file [node] {} := by
  rcases table with rfl | rfl | rfl <;>
    constructor <;> simp [Node.isOfKind, isSection, of]

theorem compileEvent_lossless {grammar : Grammar} {file : Path} {node : Node} {context : Context}
    (of : context.file = some file) (clean : (compileEvent grammar node context).value.2.errorCount = 0) :
    ∃ trigger, (compileEvent grammar node context).value.1 = some trigger ∧
      IsTriggerOf grammar file node trigger := by
  unfold compileEvent Options.substitute Grammar.readEvent at clean ⊢
  dsimp only at clean ⊢
  generalize inside : (Text.afterKeyword? "on " (Text.trim node.name)).getD (Text.trim node.name) = header at *
  cases expansion : Options.expand context.options (Options.pieces header.toList) with
  | error name => simp [expansion, Context.errorCount_fail] at clean
  | ok expanded =>
    cases parsed : grammar.parseEvent (String.ofList expanded) context with
    | error reason => simp [expansion, parsed, Context.errorCount_fail] at clean
    | ok understood =>
      simp only [expansion, parsed, Recorded.value_bind, Recorded.value_pure] at clean ⊢
      have block := compileBlock_advances grammar node
        ((context.withEvent (some (.trigger understood.2 understood.1.eventTypes))).withDelay .no)
      exact ⟨_, rfl, block.file.trans of, rfl, ⟨_, context, expanded, inside ▸ expansion, parsed⟩,
        compileBlock_mirrors clean⟩

theorem compileCommand_lossless {commands : Commands σ} (proper : commands.Upholds) {file : Path} {node : Node}
    {session : Session σ} (of : session.context.file = some file)
    (clean : (compileCommand commands node session).value.2.context.errorCount = 0) :
    ∃ command, (compileCommand commands node session).value.1 = some command ∧
      IsCommandOf commands file node command := by
  have kept := (proper node (session.context.withEvent (some .command)) session.state).file.trans of
  unfold compileCommand Commands.compileSection at clean ⊢
  dsimp only [Recorded.value_bind] at clean ⊢
  generalize answered : commands.compile node (session.context.withEvent (some .command)) session.state = result
    at kept clean ⊢
  obtain ⟨⟨reason | command, after, state⟩, activity⟩ := result
  · simp [Context.errorCount_fail] at clean
  · have fileEq : (after.withEvent none).file = some file := kept
    have value : (commands.compile node _ session.state).value.1 = .ok command :=
      congrArg (·.value.1) answered
    dsimp only [Recorded.value_pure]
    rw [fileEq]
    -- A command without a file of its own takes that of the context.
    refine ⟨_, rfl, ⟨_, _, command, value, rfl⟩, ?_⟩
    cases command.file <;> rfl

theorem compileSection_lossless (proper : services.commands.Upholds) {file : Path} {node : Node}
    {session : Session σ} (isSection : node.isSection = true) (of : session.context.file = some file)
    (clean : (compileSection services node session).value.2.context.errorCount = 0) :
    Lossless services file [node] (compileSection services node session).value.1 := by
  unfold compileSection at clean ⊢
  cases kind : SectionKind.of (Text.trim node.name) <;>
    simp only [kind, Recorded.value_bind, Recorded.value_pure, Session.withContext] at clean ⊢
  case aliases | options | defaults => exact .table isSection kind (by simp)
  case unbalanced => simp [Context.errorCount_fail] at clean
  case command =>
    obtain ⟨command, compiled, isCommandOf⟩ := compileCommand_lossless proper of clean
    rw [compiled]
    constructor <;> simp [Node.isOfKind, isSection, kind, CompiledUnit.ofCommand?, isCommandOf]
  case event =>
    obtain ⟨trigger, compiled, isTriggerOf⟩ := compileEvent_lossless of clean
    rw [compiled]
    constructor <;> simp [Node.isOfKind, isSection, kind, CompiledUnit.ofTrigger?, isTriggerOf]

theorem compileTopLevel_lossless (proper : services.commands.Upholds) {file : Path} {node : Node}
    {session : Session σ} (of : session.context.file = some file)
    (clean : (compileTopLevel services node session).value.2.context.errorCount = 0) :
    Lossless services file [node] (compileTopLevel services node session).value.1 := by
  unfold compileTopLevel at clean ⊢
  dsimp only at clean ⊢
  split at clean
  case isTrue isSection =>
    rw [if_pos isSection]
    exact compileSection_lossless proper isSection of clean
  case isFalse => simp [Session.withContext, Context.errorCount_fail] at clean

theorem compileAll_lossless (proper : services.commands.Upholds) {file : Path} {nodes : List Node}
    {session : Session σ} (of : session.context.file = some file)
    (clean : (compileAll services nodes session).value.2.context.errorCount = 0) :
    Lossless services file nodes (compileAll services nodes session).value.1 := by
  induction nodes generalizing session with
  | nil => exact ⟨nofun, .nil, .nil⟩
  | cons node rest inductionHypothesis =>
    have first := compileTopLevel_upholds proper node session
    have later := compileAll_upholds proper rest (compileTopLevel services node session).value.2
    -- An error of the first section would still be counted at the end.
    have firstClean := Nat.le_zero.mp (Nat.le_trans later.errors (Nat.le_of_eq clean))
    exact (compileTopLevel_lossless proper of firstClean).append (inductionHypothesis (first.file.trans of) clean)

/--
Where a file is compiled without an error, all of its top-level nodes are sections, its unit holds a
trigger for each event section and a command for each command section, and no trigger lacks any part of
its section's body.
-/
theorem clean_script_loses_nothing (services : Services σ) (proper : services.commands.Upholds) (file : Path)
    (root : Node) (values : Variables) (state : σ)
    (clean : (compileFile services file root values state).value.2.context.errorCount = 0) :
    Lossless services file root.children (compileFile services file root values state).value.1 := by
  simp only [compileFile, compileScript, Recorded.value_bind, Recorded.value_pure] at clean ⊢
  exact compileAll_lossless proper rfl clean

/-- A script with tables, commands, and loops and branches inside each other. -/
def winding : Node :=
  .section "" [
    .section "options" [.entry "who" "all players" 2] 1,
    .section "on join" [
      .section "loop \x7b@who\x7d" [
        .section "if x" [.line "delay 1" 6] 5,
        .section "else" [.section "while y" [.entry "a" "b" 9] 8] 7] 4,
      .section "z" [] 10] 3,
    .section "command /nofile" [] 11,
    .section "command /body" [.line "c" 13] 12,
    .section "every" [.line "d" 15] 14] 0

theorem winding_script_loses_nothing :
    (compileFile Rehearsal.sceneServices Rehearsal.scenePath winding {} {}).value.2.context.errorCount = 0 ∧
      Lossless Rehearsal.sceneServices Rehearsal.scenePath winding.children
        (compileFile Rehearsal.sceneServices Rehearsal.scenePath winding {} {}).value.1 := by
  have clean :
      (compileFile Rehearsal.sceneServices Rehearsal.scenePath winding {} {}).value.2.context.errorCount = 0 := by
    decide +kernel
  have proper : Rehearsal.sceneServices.commands.Upholds :=
    (Rehearsal.commands_advances (Rehearsal.grammar []) []).upholds
  exact ⟨clean, @clean_script_loses_nothing Rehearsal.Desk Rehearsal.sceneServices proper Rehearsal.scenePath
    winding {} {} clean⟩

/-- With a compiler of commands that starts the context anew, in a file of its choice. -/
def restartingServices (file : Path) : Services Rehearsal.Desk :=
  { Rehearsal.sceneServices with
    commands :=
      { Rehearsal.sceneServices.commands with
        compile := fun _ _ state => pure (.ok ⟨"/x", none, .none⟩, { file := some file }, state) } }

/-- A line that stands outside of all sections, before a command. -/
def strayLine : Node := .section "" [.line "a" 1, .section "command /x" [] 2] 0

/-- A trigger behind a command. -/
def lateTrigger : Node := .section "" [.section "command /x" [] 1, .section "on join" [] 2] 0

/-- A default variable with half of a placeholder in its name. -/
def brokenDefault : Node := .section "" [.section "variables" [.line "a%b = 1" 2] 1] 0

/--
Without its condition the statement fails. If the context is started anew, the error about a line outside of all
sections is forgotten; if its file is changed, a trigger goes by another file. And what is lost without an error under
any compiler of commands is a default variable whose name keeps a percent sign.
-/
theorem losses_without_errors :
    let stray := (compileFile (restartingServices Rehearsal.scenePath) Rehearsal.scenePath strayLine {} {}).value
    let late := (compileFile (restartingServices ⟨"b.sk"⟩) Rehearsal.scenePath lateTrigger {} {}).value
    let broken := (compileFile Rehearsal.sceneServices Rehearsal.scenePath brokenDefault {} {}).value
    (stray.2.context.errorCount = 0 ∧
      ¬ Lossless (restartingServices Rehearsal.scenePath) Rehearsal.scenePath strayLine.children stray.1) ∧
    (late.2.context.errorCount = 0 ∧
      ¬ Lossless (restartingServices ⟨"b.sk"⟩) Rehearsal.scenePath lateTrigger.children late.1) ∧
    broken.2.context.errorCount = 0 ∧ broken.2.values.find? "a%b" = none := by
  intro stray late broken
  refine ⟨⟨by decide +kernel, fun lossless => ?_⟩, ⟨by decide +kernel, fun lossless => ?_⟩, by decide +kernel⟩
  · exact Bool.noConfusion (lossless.sections (.line "a" 1) List.mem_cons_self).1
  · have files : late.1.triggers.map Trigger.file = [some ⟨"b.sk"⟩] := by
      decide +kernel
    have triggers := lossless.triggers
    generalize late.1.triggers = held at files triggers
    cases triggers with
    | cons isTriggerOf _ =>
      have same := (List.cons.inj files).1.symm.trans isTriggerOf.file
      exact absurd same (by decide +kernel)

end Compile

end TriggerScript
