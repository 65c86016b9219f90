import Mathlib.Data.List.Induction
import TriggerScript.Proofs.BlockFrame
import TriggerScript.Proofs.LosslessScripts
import TriggerScript.Proofs.RepeatedReports

/-!
# Delays between sections

One context is used for all sections of a script, so what one section leaves in it the next one finds.
An event section puts an end to its delay; a command section does not. So a section gives what it would
give on its own, unless a command in front of it was left delayed and no trigger was compiled since.
-/

namespace TriggerScript

theorem CompiledUnit.append_assoc (first second third : CompiledUnit) :
    first ++ second ++ third = first ++ (second ++ third) :=
  (CompiledUnit.mk.injEq ..).mpr ⟨List.append_assoc .., List.append_assoc ..⟩

theorem CompiledUnit.triggers_append (first second : CompiledUnit) :
    (first ++ second).triggers = first.triggers ++ second.triggers := rfl

/-- What a context says about the code at hand. -/
structure Posture where
  event : Option ActiveEvent
  depth : Nat
  delay : Delay

/-- Between two sections there is no event and no block; a delay may be left. -/
def Posture.between (delay : Delay) : Posture := ⟨none, 0, delay⟩

namespace Context

def posture (context : Context) : Posture := ⟨context.event, context.depth, context.delay⟩

/-- A new context of the same file with the same tables. -/
def renewed (context : Context) : Context :=
  { file := context.file, options := context.options, aliases := context.aliases }

/-- Between sections only a delay, the line and the reports are not new. -/
theorem atLine_eq_renewed {context : Context} {delay : Delay} (between : context.posture = .between delay)
    (line : Nat) :
    context.atLine line = ((context.renewed.atLine line).withDelay delay).behind context.diagnostics := by
  obtain ⟨noEvent, noBlock, delayEq⟩ := Posture.mk.inj between
  simp only [atLine, renewed, withDelay, behind, noEvent, noBlock, delayEq, List.append_nil]

end Context

/-- The compiler of commands leaves the surroundings of its sections as they are. -/
def Commands.KeepsSurroundings {σ : Type} (commands : Commands σ) : Prop :=
  ∀ node context state,
    (commands.compile node context state).value.2.1.surroundings = Context.surroundings context

/-- Where no block is entered, the compiler of commands leaves every block that it enters. -/
def Commands.LeavesBlocks {σ : Type} (commands : Commands σ) : Prop :=
  ∀ node context state, Context.depth context = 0 → (commands.compile node context state).value.2.1.depth = 0

theorem Commands.KeepsSurroundings.leavesBlocks {σ : Type} {commands : Commands σ}
    (keeps : commands.KeepsSurroundings) : commands.LeavesBlocks :=
  fun node context state noBlock => (congrArg Surroundings.depth (keeps node context state)).trans noBlock

/-- The grammar reads the header of an event in the same way, delayed or not. -/
def Grammar.EventsIgnoreDelay (grammar : Grammar) : Prop :=
  ∀ text context delay, grammar.parseEvent text (Context.withDelay context delay) = grammar.parseEvent text context

namespace Compile

variable {σ : Type} {services : Services σ}

/-! ## The posture from section to section -/

theorem compileAliases_posture (classes : Classes) (nodes : List Node) (context : Context) :
    (compileAliases classes nodes context).value.posture = context.posture := by
  induction nodes generalizing context with
  | nil => rfl
  | cons node rest inductionHypothesis =>
    refine (inductionHypothesis _).trans ?_
    unfold compileAlias Classes.readAlias
    cases node.asEntry? "=" with
    | none => rfl
    | some entry =>
      dsimp only [Recorded.value_bind, Recorded.value_pure]
      cases classes.resolveAlias entry.2 <;> rfl

theorem compileOptions_posture (nodes : List Node) (context : Context) :
    (compileOptions nodes context).value.posture = context.posture := by
  induction nodes generalizing context with
  | nil => rfl
  | cons node rest inductionHypothesis =>
    refine (inductionHypothesis _).trans ?_
    unfold compileOption
    cases node.asEntry? ":" <;> rfl

theorem compileVariables_posture (classes : Classes) (nodes : List Node) (context : Context) (values : Variables) :
    (compileVariables classes nodes context values).value.1.posture = context.posture := by
  induction nodes generalizing context values with
  | nil => rfl
  | cons node rest inductionHypothesis =>
    refine (inductionHypothesis _ _).trans ?_
    -- An entry changes no more of a context than the line and the reports.
    have posture := congrArg Context.posture (compileVariable_alike classes node context values)
    exact posture

/-- An event section is refused with a report, or its body is compiled without a delay in front. -/
theorem compileEvent_cases (grammar : Grammar) (node : Node) (context : Context) :
    (∃ problem, (compileEvent grammar node context).value = (none, (context.fail problem).value)) ∨
      ∃ expanded info spec, grammar.parseEvent expanded context = .ok (info, spec) ∧
        let inside := (context.withEvent (some (.trigger spec info.eventTypes))).withDelay .no
        let block := (compileBlock grammar node inside).value
        (compileEvent grammar node context).value =
          (some ⟨block.2.file, Text.trim node.name, spec, block.1⟩, (block.2.withEvent none).withDelay .no) := by
  unfold compileEvent Grammar.readEvent
  dsimp only [Recorded.value_bind]
  generalize (Text.afterKeyword? "on " (Text.trim node.name)).getD (Text.trim node.name) = header
  rcases substitute_cases header context with ⟨expanded, substituted⟩ | ⟨name, substituted⟩
  · rw [substituted]
    dsimp only [Recorded.value_pure]
    cases parsed : grammar.parseEvent expanded context with
    | error reason => exact .inl ⟨_, rfl⟩
    | ok understood => exact .inr ⟨expanded, understood.1, understood.2, parsed, rfl⟩
  · rw [substituted]
    exact .inl ⟨_, rfl⟩

/-- Behind an event section no event is left, and no delay if there is a trigger. -/
theorem compileEvent_posture (grammar : Grammar) (node : Node) {context : Context} {delay : Delay}
    (before : context.posture = .between delay) :
    (compileEvent grammar node context).value.2.posture =
      .between (if (compileEvent grammar node context).value.1.isSome then .no else delay) := by
  rcases compileEvent_cases grammar node context with ⟨problem, refused⟩ | ⟨expanded, info, spec, -, compiled⟩
  · rw [refused]
    exact before
  · rw [compiled]
    -- Whatever delay the body leaves is put down together with the event.
    have block := compileBlock_surroundings grammar node
      ((context.withEvent (some (.trigger spec info.eventTypes))).withDelay .no)
    have depth := (congrArg Surroundings.depth block).trans (congrArg Posture.depth before)
    exact (Posture.mk.injEq ..).mpr ⟨rfl, depth, rfl⟩

/-- Behind a command section no event is left; its delay stays. -/
theorem compileCommand_posture {commands : Commands σ} (leaves : commands.LeavesBlocks) (node : Node)
    {session : Session σ} {delay : Delay} (before : session.context.posture = .between delay) :
    let after := (compileCommand commands node session).value.2.context
    after.posture = .between after.delay := by
  obtain ⟨-, noBlock, -⟩ := Posture.mk.inj before
  have depth := leaves node (session.context.withEvent (some .command)) session.state noBlock
  unfold compileCommand Commands.compileSection
  dsimp only [Recorded.value_bind]
  generalize commands.compile node _ session.state = result at depth ⊢
  obtain ⟨⟨reason | command, after, state⟩, activity⟩ := result
  · exact (Posture.mk.injEq ..).mpr ⟨rfl, depth, rfl⟩
  · exact (Posture.mk.injEq ..).mpr ⟨rfl, depth, rfl⟩

/-- How a node passes the delay on that stands in front of it: only a command section makes one. -/
structure Passes (node : Node) (delay : Delay) (unit : CompiledUnit) (after : Context) : Prop where
  posture : after.posture = .between after.delay
  source : node.isOfKind .command = true ∨ after.delay = delay ∨ after.delay = .no
  triggers : after.delay = .no ∨ unit.triggers = []

theorem Passes.still {node : Node} {delay : Delay} {unit : CompiledUnit} {after : Context}
    (kept : after.posture = .between delay) (bare : unit.triggers = []) : Passes node delay unit after := by
  have delayEq : after.delay = delay := congrArg Posture.delay kept
  rw [← delayEq] at kept
  exact ⟨kept, .inr (.inl delayEq), .inr bare⟩

theorem compileSection_passes (leaves : services.commands.LeavesBlocks) {node : Node}
    (isSection : node.isSection = true) {session : Session σ} {delay : Delay}
    (before : session.context.posture = .between delay) :
    Passes node delay (compileSection services node session).value.1
      (compileSection services node session).value.2.context := by
  unfold compileSection
  cases kind : SectionKind.of (Text.trim node.name) <;>
    simp only [Recorded.value_bind, Recorded.value_pure, Session.withContext]
  case aliases =>
    exact .still ((compileAliases_posture services.classes node.children session.context).trans before) rfl
  case options => exact .still ((compileOptions_posture node.children session.context).trans before) rfl
  case defaults =>
    have kept := compileVariables_posture services.classes node.children session.context session.values
    exact .still (kept.trans before) rfl
  case unbalanced => exact .still before rfl
  case command =>
    refine ⟨compileCommand_posture leaves node before, .inl ?_, .inr rfl⟩
    simp [Node.isOfKind, isSection, kind]
  case event =>
    have after := compileEvent_posture services.grammar node before
    generalize compileEvent services.grammar node session.context = result at after ⊢
    -- A header that is refused leaves the delay as it was; a trigger ends it.
    obtain ⟨⟨_ | trigger, context⟩, activity⟩ := result
    · exact .still after rfl
    · have resting : context.posture = .between .no := after
      have delayEq : context.delay = .no := congrArg Posture.delay resting
      rw [← delayEq] at resting
      exact ⟨resting, .inr (.inr delayEq), .inl delayEq⟩

theorem compileTopLevel_passes (leaves : services.commands.LeavesBlocks) (node : Node) {session : Session σ}
    {delay : Delay} (before : session.context.posture = .between delay) :
    Passes node delay (compileTopLevel services node session).value.1
      (compileTopLevel services node session).value.2.context := by
  unfold compileTopLevel
  dsimp only
  split
  case isTrue isSection => exact compileSection_passes leaves isSection before
  case isFalse => exact .still before rfl

/-! ## Along a script -/

theorem compileAll_append (services : Services σ) (first second : List Node) (session : Session σ) :
    (compileAll services (first ++ second) session).value =
      let front := (compileAll services first session).value
      let back := (compileAll services second front.2).value
      (front.1 ++ back.1, back.2) := by
  induction first generalizing session with
  | nil => rfl
  | cons node rest inductionHypothesis =>
    simp only [List.cons_append, compileAll, Recorded.value_bind, Recorded.value_pure, inductionHypothesis,
      CompiledUnit.append_assoc]

theorem session_concat (services : Services σ) (nodes : List Node) (node : Node) (session : Session σ) :
    (compileAll services (nodes ++ [node]) session).value.2 =
      (compileTopLevel services node (compileAll services nodes session).value.2).value.2 := by
  rw [compileAll_append]
  rfl

/-- A command section among the nodes left a delay, and no trigger was compiled behind it. -/
def DelayLeft (services : Services σ) (start : Session σ) (nodes : List Node) : Prop :=
  ∃ before command between, nodes = before ++ command :: between ∧ command.isOfKind .command = true ∧
    let after := (compileAll services (before ++ [command]) start).value.2
    after.context.delay ≠ .no ∧ (compileAll services between after).value.1.triggers = []

theorem DelayLeft.of_command {start : Session σ} {nodes : List Node} {node : Node}
    (isCommand : node.isOfKind .command = true)
    (delayed : (compileAll services (nodes ++ [node]) start).value.2.context.delay ≠ .no) :
    DelayLeft services start (nodes ++ [node]) :=
  ⟨nodes, node, [], rfl, isCommand, delayed, rfl⟩

/-- A node without a trigger does not put an end to the delay. -/
theorem DelayLeft.concat {start : Session σ} {nodes : List Node} {node : Node}
    (left : DelayLeft services start nodes)
    (bare : (compileTopLevel services node (compileAll services nodes start).value.2).value.1.triggers = []) :
    DelayLeft services start (nodes ++ [node]) := by
  obtain ⟨before, command, between, rfl, isCommand, delayed, silent⟩ := left
  refine ⟨before, command, between ++ [node], by simp, isCommand, delayed, ?_⟩
  rw [List.append_cons, compileAll_append] at bare
  rw [compileAll_append, CompiledUnit.triggers_append, silent, List.nil_append]
  exact (List.append_nil _).trans bare

/-- Between two sections there is neither event nor block, and a delay only behind a delayed command. -/
theorem compileAll_between (leaves : services.commands.LeavesBlocks) (nodes : List Node) {start : Session σ}
    (resting : start.context.posture = .between .no) :
    (compileAll services nodes start).value.2.context.posture =
        .between (compileAll services nodes start).value.2.context.delay ∧
      ((compileAll services nodes start).value.2.context.delay = .no ∨ DelayLeft services start nodes) := by
  -- By induction from the end: the last node passes on what those before it have left.
  induction nodes using List.reverseRecOn with
  | nil =>
    have noDelay : start.context.delay = .no := congrArg Posture.delay resting
    exact ⟨resting.trans (noDelay ▸ rfl), .inl noDelay⟩
  | append_singleton nodes node inductionHypothesis =>
    obtain ⟨between, delayed⟩ := inductionHypothesis
    have passes := compileTopLevel_passes leaves node between
    have same := session_concat services nodes node start
    rw [same]
    refine ⟨passes.posture, ?_⟩
    by_cases ended :
      (compileTopLevel services node (compileAll services nodes start).value.2).value.2.context.delay = .no
    · exact .inl ended
    · -- The delay comes from this node, or it was there before and no trigger ended it.
      rcases passes.source with isCommand | kept | gone
      · exact .inr (.of_command isCommand (same ▸ ended))
      · rcases delayed with none | left
        · exact absurd (kept.trans none) ended
        · exact .inr (left.concat (passes.triggers.resolve_left ended))
      · exact absurd gone ended

/-! ## Sections on their own -/

theorem compileCommand_behind {commands : Commands σ} (reports : commands.IgnoresReports)
    (states : commands.IgnoresState) (node : Node) (session alone : Session σ) {earlier : List Diagnostic}
    (behind : session.context = alone.context.behind earlier) :
    (compileCommand commands node session).value.1 = (compileCommand commands node alone).value.1 ∧
      (compileCommand commands node session).value.2.context =
        (compileCommand commands node alone).value.2.context.behind earlier := by
  have outcome := compileCommand_outcome commands node session
  have aloneOutcome := compileCommand_outcome commands node alone
  dsimp only at outcome aloneOutcome
  obtain ⟨sameResult, sameContext⟩ :=
    states node (session.context.withEvent (some .command)) session.state alone.state
  -- The collaborator is asked the same in both sessions, but for the reports in front.
  rw [sameResult, sameContext, behind, Context.withEvent_behind, reports] at outcome
  generalize (commands.compile node _ alone.state).value = asked at outcome aloneOutcome
  have moved : commandOutcome node (asked.1, asked.2.1.behind earlier) =
      ((commandOutcome node (asked.1, asked.2.1)).1, (commandOutcome node (asked.1, asked.2.1)).2.behind earlier) := by
    obtain ⟨reason | command, after, state⟩ := asked <;> simp [commandOutcome]
  rw [moved, ← aloneOutcome, Prod.mk.injEq] at outcome
  exact outcome

/-- A section gives the same in a session as in a new context with the session's tables. -/
def StandsAlone (services : Services σ) (node : Node) (session : Session σ) : Prop :=
  ∀ values state,
    let compiled := (compileTopLevel services node session).value
    let alone := (compileTopLevel services node ⟨session.context.renewed, values, state⟩).value
    compiled.1 = alone.1 ∧
      compiled.2.context.diagnostics = session.context.diagnostics ++ alone.2.context.diagnostics

theorem compileTopLevel_command {node : Node} (isCommand : node.isOfKind .command = true) (session : Session σ) :
    (compileTopLevel services node session).value =
      let compiled := (compileCommand services.commands node
        (session.withContext (session.context.atLine node.lineNumber))).value
      (.ofCommand? compiled.1, compiled.2) := by
  obtain ⟨isSection, kind⟩ := Bool.and_eq_true_iff.mp isCommand
  unfold compileTopLevel
  dsimp only
  rw [if_pos isSection, compileSection, of_decide_eq_true kind]
  simp only [Recorded.value_bind, Recorded.value_pure, Session.withContext]

theorem compileTopLevel_event {node : Node} (isEvent : node.isOfKind .event = true) (session : Session σ) :
    (compileTopLevel services node session).value =
      let compiled := (compileEvent services.grammar node (session.context.atLine node.lineNumber)).value
      (.ofTrigger? compiled.1, session.withContext compiled.2) := by
  obtain ⟨isSection, kind⟩ := Bool.and_eq_true_iff.mp isEvent
  unfold compileTopLevel
  dsimp only
  rw [if_pos isSection, compileSection, of_decide_eq_true kind]
  simp only [Recorded.value_bind, Recorded.value_pure, Session.withContext]

/-- The body of an event section never starts delayed, so a delay could only matter to the header. -/
theorem compileEvent_withDelay {grammar : Grammar} (ignores : grammar.EventsIgnoreDelay) (node : Node)
    (context : Context) (delay : Delay) :
    (compileEvent grammar node (context.withDelay delay)).value.1 = (compileEvent grammar node context).value.1 ∧
      (compileEvent grammar node (context.withDelay delay)).value.2.diagnostics =
        (compileEvent grammar node context).value.2.diagnostics := by
  unfold compileEvent Options.substitute Grammar.readEvent
  dsimp only
  generalize (Text.afterKeyword? "on " (Text.trim node.name)).getD (Text.trim node.name) = header
  rw [show (context.withDelay delay).options = context.options from rfl]
  cases Options.expand context.options (Options.pieces header.toList) with
  | error name => exact ⟨rfl, rfl⟩
  | ok expanded =>
    dsimp only [Recorded.value_bind, Recorded.value_pure]
    rw [ignores]
    cases grammar.parseEvent (String.ofList expanded) context <;> exact ⟨rfl, rfl⟩

/-- An event section stands alone if the delay in front of it makes no difference. -/
theorem standsAlone_of_event (reports : services.grammar.IgnoresReports) {node : Node} {session : Session σ}
    {delay : Delay} (between : session.context.posture = .between delay) (isEvent : node.isOfKind .event = true)
    (same : let context := session.context.renewed.atLine node.lineNumber
      (compileEvent services.grammar node (context.withDelay delay)).value.1 =
          (compileEvent services.grammar node context).value.1 ∧
        (compileEvent services.grammar node (context.withDelay delay)).value.2.diagnostics =
          (compileEvent services.grammar node context).value.2.diagnostics) :
    StandsAlone services node session := by
  intro values state
  obtain ⟨sameTrigger, sameReports⟩ := same
  rw [compileTopLevel_event isEvent, compileTopLevel_event isEvent,
    Context.atLine_eq_renewed between node.lineNumber, compileEvent_behind reports]
  dsimp only [Session.withContext]
  rw [sameTrigger]
  exact ⟨rfl, congrArg (session.context.diagnostics ++ ·) sameReports⟩

/-- Where nothing is left of earlier sections, a section with code stands alone. -/
theorem standsAlone_of_resting (steady : services.Steady) {node : Node} {session : Session σ}
    (resting : session.context.posture = .between .no)
    (code : node.isOfKind .command = true ∨ node.isOfKind .event = true) :
    StandsAlone services node session := by
  rcases code with isCommand | isEvent
  · intro values state
    rw [compileTopLevel_command isCommand, compileTopLevel_command isCommand]
    obtain ⟨sameCommand, context⟩ := compileCommand_behind steady.reports steady.state node
      (session.withContext (session.context.atLine node.lineNumber))
      ⟨session.context.renewed.atLine node.lineNumber, values, state⟩
      (Context.atLine_eq_renewed resting node.lineNumber)
    exact ⟨congrArg CompiledUnit.ofCommand? sameCommand, congrArg Context.diagnostics context⟩
  · have renewed : (session.context.renewed.atLine node.lineNumber).withDelay .no =
      session.context.renewed.atLine node.lineNumber := rfl
    refine standsAlone_of_event steady.grammar resting isEvent ?_
    dsimp only
    rw [renewed]
    exact ⟨rfl, rfl⟩

end Compile

namespace Rehearsal

open Compile

theorem remarks_surroundings (nodes : List Node) (context : Context) :
    (remarks nodes context).value.surroundings = context.surroundings := by
  induction nodes generalizing context with
  | nil => rfl
  | cons node rest inductionHypothesis =>
    refine (inductionHypothesis _).trans ?_
    unfold remark
    dsimp only
    split
    · rfl
    · split <;> rfl

theorem commandPayload_surroundings (grammar : Grammar) (node : Node) (name : String) (context : Context) :
    (commandPayload grammar node name context).value.2.surroundings = context.surroundings := by
  unfold commandPayload
  split
  · exact compileBlock_surroundings grammar node context
  · rfl

theorem commands_keepsSurroundings (grammar : Grammar) (refused : List String) :
    (commands grammar refused).KeepsSurroundings := by
  intro node context desk
  have remarked := remarks_surroundings node.children context
  simp only [commands, compileCommand, Recorded.value_bind]
  generalize (remarks node.children context).value = inside at remarked ⊢
  split
  · exact remarked
  · split
    · exact remarked
    · have paid := commandPayload_surroundings grammar node (commandName node.name) inside
      simp only [Recorded.value_bind]
      generalize (commandPayload grammar node (commandName node.name) inside).value = payload at paid ⊢
      unfold register
      dsimp only
      cases refused.contains (commandName node.name) <;> exact paid.trans remarked

/--
Some nodes of a file are compiled, and then a section with code. Unless one of those nodes is a command
section that left a delay, with no trigger compiled since, the section is compiled without a delay from its
header on, and its unit and reports are those of the section alone, under the options and aliases in force.
An event section is not affected by a delay at all, if the grammar reads its header in the same way.
-/
theorem section_alone_unless_command_delayed (services : Services Desk) (refused : List String)
    (scripted : services.commands = commands services.grammar refused)
    (reports : services.grammar.IgnoresReports) (file : Path) (front : List Node) (node : Node)
    (code : node.isOfKind .command = true ∨ node.isOfKind .event = true) (values : Variables) (desk : Desk) :
    let start : Session Desk := ⟨.ofFile (some file), values, desk⟩
    let reached := (compileAll services front start).value.2
    (reached.context.delay = .no ∧ StandsAlone services node reached ∨ DelayLeft services start front) ∧
      (node.isOfKind .event = true → services.grammar.EventsIgnoreDelay → StandsAlone services node reached) := by
  have keeps : services.commands.KeepsSurroundings := scripted ▸ commands_keepsSurroundings services.grammar refused
  have steady : services.Steady :=
    ⟨reports, scripted ▸ commands_ignoresReports reports refused,
      scripted ▸ commands_ignoresState services.grammar refused⟩
  intro start
  obtain ⟨between, delayed⟩ :=
    compileAll_between keeps.leavesBlocks front (show start.context.posture = .between .no from rfl)
  dsimp only
  generalize (compileAll services front start).value.2 = reached at between delayed ⊢
  refine ⟨delayed.imp_left fun resting => ⟨resting, ?_⟩, fun isEvent delays => ?_⟩
  · rw [resting] at between
    exact standsAlone_of_resting steady between code
  · exact standsAlone_of_event reports between isEvent (compileEvent_withDelay delays node _ _)

/-- A command whose body has to run at once. -/
def instantCommand : Node := .section "command /body two" [.line "instant x" 6] 5

theorem instant_command_alone_behind_trigger :
    let front : List Node := [.section "command /body one" [.line "a" 2] 1, .section "on join" [.line "delay 1" 4] 3]
    let start : Session Desk := ⟨.ofFile (some scenePath), {}, {}⟩
    let reached := (compileAll sceneServices front start).value.2
    instantCommand.isOfKind .command = true ∧ reached.context.delay = .no ∧
      (reached.context.delay = .no ∧ StandsAlone sceneServices instantCommand reached ∨
        DelayLeft sceneServices start front) := by
  have isCommand : instantCommand.isOfKind .command = true := by decide +kernel
  refine ⟨isCommand, by decide +kernel, ?_⟩
  exact (section_alone_unless_command_delayed sceneServices [] rfl (grammar_ignoresReports []) scenePath
    [.section "command /body one" [.line "a" 2] 1, .section "on join" [.line "delay 1" 4] 3] instantCommand
    (.inl isCommand) {} {}).1

/-- Behind a command that was left delayed, the same section gives another command. -/
theorem instant_command_refused_behind_delayed_command :
    let start : Session Desk := ⟨.ofFile (some scenePath), {}, {}⟩
    let reached := (compileAll sceneServices [.section "command /body one" [.line "delay 1" 2] 1] start).value.2
    instantCommand.isOfKind .command = true ∧ reached.context.delay = .yes ∧ reached.context.diagnostics = [] ∧
      ¬ StandsAlone sceneServices instantCommand reached := by
  refine ⟨by decide +kernel, by decide +kernel, by decide +kernel, fun alone => ?_⟩
  have sameUnit := (alone {} {}).1
  revert sameUnit
  decide +kernel

end Rehearsal

end TriggerScript
