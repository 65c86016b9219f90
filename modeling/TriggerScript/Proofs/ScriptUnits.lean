import TriggerScript.Proofs.Advance
import TriggerScript.Proofs.EarlierReports

/-!
# The unit of a script

What a script compiles to is settled by its tree and its path. The values of the variables decide what
is reported, and the commands keep a state; neither gets into the unit, as long as the collaborators
answer the same question in the same way. All triggers of the unit come from the script's own file.
-/

namespace TriggerScript

/-! ## Contexts that differ in their reports -/

namespace Context

/-- The context before anything was reported. -/
def unreported (context : Context) : Context := { context with diagnostics := [] }

/-- The contexts differ in what was reported, if at all. -/
def Alike (left right : Context) : Prop := left.unreported = right.unreported

theorem behind_unreported (context : Context) :
    context.unreported.behind context.diagnostics = context := by
  simp [unreported, behind]

theorem Alike.symm {left right : Context} (alike : left.Alike right) : right.Alike left := Eq.symm alike

theorem Alike.trans {left middle right : Context} (first : left.Alike middle)
    (second : middle.Alike right) : left.Alike right := Eq.trans first second

theorem Alike.file {left right : Context} (alike : left.Alike right) : left.file = right.file := by
  have same : left.unreported.file = right.unreported.file := by rw [alike]
  exact same

theorem Alike.fail {left right : Context} (alike : left.Alike right) (problem : Problem) :
    (left.fail problem).value.Alike (right.fail problem).value := alike

/-- What does not depend on earlier reports comes out the same for contexts that are alike. -/
theorem Alike.run {α : Type} (run : Context → α × Context)
    (ignores : ∀ context earlier, run (context.behind earlier) = ((run context).1, (run context).2.behind earlier))
    {left right : Context} (alike : left.Alike right) :
    (run left).1 = (run right).1 ∧ (run left).2.Alike (run right).2 := by
  rw [← left.behind_unreported, ← right.behind_unreported, alike, ignores, ignores]
  exact ⟨rfl, rfl⟩

/-- A change that leaves the reports alone keeps contexts alike. -/
theorem Alike.change (change : Context → Context)
    (ignores : ∀ context earlier, change (context.behind earlier) = (change context).behind earlier)
    {left right : Context} (alike : left.Alike right) : (change left).Alike (change right) := by
  rw [← left.behind_unreported, ← right.behind_unreported, alike, ignores, ignores]
  rfl

end Context

/-- The answers of the commands' compiler do not depend on its state. -/
def Commands.IgnoresState {σ : Type} (commands : Commands σ) : Prop :=
  ∀ node context state state',
    (commands.compile node context state).value.1 = (commands.compile node context state').value.1 ∧
      (commands.compile node context state).value.2.1 = (commands.compile node context state').value.2.1

/-- The collaborators answer the same question in the same way, whatever was reported or done before. -/
structure Services.Steady {σ : Type} (services : Services σ) : Prop where
  grammar : services.grammar.IgnoresReports
  reports : services.commands.IgnoresReports
  state : services.commands.IgnoresState

namespace Compile

variable {σ : Type} {services : Services σ}

theorem compileVariable_alike (classes : Classes) (node : Node) (context : Context) (values : Variables) :
    (compileVariable classes node context values).value.1.Alike (context.atLine node.lineNumber) := by
  unfold compileVariable
  dsimp only
  cases node.asEntry? "=" with
  | none => rfl
  | some entry =>
    dsimp only [Recorded.value_bind]
    rcases (defaultVariable classes entry.1 entry.2 values).value with problem | _ | added <;> rfl

theorem compileVariables_alike (classes : Classes) (nodes : List Node) {left right : Context}
    (alike : left.Alike right) (values values' : Variables) :
    (compileVariables classes nodes left values).value.1.Alike
      (compileVariables classes nodes right values').value.1 := by
  induction nodes generalizing left right values values' with
  | nil => exact alike
  | cons node rest inductionHypothesis =>
    apply inductionHypothesis
    have moved : (left.atLine node.lineNumber).Alike (right.atLine node.lineNumber) :=
      alike.change (·.atLine node.lineNumber) fun _ _ => rfl
    exact ((compileVariable_alike classes node left values).trans moved).trans
      (compileVariable_alike classes node right values').symm

theorem compileCommand_alike (steady : services.Steady) (node : Node) {left right : Session σ}
    (alike : left.context.Alike right.context) :
    (compileCommand services.commands node left).value.1 = (compileCommand services.commands node right).value.1 ∧
      (compileCommand services.commands node left).value.2.context.Alike
        (compileCommand services.commands node right).value.2.context := by
  let inside (context : Context) := context.withEvent (some .command)
  -- Another state changes nothing, and neither do other reports.
  obtain ⟨sameResult, sameContext⟩ :=
    steady.state node (inside left.context) left.state right.state
  obtain ⟨resultEq, contextsAlike⟩ := alike.run
    (fun context =>
      let compiled := (services.commands.compile node (inside context) right.state).value
      (compiled.1, compiled.2.1))
    (fun context earlier => by simp [inside, steady.reports node])
  dsimp only at resultEq contextsAlike
  rw [← sameResult] at resultEq
  rw [← sameContext] at contextsAlike
  unfold compileCommand Commands.compileSection
  dsimp only [Recorded.value_bind]
  generalize (services.commands.compile node (inside left.context) left.state).value = compiled at *
  generalize (services.commands.compile node (inside right.context) right.state).value = compiled' at *
  obtain ⟨result, after, state⟩ := compiled
  obtain ⟨result', after', state'⟩ := compiled'
  dsimp only at resultEq contextsAlike
  subst resultEq
  have outside := contextsAlike.change (·.withEvent none) fun _ _ => rfl
  cases result with
  | ok command =>
    dsimp only [Recorded.value_pure]
    rw [outside.file]
    exact ⟨rfl, outside⟩
  | error reason =>
    exact ⟨rfl, (outside.change (·.atLine node.lineNumber) fun _ _ => rfl).fail (.refused reason)⟩

theorem compileSection_alike (steady : services.Steady) (node : Node) {left right : Session σ}
    (alike : left.context.Alike right.context) :
    (compileSection services node left).value.1 = (compileSection services node right).value.1 ∧
      (compileSection services node left).value.2.context.Alike
        (compileSection services node right).value.2.context := by
  unfold compileSection
  cases SectionKind.of (Text.trim node.name) <;>
    simp only [Recorded.value_bind, Recorded.value_pure, Session.withContext, true_and]
  case aliases =>
    exact alike.change (fun context => (compileAliases services.classes node.children context).value)
      (compileAliases_behind services.classes node.children)
  case options =>
    exact alike.change (fun context => (compileOptions node.children context).value)
      (compileOptions_behind node.children)
  case defaults => exact compileVariables_alike services.classes node.children alike _ _
  case unbalanced => exact alike.fail .unbalancedQuotes
  case command =>
    obtain ⟨commandEq, after⟩ := compileCommand_alike steady node alike
    exact ⟨congrArg CompiledUnit.ofCommand? commandEq, after⟩
  case event =>
    obtain ⟨triggerEq, after⟩ := alike.run
      (fun context => (compileEvent services.grammar node context).value)
      (compileEvent_behind steady.grammar node)
    exact ⟨congrArg CompiledUnit.ofTrigger? triggerEq, after⟩

theorem compileTopLevel_alike (steady : services.Steady) (node : Node) {left right : Session σ}
    (alike : left.context.Alike right.context) :
    (compileTopLevel services node left).value.1 = (compileTopLevel services node right).value.1 ∧
      (compileTopLevel services node left).value.2.context.Alike
        (compileTopLevel services node right).value.2.context := by
  have moved := alike.change (·.atLine node.lineNumber) fun _ _ => rfl
  unfold compileTopLevel
  dsimp only
  split
  · exact compileSection_alike steady node moved
  · exact ⟨rfl, moved.fail .codeOutsideTrigger⟩

theorem compileAll_alike (steady : services.Steady) (nodes : List Node) {left right : Session σ}
    (alike : left.context.Alike right.context) :
    (compileAll services nodes left).value.1 = (compileAll services nodes right).value.1 := by
  induction nodes generalizing left right with
  | nil => rfl
  | cons node rest inductionHypothesis =>
    obtain ⟨firstEq, after⟩ := compileTopLevel_alike steady node alike
    simp only [compileAll, Recorded.value_bind, Recorded.value_pure]
    rw [firstEq, inductionHypothesis after]

/-- A script compiles to the same unit with any values and in any state. -/
theorem compileFile_unit_eq (steady : services.Steady) (path : Path) (root : Node)
    (values values' : Variables) (state state' : σ) :
    (compileFile services path root values state).value.1 =
      (compileFile services path root values' state').value.1 :=
  compileAll_alike steady root.children rfl

/-! ## Triggers and their file -/

theorem compileEvent_file (grammar : Grammar) (node : Node) (context : Context) :
    ∀ trigger ∈ (compileEvent grammar node context).value.1, trigger.file = context.file := by
  unfold compileEvent Grammar.readEvent
  dsimp only [Recorded.value_bind, Recorded.value_pure]
  have substituted := substitute_advances
    ((Text.afterKeyword? "on " (Text.trim node.name)).getD (Text.trim node.name)) context
  generalize Options.substitute _ context = result at substituted ⊢
  obtain ⟨⟨_ | text, inside⟩, asked⟩ := result
  · nofun
  · dsimp only [Recorded.value_bind, Recorded.value_pure]
    cases grammar.parseEvent text inside with
    | error reason => nofun
    | ok understood =>
      have compiled := compileBlock_advances grammar node
        ((inside.withEvent (some (.trigger understood.2 understood.1.eventTypes))).withDelay .no)
      dsimp only [Recorded.value_bind, Recorded.value_pure]
      generalize compileBlock grammar node _ = block at compiled ⊢
      simp only [Option.mem_some_iff]
      rintro trigger rfl
      exact compiled.file.trans substituted.file

theorem compileSection_file (services : Services σ) (node : Node) (session : Session σ) :
    ∀ trigger ∈ (compileSection services node session).value.1.triggers,
      trigger.file = session.context.file := by
  unfold compileSection
  cases SectionKind.of (Text.trim node.name) <;>
    simp only [Recorded.value_bind, Recorded.value_pure]
  case event =>
    have file := compileEvent_file services.grammar node session.context
    generalize compileEvent services.grammar node session.context = compiled at file ⊢
    exact fun trigger member => file trigger (Option.mem_toList.mp member)
  all_goals nofun

theorem compileTopLevel_file (services : Services σ) (node : Node) (session : Session σ) :
    ∀ trigger ∈ (compileTopLevel services node session).value.1.triggers,
      trigger.file = session.context.file := by
  unfold compileTopLevel
  dsimp only
  split
  · exact compileSection_file services node (session.withContext (session.context.atLine node.lineNumber))
  · nofun

/-- All triggers of a script come from its file. -/
theorem compileAll_file (proper : services.commands.Advances) (nodes : List Node) (session : Session σ) :
    ∀ trigger ∈ (compileAll services nodes session).value.1.triggers,
      trigger.file = session.context.file := by
  induction nodes generalizing session with
  | nil => nofun
  | cons node rest inductionHypothesis =>
    intro trigger member
    rcases List.mem_append.mp member with first | later
    · exact compileTopLevel_file services node session trigger first
    · exact (inductionHypothesis _ trigger later).trans (compileTopLevel_advances proper node session).file

theorem compileFile_isFrom (proper : services.commands.Advances) (path : Path) (root : Node)
    (values : Variables) (state : σ) :
    ∀ trigger ∈ (compileFile services path root values state).value.1.triggers,
      trigger.isFrom path = true := by
  intro trigger member
  have file : trigger.file = some path :=
    compileAll_file proper root.children ⟨.ofFile (some path), values, state⟩ trigger member
  simp [Trigger.isFrom, file, Path.same]

end Compile

end TriggerScript
