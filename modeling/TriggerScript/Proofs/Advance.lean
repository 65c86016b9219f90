import TriggerScript.Proofs.Reading
import TriggerScript.Proofs.TableWork
import TriggerScript.Proofs.Walk

/-!
# The advance of a compilation

While a script is compiled its context changes again and again, but it stays with its file and never
takes a report back. `Advances` says so from one context to another. It holds of every part of the compiler and, if
the compiler of commands plays along, of a whole script.
-/

namespace TriggerScript

/-- The file of a context and what was reported in it. -/
structure Standing where
  file : Option Path
  diagnostics : List Diagnostic

def Context.standing (context : Context) : Standing := ⟨context.file, context.diagnostics⟩

/-- The file stays, and no report is taken back. -/
structure Advances (before after : Standing) : Prop where
  file : after.file = before.file
  kept : before.diagnostics <+: after.diagnostics

namespace Advances

variable {before between after : Standing}

theorem refl (standing : Standing) : Advances standing standing := ⟨rfl, List.prefix_rfl⟩

theorem trans (earlier : Advances before between) (later : Advances between after) : Advances before after where
  file := later.file.trans earlier.file
  kept := earlier.kept.trans later.kept

end Advances

theorem Context.fail_advances (context : Context) (problem : Problem) :
    Advances context.standing (context.fail problem).value.standing :=
  ⟨rfl, List.prefix_append _ _⟩

theorem Context.advances_of_fail {context after : Context} {problem : Problem} {asked : List Activity}
    (failed : context.fail problem = ⟨after, asked⟩) : Advances context.standing after.standing := by
  have advances := context.fail_advances problem
  rw [failed] at advances
  exact advances

/-- The compiler of commands stays with its file and takes no report back. -/
def Commands.Advances {σ : Type} (commands : Commands σ) : Prop :=
  ∀ node context state,
    TriggerScript.Advances (Context.standing context)
      (commands.compile node context state).value.2.1.standing

namespace Compile

variable {σ : Type} {grammar : Grammar}

/-! ## Blocks -/

theorem Reads.advances {α : Type} {asks : String → Consultation} {parses : String → α → Prop}
    {context after : Context} {value : Option α} {asked : List Activity}
    (reads : Reads asks parses context value after asked) : Advances context.standing after.standing := by
  cases reads with
  | understood _ => exact .refl _
  | refused text _ problem => exact context.fail_advances problem
  | undefined name => exact context.fail_advances _

theorem ReadsStatement.advances {context after : Context} {item : Option Item} {asked : List Activity}
    (reads : ReadsStatement grammar context item after asked) : Advances context.standing after.standing := by
  cases reads with
  | understood _ => exact .refl _
  | missing reads => exact reads.advances

theorem compileStatement_advances {text : String} {context after : Context} {item : Option Item}
    {asked : List Activity} (reading : compileStatement grammar text context = ⟨(item, after), asked⟩) :
    Advances context.standing after.standing := by
  have reads := compileStatement_reads grammar text context
  rw [reading] at reads
  exact reads.advances

theorem readLoop_advances {text : String} {context after : Context} {iterable : Option Expression}
    {asked : List Activity} (reading : readLoop grammar text context = ⟨(iterable, after), asked⟩) :
    Advances context.standing after.standing := by
  have reads := readLoop_reads grammar text context
  rw [reading] at reads
  exact reads.advances

theorem readCondition_advances {text : String} {context after : Context} {condition : Option Condition}
    {asked : List Activity} (reading : readCondition grammar text context = ⟨(condition, after), asked⟩) :
    Advances context.standing after.standing := by
  have reads := readCondition_reads grammar text context
  rw [reading] at reads
  exact reads.advances

theorem Refused.advances {header : Header} {context after : Context} {asked : List Activity}
    (refused : Refused grammar header context after asked) : Advances context.standing after.standing := by
  cases refused with
  | loop reading => exact readLoop_advances reading
  | «while» reading | condition reading => exact readCondition_advances reading

theorem OpensLoop.advances {header : Header} {context after : Context} {asked : List Activity}
    {notice : Notice} {loop : Block → Item}
    (opens : OpensLoop grammar header context after asked notice loop) : Advances context.standing after.standing := by
  cases opens with
  | loop reading => exact readLoop_advances reading
  | «while» reading => exact readCondition_advances reading

theorem settle_advances {pending : Option OpenConditional} {context after : Context} {closed : Block}
    (closing : settle pending context = (closed, after)) : Advances context.standing after.standing := by
  cases pending <;> cases closing <;> exact .refl _

theorem Walk.advances {nodes : List Node} {pending last : Option OpenConditional}
    {context final : Context} {items : Block} {activity : List Activity}
    (walk : Walk grammar nodes pending context items last final activity) :
    Advances context.standing final.standing := by
  -- Lines, depths and delays change between the parts; the standing does not.
  induction walk with
  | done => exact .refl _
  | statement _ closing reading _ later =>
    exact (settle_advances closing).trans ((compileStatement_advances reading).trans later)
  | refused closing reading _ later => exact (settle_advances closing).trans (reading.advances.trans later)
  | loop closing reading _ innerClosing _ inside later =>
    have opened := (settle_advances closing).trans reading.advances
    exact (opened.trans inside).trans ((settle_advances innerClosing).trans later)
  | condition _ closing reading _ innerClosing _ inside later =>
    have opened := (settle_advances closing).trans (readCondition_advances reading)
    exact (opened.trans inside).trans ((settle_advances innerClosing).trans later)
  | other conditional context _ _ innerClosing _ inside later =>
    exact inside.trans ((settle_advances innerClosing).trans later)
  | stray _ reading _ later => exact (Context.advances_of_fail reading).trans later

theorem compileBlock_advances (grammar : Grammar) (node : Node) (context : Context) :
    Advances context.standing (compileBlock grammar node context).value.2.standing := by
  have walked := compileNodes_walk grammar node.children none context.enterBlock
  rw [compileBlock, value_within]
  generalize (compileNodes grammar node.children none context.enterBlock).value = progress at *
  have settled : Advances progress.context.standing (settle progress.pending progress.context).2.standing :=
    settle_advances rfl
  exact walked.advances.trans settled

/-! ## Tables -/

theorem compileAlias_advances (classes : Classes) (node : Node) (context : Context) :
    Advances context.standing (compileAlias classes node context).value.standing := by
  unfold compileAlias Classes.readAlias
  dsimp only
  cases node.asEntry? "=" with
  | none => exact (context.atLine node.lineNumber).fail_advances _
  | some entry =>
    dsimp only [Recorded.value_bind, Recorded.activity_bind, Recorded.value_pure]
    cases classes.resolveAlias entry.2 with
    | error reason => exact ((context.atLine node.lineNumber).fail_advances _)
    | ok itemType => exact .refl _

theorem compileAliases_advances (classes : Classes) (nodes : List Node) (context : Context) :
    Advances context.standing (compileAliases classes nodes context).value.standing := by
  induction nodes generalizing context with
  | nil => exact .refl _
  | cons node rest inductionHypothesis =>
    exact (compileAlias_advances classes node context).trans (inductionHypothesis _)

theorem compileOption_advances (node : Node) (context : Context) :
    Advances context.standing (compileOption node context).value.standing := by
  unfold compileOption
  dsimp only
  cases node.asEntry? ":" with
  | none => exact (context.atLine node.lineNumber).fail_advances _
  | some entry => exact .refl _

theorem compileOptions_advances (nodes : List Node) (context : Context) :
    Advances context.standing (compileOptions nodes context).value.standing := by
  induction nodes generalizing context with
  | nil => exact .refl _
  | cons node rest inductionHypothesis =>
    exact (compileOption_advances node context).trans (inductionHypothesis _)

/-! ## Variables -/

theorem compileVariable_advances (classes : Classes) (node : Node) (context : Context)
    (values : Variables) :
    Advances context.standing (compileVariable classes node context values).value.1.standing := by
  unfold compileVariable setVariable
  dsimp only
  cases node.asEntry? "=" with
  | none => exact (context.atLine node.lineNumber).fail_advances _
  | some entry =>
    dsimp only [Recorded.value_bind, Recorded.value_pure]
    rcases (defaultVariable classes entry.1 entry.2 values).value with problem | _ | added
    · exact (context.atLine node.lineNumber).fail_advances _
    · exact .refl _
    · exact .refl _

theorem compileVariables_advances (classes : Classes) (nodes : List Node) (context : Context)
    (values : Variables) :
    Advances context.standing (compileVariables classes nodes context values).value.1.standing := by
  induction nodes generalizing context values with
  | nil => exact .refl _
  | cons node rest inductionHypothesis =>
    exact (compileVariable_advances classes node context values).trans (inductionHypothesis _ _)

/-! ## Sections -/

theorem substitute_advances (text : String) (context : Context) :
    Advances context.standing (Options.substitute text context).value.2.standing := by
  rcases substitute_cases text context with ⟨expanded, substituted⟩ | ⟨name, substituted⟩
  · rw [substituted]
    exact .refl _
  · rw [substituted]
    exact context.fail_advances _

theorem compileEvent_advances (grammar : Grammar) (node : Node) (context : Context) :
    Advances context.standing (compileEvent grammar node context).value.2.standing := by
  unfold compileEvent Grammar.readEvent
  dsimp only [Recorded.value_bind, Recorded.value_pure]
  have substituted := substitute_advances ((Text.afterKeyword? "on " (Text.trim node.name)).getD (Text.trim node.name))
    context
  refine substituted.trans ?_
  rcases (Options.substitute _ context).value with ⟨_ | text, context⟩
  · exact .refl _
  · dsimp only [Recorded.value_bind, Recorded.value_pure]
    cases grammar.parseEvent text context with
    | error reason => exact context.fail_advances (.notUnderstood .event (Text.trim node.name) reason)
    | ok understood =>
      exact compileBlock_advances grammar node
        ((context.withEvent (some (.trigger understood.2 understood.1.eventTypes))).withDelay .no)

theorem compileCommand_advances {commands : Commands σ} (proper : commands.Advances) (node : Node)
    (session : Session σ) :
    Advances session.context.standing (compileCommand commands node session).value.2.context.standing := by
  let inside := session.context.withEvent (some .command)
  have compiled : Advances session.context.standing _ := proper node inside session.state
  unfold compileCommand Commands.compileSection
  dsimp only [Recorded.value_bind, Recorded.value_pure]
  generalize commands.compile node inside session.state = result at compiled ⊢
  obtain ⟨⟨reason | command, after, state⟩, activity⟩ := result
  · have failed := ((after.withEvent none).atLine node.lineNumber).fail_advances (.refused reason)
    exact compiled.trans failed
  · exact compiled

/-! ## Scripts -/

variable {services : Services σ}

theorem compileSection_advances (proper : services.commands.Advances) (node : Node)
    (session : Session σ) :
    Advances session.context.standing (compileSection services node session).value.2.context.standing := by
  unfold compileSection
  cases SectionKind.of (Text.trim node.name) <;>
    simp only [Recorded.value_bind, Recorded.value_pure, Session.withContext]
  case aliases => exact compileAliases_advances services.classes node.children session.context
  case options => exact compileOptions_advances node.children session.context
  case defaults =>
    exact compileVariables_advances services.classes node.children session.context session.values
  case unbalanced => exact session.context.fail_advances _
  case command => exact compileCommand_advances proper node session
  case event => exact compileEvent_advances services.grammar node session.context

theorem compileTopLevel_advances (proper : services.commands.Advances) (node : Node)
    (session : Session σ) :
    Advances session.context.standing (compileTopLevel services node session).value.2.context.standing := by
  unfold compileTopLevel
  dsimp only
  split
  · exact compileSection_advances proper node (session.withContext (session.context.atLine node.lineNumber))
  · exact (session.context.atLine node.lineNumber).fail_advances _

theorem compileAll_advances (proper : services.commands.Advances) (nodes : List Node)
    (session : Session σ) :
    Advances session.context.standing (compileAll services nodes session).value.2.context.standing := by
  induction nodes generalizing session with
  | nil => exact .refl _
  | cons node rest inductionHypothesis =>
    exact (compileTopLevel_advances proper node session).trans (inductionHypothesis _)

end Compile

end TriggerScript
