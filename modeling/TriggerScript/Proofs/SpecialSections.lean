import TriggerScript.Proofs.FaultySections

/-!
# Where special sections stand

The nodes of a script are taken in the order in which they stand. A special section enters options, aliases or
default variables, and code finds those that were entered in front of it. So a script is woven from two threads:
one of special sections and one of all other nodes. All that the other nodes see of the special sections are the
tables in force. Wherever these are the final ones already, it makes no difference where the special sections
stand, and they may be moved in front.
-/

namespace TriggerScript

/-! ## Tables -/

/-- The tables of a script that its code can look at. -/
structure Tables where
  options : Table String String := {}
  aliases : Table String ItemType := {}
deriving DecidableEq

namespace Context

def tables (context : Context) : Tables := ⟨context.options, context.aliases⟩

def withTables (context : Context) (tables : Tables) : Context :=
  { context with options := tables.options, aliases := tables.aliases }

theorem renewed_eq_iff {left right : Context} :
    left.renewed = right.renewed ↔ left.file = right.file ∧ left.tables = right.tables := by
  simp [renewed, tables]

theorem renewed_of_surroundings {left right : Context} (same : left.surroundings = right.surroundings) :
    left.renewed = right.renewed := by
  obtain ⟨sameFile, -, sameOptions, sameAliases, -⟩ := Surroundings.mk.inj same
  exact renewed_eq_iff.mpr ⟨sameFile, by rw [tables, tables, sameOptions, sameAliases]⟩

/-- Contexts with the same file, tables and posture differ in the line and the reports only. -/
theorem atLine_eq_behind {left right : Context} (sameSetting : left.renewed = right.renewed)
    (samePosture : left.posture = right.posture) (line : Nat) :
    left.atLine line = (right.atLine line).unreported.behind left.diagnostics := by
  obtain ⟨sameEvent, sameDepth, sameDelay⟩ := Posture.mk.inj samePosture
  simp only [renewed, mk.injEq, true_and, and_true] at sameSetting
  obtain ⟨sameFile, sameOptions, sameAliases⟩ := sameSetting
  simp [atLine, unreported, behind, *]

end Context

namespace Compile

variable {σ : Type} {services : Services σ} {node : Node}

def enterOption (options : Table String String) (node : Node) : Table String String :=
  match node.asEntry? ":" with
  | none => options
  | some (key, value) => options.insert key value

def enterAlias (classes : Classes) (aliases : Table String ItemType) (node : Node) : Table String ItemType :=
  match node.asEntry? "=" with
  | none => aliases
  | some (key, value) =>
    match classes.resolveAlias value with
    | .error _ => aliases
    | .ok itemType => aliases.insert (Text.lowercase key) itemType

/-- The tables once a node was compiled; only a section of options or of aliases enters anything. -/
def enterTables (classes : Classes) (tables : Tables) (node : Node) : Tables :=
  if node.isOfKind .options then { tables with options := node.children.foldl enterOption tables.options }
  else if node.isOfKind .aliases then
    { tables with aliases := node.children.foldl (enterAlias classes) tables.aliases }
  else tables

/-- The tables that the special sections among some nodes make. -/
def tablesOf (classes : Classes) (nodes : List Node) : Tables := nodes.foldl (enterTables classes) {}

/-- From some tables on, every section of code among the nodes finds the final ones. -/
def Settled (classes : Classes) (final : Tables) : Tables → List Node → Prop
  | _, [] => True
  | tables, node :: rest =>
    (node.isCode = true → tables = final) ∧ Settled classes final (enterTables classes tables node) rest

instance Settled.decidable (classes : Classes) (final : Tables) :
    (tables : Tables) → (nodes : List Node) → Decidable (Settled classes final tables nodes)
  | _, [] => inferInstanceAs (Decidable True)
  | tables, node :: rest =>
    have := Settled.decidable classes final (enterTables classes tables node) rest
    inferInstanceAs (Decidable ((node.isCode = true → tables = final) ∧ _))

/-- The special sections in front of all other nodes, both in their order. -/
def specialsFirst (nodes : List Node) : List Node := nodes.filter (·.isSpecial) ++ nodes.filter (!·.isSpecial)

/-! ## Special sections -/

/-- A run over entries of a file changes the tables in one way, and what it reports does not depend on the context. -/
def Enters (file : Option Path) (enter : Tables → Tables) (run : Context → Context) : Prop :=
  ∃ reports, ∀ context : Context, context.file = file → ∃ line,
    run context = { context.withTables (enter context.tables) with line, diagnostics := context.diagnostics ++ reports }

namespace Enters

variable {file : Option Path} {enter enter' : Tables → Tables} {run run' : Context → Context}

theorem atLine (file : Option Path) (line : Nat) : Enters file id (·.atLine line) :=
  ⟨[], fun _ _ => ⟨line, by simp [Context.withTables, Context.tables, Context.atLine]⟩⟩

theorem refl (file : Option Path) : Enters file id id :=
  ⟨[], fun context _ => ⟨context.line, by simp [Context.withTables, Context.tables]⟩⟩

theorem fail (file : Option Path) (line : Nat) (problem : Problem) :
    Enters file id (fun context => ((context.atLine line).fail problem).value) := by
  refine ⟨[⟨.error, problem.message, file, line⟩], fun context sameFile => ⟨line, ?_⟩⟩
  subst sameFile
  rfl

theorem trans (first : Enters file enter run) (second : Enters file enter' run') :
    Enters file (enter' ∘ enter) (run' ∘ run) := by
  obtain ⟨reports, ran⟩ := first
  obtain ⟨reports', ran'⟩ := second
  refine ⟨reports ++ reports', fun context sameFile => ?_⟩
  obtain ⟨line, entered⟩ := ran context sameFile
  obtain ⟨line', entered'⟩ := ran' (run context) (entered ▸ sameFile)
  refine ⟨line', ?_⟩
  rw [Function.comp_apply, entered', entered]
  simp [Context.withTables, Context.tables]

end Enters

theorem enters_option (file : Option Path) (node : Node) :
    Enters file (fun tables => { tables with options := enterOption tables.options node })
      (fun context => (compileOption node context).value) := by
  unfold compileOption enterOption
  cases node.asEntry? ":" with
  | none => exact .fail file node.lineNumber .optionLine
  | some entry =>
    exact ⟨[], fun _ _ => ⟨node.lineNumber, by simp [Context.withTables, Context.tables, Context.atLine]⟩⟩

theorem enters_options (file : Option Path) (nodes : List Node) :
    Enters file (fun tables => { tables with options := nodes.foldl enterOption tables.options })
      (fun context => (compileOptions nodes context).value) := by
  induction nodes with
  | nil => exact .refl file
  | cons node rest inductionHypothesis => exact (enters_option file node).trans inductionHypothesis

theorem enters_alias (classes : Classes) (file : Option Path) (node : Node) :
    Enters file (fun tables => { tables with aliases := enterAlias classes tables.aliases node })
      (fun context => (compileAlias classes node context).value) := by
  unfold compileAlias enterAlias Classes.readAlias
  cases node.asEntry? "=" with
  | none => exact .fail file node.lineNumber .aliasLine
  | some entry =>
    dsimp only [Recorded.value_bind, Recorded.value_pure]
    cases classes.resolveAlias entry.2 with
    | error reason => exact .fail file node.lineNumber (.refused reason)
    | ok itemType =>
      exact ⟨[], fun _ _ => ⟨node.lineNumber, by simp [Context.withTables, Context.tables, Context.atLine]⟩⟩

theorem enters_aliases (classes : Classes) (file : Option Path) (nodes : List Node) :
    Enters file (fun tables => { tables with aliases := nodes.foldl (enterAlias classes) tables.aliases })
      (fun context => (compileAliases classes nodes context).value) := by
  induction nodes with
  | nil => exact .refl file
  | cons node rest inductionHypothesis => exact (enters_alias classes file node).trans inductionHypothesis

/-- Default variables are in no table that code looks at. -/
theorem enters_variable (classes : Classes) (file : Option Path) (node : Node) (values : Variables) :
    Enters file id (fun context => (compileVariable classes node context values).value.1) := by
  simp only [compileVariable_value]
  rcases Entry.of classes node with problem | _ | ⟨name, stored⟩
  · exact .fail file node.lineNumber problem
  · exact .atLine file node.lineNumber
  · dsimp only
    split
    · exact .atLine file node.lineNumber
    · cases stored with
      | error problem => exact .fail file node.lineNumber problem
      | ok value => exact .atLine file node.lineNumber

theorem enters_variables (classes : Classes) (file : Option Path) (nodes : List Node) (values : Variables) :
    Enters file id (fun context => (compileVariables classes nodes context values).value.1) := by
  induction nodes generalizing values with
  | nil => exact .refl file
  | cons node rest inductionHypothesis =>
    have both := (enters_variable classes file node values).trans (inductionHypothesis (entered classes values node))
    simp only [compileVariables, Recorded.value_bind, compileVariable_entered]
    exact both

/-- All that a special section does, by its kind. -/
theorem compileTopLevel_special (special : node.isSpecial = true) (services : Services σ) (file : Option Path)
    (values : Variables) :
    ∃ run, Enters file (enterTables services.classes · node) run ∧
      ∀ session : Session σ, session.values = values →
        (compileTopLevel services node session).value =
          ({}, ⟨run session.context, (sectionEntries node).foldl (entered services.classes) values,
            session.state⟩) := by
  simp only [Node.isSpecial, Bool.or_eq_true] at special
  rcases special with (isKind | isKind) | isKind
  all_goals obtain ⟨isSection, kind⟩ := Bool.and_eq_true_iff.mp isKind
  all_goals replace kind := of_decide_eq_true kind
  · let run (context : Context) :=
      (compileAliases services.classes node.children (context.atLine node.lineNumber)).value
    refine ⟨run, ?_, ?_⟩
    · have entered := (Enters.atLine file node.lineNumber).trans (enters_aliases services.classes file node.children)
      have enters : (enterTables services.classes · node) = fun tables =>
          { tables with aliases := node.children.foldl (enterAlias services.classes) tables.aliases } := by
        simp [enterTables, Node.isOfKind, isSection, kind]
      rw [enters]
      exact entered
    · rintro session rfl
      simp [compileTopLevel, compileSection, isSection, kind, Session.withContext, sectionEntries, run]
  · let run (context : Context) := (compileOptions node.children (context.atLine node.lineNumber)).value
    refine ⟨run, ?_, ?_⟩
    · have entered := (Enters.atLine file node.lineNumber).trans (enters_options file node.children)
      have enters : (enterTables services.classes · node) = fun tables =>
          { tables with options := node.children.foldl enterOption tables.options } := by
        simp [enterTables, Node.isOfKind, isSection, kind]
      rw [enters]
      exact entered
    · rintro session rfl
      simp [compileTopLevel, compileSection, isSection, kind, Session.withContext, sectionEntries, run]
  · let run (context : Context) :=
      (compileVariables services.classes node.children (context.atLine node.lineNumber) values).value.1
    refine ⟨run, ?_, ?_⟩
    · have entered :=
        (Enters.atLine file node.lineNumber).trans (enters_variables services.classes file node.children values)
      have enters : (enterTables services.classes · node) = id := by
        funext tables
        simp [enterTables, Node.isOfKind, kind]
      rw [enters]
      exact entered
    · rintro session rfl
      simp [compileTopLevel, compileSection, isSection, kind, Session.withContext, sectionEntries, run,
        compileVariables_entered]

/-! ## Other nodes -/

/-- A node is special, or code, or at fault. -/
theorem kind_cases (node : Node) :
    node.isSpecial = true ∨ node.isCode = true ∨ node.isSection = false ∨ node.isOfKind .unbalanced = true := by
  cases isSection : node.isSection with
  | false => simp
  | true =>
    cases kind : SectionKind.of (Text.trim node.name) <;>
      simp [Node.isSpecial, Node.isCode, Node.isOfKind, isSection, kind]

theorem not_special_of_code (code : node.isCode = true) : node.isSpecial = false := by
  cases special : node.isSpecial with
  | false => rfl
  | true =>
    simp only [Node.isCode, Node.isSpecial, Node.isOfKind, Bool.or_eq_true, Bool.and_eq_true, decide_eq_true_eq]
      at code special
    grind

theorem not_special_of_unbalanced (unbalanced : node.isOfKind .unbalanced = true) : node.isSpecial = false := by
  obtain ⟨isSection, kind⟩ := Bool.and_eq_true_iff.mp unbalanced
  simp [Node.isSpecial, Node.isOfKind, of_decide_eq_true kind]

theorem enterTables_of_not_special (ordinary : node.isSpecial = false) (classes : Classes) (tables : Tables) :
    enterTables classes tables node = tables := by
  simp only [Node.isSpecial, Bool.or_eq_false_iff] at ordinary
  simp [enterTables, ordinary.1.1, ordinary.1.2]

theorem compileEvent_renewed (grammar : Grammar) (node : Node) (context : Context) :
    (compileEvent grammar node context).value.2.renewed = context.renewed := by
  rcases compileEvent_cases grammar node context with ⟨problem, refused⟩ | ⟨expanded, info, spec, -, compiled⟩
  · rw [refused]
    rfl
  · rw [compiled]
    have block := Context.renewed_of_surroundings (compileBlock_surroundings grammar node
      ((context.withEvent (some (.trigger spec info.eventTypes))).withDelay .no))
    exact block

theorem compileTopLevel_renewed (keeps : services.commands.KeepsSurroundings) (code : node.isCode = true)
    (session : Session σ) :
    (compileTopLevel services node session).value.2.context.renewed = session.context.renewed := by
  rcases Bool.or_eq_true_iff.mp code with isCommand | isEvent
  · rw [compileTopLevel_command isCommand]
    let inside := (session.context.atLine node.lineNumber).withEvent (some .command)
    have kept := Context.renewed_of_surroundings (keeps node inside session.state)
    unfold compileCommand Commands.compileSection
    dsimp only [Recorded.value_bind, Session.withContext]
    generalize (services.commands.compile node _ session.state).value = compiled at kept ⊢
    obtain ⟨reason | command, after, state⟩ := compiled <;> exact kept
  · simp only [compileTopLevel_event isEvent, Session.withContext, compileEvent_renewed]
    rfl

/-- Code has nothing to do with the variables. -/
theorem compileTopLevel_withValues (code : node.isCode = true) (session : Session σ) (values : Variables) :
    (compileTopLevel services node { session with values }).value =
      ((compileTopLevel services node session).value.1,
        { (compileTopLevel services node session).value.2 with values }) := by
  rcases Bool.or_eq_true_iff.mp code with isCommand | isEvent
  · rw [compileTopLevel_command isCommand, compileTopLevel_command isCommand]
    unfold compileCommand Commands.compileSection
    dsimp only [Recorded.value_bind, Session.withContext]
    generalize (services.commands.compile node _ session.state).value = compiled
    obtain ⟨reason | command, after, state⟩ := compiled <;> rfl
  · simp only [compileTopLevel_event isEvent, Session.withContext]

/--
What a section of code comes to, where the file, the tables, the posture and the collaborators' state are given. It
does not depend on the variables or on what was reported, and it leaves the tables as they are.
-/
theorem compileTopLevel_code (reads : services.grammar.IgnoresReports) (commands : services.commands.IgnoresReports)
    (keeps : services.commands.KeepsSurroundings) (code : node.isCode = true) (context : Context) (state : σ) :
    ∃ (unit : CompiledUnit) (after : Context) (final : σ), after.renewed = context.renewed ∧
      ∀ session : Session σ, session.context.renewed = context.renewed → session.context.posture = context.posture →
        session.state = state → (compileTopLevel services node session).value =
          (unit, ⟨after.behind session.context.diagnostics, session.values, final⟩) := by
  let start : Session σ := ⟨(context.atLine node.lineNumber).unreported, {}, state⟩
  let compiled := (compileTopLevel services node start).value
  refine ⟨compiled.1, compiled.2.context, compiled.2.state, compileTopLevel_renewed keeps code start, ?_⟩
  rintro session sameSetting samePosture rfl
  have inside : session.withContext (session.context.atLine node.lineNumber) =
      Session.behind { start with values := session.values } session.context.diagnostics := by
    rw [Context.atLine_eq_behind sameSetting samePosture]
    rfl
  calc (compileTopLevel services node session).value
      = (compileTopLevel services node (session.withContext (session.context.atLine node.lineNumber))).value := rfl
    _ = (compiled.1, ⟨compiled.2.context.behind session.context.diagnostics, session.values, compiled.2.state⟩) := by
      rw [inside, compileTopLevel_behind reads commands, compileTopLevel_withValues code]
      rfl

theorem compileTopLevel_tables (keeps : services.commands.KeepsSurroundings) (node : Node) (session : Session σ) :
    (compileTopLevel services node session).value.2.context.tables =
      enterTables services.classes session.context.tables node := by
  rcases kind_cases node with special | code | loose | unbalanced
  · obtain ⟨run, ⟨reports, ran⟩, compiled⟩ :=
      compileTopLevel_special special services session.context.file session.values
    obtain ⟨line, entered⟩ := ran session.context rfl
    rw [compiled session rfl, entered]
    rfl
  · rw [enterTables_of_not_special (not_special_of_code code)]
    exact (Context.renewed_eq_iff.mp (compileTopLevel_renewed keeps code session)).2
  · rw [compileTopLevel_outside loose, enterTables_of_not_special (by simp [Node.isSpecial, Node.isOfKind, loose])]
    rfl
  · rw [compileTopLevel_unbalanced unbalanced, enterTables_of_not_special (not_special_of_unbalanced unbalanced)]
    rfl

theorem compileAll_tables (keeps : services.commands.KeepsSurroundings) (nodes : List Node) (session : Session σ) :
    (compileAll services nodes session).value.2.context.tables =
      nodes.foldl (enterTables services.classes) session.context.tables := by
  induction nodes generalizing session with
  | nil => rfl
  | cons node rest inductionHypothesis =>
    simp only [compileAll, Recorded.value_bind, Recorded.value_pure, inductionHypothesis, compileTopLevel_tables keeps,
      List.foldl_cons]

/-! ## Two threads -/

/-- A session is woven from two: special sections were compiled in one of them, and all other nodes in the other. -/
structure Woven (whole special other : Session σ) : Prop where
  setting : whole.context.renewed = special.context.renewed
  values : whole.values = special.values
  file : whole.context.file = other.context.file
  posture : whole.context.posture = other.context.posture
  state : whole.state = other.state
  reports : whole.context.diagnostics.Perm (special.context.diagnostics ++ other.context.diagnostics)

namespace Woven

variable {whole special other : Session σ}

theorem special_step (services : Services σ) (woven : Woven whole special other) (isSpecial : node.isSpecial = true) :
    let compiled := (compileTopLevel services node whole).value
    compiled.1 = {} ∧ Woven compiled.2 (compileTopLevel services node special).value.2 other := by
  obtain ⟨sameFile, sameTables⟩ := Context.renewed_eq_iff.mp woven.setting
  obtain ⟨run, ⟨reports, ran⟩, compiled⟩ :=
    compileTopLevel_special isSpecial services whole.context.file whole.values
  obtain ⟨line, entered⟩ := ran whole.context rfl
  obtain ⟨line', entered'⟩ := ran special.context sameFile.symm
  rw [compiled whole rfl, compiled special woven.values.symm, entered, entered', ← sameTables]
  refine ⟨rfl, ?_, rfl, woven.file, woven.posture, woven.state, ?_⟩
  · exact Context.renewed_eq_iff.mpr ⟨sameFile, rfl⟩
  · have moved : (special.context.diagnostics ++ other.context.diagnostics ++ reports).Perm
        (special.context.diagnostics ++ reports ++ other.context.diagnostics) := by
      rw [List.append_assoc, List.append_assoc]
      exact List.perm_append_comm.append_left _
    exact (woven.reports.append_right reports).trans moved

/-- What other nodes report is reported in the whole, too. -/
theorem reports_append (woven : Woven whole special other) (reports : List Diagnostic) :
    (whole.context.diagnostics ++ reports).Perm
      (special.context.diagnostics ++ (other.context.diagnostics ++ reports)) := by
  rw [← List.append_assoc]
  exact woven.reports.append_right reports

theorem fail (woven : Woven whole special other) (line : Nat) (problem : Problem) :
    Woven (whole.withContext ((whole.context.atLine line).fail problem).value) special
      (other.withContext ((other.context.atLine line).fail problem).value) := by
  refine ⟨woven.setting, woven.values, woven.file, woven.posture, woven.state, ?_⟩
  have reported := woven.reports_append [⟨.error, problem.message, whole.context.file, line⟩]
  nth_rewrite 2 [woven.file] at reported
  exact reported

/-- A section of code comes to the same in the whole, provided that it finds the same tables. -/
theorem other_step (reads : services.grammar.IgnoresReports) (commands : services.commands.IgnoresReports)
    (keeps : services.commands.KeepsSurroundings) (woven : Woven whole special other)
    (ordinary : node.isSpecial = false) (settled : node.isCode = true → whole.context.tables = other.context.tables) :
    let compiled := (compileTopLevel services node whole).value
    let alone := (compileTopLevel services node other).value
    compiled.1 = alone.1 ∧ Woven compiled.2 special alone.2 := by
  rcases kind_cases node with isSpecial | code | loose | unbalanced
  · cases ordinary.symm.trans isSpecial
  · have setting : other.context.renewed = whole.context.renewed :=
      Context.renewed_eq_iff.mpr ⟨woven.file.symm, (settled code).symm⟩
    obtain ⟨unit, after, final, kept, compiled⟩ :=
      compileTopLevel_code reads commands keeps code whole.context whole.state
    rw [compiled whole rfl rfl rfl, compiled other setting woven.posture.symm woven.state.symm]
    refine ⟨rfl, ?_⟩
    exact ⟨kept.trans woven.setting, woven.values, rfl, rfl, rfl, woven.reports_append after.diagnostics⟩
  · rw [compileTopLevel_outside loose, compileTopLevel_outside loose]
    exact ⟨rfl, woven.fail node.lineNumber .codeOutsideTrigger⟩
  · rw [compileTopLevel_unbalanced unbalanced, compileTopLevel_unbalanced unbalanced]
    exact ⟨rfl, woven.fail node.lineNumber .unbalancedQuotes⟩

/-- A whole script is woven from its special sections and its other nodes. -/
theorem run (reads : services.grammar.IgnoresReports) (commands : services.commands.IgnoresReports)
    (keeps : services.commands.KeepsSurroundings) {nodes : List Node} (woven : Woven whole special other)
    (settled : Settled services.classes other.context.tables whole.context.tables nodes) :
    let compiled := (compileAll services nodes whole).value
    let alone := (compileAll services (nodes.filter (!·.isSpecial)) other).value
    compiled.1 = alone.1 ∧
      Woven compiled.2 (compileAll services (nodes.filter (·.isSpecial)) special).value.2 alone.2 := by
  induction nodes generalizing whole special other with
  | nil => exact ⟨rfl, woven⟩
  | cons node rest inductionHypothesis =>
    obtain ⟨here, later⟩ := settled
    rw [← compileTopLevel_tables keeps] at later
    cases isSpecial : node.isSpecial with
    | true =>
      obtain ⟨noUnit, next⟩ := woven.special_step services isSpecial
      obtain ⟨sameUnit, final⟩ := inductionHypothesis next later
      simp only [List.filter_cons, isSpecial, compileAll, Recorded.value_bind, Recorded.value_pure, noUnit]
      exact ⟨sameUnit, final⟩
    | false =>
      obtain ⟨unit, next⟩ := woven.other_step reads commands keeps isSpecial here
      have otherTables := compileTopLevel_tables keeps node other
      rw [enterTables_of_not_special isSpecial] at otherTables
      rw [← otherTables] at later
      obtain ⟨sameUnit, final⟩ := inductionHypothesis next later
      simp only [List.filter_cons, isSpecial, compileAll, Recorded.value_bind, Recorded.value_pure, unit, sameUnit]
      exact ⟨rfl, final⟩

end Woven

/-! ## Special sections in front -/

theorem filter_special_specialsFirst (nodes : List Node) :
    (specialsFirst nodes).filter (·.isSpecial) = nodes.filter (·.isSpecial) := by
  simp [specialsFirst, List.filter_filter]

theorem filter_other_specialsFirst (nodes : List Node) :
    (specialsFirst nodes).filter (!·.isSpecial) = nodes.filter (!·.isSpecial) := by
  simp [specialsFirst, List.filter_filter]

theorem foldl_enterTables_special (classes : Classes) (nodes : List Node) (tables : Tables) :
    (nodes.filter (·.isSpecial)).foldl (enterTables classes) tables = nodes.foldl (enterTables classes) tables := by
  induction nodes generalizing tables with
  | nil => rfl
  | cons node rest inductionHypothesis =>
    cases isSpecial : node.isSpecial with
    | true => simp [isSpecial, inductionHypothesis]
    | false => simp [isSpecial, inductionHypothesis, enterTables_of_not_special isSpecial]

theorem tablesOf_specialsFirst (classes : Classes) (nodes : List Node) :
    tablesOf classes (specialsFirst nodes) = tablesOf classes nodes := by
  rw [tablesOf, ← foldl_enterTables_special, filter_special_specialsFirst, foldl_enterTables_special, tablesOf]

theorem sectionEntries_of_not_special (ordinary : node.isSpecial = false) : sectionEntries node = [] := by
  simp only [Node.isSpecial, Bool.or_eq_false_iff] at ordinary
  have notDefaults := ordinary.2
  simp only [Node.isOfKind, Bool.and_eq_false_iff, decide_eq_false_iff_not] at notDefaults
  exact if_neg fun both => notDefaults.elim (fun loose => by simp [both.1] at loose) (· both.2)

theorem defaultEntries_special (nodes : List Node) :
    defaultEntries (nodes.filter (·.isSpecial)) = defaultEntries nodes := by
  induction nodes with
  | nil => rfl
  | cons node rest inductionHypothesis =>
    simp only [defaultEntries] at inductionHypothesis ⊢
    cases isSpecial : node.isSpecial with
    | true => simp [isSpecial, inductionHypothesis]
    | false => simp [isSpecial, inductionHypothesis, sectionEntries_of_not_special isSpecial]

theorem defaultEntries_specialsFirst (nodes : List Node) :
    defaultEntries (specialsFirst nodes) = defaultEntries nodes := by
  rw [← defaultEntries_special, filter_special_specialsFirst, defaultEntries_special]

theorem settled_append {classes : Classes} {front back : List Node} {final tables : Tables}
    (special : ∀ node ∈ front, node.isSpecial = true)
    (settled : Settled classes final (front.foldl (enterTables classes) tables) back) :
    Settled classes final tables (front ++ back) := by
  induction front generalizing tables with
  | nil => exact settled
  | cons node rest inductionHypothesis =>
    refine ⟨fun code => ?_, inductionHypothesis (fun node member => special node (.tail _ member)) settled⟩
    cases (not_special_of_code code).symm.trans (special node (.head _))

theorem settled_of_not_special {classes : Classes} {final : Tables} {nodes : List Node}
    (ordinary : ∀ node ∈ nodes, node.isSpecial = false) : Settled classes final final nodes := by
  induction nodes with
  | nil => trivial
  | cons node rest inductionHypothesis =>
    refine ⟨fun _ => rfl, ?_⟩
    rw [enterTables_of_not_special (ordinary node (.head _))]
    exact inductionHypothesis fun node member => ordinary node (.tail _ member)

/-- Once the special sections stand in front, all code finds the final tables. -/
theorem settled_specialsFirst (classes : Classes) (nodes : List Node) :
    Settled classes (tablesOf classes nodes) {} (specialsFirst nodes) := by
  refine settled_append (fun node member => (List.mem_filter.mp member).2) ?_
  rw [foldl_enterTables_special, ← tablesOf]
  exact settled_of_not_special fun node member => by simpa using (List.mem_filter.mp member).2

/--
The special sections of a script are moved in front of all other nodes. In any case they make the same tables and
leave the variables with the same values. The compiled unit is the same, too, and so are the reports up to their order,
provided that all code of the script finds the final tables where it stands.
-/
theorem specials_may_stand_first (services : Services σ) (reads : services.grammar.IgnoresReports)
    (commands : services.commands.IgnoresReports) (keeps : services.commands.KeepsSurroundings) (name : String)
    (line : Nat) (nodes : List Node) (session : Session σ) :
    let given := (compileScript services (.section name nodes line) session).value
    let moved := (compileScript services (.section name (specialsFirst nodes) line) session).value
    given.2.context.tables = tablesOf services.classes nodes ∧ moved.2.context.tables = given.2.context.tables ∧
      moved.2.values = given.2.values ∧
      (Settled services.classes (tablesOf services.classes nodes) {} nodes →
        moved.1 = given.1 ∧ moved.2.state = given.2.state ∧
          moved.2.context.diagnostics.Perm given.2.context.diagnostics) := by
  let start := session.withContext { session.context with aliases := {}, options := {} }
  have compiled (nodes : List Node) : (compileScript services (.section name nodes line) session).value =
      (compileAll services nodes start).value := rfl
  simp only [compiled, compileAll_tables keeps, compileAll_entered, defaultEntries_specialsFirst]
  refine ⟨rfl, tablesOf_specialsFirst services.classes nodes, trivial, fun settled => ?_⟩
  -- The thread of the other nodes starts with the final tables and with nothing reported.
  let other := start.withContext (start.context.unreported.withTables (tablesOf services.classes nodes))
  have woven : Woven start start other :=
    ⟨rfl, rfl, rfl, rfl, rfl, by simp [other, Session.withContext, Context.unreported, Context.withTables]⟩
  have movedSettled : Settled services.classes other.context.tables start.context.tables (specialsFirst nodes) :=
    settled_specialsFirst services.classes nodes
  obtain ⟨givenUnit, givenWoven⟩ := woven.run reads commands keeps settled
  obtain ⟨movedUnit, movedWoven⟩ := woven.run reads commands keeps movedSettled
  rw [filter_other_specialsFirst] at movedUnit
  rw [filter_other_specialsFirst, filter_special_specialsFirst] at movedWoven
  exact ⟨movedUnit.trans givenUnit.symm, movedWoven.state.trans givenWoven.state.symm,
    movedWoven.reports.trans givenWoven.reports.symm⟩

end Compile

namespace Rehearsal

open Compile

/-- Special sections between code, of which those behind the first one enter nothing new in the tables. -/
def scattered : List Node :=
  [.section "options" [.line "greeting: hi" 2, .line "nonsense" 3] 1,
    .section "on join" [.line "send \x7b@greeting\x7d" 5, .line "bad" 6] 4,
    .section "variables" [.line "x = 1" 8, .line "y = ?" 9] 7,
    .section "command /body one" [.line "send \x7b@greeting\x7d" 11, .line "delay 1" 12] 10,
    .section "options" [.line "greeting: hi" 14, .line "nonsense" 15] 13,
    .line "stray" 16]

def scatteredStart : Session Desk := ⟨.ofFile (some scenePath), {}, {}⟩

/-- There are reports from special sections on both sides of those from code. -/
theorem scattered_specials_may_stand_first :
    let given := (compileScript sceneServices (.section "" scattered 0) scatteredStart).value
    let moved := (compileScript sceneServices (.section "" (specialsFirst scattered) 0) scatteredStart).value
    given.1.triggers.length = 1 ∧
      given.2.context.diagnostics.map (·.line) = [3, 6, 9, 15, 16] ∧
      moved.2.context.diagnostics.map (·.line) = [3, 9, 15, 6, 16] ∧
      Settled sceneServices.classes (tablesOf sceneServices.classes scattered) {} scattered ∧
      moved.1 = given.1 ∧ moved.2.state = given.2.state ∧
      moved.2.context.diagnostics.Perm given.2.context.diagnostics :=
  have settled : Settled sceneServices.classes (tablesOf sceneServices.classes scattered) {} scattered := by
    decide +kernel
  ⟨by decide +kernel, by decide +kernel, by decide +kernel, settled,
    (specials_may_stand_first sceneServices (grammar_ignoresReports [])
      (commands_ignoresReports (grammar_ignoresReports []) []) (commands_keepsSurroundings (grammar []) []) "" 0
      scattered scatteredStart).2.2.2 settled⟩

/-- A trigger in front of the option that it uses. -/
def optionBehind : List Node :=
  [.section "on join" [.line "send \x7b@x\x7d" 2] 1, .section "options" [.line "x: hi" 4] 3]

/-- An option is unknown to code in front of it; in front of the code, it would be known. -/
theorem option_behind_code_unseen :
    let given := (compileScript sceneServices (.section "" optionBehind 0) scatteredStart).value
    let moved := (compileScript sceneServices (.section "" (specialsFirst optionBehind) 0) scatteredStart).value
    moved.1 ≠ given.1 ∧ moved.2.context.diagnostics = [] ∧
      given.2.context.diagnostics = [⟨.error, (Problem.undefinedOption "x").message, some scenePath, 2⟩] := by
  decide +kernel

end Rehearsal

end TriggerScript
