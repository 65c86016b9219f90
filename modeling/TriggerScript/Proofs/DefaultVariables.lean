import TriggerScript.Proofs.Advance

/-!
# Default variables

A variables section gives values to variables that have none. So a script changes no variable but those
that its variables sections name, and of them only those without a value; once it was compiled without
errors, they all have one.
-/

namespace TriggerScript

/-- Only variables among some names were added, and only where there was no value. -/
def Variables.AddsOnly (names : List String) (before after : Variables) : Prop :=
  ∀ name, name ∉ names ∨ (before.find? name).isSome → after.find? name = before.find? name

namespace Variables.AddsOnly

variable {names names' : List String} {before between after : Variables}

theorem refl (names : List String) (values : Variables) : AddsOnly names values values := fun _ _ => rfl

theorem keeps (adds : AddsOnly names before after) {name : String} (given : (before.find? name).isSome) :
    (after.find? name).isSome :=
  adds name (.inr given) ▸ given

theorem trans (first : AddsOnly names before between) (second : AddsOnly names' between after) :
    AddsOnly (names ++ names') before after := by
  intro name exempt
  have firstKept : between.find? name = before.find? name :=
    first name (exempt.imp_left fun absent here => absent (List.mem_append_left _ here))
  rw [← firstKept]
  apply second
  rw [firstKept]
  exact exempt.imp_left fun absent there => absent (List.mem_append_right _ there)

theorem insert {name : String} (new : before.find? name = none) (listed : name ∈ names) (value : Value) :
    AddsOnly names before (before.insert name value) := by
  intro other exempt
  have different : other ≠ name := by
    rintro rfl
    rcases exempt with absent | given
    · exact absent listed
    · simp [new] at given
  rw [Table.find?_insert, if_neg different]

end Variables.AddsOnly

/-- Where there is no error in the end, there was none before. -/
theorem Advances.clean {before after : Standing} (advances : Advances before after)
    (clean : errorCount after.diagnostics = 0) : errorCount before.diagnostics = 0 :=
  Nat.le_zero.mp (clean ▸ advances.kept.sublist.countP_le)

namespace Compile

open Variables (AddsOnly)

variable {σ : Type} {services : Services σ}

/-! ## One entry -/

/-- What an entry of a variables section says, whatever values there are. -/
inductive Entry where
  | refused (problem : Problem)
  /-- Its name has a percent sign in it, so it is passed over. -/
  | passed
  /-- A value for a variable, or the reason why its text gives none. -/
  | offers (name : String) (stored : Except Problem Value)

def Entry.of (classes : Classes) (node : Node) : Entry :=
  match node.asEntry? "=" with
  | none => .refused .variableLine
  | some (key, text) =>
    match (storedName classes (insideBraces key.toList)).value with
    | .error problem => .refused problem
    | .ok name =>
      if name.contains '%' then .passed else .offers (String.ofList name) (storedValue classes text).value

theorem defaultVariable_value (classes : Classes) (key text : String) (values : Variables) :
    (defaultVariable classes key text values).value =
      match (storedName classes (insideBraces key.toList)).value with
      | .error problem => .error problem
      | .ok name =>
        if name.contains '%' then .ok none
        else if (values.find? (String.ofList name)).isSome then .ok none
        else
          match (storedValue classes text).value with
          | .error problem => .error problem
          | .ok value => .ok (some (String.ofList name, value)) := by
  unfold defaultVariable getVariable
  simp only [Recorded.value_bind]
  cases (storedName classes (insideBraces key.toList)).value with
  | error problem => rfl
  | ok name =>
    dsimp only
    split
    · rfl
    · simp only [Recorded.value_bind, Recorded.value_pure]
      cases values.find? (String.ofList name) with
      | some value => rfl
      | none =>
        dsimp only [Recorded.value_bind]
        cases (storedValue classes text).value <;> rfl

theorem compileVariable_value (classes : Classes) (node : Node) (context : Context) (values : Variables) :
    (compileVariable classes node context values).value =
      match Entry.of classes node with
      | .refused problem => (((context.atLine node.lineNumber).fail problem).value, values)
      | .passed => (context.atLine node.lineNumber, values)
      | .offers name stored =>
        if (values.find? name).isSome then (context.atLine node.lineNumber, values)
        else
          match stored with
          | .error problem => (((context.atLine node.lineNumber).fail problem).value, values)
          | .ok value => (context.atLine node.lineNumber, values.insert name value) := by
  unfold compileVariable Entry.of
  dsimp only
  cases node.asEntry? "=" with
  | none => rfl
  | some entry =>
    dsimp only [Recorded.value_bind]
    rw [defaultVariable_value]
    cases (storedName classes (insideBraces entry.1.toList)).value with
    | error problem => rfl
    | ok name =>
      dsimp only
      by_cases patterned : name.contains '%' = true
      · rw [if_pos patterned, if_pos patterned]
        rfl
      · rw [if_neg patterned, if_neg patterned]
        dsimp only
        by_cases known : (values.find? (String.ofList name)).isSome = true
        · rw [if_pos known, if_pos known]
          rfl
        · rw [if_neg known, if_neg known]
          cases (storedValue classes entry.2).value <;> rfl

/-- The variables once an entry was compiled. -/
def entered (classes : Classes) (values : Variables) (node : Node) : Variables :=
  match Entry.of classes node with
  | .offers name (.ok value) => if (values.find? name).isSome then values else values.insert name value
  | _ => values

theorem compileVariable_entered (classes : Classes) (node : Node) (context : Context) (values : Variables) :
    (compileVariable classes node context values).value.2 = entered classes values node := by
  rw [compileVariable_value, entered]
  rcases Entry.of classes node with problem | _ | ⟨name, problem | value⟩
  · rfl
  · rfl
  · dsimp only
    split <;> rfl
  · dsimp only
    split <;> rfl

/-- The variable that an entry offers a value for. -/
def Entry.name? : Entry → Option String
  | .offers name _ => some name
  | .refused _ | .passed => none

/-- The variables that some entries offer values for. -/
def offered (classes : Classes) (entries : List Node) : List String :=
  entries.flatMap fun node => (Entry.of classes node).name?.toList

theorem entered_addsOnly (classes : Classes) (values : Variables) (node : Node) :
    AddsOnly (Entry.of classes node).name?.toList values (entered classes values node) := by
  unfold entered
  generalize Entry.of classes node = entry
  split
  · next name value =>
    split
    · exact .refl _ values
    · next unknown => exact .insert (Option.not_isSome_iff_eq_none.mp unknown) List.mem_cons_self value
  · exact .refl _ values

/-- An entry that is compiled without an error leaves a value for its variable. -/
theorem compileVariable_defines {classes : Classes} {node : Node} {context : Context} {values : Variables}
    (clean : errorCount (compileVariable classes node context values).value.1.diagnostics = 0) {name : String}
    (named : name ∈ (Entry.of classes node).name?.toList) :
    ((compileVariable classes node context values).value.2.find? name).isSome := by
  have reported (problem : Problem) :
      errorCount ((context.atLine node.lineNumber).fail problem).value.diagnostics ≠ 0 := by
    simp [Context.fail, Context.report, Context.addDiagnostic, Context.diagnosticOf, errorCount,
      List.countP_append, Diagnostic.isError]
  rw [compileVariable_value] at clean ⊢
  generalize Entry.of classes node = entry at clean named ⊢
  rcases entry with problem | _ | ⟨offeredName, stored⟩
  · cases named
  · cases named
  · cases List.mem_singleton.mp named
    dsimp only at clean ⊢
    split
    · next known => exact known
    · next unknown =>
      rw [if_neg unknown] at clean
      cases stored with
      | error problem => exact absurd clean (reported problem)
      | ok value => simp [Table.find?_insert]

/-! ## Sections -/

theorem compileVariables_entered (classes : Classes) (nodes : List Node) (context : Context) (values : Variables) :
    (compileVariables classes nodes context values).value.2 = nodes.foldl (entered classes) values := by
  induction nodes generalizing context values with
  | nil => rfl
  | cons node rest inductionHypothesis =>
    simp only [compileVariables, Recorded.value_bind, inductionHypothesis, compileVariable_entered, List.foldl_cons]

theorem foldl_entered_addsOnly (classes : Classes) (entries : List Node) (values : Variables) :
    AddsOnly (offered classes entries) values (entries.foldl (entered classes) values) := by
  induction entries generalizing values with
  | nil => exact .refl _ values
  | cons node rest inductionHypothesis =>
    exact (entered_addsOnly classes values node).trans (inductionHypothesis _)

theorem compileVariables_defines {classes : Classes} {nodes : List Node} {context : Context} {values : Variables}
    (clean : errorCount (compileVariables classes nodes context values).value.1.diagnostics = 0) {name : String}
    (named : name ∈ offered classes nodes) :
    ((compileVariables classes nodes context values).value.2.find? name).isSome := by
  induction nodes generalizing context values with
  | nil => cases named
  | cons node rest inductionHypothesis =>
    let first := (compileVariable classes node context values).value
    -- What the first entry defines stays defined, since the later ones only add.
    rcases List.mem_append.mp named with here | later
    · have firstClean := (compileVariables_advances classes rest first.1 first.2).clean clean
      have later := foldl_entered_addsOnly classes rest first.2
      rw [← compileVariables_entered classes rest first.1] at later
      exact later.keeps (compileVariable_defines firstClean here)
    · exact inductionHypothesis clean later

/-! ## Scripts -/

/-- The entries of a top-level node, if it is a variables section. -/
def sectionEntries (node : Node) : List Node :=
  if node.isSection = true ∧ SectionKind.of (Text.trim node.name) = .defaults then node.children else []

/-- The entries of all variables sections of a script. -/
def defaultEntries (nodes : List Node) : List Node := nodes.flatMap sectionEntries

/-- The variables that the variables sections of a script name. -/
def defaultNames (classes : Classes) (nodes : List Node) : List String := offered classes (defaultEntries nodes)

theorem compileTopLevel_defaults {node : Node}
    (defaults : node.isSection = true ∧ SectionKind.of (Text.trim node.name) = .defaults) (services : Services σ)
    (session : Session σ) :
    (compileTopLevel services node session).value.2 =
      let compiled := (compileVariables services.classes node.children
        (session.context.atLine node.lineNumber) session.values).value
      { session with context := compiled.1, values := compiled.2 } := by
  simp [compileTopLevel, compileSection, defaults.1, defaults.2, Session.withContext]

/-- Only variables sections have a part in the values. -/
theorem compileTopLevel_values {node : Node}
    (other : ¬ (node.isSection = true ∧ SectionKind.of (Text.trim node.name) = .defaults)) (services : Services σ)
    (session : Session σ) : (compileTopLevel services node session).value.2.values = session.values := by
  unfold compileTopLevel
  dsimp only
  split
  · next isSection =>
    unfold compileSection
    cases kind : SectionKind.of (Text.trim node.name) <;>
      simp only [Recorded.value_bind, Recorded.value_pure, Session.withContext]
    case defaults => exact absurd ⟨isSection, kind⟩ other
    case command =>
      -- Refused or not, a command has no part in the values.
      unfold compileCommand
      dsimp only [Recorded.value_bind]
      generalize (Commands.compileSection services.commands node _ _).value = compiled
      rcases compiled with ⟨_ | _, _, _⟩ <;> rfl
  · rfl

theorem compileTopLevel_entered (services : Services σ) (node : Node) (session : Session σ) :
    (compileTopLevel services node session).value.2.values =
      (sectionEntries node).foldl (entered services.classes) session.values := by
  unfold sectionEntries
  split
  · next defaults =>
    rw [compileTopLevel_defaults defaults]
    exact compileVariables_entered services.classes node.children _ session.values
  · next other => exact compileTopLevel_values other services session

theorem compileAll_entered (services : Services σ) (nodes : List Node) (session : Session σ) :
    (compileAll services nodes session).value.2.values =
      (defaultEntries nodes).foldl (entered services.classes) session.values := by
  induction nodes generalizing session with
  | nil => rfl
  | cons node rest inductionHypothesis =>
    simp only [compileAll, Recorded.value_bind, Recorded.value_pure, inductionHypothesis, compileTopLevel_entered,
      defaultEntries, List.flatMap_cons, List.foldl_append]

theorem compileAll_addsOnly (services : Services σ) (nodes : List Node) (session : Session σ) :
    AddsOnly (defaultNames services.classes nodes) session.values
      (compileAll services nodes session).value.2.values := by
  rw [compileAll_entered]
  exact foldl_entered_addsOnly services.classes (defaultEntries nodes) session.values

theorem compileTopLevel_defines {node : Node} {session : Session σ}
    (clean : errorCount (compileTopLevel services node session).value.2.context.diagnostics = 0) {name : String}
    (named : name ∈ offered services.classes (sectionEntries node)) :
    ((compileTopLevel services node session).value.2.values.find? name).isSome := by
  unfold sectionEntries at named
  split at named
  · next defaults =>
    rw [compileTopLevel_defaults defaults] at clean ⊢
    exact compileVariables_defines clean named
  · cases named

/-- A compilation without errors leaves values for all default variables. -/
theorem compileAll_defines (proper : services.commands.Advances) {nodes : List Node} {session : Session σ}
    (clean : errorCount (compileAll services nodes session).value.2.context.diagnostics = 0) {name : String}
    (named : name ∈ defaultNames services.classes nodes) :
    ((compileAll services nodes session).value.2.values.find? name).isSome := by
  induction nodes generalizing session with
  | nil => cases named
  | cons node rest inductionHypothesis =>
    let first := (compileTopLevel services node session).value.2
    rw [defaultNames, defaultEntries, List.flatMap_cons, offered, List.flatMap_append] at named
    rcases List.mem_append.mp named with here | later
    · have firstClean := (compileAll_advances proper rest first).clean clean
      exact (compileAll_addsOnly services rest first).keeps (compileTopLevel_defines firstClean here)
    · exact inductionHypothesis clean later

theorem compileFile_addsOnly (services : Services σ) (file : Path) (root : Node) (values : Variables) (state : σ) :
    AddsOnly (defaultNames services.classes root.children) values
      (compileFile services file root values state).value.2.values := by
  simp only [compileFile, compileScript, Recorded.value_bind, Recorded.value_pure]
  exact compileAll_addsOnly services root.children (Session.withContext ⟨.ofFile (some file), values, state⟩ _)

theorem compileFile_defines (proper : services.commands.Advances) {file : Path} {root : Node} {values : Variables}
    {state : σ}
    (clean : errorCount (compileFile services file root values state).value.2.context.diagnostics = 0)
    {name : String} (named : name ∈ defaultNames services.classes root.children) :
    ((compileFile services file root values state).value.2.values.find? name).isSome := by
  simp only [compileFile, compileScript, Recorded.value_bind, Recorded.value_pure] at clean ⊢
  exact compileAll_defines proper clean named

end Compile

end TriggerScript
