import TriggerScript.Loader
import TriggerScript.Proofs.CompilerWork
import TriggerScript.Proofs.DiskChanges
import TriggerScript.Proofs.ScriptUnits
import TriggerScript.Rehearsal.Desk
import TriggerScript.Rehearsal.Grammar

/-!
# The collaborators of a rehearsal

The collaborators to rehearse with answer the same question in the same way, and advance a compilation
as they should. So whatever is asked of collaborators in general can be met.
-/

namespace TriggerScript.Rehearsal

theorem grammar_ignoresReports (forgotten : List String) : (grammar forgotten).IgnoresReports :=
  ⟨fun _ _ _ => rfl, fun _ _ _ => rfl, fun _ _ _ _ => rfl, fun _ _ _ => rfl⟩

theorem remark_behind (node : Node) (context : Context) (earlier : List Diagnostic) :
    (remark node (context.behind earlier)).value = (remark node context).value.behind earlier := by
  unfold remark
  dsimp only
  split
  · exact Context.report_behind (context.atLine node.lineNumber) earlier _ _
  · split
    · exact Context.report_behind (context.atLine node.lineNumber) earlier _ _
    · rfl

theorem remarks_behind (nodes : List Node) (context : Context) (earlier : List Diagnostic) :
    (remarks nodes (context.behind earlier)).value = (remarks nodes context).value.behind earlier := by
  induction nodes generalizing context with
  | nil => rfl
  | cons node rest inductionHypothesis =>
    simp only [remarks, Recorded.value_bind, remark_behind, inductionHypothesis]

theorem commandPayload_behind {grammar : Grammar} (ignores : grammar.IgnoresReports) (node : Node)
    (name : String) (context : Context) (earlier : List Diagnostic) :
    (commandPayload grammar node name (context.behind earlier)).value =
      ((commandPayload grammar node name context).value.1,
        (commandPayload grammar node name context).value.2.behind earlier) := by
  unfold commandPayload
  split
  · simp only [Recorded.value_bind, Recorded.value_pure, Compile.compileBlock_behind ignores]
    rfl
  · rfl

theorem commands_ignoresReports {grammar : Grammar} (ignores : grammar.IgnoresReports)
    (refused : List String) : (commands grammar refused).IgnoresReports := by
  intro node context earlier state
  simp only [commands, compileCommand, Recorded.value_bind, remarks_behind]
  generalize (remarks node.children context).value = inside
  split
  · rfl
  · split
    · rfl
    · simp only [Recorded.value_bind, commandPayload_behind ignores]
      generalize (commandPayload grammar node (commandName node.name) inside).value = payload
      unfold register
      dsimp only [commandFile, Context.file_behind]
      cases refused.contains (commandName node.name) <;> rfl

theorem commands_ignoresState (grammar : Grammar) (refused : List String) :
    (commands grammar refused).IgnoresState := by
  intro node context state state'
  simp only [commands, compileCommand, Recorded.value_bind]
  generalize (remarks node.children context).value = inside
  split
  · exact ⟨rfl, rfl⟩
  · split
    · exact ⟨rfl, rfl⟩
    · simp only [Recorded.value_bind]
      generalize (commandPayload grammar node (commandName node.name) inside).value = payload
      unfold register
      dsimp only
      cases refused.contains (commandName node.name) <;> exact ⟨rfl, rfl⟩

theorem remark_advances (node : Node) (context : Context) :
    Advances context.standing (remark node context).value.standing := by
  unfold remark
  dsimp only
  split
  · exact ⟨rfl, List.prefix_append _ _⟩
  · split
    · exact ⟨rfl, List.prefix_append _ _⟩
    · exact .refl _

theorem remarks_advances (nodes : List Node) (context : Context) :
    Advances context.standing (remarks nodes context).value.standing := by
  induction nodes generalizing context with
  | nil => exact .refl _
  | cons node rest inductionHypothesis =>
    exact (remark_advances node context).trans (inductionHypothesis _)

theorem commandPayload_advances (grammar : Grammar) (node : Node) (name : String) (context : Context) :
    Advances context.standing (commandPayload grammar node name context).value.2.standing := by
  unfold commandPayload
  split
  · exact Compile.compileBlock_advances grammar node context
  · exact .refl _

theorem commands_advances (grammar : Grammar) (refused : List String) :
    (commands grammar refused).Advances := by
  intro node context desk
  have remarked := remarks_advances node.children context
  simp only [commands, compileCommand, Recorded.value_bind]
  generalize remarks node.children context = inside at remarked ⊢
  split
  · exact remarked
  · split
    · exact remarked
    · have paid := commandPayload_advances grammar node (commandName node.name) inside.value
      simp only [Recorded.value_bind]
      generalize commandPayload grammar node (commandName node.name) inside.value = payload at paid ⊢
      refine remarked.trans (paid.trans ?_)
      unfold register
      dsimp only
      cases refused.contains (commandName node.name) <;> exact .refl _

section

variable {allowed : Activity → Bool}
  (room : ∀ {activity : Activity}, activity.isCompilation = true → allowed activity = true)

include room

theorem remarks_only (nodes : List Node) (context : Context) : (remarks nodes context).Only allowed := by
  have reported (context : Context) (severity : Severity) (message : String) :
      (context.report severity message).Only Activity.isCompilation := rfl
  induction nodes generalizing context with
  | nil => rfl
  | cons node rest inductionHypothesis =>
    refine .bind ?_ (inductionHypothesis _)
    unfold remark
    dsimp only
    split
    · exact (reported _ _ _).mono room
    · split
      · exact (reported _ _ _).mono room
      · rfl

/-- Apart from compiling bodies, these commands do nothing but register. -/
theorem commands_keep (grammar : Grammar) (refused : List String)
    (registers : ∀ command, allowed (.consulted (.registerCommand command)) = true) :
    (commands grammar refused).Keep allowed := by
  intro node context desk
  refine .bind (remarks_only room node.children context) ?_
  split
  · rfl
  · split
    · rfl
    · refine .bind ?_ (.bind ?_ ?_)
      · unfold commandPayload
        split
        · exact .bind ((Compile.compileBlock_compilation grammar node _).mono room) rfl
        · rfl
      · simp [Recorded.Only, consult, registers]
      · split <;> rfl

end

/-- All collaborators to rehearse with, and a reader that does nothing but read. -/
def plainServices (parse : Bytes → Except IoError Node) : Services Desk where
  grammar := grammar []
  classes := classes
  commands := commands (grammar []) []
  host := .silent
  reader := .ofParser parse

theorem plainServices_steady (parse : Bytes → Except IoError Node) : (plainServices parse).Steady :=
  ⟨grammar_ignoresReports [], commands_ignoresReports (grammar_ignoresReports []) [],
    commands_ignoresState (grammar []) []⟩

/-! ## A script to rehearse with -/

/-- A script with a default variable, a bound trigger, one that is left to hooks, and a command. -/
def scene : Node :=
  .section "" [
    .section "variables" [.line "x = 1" 2] 1,
    .section "on join" [.section "if x" [.line "delay 1" 5] 4, .section "else" [.line "b" 7] 6] 3,
    .section "every" [.line "c" 9] 8,
    .section "command /hi" [] 10] 0

def scenePath : Path := ⟨"a.sk"⟩

def sceneContent : Bytes := [1]

/-- Any other content stands for an empty script. -/
def sceneParse (content : Bytes) : Except IoError Node :=
  .ok (if content = sceneContent then scene else .section "" [] 0)

def sceneServices : Services Desk := plainServices sceneParse

def sceneLoader : Loader Desk where
  config := {}
  disk := { entries := [.directory "" [.file "a.sk" sceneContent 1000000]] }
  state := {}

theorem scene_script : sceneLoader.disk.Holds scenePath sceneContent 1000000 := by
  unfold Disk.Holds
  decide +kernel

theorem scene_without_artifact (bytes : Bytes) (stored : Int) :
    ¬ sceneLoader.disk.Holds (sceneLoader.cache.artifactOf scenePath) bytes stored := by
  have missing : sceneLoader.disk.look (sceneLoader.cache.artifactOf scenePath) = .error .notFound := by
    decide +kernel
  intro holds
  cases missing.symm.trans holds

end TriggerScript.Rehearsal
