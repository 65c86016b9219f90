import TriggerScript.Compile.Script
import TriggerScript.Proofs.Activities

/-!
# Work on tables

While options, aliases and default variables are entered, questions are asked about classes and variables and
about nothing else. So whoever listens for other activity hears nothing from a table.
-/

namespace TriggerScript

/-- A notice, or a question about aliases, classes or variables. -/
def Activity.isTableWork : Activity → Bool
  | .noted _ => true
  | .consulted (.resolveAlias _) | .consulted (.classInfo _) | .consulted (.parseValue _)
  | .consulted (.convert ..) | .consulted (.getVariable _) | .consulted (.setVariable ..) => true
  | .consulted _ => false

def Recorded.TableWork {α : Type} (recorded : Recorded α) : Prop := recorded.Only Activity.isTableWork

namespace Compile

theorem compileAlias_tableWork (classes : Classes) (node : Node) (context : Context) :
    (compileAlias classes node context).TableWork := by
  unfold compileAlias
  dsimp only
  split
  · rfl
  · refine .bind rfl ?_
    split <;> rfl

theorem compileAliases_tableWork (classes : Classes) (nodes : List Node) (context : Context) :
    (compileAliases classes nodes context).TableWork := by
  induction nodes generalizing context with
  | nil => rfl
  | cons node rest inductionHypothesis =>
    exact .bind (compileAlias_tableWork classes node context) (inductionHypothesis _)

theorem compileOption_tableWork (node : Node) (context : Context) : (compileOption node context).TableWork := by
  unfold compileOption
  dsimp only
  split <;> rfl

theorem compileOptions_tableWork (nodes : List Node) (context : Context) :
    (compileOptions nodes context).TableWork := by
  induction nodes generalizing context with
  | nil => rfl
  | cons node rest inductionHypothesis =>
    exact .bind (compileOption_tableWork node context) (inductionHypothesis _)

/-! ## Default variables -/

theorem storedName_tableWork (classes : Classes) (name : List Char) :
    (storedName classes name).TableWork := by
  unfold storedName
  split
  · rfl
  · dsimp only
    split
    · rfl
    · refine .bind rfl ?_
      split <;> rfl

theorem storedValue_tableWork (classes : Classes) (text : String) : (storedValue classes text).TableWork := by
  unfold storedValue
  refine .bind rfl ?_
  split
  · rfl
  · refine .bind rfl ?_
    split
    · rfl
    · refine .bind rfl ?_
      split
      · rfl
      · refine .bind rfl ?_
        split <;> rfl

theorem defaultVariable_tableWork (classes : Classes) (key text : String) (values : Variables) :
    (defaultVariable classes key text values).TableWork := by
  unfold defaultVariable
  refine .bind (storedName_tableWork classes _) ?_
  split
  · rfl
  · dsimp only
    split
    · rfl
    · refine .bind rfl ?_
      split
      · rfl
      · refine .bind (storedValue_tableWork classes text) ?_
        split <;> rfl

theorem compileVariable_tableWork (classes : Classes) (node : Node) (context : Context) (values : Variables) :
    (compileVariable classes node context values).TableWork := by
  unfold compileVariable
  dsimp only
  split
  · rfl
  · refine .bind (defaultVariable_tableWork classes _ _ values) ?_
    split <;> rfl

theorem compileVariables_tableWork (classes : Classes) (nodes : List Node) (context : Context)
    (values : Variables) : (compileVariables classes nodes context values).TableWork := by
  induction nodes generalizing context values with
  | nil => rfl
  | cons node rest inductionHypothesis =>
    exact .bind (compileVariable_tableWork classes node context values) (inductionHypothesis _ _)

end Compile

end TriggerScript
