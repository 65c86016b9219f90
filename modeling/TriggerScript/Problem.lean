/-!
# Problems in a script

Why a line or section of a script is left out, and the words in which that is reported.
-/

namespace TriggerScript

/-- What a text was expected to be. -/
inductive Reading where
  | event
  | condition
  | expression
  | statement
deriving DecidableEq, Repr

def Reading.text : Reading → String
  | .event => "event"
  | .condition => "condition"
  | .expression => "expression"
  | .statement => "condition/effect"

inductive Problem where
  | undefinedOption (name : String)
  /-- The grammar refused a text, perhaps with a reason. -/
  | notUnderstood (reading : Reading) (text reason : String)
  | notLoopable (source : String)
  | strayElse
  | codeOutsideTrigger
  | unbalancedQuotes
  /-- A collaborator refused something in its own words. -/
  | refused (reason : String)
  | aliasLine
  | optionLine
  | variableLine
  | badVariableName (name : String)
  | unknownType (name : String)
  | unknownValue (text : String)
  | missingClass (target className : String)
  | unstorableValue (text : String)
deriving DecidableEq, Repr

def Problem.message : Problem → String
  | .undefinedOption name => "undefined option \x7b@" ++ name ++ "\x7d"
  | .notUnderstood reading text reason =>
    "can't understand this " ++ reading.text ++ ": '" ++ text ++ "'" ++
      (if reason = "" then "" else " (" ++ reason ++ ")")
  | .notLoopable source => "Can't loop " ++ source
  | .strayElse => "'else' has to be placed just after the end of a conditional section"
  | .codeOutsideTrigger => "invalid line - all code has to be put into triggers"
  | .unbalancedQuotes => "invalid use of quotes"
  | .refused reason => reason
  | .aliasLine => "invalid line in alias section"
  | .optionLine => "invalid line in options"
  | .variableLine => "invalid line in variables"
  | .badVariableName name => "'" ++ name ++ "' is not a valid name for a default variable"
  | .unknownType name => "Can't understand the type '" ++ name ++ "'"
  | .unknownValue text => "Can't understand the value '" ++ text ++ "'"
  | .missingClass target className =>
    "Missing class info for " ++ target ++ ", the class to serialize " ++ className ++ " as"
  | .unstorableValue text => "Can't save '" ++ text ++ "' in a variable"

end TriggerScript
