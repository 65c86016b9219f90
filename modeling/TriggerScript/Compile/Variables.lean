import TriggerScript.Services

/-!
# Default variables

An entry of a variables section names a variable and the value it has unless it has one already. The
name may stand in braces and may hold one type between percent signs, which is replaced by the code
name of its class.
-/

namespace TriggerScript.Compile

/-- The text inside one pair of braces around it, or the text itself. -/
def insideBraces (text : List Char) : List Char :=
  match text with
  | '\x7b' :: rest =>
    match rest.reverse with
    | '\x7d' :: inside => inside.reverse
    | _ => text
  | _ => text

/-- A name with a type in it: the text before the first percent sign, between it and the last one,
and after that. -/
structure TypedName where
  before : List Char
  type : List Char
  after : List Char

/-- Splits a name at its first and last percent sign, if anything stands between them. -/
def TypedName.of? (name : List Char) : Option TypedName :=
  match name.dropWhile (· ≠ '%') with
  | [] => none
  | _ :: rest =>
    let backwards := rest.reverse
    match backwards.dropWhile (· ≠ '%') with
    | _ :: inside@(_ :: _) =>
      some
        { before := name.takeWhile (· ≠ '%')
          type := inside.reverse
          after := (backwards.takeWhile (· ≠ '%')).reverse }
    | _ => none

def isReserved (c : Char) : Bool := c = '\x7b' || c = '\x7d' || c = '%'

/-- The name under which a default variable is stored. -/
def storedName (classes : Classes) (name : List Char) :
    Recorded (Except Problem (List Char)) := do
  match TypedName.of? name with
  | none => pure (.ok name)
  | some typed =>
    if typed.type.any isReserved then
      pure (.error (.badVariableName (String.ofList name)))
    else
      let type := String.ofList typed.type
      match ← classes.lookUp type with
      | none => pure (.error (.unknownType type))
      | some info =>
        pure (.ok (typed.before ++ '<' :: info.codeName.toList ++ '>' :: typed.after))

/-- The value that is stored for a text: its own, or the one it becomes in the class to store it as. -/
def storedValue (classes : Classes) (text : String) : Recorded (Except Problem Value) := do
  match ← classes.readValue text with
  | none => pure (.error (.unknownValue text))
  | some value =>
    match (← classes.lookUpValue value).bind (·.serializeAs) with
    | none => pure (.ok value)
    | some target =>
      match ← classes.lookUp target with
      | none => pure (.error (.missingClass target value.className))
      | some info =>
        match ← classes.turnInto value info with
        | none => pure (.error (.unstorableValue text))
        | some converted => pure (.ok converted)

/-- The variable and value that an entry adds, if it adds one. -/
def defaultVariable (classes : Classes) (key text : String) (values : Variables) :
    Recorded (Except Problem (Option (String × Value))) := do
  match ← storedName classes (insideBraces key.toList) with
  | .error problem => pure (.error problem)
  | .ok nameChars =>
    if nameChars.contains '%' then pure (.ok none)
    else
      let name := String.ofList nameChars
      match ← getVariable values name with
      | some _ => pure (.ok none)
      | none =>
        match ← storedValue classes text with
        | .error problem => pure (.error problem)
        | .ok value => pure (.ok (some (name, value)))

def compileVariable (classes : Classes) (node : Node) (context : Context) (values : Variables) :
    Recorded (Context × Variables) := do
  let context := context.atLine node.lineNumber
  match node.asEntry? "=" with
  | none =>
    let context ← context.fail .variableLine
    pure (context, values)
  | some (key, text) =>
    match ← defaultVariable classes key text values with
    | .error problem =>
      let context ← context.fail problem
      pure (context, values)
    | .ok none => pure (context, values)
    | .ok (some (name, value)) =>
      note (.defaultVariable name value)
      let values ← setVariable values name value
      pure (context, values)

def compileVariables (classes : Classes) :
    List Node → Context → Variables → Recorded (Context × Variables)
  | [], context, values => pure (context, values)
  | node :: rest, context, values => do
    let (context, values) ← compileVariable classes node context values
    compileVariables classes rest context values

end TriggerScript.Compile
