import TriggerScript.Table

/-!
# Values and variables
-/

namespace TriggerScript

inductive Value where
  | integer (value : Int64)
  | text (content : String)
  /-- A value of some other class, kept as text. -/
  | object (ofClass : String) (content : String)
deriving DecidableEq, Repr

namespace Value

instance : Inhabited Value := ⟨.text ""⟩

/-- The value as a reader sees it. -/
def display : Value → String
  | .integer value => toString value.toInt
  | .text content => content
  | .object _ content => content

def className : Value → String
  | .integer _ => "integer"
  | .text _ => "text"
  | .object ofClass _ => ofClass

end Value

/-- What is known of a class of values. -/
structure ClassInfo where
  /-- The name of the class inside variable names. -/
  codeName : String
  /-- The class that values must be turned into before they are stored. -/
  serializeAs : Option String := none
deriving DecidableEq, Repr, Inhabited

def ClassInfo.storedAs (info : ClassInfo) (className : String) : ClassInfo :=
  { info with serializeAs := some className }

/-- A kind of item, as an alias stands for it. -/
structure ItemType where
  name : String
  ids : List String
deriving DecidableEq, Repr, Inhabited

abbrev Variables := Table String Value

end TriggerScript
