import TriggerScript.Text.Blank

/-!
# Nodes

A script is a tree of nodes. A section has a header and children; an entry is a key with a value;
anything else is a line. Every node knows the line it starts on.
-/

namespace TriggerScript

inductive Node where
  | section (name : String) (children : List Node) (line : Nat)
  | entry (key value : String) (line : Nat)
  | line (text : String) (line : Nat)
deriving Repr, Inhabited

namespace Node

/-- The header of a section, the key of an entry, the text of a line. -/
def name : Node → String
  | .section name _ _ => name
  | .entry key _ _ => key
  | .line text _ => text

def lineNumber : Node → Nat
  | .section _ _ number => number
  | .entry _ _ number => number
  | .line _ number => number

def children : Node → List Node
  | .section _ children _ => children
  | _ => []

def isSection : Node → Bool
  | .section .. => true
  | _ => false

def isEntry : Node → Bool
  | .entry .. => true
  | _ => false

/-- What stands after a text at the start of another. -/
def afterPart? : List Char → List Char → Option (List Char)
  | [], rest => some rest
  | a :: as, b :: bs => if a = b then afterPart? as bs else none
  | _ :: _, [] => none

/-- The parts of a text before and after the first place where the separator stands. -/
def splitOnce? (separator : List Char) : List Char → Option (List Char × List Char)
  | [] => if separator = [] then some ([], []) else none
  | c :: rest =>
    match afterPart? separator (c :: rest) with
    | some after => some ([], after)
    | none => (splitOnce? separator rest).map fun (before, after) => (c :: before, after)

/--
The key and value of an entry. A line is read as an entry when the separator divides it and the part
before the separator is not blank; a section is none.
-/
def asEntry? (separator : String) : Node → Option (String × String)
  | .entry key value _ => some (key, value)
  | .line text _ =>
    match splitOnce? separator.toList text.toList with
    | some (before, after) =>
      let key := Text.trimChars before
      if key = [] then none else some (String.ofList key, String.ofList (Text.trimChars after))
    | none => none
  | .section .. => none

end Node

end TriggerScript
