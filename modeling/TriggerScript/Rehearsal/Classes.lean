import TriggerScript.Rehearsal.Grammar

/-!
# Classes to rehearse with
-/

namespace TriggerScript.Rehearsal

def resolveAlias (text : String) : Except String ItemType :=
  if text = "" then .error "empty alias"
  else if startsWith text "bad" then .error ("unknown alias '" ++ text ++ "'")
  else
    let underscored := fun (part : List Char) =>
      String.ofList (part.map fun c => if c = ' ' then '_' else c)
    .ok ⟨text, (Text.splitOn ',' text.toList).map underscored⟩

def classInfo? (name : String) : Option ClassInfo :=
  match name with
  | "player" | "players" => some { codeName := "player" }
  | "integer" | "int" => some { codeName := "integer" }
  | "text" => some { codeName := "text" }
  | "location" => some { codeName := "location", serializeAs := some "text" }
  | "count" => some { codeName := "count", serializeAs := some "int" }
  | "lost" => some { codeName := "lost", serializeAs := some "nowhere" }
  | "locked" => some { codeName := "locked", serializeAs := some "players" }
  | _ => none

def digitsValue (digits : List Char) : Nat :=
  digits.foldl (fun value digit => 10 * value + (digit.toNat - '0'.toNat)) 0

/-- A whole number in decimal digits, with or without a sign, that 64 bits can hold. -/
def parseInteger? (text : List Char) : Option Int64 :=
  let (negative, digits) :=
    match text with
    | '-' :: rest => (true, rest)
    | '+' :: rest => (false, rest)
    | _ => (false, text)
  if digits = [] ∨ !digits.all Char.isDigit then none
  else
    let value : Int := if negative then -(digitsValue digits) else digitsValue digits
    if Int64.minValue.toInt ≤ value ∧ value ≤ Int64.maxValue.toInt then some (Int64.ofInt value)
    else none

/-- The text between a pair of double quotes. -/
def insideQuotes? (text : List Char) : Option (List Char) :=
  match text with
  | '"' :: rest =>
    match rest.reverse with
    | '"' :: inside => some inside.reverse
    | _ => none
  | _ => none

def parseValue? (text : String) : Option Value :=
  match parseInteger? text.toList with
  | some value => some (.integer value)
  | none =>
    if startsWith text "obj " then
      (Node.splitOnce? [' '] (text.toList.drop 4)).map fun (className, content) =>
        .object (String.ofList className) (String.ofList content)
    else (insideQuotes? text.toList).map fun inside => .text (String.ofList inside)

def convert? (value : Value) (target : ClassInfo) : Option Value :=
  match target.codeName with
  | "text" => some (.text value.display)
  | "integer" => (parseInteger? value.display.toList).map .integer
  | _ => none

def classes : Classes where
  resolveAlias := resolveAlias
  classInfo? := classInfo?
  parseValue? := parseValue?
  convert? := convert?

end TriggerScript.Rehearsal
