import TriggerScript.Journal

/-!
# Option references

A text may refer to options of its script by name, between an opening brace with an at sign and a
closing brace. A name has at least one character and no line break; only its first character may be
a closing brace. References are found from left to right and do not overlap. Where no closing brace
follows, the opening is ordinary text.
-/

namespace TriggerScript.Options

inductive Piece where
  | plain (character : Char)
  | reference (name : List Char)
deriving DecidableEq, Repr

/-- What stands before the first closing brace, if no line break comes before it. -/
def beforeClosing? : List Char → Option (List Char)
  | [] => none
  | c :: rest =>
    if c = '\x7d' then some []
    else if c = '\n' then none
    else (beforeClosing? rest).map (c :: ·)

/-- The name in a reference at the start of a text. -/
def referenceAt? : List Char → Option (List Char)
  | '\x7b' :: '@' :: first :: rest =>
    if first = '\n' then none else (beforeClosing? rest).map (first :: ·)
  | _ => none

/-- The pieces of a text, of which the first `skipped` characters belong to an earlier piece. -/
def piecesFrom : (skipped : Nat) → List Char → List Piece
  | _, [] => []
  | skipped + 1, _ :: rest => piecesFrom skipped rest
  | 0, c :: rest =>
    match referenceAt? (c :: rest) with
    | some name => .reference name :: piecesFrom (name.length + 2) rest
    | none => .plain c :: piecesFrom 0 rest

def pieces (text : List Char) : List Piece := piecesFrom 0 text

/-- The text with its references replaced, or the name of the first one that has no value. -/
def expand (options : Table String String) : List Piece → Except String (List Char)
  | [] => .ok []
  | .plain c :: rest => (expand options rest).map (c :: ·)
  | .reference name :: rest =>
    match options.find? (String.ofList name) with
    | some value => (expand options rest).map (value.toList ++ ·)
    | none => .error (String.ofList name)

/-- Replaces the option references of a text; an undefined one is reported. -/
def substitute (text : String) (context : Context) : Recorded (Option String × Context) :=
  match expand context.options (pieces text.toList) with
  | .ok expanded => pure (some (String.ofList expanded), context)
  | .error name => do
    let context ← context.fail (.undefinedOption name)
    pure (none, context)

end TriggerScript.Options
