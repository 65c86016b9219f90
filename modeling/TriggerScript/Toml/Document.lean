import TriggerScript.Toml.Quotes

/-!
# TOML documents

A document is a sequence of headers and of keys with values, one to a line.
-/

namespace TriggerScript.Toml

/-- How deep arrays and inline tables may be nested, and how long a dotted key may be. -/
def nestingLimit : Nat := 80

def isSpace (c : Char) : Bool := c = ' ' || c = '\t'

def skipSpaces (text : List Char) : List Char := text.dropWhile isSpace

/-- What follows a line break, or the end of the text. -/
def afterLine? : List Char → Option (List Char)
  | [] => some []
  | '\n' :: rest => some rest
  | '\r' :: '\n' :: rest => some rest
  | _ => none

/-- Skips a comment up to the end of its line. -/
def skipComment : List Char → List Char
  | '#' :: rest => rest.dropWhile isShown
  | text => text

/-- What follows a line of which only blanks and a comment are left. -/
def restOfLine? (text : List Char) : Option (List Char) := afterLine? (skipComment (skipSpaces text))

/-! ## Keys -/

def isKeyChar (c : Char) : Bool := c.isAlphanum || c = '-' || c = '_'

def simpleKey? : List Char → Content
  | '"' :: rest => basicString? rest
  | '\'' :: rest => literalString? rest
  | text =>
    match text.takeWhile isKeyChar with
    | [] => none
    | key => some (key, text.dropWhile isKeyChar)

/-- The parts of a dotted key, at most `bound` of them. -/
def keyParts? : (bound : Nat) → List Char → Option (List String × List Char)
  | 0, _ => none
  | bound + 1, text => do
    let (key, rest) ← simpleKey? (skipSpaces text)
    match skipSpaces rest with
    | '.' :: more => do
      let (others, rest) ← keyParts? bound more
      some (String.ofList key :: others, rest)
    | rest => some ([String.ofList key], rest)

/-- A key: the parts before its last one, and the last one. -/
structure Key where
  path : List String
  name : String

def key? (text : List Char) : Option (Key × List Char) := do
  let (parts, rest) ← keyParts? (nestingLimit - 1) text
  let name ← parts.getLast?
  some (⟨parts.dropLast, name⟩, rest)

/-! ## Values -/

/-- Skips blanks, line breaks and comments, as they may stand inside an array. -/
def skipFiller : Nat → List Char → List Char
  | 0, text => text
  | bound + 1, text =>
    match skipComment (skipSpaces text) with
    | '\n' :: rest => skipFiller bound rest
    | '\r' :: '\n' :: rest => skipFiller bound rest
    | rest => rest

mutual

/-- A value at the start of a text; `depth` more levels of nesting are allowed. -/
def value? : (bound depth : Nat) → List Char → Option (Value × List Char)
  | 0, _, _ => none
  | bound + 1, depth, text =>
    match text with
    | '[' :: rest =>
      match depth with
      | 0 => none
      | depth + 1 => elements? bound depth rest
    | '\x7b' :: rest =>
      match depth with
      | 0 => none
      | depth + 1 =>
        match skipSpaces rest with
        | '\x7d' :: rest => some (.inlineTable, rest)
        | rest => pairs? bound depth .empty rest
    | '"' :: _ | '\'' :: _ =>
      (string? text).map fun (content, rest) => (.text (String.ofList content), rest)
    | _ => readScalar? text
termination_by structural bound => bound

/-- The elements of an array up to its closing bracket; a comma may follow the last one. -/
def elements? : (bound depth : Nat) → List Char → Option (Value × List Char)
  | 0, _, _ => none
  | bound + 1, depth, text =>
    match skipFiller text.length text with
    | ']' :: rest => some (.array, rest)
    | start => do
      let (_, rest) ← value? bound depth start
      match skipFiller rest.length rest with
      | ',' :: rest => elements? bound depth rest
      | ']' :: rest => some (.array, rest)
      | _ => none
termination_by structural bound => bound

/-- The keys and values of an inline table up to its closing brace. -/
def pairs? : (bound depth : Nat) → Table → List Char → Option (Value × List Char)
  | 0, _, _, _ => none
  | bound + 1, depth, table, text => do
    let (key, rest) ← key? text
    let rest ← expect? '=' rest
    let (value, rest) ← value? bound depth (skipSpaces rest)
    let table ← table.define? key.path key.name value
    match skipSpaces rest with
    | ',' :: rest => pairs? bound depth table rest
    | '\x7d' :: rest => some (.inlineTable, rest)
    | _ => none
termination_by structural bound => bound

end

/-! ## Lines -/

/-- A key with its value, on a line of its own. -/
def definition? (draft : Draft) (text : List Char) : Option (Draft × List Char) := do
  let (key, rest) ← key? text
  let rest ← expect? '=' rest
  let (value, rest) ← value? (2 * rest.length + 2) (nestingLimit - 1) (skipSpaces rest)
  let rest ← restOfLine? rest
  let draft ← draft.define? key.path key.name value
  some (draft, rest)

/-- A header, on a line of its own. -/
def header? (draft : Draft) : List Char → Option (Draft × List Char)
  | '[' :: '[' :: text => do
    let (key, rest) ← key? text
    let rest ← expect? ']' rest
    let rest ← expect? ']' rest
    let rest ← restOfLine? rest
    let draft ← draft.startArrayTable? key.path key.name
    some (draft, rest)
  | '[' :: text => do
    let (key, rest) ← key? text
    let rest ← expect? ']' rest
    let rest ← restOfLine? rest
    let draft ← draft.startTable? key.path key.name
    some (draft, rest)
  | _ => none

/-- The lines of a document, at most `bound` of them. -/
def lines? : (bound : Nat) → Draft → List Char → Option Table
  | 0, _, _ => none
  | bound + 1, draft, text =>
    match skipSpaces text with
    | [] => draft.close?
    | '#' :: rest => do lines? bound draft (← afterLine? (skipComment ('#' :: rest)))
    | '\n' :: rest => lines? bound draft rest
    | '\r' :: rest => do lines? bound draft (← expect? '\n' rest)
    | '[' :: rest => do
      let (draft, rest) ← header? draft ('[' :: rest)
      lines? bound draft rest
    | start => do
      let (draft, rest) ← definition? draft start
      lines? bound draft rest

/-- The table that a document describes. A byte order mark at its start is ignored. -/
def parse? (document : String) : Option Table :=
  let text := match document.toList with
    | '\ufeff' :: rest => rest
    | text => text
  lines? (text.length + 1) {} text

end TriggerScript.Toml
