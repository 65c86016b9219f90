import TriggerScript.Toml.Scalar

/-!
# TOML strings

Basic strings stand between double quotes and know escapes; literal strings stand between single
quotes and know none. Three quotes open a string of several lines. Each reader takes the text behind
the opening quotes and gives the content and what follows the closing ones.
-/

namespace TriggerScript.Toml

/-- The characters that a comment or a literal string may hold: all but control characters. -/
def isShown (c : Char) : Bool := c = '\t' || (0x20 ≤ c.toNat && c.toNat ≠ 0x7f)

/-- The character that some hexadecimal digits are the code point of. -/
def codePoint? (digits : List Char) : Option Char :=
  let code := numberIn 16 digits
  if digits.all isHexadecimal && (code < 0xd800 || (0xdfff < code && code < 0x110000)) then
    some (Char.ofNat code)
  else none

/-- The character that a letter behind a backslash stands for. -/
def escape? : Char → Option Char
  | 'b' => some '\x08'
  | 't' => some '\t'
  | 'n' => some '\n'
  | 'f' => some '\x0c'
  | 'r' => some '\r'
  | '"' => some '"'
  | '\\' => some '\\'
  | _ => none

abbrev Content := Option (List Char × List Char)

def Content.prepend (c : Char) (content : Content) : Content :=
  content.map fun (inside, rest) => (c :: inside, rest)

def basicString? : List Char → Content
  | [] => none
  | '"' :: rest => some ([], rest)
  | '\\' :: 'u' :: a :: b :: c :: d :: rest =>
    (codePoint? [a, b, c, d]).bind fun char => (basicString? rest).prepend char
  | '\\' :: 'U' :: a :: b :: c :: d :: e :: f :: g :: h :: rest =>
    (codePoint? [a, b, c, d, e, f, g, h]).bind fun char => (basicString? rest).prepend char
  | '\\' :: letter :: rest => (escape? letter).bind fun char => (basicString? rest).prepend char
  | c :: rest => if isShown c then (basicString? rest).prepend c else none

def literalString? : List Char → Content
  | [] => none
  | '\'' :: rest => some ([], rest)
  | c :: rest => if isShown c then (literalString? rest).prepend c else none

/-- Where the reading of a basic string of several lines stands with respect to a skipped line break. -/
inductive LineBreak where
  | none
  /-- Behind a backslash: only blanks may come before the line break. -/
  | awaited
  /-- Behind the line break: further blanks and line breaks are skipped. -/
  | skipped

/-- Up to two quotes before the three closing ones belong to the string. -/
def longBasicString? : LineBreak → List Char → Content
  | .awaited, ' ' :: rest => longBasicString? .awaited rest
  | .awaited, '\t' :: rest => longBasicString? .awaited rest
  | .awaited, '\n' :: rest => longBasicString? .skipped rest
  | .awaited, '\r' :: '\n' :: rest => longBasicString? .skipped rest
  | .awaited, _ => none
  | .skipped, ' ' :: rest => longBasicString? .skipped rest
  | .skipped, '\t' :: rest => longBasicString? .skipped rest
  | .skipped, '\n' :: rest => longBasicString? .skipped rest
  | .skipped, '\r' :: '\n' :: rest => longBasicString? .skipped rest
  | _, [] => none
  | _, '"' :: '"' :: '"' :: '"' :: '"' :: rest => some (['"', '"'], rest)
  | _, '"' :: '"' :: '"' :: '"' :: rest => some (['"'], rest)
  | _, '"' :: '"' :: '"' :: rest => some ([], rest)
  | _, '\\' :: 'u' :: a :: b :: c :: d :: rest =>
    (codePoint? [a, b, c, d]).bind fun char => (longBasicString? .none rest).prepend char
  | _, '\\' :: 'U' :: a :: b :: c :: d :: e :: f :: g :: h :: rest =>
    (codePoint? [a, b, c, d, e, f, g, h]).bind fun char => (longBasicString? .none rest).prepend char
  | _, '\\' :: ' ' :: rest => longBasicString? .awaited rest
  | _, '\\' :: '\t' :: rest => longBasicString? .awaited rest
  | _, '\\' :: '\n' :: rest => longBasicString? .skipped rest
  | _, '\\' :: '\r' :: '\n' :: rest => longBasicString? .skipped rest
  | _, '\\' :: letter :: rest =>
    (escape? letter).bind fun char => (longBasicString? .none rest).prepend char
  | _, '\n' :: rest => (longBasicString? .none rest).prepend '\n'
  | _, '\r' :: '\n' :: rest => (longBasicString? .none rest).prepend '\n'
  | _, c :: rest => if isShown c then (longBasicString? .none rest).prepend c else none

def longLiteralString? : List Char → Content
  | [] => none
  | '\'' :: '\'' :: '\'' :: '\'' :: '\'' :: rest => some (['\'', '\''], rest)
  | '\'' :: '\'' :: '\'' :: '\'' :: rest => some (['\''], rest)
  | '\'' :: '\'' :: '\'' :: rest => some ([], rest)
  | '\n' :: rest => (longLiteralString? rest).prepend '\n'
  | '\r' :: '\n' :: rest => (longLiteralString? rest).prepend '\n'
  | c :: rest => if isShown c then (longLiteralString? rest).prepend c else none

/-- A line break right behind the opening quotes does not count. -/
def dropLineBreak : List Char → List Char
  | '\n' :: rest => rest
  | '\r' :: '\n' :: rest => rest
  | text => text

/-- A string at the start of a text. -/
def string? : List Char → Content
  | '"' :: '"' :: '"' :: rest => longBasicString? .none (dropLineBreak rest)
  | '"' :: rest => basicString? rest
  | '\'' :: '\'' :: '\'' :: rest => longLiteralString? (dropLineBreak rest)
  | '\'' :: rest => literalString? rest
  | _ => none

end TriggerScript.Toml
