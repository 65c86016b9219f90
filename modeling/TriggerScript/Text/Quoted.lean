import TriggerScript.Text.Printable
import TriggerScript.Text.Utf8

/-!
# Quoted text

A quoted text stands between double quotes. Quotes, backslashes and line breaks are written with a
backslash, and a character that would not show is written as its code point in braces. Bytes that are
no text are written one by one, in base sixteen.
-/

namespace TriggerScript.Text

/-- The digits of a number in base sixteen, in small letters. -/
def hexDigits (n : Nat) : List Char := Nat.toDigits 16 n

def quotedChar (c : Char) : List Char :=
  if c == '\x00' then ['\\', '0']
  else if c == '\t' then ['\\', 't']
  else if c == '\r' then ['\\', 'r']
  else if c == '\n' then ['\\', 'n']
  else if c == '"' then ['\\', '"']
  else if c == '\\' then ['\\', '\\']
  else if isPrintable c then [c]
  else ['\\', 'u', '\x7b'] ++ hexDigits c.toNat ++ ['\x7d']

def quoted (text : String) : String :=
  String.ofList ('"' :: text.toList.flatMap quotedChar ++ ['"'])

/-- A byte as two digits in base sixteen, in capital letters. -/
def quotedByte (byte : UInt8) : List Char :=
  let digit (value : Nat) : Char := (Nat.digitChar value).toUpper
  ['\\', 'x', digit (byte.toNat / 16), digit (byte.toNat % 16)]

def quotedBytes (bytes : Bytes) : String :=
  let shown := (chunks bytes).flatMap fun chunk =>
    chunk.valid.toList.flatMap quotedChar ++ chunk.broken.flatMap quotedByte
  String.ofList ('"' :: shown ++ ['"'])

end TriggerScript.Text
