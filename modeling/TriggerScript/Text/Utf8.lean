/-!
# Texts as bytes

A text is stored as UTF-8. When stored bytes are no text, the fault says how long the part before it
is and how many bytes make up the broken sequence. Bytes can be shown all the same: what is text in
them stands between what is not.
-/

namespace TriggerScript

abbrev Bytes := List UInt8

namespace Text

/-- Where bytes stop being UTF-8, and how. -/
inductive Utf8Fault where
  /-- The `length` bytes at `index` can start no character. -/
  | malformed (length : Nat) (index : Nat)
  /-- The bytes end inside a character that starts at `index`. -/
  | cutOff (index : Nat)
deriving DecidableEq, Repr

def isContinuation (b : UInt8) : Bool := 0x80 ≤ b && b ≤ 0xbf

/-- The range of the second byte of a character, and the number of bytes after that. -/
def secondByte? (lead : UInt8) : Option (UInt8 × UInt8 × Nat) :=
  if 0xc2 ≤ lead && lead ≤ 0xdf then some (0x80, 0xbf, 0)
  else if lead == 0xe0 then some (0xa0, 0xbf, 1)
  else if lead == 0xed then some (0x80, 0x9f, 1)
  else if 0xe1 ≤ lead && lead ≤ 0xef then some (0x80, 0xbf, 1)
  else if lead == 0xf0 then some (0x90, 0xbf, 2)
  else if lead == 0xf4 then some (0x80, 0x8f, 2)
  else if 0xf1 ≤ lead && lead ≤ 0xf3 then some (0x80, 0xbf, 2)
  else none

/-- What the walk through the bytes expects next. -/
inductive Utf8Expectation where
  | start
  /-- A second byte between two bounds, with more bytes to follow it. -/
  | second (low high : UInt8) (after : Nat)
  /-- Some more continuation bytes. -/
  | continuation (left : Nat)

/--
The first fault of some bytes. The character being read starts at `index` and `seen` of its bytes
are known to be right.
-/
def firstFault? : Utf8Expectation → (index : Nat) → (seen : Nat) → Bytes → Option Utf8Fault
  | .start, _, _, [] => none
  | _, index, _, [] => some (.cutOff index)
  | .start, index, _, b :: rest =>
    if b < 0x80 then firstFault? .start (index + 1) 0 rest
    else match secondByte? b with
      | some (low, high, after) => firstFault? (.second low high after) index 1 rest
      | none => some (.malformed 1 index)
  | .second low high after, index, seen, b :: rest =>
    if low ≤ b && b ≤ high then
      match after with
      | 0 => firstFault? .start (index + 2) 0 rest
      | left + 1 => firstFault? (.continuation left) index (seen + 1) rest
    else some (.malformed seen index)
  | .continuation left, index, seen, b :: rest =>
    if isContinuation b then
      match left with
      | 0 => firstFault? .start (index + seen + 1) 0 rest
      | left + 1 => firstFault? (.continuation left) index (seen + 1) rest
    else some (.malformed seen index)

/-- The fault of bytes that are no text. -/
def utf8Fault? (bytes : Bytes) : Option Utf8Fault := firstFault? .start 0 0 bytes

/-- The UTF-8 bytes of a text. -/
def toBytes (text : String) : Bytes := text.toUTF8.data.toList

/-- Where bytes are asked for, a text stands for its UTF-8 bytes. -/
instance : Coe String Bytes := ⟨toBytes⟩

instance : Coe (List String) (List Bytes) := ⟨List.map toBytes⟩

/-- The text that some bytes are the UTF-8 form of. -/
def ofBytes? (bytes : Bytes) : Option String := String.fromUTF8? ⟨bytes.toArray⟩

/-! ## Bytes that need not be text -/

/-- A piece of text and the bytes behind it that could not start or continue a character. -/
structure Chunk where
  valid : String
  broken : Bytes

/-- The chunks of some bytes, up to a number of them; all but the last one have a broken byte. -/
def chunksUpTo : Nat → Bytes → List Chunk
  | 0, _ => []
  | bound + 1, bytes =>
    match ofBytes? bytes, utf8Fault? bytes with
    | some text, _ => [⟨text, []⟩]
    | none, some (.malformed length index) =>
      ⟨(ofBytes? (bytes.take index)).getD "", (bytes.drop index).take length⟩ ::
        chunksUpTo bound (bytes.drop (index + length))
    | none, some (.cutOff index) => [⟨(ofBytes? (bytes.take index)).getD "", bytes.drop index⟩]
    | none, none => []

def chunks (bytes : Bytes) : List Chunk := chunksUpTo (bytes.length + 1) bytes

/-- What can be shown of some bytes: one sign stands for each broken sequence. -/
def lossy (bytes : Bytes) : String :=
  String.join ((chunks bytes).map fun chunk =>
    if chunk.broken = [] then chunk.valid else chunk.valid ++ "\uFFFD")

end Text

end TriggerScript
