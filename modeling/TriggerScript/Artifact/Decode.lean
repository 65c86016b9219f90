import TriggerScript.Artifact.Word
import TriggerScript.CompiledUnit

/-!
# Reading artifacts

A decoder takes what it needs from the front of the bytes and leaves the rest. Bytes behind the unit
are ignored.
-/

namespace TriggerScript.Artifact

abbrev Decoder (α : Type) := Bytes → Except DecodeError (α × Bytes)

def decodeNumber (width : Nat) : Decoder Nat := fun bytes =>
  let digits := bytes.take width
  if digits.length < width then .error .cutOff
  else .ok (ofLittleEndian digits, bytes.drop width)

def decodeLength : Decoder Nat := decodeNumber 8

/-- A variant, which must be one of `count`. -/
def decodeVariant (count : Nat) : Decoder Nat := fun bytes => do
  let (index, bytes) ← decodeNumber 4 bytes
  if index < count then pure (index, bytes) else throw (.unknownVariant index count)

def decodeTruth : Decoder Bool
  | [] => .error .cutOff
  | byte :: rest =>
    if byte = 0 then .ok (false, rest)
    else if byte = 1 then .ok (true, rest)
    else .error (.badTruth byte.toNat)

/-- Something that may be absent. -/
def decodeOptional {α : Type} (decode : Decoder α) : Decoder (Option α)
  | [] => .error .cutOff
  | byte :: rest =>
    if byte = 0 then .ok (none, rest)
    else if byte = 1 then do
      let (value, rest) ← decode rest
      pure (some value, rest)
    else .error (.badPresence byte.toNat)

def decodeText : Decoder String := fun bytes => do
  let (length, bytes) ← decodeLength bytes
  let content := bytes.take length
  if content.length < length then throw .cutOffText
  else
    match Text.ofBytes? content with
    | some text => pure (text, bytes.drop length)
    | none => throw (.badText ((Text.utf8Fault? content).getD (.cutOff length)))

def decodePath : Decoder Path := fun bytes => do
  let (text, bytes) ← decodeText bytes
  pure (⟨text⟩, bytes)

/-- A number of things, one after the other. -/
def decodeMany {α : Type} (decode : Decoder α) : Nat → Decoder (List α)
  | 0, bytes => .ok ([], bytes)
  | count + 1, bytes => do
    let (first, bytes) ← decode bytes
    let (others, bytes) ← decodeMany decode count bytes
    pure (first :: others, bytes)

def decodeSequence {α : Type} (decode : Decoder α) : Decoder (List α) := fun bytes => do
  let (count, bytes) ← decodeLength bytes
  decodeMany decode count bytes

def decodePayload : Decoder Payload := fun bytes => do
  let (variant, bytes) ← decodeVariant 3 bytes
  match variant with
  | 0 => pure (.none, bytes)
  | 1 =>
    let (text, bytes) ← decodeText bytes
    pure (.text text, bytes)
  | _ =>
    let (words, bytes) ← decodeSequence decodeText bytes
    pure (.words words, bytes)

def decodeStatement : Decoder Statement := fun bytes => do
  let (source, bytes) ← decodeText bytes
  let (suspends, bytes) ← decodeTruth bytes
  let (payload, bytes) ← decodePayload bytes
  pure (⟨source, suspends, payload⟩, bytes)

def decodeCondition : Decoder Condition := fun bytes => do
  let (source, bytes) ← decodeText bytes
  let (payload, bytes) ← decodePayload bytes
  pure (⟨source, payload⟩, bytes)

def decodeExpression : Decoder Expression := fun bytes => do
  let (source, bytes) ← decodeText bytes
  let (single, bytes) ← decodeTruth bytes
  let (returnType, bytes) ← decodeText bytes
  let (payload, bytes) ← decodePayload bytes
  pure (⟨source, single, returnType, payload⟩, bytes)

/--
An item whose blocks are nested at most `depth` deep. Every level of nesting takes some bytes, so the
number of bytes is depth enough.
-/
def decodeItem : (depth : Nat) → Decoder Item
  | 0, _ => .error .cutOff
  | depth + 1, bytes => do
    let (variant, bytes) ← decodeVariant 4 bytes
    match variant with
    | 0 =>
      let (statement, bytes) ← decodeStatement bytes
      pure (.statement statement, bytes)
    | 1 =>
      let (condition, bytes) ← decodeCondition bytes
      let (body, bytes) ← decodeSequence (decodeItem depth) bytes
      let (other, bytes) ← decodeOptional (decodeSequence (decodeItem depth)) bytes
      match other with
      | none => pure (.conditional condition body, bytes)
      | some other => pure (.choice condition body other, bytes)
    | 2 =>
      let (iterable, bytes) ← decodeExpression bytes
      let (body, bytes) ← decodeSequence (decodeItem depth) bytes
      pure (.loop iterable body, bytes)
    | _ =>
      let (condition, bytes) ← decodeCondition bytes
      let (body, bytes) ← decodeSequence (decodeItem depth) bytes
      pure (.while condition body, bytes)

def decodeBlock : Decoder Block := fun bytes =>
  decodeSequence (decodeItem bytes.length) bytes

def decodeSpec : Decoder EventSpec := fun bytes => do
  let (kind, bytes) ← decodeText bytes
  let (text, bytes) ← decodeText bytes
  let (payload, bytes) ← decodePayload bytes
  pure (⟨kind, text, payload⟩, bytes)

def decodeTrigger : Decoder Trigger := fun bytes => do
  let (file, bytes) ← decodeOptional decodePath bytes
  let (name, bytes) ← decodeText bytes
  let (event, bytes) ← decodeSpec bytes
  let (body, bytes) ← decodeBlock bytes
  pure (⟨file, name, event, body⟩, bytes)

def decodeCommand : Decoder Command := fun bytes => do
  let (name, bytes) ← decodeText bytes
  let (file, bytes) ← decodeOptional decodePath bytes
  let (payload, bytes) ← decodePayload bytes
  pure (⟨name, file, payload⟩, bytes)

def decodeUnit : Decoder CompiledUnit := fun bytes => do
  let (triggers, bytes) ← decodeSequence decodeTrigger bytes
  let (commands, bytes) ← decodeSequence decodeCommand bytes
  pure ({ triggers, commands }, bytes)

/-- The stamp at the head of an artifact, and the bytes behind it. -/
def decodeStamp : Decoder Int64 := fun bytes =>
  let digits := bytes.take 8
  if digits.length < 8 then .error .shortStamp
  else .ok (ofStampBytes digits, bytes.drop 8)

/--
The unit of an artifact, if its stamp is the current time of the script. That time counts only once
there is a stamp to compare it with.
-/
def decode (bytes : Bytes) (current : Except IoError Int64) : Except CacheError CompiledUnit := do
  let (stored, bytes) ← (decodeStamp bytes).mapError .decode
  let current ← current.mapError .io
  if stored ≠ current then throw (.stale stored current)
  let (unit, _) ← (decodeUnit bytes).mapError .decode
  pure unit

end TriggerScript.Artifact
