import TriggerScript.Disk

/-!
# Numbers in bytes

A number of fixed width is written with its lowest byte first, except for the stamp at the head of an
artifact, which has its highest byte first.
-/

namespace TriggerScript.Artifact

/-- The lowest `width` bytes of a number, lowest first. -/
def littleEndian : (width : Nat) → Nat → Bytes
  | 0, _ => []
  | width + 1, value => UInt8.ofNat value :: littleEndian width (value / 256)

/-- The number whose bytes these are, lowest first. -/
def ofLittleEndian : Bytes → Nat
  | [] => 0
  | byte :: rest => byte.toNat + 256 * ofLittleEndian rest

/-- The bytes of a stamp. -/
def stampBytes (stamp : Int64) : Bytes := (littleEndian 8 stamp.toUInt64.toNat).reverse

/-- The stamp whose bytes these are. -/
def ofStampBytes (bytes : Bytes) : Int64 := (UInt64.ofNat (ofLittleEndian bytes.reverse)).toInt64

end TriggerScript.Artifact
