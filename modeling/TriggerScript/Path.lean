import TriggerScript.Text.Split
import TriggerScript.Text.Utf8

/-!
# Paths

A path is made of names divided by slashes. Names are bytes: they need not be text, though most are. A
path is kept as it was written. Two paths are the same when they have the same components: slashes in
a row, a slash at the end and single dots after the start make no difference.
-/

namespace TriggerScript

structure Path where ofBytes ::
  bytes : Bytes
deriving DecidableEq, Repr, Inhabited

namespace Path

/-- The path that a text spells. -/
def mk (text : String) : Path := ⟨text⟩

/-- The path as it is shown. -/
def text (path : Path) : String := Text.lossy path.bytes

abbrev slash : UInt8 := 0x2f

abbrev dot : UInt8 := 0x2e

inductive Component where
  | root
  /-- A single dot at the start of a relative path. -/
  | here
  | up
  | name (bytes : Bytes)
deriving DecidableEq, Repr

/-! ## Components -/

/-- The parts of a path between its slashes. -/
def pieces (path : Path) : List Bytes := Text.partsBetween slash path.bytes

def Component.ofPiece (piece : Bytes) : Component := if piece = [dot, dot] then .up else .name piece

/-- The components of the pieces that count: single dots do not. -/
def componentsOfPieces (parts : List Bytes) : List Component :=
  (parts.filter (· ≠ [dot])).map Component.ofPiece

/-- Whether a piece ends here: nothing follows, or a slash does. -/
def endsPiece (rest : Bytes) : Bool := rest.head?.all (· = slash)

/-- The components of a path's start: the root, or a single dot. -/
def startOf : Bytes → List Component
  | [] => []
  | first :: rest =>
    if first = slash then [.root]
    else if first = dot ∧ endsPiece rest then [.here]
    else []

def components (path : Path) : List Component :=
  startOf path.bytes ++ componentsOfPieces path.pieces

/-- Whether two paths have the same components. -/
def same (left right : Path) : Bool := left.components = right.components

def isAbsolute (path : Path) : Bool := path.bytes.head? = some slash

/-! ## Order -/

def Component.rank : Component → Nat
  | .root => 0
  | .here => 1
  | .up => 2
  | .name _ => 3

def Component.order : Component → Component → Ordering
  | .name left, .name right => compare left right
  | left, right => compare left.rank right.rank

def componentsOrder : List Component → List Component → Ordering
  | [], [] => .eq
  | [], _ :: _ => .lt
  | _ :: _, [] => .gt
  | left :: lefts, right :: rights => (left.order right).then (componentsOrder lefts rights)

/-- Paths are ordered component by component. -/
def order (left right : Path) : Ordering := componentsOrder left.components right.components

def atMost (left right : Path) : Bool := (left.order right).isLE

/-! ## Parts of a path -/

/-- The last component, if it is a name. -/
def fileName? (path : Path) : Option Bytes :=
  match path.components.getLast? with
  | some (.name bytes) => some bytes
  | _ => none

/-- Drops the slashes and single dots at the end of what is given backwards. -/
def dropIdle : Bytes → Bytes
  | [] => []
  | last :: rest =>
    if last = slash ∨ last = dot ∧ endsPiece rest then dropIdle rest
    else last :: rest

/-- A path's start, its root or first dot, and what stands behind it. -/
def splitStart : Bytes → Bytes × Bytes
  | [] => ([], [])
  | first :: rest =>
    if first = slash ∨ first = dot ∧ endsPiece rest then ([first], rest)
    else ([], first :: rest)

/-- The path up to its last component, without slashes at the end. -/
def parent? (path : Path) : Option Path :=
  let (start, body) := splitStart path.bytes
  match dropIdle body.reverse with
  | [] => if start = [dot] then some ⟨[]⟩ else none
  | backwards =>
    let before := dropIdle (backwards.dropWhile (· ≠ slash))
    some ⟨start ++ before.reverse⟩

/-- A path and the paths above it, nearest first. -/
def ancestorsUpTo : Nat → Path → List Path
  | 0, path => [path]
  | bound + 1, path =>
    match path.parent? with
    | some parent => path :: ancestorsUpTo bound parent
    | none => [path]

def ancestors (path : Path) : List Path := ancestorsUpTo path.bytes.length path

/-- The part of a name behind its last dot; the dot must not be the first byte. -/
def extensionOfName? (name : Bytes) : Option Bytes :=
  let backwards := name.reverse
  let behind := backwards.takeWhile (· ≠ dot)
  match backwards.dropWhile (· ≠ dot) with
  | _ :: _ :: _ => some behind.reverse
  | _ => none

def extension? (path : Path) : Option Bytes := path.fileName?.bind extensionOfName?

/-- The path `below` seen from `base`. -/
def join (base below : Path) : Path :=
  if below.isAbsolute then below
  else if base.bytes = [] ∨ base.bytes.getLast? = some slash then ⟨base.bytes ++ below.bytes⟩
  else ⟨base.bytes ++ slash :: below.bytes⟩

end Path

end TriggerScript
