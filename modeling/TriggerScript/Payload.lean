/-!
# Payloads

Data that a collaborator attaches to what it compiles. A foreign object lives in the running program
only: it has an identity but no stored form, and it equals nothing but itself.
-/

namespace TriggerScript

structure ForeignObject where
  identity : Nat
  content : Nat
deriving DecidableEq, Repr

inductive Payload where
  | none
  | text (text : String)
  | words (words : List String)
  | foreign (object : ForeignObject)
deriving DecidableEq, Repr, Inhabited

end TriggerScript
