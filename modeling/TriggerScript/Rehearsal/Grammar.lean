import TriggerScript.Services

/-!
# A small language to rehearse with

A rehearsal runs the compiler and the loader without a host, on collaborators that are small and
known in full. Its grammar tells everything by the first words of a text.
-/

namespace TriggerScript.Rehearsal

/-- Whether a text starts with another. -/
def startsWith (text start : String) : Bool := start.toList.isPrefixOf text.toList

/-- The words of a text, divided by spaces. -/
def tokens (text : String) : List String := (Text.partsBetween ' ' text.toList).map String.ofList

/-- The payload that the words of a text ask for; `total` counts all words of the text. -/
def payloadOfTokens (total : Nat) : List String → Payload
  | [] => .none
  | token :: rest =>
    if token = "opaque" then .foreign ⟨0, total⟩
    else if token = "words" then .words rest
    else if token = "text" then .text (" ".intercalate rest)
    else payloadOfTokens total rest

def payloadOf (text : String) : Payload := payloadOfTokens (tokens text).length (tokens text)

/-! ## Events -/

/-- The hooks of the kinds that run by the clock. -/
def timers : Hooks := ⟨"timers"⟩

def dispatched (kind : String) (types : List String) : EventInfo :=
  ⟨kind, .dispatched (types.map EventType.mk)⟩

def catalog : List EventInfo :=
  [dispatched "join" ["PlayerJoin"],
    dispatched "quit" ["PlayerQuit", "PlayerKick"],
    dispatched "chat" ["AsyncChat", "command"],
    dispatched "twice" ["Tick", "Tick"],
    dispatched "silent" [],
    dispatched "many" ["𐐀deseret", "～wave", "Ärger", "blockBurn", "BlockBreak"],
    ⟨"every", .selfManaged timers⟩,
    ⟨"at", .selfManaged timers⟩]

/-- The event types of the catalog and of the kind outside it. -/
def eventTypes : List EventType :=
  ["PlayerJoin", "PlayerQuit", "PlayerKick", "AsyncChat", "command", "Tick", "BlockBreak",
    "blockBurn", "Ärger", "～wave", "𐐀deseret", "Ghost"].map EventType.mk

/-- The catalog entry of a kind that has not been forgotten. -/
def eventInfo? (forgotten : List String) (kind : String) : Option EventInfo :=
  if forgotten.contains kind then none else catalog.find? fun info => info.kind = kind

/-- The kind `ghost` is understood although the catalog does not list it. -/
def parseEvent (forgotten : List String) (text : String) : Except String (EventInfo × EventSpec) :=
  let kind := (tokens text).headD ""
  let spec : EventSpec := ⟨kind, text, payloadOf text⟩
  if kind = "why" then .error "no such event"
  else if kind = "ghost" then .ok (dispatched "ghost" ["Ghost"], spec)
  else match eventInfo? forgotten kind with
    | some info => .ok (info, spec)
    | none => .error ""

/-! ## Conditions, expressions and statements -/

def parseCondition (text : String) : Except String Condition :=
  if startsWith text "bad" then .error ""
  else if startsWith text "why" then .error "no such condition"
  else .ok ⟨text, payloadOf text⟩

def parseExpression (text : String) : Except String Expression :=
  if startsWith text "bad" then .error ""
  else if startsWith text "why" then .error "no such expression"
  else
    let plural := "players".toList.isSuffixOf text.toList
    .ok ⟨text, !startsWith text "all ", if plural then "player" else "object", payloadOf text⟩

def parseStatement (text : String) (context : Context) : Except String Statement :=
  if startsWith text "bad" then .error ""
  else if startsWith text "why" then .error "no such effect"
  else if startsWith text "resume" && context.delay = .no then .error "nothing to resume"
  else if startsWith text "instant" && context.delay ≠ .no then
    .error ("delayed: " ++ context.delay.text)
  else
    let suspends := startsWith text "delay"
    if startsWith text "give " then
      let item := String.ofList (text.toList.drop 5)
      match context.aliases.find? item with
      | some itemType => .ok ⟨text, suspends, .words itemType.ids⟩
      | none => .error ("unknown item " ++ item)
    else .ok ⟨text, suspends, payloadOf text⟩

def grammar (forgotten : List String) : Grammar where
  parseEvent text _ := parseEvent forgotten text
  eventInfo? := eventInfo? forgotten
  parseCondition text _ := parseCondition text
  parseExpression text _ _ := parseExpression text
  parseStatement := parseStatement

end TriggerScript.Rehearsal
