import DepositBridge.Abi.Interface

/-!
# Events

What a contract announces. The announcement of an event is a log: topics, the first of which tells
the event unless it is anonymous, and data. Indexed arguments are in the topics, the others in the
data.
-/

namespace DepositBridge.Abi

/-- Why a log cannot be read as an event. -/
inductive LogFault where
  /-- It announces another event, or none. -/
  | otherEvent
  /-- It has more or fewer topics than the event. -/
  | topicCount
  /-- It ends too early. -/
  | tooShort
  /-- A value does not fit its type. -/
  | padding
  deriving DecidableEq, Repr

/-- The wording of a fault. -/
def LogFault.message : LogFault → String
  | otherEvent => "The log announces another event"
  | topicCount => "The log has the wrong number of topics"
  | tooShort => "The log ends too early"
  | padding => "The log has a value that does not fit its type"

/-- A parameter of an event. -/
structure EventParameter where
  name : String
  type : Ty
  isIndexed : Bool

/-- An event of an interface. -/
structure Event where
  name : String
  parameters : List EventParameter
  isAnonymous : Bool

namespace Event

/-! ## Reading an interface -/

/-- The parameter of an entry's input. -/
def parameterOf? (input : Value) : Option EventParameter := do
  let type ← Ty.ofParameter? tupleDepth input
  let name := match input.get? "name" with
    | some (.text name) => name
    | _ => ""
  let isIndexed := match input.get? "indexed" with
    | some (.bool b) => b
    | _ => false
  pure ⟨name, type, isIndexed⟩

/-- The event of an entry. -/
def ofEntry? (name : String) (entry : Value) : Option Event := do
  let parameters ← (parametersOf "inputs" entry).mapM parameterOf?
  let isAnonymous := match entry.get? "anonymous" with
    | some (.bool b) => b
    | _ => false
  pure ⟨name, parameters, isAnonymous⟩

/-! ## Logs -/

variable (event : Event)

/-- The topic that tells an event from others. -/
def topic : Octets :=
  Keccak.hash (Text.encodeUtf8 (event.name ++ (Ty.tuple (event.parameters.map (·.type))).name))

/-- The parameters whose arguments are in the topics. -/
def indexed : List EventParameter := event.parameters.filter (·.isIndexed)

/-- The parameters whose arguments are in the data. -/
def others : List EventParameter := event.parameters.filter fun parameter => !parameter.isIndexed

/-- The type that an indexed argument has in its topic: of data that vary in size there is only a
hash. -/
def topicType (t : Ty) : Ty :=
  match t with
  | .uint _ | .int _ | .bool | .address | .fixedBytes _ => t
  | _ => .fixedBytes 32

/-- The data of types in octets. -/
def dataOf (types : List Ty) (content : Octets) : Except LogFault (List Datum) :=
  match decodeAll? types content with
  | some data => .ok data
  | none => if content.length < Ty.headSizes types then .error .tooShort else .error .padding

/-- The argument of an indexed parameter in its topic. -/
def topicArgument (parameter : EventParameter) (topic : Octets) :
    Except LogFault (String × Datum) := do
  match ← dataOf [topicType parameter.type] topic with
  | [datum] => pure (parameter.name, datum)
  | _ => throw .padding

/-- The topics of the arguments: all but the first, which has to tell this event. -/
def argumentTopics (topics : List Octets) : Except LogFault (List Octets) :=
  if event.isAnonymous then .ok topics
  else
    match topics with
    | first :: rest => if first = event.topic then .ok rest else .error .otherEvent
    | [] => .error .otherEvent

/-- The arguments of an event in a log, each under its name: those in the topics, then the
others. -/
def arguments (topics : List Octets) (content : Octets) :
    Except LogFault (List (String × Datum)) := do
  let topics ← event.argumentTopics topics
  if topics.length ≠ event.indexed.length then throw .topicCount
  let data ← dataOf (event.others.map (·.type)) content
  let found ← (event.indexed.zip topics).mapM fun (parameter, topic) =>
    topicArgument parameter topic
  pure (found ++ (event.others.map (·.name)).zip data)

end Event

end DepositBridge.Abi
