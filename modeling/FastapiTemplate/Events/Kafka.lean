import FastapiTemplate.Events.RedisStreams

/-!
# Events on a Kafka topic

What the two adapters send for an event, and what their consumers make of it, the producer and the consumer of Kafka
being connected. `RedisStreamsEventBus` sends what `to_json` prints and reads it with `from_json`; `KafkaEventBus` has
a record of its own, without the user. So an event comes through Redis as it is, and through Kafka exactly if it has no
user (`receive_publish_iff`).
-/

namespace FastapiTemplate.Events

open Python

variable {η : Type}

/-- `json.dumps` and `json.loads`; what is printed is read back. -/
structure Json where
  dumps : Value → Except BuiltinError String
  loads : String → Except BuiltinError Value
  lossless : ∀ value text, dumps value = .ok text → loads text = .ok value

/-- An event with the types that the dataclass declares. -/
structure Declared where
  eventType : String
  payload : List (String × Value)
  id : String
  timestamp : String
  userId : Option ℤ

namespace Declared

def event (e : Declared) : Event where
  eventType := .str e.eventType
  payload := .dict e.payload
  id := .str e.id
  timestamp := .str e.timestamp
  userId := match e.userId with
    | some userId => .int userId
    | none => .none

/-- The event without its user. -/
def anonymous (e : Declared) : Declared := { e with userId := none }

lemma event_anonymous_eq_iff {e : Declared} : e.anonymous.event = e.event ↔ e.userId = none := by
  unfold anonymous event
  cases e.userId with
  | none => simp
  | some userId => simp

end Declared

/-! ### Publishing -/

/-- `Event.to_json` -/
def Event.toJson (json : Json) (event : Event) : Except BuiltinError String :=
  json.dumps (.dict [("id", event.id), ("event_type", event.eventType), ("payload", event.payload),
    ("timestamp", event.timestamp), ("user_id", event.userId)])

/-- `RedisStreamsEventBus.publish`: the fields that are added to the stream. -/
def redisPublish (json : Json) (event : Event) : Except BuiltinError Message := do
  let data ← event.toJson json
  return [("event", data)]

/-- `KafkaEventBus.publish`: the record that is sent to the topic. -/
def kafkaPublish (json : Json) (event : Event) : Except BuiltinError String :=
  json.dumps (.dict [("event_type", event.eventType), ("payload", event.payload), ("id", event.id),
    ("timestamp", event.timestamp)])

/-! ### Consuming -/

/-- The event that the loop makes of a record. -/
def kafkaEvent (loads : String → Except BuiltinError Value) (record : String) : Except DecodeError Event := do
  let eventData ← (loads record).mapError .builtin
  return {
    eventType := ← subscript eventData "event_type"
    payload := ← subscript eventData "payload"
    id := ← subscript eventData "id"
    timestamp := ← subscript eventData "timestamp"
    userId := .none }

/-- The event of a record, and the handlers it is for. -/
def Consumer.readRecord (c : Consumer η) (record : String) : Except DecodeError (Event × List η) := do
  let event ← kafkaEvent c.loads record
  let handlers ← c.handlersOf event.eventType
  return (event, handlers)

/-- The calls for the records of one poll. A handler that raises is passed over; a record that cannot be read ends the
poll. -/
def Consumer.pollCalls (c : Consumer η) : List String → List (η × Event)
  | [] => []
  | record :: rest =>
    match c.readRecord record with
    | .error _ => []
    | .ok (event, handlers) => handlers.map (fun handler => (handler, event)) ++ c.pollCalls rest

section Transport

variable {json : Json} {c : Consumer η} {e : Declared}

/-- What `from_json` reads of what `to_json` printed. -/
theorem fromJson_toJson {event : Event} {data : String} (h : event.toJson json = .ok data) :
    Event.fromJson json.loads data = .ok event := by
  unfold Event.fromJson
  rw [json.lossless _ _ h]
  rfl

/-- What the Kafka loop reads of what was sent. -/
theorem kafkaEvent_publish {event : Event} {record : String} (h : kafkaPublish json event = .ok record) :
    kafkaEvent json.loads record = .ok { event with userId := .none } := by
  unfold kafkaEvent
  rw [json.lossless _ _ h]
  rfl

/-- The handlers of an event type. -/
lemma handlersOf_event (e : Declared) : c.handlersOf e.event.eventType = .ok (c.handlers "*" ++ c.handlers e.eventType) :=
  rfl

lemma read_publish (hc : c.loads = json.loads) {message : Message} (h : redisPublish json e.event = .ok message) :
    c.read message = .ok (e.event, c.handlers "*" ++ c.handlers e.eventType) := by
  obtain ⟨data, hdata, hmessage⟩ := bind_eq_ok.1 h
  obtain rfl : [("event", data)] = message := Except.ok.inj hmessage
  have hread := fromJson_toJson hdata
  rw [← hc] at hread
  unfold Consumer.read
  rw [List.lookup_cons_self]
  exact bind_eq_ok.2 ⟨data, rfl, bind_eq_ok.2 ⟨e.event, hread, bind_eq_ok.2 ⟨_, handlersOf_event e, rfl⟩⟩⟩

lemma readRecord_publish (hc : c.loads = json.loads) {record : String}
    (h : kafkaPublish json e.event = .ok record) :
    c.readRecord record = .ok (e.anonymous.event, c.handlers "*" ++ c.handlers e.eventType) := by
  have hread := kafkaEvent_publish h
  rw [← hc] at hread
  exact bind_eq_ok.2 ⟨e.anonymous.event, hread, bind_eq_ok.2 ⟨_, handlersOf_event e.anonymous, rfl⟩⟩

/-- **A poll of published events**: every handler is called with every event of its type, without the user. -/
theorem pollCalls_published (hc : c.loads = json.loads) {sent : List (Declared × String)}
    (h : ∀ x ∈ sent, kafkaPublish json x.1.event = .ok x.2) :
    c.pollCalls (sent.map Prod.snd) = sent.flatMap fun x =>
      (c.handlers "*" ++ c.handlers x.1.eventType).map fun handler => (handler, x.1.anonymous.event) := by
  induction sent with
  | nil => rfl
  | cons x sent ih =>
    have hread := readRecord_publish hc (h x List.mem_cons_self)
    rw [List.map_cons, List.flatMap_cons, Consumer.pollCalls, hread]
    dsimp only
    rw [ih fun y hy => h y (List.mem_cons_of_mem _ hy)]

end Transport

/-! ### The adapters -/

/-- The two buses. -/
inductive Adapter where
  | redisStreams
  | kafka
  deriving DecidableEq

/-- What is on its way. -/
inductive Sent where
  | fields (message : Message)
  | record (text : String)

def Adapter.publish (json : Json) (event : Event) : Adapter → Except BuiltinError Sent
  | .redisStreams => Sent.fields <$> redisPublish json event
  | .kafka => Sent.record <$> kafkaPublish json event

/-- The event that the consumer loop builds. -/
def Consumer.receive (c : Consumer η) : Sent → Except DecodeError Event
  | .fields message => Prod.fst <$> c.read message
  | .record text => Prod.fst <$> c.readRecord text

lemma map_eq_ok {ε α β : Type} {f : α → β} {x : Except ε α} {b : β} :
    f <$> x = .ok b ↔ ∃ a, x = .ok a ∧ f a = b := by
  cases x with
  | error e => exact ⟨nofun, fun ⟨_, h, _⟩ => nomatch h⟩
  | ok a => exact ⟨fun h => ⟨a, rfl, Except.ok.inj h⟩, fun ⟨_, h, hf⟩ => Except.ok.inj h ▸ congrArg Except.ok hf⟩

/-- **Which events come through as they are**: all of them on Redis, and those without a user on Kafka. -/
theorem receive_publish_iff (json : Json) (c : Consumer η) (adapter : Adapter) (e : Declared) (sent : Sent)
    (hc : c.loads = json.loads) (h : adapter.publish json e.event = .ok sent) :
    c.receive sent = .ok e.event ↔ adapter = .redisStreams ∨ e.userId = none := by
  cases adapter with
  | redisStreams =>
    obtain ⟨message, hmessage, rfl⟩ := map_eq_ok.1 h
    exact iff_of_true (map_eq_ok.2 ⟨_, read_publish hc hmessage, rfl⟩) (.inl rfl)
  | kafka =>
    obtain ⟨record, hrecord, rfl⟩ := map_eq_ok.1 h
    have hreceive : c.receive (.record record) = .ok e.anonymous.event :=
      map_eq_ok.2 ⟨_, readRecord_publish hc hrecord, rfl⟩
    rw [hreceive, ← Declared.event_anonymous_eq_iff]
    constructor
    · exact fun heq => .inr (Except.ok.inj heq)
    · rintro (heq | heq)
      · cases heq
      · exact congrArg Except.ok heq

namespace Sample

/-- The login of user 7. -/
def login : Declared where
  eventType := "user.login"
  payload := []
  id := "1"
  timestamp := "2026-01-01T00:00:00+00:00"
  userId := some 7

/-- The record of the login, and its text. -/
def loginRecord : Value :=
  .dict [("event_type", .str "user.login"), ("payload", .dict []), ("id", .str "1"),
    ("timestamp", .str "2026-01-01T00:00:00+00:00")]

def loginText : String :=
  "\x7b\"event_type\": \"user.login\", \"payload\": \x7b\x7d, \"id\": \"1\", " ++
    "\"timestamp\": \"2026-01-01T00:00:00+00:00\"\x7d"

/-- JSON of that record alone. -/
def loginJson : Json where
  dumps
    | .dict [("event_type", .str "user.login"), ("payload", .dict []), ("id", .str "1"),
        ("timestamp", .str "2026-01-01T00:00:00+00:00")] => .ok loginText
    | _ => .error .typeError
  loads text := if text = loginText then .ok loginRecord else .error .valueError
  lossless value text h := by
    split at h
    · rw [← Except.ok.inj h]
      exact if_pos rfl
    · cases h

/-- One handler, of logins. -/
def greeter : Consumer Unit where
  handlers eventType := if eventType = "user.login" then [()] else []
  loads := loginJson.loads
  raises _ _ _ := false

lemma login_published : Adapter.kafka.publish loginJson login.event = .ok (.record loginText) := rfl

end Sample

open Sample in
/-- Kafka loses the user. -/
theorem kafka_loses_user :
    Adapter.kafka.publish loginJson login.event = .ok (.record loginText) ∧
      greeter.receive (.record loginText) = .ok login.anonymous.event ∧
      greeter.receive (.record loginText) ≠ .ok login.event := by
  have hreceive : greeter.receive (.record loginText) = .ok login.anonymous.event := by
    unfold Consumer.receive
    exact map_eq_ok.2 ⟨_, readRecord_publish rfl (show kafkaPublish loginJson login.event = .ok loginText from rfl), rfl⟩
  refine ⟨login_published, hreceive, fun h => ?_⟩
  have hsame : login.anonymous.event = login.event := Except.ok.inj (hreceive.symm.trans h)
  exact absurd (Declared.event_anonymous_eq_iff.1 hsame) (by decide)

open Sample in
/-- The condition for the login: it is sent to Kafka, with a user. -/
theorem receive_publish_iff_login :
    greeter.receive (.record loginText) = .ok login.event ↔ Adapter.kafka = .redisStreams ∨ login.userId = none :=
  receive_publish_iff loginJson greeter .kafka login (.record loginText) rfl login_published

end FastapiTemplate.Events
