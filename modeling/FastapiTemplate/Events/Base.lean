import FastapiTemplate.Python.Value

/-!
# Events

The record that the event buses carry. The dataclass checks no field, so an event that was read from a message has the
values that stood there.
-/

namespace FastapiTemplate.Events

open Python

/-- What reading a message raises. -/
inductive DecodeError where
  | keyError (key : String)
  | builtin (e : BuiltinError)
  deriving DecidableEq, Repr

/-- `obj[key]` -/
def subscript (obj : Value) (key : String) : Except DecodeError Value :=
  match obj with
  | .dict kvs => match kvs.lookup key with
    | some value => .ok value
    | none => .error (.keyError key)
  | _ => .error (.builtin .typeError)

structure Event where
  eventType : Value
  payload : Value
  id : Value
  timestamp : Value
  userId : Value

/-- `obj.get(key, default)`, on what has been subscripted before. -/
def getItem (obj : Value) (key : String) (default : Value) : Except DecodeError Value :=
  (obj.get key default).mapError .builtin

/-- `Event.from_json`, where `loads` is `json.loads`. -/
def Event.fromJson (loads : String → Except BuiltinError Value) (data : String) : Except DecodeError Event := do
  let obj ← (loads data).mapError .builtin
  return {
    eventType := ← subscript obj "event_type"
    payload := ← getItem obj "payload" (.dict [])
    id := ← subscript obj "id"
    timestamp := ← subscript obj "timestamp"
    userId := ← getItem obj "user_id" .none }

end FastapiTemplate.Events
