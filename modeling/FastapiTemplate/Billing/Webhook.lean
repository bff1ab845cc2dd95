import FastapiTemplate.Billing.Requests
import FastapiTemplate.Core.Exec
import FastapiTemplate.Core.Signing

/-!
# The webhook endpoint, from the bytes on

`stripe_webhook` with the raw body and the signature header. Up to `process_event` the lines are
`admitWebhook`: the check of the settings, of the signature and of the JSON. `json.loads` is a parameter,
as is the depth from which `str` gives up on a nested value. `receiveWebhook_exec` relates the endpoint to
`stripeWebhook`, which starts where the signature is verified and the body is read.

A verified request is answered exactly if its body is no JSON at all or is a JSON object
(`receiveWebhook_answers_iff`): `event.get` on any other value raises where nothing catches it.
-/

namespace FastapiTemplate.Billing

open Core Database Python Effects Script

variable {S : Schema}

/-! ### The endpoint -/

/-- The settings the endpoint reads. -/
structure StripeSettings where
  secretKey : String := ""
  webhookSecret : String := ""

def StripeSettings.stripeConfigured (keys : StripeSettings) : Bool := keys.secretKey != ""

/-- What the interpreter does with bytes and values: `json.loads`, and the values that are nested too
deep for `str`. -/
structure Interpreter where
  loads : ByteArray → Except BuiltinError Value
  tooDeep : Value → Bool

/-- `str(v)` -/
def Interpreter.str (py : Interpreter) (v : Value) : Except BuiltinError String :=
  if py.tooDeep v then .error .recursionError else .ok v.toStr

/-- `str(event.get(key, ""))` -/
def Interpreter.field (py : Interpreter) (event : Value) (key : String) : Except BuiltinError String := do
  let v ← event.get key (.str "")
  py.str v

/-- A request as it arrives. -/
structure WebhookCall where
  body : ByteArray
  signature : Option String

def webhookToleranceSeconds : ℤ := 300

section Endpoint

variable (py : Interpreter) (mac : Hmac) (keys : StripeSettings) (cfg : Settings) (call : WebhookCall)

/-- The signature check of the endpoint. -/
def verifyWebhook : Py S Bool :=
  verifySignatureHeader mac call.body keys.webhookSecret call.signature webhookToleranceSeconds

/-- The body and its id and type: an answer, or the event that is processed. -/
def readEvent (body : ByteArray) : Except Exn (Response ⊕ Value) :=
  match py.loads body with
  | .error .valueError => .ok (.inl (.detail 400 "Invalid JSON"))
  | .error e => .error (.builtin e)
  | .ok event => do
    let eventId ← liftBuiltin (py.field event "id")
    let eventType ← liftBuiltin (py.field event "type")
    if eventId = "" ∨ eventType = "" then return .inl (.detail 400 "Missing id/type")
    else return .inr event

/-- The lines of `stripe_webhook` before `process_event`. -/
def admitWebhook : Py S (Response ⊕ Value) := do
  if !keys.stripeConfigured then throw (.http 503 "Billing provider not configured")
  else
    let verified ← verifyWebhook mac keys call
    if !verified then return .inl (.detail 400 "Invalid signature")
    else ofExcept (readEvent py call.body)

/-- `process_event` and the acknowledgement, whatever it raises. -/
def acknowledge (event : Value) (bus : EventBus) : Py S Response := do
  let outcome ← tryCatch (processEvent cfg event (some bus)) fun e =>
    match e with
    | .illegalTransition _ _ => pure "rejected"
    | _ => pure "error"
  return ⟨200, .dict [("received", .bool true), ("outcome", .str outcome)]⟩

/-- `stripe_webhook`, from the bytes on. -/
def receiveWebhook (bus : EventBus) : Py S Response := do
  match ← admitWebhook py mac keys call with
  | .inl response => return response
  | .inr event => acknowledge cfg event bus

end Endpoint

/-! ### What the body allows -/

/-- The id and the type of the body can be read and neither is empty. -/
def Usable (py : Interpreter) (body : ByteArray) : Prop :=
  ∃ event eventId eventType, py.loads body = .ok event ∧ py.field event "id" = .ok eventId ∧
    py.field event "type" = .ok eventType ∧ eventId ≠ "" ∧ eventType ≠ ""

/-- No JSON at all, or an object whose id and type can be printed. -/
def Legible (py : Interpreter) (body : ByteArray) : Prop :=
  py.loads body = .error .valueError ∨
    ∃ kvs, py.loads body = .ok (.dict kvs) ∧
      ∀ key ∈ ["id", "type"], py.tooDeep ((kvs.lookup key).getD (.str "")) = false

/-- Answered with 2xx, or with 400 for a body that is not usable. -/
def Acknowledged (py : Interpreter) (body : ByteArray) (result : Except Exn Response) : Prop :=
  ∃ response, result = .ok response ∧
    (response.statusCode / 100 = 2 ∨ response.statusCode = 400 ∧ ¬Usable py body)

section Lemmas

variable {py : Interpreter} {mac : Hmac} {keys : StripeSettings} {cfg : Settings} {call : WebhookCall}
  {s : Session} {w : World S}

/-- `str(event.get(key, ""))` returns for an object whose value is not nested too deep. -/
lemma field_eq_ok {event : Value} {key text : String} :
    py.field event key = .ok text ↔
      ∃ kvs, event = .dict kvs ∧ py.tooDeep ((kvs.lookup key).getD (.str "")) = false ∧
        ((kvs.lookup key).getD (.str "")).toStr = text := by
  unfold Interpreter.field
  cases event with
  | dict kvs =>
    show py.str _ = .ok text ↔ _
    unfold Interpreter.str
    cases hd : py.tooDeep ((kvs.lookup key).getD (.str "")) with
    | true => exact ⟨nofun, fun ⟨_, h, hf, _⟩ => by cases h; simp [hd] at hf⟩
    | false =>
      constructor
      · intro h
        exact ⟨kvs, rfl, hd, Except.ok.inj h⟩
      · rintro ⟨_, ⟨⟩, -, rfl⟩
        rfl
  | none | bool | int | float | str | list => exact ⟨nofun, fun ⟨_, h, _⟩ => nomatch h⟩

/-- What reading the body gives, if it does not raise. -/
lemma readEvent_eq_ok {body : ByteArray} {r : Response ⊕ Value} (h : readEvent py body = .ok r) :
    py.loads body = .error .valueError ∧ r = .inl (.detail 400 "Invalid JSON") ∨
      ∃ event eventId eventType, py.loads body = .ok event ∧ py.field event "id" = .ok eventId ∧
        py.field event "type" = .ok eventType ∧
        r = if eventId = "" ∨ eventType = "" then .inl (.detail 400 "Missing id/type") else .inr event := by
  unfold readEvent at h
  rcases hloads : py.loads body with e | event
  · rw [hloads] at h
    cases e with
    | valueError => exact .inl ⟨rfl, (Except.ok.inj h).symm⟩
    | attributeError | typeError | overflowError | recursionError => cases h
  · rw [hloads] at h
    obtain ⟨eventId, hid, h⟩ := bind_eq_ok.1 h
    obtain ⟨eventType, htype, h⟩ := bind_eq_ok.1 h
    refine .inr ⟨event, eventId, eventType, rfl, liftBuiltin_eq_ok.1 hid, liftBuiltin_eq_ok.1 htype, ?_⟩
    split at h
    · rename_i hempty
      rw [if_pos hempty]
      exact (Except.ok.inj h).symm
    · rename_i hempty
      rw [if_neg hempty]
      exact (Except.ok.inj h).symm

/-- The body is read without a raise exactly if it is legible. -/
theorem exists_readEvent {body : ByteArray} : (∃ r, readEvent py body = .ok r) ↔ Legible py body := by
  constructor
  · rintro ⟨r, hr⟩
    rcases readEvent_eq_ok hr with ⟨hloads, -⟩ | ⟨event, eventId, eventType, hloads, hid, htype, -⟩
    · exact .inl hloads
    · obtain ⟨kvs, rfl, hdeep, -⟩ := field_eq_ok.1 hid
      obtain ⟨_, ⟨⟩, hdeep', -⟩ := field_eq_ok.1 htype
      exact .inr ⟨kvs, hloads, by simp [hdeep, hdeep']⟩
  · rintro (hloads | ⟨kvs, hloads, hdeep⟩)
    · exact ⟨_, by unfold readEvent; rw [hloads]⟩
    · have hid : py.field (.dict kvs) "id" = .ok _ := field_eq_ok.2 ⟨kvs, rfl, hdeep "id" (by simp), rfl⟩
      have htype : py.field (.dict kvs) "type" = .ok _ :=
        field_eq_ok.2 ⟨kvs, rfl, hdeep "type" (by simp), rfl⟩
      unfold readEvent
      rw [hloads]
      simp only [hid, htype, liftBuiltin]
      by_cases hempty : ((kvs.lookup "id").getD (.str "")).toStr = "" ∨
          ((kvs.lookup "type").getD (.str "")).toStr = ""
      · exact ⟨_, if_pos hempty⟩
      · exact ⟨_, if_neg hempty⟩

/-- An event goes on to `process_event` exactly if the body is usable; else the answer is a 400. -/
lemma readEvent_answer {body : ByteArray} {response : Response}
    (h : readEvent py body = .ok (.inl response)) : response.statusCode = 400 ∧ ¬Usable py body := by
  rcases readEvent_eq_ok h with ⟨hloads, hr⟩ | ⟨event, eventId, eventType, hloads, hid, htype, hr⟩
  · refine ⟨by rw [Sum.inl.inj hr]; rfl, ?_⟩
    rintro ⟨event, -, -, hevent, -⟩
    rw [hloads] at hevent
    cases hevent
  · split at hr
    · rename_i hempty
      refine ⟨by rw [Sum.inl.inj hr]; rfl, ?_⟩
      rintro ⟨event', eventId', eventType', hevent, hid', htype', hne, hne'⟩
      obtain rfl : event = event' := Except.ok.inj (hloads.symm.trans hevent)
      obtain rfl : eventId = eventId' := Except.ok.inj (hid.symm.trans hid')
      obtain rfl : eventType = eventType' := Except.ok.inj (htype.symm.trans htype')
      exact hempty.elim hne hne'
    · cases hr

/-- An acknowledgement comes with 200. -/
lemma acknowledge_result (cfg : Settings) (event : Value) (bus : EventBus) (s : Session) (w : World S) :
    ∃ content, ((acknowledge cfg event bus).exec serve s w).result = .ok ⟨200, content⟩ := by
  unfold acknowledge
  rw [exec_bind, exec_tryCatch]
  rcases (processEvent cfg event (some bus)).exec serve s w with ⟨_ | outcome, s', w'⟩
  · rename_i e
    cases e <;> exact ⟨_, rfl⟩
  · exact ⟨_, rfl⟩

/-- A verified request goes on with its body; the clock has been read once. -/
lemma exec_admitWebhook (hconf : keys.stripeConfigured = true)
    (hver : ((verifyWebhook mac keys call).exec serve s w).result = .ok true) :
    (admitWebhook py mac keys call).exec serve s w = ⟨readEvent py call.body, s, w.ticked⟩ := by
  obtain ⟨timestamp, signature, hfields, -, -⟩ := verifySignatureHeader_iff.1 hver
  have hworld : (verifyWebhook mac keys call).exec serve s w = ⟨.ok true, s, w.ticked⟩ := by
    unfold verifyWebhook verifySignatureHeader at hver ⊢
    simp only [hfields, exec_bind, exec_datetimeNow, Outcome.next_ok, exec_ofExcept] at hver ⊢
    rw [hver]
  unfold admitWebhook
  simp only [hconf, Bool.not_true, Bool.false_eq_true, if_false, exec_bind, hworld, Outcome.next_ok,
    exec_ofExcept]

/-- **The endpoint from the bytes on does what `stripeWebhook` does**, once the signature is verified and
the body is read. -/
theorem receiveWebhook_exec {bus : EventBus} (hconf : keys.stripeConfigured = true)
    (hver : ((verifyWebhook mac keys call).exec serve s w).result = .ok true)
    (hbody : Legible py call.body) :
    (receiveWebhook py mac keys cfg call bus).exec serve s w =
      (stripeWebhook cfg { json := (py.loads call.body).toOption } bus).exec serve s w.ticked := by
  unfold receiveWebhook
  rw [exec_bind, exec_admitWebhook hconf hver]
  obtain ⟨r, hr⟩ := exists_readEvent.2 hbody
  rcases readEvent_eq_ok hr with ⟨hloads, rfl⟩ | ⟨event, eventId, eventType, hloads, hid, htype, rfl⟩
  · rw [hr, hloads]
    rfl
  · have hid' : eventField event "id" = .ok eventId := by
      obtain ⟨kvs, rfl, -, rfl⟩ := field_eq_ok.1 hid
      rfl
    have htype' : eventField event "type" = .ok eventType := by
      obtain ⟨kvs, rfl, -, rfl⟩ := field_eq_ok.1 htype
      rfl
    rw [hr, hloads]
    unfold stripeWebhook
    simp only [Except.toOption, Bool.not_true, Bool.false_eq_true, if_false, exec_bind, exec_ofExcept,
      hid', htype', Outcome.next_ok]
    by_cases hempty : eventId = "" ∨ eventType = ""
    · rw [if_pos hempty, if_pos hempty]
    · rw [if_neg hempty, if_neg hempty]
      rfl

/-- **Which verified requests are answered**: exactly those whose body is no JSON at all or a JSON object
that can be printed. -/
theorem receiveWebhook_answers_iff (py : Interpreter) (mac : Hmac) (keys : StripeSettings)
    (cfg : Settings) (call : WebhookCall) (bus : EventBus) (s : Session) (w : World S)
    (hconf : keys.stripeConfigured = true)
    (hver : ((verifyWebhook mac keys call).exec serve s w).result = .ok true) :
    Acknowledged py call.body ((receiveWebhook py mac keys cfg call bus).exec serve s w).result ↔
      Legible py call.body := by
  rw [← exists_readEvent]
  unfold receiveWebhook
  rw [exec_bind, exec_admitWebhook hconf hver]
  rcases hr : readEvent py call.body with e | response | event
  · exact iff_of_false (fun ⟨_, h, _⟩ => nomatch h) fun ⟨_, h⟩ => nomatch h
  · refine iff_of_true ⟨response, rfl, .inr (readEvent_answer hr)⟩ ⟨_, rfl⟩
  · obtain ⟨content, hcontent⟩ := acknowledge_result cfg event bus s w.ticked
    exact iff_of_true ⟨_, hcontent, .inl (show 200 / 100 = 2 by decide)⟩ ⟨_, rfl⟩

end Lemmas

/-! ### A list as the body -/

namespace Sample

/-- HMAC with the digest of one message under one key; zeros stand for the others. -/
def oneDigest (key message digest : String) (hex : digest.toList.all hexDigits.contains = true)
    (length : digest.length = 64) : Hmac where
  hexdigest k m :=
    if k.data = key.toUTF8.data ∧ m.data = message.toUTF8.data then digest
    else "0000000000000000000000000000000000000000000000000000000000000000"
  hex k m := by
    split
    · exact mem_hexDigits_of_all hex
    · exact mem_hexDigits_of_all (by decide +kernel)
  length k m := by
    split
    · exact length
    · decide +kernel

/-- HMAC with the digest of the body `[]` at second 1000 under the secret `whsec_test`. -/
def listMac : Hmac :=
  oneDigest "whsec_test" "1000.[]" "e565973ceab29bf5e182952c7f7200c986e2c27c85ec7285a197c3713c0045b2"
    (by decide +kernel) (by decide +kernel)

/-- A small event, as it is sent. -/
def ping : String := "\x7b\"id\":\"evt_1\",\"type\":\"ping\"\x7d"

/-- `json.loads` of two bodies; any other is no JSON. -/
def interpreter : Interpreter where
  loads body :=
    if body.data = "[]".toUTF8.data then .ok (.list [])
    else if body.data = ping.toUTF8.data then
      .ok (.dict [("id", .str "evt_1"), ("type", .str "ping")])
    else .error .valueError
  tooDeep _ := false

def stripeSettings : StripeSettings := ⟨"sk_test_abc", "whsec_test"⟩

/-- The body `[]`, signed at second 1000. -/
def listCall : WebhookCall where
  body := "[]".toUTF8
  signature := some "t=1000,v1=e565973ceab29bf5e182952c7f7200c986e2c27c85ec7285a197c3713c0045b2"

/-- The world at second 1000. -/
def atThousand : World .metadata := World.start owed (env (1000 * second))

lemma listCall_signed :
    Signed listMac listCall.body stripeSettings.webhookSecret listCall.signature webhookToleranceSeconds
      (1000 * second) :=
  signed_build (t := 1000) (by decide +kernel) (by decide)

end Sample

open Sample in
/-- The verified body `[]` raises an `AttributeError` to the framework. -/
theorem receiveWebhook_list_raises :
    ((verifyWebhook listMac stripeSettings listCall).exec serve {} atThousand).result = .ok true ∧
      ((receiveWebhook interpreter listMac stripeSettings settings listCall {}).exec serve {}
        atThousand).result = .error (.builtin .attributeError) ∧
      ¬Acknowledged interpreter listCall.body
        ((receiveWebhook interpreter listMac stripeSettings settings listCall {}).exec serve {}
          atThousand).result := by
  have hver : ((verifyWebhook listMac stripeSettings listCall).exec serve {} atThousand).result = .ok true :=
    verifySignatureHeader_iff.2 listCall_signed
  have hraise : ((receiveWebhook interpreter listMac stripeSettings settings listCall {}).exec serve {}
      atThousand).result = .error (.builtin .attributeError) := by
    unfold receiveWebhook
    rw [exec_bind, exec_admitWebhook (by decide) hver]
    rfl
  refine ⟨hver, hraise, ?_⟩
  rintro ⟨response, hresponse, -⟩
  rw [hraise] at hresponse
  cases hresponse

open Sample in
/-- The condition at that request: it is not answered, since its body is a list. -/
theorem receiveWebhook_answers_iff_list :
    ((verifyWebhook listMac stripeSettings listCall).exec serve {} atThousand).result = .ok true ∧
      (Acknowledged interpreter listCall.body
        ((receiveWebhook interpreter listMac stripeSettings settings listCall {}).exec serve {}
          atThousand).result ↔ Legible interpreter listCall.body) :=
  have hver : ((verifyWebhook listMac stripeSettings listCall).exec serve {} atThousand).result = .ok true :=
    verifySignatureHeader_iff.2 listCall_signed
  ⟨hver, receiveWebhook_answers_iff interpreter listMac stripeSettings settings listCall {} {} atThousand
    (by decide) hver⟩

end FastapiTemplate.Billing
