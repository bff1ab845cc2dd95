import FastapiTemplate.Billing.Webhook

/-!
# Who can drive the webhook

`process_event` is entered exactly for requests that are signed with `STRIPE_WEBHOOK_SECRET` and have a
usable body, while `STRIPE_SECRET_KEY` is set (`entered_iff`). The two settings are independent, and the
empty webhook secret is a key that everyone has: a deployment that sets the secret key alone lets anyone
in (`entered_by_holder_iff`).
-/

namespace FastapiTemplate.Billing

open Core Database Python Effects Script

variable {S : Schema}

/-- The request gets as far as `process_event`. -/
def Entered (py : Interpreter) (mac : Hmac) (keys : StripeSettings) (call : WebhookCall) (s : Session)
    (w : World S) : Prop :=
  ∃ event, ((admitWebhook py mac keys call).exec serve s w).result = .ok (.inr event)

/-- The request carries a signature made with the webhook secret, which is not empty. -/
def HeldBy (mac : Hmac) (keys : StripeSettings) (call : WebhookCall) (now : Datetime) : Prop :=
  keys.webhookSecret ≠ "" ∧
    Signed mac call.body keys.webhookSecret call.signature webhookToleranceSeconds now

section Lemmas

variable {py : Interpreter} {mac : Hmac} {keys : StripeSettings} {call : WebhookCall} {s : Session}
  {w : World S}

/-- A usable body is an event. -/
lemma exists_event {body : ByteArray} :
    (∃ event, readEvent py body = .ok (.inr event)) ↔ Usable py body := by
  constructor
  · rintro ⟨event, h⟩
    rcases readEvent_eq_ok h with ⟨-, hr⟩ | ⟨event', eventId, eventType, hloads, hid, htype, hr⟩
    · cases hr
    · split at hr
      · cases hr
      · rename_i hempty
        exact ⟨event', eventId, eventType, hloads, hid, htype, not_or.1 hempty⟩
  · intro h
    have hlegible : Legible py body := by
      obtain ⟨event, eventId, eventType, hloads, hid, htype, -, -⟩ := h
      obtain ⟨kvs, rfl, hdeep, -⟩ := field_eq_ok.1 hid
      obtain ⟨_, ⟨⟩, hdeep', -⟩ := field_eq_ok.1 htype
      exact .inr ⟨kvs, hloads, by simp [hdeep, hdeep']⟩
    obtain ⟨r, hr⟩ := exists_readEvent.2 hlegible
    rcases r with response | event
    · exact absurd h (readEvent_answer hr).2
    · exact ⟨event, hr⟩

/-- **When `process_event` is entered.** -/
theorem entered_iff :
    Entered py mac keys call s w ↔ keys.stripeConfigured = true ∧
      Signed mac call.body keys.webhookSecret call.signature webhookToleranceSeconds
        (w.env.clock w.clockReads) ∧ Usable py call.body := by
  have hverified : ((verifyWebhook mac keys call).exec serve s w).result = .ok true ↔
      Signed mac call.body keys.webhookSecret call.signature webhookToleranceSeconds
        (w.env.clock w.clockReads) := verifySignatureHeader_iff
  constructor
  · rintro ⟨event, h⟩
    unfold admitWebhook at h
    by_cases hconf : keys.stripeConfigured = true
    · simp only [hconf, Bool.not_true, Bool.false_eq_true, if_false, exec_bind] at h
      obtain ⟨verified, hv, h⟩ := Outcome.next_result h
      cases verified with
      | false => cases h
      | true =>
        have hread : readEvent py call.body = .ok (.inr event) := by simpa using h
        exact ⟨hconf, hverified.1 hv, exists_event.1 ⟨event, hread⟩⟩
    · simp [hconf] at h
  · rintro ⟨hconf, hsigned, husable⟩
    obtain ⟨event, hread⟩ := exists_event.2 husable
    refine ⟨event, ?_⟩
    rw [exec_admitWebhook hconf (hverified.2 hsigned)]
    exact hread

end Lemmas

/-- **Which deployments only the holder of the secret can drive**: exactly those that leave the secret key
empty, so that nothing is taken in, and those that set the webhook secret too. -/
theorem entered_by_holder_iff (py : Interpreter) (mac : Hmac) (keys : StripeSettings) (s : Session)
    (w : World S) (hpy : ∃ text : String, Usable py text.toUTF8) :
    (∀ call, Entered py mac keys call s w → HeldBy mac keys call (w.env.clock w.clockReads)) ↔
      keys.secretKey = "" ∨ keys.webhookSecret ≠ "" := by
  constructor
  · intro hall
    by_contra hopen
    obtain ⟨hkey, hsecret⟩ := not_or.1 hopen
    have hsecret : keys.webhookSecret = "" := not_not.1 hsecret
    obtain ⟨text, husable⟩ := hpy
    -- anyone can sign the body with the empty key
    have hbuild : buildSignatureHeader mac text.toUTF8 keys.webhookSecret
        ((w.env.clock w.clockReads).tdiv second) = .ok _ :=
      bind_eq_ok.2 ⟨_, printInt_none _, bind_eq_ok.2 ⟨_, signPayload_eq_ok.2 ⟨text, decode_toUTF8 text, rfl⟩, rfl⟩⟩
    have hsigned : Signed mac text.toUTF8 keys.webhookSecret (some _) webhookToleranceSeconds
        (w.env.clock w.clockReads) := signed_build hbuild (by rw [sub_self, abs_zero]; decide)
    have hconf : keys.stripeConfigured = true := bne_iff_ne.2 hkey
    exact (hall ⟨text.toUTF8, some _⟩ (entered_iff.2 ⟨hconf, hsigned, husable⟩)).1 hsecret
  · rintro hclosed call hentered
    obtain ⟨hconf, hsigned, -⟩ := entered_iff.1 hentered
    exact ⟨hclosed.resolve_left (bne_iff_ne.1 hconf), hsigned⟩

/-! ### A deployment without webhook secret -/

namespace Sample

/-- HMAC with the digest of the event at second 1000 under the empty key. -/
def openMac : Hmac :=
  oneDigest "" ("1000." ++ ping) "ac33055e1d3e0c69a2c1be6f9248f7479c9cc403fbdb790fa717454009fc7ab4"
    (by decide +kernel) (by decide +kernel)

/-- Only the secret key is set. -/
def openSettings : StripeSettings := ⟨"sk_test_abc", ""⟩

/-- The event, signed with the empty key at second 1000. -/
def forgedCall : WebhookCall where
  body := ping.toUTF8
  signature := some "t=1000,v1=ac33055e1d3e0c69a2c1be6f9248f7479c9cc403fbdb790fa717454009fc7ab4"

lemma ping_usable : Usable interpreter ping.toUTF8 := by
  have hlist : ping.toUTF8.data ≠ "[]".toUTF8.data := by decide
  have hloads : interpreter.loads ping.toUTF8 = .ok (.dict [("id", .str "evt_1"), ("type", .str "ping")]) := by
    unfold interpreter
    simp only [hlist, if_false, if_true]
  exact ⟨_, "evt_1", "ping", hloads, rfl, rfl, by decide, by decide⟩

end Sample

open Sample in
/-- A request signed with the empty key drives `process_event`. -/
theorem entered_without_secret :
    Entered interpreter openMac openSettings forgedCall {} atThousand ∧
      ¬HeldBy openMac openSettings forgedCall (atThousand.env.clock atThousand.clockReads) :=
  have hsigned : Signed openMac forgedCall.body openSettings.webhookSecret forgedCall.signature
      webhookToleranceSeconds (1000 * second) := signed_build (t := 1000) (by decide +kernel) (by decide)
  ⟨entered_iff.2 ⟨by decide, hsigned, ping_usable⟩, fun h => h.1 rfl⟩

open Sample in
/-- The condition for that deployment. -/
theorem entered_by_holder_iff_open :
    (∃ text : String, Usable interpreter text.toUTF8) ∧
      ((∀ call, Entered interpreter openMac openSettings call {} atThousand →
          HeldBy openMac openSettings call (atThousand.env.clock atThousand.clockReads)) ↔
        openSettings.secretKey = "" ∨ openSettings.webhookSecret ≠ "") :=
  ⟨⟨ping, ping_usable⟩,
    entered_by_holder_iff interpreter openMac openSettings {} atThousand ⟨ping, ping_usable⟩⟩

end FastapiTemplate.Billing
