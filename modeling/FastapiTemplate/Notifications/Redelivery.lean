import FastapiTemplate.Effects.Trace
import FastapiTemplate.Notifications.Retries

/-!
# Deliveries that are executed more than once

Celery may execute a task again, or twice at once. An execution reads the record, makes its POST, and overwrites
the record: what others have recorded in between is not looked at, and of the final statuses only one keeps it from
starting. `redelivery_settles` is about every interleaving of executions, and of changes of the webhooks, in which
neither matters.
-/

namespace FastapiTemplate.Notifications

open Effects Python Store Script Keyed

variable {cfg : WebhookSettings} {lib : WebhookLibraries} {ι : Type}

/-! ### What runs at once -/

/-- An execution of the task, or a webhook that is switched on or off. -/
inductive Job where
  | deliver (retries : ℕ) (deliveryId : ℤ)
  | setActive (webhookId : ℤ) (isActive : Bool)

/-- The code of the job. -/
def Job.script (cfg : WebhookSettings) (lib : WebhookLibraries) : Job → Task Unit
  | .deliver retries deliveryId => do
    let _ ← deliverWebhook cfg lib retries deliveryId
    return ()
  | .setActive webhookId isActive => perform (Eff.setActive webhookId isActive)

/-- Jobs that share the world. -/
abbrev JobPool (ι : Type) : Type := Pool ι Eff Reply World (Except TaskExn Unit × Unit)

/-- Every program is a job, under any settings. -/
def JobPool.Working (lib : WebhookLibraries) (P : JobPool ι) : Prop :=
  ∀ i p, P.procs i = some p → ∃ cfg job, p = Job.script cfg lib job ()

/-! ### What is to be kept -/

/-- A status after which nothing should happen. -/
def DeliveryStatus.final : DeliveryStatus → Bool
  | .delivered | .failed => true
  | .pending | .retrying => false

/-- The POSTs for a record. -/
def World.postsFor (w : World) (deliveryId : ℤ) : List Post :=
  w.posts.filter fun request => request.deliveryId == deliveryId

/-- **From one state to a later one**, the attempts of the record stay within their bound and do not decrease, and a
record that is final stays as it is, without another POST. -/
def Settles (deliveryId : ℤ) (w w' : World) : Prop :=
  ∃ delivery delivery', w.deliveries.get? deliveryId = some delivery ∧ w'.deliveries.get? deliveryId = some delivery' ∧
    delivery'.attempt ≤ delivery'.maxAttempts ∧ delivery.attempt ≤ delivery'.attempt ∧
    (delivery.status.final = true → delivery' = delivery ∧ w'.postsFor deliveryId = w.postsFor deliveryId)

/-! ### What an execution may run into -/

/-- A POST is made for the record. -/
def Posts (deliveryId : ℤ) (v : Effects.Event ι Eff World) : Prop :=
  ∃ request, v.effect = .post request ∧ request.deliveryId = deliveryId

/-- An outcome is recorded for the record. -/
def Records (deliveryId : ℤ) (v : Effects.Event ι Eff World) : Prop :=
  ∃ loaded cur, v.effect = .save loaded cur ∧ cur.1.id = deliveryId ∧ (v.world.save loaded cur).1 = .ok ()

/-- Since the execution has read the record, another one has recorded an outcome. -/
def Overtaken (deliveryId : ℤ) (past : List (Effects.Event ι Eff World)) (i : ι) : Prop :=
  ∃ before v after, past = before ++ v :: after ∧ (∃ u ∈ before, u.proc = i ∧ u.effect = .load deliveryId) ∧
    v.proc ≠ i ∧ Records deliveryId v

/-- The record had failed when the execution read it. -/
def ReadFailed (deliveryId : ℤ) (past : List (Effects.Event ι Eff World)) (i : ι) : Prop :=
  ∃ v ∈ past, v.proc = i ∧ v.effect = .load deliveryId ∧
    ∃ delivery, v.world.deliveries.get? deliveryId = some delivery ∧ delivery.status = .failed

/-- **The condition.** An execution that makes its POST for the record, or records an outcome, has not been overtaken,
and has not read the record as failed. -/
def Undisturbed (deliveryId : ℤ) (events : List (Effects.Event ι Eff World)) : Prop :=
  ∀ before v after, events = before ++ v :: after → Posts deliveryId v ∨ Records deliveryId v →
    ¬Overtaken deliveryId before v.proc ∧ ¬ReadFailed deliveryId before v.proc

/-! ### What an execution does -/

/-- The status and the attempt that may follow those of the record. -/
structure WebhookDelivery.Continues (delivery : WebhookDelivery) (attempt : ℕ) (status : DeliveryStatus) : Prop where
  grows : delivery.attempt ≤ attempt
  next : attempt ≤ delivery.attempt + 1
  more : status.final = false → attempt < delivery.maxAttempts

/-- How far an execution is: it has not read the record, or has read it once, or again, or is done with it. To switch
a webhook is a stage of its own. -/
inductive Stage where
  | fresh
  | read (delivery : WebhookDelivery)
  | reread (delivery : WebhookDelivery) (pair : WebhookDelivery × Webhook)
  | done
  | switch

/-- What a job may do at a stage. -/
def Stage.Allows (lib : WebhookLibraries) : Stage → Eff → Prop
  | .fresh, .load _ => True
  | .read delivery, .load deliveryId => deliveryId = delivery.id
  | .read delivery, .post request =>
    delivery.status ≠ .delivered ∧ ∃ webhook timestamp, buildPost lib delivery webhook timestamp = .ok request
  | .reread delivery pair, .save loaded cur =>
    loaded = pair ∧ delivery.status ≠ .delivered ∧ ∃ attempt outcome now,
      cur.1 = pair.1.recorded attempt outcome now ∧ delivery.Continues attempt outcome.status
  | _, .now => True
  | .switch, .setActive _ _ => True
  | _, _ => False

/-- The stage after the answer. -/
def Stage.next : Stage → (e : Eff) → Reply e → Stage
  | .fresh, .load _, some pair => .read pair.1
  | .read delivery, .load _, some pair => .reread delivery pair
  | _, .load _, _ => .done
  | _, .save _ _, _ => .done
  | stage, _, _ => stage

/-- Watches a job. -/
def watch (lib : WebhookLibraries) : Monitor Eff Reply Stage where
  allows := Stage.Allows lib
  next := Stage.next

section Wp

variable {delivery : WebhookDelivery} {webhook : Webhook}

lemma buildPost_deliveryId {timestamp : ℤ} {request : Post}
    (h : buildPost lib delivery webhook timestamp = .ok request) : request.deliveryId = delivery.id := by
  obtain ⟨built, hbuilt, hid⟩ := buildPost_ok lib delivery webhook timestamp
  obtain rfl := Except.ok.inj (hbuilt.symm.trans h)
  exact hid

lemma wp_recordDeliveryOutcome {attempt : ℕ} {outcome : DeliveryOutcome} (hpending : delivery.status ≠ .delivered)
    (hcontinues : delivery.Continues attempt outcome.status) :
    Wp (watch lib) (recordDeliveryOutcome delivery.id attempt outcome) () (.read delivery) (fun _ _ _ => True)
      fun _ _ _ => True := by
  unfold recordDeliveryOutcome
  refine wp_bind.2 ⟨rfl, fun pair => ?_⟩
  cases pair with
  | none => trivial
  | some pair =>
    refine wp_bind.2 ⟨trivial, fun now => wp_bind.2 ⟨?_, fun saved => ?_⟩⟩
    · exact ⟨rfl, hpending, attempt, outcome, now, rfl, hcontinues⟩
    · exact (wp_ofExcept _).2 ⟨fun _ _ => trivial, fun _ _ => trivial⟩

/-- An attempt that failed. -/
lemma wp_recordFailure {error : String} {responseStatus : Option ℕ} {responseBody : Option String}
    (hpending : delivery.status ≠ .delivered) :
    Wp (watch lib) (recordFailure cfg delivery (delivery.attempt + 1) error responseStatus responseBody) ()
      (.read delivery) (fun _ _ _ => True) fun _ _ _ => True := by
  have hrecord : ∀ (status : DeliveryStatus) (performed : Performed) (nextRetryAt : Option Datetime),
      delivery.Continues (delivery.attempt + 1) status →
      Wp (watch lib) (recordDeliveryOutcome delivery.id (delivery.attempt + 1)
          ⟨status, some error, responseStatus, responseBody, nextRetryAt⟩ >>= fun _ => pure performed) ()
        (.read delivery) (fun _ _ _ => True) fun _ _ _ => True := fun _ _ _ hcontinues =>
    wp_bind.2 ((wp_recordDeliveryOutcome hpending hcontinues).mono (fun _ _ _ _ => trivial) fun _ _ _ h => h)
  unfold recordFailure
  by_cases hmore : delivery.attempt + 1 < delivery.maxAttempts
  · simp only [hmore, decide_true, if_true]
    refine wp_bind.2 ⟨trivial, fun now => wp_bind.2 ((wp_ofExcept _).2 ⟨fun nextRetryAt _ => ?_, fun _ _ => trivial⟩)⟩
    exact hrecord _ _ (some nextRetryAt) ⟨Nat.le_succ _, le_rfl, fun _ => hmore⟩
  · simp only [hmore, decide_false, Bool.false_eq_true, if_false]
    exact hrecord _ _ none ⟨Nat.le_succ _, le_rfl, fun hlast => Bool.noConfusion hlast⟩

lemma wp_performDelivery (hpending : delivery.status ≠ .delivered) :
    Wp (watch lib) (performDelivery cfg lib delivery webhook) () (.read delivery) (fun _ _ _ => True)
      fun _ _ _ => True := by
  unfold performDelivery
  refine wp_bind.2 ⟨trivial, fun now => wp_bind.2 ((wp_ofExcept _).2 ⟨fun request hrequest => ?_, fun _ _ => trivial⟩)⟩
  obtain ⟨built, hbuilt, -⟩ := buildPost_ok lib delivery webhook (now / second)
  obtain rfl : built = request := by
    rw [hbuilt] at hrequest
    exact Except.ok.inj hrequest
  refine wp_bind.2 ((wp_perform _).2 ⟨⟨hpending, webhook, _, hbuilt⟩, fun answer => ?_⟩)
  cases answer with
  | httpError text => exact wp_recordFailure hpending
  | response statusCode text =>
    dsimp only
    split
    · exact wp_bind.2 ((wp_recordDeliveryOutcome hpending ⟨Nat.le_succ _, le_rfl, fun hmore => Bool.noConfusion hmore⟩).mono
        (fun _ _ _ _ => trivial) fun _ _ _ h => h)
    · exact wp_recordFailure hpending

/-- **An execution** under the monitor. -/
theorem wp_deliverWebhook (retries : ℕ) (deliveryId : ℤ) :
    Wp (watch lib) (deliverWebhook cfg lib retries deliveryId) () .fresh (fun _ _ _ => True) fun _ _ _ => True := by
  unfold deliverWebhook
  refine wp_bind.2 ((wp_perform _).2 ⟨trivial, fun pair => ?_⟩)
  cases pair with
  | none => trivial
  | some pair =>
    obtain ⟨delivery, webhook⟩ := pair
    dsimp only
    split
    · trivial
    · rename_i hpending
      split
      · exact wp_bind.2 ((wp_recordDeliveryOutcome hpending ⟨le_rfl, Nat.le_succ _, fun hmore => Bool.noConfusion hmore⟩).mono
          (fun _ _ _ _ => trivial) fun _ _ _ h => h)
      · refine wp_bind.2 ((wp_performDelivery hpending).mono (fun outcome _ _ _ => ?_) fun _ _ _ h => h)
        unfold conclude celeryRetry
        cases outcome with
        | delivered => trivial
        | failed => trivial
        | retry => dsimp only; split <;> trivial

/-- Every job follows the monitor, from one of two stages. -/
lemma JobPool.Working.watched {P : JobPool ι} (hP : P.Working lib) :
    ∃ m, P.Watched (fun _ => watch lib) m ∧ ∀ i, m i = .fresh ∨ m i = .switch := by
  have hstage : ∀ i, ∃ stage, (∀ p, P.procs i = some p → p.Follows (watch lib) stage fun _ _ => True) ∧
      (stage = Stage.fresh ∨ stage = .switch) := by
    intro i
    cases hproc : P.procs i with
    | none => exact ⟨.fresh, by simp, .inl rfl⟩
    | some p =>
      obtain ⟨cfg, job, rfl⟩ := hP i p hproc
      cases job with
      | deliver retries deliveryId =>
        have hscript : Wp (watch lib) (Job.script cfg lib (.deliver retries deliveryId)) () Stage.fresh
            (fun _ _ _ => True) fun _ _ _ => True :=
          wp_bind.2 ((wp_deliverWebhook retries deliveryId).mono (fun _ _ _ _ => trivial) fun _ _ _ h => h)
        refine ⟨.fresh, fun p hp => ?_, .inl rfl⟩
        obtain rfl := Option.some.inj hp
        exact Prog.Follows.weaken hscript fun _ _ _ => trivial
      | setActive webhookId isActive =>
        refine ⟨.switch, fun p hp => ?_, .inr rfl⟩
        obtain rfl := Option.some.inj hp
        exact ⟨trivial, fun _ => trivial⟩
  choose m hm using hstage
  exact ⟨m, fun i p hp => (hm i).1 p hp, fun i => (hm i).2⟩

end Wp

/-! ### What is known while they run -/

section Invariant

variable {deliveryId : ℤ} {past : List (Effects.Event ι Eff World)} {w w' : World} {v : Effects.Event ι Eff World}
  {i : ι} {stage : Stage}

/-- The attempts of the record are within their bound, and if it is not final there is another one. -/
structure WebhookDelivery.Bounded (delivery : WebhookDelivery) : Prop where
  attempts : delivery.attempt ≤ delivery.maxAttempts
  more : delivery.status.final = false → delivery.attempt < delivery.maxAttempts

/-- What an execution has read is what is stored, unless it has been overtaken. -/
structure Knows (deliveryId : ℤ) (past : List (Effects.Event ι Eff World)) (w : World) (i : ι)
    (delivery : WebhookDelivery) : Prop where
  loaded : ∃ u ∈ past, u.proc = i ∧ u.effect = .load deliveryId ∧
    u.world.deliveries.get? deliveryId = some delivery
  stored : ¬Overtaken deliveryId past i → w.deliveries.get? deliveryId = some delivery

/-- An execution at a stage, if it is for the record. -/
def Stage.Fits (deliveryId : ℤ) (past : List (Effects.Event ι Eff World)) (w : World) (i : ι) : Stage → Prop
  | .read delivery => delivery.id = deliveryId → Knows deliveryId past w i delivery
  | .reread delivery pair => pair.1.id = delivery.id ∧ (delivery.id = deliveryId →
      Knows deliveryId past w i delivery ∧ (¬Overtaken deliveryId past i → pair.1 = delivery))
  | .fresh | .done | .switch => True

/-- **The invariant.** -/
structure Tracked (deliveryId : ℤ) (past : List (Effects.Event ι Eff World)) (w : World) (m : ι → Stage) : Prop where
  row : ∃ delivery, w.deliveries.get? deliveryId = some delivery ∧ delivery.Bounded
  stages : ∀ i, (m i).Fits deliveryId past w i

lemma Overtaken.later (h : Overtaken deliveryId past i) : Overtaken deliveryId (past ++ [v]) i := by
  obtain ⟨before, u, after, rfl, hread, hother, hrecords⟩ := h
  exact ⟨before, u, after ++ [v], by simp, hread, hother, hrecords⟩

/-- An event that leaves the record alone. -/
lemma Knows.later {delivery : WebhookDelivery} (h : Knows deliveryId past w i delivery)
    (hrow : w'.deliveries.get? deliveryId = w.deliveries.get? deliveryId) :
    Knows deliveryId (past ++ [v]) w' i delivery := by
  obtain ⟨u, hu, hread⟩ := h.loaded
  exact ⟨⟨u, List.mem_append_left _ hu, hread⟩, fun hfirst => hrow.trans (h.stored fun hover => hfirst hover.later)⟩

/-- Another execution has recorded an outcome. -/
lemma Knows.overtaken {delivery : WebhookDelivery} (h : Knows deliveryId past w i delivery) (hother : v.proc ≠ i)
    (hrecords : Records deliveryId v) : Overtaken deliveryId (past ++ [v]) i := by
  obtain ⟨u, hu, hproc, heffect, -⟩ := h.loaded
  exact ⟨past, v, [], rfl, ⟨u, hu, hproc, heffect⟩, hother, hrecords⟩

lemma Stage.Fits.later (h : stage.Fits deliveryId past w i)
    (hrow : w'.deliveries.get? deliveryId = w.deliveries.get? deliveryId) :
    stage.Fits deliveryId (past ++ [v]) w' i := by
  cases stage with
  | fresh => trivial
  | read delivery => exact fun hid => (h hid).later hrow
  | reread delivery pair =>
    refine ⟨h.1, fun hid => ?_⟩
    obtain ⟨hknows, hsame⟩ := h.2 hid
    exact ⟨hknows.later hrow, fun hfirst => hsame fun hover => hfirst hover.later⟩
  | done => trivial
  | switch => trivial

lemma Stage.Fits.overtaken (h : stage.Fits deliveryId past w i) (hother : v.proc ≠ i)
    (hrecords : Records deliveryId v) : stage.Fits deliveryId (past ++ [v]) w' i := by
  -- what an overtaken execution has read may be anything
  have hknows : ∀ delivery, Knows deliveryId past w i delivery → Knows deliveryId (past ++ [v]) w' i delivery := by
    intro delivery hknows
    obtain ⟨u, hu, hread⟩ := hknows.loaded
    exact ⟨⟨u, List.mem_append_left _ hu, hread⟩, fun hfirst => absurd (hknows.overtaken hother hrecords) hfirst⟩
  cases stage with
  | fresh => trivial
  | read delivery => exact fun hid => hknows _ (h hid)
  | reread delivery pair =>
    refine ⟨h.1, fun hid => ?_⟩
    obtain ⟨hread, -⟩ := h.2 hid
    exact ⟨hknows _ hread, fun hfirst => absurd (hread.overtaken hother hrecords) hfirst⟩
  | done => trivial
  | switch => trivial

/-- The condition is one on all that has happened so far. -/
lemma Undisturbed.initial {rest : List (Effects.Event ι Eff World)} (h : Undisturbed deliveryId (past ++ rest)) :
    Undisturbed deliveryId past := by
  rintro before v after rfl
  exact h before v (after ++ rest) (by simp)

/-! ### One effect -/

variable {m : ι → Stage} {delivery : WebhookDelivery}

@[simp] lemma setActive_deliveries (w : World) (webhookId : ℤ) (isActive : Bool) :
    (w.setActive webhookId isActive).deliveries = w.deliveries := by
  unfold World.setActive
  split <;> rfl

@[simp] lemma setActive_posts (w : World) (webhookId : ℤ) (isActive : Bool) :
    (w.setActive webhookId isActive).posts = w.posts := by
  unfold World.setActive
  split <;> rfl

/-- A commit of the two rows fails, or it writes them. -/
lemma save_cases (w : World) (loaded cur : WebhookDelivery × Webhook) :
    (w.save loaded cur).1 ≠ .ok () ∧ (w.save loaded cur).2 = w ∨
      (w.save loaded cur).1 = .ok () ∧ (w.save loaded cur).2.posts = w.posts ∧
        ∃ stored, w.deliveries.get? cur.1.id = some stored ∧
          (w.save loaded cur).2.deliveries = w.deliveries.put (WebhookDelivery.update loaded.1 cur.1 stored) := by
  unfold World.save
  cases w.deliveries.get? cur.1.id with
  | none => exact .inl ⟨nofun, rfl⟩
  | some stored =>
    cases w.webhooks.get? cur.2.id with
    | none => exact .inl ⟨nofun, rfl⟩
    | some webhook =>
      dsimp only
      split
      · exact .inr ⟨rfl, rfl, stored, rfl, rfl⟩
      · exact .inl ⟨nofun, rfl⟩

/-- To save makes no POST. -/
lemma posts_save (w : World) (loaded cur : WebhookDelivery × Webhook) : (w.save loaded cur).2.posts = w.posts := by
  rcases save_cases w loaded cur with ⟨-, hsame⟩ | ⟨-, hposts, -⟩
  · rw [hsame]
  · exact hposts

/-- The condition at a POST or a recording. -/
lemma Knows.not_final (h : Knows deliveryId past w i delivery) (hpending : delivery.status ≠ .delivered)
    (hover : ¬Overtaken deliveryId past i) (hfailed : ¬ReadFailed deliveryId past i) :
    w.deliveries.get? deliveryId = some delivery ∧ delivery.status.final = false := by
  refine ⟨h.stored hover, ?_⟩
  obtain ⟨u, hu, hproc, heffect, hread⟩ := h.loaded
  have hnot : delivery.status ≠ .failed := fun hstatus => hfailed ⟨u, hu, hproc, heffect, delivery, hread, hstatus⟩
  cases hstatus : delivery.status with
  | delivered => exact absurd hstatus hpending
  | failed => exact absurd hstatus hnot
  | pending => rfl
  | retrying => rfl

lemma tracked_load {k : ℤ} (h : Tracked deliveryId past w m) (hallow : (m i).Allows lib (.load k)) :
    ((m i).next (.load k) (w.getDeliveryWithWebhook k)).Fits deliveryId (past ++ [⟨i, w, .load k⟩]) w i := by
  have hfits := (h.stages i).later (v := ⟨i, w, .load k⟩) rfl
  cases hpair : w.getDeliveryWithWebhook k with
  | none => cases hstage : m i <;> trivial
  | some pair =>
    obtain ⟨delivery, webhook⟩ := pair
    have hget := (getDeliveryWithWebhook_eq_some.1 hpair).1
    have hid : delivery.id = k := (Table.get?_eq_some.1 hget).2
    cases hstage : m i with
    | fresh =>
      rintro rfl
      subst hid
      exact ⟨⟨_, List.mem_append_right _ List.mem_cons_self, rfl, rfl, hget⟩, fun _ => hget⟩
    | read first =>
      rw [hstage] at hallow hfits
      obtain rfl : k = first.id := hallow
      refine ⟨hid, fun hof => ?_⟩
      subst hof
      have hknows := hfits rfl
      exact ⟨hknows, fun hfirst => Option.some.inj (hget.symm.trans (hknows.stored hfirst))⟩
    | reread => trivial
    | done => trivial
    | switch => trivial

lemma tracked_post {request : Post} (h : Tracked deliveryId past w m) (hallow : (m i).Allows lib (.post request))
    (hcond : Posts deliveryId (⟨i, w, .post request⟩ : Effects.Event ι Eff World) →
      ¬Overtaken deliveryId past i ∧ ¬ReadFailed deliveryId past i)
    (hrow : w.deliveries.get? deliveryId = some delivery) (hfinal : delivery.status.final = true) :
    ({ w with posts := request :: w.posts } : World).postsFor deliveryId = w.postsFor deliveryId := by
  have hother : request.deliveryId ≠ deliveryId := by
    rintro rfl
    obtain ⟨hover, hfailed⟩ := hcond ⟨request, rfl, rfl⟩
    have hfits := h.stages i
    cases hstage : m i with
    | read read =>
      rw [hstage] at hallow hfits
      obtain ⟨hpending, webhook, timestamp, hbuilt⟩ := hallow
      obtain ⟨hstored, hmore⟩ := (hfits (buildPost_deliveryId hbuilt).symm).not_final hpending hover hfailed
      obtain rfl := Option.some.inj (hrow.symm.trans hstored)
      exact absurd (hmore.symm.trans hfinal) (by simp)
    | fresh => rw [hstage] at hallow; exact hallow
    | reread => rw [hstage] at hallow; exact hallow
    | done => rw [hstage] at hallow; exact hallow
    | switch => rw [hstage] at hallow; exact hallow
  exact List.filter_cons_of_neg (by simpa using hother)

variable [DecidableEq ι]

/-- An event that leaves the record alone. -/
lemma Tracked.leave (h : Tracked deliveryId past w m)
    (hrow : w'.deliveries.get? deliveryId = w.deliveries.get? deliveryId)
    (hposts : ∀ delivery, w.deliveries.get? deliveryId = some delivery → delivery.status.final = true →
      w'.postsFor deliveryId = w.postsFor deliveryId)
    (hstage : stage.Fits deliveryId (past ++ [v]) w' i) :
    Tracked deliveryId (past ++ [v]) w' (Function.update m i stage) ∧ Settles deliveryId w w' := by
  obtain ⟨delivery, hdelivery, hbounded⟩ := h.row
  have hdelivery' := hrow.trans hdelivery
  refine ⟨⟨⟨delivery, hdelivery', hbounded⟩, fun j => ?_⟩, ?_⟩
  · by_cases hj : j = i
    · subst hj
      rwa [Function.update_self]
    · rw [Function.update_of_ne hj]
      exact (h.stages j).later hrow
  · exact ⟨delivery, delivery, hdelivery, hdelivery', hbounded.attempts, le_rfl, fun hfinal =>
      ⟨rfl, hposts delivery hdelivery hfinal⟩⟩

/-- An outcome that is recorded for the record. -/
lemma Tracked.record (h : Tracked deliveryId past w m) {attempt : ℕ} {outcome : DeliveryOutcome} {now : Datetime}
    (hstored : w.deliveries.get? deliveryId = some delivery) (hfinal : delivery.status.final = false)
    (hcontinues : delivery.Continues attempt outcome.status)
    (hwritten : w'.deliveries.get? deliveryId = some (delivery.recorded attempt outcome now))
    (hproc : v.proc = i) (hrecords : Records deliveryId v) :
    Tracked deliveryId (past ++ [v]) w' (Function.update m i .done) ∧ Settles deliveryId w w' := by
  obtain ⟨stored, hrow, hbounded⟩ := h.row
  obtain rfl : stored = delivery := Option.some.inj (hrow.symm.trans hstored)
  have hless := hbounded.more hfinal
  have hattempt : attempt ≤ stored.maxAttempts := hcontinues.next.trans hless
  refine ⟨⟨⟨_, hwritten, hattempt, hcontinues.more⟩, fun j => ?_⟩, ?_⟩
  · by_cases hj : j = i
    · subst hj
      rw [Function.update_self]
      trivial
    · rw [Function.update_of_ne hj]
      exact (h.stages j).overtaken (fun hsame => hj (hsame.symm.trans hproc)) hrecords
  · exact ⟨stored, _, hrow, hwritten, hattempt, hcontinues.grows, fun hdone => absurd (hfinal.symm.trans hdone) (by simp)⟩

lemma tracked_save {loaded cur : WebhookDelivery × Webhook} (h : Tracked deliveryId past w m)
    (hallow : (m i).Allows lib (.save loaded cur))
    (hcond : Records deliveryId (⟨i, w, .save loaded cur⟩ : Effects.Event ι Eff World) →
      ¬Overtaken deliveryId past i ∧ ¬ReadFailed deliveryId past i) :
    Tracked deliveryId (past ++ [⟨i, w, .save loaded cur⟩]) (w.save loaded cur).2 (Function.update m i .done) ∧
      Settles deliveryId w (w.save loaded cur).2 := by
  rcases save_cases w loaded cur with ⟨-, hsame⟩ | ⟨hok, hposts, stored, hstored, hput⟩
  · rw [hsame]
    exact h.leave rfl (fun _ _ _ => rfl) trivial
  · have hfits := h.stages i
    cases hstage : m i with
    | reread read pair =>
      rw [hstage] at hallow hfits
      obtain ⟨rfl, hpending, attempt, outcome, now, hcur, hcontinues⟩ := hallow
      obtain ⟨hpair, hof⟩ := hfits
      have hid : cur.1.id = read.id := by
        rw [hcur]
        exact hpair
      by_cases hrecord : read.id = deliveryId
      · -- a recording for the record: what is stored is what was read, both times
        subst hrecord
        have hrecords : Records read.id (⟨i, w, .save loaded cur⟩ : Effects.Event ι Eff World) :=
          ⟨loaded, cur, rfl, hid, hok⟩
        obtain ⟨hover, hfailed⟩ := hcond hrecords
        obtain ⟨hknows, hreread⟩ := hof rfl
        obtain ⟨hrow, hmore⟩ := hknows.not_final hpending hover hfailed
        have hloaded := hreread hover
        rw [hid] at hstored
        obtain rfl := Option.some.inj (hrow.symm.trans hstored)
        rw [hcur, hloaded, WebhookDelivery.update_recorded] at hput
        have hwritten : (w.save loaded cur).2.deliveries.get? read.id = some (read.recorded attempt outcome now) := by
          rw [hput]
          exact Table.get?_put_self (r := read.recorded attempt outcome now) hrow
        exact h.record hrow hmore hcontinues hwritten rfl hrecords
      · have hother : deliveryId ≠ key (WebhookDelivery.update loaded.1 cur.1 stored) := by
          rintro rfl
          exact hrecord (hid.symm.trans (Table.get?_eq_some.1 hstored).2.symm)
        refine h.leave ?_ (fun _ _ _ => ?_) trivial
        · rw [hput]
          exact Table.get?_put_of_ne hother
        · unfold World.postsFor
          rw [hposts]
    | fresh => rw [hstage] at hallow; exact hallow.elim
    | read => rw [hstage] at hallow; exact hallow.elim
    | done => rw [hstage] at hallow; exact hallow.elim
    | switch => rw [hstage] at hallow; exact hallow.elim

/-- **A step.** Every effect that a job may perform, and that meets the condition, keeps the invariant. -/
theorem tracked_step {e : Eff} (h : Tracked deliveryId past w m) (hallow : (watch lib).allows (m i) e)
    (hcond : Posts deliveryId (⟨i, w, e⟩ : Effects.Event ι Eff World) ∨ Records deliveryId ⟨i, w, e⟩ →
      ¬Overtaken deliveryId past i ∧ ¬ReadFailed deliveryId past i) :
    Tracked deliveryId (past ++ [⟨i, w, e⟩]) (serve e w).2 (Function.update m i ((watch lib).next (m i) e (serve e w).1)) ∧
      Settles deliveryId w (serve e w).2 := by
  cases e with
  | load k => exact h.leave rfl (fun _ _ _ => rfl) (tracked_load h hallow)
  | now =>
    refine h.leave rfl (fun _ _ _ => rfl) ?_
    have hnext : (watch lib).next (m i) .now (serve .now w).1 = m i := by cases m i <;> rfl
    rw [hnext]
    exact (h.stages i).later rfl
  | post request =>
    refine h.leave rfl (fun _ hrow hfinal => tracked_post h hallow (fun hp => hcond (.inl hp)) hrow hfinal) ?_
    have hnext : (watch lib).next (m i) (.post request) (serve (.post request) w).1 = m i := by cases m i <;> rfl
    rw [hnext]
    exact (h.stages i).later rfl
  | save loaded cur =>
    have hnext : (watch lib).next (m i) (.save loaded cur) (serve (.save loaded cur) w).1 = .done := by cases m i <;> rfl
    rw [hnext]
    exact tracked_save h hallow fun hr => hcond (.inr hr)
  | setActive webhookId isActive =>
    have hnext : (watch lib).next (m i) (.setActive webhookId isActive) (serve (.setActive webhookId isActive) w).1 = m i := by
      cases m i <;> rfl
    rw [hnext]
    refine h.leave (by simp [serve]) (fun _ _ _ => by simp [serve, World.postsFor]) ((h.stages i).later (by simp [serve]))

/-! ### Runs -/

lemma Settles.trans {w'' : World} (h : Settles deliveryId w w') (h' : Settles deliveryId w' w'') :
    Settles deliveryId w w'' := by
  obtain ⟨first, second, hfirst, hsecond, -, hgrows, hkept⟩ := h
  obtain ⟨delivery, last, hdelivery, hlast, hbound, hgrows', hkept'⟩ := h'
  obtain rfl : delivery = second := Option.some.inj (hdelivery.symm.trans hsecond)
  refine ⟨first, last, hfirst, hlast, hbound, hgrows.trans hgrows', fun hfinal => ?_⟩
  obtain ⟨rfl, hposts⟩ := hkept hfinal
  obtain ⟨rfl, hposts'⟩ := hkept' hfinal
  exact ⟨rfl, hposts'.trans hposts⟩

/-- **A run.** -/
theorem tracked_run {P : JobPool ι} (hP : P.Watched (fun _ => watch lib) m) (h : Tracked deliveryId past P.world m)
    (ms : List (Move ι)) (hcond : Undisturbed deliveryId (past ++ P.events serve ms)) :
    ∃ m', (P.run serve ms).Watched (fun _ => watch lib) m' ∧
      Tracked deliveryId (past ++ P.events serve ms) (P.run serve ms).world m' ∧
      Settles deliveryId P.world (P.run serve ms).world := by
  obtain ⟨delivery, hrow, hbounded⟩ := h.row
  have hstart : Settles deliveryId P.world P.world :=
    ⟨delivery, delivery, hrow, hrow, hbounded.attempts, le_rfl, fun _ => ⟨rfl, rfl⟩⟩
  have hkeeps : ∀ past w (m : ι → Stage) i e, (watch lib).allows (m i) e → True →
      (Undisturbed deliveryId past → Tracked deliveryId past w m ∧ Settles deliveryId P.world w) →
      Undisturbed deliveryId (past ++ [⟨i, w, e⟩]) →
      Tracked deliveryId (past ++ [⟨i, w, e⟩]) (serve e w).2
        (Function.update m i ((watch lib).next (m i) e (serve e w).1)) ∧ Settles deliveryId P.world (serve e w).2 := by
    intro past w m i e hallow _ hw hcond
    obtain ⟨htracked, hsettles⟩ := hw hcond.initial
    obtain ⟨htracked', hsettles'⟩ := tracked_step htracked hallow (hcond past _ [] rfl)
    exact ⟨htracked', hsettles.trans hsettles'⟩
  obtain ⟨m', hwatched, hkept⟩ := Pool.WatchedTo.events_inv hkeeps ms hP (fun _ => ⟨h, hstart⟩) (Pool.meets_true _ _ _)
  exact ⟨m', hwatched, hkept hcond⟩

end Invariant

/-- **Redelivery.** However often and however concurrently a record is executed, from one state of the run to a later
one it keeps its bounds and its final status, if no execution disturbs another and none starts from a failed record. -/
theorem redelivery_settles [DecidableEq ι] (cfg : WebhookSettings) (lib : WebhookLibraries) (P : JobPool ι)
    (hworking : P.Working lib) (deliveryId : ℤ) (delivery : WebhookDelivery)
    (hrow : P.world.deliveries.get? deliveryId = some delivery) (hcreated : Created cfg delivery)
    (ms ms' : List (Move ι)) (hcond : Undisturbed deliveryId (P.events serve (ms ++ ms'))) :
    Settles deliveryId (P.run serve ms).world (P.run serve (ms ++ ms')).world := by
  have hbounded : delivery.Bounded := by
    have hless : delivery.attempt < delivery.maxAttempts := by
      rw [hcreated.attempt, hcreated.maxAttempts]
      exact Nat.succ_pos _
    exact ⟨hless.le, fun _ => hless⟩
  obtain ⟨m₀, hwatched₀, hm₀⟩ := hworking.watched
  have hstart : Tracked deliveryId [] P.world m₀ := by
    refine ⟨⟨delivery, hrow, hbounded⟩, fun i => ?_⟩
    rcases hm₀ i with hstage | hstage <;> rw [hstage] <;> trivial
  rw [Pool.events_append] at hcond
  rw [Pool.run_append]
  obtain ⟨m, hwatched, htracked, -⟩ := tracked_run hwatched₀ hstart ms hcond.initial
  obtain ⟨-, -, -, hsettles⟩ := tracked_run hwatched htracked ms' hcond
  exact hsettles

/-! ### Two executions -/

namespace Sample

/-- One job is executed twice. -/
def twice (cfg : WebhookSettings) (w : World) : JobPool Bool :=
  ⟨w, fun _ => some (Job.script cfg libraries (.deliver 0 1) ())⟩

/-- There are no retries, and the endpoint is down. -/
def down : World :=
  { created (.response 500 "down") with deliveries := Table.empty.insert { ping with maxAttempts := 1 } }

/-- The endpoint takes the first POST only. -/
def flaky : World :=
  { created (.response 500 "down") with answers := fun n => if n = 0 then .response 200 "ok" else .response 500 "down" }

/-- One execution after the other. -/
def inTurn : List (Move Bool) := List.replicate 6 (.step true)

/-- The second execution has read the record when the first one records that it is delivered. -/
def overlapping : List (Move Bool) := .step false :: List.replicate 6 (.step true)

end Sample

open Sample in
/-- A failed record is executed again: its second attempt of one. A delivered record is overwritten by an execution
that had read it before: it is to be retried. -/
theorem redelivery_unsettles :
    ¬Settles 1 ((twice { maxRetries := 0 } down).run serve inTurn).world
      ((twice { maxRetries := 0 } down).run serve (inTurn ++ List.replicate 6 (.step false))).world ∧
    ¬Settles 1 ((twice {} flaky).run serve overlapping).world
      ((twice {} flaky).run serve (overlapping ++ List.replicate 6 (.step false))).world := by
  have hagain : (((twice { maxRetries := 0 } down).run serve
      (inTurn ++ List.replicate 6 (.step false))).world.deliveries.get? 1).map
        (fun delivery => (delivery.attempt, delivery.maxAttempts)) = some (2, 1) := by decide +kernel
  have hdelivered : (((twice {} flaky).run serve overlapping).world.deliveries.get? 1).map
      WebhookDelivery.status = some .delivered := by decide +kernel
  have hretrying : (((twice {} flaky).run serve
      (overlapping ++ List.replicate 6 (.step false))).world.deliveries.get? 1).map
        WebhookDelivery.status = some .retrying := by decide +kernel
  constructor
  · rintro ⟨_, last, _, hlast, hbound, _⟩
    rw [hlast] at hagain
    obtain ⟨hattempt, hmax⟩ := Prod.mk.inj (Option.some.inj hagain)
    omega
  · rintro ⟨first, last, hfirst, hlast, _, _, hkept⟩
    rw [hfirst] at hdelivered
    rw [hlast] at hretrying
    have hstatus : first.status = .delivered := Option.some.inj hdelivered
    have hsame := (hkept (by rw [hstatus]; rfl)).1
    rw [hsame] at hretrying
    exact absurd (hstatus.symm.trans (Option.some.inj hretrying)) (by decide)

open Sample in
/-- One execution that delivers: before its POST, and at its end. -/
theorem redelivery_settles_once :
    Settles 1 ((twice {} flaky).run serve (List.replicate 2 (.step true))).world
      ((twice {} flaky).run serve (List.replicate 2 (.step true) ++ List.replicate 4 (.step true))).world := by
  have hproc : ∀ v ∈ (twice {} flaky).events serve (List.replicate 2 (.step true) ++ List.replicate 4 (.step true)),
      v.proc = true := by decide +kernel
  have hread : ∀ v ∈ (twice {} flaky).events serve (List.replicate 2 (.step true) ++ List.replicate 4 (.step true)),
      (v.world.deliveries.get? 1).map WebhookDelivery.status ≠ some .failed := by decide +kernel
  refine redelivery_settles {} libraries (twice {} flaky) (fun _ _ h => ⟨{}, .deliver 0 1, (Option.some.inj h).symm⟩) 1
    { ping with id := 1 } rfl ⟨rfl, rfl, rfl⟩ _ _ fun before v after hevents _ => ⟨?_, ?_⟩
  · rintro ⟨_, u, _, rfl, -, hother, -⟩
    have hu := hproc u (by rw [hevents]; simp)
    have hv := hproc v (by rw [hevents]; simp)
    exact hother (hu.trans hv.symm)
  · rintro ⟨u, hu, -, -, delivery, hrow, hfailed⟩
    have hstatus := hread u (by rw [hevents]; exact List.mem_append_left _ hu)
    rw [hrow] at hstatus
    exact hstatus (congrArg some hfailed)

end FastapiTemplate.Notifications
