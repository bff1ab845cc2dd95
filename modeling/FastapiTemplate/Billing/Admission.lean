import FastapiTemplate.Billing.Quota
import FastapiTemplate.Billing.Metering
import FastapiTemplate.Store.Tickets
import Mathlib.Data.Int.ConditionallyCompleteOrder

/-!
# Admission by quota

Requests of one tenant in one period, counted and admitted at the same time. Redis adds one to the
counter for each of them and answers with the sum, so the answers are tickets, given out once each
(`Tallied`); a request is refused exactly when its ticket is over the allowance. So of `n` requests
exactly `min n q` are admitted (`quota_exact`), whatever each worker remembers.

`attempting` is the monitor of a request. It assumes that what the request is told is so: the state of
the database, the clock, and that fresh entitlements are the right ones. `right` says that this was the
case so far; nothing is asked of a request that was told something else.
-/

namespace FastapiTemplate.Billing

open Core Database Python Effects Script Store

variable {S : Schema} {α β : Type}

/-! ### The terms -/

/-- What requests of a tenant that begin in a world have in common: the tenant's latest live
subscription, its plan, and the metering of the plan. -/
structure Terms (w : World S) where
  tenantId : ℤ
  sub : Subscription
  plan : Plan
  configs : List (String × DimensionConfig)
  cfg : DimensionConfig
  live : (w.db.subscriptions.rows.filter fun s => s.tenantId == some tenantId && s.isLive).getLast? = some sub
  planned : (w.db.plans.rows.filter fun p => p.id == sub.planId).head? = some plan
  metering : extractMetering plan.metering = .ok configs
  metered : configs.lookup defaultDimension = some cfg

namespace Terms

variable {w : World S} (T : Terms w)

/-- The meter of the requests. -/
def meter : Meter := ⟨T.tenantId, defaultDimension, T.sub.currentPeriodStart⟩

/-- Entitlements as a worker would find them. -/
structure Fits (e : Entitlements) : Prop where
  config : e.config = T.configs
  periodStart : e.periodStart = some T.sub.currentPeriodStart
  periodEnd : e.periodEnd = some T.sub.currentPeriodEnd

/-- The world at the first request: time goes on, Redis does not fail and has no counter for the
period, and what the workers remember is right as long as it is fresh. -/
structure Begins : Prop where
  monotone : Monotone w.env.clock
  redisUp : Env.RedisUp w.env
  absent : w.redis.read (w.env.clock w.clockReads) T.meter.key = none
  remembered : ∀ worker e, w.memory worker T.tenantId = some e →
    e.fresh (w.env.clock w.clockReads) = true → T.Fits e

/-- An effect before the period ends. -/
def InPeriod (now : World S) (_ : Eff) : Prop := now.env.clock now.clockReads < T.sub.currentPeriodEnd

instance (now : World S) (e : Eff) : Decidable (T.InPeriod now e) :=
  inferInstanceAs (Decidable (now.env.clock now.clockReads < T.sub.currentPeriodEnd))

/-- What the holder of a ticket is answered. -/
def verdict (ticket : ℤ) : Except Exn Unit :=
  if ticket > T.cfg.includedQuantity then .error (.rateLimit "Plan quota exceeded for this billing period")
  else .ok ()

end Terms

/-! ### The monitor -/

/-- How far a request has come: whether it was told the truth, whether the database failed it, its
readings of the clock, and its ticket. -/
structure Attempt where
  right : Prop
  failed : Bool
  asked : List Datetime
  ticket : Option ℤ

def Attempt.start : Attempt := ⟨True, false, [], none⟩

variable {w₀ : World S}

/-- The effects of a request. -/
def Attempt.Allows (T : Terms w₀) (m : Attempt) : Eff → Prop
  | .now | .query | .recollect _ _ => True
  | .remember _ tenantId e => tenantId = T.tenantId ∧ T.Fits e
  | .redis (.incrby key amount ttlSeconds) =>
    m.ticket = none ∧ key = T.meter.key ∧ amount = 1 ∧
      ∃ t ∈ m.asked, ttlSeconds = ttlFor T.sub.currentPeriodEnd t
  | _ => False

/-- What an answer tells it. -/
def Attempt.told (T : Terms w₀) (m : Attempt) : (e : Eff) → Answer S e → Attempt
  | .now, t =>
    { m with right := m.right ∧ ∃ n, w₀.clockReads ≤ n ∧ t = w₀.env.clock n, asked := t :: m.asked }
  | .query, .ok d => { m with right := m.right ∧ d = w₀.db }
  | .query, .error _ => { m with failed := true }
  | .redis _, .ok (some v) => { m with ticket := some v }
  | .redis _, _ => { m with right := False }
  | .recollect _ tenantId, cached =>
    { m with right := m.right ∧ (tenantId = T.tenantId → ∀ e, cached = some e →
        (∃ n, w₀.clockReads ≤ n ∧ e.fresh (w₀.env.clock n) = true) → T.Fits e) }
  | _, _ => m

/-- The monitor. -/
def attempting (T : Terms w₀) : Monitor Eff (Answer S) Attempt where
  allows m e := m.right → m.Allows T e
  next := Attempt.told T

lemma right_of_told {T : Terms w₀} {m : Attempt} {e : Eff} {r : Answer S e} (h : (m.told T e r).right) :
    m.right := by
  cases e with
  | now => exact h.1
  | query =>
    cases r with
    | ok d => exact h.1
    | error e => exact h
  | recollect worker tenantId => exact h.1
  | redis command =>
    cases r with
    | ok o =>
      cases o with
      | some v => exact h
      | none => exact h.elim
    | error e => exact h.elim
  | _ => exact h

/-- Nothing is asked of a request that was told something else. -/
lemma follows_astray {T : Terms w₀} {p : Prog Eff (Answer S) α} {m : Attempt} (hm : ¬m.right) :
    p.Follows (attempting T) m fun _ m' => ¬m'.right := by
  induction p generalizing m with
  | pure a => exact hm
  | call e k ih => exact ⟨fun h => absurd h hm, fun r => ih r fun h => hm (right_of_told h)⟩

/-- The same for a script, whatever is to be shown of the requests that were told the truth. -/
lemma wp_astray {T : Terms w₀} {p : Py S α} {s : Session} {m : Attempt} (hm : ¬m.right)
    {Q : α → Session → Attempt → Prop} {X : Exn → Session → Attempt → Prop} :
    Wp (attempting T) p s m (fun a s' m' => m'.right → Q a s' m') fun e s' m' => m'.right → X e s' m' := by
  refine Prog.Follows.weaken (follows_astray hm) ?_
  rintro ⟨r, s'⟩ m' hm'
  cases r with
  | ok b => exact fun h => absurd h hm'
  | error e => exact fun h => absurd h hm'

/-! ### Scripts that ask -/

/-- Told the truth, the script returns what `Q` says, without a ticket of its own; it raises only if the
database fails it. -/
def Asks (T : Terms w₀) (p : Py S α) (Q : α → Prop) : Prop :=
  ∀ (s : Session) (m : Attempt), s.aborted = false → (s.tenant = none ∨ s.tenant = some T.tenantId) →
    Wp (attempting T) p s m
      (fun a s' m' => m'.right →
        m.right ∧ Q a ∧ s'.aborted = false ∧ s'.tenant = s.tenant ∧ m'.ticket = m.ticket)
      fun _ _ m' => m'.right → m'.failed = true ∧ m'.ticket = m.ticket

namespace Asks

variable {T : Terms w₀} {Q : α → Prop} {R : β → Prop}

theorem bind {p : Py S α} {f : α → Py S β} (hp : Asks T p Q) (hf : ∀ a, Q a → Asks T (f a) R) :
    Asks T (p >>= f) R := by
  intro s m hs ht
  rw [wp_bind]
  refine (hp s m hs ht).mono ?_ fun _ _ _ h => h
  intro a s' m' h
  by_cases hr : m'.right
  · obtain ⟨hm, ha, hs', ht', htick⟩ := h hr
    refine (hf a ha s' m' hs' (by rw [ht']; exact ht)).mono ?_ ?_
    · intro b s'' m'' h'' hr''
      obtain ⟨-, hb, hs'', ht'', htick''⟩ := h'' hr''
      exact ⟨hm, hb, hs'', ht''.trans ht', htick''.trans htick⟩
    · intro e s'' m'' h'' hr''
      obtain ⟨hfailed, htick''⟩ := h'' hr''
      exact ⟨hfailed, htick''.trans htick⟩
  · exact wp_astray hr

lemma pure {a : α} (h : Q a) : Asks T (Pure.pure a : Py S α) Q := fun _ _ hs _ hr => ⟨hr, h, hs, rfl, rfl⟩

lemma ofExcept {x : Except Exn α} {a : α} (hx : x = .ok a) (h : Q a) :
    Asks T (MonadExcept.ofExcept x : Py S α) Q := by
  subst hx
  exact pure h

lemma datetimeNow : Asks T (Core.datetimeNow : Py S Datetime)
    fun t => ∃ n, w₀.clockReads ≤ n ∧ t = w₀.env.clock n :=
  fun _ _ hs _ => ⟨fun _ => trivial, fun _ hr => ⟨hr.1, hr.2, hs, rfl, rfl⟩⟩

lemma execute (q : Db S → α) : Asks T (Core.execute q) fun a => a = q w₀.db := by
  intro s m hs ht
  unfold Core.execute
  rw [wp_bind, wp_getState, if_neg (by rw [hs]; exact Bool.false_ne_true), wp_bind, wp_perform]
  refine ⟨fun _ => trivial, ?_⟩
  rintro (e | d)
  · exact wp_bind.2 fun _ => ⟨rfl, rfl⟩
  · intro hr
    exact ⟨hr.1, congrArg q hr.2, hs, rfl, rfl⟩

lemma recollect (worker : ℕ) : Asks T (perform (Eff.recollect worker T.tenantId) : Py S (Option Entitlements))
    fun o => ∀ e, o = some e → (∃ n, w₀.clockReads ≤ n ∧ e.fresh (w₀.env.clock n) = true) → T.Fits e :=
  fun _ _ hs _ => ⟨fun _ => trivial, fun _ hr => ⟨hr.1, hr.2 rfl, hs, rfl, rfl⟩⟩

lemma remember (worker : ℕ) {e : Entitlements} (he : T.Fits e) :
    Asks T (perform (Eff.remember worker T.tenantId e) : Py S Unit) fun _ => True :=
  fun _ _ hs _ => ⟨fun _ => ⟨rfl, he⟩, fun _ hr => ⟨hr, trivial, hs, rfl, rfl⟩⟩

/-- The latest live subscription, whatever the context of the tenant is. -/
lemma getLiveForTenant : Asks T (Billing.getLiveForTenant (some T.tenantId) : Py S (Option Subscription))
    fun o => o = some T.sub := by
  intro s m hs ht
  unfold Billing.getLiveForTenant Core.select
  rw [wp_bind, wp_bind, wp_getState]
  refine (execute _ s m hs ht).mono ?_ fun _ _ _ h => h
  intro rows s' m' h hr
  obtain ⟨hm, hrows, hs', ht', htick⟩ := h hr
  refine ⟨hm, ?_, hs', ht', htick⟩
  rw [hrows, ← T.live]
  refine congrArg List.getLast? (List.filter_congr fun x _ => ?_)
  rcases ht with hnone | hsome
  · simp [visible, hnone]
  · by_cases hx : x.tenantId = some T.tenantId <;> simp [visible, hsome, hx]

lemma recallFresh (worker : ℕ) : Asks T (Billing.recallFresh worker T.tenantId : Py S (Option Entitlements))
    fun o => ∀ e, o = some e → T.Fits e := by
  refine .bind (recollect worker) fun cached hcached => ?_
  cases cached with
  | none => exact .pure nofun
  | some e =>
    refine .bind datetimeNow fun t ht => .pure ?_
    obtain ⟨n, hn, rfl⟩ := ht
    intro e' he'
    split at he'
    · rename_i hfresh
      cases he'
      exact hcached e rfl ⟨n, hn, hfresh⟩
    · cases he'

/-- Cached or freshly resolved, the entitlements are the same. -/
theorem resolveEntitlements (worker : ℕ) :
    Asks T (Billing.resolveEntitlements worker T.tenantId : Py S (Option Entitlements))
      fun o => ∃ e, o = some e ∧ T.Fits e := by
  refine .bind (recallFresh worker) fun cached hcached => ?_
  cases cached with
  | some e =>
    refine .pure ⟨e, ?_, hcached e rfl⟩
    rw [(hcached e rfl).periodStart]
    rfl
  | none =>
    refine .bind (Q := fun o => o = some (T.sub, some T.plan)) ?_ fun o ho => ?_
    · refine .bind getLiveForTenant fun o ho => ?_
      subst ho
      refine .bind (execute _) fun plans hplans => .pure ?_
      rw [hplans, T.planned]
    · subst ho
      refine .bind (Q := fun configs => configs = T.configs)
        (.ofExcept (congrArg liftBuiltin T.metering) rfl) fun configs hconfigs => ?_
      subst hconfigs
      refine .bind (Q := T.Fits) (.bind datetimeNow fun t _ => ?_) fun e he => .pure ⟨e, rfl, he⟩
      have hfits : T.Fits ⟨T.configs, some T.sub.currentPeriodStart, some T.sub.currentPeriodEnd,
          t + entitlementsTtlSeconds * second⟩ := ⟨rfl, rfl, rfl⟩
      exact .bind (remember worker hfits) fun _ _ => .pure hfits

end Asks

/-! ### One request -/

section Request

variable {T : Terms w₀}

/-- The addition comes back with the ticket. -/
lemma wp_increment {s : Session} {m : Attempt} (hticket : m.ticket = none) :
    Wp (attempting T)
      (increment T.tenantId defaultDimension T.sub.currentPeriodStart T.sub.currentPeriodEnd : Py S (Option ℤ)) s m
      (fun o _ m' => m'.right → ∃ v, o = some v ∧ m'.ticket = some v) fun _ _ m' => m'.right → False := by
  unfold increment datetimeNow redis
  rw [wp_tryCatch, wp_bind, wp_perform]
  refine ⟨fun _ => trivial, fun t => ?_⟩
  rw [wp_bind, wp_perform]
  refine ⟨fun _ => ⟨hticket, rfl, rfl, t, List.mem_cons_self, rfl⟩, ?_⟩
  rintro (e | _ | v)
  · exact fun hr => hr.elim
  · exact fun hr => hr.elim
  · exact fun _ => ⟨v, rfl, rfl⟩

/-- The body of the `try`. -/
theorem wp_countRequest (worker : ℕ) {s : Session} {m : Attempt} (hs : s.aborted = false)
    (ht : s.tenant = none ∨ s.tenant = some T.tenantId) (hticket : m.ticket = none) :
    Wp (attempting T) (countRequest worker T.tenantId : Py S Bool) s m
      (fun b _ m' => m'.right → ∃ v, m'.ticket = some v ∧ b = decide (v > T.cfg.includedQuantity))
      fun _ _ m' => m'.right → m'.failed = true ∧ m'.ticket = none := by
  unfold countRequest
  rw [wp_bind]
  refine (Asks.resolveEntitlements worker s m hs ht).mono ?_ ?_
  · intro o s' m' h
    by_cases hr : m'.right
    · obtain ⟨-, ⟨e, rfl, hfits⟩, -, -, htick⟩ := h hr
      dsimp only
      rw [hfits.config, hfits.periodStart, hfits.periodEnd, T.metered]
      dsimp only
      rw [wp_bind]
      refine (wp_increment (htick.trans hticket)).mono ?_ fun _ _ _ h hr => (h hr).elim
      intro o s'' m'' h''
      by_cases hr'' : m''.right
      · obtain ⟨v, rfl, hv⟩ := h'' hr''
        exact fun _ => ⟨v, hv, rfl⟩
      · exact wp_astray hr''
    · exact wp_astray hr
  · intro e s' m' h hr
    obtain ⟨hfailed, htick⟩ := h hr
    exact ⟨hfailed, htick.trans hticket⟩

/-- How a request ends: with the answer for its ticket; or, without a ticket, let through because the
database failed it. -/
def Attempt.Ends (T : Terms w₀) (r : Except Exn Unit) (m : Attempt) : Prop :=
  (∃ v, m.ticket = some v ∧ r = T.verdict v) ∨ (m.failed = true ∧ m.ticket = none ∧ r = .ok ())

/-- **One request**, told the truth. -/
theorem follows_enforceApiQuota (worker : ℕ) {user : User} (huser : user.tenantId = some T.tenantId)
    {context : Option ℤ} (hcontext : context = none ∨ context = some T.tenantId) :
    ((enforceApiQuota true worker (some user) : Py S Unit) { tenant := context }).Follows (attempting T)
      .start fun r m => m.right → m.Ends T r.1 := by
  have hwp : Wp (attempting T) (enforceApiQuota true worker (some user) : Py S Unit) { tenant := context } .start
      (fun u _ m' => m'.right → m'.Ends T (.ok u)) fun e _ m' => m'.right → m'.Ends T (.error e) := by
    unfold enforceApiQuota
    rw [if_neg (by decide), Option.bind_some, huser]
    dsimp only
    rw [wp_bind, wp_tryCatch]
    refine (wp_countRequest worker rfl hcontext rfl).mono ?_ ?_
    · intro b s' m' h
      by_cases hr : m'.right
      · obtain ⟨v, hv, rfl⟩ := h hr
        by_cases hq : v > T.cfg.includedQuantity
        · rw [if_pos (decide_eq_true hq)]
          exact fun _ => .inl ⟨v, hv, (if_pos hq).symm⟩
        · rw [if_neg (by simpa using hq)]
          exact fun _ => .inl ⟨v, hv, (if_neg hq).symm⟩
      · exact wp_astray hr
    · intro e s' m' h hr
      obtain ⟨hfailed, htick⟩ := h hr
      exact .inr ⟨hfailed, htick, rfl⟩
  refine Prog.Follows.weaken hwp ?_
  rintro ⟨r, s'⟩ m' h
  cases r with
  | ok u => exact h
  | error e => exact h

end Request

/-! ### Requests interleaved -/

/-- A request of a user of the tenant, as a worker serves it. -/
structure MemberRequest (T : Terms w₀) where
  worker : ℕ
  user : User
  context : Option ℤ
  member : user.tenantId = some T.tenantId
  inContext : context = none ∨ context = some T.tenantId

/-- Requests that are about to be counted. -/
def quotaPool {ι : Type} (T : Terms w₀) (r : ι → MemberRequest T) :
    Pool ι Eff (Answer S) (World S) (Except Exn Unit × Session) where
  world := w₀
  procs i := some (enforceApiQuota true (r i).worker (some (r i).user) { tenant := (r i).context })

/-- The counter of the period holds `k`, until it is gone, which it is not before the period ends. -/
structure Holds (T : Terms w₀) (redis : Counters String) (k : ℕ) : Prop where
  read : ∀ t, w₀.env.clock w₀.clockReads ≤ t →
    redis.read t T.meter.key = none ∨ redis.read t T.meter.key = some (k : ℤ)
  value : ∀ t, w₀.env.clock w₀.clockReads ≤ t → t < T.sub.currentPeriodEnd →
    redis.value t T.meter.key = k

/-- `k` requests have been counted. -/
structure Tallied {ι : Type} (T : Terms w₀) (w : World S) (m : ι → Attempt) (k : ℕ) : Prop where
  db : w.db = w₀.db
  env : w.env = w₀.env
  reads : w₀.clockReads ≤ w.clockReads
  calls : w.redisCalls = w₀.redisCalls + k
  memory : ∀ worker e, w.memory worker T.tenantId = some e →
    (∃ n, w₀.clockReads ≤ n ∧ e.fresh (w₀.env.clock n) = true) → T.Fits e
  right : ∀ i, (m i).right
  failed : ∀ i, (m i).failed = true → ∃ n, w₀.env.dbFails n = true
  asked : ∀ i, ∀ t ∈ (m i).asked, t ≤ w₀.env.clock w.clockReads
  tickets : Tickets (fun i => (m i).ticket) k
  counter : Holds T w.redis k

section Tally

variable {ι : Type} [DecidableEq ι] {T : Terms w₀} {w w' : World S} {m : ι → Attempt} {k : ℕ} {i : ι}
  {x : Attempt}

omit [DecidableEq ι] in
/-- Before the first request. -/
lemma tallied_start (hT : T.Begins) : Tallied T w₀ (fun _ : ι => Attempt.start) 0 where
  db := rfl
  env := rfl
  reads := le_rfl
  calls := rfl
  memory worker e he hfresh := by
    obtain ⟨n, hn, hfresh⟩ := hfresh
    refine hT.remembered worker e he ?_
    exact decide_eq_true (lt_of_le_of_lt (hT.monotone hn) (of_decide_eq_true hfresh))
  right _ := trivial
  failed _ := nofun
  asked _ := nofun
  tickets := .none
  counter :=
    { read := fun t ht => .inl (Counters.read_none_of_le hT.absent ht)
      value := fun t ht _ => by rw [Counters.value, Counters.read_none_of_le hT.absent ht]; rfl }

/-- A request goes on without being counted. -/
lemma Tallied.goesOn (hw : Tallied T w m k) (hT : T.Begins) (hdb : w'.db = w.db) (henv : w'.env = w.env)
    (hreads : w.clockReads ≤ w'.clockReads) (hcalls : w'.redisCalls = w.redisCalls) (hredis : w'.redis = w.redis)
    (hmemory : ∀ worker e, w'.memory worker T.tenantId = some e → w.memory worker T.tenantId = some e ∨ T.Fits e)
    (hright : x.right) (hfailed : x.failed = true → ∃ n, w₀.env.dbFails n = true)
    (hasked : ∀ t ∈ x.asked, t ≤ w₀.env.clock w'.clockReads) (hticket : x.ticket = (m i).ticket) :
    Tallied T w' (Function.update m i x) k where
  db := hdb.trans hw.db
  env := henv.trans hw.env
  reads := hw.reads.trans hreads
  calls := hcalls.trans hw.calls
  memory worker e he hfresh := (hmemory worker e he).elim (fun h => hw.memory worker e h hfresh) id
  right j := by
    by_cases hj : j = i
    · subst hj; rwa [Function.update_self]
    · rw [Function.update_of_ne hj]; exact hw.right j
  failed j := by
    by_cases hj : j = i
    · subst hj; rwa [Function.update_self]
    · rw [Function.update_of_ne hj]; exact hw.failed j
  asked j := by
    by_cases hj : j = i
    · subst hj; rwa [Function.update_self]
    · rw [Function.update_of_ne hj]
      exact fun t ht => (hw.asked j t ht).trans (hT.monotone hreads)
  tickets := by
    have hsame : (fun j => (Function.update m i x j).ticket) = fun j => (m j).ticket := by
      funext j
      by_cases hj : j = i
      · subst hj; rw [Function.update_self, hticket]
      · rw [Function.update_of_ne hj]
    rw [hsame]
    exact hw.tickets
  counter := hredis ▸ hw.counter

/-- The counter after one more, added in the period. -/
lemma Holds.add {redis : Counters String} (h : Holds T redis k) {t now : Datetime}
    (hnow : w₀.env.clock w₀.clockReads ≤ now) (hend : now < T.sub.currentPeriodEnd) (ht : t ≤ now) :
    Holds T (redis.add ⟨now, T.meter.key, 1, ttlFor T.sub.currentPeriodEnd t * second⟩) (k + 1) := by
  have hlife : T.sub.currentPeriodEnd ≤ now + ttlFor T.sub.currentPeriodEnd t * second := le_add_ttlFor ht
  have hlive : ∀ t', t' < now + ttlFor T.sub.currentPeriodEnd t * second →
      (redis.add ⟨now, T.meter.key, 1, ttlFor T.sub.currentPeriodEnd t * second⟩).read t' T.meter.key =
        some ((k + 1 : ℕ) : ℤ) := by
    intro t' ht'
    have hread := Counters.read_add_self (c := redis)
      (p := ⟨now, T.meter.key, 1, ttlFor T.sub.currentPeriodEnd t * second⟩) ht'
    rw [h.value now hnow hend] at hread
    exact hread
  refine ⟨fun t' _ => ?_, fun t' _ hend' => ?_⟩
  · by_cases ht' : t' < now + ttlFor T.sub.currentPeriodEnd t * second
    · exact .inr (hlive t' ht')
    · exact .inl (Counters.read_add_gone (not_lt.1 ht'))
  · rw [Counters.value, hlive t' (lt_of_lt_of_le hend' hlife)]
    rfl

/-- A request is counted. -/
lemma Tallied.counted (hw : Tallied T w m k) (hT : T.Begins) (hticket : (m i).ticket = none) {t : Datetime}
    (ht : t ∈ (m i).asked) (hend : w.env.clock w.clockReads < T.sub.currentPeriodEnd) :
    Tallied T (serve (.redis (.incrby T.meter.key 1 (ttlFor T.sub.currentPeriodEnd t))) w).2
      (Function.update m i ((m i).told T (.redis (.incrby T.meter.key 1 (ttlFor T.sub.currentPeriodEnd t)))
        (serve (.redis (.incrby T.meter.key 1 (ttlFor T.sub.currentPeriodEnd t))) w).1)) (k + 1) := by
  have hup : w.env.redisFails w.redisCalls = false := by rw [hw.env]; exact hT.redisUp _
  have hstart : w₀.env.clock w₀.clockReads ≤ w.env.clock w.clockReads := by
    rw [hw.env]
    exact hT.monotone hw.reads
  have hserve : serve (.redis (.incrby T.meter.key 1 (ttlFor T.sub.currentPeriodEnd t))) w =
      (.ok (some (k + 1 : ℤ)), w.answered (w.redis.add ⟨w.env.clock w.clockReads, T.meter.key, 1,
        ttlFor T.sub.currentPeriodEnd t * second⟩)) := by
    simp only [serve, hup, RedisCommand.run, hw.counter.value _ hstart hend]
    rfl
  rw [hserve]
  have hx : ∀ j, Function.update m i { m i with ticket := some (k + 1 : ℤ) } j =
      { m j with ticket := Function.update (fun j => (m j).ticket) i (some (k + 1 : ℤ)) j } := by
    intro j
    by_cases hj : j = i
    · subst hj; rw [Function.update_self, Function.update_self]
    · rw [Function.update_of_ne hj, Function.update_of_ne hj]
  show Tallied T _ (Function.update m i { m i with ticket := some (k + 1 : ℤ) }) (k + 1)
  refine ⟨hw.db, hw.env, hw.reads.trans (Nat.le_succ _), ?_, hw.memory, ?_, ?_, ?_, ?_, ?_⟩
  · show w.redisCalls + 1 = _
    rw [hw.calls, add_assoc]
  · intro j; rw [hx]; exact hw.right j
  · intro j; rw [hx]; exact hw.failed j
  · intro j; rw [hx]
    exact fun t' ht' => (hw.asked j t' ht').trans (hT.monotone (Nat.le_succ _))
  · simp only [hx]
    exact hw.tickets.issue hticket
  · exact hw.counter.add hstart hend (hw.env ▸ hw.asked i t ht)

/-- One effect of a request. -/
theorem Tallied.serve (hw : Tallied T w m k) (hT : T.Begins) {e : Eff} (hallow : (m i).Allows T e)
    (hend : T.InPeriod w e) :
    ∃ k', Tallied T (Core.serve e w).2 (Function.update m i ((m i).told T e (Core.serve e w).1)) k' := by
  have hfailed := hw.failed i
  have hasked := hw.asked i
  cases e with
  | now =>
    refine ⟨k, hw.goesOn hT rfl rfl (Nat.le_succ _) rfl rfl (fun _ _ h => .inl h) ?_ hfailed ?_ rfl⟩
    · exact ⟨hw.right i, w.clockReads, hw.reads, by rw [← hw.env]; rfl⟩
    · intro t ht
      have hstep : w₀.env.clock w.clockReads ≤ w₀.env.clock (w.clockReads + 1) := hT.monotone (Nat.le_succ _)
      rcases List.mem_cons.1 ht with rfl | ht
      · rw [← hw.env] at hstep ⊢
        exact hstep
      · exact (hasked t ht).trans hstep
  | query =>
    refine ⟨k, ?_⟩
    cases hf : w.env.dbFails w.dbCalls with
    | true =>
      have hserve : Core.serve .query w = (.error .operationalError, w.queried) := by
        simp only [Core.serve, hf]
        rfl
      rw [hserve]
      refine hw.goesOn hT rfl rfl le_rfl rfl rfl (fun _ _ h => .inl h) (hw.right i) ?_ hasked rfl
      exact fun _ => ⟨w.dbCalls, hw.env ▸ hf⟩
    | false =>
      have hserve : Core.serve .query w = (.ok w.db, w.queried) := by
        simp only [Core.serve, hf]
        rfl
      rw [hserve]
      exact hw.goesOn hT rfl rfl le_rfl rfl rfl (fun _ _ h => .inl h) ⟨hw.right i, hw.db⟩ hfailed hasked rfl
  | commit cs => exact hallow.elim
  | publish event => exact hallow.elim
  | enter eventId => exact hallow.elim
  | redis command =>
    cases command with
    | get key => exact hallow.elim
    | incrby key amount ttlSeconds =>
      obtain ⟨hticket, rfl, rfl, t, ht, rfl⟩ := hallow
      exact ⟨k + 1, hw.counted hT hticket ht hend⟩
  | recollect worker tenantId =>
    refine ⟨k, hw.goesOn hT rfl rfl le_rfl rfl rfl (fun _ _ h => .inl h) ⟨hw.right i, ?_⟩ hfailed hasked rfl⟩
    rintro rfl e he hfresh
    exact hw.memory worker e he hfresh
  | remember worker tenantId e =>
    obtain ⟨rfl, hfits⟩ := hallow
    refine ⟨k, hw.goesOn hT rfl rfl le_rfl rfl rfl ?_ (hw.right i) hfailed hasked rfl⟩
    intro worker' e' he'
    simp only [Core.serve, Memory.set] at he'
    split at he'
    · cases he'
      exact .inr hfits
    · exact .inl he'

end Tally

/-! ### How many are admitted -/

/-- Every request has been answered, as `answer` says. -/
def Answered {ι : Type} (P : Pool ι Eff (Answer S) (World S) (Except Exn Unit × Session))
    (answer : ι → Except Exn Unit) : Prop :=
  ∀ i, (P.answer? i).map Prod.fst = some (answer i)

section Count

variable {ι : Type} [Fintype ι] [DecidableEq ι] {T : Terms w₀}

/-- Who has a ticket up to the allowance is admitted, and so is who has none. -/
lemma card_admitted {m : ι → Attempt} {k : ℕ} {answer : ι → Except Exn Unit}
    (htickets : Tickets (fun i => (m i).ticket) k) (hends : ∀ i, (m i).Ends T (answer i)) :
    (Finset.univ.filter fun i => answer i = .ok ()).card =
      min k T.cfg.includedQuantity.toNat + (Fintype.card ι - k) := by
  have hsplit : (Finset.univ.filter fun i => answer i = .ok ()) =
      (Finset.univ.filter fun i => ∃ v ∈ (m i).ticket, v ≤ T.cfg.includedQuantity) ∪
        Finset.univ.filter fun i => ¬(m i).ticket.isSome = true := by
    rw [← Finset.filter_or]
    refine Finset.filter_congr fun i _ => ?_
    rcases hends i with ⟨v, hv, ha⟩ | ⟨-, hnone, ha⟩
    · rw [ha, Terms.verdict, hv]
      split <;> simp <;> omega
    · simp [ha, hnone]
  have hdisjoint : Disjoint (Finset.univ.filter fun i => ∃ v ∈ (m i).ticket, v ≤ T.cfg.includedQuantity)
      (Finset.univ.filter fun i => ¬(m i).ticket.isSome = true) := by
    refine Finset.disjoint_filter.2 ?_
    rintro i - ⟨v, hv, -⟩ hnone
    exact hnone (Option.isSome_iff_exists.2 ⟨v, hv⟩)
  have htakers := Finset.card_filter_add_card_filter_not (s := Finset.univ) fun i => (m i).ticket.isSome = true
  rw [htickets.card_takers, Finset.card_univ] at htakers
  rw [hsplit, Finset.card_union_of_disjoint hdisjoint, htickets.card_le]
  omega

omit [Fintype ι] in
/-- **What comes of requests**, in whatever order their effects come. -/
theorem exists_tally (hT : T.Begins) (r : ι → MemberRequest T) {ms : List (Effects.Move ι)}
    (hms : (quotaPool T r).Meets serve T.InPeriod ms) :
    ∃ m k, ((quotaPool T r).run serve ms).WatchedTo (fun _ => attempting T)
        (fun _ a m => m.right → m.Ends T a.1) m ∧ Tallied T ((quotaPool T r).run serve ms).world m k := by
  have hstart : (quotaPool T r).WatchedTo (fun _ => attempting T) (fun _ a m => m.right → m.Ends T a.1)
      fun _ => .start := by
    intro i p hp
    cases hp
    exact follows_enforceApiQuota (r i).worker (r i).member (r i).inContext
  obtain ⟨m, hwatched, k, hk⟩ := Pool.WatchedTo.inv (h := serve) (C := T.InPeriod)
    (I := fun w m => ∃ k, Tallied T w m k)
    (fun w m i e hallow hend ⟨_, hw⟩ => hw.serve hT (hallow (hw.right i)) hend) ms hstart
    ⟨0, tallied_start hT⟩ hms
  exact ⟨m, k, hwatched, hk⟩

/-- What the requests leave behind when all of them have been answered: `k` have been counted, all of
them unless the database failed one. -/
theorem outcome_of_requests (hT : T.Begins) (r : ι → MemberRequest T) {ms : List (Effects.Move ι)}
    (hms : (quotaPool T r).Meets serve T.InPeriod ms) {answer : ι → Except Exn Unit}
    (hanswer : Answered ((quotaPool T r).run serve ms) answer) :
    ∃ k : ℕ, k ≤ Fintype.card ι ∧ ((∀ n, w₀.env.dbFails n = false) → k = Fintype.card ι) ∧
      ((quotaPool T r).run serve ms).world.redisCalls = w₀.redisCalls + k ∧
      ((quotaPool T r).run serve ms).world.env = w₀.env ∧
      w₀.clockReads ≤ ((quotaPool T r).run serve ms).world.clockReads ∧
      Holds T ((quotaPool T r).run serve ms).world.redis k ∧
      (Finset.univ.filter fun i => answer i = .ok ()).card =
        min k T.cfg.includedQuantity.toNat + (Fintype.card ι - k) ∧
      ∀ i, answer i = .ok () ∨ answer i = .error (.rateLimit "Plan quota exceeded for this billing period") := by
  obtain ⟨m, k, hwatched, hk⟩ := exists_tally hT r hms
  have hends : ∀ i, (m i).Ends T (answer i) := by
    intro i
    obtain ⟨a, ha, hai⟩ := Option.map_eq_some_iff.1 (hanswer i)
    rw [← hai]
    exact hwatched i _ (Pool.answer?_eq_some ha) (hk.right i)
  have hle : k ≤ Fintype.card ι := by
    rw [← hk.tickets.card_takers]
    exact Finset.card_le_univ _
  refine ⟨k, hle, fun hup => ?_, hk.calls, hk.env, hk.reads, hk.counter, card_admitted hk.tickets hends, fun i => ?_⟩
  · -- who has no ticket was failed by the database
    rw [← hk.tickets.card_takers, Finset.filter_true_of_mem, Finset.card_univ]
    intro i _
    rcases hends i with ⟨v, hv, -⟩ | ⟨hfailed, -, -⟩
    · rw [hv]; rfl
    · obtain ⟨n, hn⟩ := hk.failed i hfailed
      rw [hup n] at hn
      cases hn
  · rcases hends i with ⟨v, -, ha⟩ | ⟨-, -, ha⟩
    · rw [ha, Terms.verdict]
      split
      · exact .inr rfl
      · exact .inl rfl
    · exact .inl ha

/-- **Admission is exact.** However the requests of a tenant in a period are interleaved, and whatever the
workers remember: all of them are answered on some schedule, and once they are, of the `k` that were counted
exactly `min k q` were admitted. Redis never fails; a request is counted unless the database fails it, and is
let through then; one that is not admitted is over the quota. -/
theorem quota_exact (hT : T.Begins) (hq : 0 ≤ T.cfg.includedQuantity) (r : ι → MemberRequest T) :
    (∃ ms, ∀ i, (((quotaPool T r).run serve ms).answer? i).isSome) ∧
    ∀ ms, (quotaPool T r).Meets serve T.InPeriod ms →
      ∀ answer, Answered ((quotaPool T r).run serve ms) answer →
        ∃ k : ℕ, ((quotaPool T r).run serve ms).world.redisCalls = w₀.redisCalls + k ∧
          ((∀ n, w₀.env.dbFails n = false) → k = Fintype.card ι) ∧
          ((Finset.univ.filter fun i => answer i = .ok ()).card : ℤ) =
            min (k : ℤ) T.cfg.includedQuantity + (Fintype.card ι - k) ∧
          ∀ i, answer i ≠ .ok () →
            answer i = .error (.rateLimit "Plan quota exceeded for this billing period") := by
  refine ⟨Pool.exists_answers fun i => nofun, fun ms hms answer hanswer => ?_⟩
  obtain ⟨k, hle, hup, hcalls, -, -, -, hcard, hrefused⟩ := outcome_of_requests hT r hms hanswer
  refine ⟨k, hcalls, hup, ?_, fun i hi => (hrefused i).resolve_left hi⟩
  rw [hcard]
  omega

end Count

/-! ### Two requests -/

namespace Sample

/-- One request of the period is free. -/
def quotaTerms : Terms (World.start metered (env 1000)) where
  tenantId := 1
  sub := { row .active 0 none with id := 1 }
  plan := meteredPlan
  configs := [("api_requests", ⟨5, 1⟩)]
  cfg := ⟨5, 1⟩
  live := rfl
  planned := rfl
  metering := rfl
  metered := rfl

lemma quotaTerms_begins : quotaTerms.Begins where
  monotone := monotone_const
  redisUp _ := rfl
  absent := rfl
  remembered := nofun

/-- Two requests to two workers. -/
def callers : Fin 2 → MemberRequest quotaTerms := fun i => ⟨i, admin, some 1, rfl, .inr rfl⟩

/-- The requests take turns. -/
def inTurns : List (Effects.Move (Fin 2)) := (List.replicate 8 [.step 0, .step 1]).flatten

/-- The first is admitted. -/
def firstOnly : Fin 2 → Except Exn Unit :=
  fun i => if i = 0 then .ok () else .error (.rateLimit "Plan quota exceeded for this billing period")

lemma inTurns_meets : (quotaPool quotaTerms callers).Meets serve quotaTerms.InPeriod inTurns := by
  decide +kernel

lemma inTurns_answered : Answered ((quotaPool quotaTerms callers).run serve inTurns) firstOnly := by
  unfold Answered
  decide +kernel

end Sample

/-- Two requests to two workers that remember nothing: one of them is admitted. -/
theorem quota_exact_two :
    ∃ k : ℕ, ((quotaPool Sample.quotaTerms Sample.callers).run serve Sample.inTurns).world.redisCalls = 0 + k ∧
      ((∀ n, (Sample.env 1000).dbFails n = false) → k = Fintype.card (Fin 2)) ∧
      ((Finset.univ.filter fun i => Sample.firstOnly i = .ok ()).card : ℤ) =
        min (k : ℤ) 1 + (Fintype.card (Fin 2) - k) ∧
      ∀ i, Sample.firstOnly i ≠ .ok () →
        Sample.firstOnly i = .error (.rateLimit "Plan quota exceeded for this billing period") :=
  (quota_exact Sample.quotaTerms_begins (by decide) Sample.callers).2 Sample.inTurns Sample.inTurns_meets
    Sample.firstOnly Sample.inTurns_answered


end FastapiTemplate.Billing
