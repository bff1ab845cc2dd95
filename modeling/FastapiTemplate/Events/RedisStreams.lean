import FastapiTemplate.Events.Base
import Mathlib.Data.List.TakeWhile

/-!
# Events on a Redis stream

The consumer of `RedisStreamsEventBus`: it reads up to ten new messages at a time into the pending list of its group,
hands each of them to its handlers, and acknowledges it if none of them raised. A message that cannot be read raises
out of the loop over the batch.

It asks for new messages only (`>`), so that no message is handed out twice, whatever became of it. Of the messages of
a batch those are handed out that stand before the first one which cannot be read (`processBatch_spec`). So every
message is handled at least once exactly if no message that somebody waits for stands behind an unreadable one in its
batch, and no handler raises (`atLeastOnce_iff`).
-/

namespace FastapiTemplate.Events

open Python

variable {η : Type}

/-- The fields of a message. -/
abbrev Message := List (String × String)

/-- The registered handlers, and what they and `json.loads` do: `raises i j a` says that the handler in place `j` raises
when it is handed message `i` after `a` times before. -/
structure Consumer (η : Type) where
  handlers : String → List η
  loads : String → Except BuiltinError Value
  raises : ℕ → ℕ → ℕ → Bool

/-- A call of a handler with an event, which was read from the message with this index. -/
structure Call (η : Type) where
  index : ℕ
  position : ℕ
  handler : η
  event : Event
  raised : Bool

/-- The stream and its consumer group, of which `delivered` messages have been read and those with the indices in
`pending` are not acknowledged; and the calls that were made. -/
structure Bus (η : Type) where
  stream : List Message := []
  delivered : ℕ := 0
  pending : List ℕ := []
  calls : List (Call η) := []

namespace Bus

/-- `xadd`, without a cap. -/
def xadd (messages : List Message) (bus : Bus η) : Bus η := { bus with stream := bus.stream ++ messages }

/-- `xack` -/
def xack (index : ℕ) (bus : Bus η) : Bus η := { bus with pending := bus.pending.filter (· ≠ index) }

/-- How often a handler was called with a message. -/
def attempts (bus : Bus η) (index position : ℕ) : ℕ :=
  bus.calls.countP fun call => call.index == index && call.position == position

/-- The messages that `xreadgroup` with `>` and `count=10` returns, with their indices. -/
def newMessages (bus : Bus η) : List (Message × ℕ) :=
  ((bus.stream.drop bus.delivered).take 10).zipIdx bus.delivered

/-- What `xreadgroup` does to the group. -/
def xreadgroup (bus : Bus η) : Bus η :=
  { bus with
    delivered := bus.delivered + bus.newMessages.length
    pending := bus.pending ++ bus.newMessages.map Prod.snd }

lemma mem_newMessages {bus : Bus η} {x : Message × ℕ} : x ∈ bus.newMessages ↔
    bus.delivered ≤ x.2 ∧ x.2 < bus.delivered + bus.newMessages.length ∧ bus.stream[x.2]? = some x.1 := by
  unfold newMessages
  rw [List.mem_zipIdx_iff_le_and_getElem?_sub, List.getElem?_take, List.length_zipIdx, List.length_take, List.length_drop]
  constructor
  · rintro ⟨hle, hget⟩
    split at hget
    · rw [List.getElem?_drop, Nat.add_sub_cancel' hle] at hget
      have hlt := (List.getElem?_eq_some_iff.1 hget).1
      exact ⟨hle, by omega, hget⟩
    · cases hget
  · rintro ⟨hle, hlt, hget⟩
    refine ⟨hle, ?_⟩
    rw [if_pos (by omega), List.getElem?_drop, Nat.add_sub_cancel' hle, hget]

lemma length_newMessages (bus : Bus η) : bus.newMessages.length = min 10 (bus.stream.length - bus.delivered) := by
  simp [newMessages]

lemma map_newMessages (bus : Bus η) :
    bus.newMessages.map Prod.snd = List.range' bus.delivered bus.newMessages.length := by
  simp [newMessages]

end Bus

namespace Consumer

variable (c : Consumer η)

/-- `[*self._handlers.get("*", []), *self._handlers.get(event.event_type, [])]`; a list and a dict have no hash. -/
def handlersOf : Value → Except DecodeError (List η)
  | .str eventType => .ok (c.handlers "*" ++ c.handlers eventType)
  | .list _ | .dict _ => .error (.builtin .typeError)
  | _ => .ok (c.handlers "*")

/-- The event in a message, and the handlers it is for. -/
def read (message : Message) : Except DecodeError (Event × List η) := do
  let data ← match message.lookup "event" with
    | some data => .ok data
    | none => .error (.keyError "event")
  let event ← Event.fromJson c.loads data
  let handlers ← c.handlersOf event.eventType
  return (event, handlers)

/-- The loop over the handlers, with `failed`. -/
def handOut (index : ℕ) (event : Event) : List η → ℕ → Bool → Bus η → Bool × Bus η
  | [], _, failed, bus => (failed, bus)
  | handler :: rest, position, failed, bus =>
    let raised := c.raises index position (bus.attempts index position)
    let call := { index, position, handler, event, raised }
    handOut index event rest (position + 1) (failed || raised) { bus with calls := bus.calls ++ [call] }

/-- The loop over the messages of a batch. -/
def processBatch : List (Message × ℕ) → Bus η → Bus η
  | [], bus => bus
  | (message, index) :: rest, bus =>
    match c.read message with
    | .error _ => bus
    | .ok (event, handlers) =>
      let (failed, bus) := c.handOut index event handlers 0 false bus
      processBatch rest (if failed then bus else bus.xack index)

/-! ### A batch -/

/-- The calls that a message leads to when it is handed out for the first time. -/
def firstCalls (index : ℕ) (event : Event) (handlers : List η) (position : ℕ) : List (Call η) :=
  (handlers.zipIdx position).map fun (handler, position) =>
    { index, position, handler, event, raised := c.raises index position 0 }

def callsOf (x : Message × ℕ) : List (Call η) :=
  match c.read x.1 with
  | .error _ => []
  | .ok (event, handlers) => c.firstCalls x.2 event handlers 0

/-- The messages of a batch before the first one that cannot be read. -/
def handed (batch : List (Message × ℕ)) : List (Message × ℕ) := batch.takeWhile fun x => (c.read x.1).isOk

/-- Those of them whose handlers all succeed. -/
def acknowledged (batch : List (Message × ℕ)) : List ℕ :=
  ((c.handed batch).filter fun x => !(c.callsOf x).any Call.raised).map Prod.snd

variable {c} {bus : Bus η} {messages : List (Message × ℕ)}

lemma attempts_eq_zero {index position : ℕ}
    (h : ∀ call ∈ bus.calls, call.index = index → call.position < position) : bus.attempts index position = 0 := by
  unfold Bus.attempts
  rw [List.countP_eq_zero]
  intro call hcall hmatch
  simp only [Bool.and_eq_true, beq_iff_eq] at hmatch
  have hlt := h call hcall hmatch.1
  omega

lemma handOut_eq {index : ℕ} {event : Event} {handlers : List η} {position : ℕ} {failed : Bool}
    (h : ∀ call ∈ bus.calls, call.index = index → call.position < position) :
    c.handOut index event handlers position failed bus =
      (failed || (c.firstCalls index event handlers position).any Call.raised,
        { bus with calls := bus.calls ++ c.firstCalls index event handlers position }) := by
  induction handlers generalizing position failed bus with
  | nil => simp [handOut, firstCalls]
  | cons handler rest ih =>
    unfold handOut
    dsimp only
    rw [ih, attempts_eq_zero h]
    · simp [firstCalls, Bool.or_assoc]
    · intro call hcall hindex
      rcases List.mem_append.1 hcall with hcall | hcall
      · exact (h call hcall hindex).trans (Nat.lt_succ_self _)
      · rw [List.mem_singleton.1 hcall]
        exact Nat.lt_succ_self _

lemma handed_of_error {x : Message × ℕ} {e : DecodeError} (h : c.read x.1 = .error e) : c.handed (x :: messages) = [] :=
  List.takeWhile_cons_of_neg (by rw [h]; exact Bool.false_ne_true)

lemma handed_of_ok {x : Message × ℕ} {p : Event × List η} (h : c.read x.1 = .ok p) :
    c.handed (x :: messages) = x :: c.handed messages :=
  List.takeWhile_cons_of_pos (by rw [h]; rfl)

/-- A message is acknowledged if none of its handlers raises. -/
lemma acknowledged_of_ok {x : Message × ℕ} {p : Event × List η} (h : c.read x.1 = .ok p) :
    c.acknowledged (x :: messages) =
      if (c.callsOf x).any Call.raised then c.acknowledged messages else x.2 :: c.acknowledged messages := by
  unfold acknowledged
  rw [handed_of_ok h, List.filter_cons]
  cases (c.callsOf x).any Call.raised <;> rfl

lemma index_of_mem_firstCalls {index : ℕ} {event : Event} {handlers : List η} {position : ℕ} {call : Call η}
    (h : call ∈ c.firstCalls index event handlers position) : call.index = index := by
  obtain ⟨x, -, rfl⟩ := List.mem_map.1 h
  rfl

/-- **What becomes of a batch** of new messages. -/
theorem processBatch_spec (hnew : ∀ call ∈ bus.calls, call.index ∉ messages.map Prod.snd)
    (hnodup : (messages.map Prod.snd).Nodup) :
    c.processBatch messages bus =
      { bus with
        calls := bus.calls ++ (c.handed messages).flatMap c.callsOf
        pending := bus.pending.filter (· ∉ c.acknowledged messages) } := by
  induction messages generalizing bus with
  | nil => simp [processBatch, handed, acknowledged]
  | cons x rest ih =>
    obtain ⟨message, index⟩ := x
    rw [List.map_cons, List.nodup_cons] at hnodup
    unfold processBatch
    cases hread : c.read message with
    | error e => simp [acknowledged, handed_of_error (x := (message, index)) hread]
    | ok p =>
      obtain ⟨event, handlers⟩ := p
      have hfresh : ∀ call ∈ bus.calls, call.index = index → call.position < 0 :=
        fun call hcall hindex => absurd (List.mem_cons.2 (.inl hindex)) (hnew call hcall)
      dsimp only
      rw [handOut_eq hfresh, Bool.false_or]
      have hcalls : c.callsOf (message, index) = c.firstCalls index event handlers 0 := by simp [callsOf, hread]
      have hhanded : c.handed ((message, index) :: rest) = (message, index) :: c.handed rest := handed_of_ok hread
      have hnext : ∀ call ∈ bus.calls ++ c.firstCalls index event handlers 0, call.index ∉ rest.map Prod.snd := by
        intro call hcall
        rcases List.mem_append.1 hcall with hcall | hcall
        · exact fun hmem => hnew call hcall (List.mem_cons_of_mem _ hmem)
        · rw [index_of_mem_firstCalls hcall]
          exact hnodup.1
      rw [hhanded, acknowledged_of_ok (x := (message, index)) hread, hcalls]
      cases (c.firstCalls index event handlers 0).any Call.raised with
      | true =>
        dsimp only
        rw [if_pos rfl, if_pos rfl, ih hnext hnodup.2]
        simp [hcalls]
      | false =>
        dsimp only
        rw [if_neg Bool.false_ne_true, if_neg Bool.false_ne_true, ih hnext hnodup.2]
        simp [hcalls, Bus.xack, Bool.and_comm]

/-! ### The loop -/

variable (c) (arrivals : ℕ → List Message)

/-- One turn of `_consume_loop`. -/
def consume (bus : Bus η) : Bus η := c.processBatch bus.newMessages bus.xreadgroup

/-- The bus after a number of turns, where `arrivals n` are the messages that come before turn `n`. -/
def run : ℕ → Bus η
  | 0 => {}
  | n + 1 => c.consume ((run n).xadd (arrivals n))

/-- The messages that a turn reads. -/
def batch (n : ℕ) : List (Message × ℕ) := ((c.run arrivals n).xadd (arrivals n)).newMessages

variable {c arrivals} {n m i : ℕ}

lemma index_of_mem_callsOf {x : Message × ℕ} {call : Call η} (h : call ∈ c.callsOf x) : call.index = x.2 := by
  unfold callsOf at h
  cases hread : c.read x.1 with
  | error e =>
    rw [hread] at h
    cases h
  | ok p =>
    rw [hread] at h
    exact index_of_mem_firstCalls h

lemma mem_of_mem_handed {x : Message × ℕ} {messages : List (Message × ℕ)} (h : x ∈ c.handed messages) :
    x ∈ messages :=
  List.takeWhile_subset _ h

/-- A turn, if the calls so far were for messages that have been read. -/
lemma consume_eq (h : ∀ call ∈ bus.calls, call.index < bus.delivered) :
    c.consume bus =
      { bus with
        delivered := bus.delivered + bus.newMessages.length
        calls := bus.calls ++ (c.handed bus.newMessages).flatMap c.callsOf
        pending := (bus.pending ++ bus.newMessages.map Prod.snd).filter (· ∉ c.acknowledged bus.newMessages) } := by
  unfold consume
  rw [processBatch_spec]
  · rfl
  · intro call hcall hmem
    rw [Bus.map_newMessages, List.mem_range'_1] at hmem
    have hlt := h call hcall
    omega
  · rw [Bus.map_newMessages]
    exact List.nodup_range'

lemma index_lt_delivered : ∀ call ∈ (c.run arrivals n).calls, call.index < (c.run arrivals n).delivered := by
  induction n with
  | zero => exact fun call hcall => nomatch hcall
  | succ n ih =>
    intro call hcall
    have hbefore : ∀ call ∈ ((c.run arrivals n).xadd (arrivals n)).calls,
        call.index < ((c.run arrivals n).xadd (arrivals n)).delivered := ih
    unfold run at hcall ⊢
    rw [consume_eq hbefore] at hcall ⊢
    rcases List.mem_append.1 hcall with hcall | hcall
    · exact (ih call hcall).trans_le (Nat.le_add_right _ _)
    · obtain ⟨x, hx, hcall⟩ := List.mem_flatMap.1 hcall
      rw [index_of_mem_callsOf hcall]
      exact (Bus.mem_newMessages.1 (mem_of_mem_handed hx)).2.1

lemma run_succ : c.run arrivals (n + 1) =
    { stream := (c.run arrivals n).stream ++ arrivals n
      delivered := (c.run arrivals n).delivered + (c.batch arrivals n).length
      calls := (c.run arrivals n).calls ++ (c.handed (c.batch arrivals n)).flatMap c.callsOf
      pending := ((c.run arrivals n).pending ++ (c.batch arrivals n).map Prod.snd).filter
        (· ∉ c.acknowledged (c.batch arrivals n)) } :=
  consume_eq index_lt_delivered

/-- Turns only add to the stream. -/
lemma getElem?_stream (hnm : n ≤ m) {message : Message} (h : (c.run arrivals n).stream[i]? = some message) :
    (c.run arrivals m).stream[i]? = some message := by
  induction m, hnm using Nat.le_induction with
  | base => exact h
  | succ m _ ih =>
    rw [run_succ]
    dsimp only
    rw [List.getElem?_append_left (List.getElem?_eq_some_iff.1 ih).1, ih]

lemma delivered_mono (hnm : n ≤ m) : (c.run arrivals n).delivered ≤ (c.run arrivals m).delivered := by
  induction m, hnm using Nat.le_induction with
  | base => rfl
  | succ m _ ih =>
    rw [run_succ]
    exact ih.trans (Nat.le_add_right _ _)

lemma mem_batch {x : Message × ℕ} : x ∈ c.batch arrivals n ↔
    (c.run arrivals n).delivered ≤ x.2 ∧ x.2 < (c.run arrivals (n + 1)).delivered ∧
      (c.run arrivals (n + 1)).stream[x.2]? = some x.1 := by
  rw [run_succ]
  exact Bus.mem_newMessages

/-- An index is read in one turn only, with one message. -/
lemma batch_unique {x y : Message × ℕ} (hx : x ∈ c.batch arrivals n) (hy : y ∈ c.batch arrivals m) (h : x.2 = y.2) :
    n = m ∧ x = y := by
  obtain ⟨hxle, hxlt, hxget⟩ := mem_batch.1 hx
  obtain ⟨hyle, hylt, hyget⟩ := mem_batch.1 hy
  have hturn : n = m := by
    rcases Nat.lt_trichotomy n m with hlt | heq | hlt
    · have hmono : (c.run arrivals (n + 1)).delivered ≤ (c.run arrivals m).delivered := delivered_mono hlt
      omega
    · exact heq
    · have hmono : (c.run arrivals (m + 1)).delivered ≤ (c.run arrivals n).delivered := delivered_mono hlt
      omega
  subst hturn
  rw [h, hyget] at hxget
  exact ⟨rfl, Prod.ext (Option.some.inj hxget).symm h⟩

lemma mem_calls {call : Call η} : call ∈ (c.run arrivals n).calls ↔
    ∃ k < n, ∃ x ∈ c.handed (c.batch arrivals k), call ∈ c.callsOf x := by
  induction n with
  | zero => simp [run]
  | succ n ih =>
    rw [run_succ]
    dsimp only
    rw [List.mem_append, ih, List.mem_flatMap]
    constructor
    · rintro (⟨k, hk, h⟩ | h)
      · exact ⟨k, hk.trans (Nat.lt_succ_self n), h⟩
      · exact ⟨n, Nat.lt_succ_self n, h⟩
    · rintro ⟨k, hk, h⟩
      rcases Nat.lt_succ_iff_lt_or_eq.1 hk with hk | rfl
      · exact .inl ⟨k, hk, h⟩
      · exact .inr h

/-- What is pending has been read, and is not acknowledged in any turn. -/
lemma mem_pending : i ∈ (c.run arrivals n).pending ↔ i < (c.run arrivals n).delivered ∧
    ∀ k < n, i ∉ c.acknowledged (c.batch arrivals k) := by
  induction n with
  | zero => simp [run]
  | succ n ih =>
    have hread : i ∈ (c.batch arrivals n).map Prod.snd ↔
        (c.run arrivals n).delivered ≤ i ∧ i < (c.run arrivals (n + 1)).delivered := by
      rw [run_succ, batch, Bus.map_newMessages, List.mem_range'_1]
      rfl
    have hbefore : (c.run arrivals n).delivered ≤ (c.run arrivals (n + 1)).delivered := delivered_mono (Nat.le_succ n)
    have hpending : i ∈ (c.run arrivals (n + 1)).pending ↔
        (i ∈ (c.run arrivals n).pending ∨ i ∈ (c.batch arrivals n).map Prod.snd) ∧
          i ∉ c.acknowledged (c.batch arrivals n) := by
      rw [run_succ]
      simp only [List.mem_filter, List.mem_append, decide_eq_true_eq]
    rw [hpending, ih, hread]
    constructor
    · rintro ⟨hbusy, hlast⟩
      refine ⟨?_, fun k hk => ?_⟩
      · rcases hbusy with ⟨hlt, -⟩ | ⟨-, hlt⟩ <;> omega
      rcases Nat.lt_succ_iff_lt_or_eq.1 hk with hk | rfl
      · rcases hbusy with ⟨-, hnot⟩ | ⟨hle, -⟩
        · exact hnot k hk
        · -- a turn before this one reads earlier messages only
          intro hacked
          obtain ⟨x, hx, rfl⟩ := List.mem_map.1 hacked
          have hlt := (mem_batch.1 (mem_of_mem_handed (List.mem_of_mem_filter hx))).2.1
          have hmono : (c.run arrivals (k + 1)).delivered ≤ (c.run arrivals n).delivered := delivered_mono hk
          omega
      · exact hlast
    · rintro ⟨hlt, hnot⟩
      refine ⟨?_, hnot n (Nat.lt_succ_self n)⟩
      by_cases hle : (c.run arrivals n).delivered ≤ i
      · exact .inr ⟨hle, hlt⟩
      · exact .inl ⟨Nat.lt_of_not_le hle, fun k hk => hnot k (hk.trans (Nat.lt_succ_self n))⟩

/-- As long as there is a backlog, a turn reads at least one message of it. -/
lemma le_delivered (h : i < (c.run arrivals n).stream.length) (j : ℕ) :
    min (i + 1) j ≤ (c.run arrivals (n + j)).delivered := by
  induction j with
  | zero => simp
  | succ j ih =>
    have hmessage := getElem?_stream (m := n + j) (Nat.le_add_right n j) (List.getElem?_eq_getElem h)
    have hlength := (List.getElem?_eq_some_iff.1 hmessage).1
    rw [← Nat.add_assoc, run_succ, batch, Bus.length_newMessages]
    simp only [Bus.xadd, List.length_append]
    omega

/-- **Every message is read** in some turn. -/
theorem mem_batch_of_stream {message : Message} (h : (c.run arrivals n).stream[i]? = some message) :
    ∃ k, (message, i) ∈ c.batch arrivals k := by
  have hread : ∃ m, i < (c.run arrivals m).delivered :=
    ⟨n + (i + 1), by have := le_delivered (List.getElem?_eq_some_iff.1 h).1 (i + 1); omega⟩
  have hfirst := Nat.find_spec hread
  cases hm : Nat.find hread with
  | zero =>
    rw [hm] at hfirst
    cases hfirst
  | succ k =>
    rw [hm] at hfirst
    have hbefore : ¬i < (c.run arrivals k).delivered := Nat.find_min hread (by omega)
    refine ⟨k, mem_batch.2 ⟨Nat.le_of_not_lt hbefore, hfirst, ?_⟩⟩
    -- the stream holds one message at this index, whenever it is looked at
    have hlater : (c.run arrivals (max n (k + 1))).stream[i]? = some message := getElem?_stream (le_max_left _ _) h
    have hlength : i < (c.run arrivals (k + 1)).stream.length := by
      have hturn := (Bus.length_newMessages ((c.run arrivals k).xadd (arrivals k))).ge
      rw [run_succ] at hfirst ⊢
      simp only [batch, Bus.length_newMessages] at hfirst
      simp only [Bus.xadd] at hfirst
      dsimp only
      omega
    have hget := getElem?_stream (le_max_right n (k + 1)) (List.getElem?_eq_getElem hlength)
    rw [List.getElem?_eq_getElem hlength, ← hget, hlater]

/-! ### At least once -/

/-- A message is acknowledged. -/
def Acknowledged (bus : Bus η) (i : ℕ) : Prop := i < bus.delivered ∧ i ∉ bus.pending

/-- Every message that can be read reaches all of its handlers; one with a handler that raised is handed out again, as
long as it is not acknowledged; and what is acknowledged was handled by all of its handlers. -/
structure AtLeastOnce (c : Consumer η) (bus : ℕ → Bus η) : Prop where
  handedOut : ∀ n i message event handlers, (bus n).stream[i]? = some message → c.read message = .ok (event, handlers) →
    ∀ j handler, handlers[j]? = some handler → ∃ m, ∃ call ∈ (bus m).calls,
      call.index = i ∧ call.position = j ∧ call.handler = handler ∧ call.event = event
  again : ∀ n, ∀ call ∈ (bus n).calls, call.raised = true → ¬Acknowledged (bus n) call.index →
    ∃ m, ∃ later ∈ (bus m).calls.drop (bus n).calls.length, later.index = call.index
  succeeded : ∀ n i message, (bus n).stream[i]? = some message → Acknowledged (bus n) i →
    ∃ event handlers, c.read message = .ok (event, handlers) ∧ ∀ j handler, handlers[j]? = some handler →
      ∃ call ∈ (bus n).calls, call.index = i ∧ call.position = j ∧ call.handler = handler ∧ call.event = event ∧
        call.raised = false

/-- No message that has handlers stands behind one that cannot be read. -/
def InFront (c : Consumer η) (messages : List (Message × ℕ)) : Prop :=
  messages.Pairwise fun x y => (c.read x.1).isOk = false →
    ∀ event handlers, c.read y.1 = .ok (event, handlers) → handlers = []

/-- No handler of a message raises when it is first called with it. -/
def Succeeds (c : Consumer η) (x : Message × ℕ) : Prop :=
  ∀ event handlers, c.read x.1 = .ok (event, handlers) → ∀ j < handlers.length, c.raises x.2 j 0 = false

lemma mem_callsOf {x : Message × ℕ} {call : Call η} {event : Event} {handlers : List η}
    (hread : c.read x.1 = .ok (event, handlers)) : call ∈ c.callsOf x ↔ ∃ j handler, handlers[j]? = some handler ∧
      call = { index := x.2, position := j, handler, event, raised := c.raises x.2 j 0 } := by
  have hcalls : c.callsOf x = c.firstCalls x.2 event handlers 0 := by simp [callsOf, hread]
  rw [hcalls, firstCalls, List.mem_map]
  constructor
  · rintro ⟨y, hy, rfl⟩
    exact ⟨y.2, y.1, List.mem_zipIdx_iff_getElem?.1 hy, rfl⟩
  · rintro ⟨j, handler, hget, rfl⟩
    exact ⟨(handler, j), List.mem_zipIdx_iff_getElem?.2 hget, rfl⟩

lemma exists_read_of_mem_handed {x : Message × ℕ} {messages : List (Message × ℕ)} (h : x ∈ c.handed messages) :
    ∃ event handlers, c.read x.1 = .ok (event, handlers) := by
  have hok := List.mem_takeWhile_imp h
  cases hread : c.read x.1 with
  | error e =>
    rw [hread] at hok
    cases hok
  | ok p => exact ⟨p.1, p.2, rfl⟩

/-- What stands in front is handed out. -/
lemma inFront_iff {messages : List (Message × ℕ)} (hnodup : (messages.map Prod.snd).Nodup) : c.InFront messages ↔
    ∀ x ∈ messages, ∀ event handlers, c.read x.1 = .ok (event, handlers) → handlers ≠ [] → x ∈ c.handed messages := by
  induction messages with
  | nil => simp [InFront]
  | cons y rest ih =>
    rw [List.map_cons, List.nodup_cons] at hnodup
    unfold InFront at ih ⊢
    rw [List.pairwise_cons, ih hnodup.2]
    cases hread : c.read y.1 with
    | error e =>
      rw [handed_of_error hread]
      constructor
      · rintro ⟨hbehind, -⟩ x hx event handlers hok hne
        rcases List.mem_cons.1 hx with rfl | hx
        · rw [hread] at hok
          cases hok
        · exact absurd (hbehind x hx rfl event handlers hok) hne
      · intro h
        have hnone : ∀ x ∈ rest, ∀ event handlers, c.read x.1 = .ok (event, handlers) → handlers = [] := by
          intro x hx event handlers hok
          by_contra hne
          exact absurd (h x (List.mem_cons_of_mem _ hx) event handlers hok hne) List.not_mem_nil
        exact ⟨fun x hx _ => hnone x hx, fun x hx event handlers hok hne => absurd (hnone x hx event handlers hok) hne⟩
    | ok p =>
      rw [handed_of_ok hread]
      constructor
      · rintro ⟨-, h⟩ x hx event handlers hok hne
        rcases List.mem_cons.1 hx with rfl | hx
        · exact List.mem_cons_self
        · exact List.mem_cons_of_mem _ (h x hx event handlers hok hne)
      · intro h
        refine ⟨fun x _ hno => (nomatch hno), fun x hx event handlers hok hne => ?_⟩
        rcases List.mem_cons.1 (h x (List.mem_cons_of_mem _ hx) event handlers hok hne) with rfl | hmem
        · exact absurd (List.mem_map_of_mem hx) hnodup.1
        · exact hmem

/-- All calls for a message are made in the turn that reads it. -/
lemma called_in_turn {x : Message × ℕ} {call : Call η} (hx : x ∈ c.batch arrivals n)
    (hcall : call ∈ (c.run arrivals m).calls) (hindex : call.index = x.2) :
    n < m ∧ x ∈ c.handed (c.batch arrivals n) ∧ call ∈ c.callsOf x := by
  obtain ⟨k, hk, y, hy, hcall⟩ := mem_calls.1 hcall
  obtain ⟨rfl, rfl⟩ := batch_unique (mem_of_mem_handed hy) hx ((index_of_mem_callsOf hcall).symm.trans hindex)
  exact ⟨hk, hy, hcall⟩

/-- An acknowledged message was handed out, and none of its handlers raised. -/
lemma exists_of_acknowledged (h : Acknowledged (c.run arrivals n) i) : ∃ k < n, ∃ x ∈ c.handed (c.batch arrivals k),
    x.2 = i ∧ ∀ call ∈ c.callsOf x, call.raised = false := by
  obtain ⟨hlt, hpending⟩ := h
  rw [mem_pending] at hpending
  have hacked : ∃ k < n, i ∈ c.acknowledged (c.batch arrivals k) := by
    by_contra hnone
    exact hpending ⟨hlt, fun k hk hmem => hnone ⟨k, hk, hmem⟩⟩
  obtain ⟨k, hk, hmem⟩ := hacked
  obtain ⟨x, hx, rfl⟩ := List.mem_map.1 hmem
  obtain ⟨hhanded, hquiet⟩ := List.mem_filter.1 hx
  refine ⟨k, hk, x, hhanded, rfl, fun call hcall => ?_⟩
  simp only [Bool.not_eq_true', List.any_eq_false] at hquiet
  exact Bool.not_eq_true _ ▸ hquiet call hcall

/-- **Only what all handlers have handled is acknowledged**, in every run. -/
theorem succeeded_of_acknowledged {message : Message} (hget : (c.run arrivals n).stream[i]? = some message)
    (h : Acknowledged (c.run arrivals n) i) :
    ∃ event handlers, c.read message = .ok (event, handlers) ∧ ∀ j handler, handlers[j]? = some handler →
      ∃ call ∈ (c.run arrivals n).calls, call.index = i ∧ call.position = j ∧ call.handler = handler ∧
        call.event = event ∧ call.raised = false := by
  obtain ⟨k, hk, x, hx, rfl, hquiet⟩ := exists_of_acknowledged h
  obtain ⟨event, handlers, hread⟩ := exists_read_of_mem_handed hx
  have hmessage : x.1 = message := by
    have hearly := getElem?_stream (m := n) hk (mem_batch.1 (mem_of_mem_handed hx)).2.2
    exact Option.some.inj (hearly.symm.trans hget)
  refine ⟨event, handlers, hmessage ▸ hread, fun j handler hj => ?_⟩
  have hcall := (mem_callsOf hread).2 ⟨j, handler, hj, rfl⟩
  exact ⟨_, mem_calls.2 ⟨k, hk, x, hx, hcall⟩, rfl, rfl, rfl, rfl, hquiet _ hcall⟩

/-- Later turns call handlers with messages that they read themselves. -/
lemma exists_calls_append (hnm : n ≤ m) : ∃ later, (c.run arrivals m).calls = (c.run arrivals n).calls ++ later ∧
    ∀ call ∈ later, (c.run arrivals n).delivered ≤ call.index := by
  induction m, hnm using Nat.le_induction with
  | base => exact ⟨[], (List.append_nil _).symm, fun call hcall => nomatch hcall⟩
  | succ m hnm ih =>
    obtain ⟨later, hcalls, hle⟩ := ih
    refine ⟨later ++ (c.handed (c.batch arrivals m)).flatMap c.callsOf, ?_, fun call hcall => ?_⟩
    · rw [run_succ, ← List.append_assoc, ← hcalls]
    · rcases List.mem_append.1 hcall with hcall | hcall
      · exact hle call hcall
      · obtain ⟨x, hx, hcall⟩ := List.mem_flatMap.1 hcall
        rw [index_of_mem_callsOf hcall]
        exact (delivered_mono hnm).trans (mem_batch.1 (mem_of_mem_handed hx)).1

lemma delivered_le_of_mem_drop {call : Call η}
    (h : call ∈ (c.run arrivals m).calls.drop (c.run arrivals n).calls.length) :
    (c.run arrivals n).delivered ≤ call.index := by
  rcases Nat.le_total n m with hnm | hmn
  · obtain ⟨later, hcalls, hle⟩ := exists_calls_append hnm
    rw [hcalls, List.drop_left] at h
    exact hle call h
  · obtain ⟨later, hcalls, -⟩ := exists_calls_append hmn
    rw [hcalls, List.drop_eq_nil_of_le (by simp)] at h
    cases h

lemma nodup_batch (c : Consumer η) (arrivals : ℕ → List Message) (n : ℕ) : ((c.batch arrivals n).map Prod.snd).Nodup := by
  rw [batch, Bus.map_newMessages]
  exact List.nodup_range'

/-- A message with a handler that raised is not acknowledged. -/
lemma not_acknowledged_of_raised {x : Message × ℕ} {call : Call η} (hx : x ∈ c.batch arrivals n)
    (hcall : call ∈ c.callsOf x) (hraised : call.raised = true) : ¬Acknowledged (c.run arrivals m) x.2 := by
  intro hacked
  obtain ⟨k, -, y, hy, hsame, hquiet⟩ := exists_of_acknowledged hacked
  obtain ⟨rfl, rfl⟩ := batch_unique (mem_of_mem_handed hy) hx hsame
  exact absurd (hraised.symm.trans (hquiet _ hcall)) Bool.noConfusion

/-- A message that has been read is not handed out again. -/
lemma not_again {x : Message × ℕ} (hx : x ∈ c.batch arrivals n) (hnm : n < m) {k : ℕ} {later : Call η}
    (hlater : later ∈ (c.run arrivals k).calls.drop (c.run arrivals m).calls.length) : later.index ≠ x.2 := by
  intro hagain
  have hread : (c.run arrivals (n + 1)).delivered ≤ (c.run arrivals m).delivered := delivered_mono hnm
  have hlt := (mem_batch.1 hx).2.1
  have hle := delivered_le_of_mem_drop hlater
  omega

/-- A handler whose message is to be handed out at least once is called in the turn that reads it. -/
lemma AtLeastOnce.called (h : AtLeastOnce c (c.run arrivals)) {x : Message × ℕ} (hx : x ∈ c.batch arrivals n)
    {event : Event} {handlers : List η} (hread : c.read x.1 = .ok (event, handlers)) {j : ℕ} (hj : j < handlers.length) :
    x ∈ c.handed (c.batch arrivals n) ∧ ∃ m > n, ∃ call ∈ (c.run arrivals m).calls,
      call.index = x.2 ∧ call ∈ c.callsOf x ∧ call.raised = c.raises x.2 j 0 := by
  obtain ⟨m, call, hcall, hindex, hposition, -⟩ := h.handedOut (n + 1) x.2 x.1 event handlers (mem_batch.1 hx).2.2 hread j
    handlers[j] (List.getElem?_eq_getElem hj)
  obtain ⟨hnm, hhanded, hmem⟩ := called_in_turn hx hcall hindex
  obtain ⟨j', handler, -, rfl⟩ := (mem_callsOf hread).1 hmem
  obtain rfl : j' = j := hposition
  exact ⟨hhanded, m, hnm, _, hcall, hindex, hmem, rfl⟩

/-- If what raised is handed out again, nothing raises. -/
lemma AtLeastOnce.succeeds (h : AtLeastOnce c (c.run arrivals)) {x : Message × ℕ} (hx : x ∈ c.batch arrivals n) :
    c.Succeeds x := by
  intro event handlers hread j hj
  obtain ⟨-, m, hnm, call, hcall, hindex, hmem, hraises⟩ := h.called hx hread hj
  by_contra hnot
  have hraised : call.raised = true := hraises.trans (Bool.not_eq_false _ ▸ hnot)
  have hopen : ¬Acknowledged (c.run arrivals m) call.index := hindex ▸ not_acknowledged_of_raised hx hmem hraised
  obtain ⟨k, later, hlater, hagain⟩ := h.again m call hcall hraised hopen
  exact not_again hx hnm hlater (hagain.trans hindex)

variable (c arrivals)

/-- **Every message is handled at least once, exactly if** no message that has handlers stands behind an unreadable one
in its batch, and no handler raises. -/
theorem atLeastOnce_iff : AtLeastOnce c (c.run arrivals) ↔
    ∀ n, c.InFront (c.batch arrivals n) ∧ ∀ x ∈ c.batch arrivals n, c.Succeeds x := by
  constructor
  · intro h n
    refine ⟨(inFront_iff (nodup_batch c arrivals n)).2 fun x hx event handlers hread hne => ?_, fun x hx => h.succeeds hx⟩
    exact (h.called hx hread (List.length_pos_iff.2 hne)).1
  · intro h
    refine ⟨?_, ?_, fun n i message hget hacked => succeeded_of_acknowledged hget hacked⟩
    · intro n i message event handlers hget hread j handler hj
      obtain ⟨k, hx⟩ := mem_batch_of_stream hget
      have hne : handlers ≠ [] := by
        rintro rfl
        cases hj
      have hhanded := (inFront_iff (nodup_batch c arrivals k)).1 (h k).1 _ hx event handlers hread hne
      have hcall := (mem_callsOf (x := (message, i)) hread).2 ⟨j, handler, hj, rfl⟩
      exact ⟨k + 1, _, mem_calls.2 ⟨k, Nat.lt_succ_self k, _, hhanded, hcall⟩, rfl, rfl, rfl, rfl⟩
    · intro n call hcall hraised
      obtain ⟨k, -, x, hx, hmem⟩ := mem_calls.1 hcall
      obtain ⟨event, handlers, hread⟩ := exists_read_of_mem_handed hx
      obtain ⟨j, handler, hj, rfl⟩ := (mem_callsOf hread).1 hmem
      have hquiet := (h k).2 x (mem_of_mem_handed hx) event handlers hread j (List.getElem?_eq_some_iff.1 hj).1
      exact absurd (hraised.symm.trans hquiet) Bool.noConfusion

namespace Sample

def greeting : String := "\x7b\"event_type\": \"greeting\", \"id\": \"1\", \"timestamp\": \"0\"\x7d"

/-- Somebody waits for greetings; `raises` says whether the first greeting is too much. -/
def greeter (raises : Bool) : Consumer Unit where
  handlers eventType := if eventType = "greeting" then [()] else []
  loads text :=
    if text = greeting then .ok (.dict [("event_type", .str "greeting"), ("id", .str "1"), ("timestamp", .str "0")])
    else .error .valueError
  raises _ _ attempts := raises && attempts == 0

/-- Messages that are there before the first turn, and none after it. -/
def onceThere (messages : List Message) : ℕ → List Message
  | 0 => messages
  | _ + 1 => []

/-- A greeting behind a message without an event. -/
def behind : ℕ → List Message := onceThere [[], [("event", greeting)]]

/-- A greeting. -/
def alone : ℕ → List Message := onceThere [[("event", greeting)]]

end Sample

open Sample in
/-- A greeting behind a message that cannot be read is never handed out, and one whose handler raised is not handed out
again. -/
theorem not_atLeastOnce : ¬AtLeastOnce (greeter false) ((greeter false).run behind) ∧
    ¬AtLeastOnce (greeter true) ((greeter true).run alone) := by
  constructor
  · intro h
    have hbatch : ([("event", greeting)], 1) ∈ (greeter false).batch behind 0 := List.mem_cons_of_mem _ List.mem_cons_self
    obtain ⟨m, call, hcall, hindex, -⟩ := h.handedOut 1 1 [("event", greeting)] _ [()] rfl rfl 0 () rfl
    cases (called_in_turn hbatch hcall hindex).2.1
  · intro h
    have hopen : ¬Acknowledged ((greeter true).run alone 1) 0 := fun hacked => hacked.2 List.mem_cons_self
    obtain ⟨m, later, hlater, hindex⟩ := h.again 1 _ List.mem_cons_self rfl hopen
    have hle : 1 ≤ later.index := delivered_le_of_mem_drop hlater
    rw [hindex] at hle
    cases hle

end Consumer

end FastapiTemplate.Events
