import FastapiTemplate.Effects.Calls
import Mathlib.Data.Finset.Union
import Mathlib.Data.List.AList

/-!
# Connections of websockets

`ConnectionManager` of `websocket.manager`. Any number of coroutines run interleaved: each waits to accept a socket, for
the lock, or for a message to be sent, and in between nothing else runs. The messages are sent outside of the lock, to
the sockets that were registered before, and what could not be sent to is removed from a registry that others have
changed since.

What is registered in the end is told by what has run (`registry_invariant`).
-/

namespace FastapiTemplate.Websocket

open Effects

/-- `active_connections` -/
abbrev Connections (User Socket : Type) := AList fun _ : User => Finset Socket

/-- An exception of the registry. -/
structure KeyError (User : Type) where
  key : User

variable {User Socket : Type} [DecidableEq User]

/-! ### The dictionary -/

/-- `connections[user_id]` -/
def getItem (connections : Connections User Socket) (userId : User) : Except (KeyError User) (Finset Socket) :=
  match connections.lookup userId with
  | some sockets => .ok sockets
  | none => .error { key := userId }

/-- `del connections[user_id]` -/
def delItem (connections : Connections User Socket) (userId : User) :
    Except (KeyError User) (Connections User Socket) :=
  if userId ∈ connections then .ok (connections.erase userId) else .error { key := userId }

/-- The sockets that are registered under a user. -/
def socketsOf (connections : Connections User Socket) (userId : User) : Finset Socket :=
  (connections.lookup userId).getD ∅

def NoneEmpty (connections : Connections User Socket) : Prop :=
  ∀ userId sockets, connections.lookup userId = some sockets → sockets ≠ ∅

section Dictionary

variable {connections : Connections User Socket} {userId : User}

lemma noneEmpty_insert (h : NoneEmpty connections) {sockets : Finset Socket} (hsockets : sockets ≠ ∅) :
    NoneEmpty (connections.insert userId sockets) := by
  intro other found hfound
  by_cases hother : other = userId
  · rw [hother, AList.lookup_insert] at hfound
    exact Option.some.inj hfound ▸ hsockets
  · rw [AList.lookup_insert_ne hother] at hfound
    exact h other found hfound

lemma noneEmpty_erase_insert (h : NoneEmpty connections) (sockets : Finset Socket) :
    NoneEmpty ((connections.insert userId sockets).erase userId) := by
  intro other found hfound
  by_cases hother : other = userId
  · rw [hother, AList.lookup_erase] at hfound
    cases hfound
  · rw [AList.lookup_erase_ne hother, AList.lookup_insert_ne hother] at hfound
    exact h other found hfound

lemma socketsOf_insert (sockets : Finset Socket) (other : User) :
    socketsOf (connections.insert userId sockets) other
      = if other = userId then sockets else socketsOf connections other := by
  unfold socketsOf
  by_cases hother : other = userId
  · rw [if_pos hother, hother, AList.lookup_insert, Option.getD_some]
  · rw [if_neg hother, AList.lookup_insert_ne hother]

lemma socketsOf_erase_insert (sockets : Finset Socket) (other : User) :
    socketsOf ((connections.insert userId sockets).erase userId) other
      = if other = userId then ∅ else socketsOf connections other := by
  unfold socketsOf
  by_cases hother : other = userId
  · rw [if_pos hother, hother, AList.lookup_erase, Option.getD_none]
  · rw [if_neg hother, AList.lookup_erase_ne hother, AList.lookup_insert_ne hother]

end Dictionary

variable [DecidableEq Socket]

/-! ### The sections under the lock -/

/-- The section of `connect`. -/
def add (websocket : Socket) (userId : User) (connections : Connections User Socket) : Connections User Socket :=
  connections.insert userId (insert websocket ((connections.lookup userId).getD ∅))

/-- The section of `disconnect`. -/
def discard (websocket : Socket) (userId : User) (connections : Connections User Socket) :
    Except (KeyError User) (Connections User Socket) :=
  if userId ∈ connections then do
    let sockets ← getItem connections userId
    let changed := connections.insert userId (sockets.erase websocket)
    if (← getItem changed userId) = ∅ then delItem changed userId else return changed
  else return connections

/-- The second section of `send_personal_message`. -/
def cleanUp (userId : User) (dead : List Socket) (connections : Connections User Socket) :
    Except (KeyError User) (Connections User Socket) :=
  match connections.lookup userId with
  | none => return connections
  | some sockets =>
    if sockets = ∅ then return connections
    else
      let left := dead.foldl Finset.erase sockets
      let changed := connections.insert userId left
      if left = ∅ then delItem changed userId else return changed

/-- The second section of `broadcast`. -/
def cleanUpAll : List (User × Socket) → Connections User Socket → Except (KeyError User) (Connections User Socket)
  | [], connections => return connections
  | (userId, websocket) :: dead, connections => do
    let changed ← cleanUp userId [websocket] connections
    cleanUpAll dead changed

/-- The first section of `broadcast`: all sockets with their users. -/
def items (connections : Connections User Socket) : Finset (User × Socket) :=
  connections.keys.toFinset.biUnion fun userId => ((connections.lookup userId).getD ∅).image (Prod.mk userId)

/-! ### The coroutines -/

inductive Operation (User Socket : Type) where
  | connect (websocket : Socket) (userId : User)
  | disconnect (websocket : Socket) (userId : User)
  | sendPersonalMessage (message : String) (userId : User)
  | broadcast (message : String)

/-- What a coroutine waits for: to accept a socket, for the lock, or for messages to be sent. -/
inductive Task (User Socket : Type) where
  | accepting (websocket : Socket) (userId : User)
  | adding (websocket : Socket) (userId : User)
  | discarding (websocket : Socket) (userId : User)
  | reading (message : String) (userId : User)
  | sending (message : String) (userId : User) (left : Finset Socket) (dead : List Socket)
  | cleaning (userId : User) (dead : List Socket)
  | readingAll (message : String)
  | sendingAll (message : String) (left : Finset (User × Socket)) (dead : List (User × Socket))
  | cleaningAll (dead : List (User × Socket))

def Operation.task : Operation User Socket → Task User Socket
  | connect websocket userId => .accepting websocket userId
  | disconnect websocket userId => .discarding websocket userId
  | sendPersonalMessage message userId => .reading message userId
  | broadcast message => .readingAll message

/-- What has run. -/
inductive Event (User Socket : Type) where
  | connected (userId : User) (websocket : Socket)
  | disconnected (userId : User) (websocket : Socket)
  | sent (userId : User) (websocket : Socket) (message : String) (succeeds : Bool)
  | cleanedUp (userId : User) (websocket : Socket)
  deriving DecidableEq

/-- What a section makes of the registry, and what the coroutine waits for next. -/
structure Section (User Socket : Type) where
  connections : Connections User Socket
  events : List (Event User Socket)
  next : Option (Task User Socket)

/-- The loop of `send_personal_message`, and what comes after it. -/
def sendPersonal (message : String) (userId : User) (left : Finset Socket) (dead : List Socket) :
    Option (Task User Socket) :=
  if left = ∅ then (if dead = [] then none else some (.cleaning userId dead))
  else some (.sending message userId left dead)

/-- The `gather` of `broadcast`, and what comes after it. -/
def sendAll (message : String) (left : Finset (User × Socket)) (dead : List (User × Socket)) :
    Option (Task User Socket) :=
  if left = ∅ then (if dead = [] then none else some (.cleaningAll dead)) else some (.sendingAll message left dead)

/-- The section that a coroutine waits for the lock for. -/
def Task.section? (connections : Connections User Socket) :
    Task User Socket → Option (Except (KeyError User) (Section User Socket))
  | adding websocket userId =>
    some (.ok { connections := add websocket userId connections, events := [.connected userId websocket], next := none })
  | discarding websocket userId => some do
    let changed ← discard websocket userId connections
    return { connections := changed, events := [.disconnected userId websocket], next := none }
  | reading message userId =>
    some (.ok {
      connections := connections
      events := []
      next := sendPersonal message userId ((connections.lookup userId).getD ∅) [] })
  | cleaning userId dead => some do
    let changed ← cleanUp userId dead connections
    return { connections := changed, events := dead.map (.cleanedUp userId), next := none }
  | readingAll message =>
    some (.ok { connections := connections, events := [], next := sendAll message (items connections) [] })
  | cleaningAll dead => some do
    let changed ← cleanUpAll dead connections
    return { connections := changed, events := dead.map fun entry => .cleanedUp entry.1 entry.2, next := none }
  | accepting _ _ | sending _ _ _ _ | sendingAll _ _ _ => none

/-- The registry, who holds the lock, the coroutines that have not returned, the user that a socket was accepted for,
and what has run, the latest first. -/
structure State (User Socket : Type) where
  connections : Connections User Socket := ∅
  lock : Option ℕ := none
  tasks : ℕ → Option (Task User Socket) := fun _ => none
  acceptedFor : Socket → Option User := fun _ => none
  log : List (Event User Socket) := []
  raised : Bool := false

inductive Move (User Socket : Type) where
  | start (task : ℕ) (operation : Operation User Socket)
  | accept (task : ℕ) (succeeds : Bool)
  | acquire (task : ℕ)
  | run (task : ℕ)
  | send (task : ℕ) (userId : User) (websocket : Socket) (succeeds : Bool)

def State.goOn (s : State User Socket) (task : ℕ) (next : Option (Task User Socket)) : State User Socket :=
  { s with tasks := Function.update s.tasks task next }

/-- `accept`, which a socket allows once; otherwise it raises, and the coroutine with it. -/
def State.accept (s : State User Socket) (task : ℕ) (succeeds : Bool) : State User Socket :=
  match s.tasks task with
  | some (.accepting websocket userId) =>
    if succeeds && (s.acceptedFor websocket).isNone then
      { s.goOn task (some (.adding websocket userId)) with
        acceptedFor := Function.update s.acceptedFor websocket (some userId) }
    else s.goOn task none
  | _ => s

/-- The lock is given to a coroutine that waits for it. -/
def State.acquire (s : State User Socket) (task : ℕ) : State User Socket :=
  match s.lock, (s.tasks task).bind (Task.section? s.connections) with
  | none, some _ => { s with lock := some task }
  | _, _ => s

/-- The holder of the lock runs its section and releases the lock. -/
def State.run (s : State User Socket) (task : ℕ) : State User Socket :=
  if s.lock = some task then
    match (s.tasks task).bind (Task.section? s.connections) with
    | some (.ok done) =>
      { s.goOn task done.next with connections := done.connections, lock := none, log := done.events ++ s.log }
    | some (.error _) => { s.goOn task none with lock := none, raised := true }
    | none => s
  else s

/-- A message is sent, or an exception is caught. -/
def State.send (s : State User Socket) (task : ℕ) (userId : User) (websocket : Socket) (succeeds : Bool) :
    State User Socket :=
  match s.tasks task with
  | some (.sending message user left dead) =>
    if user = userId ∧ websocket ∈ left then
      { s.goOn task (sendPersonal message user (left.erase websocket) (if succeeds then dead else dead ++ [websocket]))
        with log := .sent userId websocket message succeeds :: s.log }
    else s
  | some (.sendingAll message left dead) =>
    if (userId, websocket) ∈ left then
      { s.goOn task (sendAll message (left.erase (userId, websocket))
          (if succeeds then dead else dead ++ [(userId, websocket)]))
        with log := .sent userId websocket message succeeds :: s.log }
    else s
  | _ => s

def Move.step (move : Move User Socket) (s : State User Socket) : State User Socket :=
  match move with
  | start task operation => if (s.tasks task).isNone then s.goOn task (some operation.task) else s
  | accept task succeeds => s.accept task succeeds
  | acquire task => s.acquire task
  | run task => s.run task
  | send task userId websocket succeeds => s.send task userId websocket succeeds

/-! ### What the sections do to the registry -/

/-- A section returns, and leaves exactly the sockets that are not to go. -/
def Leaves (connections : Connections User Socket) (gone : User → Socket → Prop)
    (result : Except (KeyError User) (Connections User Socket)) : Prop :=
  ∃ changed, result = .ok changed ∧ NoneEmpty changed ∧
    ∀ userId websocket, websocket ∈ socketsOf changed userId ↔
      websocket ∈ socketsOf connections userId ∧ ¬gone userId websocket

variable {connections : Connections User Socket} {userId : User}

/-- A user's sockets are replaced; a user without any is removed. -/
lemma leaves_replace (h : NoneEmpty connections) (left : Finset Socket) {gone : Socket → Prop}
    (hleft : ∀ websocket, websocket ∈ left ↔ websocket ∈ socketsOf connections userId ∧ ¬gone websocket) :
    Leaves connections (fun other websocket => other = userId ∧ gone websocket)
      (if left = ∅ then delItem (connections.insert userId left) userId
        else .ok (connections.insert userId left)) := by
  by_cases hempty : left = ∅
  · rw [if_pos hempty, delItem, if_pos ((AList.mem_insert _).2 (.inl rfl))]
    refine ⟨_, rfl, noneEmpty_erase_insert h left, fun other websocket => ?_⟩
    rw [socketsOf_erase_insert, ← hempty]
    by_cases hother : other = userId
    · rw [if_pos hother, hleft, hother]
      simp
    · simp [hother]
  · rw [if_neg hempty]
    refine ⟨_, rfl, noneEmpty_insert h hempty, fun other websocket => ?_⟩
    rw [socketsOf_insert]
    by_cases hother : other = userId
    · rw [if_pos hother, hleft, hother]
      simp
    · simp [hother]

lemma noneEmpty_add (h : NoneEmpty connections) (websocket : Socket) : NoneEmpty (add websocket userId connections) :=
  noneEmpty_insert h (Finset.insert_ne_empty _ _)

lemma mem_add {websocket other : Socket} {user : User} :
    other ∈ socketsOf (add websocket userId connections) user
      ↔ user = userId ∧ other = websocket ∨ other ∈ socketsOf connections user := by
  unfold add
  rw [socketsOf_insert]
  by_cases huser : user = userId
  · rw [if_pos huser, huser, Finset.mem_insert]
    simp [socketsOf]
  · simp [huser]

theorem leaves_discard (h : NoneEmpty connections) (userId : User) (websocket : Socket) :
    Leaves connections (fun other socket => other = userId ∧ socket = websocket)
      (discard websocket userId connections) := by
  unfold discard
  by_cases hmem : userId ∈ connections
  · obtain ⟨sockets, hsockets⟩ := Option.isSome_iff_exists.1 (AList.lookup_isSome.2 hmem)
    have hget : getItem connections userId = .ok sockets := by simp [getItem, hsockets]
    have hchanged : getItem (connections.insert userId (sockets.erase websocket)) userId
        = .ok (sockets.erase websocket) := by simp [getItem]
    rw [if_pos hmem, hget]
    show Leaves _ _ (do
      let left ← getItem (connections.insert userId (sockets.erase websocket)) userId
      if left = ∅ then delItem (connections.insert userId (sockets.erase websocket)) userId
        else return connections.insert userId (sockets.erase websocket))
    rw [hchanged]
    refine leaves_replace h (sockets.erase websocket) fun other => ?_
    simp [socketsOf, hsockets, and_comm]
  · rw [if_neg hmem]
    refine ⟨connections, rfl, h, fun user other => ⟨fun hother => ⟨hother, ?_⟩, fun hother => hother.1⟩⟩
    rintro ⟨rfl, rfl⟩
    rw [socketsOf, AList.lookup_eq_none.2 hmem] at hother
    cases hother

lemma mem_foldl_erase {dead : List Socket} {sockets : Finset Socket} {websocket : Socket} :
    websocket ∈ dead.foldl Finset.erase sockets ↔ websocket ∈ sockets ∧ websocket ∉ dead := by
  induction dead generalizing sockets with
  | nil => simp
  | cons first dead ih =>
    rw [List.foldl_cons, ih, Finset.mem_erase, List.mem_cons]
    tauto

theorem leaves_cleanUp (h : NoneEmpty connections) (userId : User) (dead : List Socket) :
    Leaves connections (fun other websocket => other = userId ∧ websocket ∈ dead) (cleanUp userId dead connections) := by
  unfold cleanUp
  cases hlookup : connections.lookup userId with
  | none =>
    refine ⟨connections, rfl, h, fun user other => ⟨fun hother => ⟨hother, ?_⟩, fun hother => hother.1⟩⟩
    rintro ⟨rfl, _⟩
    rw [socketsOf, hlookup] at hother
    cases hother
  | some sockets =>
    dsimp only
    rw [if_neg (h userId sockets hlookup)]
    refine leaves_replace h (dead.foldl Finset.erase sockets) fun other => ?_
    rw [mem_foldl_erase, socketsOf, hlookup, Option.getD_some]

theorem leaves_cleanUpAll (h : NoneEmpty connections) (dead : List (User × Socket)) :
    Leaves connections (fun userId websocket => (userId, websocket) ∈ dead) (cleanUpAll dead connections) := by
  induction dead generalizing connections with
  | nil => exact ⟨connections, rfl, h, by simp⟩
  | cons entry dead ih =>
    obtain ⟨changed, hchanged, hnone, hmem⟩ := leaves_cleanUp h entry.1 [entry.2]
    obtain ⟨final, hfinal, hnone', hmem'⟩ := ih hnone
    refine ⟨final, ?_, hnone', fun userId websocket => ?_⟩
    · show (cleanUp entry.1 [entry.2] connections >>= cleanUpAll dead) = _
      rw [hchanged]
      exact hfinal
    · rw [hmem', hmem]
      simp only [List.mem_cons, Prod.ext_iff, List.not_mem_nil, or_false]
      tauto

/-! ### What has run -/

/-- A socket was connected for a user, and neither a disconnection nor a clean-up of it has run since. -/
def ConnectedSince (log : List (Event User Socket)) (userId : User) (websocket : Socket) : Prop :=
  ∃ since before, log = since ++ .connected userId websocket :: before ∧
    .disconnected userId websocket ∉ since ∧ .cleanedUp userId websocket ∉ since

variable {log : List (Event User Socket)} {websocket : Socket}

omit [DecidableEq User] [DecidableEq Socket] in
lemma connectedSince_cons (event : Event User Socket) :
    ConnectedSince (event :: log) userId websocket ↔ event = .connected userId websocket ∨
      event ≠ .disconnected userId websocket ∧ event ≠ .cleanedUp userId websocket ∧
        ConnectedSince log userId websocket := by
  constructor
  · rintro ⟨since, before, hlog, hdisconnected, hcleaned⟩
    cases since with
    | nil => exact .inl (List.cons.inj hlog).1
    | cons last since =>
      obtain ⟨rfl, hrest⟩ := List.cons.inj hlog
      rw [List.mem_cons, not_or] at hdisconnected hcleaned
      exact .inr ⟨Ne.symm hdisconnected.1, Ne.symm hcleaned.1, since, before, hrest, hdisconnected.2, hcleaned.2⟩
  · rintro (rfl | ⟨hdisconnected, hcleaned, since, before, rfl, hdisconnected', hcleaned'⟩)
    · exact ⟨[], log, rfl, by simp, by simp⟩
    · exact ⟨event :: since, before, rfl, by simp [Ne.symm hdisconnected, hdisconnected'],
        by simp [Ne.symm hcleaned, hcleaned']⟩

omit [DecidableEq User] [DecidableEq Socket] in
/-- After clean-ups of sockets. -/
lemma connectedSince_cleanedUp (dead : List (User × Socket)) :
    ConnectedSince ((dead.map fun entry => .cleanedUp entry.1 entry.2) ++ log) userId websocket
      ↔ ConnectedSince log userId websocket ∧ (userId, websocket) ∉ dead := by
  induction dead with
  | nil => simp
  | cons entry dead ih =>
    rw [List.map_cons, List.cons_append, connectedSince_cons, ih, List.mem_cons, Prod.ext_iff]
    simp only [reduceCtorEq, ne_eq, not_false_eq_true, false_or, true_and, Event.cleanedUp.injEq]
    tauto

/-- The registry holds what the log tells. -/
def Tells (log : List (Event User Socket)) (connections : Connections User Socket) : Prop :=
  ∀ userId websocket, websocket ∈ socketsOf connections userId ↔ ConnectedSince log userId websocket

omit [DecidableEq Socket] in
lemma Tells.remove (h : Tells log connections) {dead : List (User × Socket)} {events : List (Event User Socket)}
    {changed : Connections User Socket}
    (hmem : ∀ userId websocket, websocket ∈ socketsOf changed userId ↔
      websocket ∈ socketsOf connections userId ∧ (userId, websocket) ∉ dead)
    (hevents : ∀ userId websocket, ConnectedSince (events ++ log) userId websocket ↔
      ConnectedSince log userId websocket ∧ (userId, websocket) ∉ dead) : Tells (events ++ log) changed := by
  intro userId websocket
  rw [hmem, hevents, h]

/-- A section that is run: it does not raise, and what it logs is what it does. -/
structure Section.Sound (task : Task User Socket) (log : List (Event User Socket)) (done : Section User Socket) :
    Prop where
  noneEmpty : NoneEmpty done.connections
  tells : Tells (done.events ++ log) done.connections
  connected : ∀ userId websocket, .connected userId websocket ∈ done.events → task = .adding websocket userId
  next : ∀ userId websocket, done.next ≠ some (.adding websocket userId)

omit [DecidableEq User] in
lemma sendPersonal_ne (message : String) (userId : User) (left : Finset Socket) (dead : List Socket) (user : User)
    (websocket : Socket) : sendPersonal message userId left dead ≠ some (.adding websocket user) := by
  unfold sendPersonal
  split
  · split <;> simp
  · simp

lemma sendAll_ne (message : String) (left : Finset (User × Socket)) (dead : List (User × Socket)) (user : User)
    (websocket : Socket) : sendAll message left dead ≠ some (.adding websocket user) := by
  unfold sendAll
  split
  · split <;> simp
  · simp

/-- **No section raises, and each leaves the registry as its events tell.** -/
theorem section_sound (h : NoneEmpty connections) (hlog : Tells log connections) {task : Task User Socket}
    {result : Except (KeyError User) (Section User Socket)} (hsection : task.section? connections = some result) :
    ∃ done, result = .ok done ∧ done.Sound task log := by
  cases task with
  | adding websocket userId =>
    obtain rfl := Option.some.inj hsection
    refine ⟨_, rfl, noneEmpty_add h websocket, fun user other => ?_, by simp, by simp⟩
    rw [mem_add, hlog, List.singleton_append, connectedSince_cons]
    simp [eq_comm]
  | discarding websocket userId =>
    obtain rfl := Option.some.inj hsection
    obtain ⟨changed, hchanged, hnone, hmem⟩ := leaves_discard h userId websocket
    rw [hchanged]
    refine ⟨_, rfl, hnone, fun user other => ?_, by simp, by simp⟩
    rw [hmem, hlog, List.singleton_append, connectedSince_cons]
    simp only [reduceCtorEq, ne_eq, not_false_eq_true, false_or, true_and, Event.disconnected.injEq]
    tauto
  | reading message userId =>
    obtain rfl := Option.some.inj hsection
    exact ⟨_, rfl, h, hlog, by simp, fun user other => sendPersonal_ne _ _ _ _ user other⟩
  | cleaning userId dead =>
    obtain rfl := Option.some.inj hsection
    obtain ⟨changed, hchanged, hnone, hmem⟩ := leaves_cleanUp h userId dead
    rw [hchanged]
    refine ⟨_, rfl, hnone, ?_, by simp, by simp⟩
    have hevents : dead.map (Event.cleanedUp userId)
        = (dead.map (Prod.mk userId)).map fun entry => .cleanedUp entry.1 entry.2 := by simp
    show Tells (dead.map (Event.cleanedUp userId) ++ log) changed
    rw [hevents]
    refine hlog.remove (fun user other => ?_) fun user other => connectedSince_cleanedUp _
    have hdead : (user, other) ∈ dead.map (Prod.mk userId) ↔ user = userId ∧ other ∈ dead := by
      simp only [List.mem_map, Prod.mk.injEq]
      exact ⟨fun ⟨_, hother, huser, heq⟩ => ⟨huser.symm, heq ▸ hother⟩, fun ⟨huser, hother⟩ => ⟨other, hother, huser.symm, rfl⟩⟩
    rw [hmem, hdead]
  | readingAll message =>
    obtain rfl := Option.some.inj hsection
    exact ⟨_, rfl, h, hlog, by simp, fun user other => sendAll_ne _ _ _ user other⟩
  | cleaningAll dead =>
    obtain rfl := Option.some.inj hsection
    obtain ⟨changed, hchanged, hnone, hmem⟩ := leaves_cleanUpAll h dead
    rw [hchanged]
    exact ⟨_, rfl, hnone, hlog.remove hmem fun _ _ => connectedSince_cleanedUp _, by simp, by simp⟩
  | accepting websocket userId => cases hsection
  | sending message userId left dead => cases hsection
  | sendingAll message left dead => cases hsection

/-- What is so at every await. -/
structure Invariant (s : State User Socket) : Prop where
  raised : s.raised = false
  noneEmpty : NoneEmpty s.connections
  tells : Tells s.log s.connections
  accepted : ∀ userId websocket, .connected userId websocket ∈ s.log → s.acceptedFor websocket = some userId
  adding : ∀ task userId websocket, s.tasks task = some (.adding websocket userId) →
    s.acceptedFor websocket = some userId

omit [DecidableEq Socket] in
lemma Invariant.goOn {s : State User Socket} (h : Invariant s) (task : ℕ) {next : Option (Task User Socket)}
    (hnext : ∀ userId websocket, next = some (.adding websocket userId) → s.acceptedFor websocket = some userId) :
    Invariant (s.goOn task next) where
  raised := h.raised
  noneEmpty := h.noneEmpty
  tells := h.tells
  accepted := h.accepted
  adding other userId websocket hother := by
    by_cases hsame : other = task
    · subst hsame
      exact hnext userId websocket (by simpa [State.goOn] using hother)
    · exact h.adding other userId websocket (by simpa [State.goOn, hsame] using hother)

omit [DecidableEq Socket] in
lemma Invariant.sent {s : State User Socket} (h : Invariant s) (task : ℕ) {next : Option (Task User Socket)}
    (hnext : ∀ userId websocket, next ≠ some (.adding websocket userId)) (userId : User) (websocket : Socket)
    (message : String) (succeeds : Bool) :
    Invariant { s.goOn task next with log := .sent userId websocket message succeeds :: s.log } where
  raised := h.raised
  noneEmpty := h.noneEmpty
  tells user other := by
    rw [connectedSince_cons]
    simpa [State.goOn] using h.tells user other
  accepted user other hmem := h.accepted user other (by simpa using hmem)
  adding := (h.goOn task fun user other hadding => absurd hadding (hnext user other)).adding

lemma Invariant.accept {s : State User Socket} (h : Invariant s) (task : ℕ) (succeeds : Bool) :
    Invariant (s.accept task succeeds) := by
  unfold State.accept
  split
  · rename_i websocket userId htask
    split
    · rename_i hfresh
      rw [Bool.and_eq_true, Option.isNone_iff_eq_none] at hfresh
      -- A socket that was accepted before is another one.
      have hkeep : ∀ user other, s.acceptedFor other = some user →
          Function.update s.acceptedFor websocket (some userId) other = some user := by
        intro user other hother
        rw [Function.update_of_ne, hother]
        rintro rfl
        rw [hfresh.2] at hother
        cases hother
      refine ⟨h.raised, h.noneEmpty, h.tells, fun user other hmem => hkeep _ _ (h.accepted user other hmem), ?_⟩
      intro other user socket hother
      by_cases hsame : other = task
      · subst hsame
        simp only [State.goOn, Function.update_self, Option.some.injEq, Task.adding.injEq] at hother
        obtain ⟨rfl, rfl⟩ := hother
        exact Function.update_self ..
      · exact hkeep _ _ (h.adding other user socket (by simpa [State.goOn, hsame] using hother))
    · exact h.goOn task (by simp)
  · exact h

lemma Invariant.run {s : State User Socket} (h : Invariant s) (task : ℕ) : Invariant (s.run task) := by
  unfold State.run
  split
  · cases htask : s.tasks task with
    | none => exact h
    | some waiting =>
      rw [Option.bind_some]
      cases hsection : waiting.section? s.connections with
      | none => exact h
      | some result =>
        obtain ⟨done, rfl, hsound⟩ := section_sound h.noneEmpty h.tells hsection
        refine ⟨h.raised, hsound.noneEmpty, hsound.tells, fun userId websocket hmem => ?_,
          (h.goOn task fun userId websocket hadding => absurd hadding (hsound.next userId websocket)).adding⟩
        rcases List.mem_append.1 hmem with hmem | hmem
        · exact h.adding task userId websocket (htask.trans (congrArg some (hsound.connected userId websocket hmem)))
        · exact h.accepted userId websocket hmem
  · exact h

theorem Invariant.step {s : State User Socket} (h : Invariant s) (move : Move User Socket) : Invariant (move.step s) := by
  cases move with
  | start task operation =>
    show Invariant (if (s.tasks task).isNone then s.goOn task (some operation.task) else s)
    split
    · refine h.goOn task fun userId websocket hadding => ?_
      cases operation <;> cases hadding
    · exact h
  | accept task succeeds => exact h.accept task succeeds
  | acquire task =>
    show Invariant (s.acquire task)
    unfold State.acquire
    split
    · exact ⟨h.raised, h.noneEmpty, h.tells, h.accepted, h.adding⟩
    · exact h
  | run task => exact h.run task
  | send task userId websocket succeeds =>
    show Invariant (s.send task userId websocket succeeds)
    unfold State.send
    split
    · split
      · exact h.sent task (fun user other => sendPersonal_ne _ _ _ _ user other) ..
      · exact h
    · split
      · exact h.sent task (fun user other => sendAll_ne _ _ _ user other) ..
      · exact h
    · exact h

/-- **The registry at every await of every interleaving.** No operation has raised a `KeyError`, no user is mapped to an
empty set, and a socket is registered under exactly the user that it was accepted for, if it was connected and neither a
disconnection nor a clean-up of it has run since. -/
theorem registry_invariant (moves : List (Move User Socket)) :
    (after Move.step {} moves).raised = false ∧
      (∀ userId sockets, (after Move.step {} moves).connections.lookup userId = some sockets → sockets ≠ ∅) ∧
      ∀ userId websocket, websocket ∈ socketsOf (after Move.step {} moves).connections userId ↔
        (after Move.step {} moves).acceptedFor websocket = some userId ∧
          ConnectedSince (after Move.step {} moves).log userId websocket := by
  have hstart : Invariant ({} : State User Socket) := by
    refine ⟨rfl, fun userId sockets h => ?_, fun userId websocket => ?_, by simp, by simp⟩
    · cases h
    · refine iff_of_false (by simp [socketsOf]) ?_
      rintro ⟨since, before, h, _⟩
      cases since <;> cases h
  have hend : Invariant (after Move.step {} moves) := after_keeps (I := Invariant) (fun s move h => h.step move) hstart
  obtain ⟨hraised, hnone, htells, haccepted, _⟩ := hend
  refine ⟨hraised, hnone, fun userId websocket => ?_⟩
  rw [htells]
  refine ⟨fun hsince => ⟨?_, hsince⟩, And.right⟩
  obtain ⟨since, before, hlog, _⟩ := hsince
  exact haccepted userId websocket (hlog ▸ List.mem_append_right _ (.head _))

/-- A socket is disconnected while a message to it is on its way; the clean-up finds its user gone. -/
example : (after Move.step ({} : State ℕ ℕ) [.start 0 (.connect 5 7), .accept 0 true, .acquire 0, .run 0,
    .start 1 (.broadcast "hello"), .acquire 1, .run 1, .start 2 (.disconnect 5 7), .acquire 2, .run 2,
    .send 1 7 5 false, .acquire 1, .run 1]).log
      = [.cleanedUp 7 5, .sent 7 5 "hello" false, .disconnected 7 5, .connected 7 5] := by
  decide

end FastapiTemplate.Websocket
