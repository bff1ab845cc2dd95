import FastapiTemplate.Effects.Calls
import FastapiTemplate.Notifications.Inbox
import FastapiTemplate.Notifications.Restores

/-!
# Notifications that are deleted

A notification is deleted by a mark. Only `CRUDBase.get` leaves marked rows out: the queries for one notification, for the
list, for the number of unread ones and for marking all as read do not look at the mark. `deleted_notifications_gone_iff`
is about every sequence of requests.
-/

namespace FastapiTemplate.Notifications

open Effects Python Store Utils Keyed Identity

variable (other : List UInt8 → Except BuiltinError Value) (userId notificationId : ℤ) (now : Datetime)
  (t : Table Notification)

/-! ### The endpoints -/

/-- `get_for_user` -/
def getForUser : Option Notification := (t.get? notificationId).filter fun r => r.userId == userId

/-- `create_for_user`; the sequence of the ids ends with the type of the column. -/
def createForUser (eventType title : String) (body : Option String) : Except Exn Notification × Table Notification :=
  let notification : Notification :=
    { id := t.next, userId := userId, eventType := eventType, title := title, body := body, isRead := false }
  if t.next < 2 ^ 31 then (.ok notification, t.insert notification) else (.error .integrityError, t)

def Notification.read (r : Notification) : Notification := { r with isRead := true, readAt := some now }

/-- `mark_read` -/
def markRead : Except Exn Notification × Table Notification :=
  match getForUser userId notificationId t with
  | none => (.error (.http 404 "Notification not found"), t)
  | some r => if r.isRead then (.ok r, t) else (.ok (r.read now), t.put (r.read now))

/-- The `UPDATE` of `mark_all_read`. -/
def Notification.readAll (r : Notification) : Notification :=
  if r.userId == userId && !r.isRead then r.read now else r

lemma Notification.key_readAll (r : Notification) : key (r.readAll userId now) = key r := by
  unfold Notification.readAll
  split <;> rfl

/-- `mark_all_read` -/
def markAllRead : ℕ × Table Notification :=
  (countUnread userId t, t.revise (Notification.readAll userId now) (Notification.key_readAll userId now))

/-- `delete_notification` -/
def deleteNotification : Except Exn Unit × Table Notification :=
  match getForUser userId notificationId t with
  | none => (.error (.http 404 "Notification not found"), t)
  | some _ => (.ok (), (CRUDBase.delete (fun _ => true) notificationId t now).2)

/-! ### Sequences of requests -/

/-- A request of a user, or a notification that is created for him. -/
inductive InboxAct where
  | create (userId : ℤ) (eventType title : String) (body : Option String)
  | list (userId : ℤ) (params : CursorParams) (unreadOnly : Bool)
  | read (userId notificationId : ℤ) (now : Datetime)
  | readAll (userId : ℤ) (now : Datetime)
  | delete (userId notificationId : ℤ) (now : Datetime)
  | restore (notificationId : ℤ)

def InboxAct.step (act : InboxAct) (t : Table Notification) : Table Notification :=
  match act with
  | .create user eventType title body => (createForUser user t eventType title body).2
  | .list _ _ _ => t
  | .read user id now => (markRead user id now t).2
  | .readAll user now => (markAllRead user now t).2
  | .delete user id now => (deleteNotification user id now t).2
  | .restore id => (restoreNotification id t).2

/-! ### What is gone -/

/-- The unread notifications of the user that are not deleted. -/
def liveUnread : ℕ := (t.rows.filter fun r => r.userId == userId && !r.isRead && r.deletedAt.isNone).length

/-- Whether it was read, and when. -/
def Notification.readState (r : Notification) : Bool × Option Datetime := (r.isRead, r.readAt)

/-- The request deletes the notification. -/
def Trashes (t : Table Notification) (r : Notification) : InboxAct → Prop
  | .delete user id _ => getForUser user id t = some r ∧ r.deletedAt = none
  | _ => False

/-- The notification had this read state when it was last deleted. -/
def TrashedAs (notificationId : ℤ) (state : Bool × Option Datetime) : List (Table Notification × InboxAct) → Prop
  | [] => False
  | (t, act) :: past =>
    (∃ r, Trashes t r act ∧ r.id = notificationId ∧ r.readState = state) ∨
      (¬∃ r, Trashes t r act ∧ r.id = notificationId) ∧ TrashedAs notificationId state past

/-- **A request to which deleted notifications are gone**: they are not listed, not counted and not found, and what is
restored is as it was when it was deleted. -/
def HidesDeleted (past : List (Table Notification × InboxAct)) (t : Table Notification) : InboxAct → Prop
  | .list user params unreadOnly => ∀ response, listNotifications other user params unreadOnly t = .ok response →
      (∀ r ∈ response.items, r.deletedAt = none) ∧ response.unreadCount = liveUnread user t
  | .read user id now => ∀ r ∈ t.rows, r.id = id → r.deletedAt ≠ none →
      markRead user id now t = (.error (.http 404 "Notification not found"), t)
  | .readAll user now => (markAllRead user now t).1 = liveUnread user t
  | .restore id => ∀ r, CRUDBase.Restorable (fun _ => true) id t r → ∀ state, TrashedAs id state past →
      ∃ r', (restoreNotification id t).2.get? id = some r' ∧ r'.deletedAt = none ∧ r'.readState = state
  | _ => True

/-- The deleted notifications of the user were all read. -/
def AllDeletedRead : Prop := ∀ r ∈ t.rows, r.userId = userId → r.deletedAt ≠ none → r.isRead = true

/-- **The condition.** Before each deleted notification there are enough others to fill the page that is listed, the
notification that is to be marked as read is not deleted, and deleted notifications were read when the unread ones are
counted or marked. -/
def NothingDeleted (t : Table Notification) : InboxAct → Prop
  | .list user params unreadOnly => ∀ cursor, cursorId other params.cursor = .ok cursor →
      (∀ r ∈ inboxRows user unreadOnly t cursor, r.deletedAt ≠ none →
        params.size ≤ ((inboxRows user unreadOnly t cursor).filter fun b => decide (r.id < b.id)).length) ∧
      AllDeletedRead user t
  | .read user id _ => ∀ r ∈ t.rows, r.id = id → r.userId = user → r.deletedAt = none
  | .readAll user _ => AllDeletedRead user t
  | _ => True

/-! ### What deleted notifications keep -/

variable {other userId notificationId now t} {t' : Table Notification} {past : List (Table Notification × InboxAct)}
  {act : InboxAct} {r : Notification} {state : Bool × Option Datetime}

lemma getForUser_eq_some :
    getForUser userId notificationId t = some r ↔ r ∈ t.rows ∧ r.id = notificationId ∧ r.userId = userId := by
  unfold getForUser
  rw [Option.filter_eq_some_iff, Table.get?_eq_some, beq_iff_eq, and_assoc]
  rfl

/-- The ids fit their column, and what is deleted has the read state that it had then. -/
structure Frozen (past : List (Table Notification × InboxAct)) (t : Table Notification) : Prop where
  fits : ∀ r ∈ t.rows, FitsInteger r.id
  positive : 0 < t.next
  kept : ∀ r ∈ t.rows, r.deletedAt ≠ none → ∀ state, TrashedAs r.id state past → r.readState = state

/-- A request that deletes nothing keeps it so if it leaves deleted notifications as they are. -/
lemma Frozen.step_of (h : Frozen past t) (act : InboxAct) (hact : ∀ r, ¬Trashes t r act) (hnext : 0 < t'.next)
    (hrows : ∀ r' ∈ t'.rows, FitsInteger r'.id ∧
      (r'.deletedAt ≠ none → ∃ r ∈ t.rows, r.id = r'.id ∧ r.deletedAt ≠ none ∧ r.readState = r'.readState)) :
    Frozen ((t, act) :: past) t' := by
  refine ⟨fun r' hr' => (hrows r' hr').1, hnext, fun r' hr' hdeleted state hstate => ?_⟩
  obtain ⟨r, hr, hid, hmark, hsame⟩ := (hrows r' hr').2 hdeleted
  rcases hstate with ⟨x, hx, -⟩ | ⟨-, hpast⟩
  · exact absurd hx (hact x)
  · rw [← hsame]
    exact h.kept r hr hmark state (hid ▸ hpast)

/-- Nothing has changed. -/
lemma Frozen.same (h : Frozen past t) (hact : ∀ r, ¬Trashes t r act) : Frozen ((t, act) :: past) t :=
  h.step_of act hact h.positive fun r hr => ⟨h.fits r hr, fun hdeleted => ⟨r, hr, rfl, hdeleted, rfl⟩⟩

/-- A row that is not deleted is written. -/
lemma Frozen.put (h : Frozen past t) (act : InboxAct) (hact : ∀ r, ¬Trashes t r act) (hr : r ∈ t.rows) {x : Notification}
    (hid : x.id = r.id) (hlive : x.deletedAt = none) : Frozen ((t, act) :: past) (t.put x) := by
  refine h.step_of act hact h.positive fun r' hr' => ?_
  rcases Table.mem_put hr' with rfl | ⟨hold, -⟩
  · exact ⟨hid ▸ h.fits r hr, fun hdeleted => absurd hlive hdeleted⟩
  · exact ⟨h.fits r' hold, fun hdeleted => ⟨r', hold, rfl, hdeleted, rfl⟩⟩

/-- **A request that deletes a notification** keeps its read state. -/
lemma frozen_delete (h : Frozen past t) (user id : ℤ) (now : Datetime) :
    Frozen ((t, .delete user id now) :: past) (deleteNotification user id now t).2 := by
  unfold deleteNotification
  cases hget : getForUser user id t with
  | none => exact h.same fun r ⟨hr, _⟩ => by cases hget.symm.trans hr
  | some r =>
    obtain ⟨hrow, hid, -⟩ := getForUser_eq_some.1 hget
    have honly : ∀ x, Trashes t x (.delete user id now) → x = r ∧ r.deletedAt = none := by
      rintro x ⟨hx, hlive⟩
      obtain rfl := Option.some.inj (hx.symm.trans hget)
      exact ⟨rfl, hlive⟩
    dsimp only
    have hcases : CRUDBase.delete (fun _ => true) id t now = (none, t) ∨ _ := CRUDBase.delete_cases now
    rcases hcases with hnone | ⟨x, hx, hkey, -, hlive, hdelete⟩
    · rw [hnone]
      refine h.same fun x hx => ?_
      -- it was deleted before
      have hfound : CRUDBase.get (fun _ => true) id t = some r :=
        CRUDBase.get_eq_some.2 ⟨hrow, hid, rfl, .inr (honly x hx).2⟩
      unfold CRUDBase.delete at hnone
      rw [hfound] at hnone
      cases congrArg Prod.fst hnone
    · obtain rfl : x = r := t.key_injOn hx hrow (hkey.trans hid.symm)
      rw [hdelete]
      refine ⟨fun r' hr' => ?_, h.positive, fun r' hr' hdeleted state hstate => ?_⟩
      · rcases Table.mem_put hr' with rfl | ⟨hold, -⟩
        · exact h.fits x hrow
        · exact h.fits r' hold
      · rcases hstate with ⟨y, hy, hyid, hstate⟩ | ⟨hothers, hpast⟩
        · obtain ⟨rfl, -⟩ := honly y hy
          rcases Table.mem_put hr' with rfl | ⟨-, hne⟩
          · exact hstate
          · exact absurd hyid.symm hne
        · rcases Table.mem_put hr' with rfl | ⟨hold, -⟩
          · exact absurd ⟨x, ⟨hget, hlive⟩, rfl⟩ hothers
          · exact h.kept r' hold hdeleted state hpast

/-- A new notification has a number that fits, and is not deleted. -/
lemma frozen_create (h : Frozen past t) (user : ℤ) (eventType title : String) (body : Option String) :
    Frozen ((t, .create user eventType title body) :: past) (createForUser user t eventType title body).2 := by
  unfold createForUser
  dsimp only
  split
  · rename_i hnext
    have hpositive : 0 < t.next := h.positive
    have hpositive' : 0 < t.next + 1 := by omega
    refine h.step_of (.create user eventType title body) (fun _ hr => hr) hpositive' fun r' hr' => ?_
    rcases Table.mem_insert.1 hr' with hold | rfl
    · exact ⟨h.fits r' hold, fun hdeleted => ⟨r', hold, rfl, hdeleted, rfl⟩⟩
    · refine ⟨⟨?_, hnext⟩, fun hdeleted => absurd rfl hdeleted⟩
      show -2 ^ 31 ≤ t.next
      omega
  · exact h.same fun _ hr => hr

/-- If what is deleted has been read, it is not marked as read again. -/
lemma frozen_readAll (h : Frozen past t) {user : ℤ} (now : Datetime) (hread : AllDeletedRead user t) :
    Frozen ((t, .readAll user now) :: past) (markAllRead user now t).2 := by
  refine h.step_of (.readAll user now) (fun _ hr => hr) h.positive fun r' hr' => ?_
  obtain ⟨r, hrow, rfl⟩ := List.mem_map.1 hr'
  unfold Notification.readAll
  split
  · rename_i hunread
    refine ⟨h.fits r hrow, fun hdeleted => ?_⟩
    rw [Bool.and_eq_true, beq_iff_eq] at hunread
    have hmark := hread r hrow hunread.1 hdeleted
    rw [hmark] at hunread
    exact absurd hunread.2 (by decide)
  · exact ⟨h.fits r hrow, fun hdeleted => ⟨r, hrow, rfl, hdeleted, rfl⟩⟩

/-- **One request.** -/
theorem Frozen.step (h : Frozen past t) (hact : NothingDeleted other t act) : Frozen ((t, act) :: past) (act.step t) := by
  cases act with
  | create user eventType title body => exact frozen_create h user eventType title body
  | list user params unreadOnly => exact h.same fun _ hr => hr
  | read user id now =>
    unfold InboxAct.step markRead
    dsimp only
    cases hget : getForUser user id t with
    | none => exact h.same fun _ hr => hr
    | some r =>
      obtain ⟨hrow, hid, huser⟩ := getForUser_eq_some.1 hget
      dsimp only
      split
      · exact h.same fun _ hr => hr
      · exact h.put (.read user id now) (fun _ hr => hr) hrow rfl (hact r hrow hid huser)
  | readAll user now => exact frozen_readAll h now hact
  | delete user id now => exact frozen_delete h user id now
  | restore id =>
    unfold InboxAct.step restoreNotification restoreThenCheck
    dsimp only
    have hcases : (CRUDBase.restore (fun _ => true) id t = (none, t) ∧ _) ∨ _ := CRUDBase.restore_cases
    rcases hcases with ⟨hrestore, -⟩ | ⟨r, hr, hrestore⟩
    · rw [hrestore]
      exact h.same fun _ hr => hr
    · rw [hrestore]
      exact h.put (.restore id) (fun _ hr => hr) hr.1 rfl rfl

/-! ### When a request hides them -/

lemma liveUnread_eq_iff : countUnread userId t = liveUnread userId t ↔ AllDeletedRead userId t := by
  have hfilter : t.rows.filter (fun r => r.userId == userId && !r.isRead && r.deletedAt.isNone) =
      (t.rows.filter fun r => r.userId == userId && !r.isRead).filter fun r => r.deletedAt.isNone := by
    rw [List.filter_filter]
    refine List.filter_congr fun r _ => ?_
    rw [Bool.and_comm]
  unfold countUnread liveUnread
  rw [hfilter, eq_comm, List.length_filter_eq_length_iff]
  constructor
  · intro h r hr huser hdeleted
    by_contra hunread
    have hlive := h r (List.mem_filter.2 ⟨hr, by simp [huser, hunread]⟩)
    exact hdeleted (by simpa using hlive)
  · intro h r hr
    obtain ⟨hrow, hunread⟩ := List.mem_filter.1 hr
    rw [Bool.and_eq_true, beq_iff_eq] at hunread
    by_contra hdeleted
    have hread := h r hrow hunread.1 (by simpa using hdeleted)
    rw [hread] at hunread
    exact absurd hunread.2 (by decide)

/-- **The list.** -/
theorem hides_list_iff (hids : ∀ r ∈ t.rows, FitsInteger r.id) (past : List (Table Notification × InboxAct)) (user : ℤ)
    (params : CursorParams) (unreadOnly : Bool) :
    HidesDeleted other past t (.list user params unreadOnly) ↔ NothingDeleted other t (.list user params unreadOnly) := by
  unfold HidesDeleted NothingDeleted
  dsimp only
  cases hcursor : cursorId other params.cursor with
  | error e =>
    have hfails : listNotifications other user params unreadOnly t = .error e := by
      unfold listNotifications
      rw [hcursor]
      rfl
    rw [hfails]
    exact iff_of_true (by simp) (by simp)
  | ok cursor =>
    obtain ⟨response, hresponse, hpage, hunread⟩ := listNotifications_ok user unreadOnly hids hcursor
    have hitems : response.items = (inboxRows user unreadOnly t cursor).take params.size := congrArg Page.items hpage
    have hplace : ∀ r ∈ inboxRows user unreadOnly t cursor, (r ∈ (inboxRows user unreadOnly t cursor).take params.size ↔
        ((inboxRows user unreadOnly t cursor).filter fun b => decide (r.id < b.id)).length < params.size) := by
      intro r hr
      exact mem_take_iff (R := fun a b : Notification => b.id < a.id) (fun _ => lt_irrefl _) (fun _ _ => lt_asymm)
        sorted_inboxRows hr
    constructor
    · intro h cursor' hcursor'
      obtain rfl : cursor = cursor' := Except.ok.inj hcursor'
      obtain ⟨hshown, hcount⟩ := h response hresponse
      refine ⟨fun r hr hdeleted => ?_, liveUnread_eq_iff.1 (hunread.symm.trans hcount)⟩
      by_contra hfew
      have hmem := (hplace r hr).2 (not_le.1 hfew)
      exact hdeleted (hshown r (hitems ▸ hmem))
    · intro h response' hresponse'
      obtain rfl : response = response' := Except.ok.inj (hresponse.symm.trans hresponse')
      obtain ⟨hlast, hread⟩ := h cursor rfl
      refine ⟨fun r hr => ?_, hunread.trans (liveUnread_eq_iff.2 hread)⟩
      rw [hitems] at hr
      by_contra hdeleted
      have hrow := List.mem_of_mem_take hr
      exact absurd ((hplace r hrow).1 hr) (not_lt.2 (hlast r hrow hdeleted))

/-- **One request**, when what is deleted has kept its read state. -/
theorem hides_iff (h : Frozen past t) (act : InboxAct) : HidesDeleted other past t act ↔ NothingDeleted other t act := by
  cases act with
  | create | delete => exact Iff.rfl
  | list user params unreadOnly => exact hides_list_iff h.fits past user params unreadOnly
  | readAll user now => exact liveUnread_eq_iff
  | read user id now =>
    constructor
    · intro hgone r hrow hid huser
      by_contra hdeleted
      have hanswer := hgone r hrow hid hdeleted
      unfold markRead at hanswer
      rw [getForUser_eq_some.2 ⟨hrow, hid, huser⟩] at hanswer
      dsimp only at hanswer
      split at hanswer <;> cases congrArg Prod.fst hanswer
    · intro hlive r hrow hid hdeleted
      have hnone : getForUser user id t = none := by
        by_contra hsome
        obtain ⟨x, hx⟩ := Option.ne_none_iff_exists'.1 hsome
        obtain ⟨hxrow, hxid, huser⟩ := getForUser_eq_some.1 hx
        obtain rfl : x = r := t.key_injOn hxrow hrow (hxid.trans hid.symm)
        exact hdeleted (hlive x hrow hid huser)
      unfold markRead
      rw [hnone]
  | restore id =>
    refine iff_of_true (fun r hr state hstate => ?_) trivial
    obtain ⟨hrow, hid, -, hdeleted⟩ := hr
    unfold restoreNotification restoreThenCheck
    have hcases : (CRUDBase.restore (fun _ => true) id t = (none, t) ∧ _) ∨ _ := CRUDBase.restore_cases
    rcases hcases with ⟨-, hnone⟩ | ⟨x, ⟨hxrow, hxid, -, -⟩, hrestore⟩
    · exact absurd ⟨hrow, hid, rfl, hdeleted⟩ (hnone r)
    · obtain rfl : x = r := t.key_injOn hxrow hrow (hxid.trans hid.symm)
      rw [hrestore]
      have hfound : t.get? x.id = some x := Table.get?_key hrow
      have hput : (t.put { x with deletedAt := none }).get? x.id = some { x with deletedAt := none } :=
        Table.get?_put_self (r := { x with deletedAt := none }) hfound
      obtain rfl : x.id = id := hid
      exact ⟨{ x with deletedAt := none }, hput, rfl, h.kept x hrow hdeleted state hstate⟩

/-- **When deleted notifications are gone**: along every sequence of requests, deleted notifications are not listed, not
counted as unread, not found or counted when notifications are marked as read, and restored with the read state they
had, if and only if no request comes upon a deleted notification. -/
theorem deleted_notifications_gone_iff (other : List UInt8 → Except BuiltinError Value) (t : Table Notification)
    (hids : ∀ r ∈ t.rows, FitsInteger r.id) (hnext : 0 < t.next) (acts : List InboxAct) :
    Along InboxAct.step (HidesDeleted other) [] t acts ↔
      Along InboxAct.step (fun _ t act => NothingDeleted other t act) [] t acts := by
  have hstart : Frozen [] t := ⟨hids, hnext, fun _ _ _ _ hstate => hstate.elim⟩
  exact along_congr_of_inv (I := Frozen) (fun _ _ _ h hact => h.step hact) (fun _ _ act h => hides_iff h act) hstart

open Sample in
/-- User 1 deletes notification 4: it is still listed, can be marked as read, and is counted when all are. -/
theorem deleted_notifications_shown :
    ¬Along InboxAct.step (HidesDeleted fun _ => .error .valueError) [] inbox [.delete 1 4 0, .list 1 twoPerPage false] ∧
      ¬Along InboxAct.step (HidesDeleted fun _ => .error .valueError) [] inbox [.delete 1 4 0, .read 1 4 0] ∧
      ¬Along InboxAct.step (HidesDeleted fun _ => .error .valueError) [] inbox [.delete 1 4 0, .readAll 1 0] := by
  refine ⟨?_, ?_, ?_⟩
  · rintro ⟨-, hlist, -⟩
    have hlive := (hlist _ rfl).1 { greeting 1 with id := 4, deletedAt := some 0 } List.mem_cons_self
    exact absurd hlive (by decide)
  · rintro ⟨-, hread, -⟩
    have hanswer := hread { greeting 1 with id := 4, deletedAt := some 0 } (by decide) rfl (by decide)
    cases congrArg Prod.fst hanswer
  · rintro ⟨-, hreadAll, -⟩
    have hcount : (markAllRead 1 0 ((InboxAct.delete 1 4 0).step inbox)).1 =
        liveUnread 1 ((InboxAct.delete 1 4 0).step inbox) := hreadAll
    exact absurd hcount (by decide)

open Sample in
/-- The same requests. -/
theorem deleted_notifications_gone_inbox :
    Along InboxAct.step (HidesDeleted fun _ => .error .valueError) [] inbox [.delete 1 4 0, .list 1 twoPerPage false] ↔
      Along InboxAct.step (fun _ t act => NothingDeleted (fun _ => .error .valueError) t act) [] inbox
        [.delete 1 4 0, .list 1 twoPerPage false] :=
  deleted_notifications_gone_iff (fun _ => .error .valueError) inbox (by unfold FitsInteger; decide) (by decide) _

end FastapiTemplate.Notifications
