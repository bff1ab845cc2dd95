import FastapiTemplate.Notifications.Models
import FastapiTemplate.Utils.Pagination

/-!
# The inbox

`list_notifications` shows the notifications of a user, the latest first, a page at a time. A page starts after the last
notification of the page before it, so that notifications that arrive in between do not move the pages
(`inbox_paged`).
-/

namespace FastapiTemplate.Notifications

open Python Store Utils Keyed

variable (other : List UInt8 → Except BuiltinError Value) (userId : ℤ) (params : CursorParams) (unreadOnly : Bool)
  (t : Table Notification)

/-! ### The endpoint -/

/-- The notifications that are listed, the latest first. -/
def inboxRows (cursor : Option ℤ) : List Notification :=
  (t.rows.filter fun r =>
    r.userId == userId && (cursor.all fun cursor => r.id < cursor) && (!unreadOnly || !r.isRead)).reverse

def listForUserCursor (cursor : Option ℤ) (size : ℕ) : List Notification :=
  (inboxRows userId unreadOnly t cursor).take (size + 1)

def countUnread : ℕ := (t.rows.filter fun r => r.userId == userId && !r.isRead).length

structure NotificationCursorResponse where
  items : List Notification
  nextCursor : Option String
  hasMore : Bool
  size : ℕ
  unreadCount : ℕ

def listNotifications : Except BuiltinError NotificationCursorResponse := do
  let cursor ← cursorId other params.cursor
  let items := listForUserCursor userId unreadOnly t cursor params.size
  let hasMore := decide (params.size < items.length)
  let pageItems := items.take params.size
  let nextCursor ← cursorAfter hasMore pageItems
  return { items := pageItems, nextCursor := nextCursor, hasMore := hasMore, size := pageItems.length,
           unreadCount := countUnread userId t }

/-! ### Paging -/

/-- What a client goes on with. -/
def NotificationCursorResponse.toPage (response : NotificationCursorResponse) : Page Notification String where
  items := response.items
  next := if response.hasMore then response.nextCursor else none

/-- The pages that a client gets; request `i` is answered from the table `tables i`. -/
def inboxPages (tables : ℕ → Table Notification) (i : ℕ) (cursor : Option String) : Option (Page Notification String) :=
  match listNotifications other userId { params with cursor := cursor } unreadOnly (tables i) with
  | .ok response => some response.toPage
  | .error _ => none

/-- The ids are of the type `INTEGER`. -/
def FitsInteger (n : ℤ) : Prop := -2 ^ 31 ≤ n ∧ n < 2 ^ 31

/-- **What may happen between two requests**: new notifications get larger ids, those of the user are changed or
removed, those of other users anything. -/
structure Later (t t' : Table Notification) : Prop where
  own : ∀ r' ∈ t'.rows, r'.userId = userId → (∃ r ∈ t.rows, r.id = r'.id ∧ r.userId = userId) ∨ t.next ≤ r'.id
  next : t.next ≤ t'.next

/-- The notification is in the table, and is to be listed. -/
def ListedAs (id : ℤ) : Prop :=
  ∃ r ∈ t.rows, r.id = id ∧ r.userId = userId ∧ (unreadOnly = true → r.isRead = false)

/-- **What a client has seen** in the end. -/
structure PagesThrough (tables : ℕ → Table Notification) (visited : List Notification) : Prop where
  order : visited.Pairwise fun a b => b.id < a.id
  own : ∀ r ∈ visited, r.userId = userId
  once : ∀ id, (∀ i, ListedAs userId unreadOnly (tables i) id) → (visited.map Notification.id).count id = 1

/-! ### Rows -/

variable {userId params unreadOnly t} {t' : Table Notification} {cursor : Option ℤ} {r : Notification}
  {tables : ℕ → Table Notification}

lemma mem_inboxRows : r ∈ inboxRows userId unreadOnly t cursor ↔
    r ∈ t.rows ∧ r.userId = userId ∧ (∀ c, cursor = some c → r.id < c) ∧ (unreadOnly = true → r.isRead = false) := by
  unfold inboxRows
  rw [List.mem_reverse, List.mem_filter]
  cases cursor <;> cases unreadOnly <;> simp [and_assoc]

lemma sorted_inboxRows : (inboxRows userId unreadOnly t cursor).Pairwise fun a b => b.id < a.id :=
  List.pairwise_reverse.2 (t.sorted.filter _)

/-- The rows of the user below a cursor. -/
def ownRows (userId : ℤ) (t : Table Notification) (cursor : Option ℤ) : List Notification :=
  inboxRows userId false t cursor

lemma mem_ownRows : r ∈ ownRows userId t cursor ↔
    r ∈ t.rows ∧ r.userId = userId ∧ ∀ c, cursor = some c → r.id < c := by
  unfold ownRows
  rw [mem_inboxRows]
  simp

lemma nodup_ids {rows : List Notification} (h : rows.Pairwise fun a b => b.id < a.id) :
    (rows.map Notification.id).Nodup := by
  rw [List.Nodup, List.pairwise_map]
  exact h.imp fun hless heq => by omega

/-- Below a notification that is shown there is one fewer. -/
lemma Later.ownRows_lt (h : Later userId t t') (hr : r ∈ ownRows userId t cursor) :
    (ownRows userId t' (some r.id)).length < (ownRows userId t cursor).length := by
  obtain ⟨hrow, huser, hbelow⟩ := mem_ownRows.1 hr
  have hnext : r.id < t.next := t.below r hrow
  have hids : r.id :: (ownRows userId t' (some r.id)).map Notification.id ⊆
      (ownRows userId t cursor).map Notification.id := by
    intro id hid
    rcases List.mem_cons.1 hid with rfl | hid
    · exact List.mem_map_of_mem hr
    · obtain ⟨r', hr', rfl⟩ := List.mem_map.1 hid
      obtain ⟨hrow', huser', hbelow'⟩ := mem_ownRows.1 hr'
      have hless : r'.id < r.id := hbelow' r.id rfl
      -- it is no new one
      rcases h.own r' hrow' huser' with ⟨old, hold, hsame, howner⟩ | hnew
      · rw [← hsame] at hless ⊢
        refine List.mem_map_of_mem (mem_ownRows.2 ⟨hold, howner, fun c hc => ?_⟩)
        have hlast := hbelow c hc
        omega
      · omega
  have hnodup : (r.id :: (ownRows userId t' (some r.id)).map Notification.id).Nodup := by
    refine List.nodup_cons.2 ⟨fun hmem => ?_, nodup_ids sorted_inboxRows⟩
    obtain ⟨r', hr', hsame⟩ := List.mem_map.1 hmem
    have hless : r'.id < r.id := (mem_ownRows.1 hr').2.2 r.id rfl
    omega
  have hlength := (List.subperm_of_subset hnodup hids).length_le
  rw [List.length_cons, List.length_map, List.length_map] at hlength
  omega

/-! ### Pages of rows -/

/-- The pages, with ids for cursors. -/
def rowPages (userId : ℤ) (size : ℕ) (unreadOnly : Bool) (tables : ℕ → Table Notification) (i : ℕ)
    (cursor : Option ℤ) : Option (Page Notification ℤ) :=
  some (Page.cut Notification.id size (inboxRows userId unreadOnly (tables i) cursor))

variable {size fuel i : ℕ} {visited : List Notification}

/-- What is so of all notifications from a page on. -/
def OwnBelow (userId : ℤ) (_ : ℕ) (cursor : Option ℤ) (r : Notification) : Prop :=
  r.userId = userId ∧ ∀ c, cursor = some c → r.id < c

lemma ownBelow_items {page : Page Notification ℤ} (h : rowPages userId size unreadOnly tables i cursor = some page) :
    ∀ r ∈ page.items, OwnBelow userId i cursor r := by
  obtain rfl := Option.some.inj h
  intro r hr
  obtain ⟨-, huser, hbelow, -⟩ := mem_inboxRows.1 (List.mem_of_mem_take hr)
  exact ⟨huser, hbelow⟩

lemma ownBelow_next {page : Page Notification ℤ} {next : ℤ}
    (h : rowPages userId size unreadOnly tables i cursor = some page) (hnext : page.next = some next) :
    ∀ r, OwnBelow userId (i + 1) (some next) r → OwnBelow userId i cursor r := by
  obtain rfl := Option.some.inj h
  obtain ⟨last, hlast, rfl, -⟩ := Page.cut_next sorted_inboxRows hnext
  obtain ⟨-, -, hbelow, -⟩ := mem_inboxRows.1 (List.mem_of_mem_take hlast)
  rintro r ⟨huser, hr⟩
  refine ⟨huser, fun c hc => ?_⟩
  have hless : r.id < last.id := hr last.id rfl
  have hfirst := hbelow c hc
  omega

/-- **The chain of pages ends.** -/
theorem rowPages_ends (hlater : ∀ i, Later userId (tables i) (tables (i + 1))) (size : ℕ) (unreadOnly : Bool) :
    ∃ fuel visited, follow (rowPages userId size unreadOnly tables) fuel 0 none = some visited := by
  refine ⟨(ownRows userId (tables 0) none).length + 1, ?_⟩
  refine follow_ends (I := fun _ _ => True) (fun i cursor => (ownRows userId (tables i) cursor).length)
    (fun i cursor _ => ⟨_, rfl, fun next hnext => ⟨trivial, ?_⟩⟩) trivial (Nat.lt_succ_self _)
  obtain ⟨last, hlast, rfl, -⟩ := Page.cut_next sorted_inboxRows hnext
  obtain ⟨hrow, huser, hbelow, -⟩ := mem_inboxRows.1 (List.mem_of_mem_take hlast)
  exact (hlater i).ownRows_lt (mem_ownRows.2 ⟨hrow, huser, hbelow⟩)

/-- **What the pages show.** -/
theorem pagesThrough_of_follow (hsize : 0 < size)
    (h : follow (rowPages userId size unreadOnly tables) fuel 0 none = some visited) :
    PagesThrough userId unreadOnly tables visited := by
  have horder : visited.Pairwise fun a b => b.id < a.id := by
    refine follow_pairwise (P := OwnBelow userId) (fun _ _ _ h => ownBelow_items h) (fun _ _ _ _ h => ownBelow_next h)
      ?_ ?_ h
    · rintro i cursor page hpage
      obtain rfl := Option.some.inj hpage
      exact sorted_inboxRows.sublist (List.take_sublist _ _)
    · rintro i cursor page next hpage hnext a ha b ⟨-, hb⟩
      obtain rfl := Option.some.inj hpage
      obtain ⟨last, -, rfl, hothers⟩ := Page.cut_next sorted_inboxRows hnext
      have hless : b.id < last.id := hb last.id rfl
      rcases hothers a ha with rfl | hlast
      · exact hless
      · exact hless.trans hlast
  refine ⟨horder, fun r hr => ?_, fun id hlisted => ?_⟩
  · exact (follow_all (P := OwnBelow userId) (fun _ _ _ h => ownBelow_items h) (fun _ _ _ _ h => ownBelow_next h) h r hr).1
  · have hvisited : ∃ r ∈ visited, r.id = id := by
      refine follow_mem (Q := fun _ cursor => ∀ c, cursor = some c → id < c) ?_ h (by simp)
      intro i cursor page hpage hbelow
      obtain rfl := Option.some.inj hpage
      obtain ⟨r, hrow, rfl, huser, hunread⟩ := hlisted i
      have hmem : r ∈ inboxRows userId unreadOnly (tables i) cursor := mem_inboxRows.2 ⟨hrow, huser, hbelow, hunread⟩
      rcases Page.mem_cut Notification.id sorted_inboxRows hsize hmem with hshown | ⟨last, hnext, hless⟩
      · exact .inl ⟨r, hshown, rfl⟩
      · exact .inr ⟨last.id, hnext, fun c hc => Option.some.inj hc ▸ hless⟩
    obtain ⟨r, hr, rfl⟩ := hvisited
    exact List.count_eq_one_of_mem (nodup_ids horder) (List.mem_map_of_mem hr)

/-! ### Cursors -/

variable {other : List UInt8 → Except BuiltinError Value}

lemma printable_of_fits {n : ℤ} (h : FitsInteger n) : Printable n := by
  obtain ⟨hlow, hhigh⟩ := h
  have hdigits : (Nat.toDigits 10 n.natAbs).length ≤ 10 :=
    (Nat.length_toDigits_le_iff (by decide) (by decide)).2 (by omega)
  exact hdigits.trans (by decide)

/-- The text of a cursor. -/
def cursorText (n : ℤ) : String := (encodeCursor n).toOption.getD ""

lemma encodeCursor_eq {n : ℤ} (h : FitsInteger n) : encodeCursor n = .ok (cursorText n) := by
  obtain ⟨cursor, hencode, -, -⟩ := decodeCursor_encodeCursor (fun _ => .error .valueError) (printable_of_fits h)
  unfold cursorText
  rw [hencode]
  rfl

/-- **A request** gets the page of rows after its cursor. -/
theorem listNotifications_ok (userId : ℤ) (unreadOnly : Bool) {params : CursorParams}
    (hids : ∀ r ∈ t.rows, FitsInteger r.id) (hcursor : cursorId other params.cursor = .ok cursor) : ∃ response,
    listNotifications other userId params unreadOnly t = .ok response ∧
      response.toPage =
        ⟨(Page.cut Notification.id params.size (inboxRows userId unreadOnly t cursor)).items,
          (Page.cut Notification.id params.size (inboxRows userId unreadOnly t cursor)).next.map cursorText⟩ ∧
      response.unreadCount = countUnread userId t := by
  rw [← Page.cut_take]
  unfold listNotifications listForUserCursor Page.cut
  rw [hcursor]
  dsimp only [bind, Except.bind]
  set rows := (inboxRows userId unreadOnly t cursor).take (params.size + 1) with hrows
  unfold cursorAfter
  cases hlast : (rows.take params.size).getLast? with
  | none => by_cases hmore : params.size < rows.length <;> simp [hmore, NotificationCursorResponse.toPage, pure, Except.pure]
  | some last =>
    have hmem : last ∈ t.rows :=
      (mem_inboxRows.1 (List.mem_of_mem_take (List.mem_of_mem_take (List.mem_of_getLast? hlast)))).1
    have hencode : encodeCursor (key last) = .ok (cursorText last.id) := encodeCursor_eq (hids last hmem)
    by_cases hmore : params.size < rows.length
    · simp [hmore, hencode, NotificationCursorResponse.toPage, pure, Except.pure]
    · simp [hmore, NotificationCursorResponse.toPage, pure, Except.pure]

lemma inboxPages_eq (hids : ∀ r ∈ (tables i).rows, FitsInteger r.id) (hcursor : ∀ c, cursor = some c → FitsInteger c) :
    inboxPages other userId params unreadOnly tables i (cursor.map cursorText) =
      some ⟨(Page.cut Notification.id params.size (inboxRows userId unreadOnly (tables i) cursor)).items,
        (Page.cut Notification.id params.size (inboxRows userId unreadOnly (tables i) cursor)).next.map cursorText⟩ := by
  have hdecode : cursorId other { params with cursor := cursor.map cursorText }.cursor = .ok cursor := by
    cases cursor with
    | none => rfl
    | some c => exact cursorId_of_encodeCursor other (encodeCursor_eq (hcursor c rfl))
  obtain ⟨response, hresponse, hpage, -⟩ := listNotifications_ok userId unreadOnly hids hdecode
  unfold inboxPages
  rw [hresponse]
  exact congrArg some hpage

/-- **Paging through the inbox** ends, whatever arrives in between, and shows each notification of the user that is
there all the time exactly once, in descending order of ids, and none of another user. -/
theorem inbox_paged (other : List UInt8 → Except BuiltinError Value) (userId : ℤ) (params : CursorParams)
    (unreadOnly : Bool) (tables : ℕ → Table Notification) (hids : ∀ i, ∀ r ∈ (tables i).rows, FitsInteger r.id)
    (hlater : ∀ i, Later userId (tables i) (tables (i + 1))) :
    ∃ fuel visited, follow (inboxPages other userId params unreadOnly tables) fuel 0 none = some visited ∧
      PagesThrough userId unreadOnly tables visited := by
  obtain ⟨fuel, visited, hvisited⟩ := rowPages_ends hlater params.size unreadOnly
  have hsame : follow (inboxPages other userId params unreadOnly tables) fuel 0 ((none : Option ℤ).map cursorText) =
      follow (rowPages userId params.size unreadOnly tables) fuel 0 none := by
    refine follow_map (I := fun cursor => ∀ c, cursor = some c → FitsInteger c) (fun i cursor hcursor => ?_) (by simp)
    refine ⟨_, rfl, inboxPages_eq (hids i) hcursor, fun next hnext c hc => ?_⟩
    obtain ⟨last, hlast, rfl, -⟩ := Page.cut_next sorted_inboxRows hnext
    rw [← Option.some.inj hc]
    exact hids i last (mem_inboxRows.1 (List.mem_of_mem_take hlast)).1
  exact ⟨fuel, visited, hsame.trans hvisited, pagesThrough_of_follow params.size_pos hvisited⟩

namespace Sample

def greeting (userId : ℤ) : Notification := { userId := userId, eventType := "user.created", title := "Welcome" }

/-- Notifications 1, 3 and 4 of user 1, and 2 of user 2. -/
def inbox : Table Notification :=
  (((Table.empty.insert (greeting 1)).insert (greeting 2)).insert (greeting 1)).insert (greeting 1)

/-- After the first request notification 5 arrives. -/
def inboxes : ℕ → Table Notification
  | 0 => inbox
  | _ + 1 => inbox.insert (greeting 1)

def twoPerPage : CursorParams where
  size := 2

end Sample

open Sample in
/-- User 1 pages through his inbox, two notifications at a time. -/
theorem inbox_paged_inboxes : ∃ fuel visited,
    follow (inboxPages (fun _ => .error .valueError) 1 twoPerPage false inboxes) fuel 0 none = some visited ∧
      PagesThrough 1 false inboxes visited := by
  refine inbox_paged (fun _ => .error .valueError) 1 twoPerPage false inboxes (fun i => ?_) fun i => ?_
  · unfold FitsInteger
    cases i with
    | zero => decide
    | succ i =>
      show ∀ r ∈ (inbox.insert (greeting 1)).rows, _
      decide
  · cases i with
    | zero => exact ⟨by decide, by decide⟩
    | succ i => exact ⟨fun r hr huser => .inl ⟨r, hr, rfl, huser⟩, le_rfl⟩

open Sample in
example : (follow (inboxPages (fun _ => .error .valueError) 1 twoPerPage false inboxes) 2 0 none).map
    (List.map Notification.id) = some [4, 3, 1] := by decide +kernel

end FastapiTemplate.Notifications
