import FastapiTemplate.Database.Flush

/-!
# What a commit does to the ledger of events

The ledger only grows: a commit that puts no event into it leaves its event ids as they are
(`flush_eventIds`), and one that puts an event into it finds the id unused (`not_recorded`), by the
unique index on `stripe_events.event_id`.
-/

namespace FastapiTemplate.Database

open Core Store

variable {S : Schema}

/-- The event is in the ledger. -/
def Db.Recorded (d : Db S) (eventId : String) : Prop := ∃ row ∈ d.stripeEvents.rows, row.eventId = eventId

instance (d : Db S) (eventId : String) : Decidable (d.Recorded eventId) :=
  inferInstanceAs (Decidable (∃ row ∈ d.stripeEvents.rows, row.eventId = eventId))

/-- An `UPDATE` that leaves the event id alone. -/
lemma eventIds_put {t : Table StripeEvent} {loaded cur row : StripeEvent}
    (hrow : t.get? loaded.id = some row) (hcur : cur.eventId = loaded.eventId) :
    (t.put (loaded.writeBack cur row)).rows.map StripeEvent.eventId = t.rows.map StripeEvent.eventId := by
  have hself : (loaded.writeBack cur row).eventId = row.eventId := by
    simp [StripeEvent.writeBack, hcur]
  unfold Table.put
  rw [List.map_map]
  refine List.map_congr_left fun x hx => ?_
  by_cases hk : Keyed.key x = Keyed.key (loaded.writeBack cur row)
  · -- the row with the key is the row the `UPDATE` found
    have hsame : x = row := t.key_injOn hx (Table.get?_eq_some.1 hrow).1 hk
    rw [hsame] at hk ⊢
    simp only [Function.comp_apply, Table.overwrite, if_pos hk, hself]
  · simp only [Function.comp_apply, Table.overwrite_of_ne hk]

/-- **The ledger forgets nothing**, and learns only what is put into it. -/
theorem flush_eventIds {cs : List Change} {t t' : Tables} {ids : List ℤ}
    (h : t.flush cs = .ok (ids, t')) (hnew : ∀ row, .insertStripeEvent row ∉ cs)
    (hstamp : ∀ loaded cur, .updateStripeEvent loaded cur ∈ cs → cur.eventId = loaded.eventId) :
    t'.stripeEvents.rows.map StripeEvent.eventId = t.stripeEvents.rows.map StripeEvent.eventId := by
  refine flush_inv (I := fun s => s.stripeEvents.rows.map StripeEvent.eventId =
    t.stripeEvents.rows.map StripeEvent.eventId) h (fun c hc s s' ha hs => Eq.trans ?_ hs) rfl
  cases ha with
  | insertStripeEvent row => exact absurd hc (hnew row)
  | updateStripeEvent hrow => exact eventIds_put hrow (hstamp _ _ hc)
  | _ => rfl

/-- A commit that records one event appends its row. -/
lemma flush_insertStripeEvent {row : StripeEvent} {t t' : Tables} {ids : List ℤ}
    (h : t.flush [.insertStripeEvent row] = .ok (ids, t')) :
    t'.stripeEvents = t.stripeEvents.insert row := by
  simp only [Tables.flush, Change.apply, bind, Except.bind, pure, Except.pure, Except.ok.injEq,
    Prod.mk.injEq] at h
  rw [← h.2]

namespace Db

variable {d d' : Db S} {row : StripeEvent} {ids : List ℤ}

/-- **The unique index.** An event that a commit records was not in the ledger. -/
theorem not_recorded (h : d.tables.flush [.insertStripeEvent row] = .ok (ids, d'.tables)) :
    ¬d.Recorded row.eventId := by
  rintro ⟨old, hold, heq⟩
  have hunique := d'.constraints.event
  have hnodup : (d'.stripeEvents.rows.filterMap fun e => some e.eventId).Nodup := by
    simpa [uniqueOn] using hunique
  have hrows : d'.stripeEvents.rows = d.stripeEvents.rows ++ [Keyed.withKey d.stripeEvents.next row] := by
    rw [Db.stripeEvents, flush_insertStripeEvent h]
    rfl
  rw [hrows, List.filterMap_append, List.nodup_append] at hnodup
  refine hnodup.2.2 row.eventId ?_ row.eventId ?_ rfl
  · exact List.mem_filterMap.2 ⟨old, hold, by rw [heq]⟩
  · exact List.mem_filterMap.2 ⟨_, List.mem_singleton_self _, rfl⟩

/-- An event that is not in the ledger can be recorded. -/
theorem commit_record (h : ¬d.Recorded row.eventId) :
    ∃ ids d', d.commit [.insertStripeEvent row] = .ok (ids, d') ∧ d'.subscriptions = d.subscriptions ∧
      d'.users = d.users := by
  have hadmits : S.admits { d.tables with stripeEvents := d.stripeEvents.insert row } = true := by
    refine Schema.admits_iff.2 { d.constraints with event := ?_ }
    have hunique := d.constraints.event
    unfold uniqueOn at hunique ⊢
    rw [decide_eq_true_eq] at hunique ⊢
    show ((d.stripeEvents.rows ++ [_]).filterMap _).Nodup
    rw [List.filterMap_append, List.nodup_append]
    refine ⟨hunique, List.nodup_singleton _, ?_⟩
    -- the new event id is none of those in the ledger
    intro eventId hold eventId' hnew heq
    obtain ⟨old, hmem, hid⟩ := List.mem_filterMap.1 hold
    have hnew' : eventId' = row.eventId := List.mem_singleton.1 hnew
    exact h ⟨old, hmem, (Option.some.inj hid).trans (heq.trans hnew')⟩
  refine ⟨[d.stripeEvents.next], ⟨_, hadmits⟩, ?_, rfl, rfl⟩
  unfold Db.commit
  simp only [Tables.flush, Change.apply, bind, Except.bind, pure, Except.pure, List.append_nil]
  exact dif_pos hadmits

/-- What is in the ledger after a commit that records one event. -/
theorem recorded_insert (h : d.tables.flush [.insertStripeEvent row] = .ok (ids, d'.tables))
    {eventId : String} : d'.Recorded eventId ↔ d.Recorded eventId ∨ row.eventId = eventId := by
  unfold Recorded
  rw [Db.stripeEvents, flush_insertStripeEvent h]
  constructor
  · rintro ⟨x, hx, hid⟩
    rcases Table.mem_insert.1 hx with hx | rfl
    · exact .inl ⟨x, hx, hid⟩
    · exact .inr hid
  · rintro (⟨x, hx, hid⟩ | hid)
    · exact ⟨x, Table.mem_insert.2 (.inl hx), hid⟩
    · exact ⟨_, Table.mem_insert.2 (.inr rfl), hid⟩

/-- What is in the ledger after a commit that records no event. -/
theorem recorded_congr {cs : List Change} (h : d.tables.flush cs = .ok (ids, d'.tables))
    (hnew : ∀ row, .insertStripeEvent row ∉ cs)
    (hstamp : ∀ loaded cur, .updateStripeEvent loaded cur ∈ cs → cur.eventId = loaded.eventId)
    {eventId : String} : d'.Recorded eventId ↔ d.Recorded eventId := by
  have hids : ∀ e : Db S, e.Recorded eventId ↔ eventId ∈ e.stripeEvents.rows.map StripeEvent.eventId :=
    fun e => List.mem_map.symm
  rw [hids, hids, Db.stripeEvents, flush_eventIds h hnew hstamp]

end Db

end FastapiTemplate.Database
