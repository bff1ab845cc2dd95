import FastapiTemplate.Effects.Triples
import FastapiTemplate.Identity.Exec

/-!
# What the session functions keep

An invariant is kept by the functions of `core.jwt_blacklist` for a user if it is kept by the effects they
perform on that user's sessions, and by `blacklist_token` where they call it.
-/

namespace FastapiTemplate.Identity

open Effects Python Store Script

/-- A result that is left out. -/
lemma world_discard {α : Type} (p : Auth α) (w : World) :
    ((p >>= fun _ => pure ()).exec serve () w).world = (p.exec serve () w).world := by
  rw [exec_bind]
  exact Outcome.next_world _ fun _ => ()

/-- The effect keeps the invariant. -/
def Serves (I : World → Prop) (e : Eff) : Prop := ∀ w, I w → I (serve e w).2

/-- The script keeps the invariant. -/
def Keeps {α : Type} (I : World → Prop) (p : Auth α) : Prop := Ensures serve I p fun _ => True

/-- Code that only reads keeps everything. -/
lemma Observes.ensures {α : Type} {p : Auth α} {I : World → Prop} {Q : α → Prop} (hp : Observes p)
    (hQ : ∀ w a, (p.exec serve () w).result = .ok a → Q a) : Ensures serve I p Q :=
  fun _ w hw => ⟨(hp w).symm ▸ hw, fun a ha => hQ w a ha⟩

/-- What follows code that only reads runs from the same world. -/
lemma Observes.world_bind {α β : Type} {p : Auth α} {f : α → Auth β} {I : World → Prop} {w : World}
    (hp : Observes p) (hw : I w)
    (hf : ∀ a, (p.exec serve () w).result = .ok a → I ((f a).exec serve () w).world) :
    I ((p >>= f).exec serve () w).world := by
  rw [exec_bind, hp.exec_eq w]
  generalize (p.exec serve () w).result = r at hf ⊢
  cases r with
  | error e => exact hw
  | ok a => exact hf a rfl

/-- The effect reads the clock, or is one of those that the session functions perform for the user. -/
def Eff.SessionsOf (userId : ℤ) : Eff → Prop
  | .now => True
  | .redis (.zadd u _ _) => u = userId
  | .redis (.zrevrange u) => u = userId
  | .redis (.zrem u _) => u = userId
  | .redis (.hset u jti info) =>
    u = userId ∧ ∃ payload : SessionCreatePayload, jti = payload.jti ∧ info = payload.info u
  | .redis (.hgetall u _) => u = userId
  | .redis (.setRevokedAll u _ _) => u = userId
  | .redis (.expire (.sessions u) _) => u = userId
  | .redis (.expire (.sessionMeta u _) _) => u = userId
  | .redis (.delete (.sessions u)) => u = userId
  | .redis (.delete (.sessionMeta u _)) => u = userId
  | _ => False

/-- The effect leaves the blacklists and the record of the calls alone, and writes no hash but that of a
session. -/
def Eff.Aside : Eff → Prop
  | .blacklisted _ _ _ => False
  | .redis (.sadd _ _) => False
  | .redis (.expire (.blacklist _) _) => False
  | .redis (.delete (.blacklist _)) => False
  | .redis (.hset u jti info) => ∃ payload : SessionCreatePayload, jti = payload.jti ∧ info = payload.info u
  | _ => True

lemma Eff.SessionsOf.aside {userId : ℤ} {e : Eff} (he : e.SessionsOf userId) : e.Aside := by
  unfold Eff.SessionsOf at he
  split at he <;> first | trivial | exact he.2

/-- Beside that it signs no token. -/
def Eff.Unsigned : Eff → Prop
  | .sign _ => False
  | e => e.Aside

lemma Eff.Unsigned.aside {e : Eff} (he : e.Unsigned) : e.Aside := by
  cases e <;> first | exact he | exact he.elim

lemma Eff.SessionsOf.unsigned {userId : ℤ} {e : Eff} (he : e.SessionsOf userId) : e.Unsigned := by
  unfold Eff.SessionsOf at he
  split at he <;> first | trivial | exact he.2

/-- The effect writes no user. -/
def Eff.SparesUsers : Eff → Prop
  | .updateUser _ _ | .insertUser _ => False
  | _ => True

lemma Eff.SparesUsers.users_eq {e : Eff} (he : e.SparesUsers) (w : World) : (serve e w).2.users = w.users := by
  cases e <;> first | rfl | exact he.elim

lemma Eff.SessionsOf.sparesUsers {userId : ℤ} {e : Eff} (he : e.SessionsOf userId) : e.SparesUsers := by
  unfold Eff.SessionsOf at he
  split at he <;> trivial

/-- To sign a token of this subject and purpose keeps the invariant. -/
def Signs (I : World → Prop) (subject : String) (purpose : Purpose) : Prop :=
  ∀ token : Token, token.claims.sub = subject → token.claims.purpose = purpose.claim → Serves I (.sign token)

lemma Eff.SessionsOf.now_eq {userId : ℤ} {e : Eff} (he : e.SessionsOf userId) (w : World) :
    (serve e w).2.now = w.now := by
  unfold Eff.SessionsOf at he
  split at he <;> first | rfl | exact he.elim

namespace Keeps

variable {cfg : Settings} {I : World → Prop} {α β : Type} {p : Auth α} {f : α → Auth β} {userId : ℤ}

lemma pure (a : α) : Keeps I (Pure.pure a : Auth α) := Ensures.pure trivial

lemma throw (e : Exn) : Keeps I (MonadExcept.throw e : Auth α) := Ensures.throw e

lemma ofExcept (x : Except Exn α) : Keeps I (MonadExcept.ofExcept x : Auth α) :=
  Ensures.ofExcept fun _ _ => trivial

lemma bind (hp : Keeps I p) (hf : ∀ a, Keeps I (f a)) : Keeps I (p >>= f) := Ensures.bind hp fun a _ => hf a

lemma tryCatch {g : Exn → Auth α} (hp : Keeps I p) (hg : ∀ e, Keeps I (g e)) :
    Keeps I (MonadExcept.tryCatch p g) := Ensures.tryCatch hp hg

lemma perform {e : Eff} (he : Serves I e) : Keeps I (Script.perform e : Auth (Answer e)) :=
  Ensures.perform fun w hw => ⟨he w hw, trivial⟩

lemma observes (hp : Observes p) : Keeps I p := hp.ensures fun _ _ _ => trivial

lemma datetimeNow : Keeps I datetimeNow := observes .datetimeNow

/-- What follows code that keeps the invariant, run from one world. -/
lemma world_bind {w : World} (hp : Keeps I p) (hw : I w)
    (hf : ∀ a, (p.exec serve () w).result = .ok a → Keeps I (f a)) : I ((p >>= f).exec serve () w).world := by
  have hworld := (hp () w hw).1
  rw [exec_bind]
  generalize p.exec serve () w = o at hf hworld ⊢
  obtain ⟨e | a, s, w'⟩ := o
  · exact hworld
  · exact (hf a rfl s w' hworld).1

section Sessions

variable (hI : ∀ e : Eff, e.SessionsOf userId → Serves I e)
include hI

/-- One round trip to the user's sessions. -/
lemma redis {command : RedisCommand} (h : (Eff.redis command).SessionsOf userId) :
    Keeps I (redis command) := perform (hI _ h)

lemma storeSession (payload : SessionCreatePayload) : Keeps I (storeSession cfg userId payload) := by
  unfold Identity.storeSession
  split
  · exact pure _
  · exact bind datetimeNow fun _ => bind (redis hI rfl) fun _ => bind (redis hI rfl) fun _ =>
      bind (redis hI ⟨rfl, payload, rfl, rfl⟩) fun _ => redis hI rfl

lemma collectSessions (now : ℤ) (jtis : List String) : Keeps I (collectSessions userId now jtis) := by
  induction jtis with
  | nil => exact pure _
  | cons jti jtis ih =>
    unfold Identity.collectSessions
    refine bind (redis hI rfl) fun found => ?_
    cases found with
    | none => exact ih
    | some info =>
      refine bind (ofExcept _) fun exp => ?_
      split
      · exact bind (redis hI rfl) fun _ => bind (redis hI rfl) fun _ => ih
      · exact bind ih fun _ => pure _

lemma listActiveSessions : Keeps I (listActiveSessions cfg userId) := by
  unfold Identity.listActiveSessions
  split
  · exact pure _
  · exact bind (redis hI rfl) fun _ => bind datetimeNow fun _ => collectSessions hI _ _

variable (hb : ∀ jti exp, Keeps I (blacklistToken cfg userId jti exp))
include hb

lemma revokeSession (jti : String) (exp : ℤ) : Keeps I (revokeSession cfg userId jti exp) := by
  unfold Identity.revokeSession
  split
  · exact pure _
  · exact bind (redis hI rfl) fun _ => bind (redis hI rfl) fun _ => hb _ _

/-- The loop of `revoke_all_user_sessions`. -/
lemma revokeMembers (jtis : List String) : Keeps I (revokeMembers cfg userId jtis) := by
  induction jtis with
  | nil => exact pure _
  | cons jti jtis ih =>
    unfold Identity.revokeMembers
    have hrest : ∀ exp, Keeps I (do
        blacklistToken cfg userId jti exp
        Identity.redis (.delete (.sessionMeta userId jti))
        Identity.revokeMembers cfg userId jtis) := fun exp =>
      bind (hb _ _) fun _ => bind (redis hI rfl) fun _ => ih
    refine bind (redis hI rfl) fun found => ?_
    cases found with
    | none => exact bind (pure 0) hrest
    | some info => exact bind (ofExcept _) hrest

lemma revokeAllUserSessions : Keeps I (revokeAllUserSessions cfg userId) := by
  unfold Identity.revokeAllUserSessions
  split
  · exact pure _
  · exact bind (redis hI rfl) fun _ => bind datetimeNow fun _ => bind (revokeMembers hI hb _) fun _ =>
      bind (redis hI rfl) fun _ => bind (redis hI rfl) fun _ => bind (ofExcept _) fun _ => pure _

end Sessions

end Keeps

end FastapiTemplate.Identity
