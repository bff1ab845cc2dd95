import FastapiTemplate.Core.Errors
import FastapiTemplate.Identity.UserPages
import FastapiTemplate.Notifications.Inbox
import FastapiTemplate.Python.Json

/-!
# Cursors that a client makes up

A client may send any text as its cursor. `decode_cursor` raises whatever `urlsafe_b64decode`, `json.loads` and `int`
raise, and the endpoints leave it to the exception handlers, the last of which answers with 500. `cursors_dealt_iff`
says which cursors are not answered in this way.
-/

namespace FastapiTemplate.Api

open Python Store Utils Identity Notifications

/-! ### The exception handlers -/

/-- The status of the answer to an exception; the built-in ones are left to the handler of `Exception`. -/
def statusCode : Core.Exn → ℕ
  | .notFound _ => 404
  | .badRequest _ => 400
  | .conflict _ => 409
  | .rateLimit _ => 429
  | .http statusCode _ => statusCode
  | _ => 500

/-- The status of an endpoint's answer. -/
def answerStatus {α : Type} (result : Except BuiltinError α) : ℕ :=
  match Core.liftBuiltin result with
  | .ok _ => 200
  | .error e => statusCode e

lemma answerStatus_error {α : Type} (e : BuiltinError) : answerStatus (.error e : Except BuiltinError α) = 500 := rfl

/-! ### The decoder -/

variable (floatRepr : Numeral → String) (depth : ℕ)

/-- `decode_cursor`, with everything that `json.loads` and `int` read. -/
def decodeAnyCursor (cursor : String) : Except BuiltinError ℤ := do
  let bytes ← urlsafeB64decode cursor
  let value ← jsonLoads (some maxStrDigits) floatRepr depth bytes
  intOf (some maxStrDigits) value

/-- `json.loads` for `decodeCursor`: a string is made an integer right away. -/
def jsonNumber (bytes : List UInt8) : Except BuiltinError Value := do
  let value ← jsonLoads (some maxStrDigits) floatRepr depth bytes
  match value with
  | .str s => Value.int <$> readInt (some maxStrDigits) s
  | value => return value

variable {floatRepr depth} {cursor : String}

lemma jsonNumber_toString (n : ℤ) : jsonNumber floatRepr depth (toString n).toUTF8.data.toList =
    if Printable n then .ok (.int n) else .error .valueError := by
  have hlimit : ((some maxStrDigits).all fun most => decide ((Nat.toDigits 10 n.natAbs).length ≤ most)) =
      decide (Printable n) := rfl
  unfold jsonNumber
  rw [jsonLoads_toString, hlimit]
  by_cases h : Printable n
  · rw [if_pos (decide_eq_true h), if_pos h]
    rfl
  · rw [if_neg (mt of_decide_eq_true h), if_neg h]
    rfl

/-- Integers are read as `loads` reads them. -/
lemma loads_jsonNumber (bytes : List UInt8) :
    loads (jsonNumber floatRepr depth) bytes = jsonNumber floatRepr depth bytes := by
  unfold loads decode
  cases htext : String.fromUTF8? ⟨bytes.toArray⟩ with
  | none => rfl
  | some text =>
    dsimp only
    cases pyInt text with
    | error e => rfl
    | ok n =>
      dsimp only
      by_cases hsame : toString n = text
      · have hbytes : text.toUTF8 = ⟨bytes.toArray⟩ := by
          unfold String.fromUTF8? at htext
          split at htext
          · rw [← Option.some.inj htext]
            rfl
          · cases htext
        have hlist : bytes = (toString n).toUTF8.data.toList := by
          rw [hsame, hbytes]
        rw [if_pos hsame, hlist, jsonNumber_toString]
      · rw [if_neg hsame]

lemma jsonNumber_toInt (bytes : List UInt8) : jsonNumber floatRepr depth bytes >>= Value.toInt =
    jsonLoads (some maxStrDigits) floatRepr depth bytes >>= intOf (some maxStrDigits) := by
  unfold jsonNumber
  cases jsonLoads (some maxStrDigits) floatRepr depth bytes with
  | error e => rfl
  | ok value =>
    cases value with
    | str s =>
      dsimp only [bind, Except.bind, intOf]
      cases readInt (some maxStrDigits) s <;> rfl
    | _ => rfl

/-- **The endpoints decode a cursor in this way.** -/
theorem decodeCursor_jsonNumber (floatRepr : Numeral → String) (depth : ℕ) (cursor : String) :
    decodeCursor (jsonNumber floatRepr depth) cursor = decodeAnyCursor floatRepr depth cursor := by
  unfold decodeCursor decodeAnyCursor
  refine congrArg (urlsafeB64decode cursor >>= ·) (funext fun bytes => ?_)
  rw [loads_jsonNumber]
  exact jsonNumber_toInt bytes

/-! ### The requests with a cursor -/

variable (floatRepr depth)

/-- The requests that `list_users` and `list_notifications` serve; the cursor is apart. -/
inductive CursorRequest where
  | users (sees : User → Bool) (params : CursorParams) (t : Table User)
  | notifications (userId : ℤ) (unreadOnly : Bool) (params : CursorParams) (t : Table Notification)

/-- The status of the answer to a request with the cursor. -/
def CursorRequest.status (cursor : String) : CursorRequest → ℕ
  | .users sees params t =>
    answerStatus (listUsers (jsonNumber floatRepr depth) sees { params with cursor := some cursor } t)
  | .notifications userId unreadOnly params t =>
    answerStatus
      (listNotifications (jsonNumber floatRepr depth) userId { params with cursor := some cursor } unreadOnly t)

/-- **The cursor is dealt with**: `decode_cursor(cursor) if cursor else None` returns, or else each of the endpoints
tells the client that it made a mistake. -/
def Dealt (cursor : String) : Prop :=
  (∃ id, cursorId (jsonNumber floatRepr depth) (some cursor) = .ok id) ∨ ∀ request : CursorRequest,
    400 ≤ request.status floatRepr depth cursor ∧ request.status floatRepr depth cursor < 500

/-- The cursor is the base64 text of a number in JSON. -/
def IsIntCursor (cursor : String) : Prop :=
  ∃ bytes, urlsafeB64decode cursor = .ok bytes ∧ IsIntJson (some maxStrDigits) bytes

variable {floatRepr depth}

/-- **Which cursors are decoded.** -/
theorem exists_decodeAnyCursor_iff (floatRepr : Numeral → String) (depth : ℕ) (cursor : String) :
    (∃ k, decodeAnyCursor floatRepr depth cursor = .ok k) ↔ IsIntCursor cursor := by
  unfold decodeAnyCursor IsIntCursor
  constructor
  · rintro ⟨k, h⟩
    obtain ⟨bytes, hbytes, h⟩ := bind_eq_ok.1 h
    obtain ⟨v, hv, hk⟩ := bind_eq_ok.1 h
    exact ⟨bytes, hbytes, (intOf_jsonLoads_iff _ floatRepr depth bytes).1 ⟨v, k, hv, hk⟩⟩
  · rintro ⟨bytes, hbytes, hjson⟩
    obtain ⟨v, k, hv, hk⟩ := (intOf_jsonLoads_iff _ floatRepr depth bytes).2 hjson
    exact ⟨k, bind_eq_ok.2 ⟨bytes, hbytes, bind_eq_ok.2 ⟨v, hv, hk⟩⟩⟩

/-- The cursor `IjQyIg==` is the base64 text of `"42"`. -/
example : decodeAnyCursor (fun _ => "") 1000 "IjQyIg==" = .ok 42 := by decide +kernel

lemma cursorId_some : cursorId (jsonNumber floatRepr depth) (some cursor) =
    if cursor = "" then .ok none else some <$> decodeAnyCursor floatRepr depth cursor := by
  rw [← decodeCursor_jsonNumber]
  rfl

lemma exists_cursorId_iff (floatRepr : Numeral → String) (depth : ℕ) (cursor : String) :
    (∃ id, cursorId (jsonNumber floatRepr depth) (some cursor) = .ok id) ↔ cursor = "" ∨ IsIntCursor cursor := by
  rw [cursorId_some, ← exists_decodeAnyCursor_iff floatRepr depth]
  by_cases hempty : cursor = ""
  · rw [if_pos hempty]
    exact iff_of_true ⟨_, rfl⟩ (.inl hempty)
  · rw [if_neg hempty, or_iff_right hempty]
    cases decodeAnyCursor floatRepr depth cursor with
    | error e => exact iff_of_false (fun ⟨_, h⟩ => nomatch h) (fun ⟨_, h⟩ => nomatch h)
    | ok k => exact iff_of_true ⟨_, rfl⟩ ⟨_, rfl⟩

/-- **What `decode_cursor` raises is not caught**: every request is answered with 500. -/
lemma status_of_error {e : BuiltinError} (h : cursorId (jsonNumber floatRepr depth) (some cursor) = .error e)
    (request : CursorRequest) : request.status floatRepr depth cursor = 500 := by
  unfold CursorRequest.status
  cases request with
  | users sees params t =>
    dsimp only
    unfold listUsers userPage
    rw [h]
    exact answerStatus_error e
  | notifications userId unreadOnly params t =>
    dsimp only
    unfold listNotifications
    rw [h]
    exact answerStatus_error e

lemma not_dealt_of_error {e : BuiltinError} (h : cursorId (jsonNumber floatRepr depth) (some cursor) = .error e) :
    ¬Dealt floatRepr depth cursor := by
  rintro (⟨id, hid⟩ | hrefused)
  · rw [h] at hid
    cases hid
  · have hstatus := hrefused (.users (fun _ => true) {} Table.empty)
    rw [status_of_error h] at hstatus
    exact absurd hstatus.2 (lt_irrefl _)

/-- What is decoded of a cursor that was encoded. -/
lemma encodeCursor_bind_decodeAnyCursor (n : ℤ) : encodeCursor n >>= decodeAnyCursor floatRepr depth =
    if Printable n then .ok n else .error .valueError := by
  by_cases h : Printable n
  · obtain ⟨cursor, hencode, -, hdecode⟩ := decodeCursor_encodeCursor (jsonNumber floatRepr depth) h
    rw [decodeCursor_jsonNumber] at hdecode
    rw [if_pos h, hencode]
    exact hdecode
  · unfold encodeCursor dumps
    rw [if_neg h, if_neg h]
    rfl

lemma subsingleton_encodeCursor (cursor : String) : {n : ℤ | encodeCursor n = .ok cursor}.Subsingleton := by
  intro m hm n hn
  have hm' := cursorId_of_encodeCursor (fun _ => .error .valueError) hm
  have hn' := cursorId_of_encodeCursor (fun _ => .error .valueError) hn
  exact Option.some.inj (Except.ok.inj (hm'.symm.trans hn'))

/-- **The cursors.** What is encoded is decoded, no two integers have one cursor, and a cursor is dealt with if and only
if it is empty or the base64 text of a number in JSON. -/
theorem cursors_dealt_iff (floatRepr : Numeral → String) (depth : ℕ) :
    (∀ n, encodeCursor n >>= decodeAnyCursor floatRepr depth = if Printable n then .ok n else .error .valueError) ∧
      (∀ cursor, {n : ℤ | encodeCursor n = .ok cursor}.Subsingleton) ∧
      ∀ cursor, Dealt floatRepr depth cursor ↔ cursor = "" ∨ IsIntCursor cursor := by
  refine ⟨encodeCursor_bind_decodeAnyCursor, subsingleton_encodeCursor, fun cursor => ?_⟩
  rw [← exists_cursorId_iff floatRepr depth]
  cases hid : cursorId (jsonNumber floatRepr depth) (some cursor) with
  | ok id => exact iff_of_true (.inl ⟨id, hid⟩) ⟨id, rfl⟩
  | error e => exact iff_of_false (not_dealt_of_error hid) fun ⟨_, h⟩ => nomatch h

/-- The cursor `bnVsbA==` is the base64 text of `null`. -/
theorem null_answered_500 : decodeAnyCursor (fun _ => "") 1000 "bnVsbA==" = .error .typeError ∧
    ¬Dealt (fun _ => "") 1000 "bnVsbA==" ∧
    CursorRequest.status (fun _ => "") 1000 "bnVsbA==" (.users (fun _ => true) {} Table.empty) = 500 ∧
    CursorRequest.status (fun _ => "") 1000 "bnVsbA==" (.notifications 1 false {} Table.empty) = 500 := by
  have hdecode : decodeAnyCursor (fun _ => "") 1000 "bnVsbA==" = .error .typeError := by decide +kernel
  have hid : cursorId (jsonNumber (fun _ => "") 1000) (some "bnVsbA==") = .error .typeError := by
    rw [cursorId_some, if_neg (by decide), hdecode]
    rfl
  exact ⟨hdecode, not_dealt_of_error hid, status_of_error hid _, status_of_error hid _⟩

end FastapiTemplate.Api
