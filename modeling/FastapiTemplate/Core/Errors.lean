import FastapiTemplate.Database.Models

/-!
# Exceptions

What the modelled code raises: the built-ins, the state machines' own exceptions, the application
exceptions with the text of their detail, FastAPI's `HTTPException`, the errors of SQLAlchemy and of
the database, and whatever the event bus and the Redis client raise.
-/

namespace FastapiTemplate.Core

open Database

inductive Exn where
  | builtin (e : Python.BuiltinError)
  | valueError (message : String)
  | illegalTransition (current target : SubscriptionStatus)
  | illegalInvoiceTransition (current target : InvoiceStatus)
  | notFound (detail : String)
  | badRequest (detail : String)
  | conflict (detail : String)
  | http (statusCode : ℕ) (detail : String)
  | rateLimit (detail : String)
  /-- A constraint refuses the transaction. -/
  | integrityError
  /-- A statement fails for any other reason: the connection, a time-out. -/
  | operationalError
  /-- A statement after a failed one, before `rollback`. -/
  | inFailedTransaction
  | staleData
  | multipleResultsFound
  | invalidRequest
  /-- An attribute of an expired row is read. -/
  | missingGreenlet
  | bus
  | redis
  deriving DecidableEq

/-- `str(exc)` where another message quotes it; for an error of the database its class name stands
for the driver's text. -/
def Exn.str : Exn → String
  | .valueError message => message
  | .illegalTransition current target =>
    "Illegal subscription transition: " ++ current.value ++ " -> " ++ target.value
  | .illegalInvoiceTransition current target =>
    "Illegal invoice transition: " ++ current.value ++ " -> " ++ target.value
  | .integrityError => "IntegrityError"
  | .operationalError => "OperationalError"
  | .inFailedTransaction => "InFailedSQLTransactionError"
  | .staleData => "StaleDataError"
  | .multipleResultsFound => "MultipleResultsFound"
  | _ => ""

/-- A built-in that may raise. -/
def liftBuiltin {α : Type} : Except Python.BuiltinError α → Except Exn α
  | .ok a => .ok a
  | .error e => .error (.builtin e)

@[simp] lemma liftBuiltin_eq_ok {α : Type} {x : Except Python.BuiltinError α} {a : α} :
    liftBuiltin x = .ok a ↔ x = .ok a := by
  cases x <;> simp [liftBuiltin]

end FastapiTemplate.Core
