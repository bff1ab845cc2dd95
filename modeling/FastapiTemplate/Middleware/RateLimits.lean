import FastapiTemplate.Middleware.TenantIPAccess

/-!
# Which limit a request is checked against

`RedisRateLimitMiddleware` looks for the endpoint of a request among the routes, to find a limit of its own on it. It
takes the first route that lists the method: what `route.matches` returns is true for every route, as the members of an
enumeration are. So the limit is that of the endpoint which is served only if the first route with the method happens to
lead there (`limit_of_served_iff`).
-/

namespace FastapiTemplate.Middleware

open Python

/-! ### Routes -/

/-- `Match`: `NONE`, `PARTIAL` and `FULL`. -/
inductive Match where
  | no
  | byPath
  | full
  deriving DecidableEq, Repr

/-- `bool(match)`; a plain `Enum` gives its members no truth value of their own. -/
def Match.truthy : Match → Bool
  | no | byPath | full => true

/-- The attribute `methods` of a route: a mount has none, and a route to an ASGI application may have `None`. -/
inductive Methods where
  | missing
  | unset
  | listed (methods : List String)
  deriving DecidableEq, Repr

/-- `hasattr(route, "methods") and method in route.methods` -/
def Methods.lists (method : String) : Methods → Except BuiltinError Bool
  | missing => .ok false
  | unset => .error .typeError
  | listed methods => .ok (methods.contains method)

structure Route (ε : Type) where
  methods : Methods
  matched : Request → Match
  endpoint : ε

variable {ε : Type}

/-- The endpoint that the router dispatches to: that of the first route that matches in full. -/
def served (routes : List (Route ε)) (request : Request) : Option ε :=
  (routes.find? fun route => route.matched request == .full).map Route.endpoint

/-- `_find_handler` -/
def findHandler (routes : List (Route ε)) (request : Request) : Except BuiltinError (Option ε) :=
  match routes with
  | [] => .ok none
  | route :: rest => do
    if ← route.methods.lists request.method then
      if (route.matched request).truthy then return some route.endpoint else findHandler rest request
    else findHandler rest request

/-! ### Limits -/

/-- The settings of the middleware; `apiV1Str` is `settings.API_V1_STR`. -/
structure RateLimitSettings where
  environment : Environment
  enabled : Bool := true
  apiV1Str : String := "/api/v1"
  windowSeconds : ℤ := 60
  sensitive : ℤ := 5
  anyone : ℤ := 20
  authenticated : ℤ := 100
  admin : ℤ := 300

/-- What a request is checked against. -/
structure RateLimit where
  key : String
  limit : ℤ
  window : ℤ
  deriving DecidableEq, Repr

section Limits

variable (cfg : RateLimitSettings) (sha256 : String → String) (config : ε → Option (ℤ × ℤ))

def sensitivePrefixes : List String :=
  ["/auth/login", "/auth/register", "/auth/oauth", "/auth/totp", "/auth/magic-link"].map (cfg.apiV1Str ++ ·)

/-- `_get_remote_address` -/
def getRemoteAddress (request : Request) : String :=
  match request.header "X-Forwarded-For" with
  | some forwarded =>
    if forwarded = "" then request.client.getD "127.0.0.1" else strip ((split ',' forwarded).headD "")
  | none => request.client.getD "127.0.0.1"

/-- `_get_identifier`; `userId` is `request.state.user_id`. -/
def getIdentifier (request : Request) (userId : Option String) : String := userId.getD (getRemoteAddress request)

/-- `_get_tier_config` -/
def getTierConfig (path : String) (authenticated : Bool) : String × ℤ × ℤ :=
  if path.startsWith "/admin" then ("admin", cfg.admin, cfg.windowSeconds)
  else if (sensitivePrefixes cfg).any fun start => path.startsWith start then
    ("sensitive", cfg.sensitive, cfg.windowSeconds)
  else if authenticated then ("authenticated", cfg.authenticated, cfg.windowSeconds)
  else ("public", cfg.anyone, cfg.windowSeconds)

/-- `_hash_key`: the first sixteen digits of the digest. -/
def hashKey (value : String) : String := String.ofList ((sha256 value).toList.take 16)

/-- The limit of a handler: the one of its decorator, or that of the tier. -/
def limitOf (request : Request) (userId : Option String) (handler : Option ε) : RateLimit :=
  let identifier := getIdentifier request userId
  let (tierName, tierLimit, tierWindow) := getTierConfig cfg request.path userId.isSome
  match handler.bind config with
  | some (customLimit, customWindow) =>
    { key := "rate_limit:custom:" ++ hashKey sha256 identifier ++ ":" ++ hashKey sha256 request.path
      limit := customLimit
      window := customWindow }
  | none => { key := "rate_limit:" ++ tierName ++ ":" ++ hashKey sha256 identifier, limit := tierLimit, window := tierWindow }

/-- What `dispatch` checks a request against, if it checks it. -/
def limitApplied (routes : List (Route ε)) (request : Request) (userId : Option String) :
    Except BuiltinError (Option RateLimit) :=
  if cfg.environment = .test || !cfg.enabled || ["/healthz", "/readyz", "/metrics"].contains request.path then .ok none
  else do
    let handler ← findHandler routes request
    return some (limitOf cfg sha256 config request userId handler)

end Limits

/-! ### Which route is found -/

/-- The first route that lists the method of the request. -/
def ListsFirst (routes : List (Route ε)) (request : Request) (route : Route ε) : Prop :=
  ∃ before after, routes = before ++ route :: after ∧
    (∀ r ∈ before, r.methods.lists request.method = .ok false) ∧ route.methods.lists request.method = .ok true

/-- No route lists the method and none matches in full, or the first that lists it leads where the first that matches in
full does. -/
def Agrees (routes : List (Route ε)) (request : Request) : Prop :=
  (∀ route ∈ routes, route.methods.lists request.method = .ok false ∧ route.matched request ≠ .full) ∨
    ∃ route, ListsFirst routes request route ∧ served routes request = some route.endpoint

section Find

variable {routes : List (Route ε)} {request : Request}

lemma findHandler_of_lists {route : Route ε} (h : route.methods.lists request.method = .ok true) :
    findHandler (route :: routes) request = .ok (some route.endpoint) := by
  have htrue : (route.matched request).truthy = true := by cases route.matched request <;> rfl
  unfold findHandler
  rw [h]
  show (if (route.matched request).truthy then _ else _ : Except BuiltinError (Option ε)) = _
  rw [if_pos htrue]
  rfl

lemma findHandler_of_not_lists {route : Route ε} (h : route.methods.lists request.method = .ok false) :
    findHandler (route :: routes) request = findHandler routes request := by
  rw [findHandler, h]
  rfl

/-- **What is found**: the first route that lists the method, whatever its path is. -/
theorem findHandler_eq_some {e : ε} : findHandler routes request = .ok (some e) ↔
    ∃ route, ListsFirst routes request route ∧ route.endpoint = e := by
  induction routes with
  | nil =>
    refine ⟨nofun, ?_⟩
    rintro ⟨route, ⟨before, after, hsplit, -⟩, -⟩
    exact absurd hsplit (by simp)
  | cons r rest ih =>
    cases hlists : r.methods.lists request.method with
    | error err =>
      have hfind : findHandler (r :: rest) request = .error err := by
        rw [findHandler, hlists]
        rfl
      rw [hfind]
      refine ⟨nofun, ?_⟩
      rintro ⟨route, ⟨before, after, hsplit, hbefore, hroute⟩, -⟩
      rcases List.cons_eq_append_iff.1 hsplit with ⟨-, hhead⟩ | ⟨tail, rfl, -⟩
      · obtain ⟨rfl, -⟩ := List.cons.inj hhead
        rw [hlists] at hroute
        cases hroute
      · have hr := hbefore r List.mem_cons_self
        rw [hlists] at hr
        cases hr
    | ok listed =>
      cases listed with
      | true =>
        rw [findHandler_of_lists hlists]
        constructor
        · intro h
          exact ⟨r, ⟨[], rest, rfl, nofun, hlists⟩, Option.some.inj (Except.ok.inj h)⟩
        · rintro ⟨route, ⟨before, after, hsplit, hbefore, hroute⟩, rfl⟩
          rcases List.cons_eq_append_iff.1 hsplit with ⟨-, hhead⟩ | ⟨tail, rfl, -⟩
          · rw [(List.cons.inj hhead).1]
          · have hr := hbefore r List.mem_cons_self
            rw [hlists] at hr
            cases hr
      | false =>
        rw [findHandler_of_not_lists hlists, ih]
        constructor
        · rintro ⟨route, ⟨before, after, rfl, hbefore, hroute⟩, he⟩
          exact ⟨route, ⟨r :: before, after, rfl, List.forall_mem_cons.2 ⟨hlists, hbefore⟩, hroute⟩, he⟩
        · rintro ⟨route, ⟨before, after, hsplit, hbefore, hroute⟩, he⟩
          rcases List.cons_eq_append_iff.1 hsplit with ⟨-, hhead⟩ | ⟨tail, rfl, hrest⟩
          · obtain ⟨rfl, -⟩ := List.cons.inj hhead
            rw [hlists] at hroute
            cases hroute
          · exact ⟨route, ⟨tail, after, hrest, (List.forall_mem_cons.1 hbefore).2, hroute⟩, he⟩

lemma findHandler_eq_none : findHandler routes request = .ok none ↔
    ∀ route ∈ routes, route.methods.lists request.method = .ok false := by
  induction routes with
  | nil => exact iff_of_true rfl nofun
  | cons r rest ih =>
    rw [List.forall_mem_cons]
    cases hlists : r.methods.lists request.method with
    | error err =>
      rw [findHandler, hlists]
      exact ⟨nofun, fun h => nomatch h.1⟩
    | ok listed =>
      cases listed with
      | true =>
        rw [findHandler_of_lists hlists]
        exact ⟨nofun, fun h => nomatch h.1⟩
      | false => rw [findHandler_of_not_lists hlists, ih, and_iff_right rfl]

lemma served_eq_none : served routes request = none ↔ ∀ route ∈ routes, route.matched request ≠ .full := by
  unfold served
  rw [Option.map_eq_none_iff, List.find?_eq_none]
  simp

/-- **When the handler is the endpoint that is served.** -/
theorem findHandler_eq_served_iff : findHandler routes request = .ok (served routes request) ↔ Agrees routes request := by
  unfold Agrees
  cases hserved : served routes request with
  | none =>
    have hfull := served_eq_none.1 hserved
    rw [findHandler_eq_none]
    constructor
    · exact fun h => .inl fun route hroute => ⟨h route hroute, hfull route hroute⟩
    · rintro (h | ⟨route, -, hnone⟩)
      · exact fun route hroute => (h route hroute).1
      · cases hnone
  | some e =>
    rw [findHandler_eq_some]
    constructor
    · rintro ⟨route, hfirst, rfl⟩
      exact .inr ⟨route, hfirst, rfl⟩
    · rintro (h | ⟨route, hfirst, he⟩)
      · rw [served_eq_none.2 fun route hroute => (h route hroute).2] at hserved
        cases hserved
      · exact ⟨route, hfirst, (Option.some.inj he).symm⟩

end Find

/-- **When a request is checked against the limit of what it is served**: exactly if the first route with its method
leads to the endpoint that is served, or neither is there. -/
theorem limit_of_served_iff (cfg : RateLimitSettings) (sha256 : String → String) (config : ε → Option (ℤ × ℤ))
    (routes : List (Route ε)) (request : Request) (userId : Option String) :
    (findHandler routes request = .ok (served routes request) ∧
      (limitApplied cfg sha256 config routes request userId = .ok none ∨
        limitApplied cfg sha256 config routes request userId =
          .ok (some (limitOf cfg sha256 config request userId (served routes request))))) ↔
      Agrees routes request := by
  rw [← findHandler_eq_served_iff]
  refine ⟨And.left, fun h => ⟨h, ?_⟩⟩
  unfold limitApplied
  split
  · exact .inl rfl
  · rw [h]
    exact .inr rfl

namespace Sample

/-- A route of one path and one method. -/
def simpleRoute (method path endpoint : String) : Route String where
  methods := .listed [method]
  matched request := if request.path = path then if request.method = method then .full else .byPath else .no
  endpoint := endpoint

/-- The documentation comes first, as in every application, then an expensive endpoint. -/
def twoRoutes : List (Route String) :=
  [simpleRoute "GET" "/openapi.json" "openapi", simpleRoute "GET" "/expensive" "expensive"]

/-- `@rate_limit(times=5, seconds=30)` on the expensive endpoint. -/
def expensiveConfig (endpoint : String) : Option (ℤ × ℤ) := if endpoint = "expensive" then some (5, 30) else none

/-- The digests of the two texts that occur. -/
def digests (value : String) : String :=
  if value = "127.0.0.1" then "12ca17b49af2289436f303e0166030a21e525d266e209267433801a8fd4071a0"
  else if value = "/expensive" then "25c8f9d280899dc14af88190f5dcde68e60b72c96fcf260560a94123b21f42c8"
  else "e3b0c44298fc1c149afbf4c8996fb92427ae41e4649b934ca495991b7852b855"

def expensiveRequest : Request where
  method := "GET"
  path := "/expensive"
  headers := []

end Sample

open Sample in
/-- The expensive endpoint is served, and checked against the limit of its tier. -/
theorem expensive_unlimited :
    served twoRoutes expensiveRequest = some "expensive" ∧
      findHandler twoRoutes expensiveRequest = .ok (some "openapi") ∧
      limitApplied { environment := .production } digests expensiveConfig twoRoutes expensiveRequest none =
        .ok (some ⟨"rate_limit:public:12ca17b49af22894", 20, 60⟩) ∧
      limitOf { environment := .production } digests expensiveConfig expensiveRequest none (some "expensive") =
        ⟨"rate_limit:custom:12ca17b49af22894:25c8f9d280899dc1", 5, 30⟩ := by
  decide +kernel

end FastapiTemplate.Middleware
