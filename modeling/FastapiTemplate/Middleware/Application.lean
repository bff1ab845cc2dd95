import FastapiTemplate.Core.Signing
import FastapiTemplate.Middleware.TenantIPAccess

/-!
# The assembled application

The stack of middleware that `create_app` builds, each with what it lets through, in the order of the source: the last
one added sees a request first. So the rules of a tenant are looked up before the tenant is known, and no request is
refused for its address (`denied_refused_iff`).

Ten of them pass every request on and change nothing about a response but its headers and its body, or raise. The
routes, the limiter and the handling of preflight requests are parameters.
-/

namespace FastapiTemplate.Middleware

open Core Python

/-- The middleware that passes every request on, unless it raises. -/
inductive Passing where
  | compression
  | correlationID
  | queryCount
  | requestID
  | locale
  | requestLogging
  | errorLogging
  | securityHeaders
  | sqlInjectionMonitor
  | apiVersioning
  deriving DecidableEq

/-- What the application is run with. `limited` is what the limiter says, `late` is a request that takes longer than the
timeout, and `routes` is everything behind the middleware, given the current tenant. -/
structure Deployment where
  environment : Environment
  mac : Hmac
  secretKey : String
  rateLimitEnabled : Bool
  limited : Request → Bool
  late : Request → Bool
  defaultTenantId : Option ℤ
  rules : List TenantIPRule
  raises : Passing → Request → Bool
  annotate : Passing → Request → Response → Response
  status_annotate : ∀ p request response, (annotate p request response).status = response.status
  preflight : Request → Response
  status_preflight : ∀ request, (preflight request).status = 200 ∨ (preflight request).status = 400
  routes : App (Option ℤ) Request Response

namespace Deployment

variable (d : Deployment)

def passing (p : Passing) : Layer (Option ℤ) Request Response where
  enter currentTenant request := if d.raises p request then .raise else .pass currentTenant
  leave request result := { result with answer := result.answer.map (d.annotate p request) }

/-- `RequestTimeoutMiddleware.dispatch` -/
def requestTimeout : Layer (Option ℤ) Request Response where
  enter currentTenant _ := .pass currentTenant
  leave request result :=
    if d.late request then
      { result with answer := some { status := 408, body := "Request Timeout", headers := [("Connection", "close")] } }
    else result

def unlimitedPaths : List String := ["/healthz", "/readyz", "/metrics"]

/-- `RedisRateLimitMiddleware.dispatch`: `RateLimitException` is raised outside of its handler. -/
def redisRateLimit : Layer (Option ℤ) Request Response where
  enter currentTenant request :=
    if d.environment = .test || !d.rateLimitEnabled || unlimitedPaths.contains request.path then .pass currentTenant
    else if d.limited request then .raise
    else .pass currentTenant

/-- `_verify_token`; `compare_digest` raises for a signature that is not ASCII. -/
def verifyToken (value signature : String) : Except BuiltinError Bool :=
  compareDigest (d.mac.hexdigest d.secretKey.toUTF8 value.toUTF8) signature

/-- The first sixteen characters, and the others. -/
def tokenParts (token : String) : String × String :=
  (String.ofList (token.toList.take 16), String.ofList (token.toList.drop 16))

def forbidden (body : String) : Response where
  status := 403
  body := body

/-- `request.headers.get("X-CSRF-Token", "")`, or the last such field of the form. -/
def headerToken (request : Request) : Option String :=
  match request.header "X-CSRF-Token" with
  | some token => if token = "" then formToken else some token
  | none => formToken
where
  formToken : Option String := request.form.map fun fields =>
    ((fields.reverse.lookup "csrf_token").bind id).getD ""

/-- `_validate_request` -/
def validateRequest (request : Request) : Except BuiltinError (Option Response) := do
  let cookieToken := (request.cookies.lookup "csrf_token").getD ""
  match headerToken request with
  | none => .error .valueError
  | some headerToken =>
    if headerToken = "" || cookieToken = "" then return some (forbidden "CSRF token missing")
    else
      let (cookieValue, cookieSig) := tokenParts cookieToken
      let (headerValue, headerSig) := tokenParts headerToken
      if !(← d.verifyToken cookieValue cookieSig) then return some (forbidden "CSRF cookie invalid")
      else if !(← d.verifyToken headerValue headerSig) then return some (forbidden "CSRF token invalid")
      else if !(← compareDigest cookieValue headerValue) then return some (forbidden "CSRF token mismatch")
      else return none

def isProtected (request : Request) : Bool :=
  request.path.startsWith "/admin" && ["POST", "PUT", "PATCH", "DELETE"].contains request.method

/-- `CSRFTokenMiddleware.dispatch` protects the unsafe methods of the admin pages; the cookie that it sets is left out. -/
def csrfToken : Layer (Option ℤ) Request Response where
  enter currentTenant request :=
    if isProtected request then
      match d.validateRequest request with
      | .error _ => .raise
      | .ok (some error) => .answer error
      | .ok none => .pass currentTenant
    else .pass currentTenant

/-- A preflight request, which `CORSMiddleware` answers itself. -/
def isPreflight (request : Request) : Bool :=
  request.method == "OPTIONS" && (request.header "Origin").isSome &&
    (request.header "Access-Control-Request-Method").isSome

def cors : Layer (Option ℤ) Request Response where
  enter currentTenant request :=
    if isPreflight request then .answer (d.preflight request) else .pass currentTenant

/-- The calls of `add_middleware`, in order. -/
def added : List (Layer (Option ℤ) Request Response) :=
  [d.requestTimeout, d.passing .compression, d.passing .correlationID, d.passing .queryCount, d.passing .requestID,
    d.passing .locale, d.redisRateLimit, d.passing .requestLogging, d.passing .errorLogging, d.passing .securityHeaders,
    d.csrfToken, d.passing .sqlInjectionMonitor, d.passing .apiVersioning, tenantMiddleware d.defaultTenantId,
    tenantIPAccessMiddleware d.environment d.rules, d.cors]

/-- What the server makes of an exception. -/
def internalError (result : Result Response) : Result Response :=
  match result.answer with
  | some _ => result
  | none => { result with answer := some { status := 500, body := "INTERNAL_ERROR" } }

/-- `create_app`, asked without any tenant in the context. -/
def createApp (request : Request) : Result Response := internalError (stack d.added d.routes none request)

/-- The response is a 403. -/
def IsForbidden (response : Response) : Prop := response.status = 403

/-- The request passes the middleware behind the check of the tokens. -/
structure Reaches (tenantId : Option ℤ) (request : Request) : Prop where
  tokens : d.csrfToken.enter tenantId request = .pass tenantId
  quiet : ∀ p, d.raises p request = false
  limit : d.redisRateLimit.enter tenantId request = .pass tenantId
  inTime : d.late request = false

/-- The check of the tokens refuses the request. -/
def TokensRefused (request : Request) : Prop :=
  isProtected request = true ∧ ∃ error, d.validateRequest request = .ok (some error)

/-- Something else than the rules refuses the request: the check of the tokens, or the routes. -/
def RefusedElsewhere (tenantId : Option ℤ) (request : Request) : Prop :=
  isPreflight request = false ∧ d.raises .apiVersioning request = false ∧ d.raises .sqlInjectionMonitor request = false ∧
    (d.TokensRefused request ∨ d.Reaches tenantId request ∧ Refuses IsForbidden (d.routes tenantId request))

variable {d} {p : Passing} {app : App (Option ℤ) Request Response} {currentTenant : Option ℤ} {request : Request}

lemma refuses_passing : Refuses IsForbidden ((d.passing p).wrap app currentTenant request) ↔
    d.raises p request = false ∧ Refuses IsForbidden (app currentTenant request) := by
  cases hraises : d.raises p request with
  | true =>
    have henter : (d.passing p).enter currentTenant request = .raise := if_pos hraises
    simp [refuses_of_raise henter]
  | false =>
    have henter : (d.passing p).enter currentTenant request = .pass currentTenant := by simp [passing, hraises]
    rw [refuses_of_pass _ henter]
    · simp
    · intro request result
      simp [Refuses, passing, IsForbidden, d.status_annotate]

lemma refuses_requestTimeout : Refuses IsForbidden (d.requestTimeout.wrap app currentTenant request) ↔
    d.late request = false ∧ Refuses IsForbidden (app currentTenant request) := by
  cases hlate : d.late request with
  | true => simp [Refuses, Layer.wrap, requestTimeout, hlate, IsForbidden]
  | false => simp [Refuses, Layer.wrap, requestTimeout, hlate]

lemma refuses_redisRateLimit : Refuses IsForbidden (d.redisRateLimit.wrap app currentTenant request) ↔
    d.redisRateLimit.enter currentTenant request = .pass currentTenant ∧
      Refuses IsForbidden (app currentTenant request) := by
  have hcases : d.redisRateLimit.enter currentTenant request = .pass currentTenant ∨
      d.redisRateLimit.enter currentTenant request = .raise := by
    unfold redisRateLimit
    dsimp only
    split
    · exact .inl rfl
    · split
      · exact .inr rfl
      · exact .inl rfl
  rcases hcases with henter | henter
  · rw [refuses_of_pass (fun _ _ => Iff.rfl) henter]
    simp [henter]
  · simp [refuses_of_raise henter, henter]

/-- Every error of the check is a 403. -/
lemma status_of_validateRequest {error : Response} (h : d.validateRequest request = .ok (some error)) :
    IsForbidden error := by
  unfold validateRequest at h
  cases htoken : headerToken request with
  | none =>
    rw [htoken] at h
    cases h
  | some token =>
    rw [htoken] at h
    dsimp only at h
    split at h
    · obtain rfl := Option.some.inj (Except.ok.inj h)
      rfl
    · obtain ⟨cookieOk, -, h⟩ := bind_eq_ok.1 h
      split at h
      · obtain rfl := Option.some.inj (Except.ok.inj h)
        rfl
      · obtain ⟨headerOk, -, h⟩ := bind_eq_ok.1 h
        split at h
        · obtain rfl := Option.some.inj (Except.ok.inj h)
          rfl
        · obtain ⟨same, -, h⟩ := bind_eq_ok.1 h
          split at h
          · obtain rfl := Option.some.inj (Except.ok.inj h)
            rfl
          · cases h

lemma refuses_csrfToken : Refuses IsForbidden (d.csrfToken.wrap app currentTenant request) ↔
    d.TokensRefused request ∨ d.csrfToken.enter currentTenant request = .pass currentTenant ∧
      Refuses IsForbidden (app currentTenant request) := by
  by_cases hprotected : isProtected request = true
  · have henter : d.csrfToken.enter currentTenant request = match d.validateRequest request with
        | .error _ => .raise
        | .ok (some error) => .answer error
        | .ok none => .pass currentTenant := if_pos hprotected
    cases hvalid : d.validateRequest request with
    | error e =>
      rw [hvalid] at henter
      simp [refuses_of_raise henter, henter, TokensRefused, hvalid]
    | ok verdict =>
      rw [hvalid] at henter
      cases verdict with
      | none =>
        rw [refuses_of_pass (fun _ _ => Iff.rfl) henter]
        simp [henter, TokensRefused, hvalid]
      | some error =>
        rw [refuses_of_answer henter]
        simp only [TokensRefused, hprotected, hvalid, true_and]
        exact ⟨fun _ => .inl ⟨error, rfl⟩, fun _ => status_of_validateRequest hvalid⟩
  · have henter : d.csrfToken.enter currentTenant request = .pass currentTenant := if_neg hprotected
    rw [refuses_of_pass (fun _ _ => Iff.rfl) henter]
    simp [henter, TokensRefused, hprotected]

lemma refuses_cors : Refuses IsForbidden (d.cors.wrap app currentTenant request) ↔
    isPreflight request = false ∧ Refuses IsForbidden (app currentTenant request) := by
  cases hpreflight : isPreflight request with
  | true =>
    have henter : d.cors.enter currentTenant request = .answer (d.preflight request) := if_pos hpreflight
    rw [refuses_of_answer henter]
    rcases d.status_preflight request with hstatus | hstatus <;> simp [IsForbidden, hstatus]
  | false =>
    have henter : d.cors.enter currentTenant request = .pass currentTenant := by simp [cors, hpreflight]
    rw [refuses_of_pass (fun _ _ => Iff.rfl) henter]
    simp

lemma refuses_internalError {result : Result Response} :
    Refuses IsForbidden (internalError result) ↔ Refuses IsForbidden result := by
  unfold internalError
  cases hanswer : result.answer with
  | none => simp [Refuses, hanswer, IsForbidden]
  | some response => rfl

/-- **A request that the rules deny is refused, exactly if** something else refuses it: the middleware with the rules
would refuse it for its tenant, but does not get to know it. -/
theorem denied_refused_iff {tenantId : ℤ} (henvironment : d.environment ≠ .test) (h : Denied d.rules tenantId request) :
    (tenantIPAccessMiddleware d.environment d.rules).enter (some tenantId) request = .answer accessDenied ∧
      (Refuses IsForbidden (d.createApp request) ↔ d.RefusedElsewhere (some tenantId) request) := by
  refine ⟨answer_of_denied henvironment h, ?_⟩
  have htenant : (tenantMiddleware d.defaultTenantId).enter none request = .pass (some tenantId) := by
    unfold tenantMiddleware
    dsimp only
    rw [h.1]
  have hstack : stack d.added d.routes none request = d.cors.wrap
      ((tenantIPAccessMiddleware d.environment d.rules).wrap ((tenantMiddleware d.defaultTenantId).wrap
        (stack (d.added.take 13) d.routes))) none request := rfl
  rw [createApp, refuses_internalError, hstack, refuses_cors, refuses_of_pass (fun _ _ => Iff.rfl) pass_of_none,
    refuses_of_pass (fun _ _ => Iff.rfl) htenant]
  simp only [added, List.take_succ_cons, List.take_zero, stack, List.foldl_cons, List.foldl_nil, refuses_passing,
    refuses_csrfToken, refuses_redisRateLimit, refuses_requestTimeout]
  constructor
  · rintro ⟨hpreflight, hversion, hmonitor, htokens | ⟨htokens, hsecurity, herror, hlogging, hlimit, hlocale, hid, hcount,
      hcorrelation, hcompression, hlate, hroutes⟩⟩
    · exact ⟨hpreflight, hversion, hmonitor, .inl htokens⟩
    · refine ⟨hpreflight, hversion, hmonitor, .inr ⟨⟨htokens, fun p => ?_, hlimit, hlate⟩, hroutes⟩⟩
      cases p <;> assumption
  · rintro ⟨hpreflight, hversion, hmonitor, htokens | ⟨⟨htokens, hquiet, hlimit, hlate⟩, hroutes⟩⟩
    · exact ⟨hpreflight, hversion, hmonitor, .inl htokens⟩
    · exact ⟨hpreflight, hversion, hmonitor, .inr ⟨htokens, hquiet _, hquiet _, hquiet _, hlimit, hquiet _, hquiet _,
        hquiet _, hquiet _, hquiet _, hlate, hroutes⟩⟩

end Deployment

namespace Sample

/-- Tenant 7 lets nobody in from this network. -/
def rules : List TenantIPRule := [{ tenantId := 7, ipOrCidr := "203.0.113.0/24", action := .deny, priority := 0 }]

/-- A request for tenant 7 from there. -/
def visit : Request where
  method := "GET"
  path := "/api/v1/users"
  headers := [("x-tenant-id", "7")]
  client := some "203.0.113.5"

def zeroMac : Hmac where
  hexdigest _ _ := String.ofList (List.replicate 64 '0')
  hex key message c hc := by
    rw [String.toList_ofList] at hc
    rw [List.eq_of_mem_replicate hc]
    decide
  length key message := by rw [String.length_ofList, List.length_replicate]

/-- An application in production, in which nothing but the rules refuses anything. -/
def production : Deployment where
  environment := .production
  mac := zeroMac
  secretKey := "secret"
  rateLimitEnabled := true
  limited _ := false
  late _ := false
  defaultTenantId := none
  rules := rules
  raises _ _ := false
  annotate _ _ response := response
  status_annotate _ _ _ := rfl
  preflight _ := { status := 200, body := "OK" }
  status_preflight _ := .inl rfl
  routes _ _ := { answer := some { status := 200, body := "[]" }, endpointRun := true }

lemma denied_visit : Denied rules 7 visit := by
  have htenant : visit.header "X-Tenant-ID" = some "7" := by decide +kernel
  have hforwarded : visit.header "X-Forwarded-For" = none := by decide +kernel
  refine ⟨?_, "203.0.113.5", ?_, by decide, ?_, .inl ?_⟩
  · have hdigit : ("7" != "" && "7".toList.all isdigit) = true := by decide
    unfold headerTenant
    rw [htenant]
    dsimp only
    rw [if_pos hdigit, if_pos (by decide)]
    exact congrArg (some <$> ·) (pyInt_toString 7)
  · unfold parseForwardedFor
    rw [hforwarded]
    rfl
  · simp [rulesOf, rules]
  · decide +kernel

end Sample

open Sample in
theorem denied_refused_visit : Refuses Deployment.IsForbidden (production.createApp visit) ↔
    production.RefusedElsewhere (some 7) visit :=
  (Deployment.denied_refused_iff (by decide) denied_visit).2

open Sample in
/-- The endpoint is run, and answers. -/
theorem denied_not_refused : Denied production.rules 7 visit ∧ (production.createApp visit).endpointRun = true ∧
    ¬Refuses Deployment.IsForbidden (production.createApp visit) := by
  have hrun : (production.createApp visit).endpointRun = true := by decide +kernel
  refine ⟨denied_visit, hrun, fun h => ?_⟩
  rw [h.1] at hrun
  cases hrun

end FastapiTemplate.Middleware
