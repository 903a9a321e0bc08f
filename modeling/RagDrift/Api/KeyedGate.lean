import RagDrift.Api.RateWindow
import RagDrift.Collections.Counting
import Mathlib.Data.List.Dedup

set_option autoImplicit false

/- `api.middleware.auth` in front of the rate limiter: the two dependencies of the telemetry
router, which every request passes in this order. -/
namespace RagDrift.Api

open Timeline

/-- The settings that the two dependencies read. -/
structure GateSettings where
  apiKeyRequired : Bool
  apiKeys : List String
  rateLimitPerMinute : Int

structure TelemetryRequest extends Request where
  path : String
  authorization : Option String

structure HTTPException where
  statusCode : Nat
  detail : String
  deriving DecidableEq

def healthPaths : List String := ["/healthz", "/readyz"]

def metricsPath : String := "/metrics"

def isPublicPath (path : String) : Bool := path ∈ healthPaths ∨ path = metricsPath

/-- `auth_header[len("Bearer ") :]` of a header that starts so. -/
def bearerKey (authHeader : String) : Option String :=
  if "Bearer ".toList <+: authHeader.toList then
    some (String.ofList (authHeader.toList.drop "Bearer ".length))
  else none

/-- The key of a request: its own header, or the bearer token where that is missing or empty. -/
def TelemetryRequest.presentedKey (request : TelemetryRequest) : Option String :=
  if request.apiKey.getD "" = "" then
    (bearerKey (request.authorization.getD "")).or request.apiKey
  else request.apiKey

def unauthorized : HTTPException := ⟨401, "Invalid or missing API key"⟩

def verifyApiKey (settings : GateSettings) (request : TelemetryRequest) :
    Except HTTPException (Option String) :=
  if !settings.apiKeyRequired || isPublicPath request.path then .ok none
  else
    match request.presentedKey with
    | some apiKey =>
        if apiKey = "" ∨ apiKey ∉ settings.apiKeys then .error unauthorized else .ok (some apiKey)
    | none => .error unauthorized

/-- A request with the clock reading the rate limiter makes for it. -/
structure GateCall (K : Type) where
  request : TelemetryRequest
  now : K

variable {K : Type}

def GateCall.call (call : GateCall K) : Call K := ⟨call.request.toRequest, call.now⟩

abbrev GateCall.client (call : GateCall K) : String := getClientId call.request.toRequest

def verified (settings : GateSettings) (call : GateCall K) : Bool :=
  (verifyApiKey settings call.request).isOk

variable [Field K] [LinearOrder K] [FloorRing K]

variable {settings : GateSettings} {requests : Requests K} {call : GateCall K}

/-- What reaches the rate limiter. -/
def passed (settings : GateSettings) (calls : List (GateCall K)) : List (Call K) :=
  (calls.filter (verified settings)).map GateCall.call

section Window

variable [IsStrictOrderedRing K] {calls : List (GateCall K)}

end Window

/-- A request with a key in its own header, and one with the key as a token. -/
def headerCall (key : String) (now : K) : GateCall K :=
  ⟨⟨⟨some key, none⟩, "/v1/telemetry/frames", none⟩, now⟩

def tokenCall (key host : String) (now : K) : GateCall K :=
  ⟨⟨⟨none, some host⟩, "/v1/telemetry/frames", some ("Bearer " ++ key)⟩, now⟩

def mixedCalls : List (GateCall ℚ) :=
  [headerCall "key" 0, tokenCall "key" "10.0.0.7" 1, tokenCall "other" "10.0.0.7" 2,
    headerCall "key" 60]

end RagDrift.Api
