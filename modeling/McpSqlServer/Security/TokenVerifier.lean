import McpSqlServer.Library.Python.Exc
import McpSqlServer.Library.Python.Value
import McpSqlServer.Library.Transition
import Mathlib.Data.Rat.Defs
import Mathlib.Logic.Function.Basic

namespace McpSqlServer.TokenVerifier

open Library.Text Library.Python

structure AzureEntraTokenVerifier where
  tenantId : Str
  clientId : Str
  identifierUri : Option Str := none
  requiredScopes : Option (List Str) := none
  groupClaimName : Str := "groups".toList
  configCacheTtlSec : ℤ := 300

/-- The `kid` and `alg` of a token; the header of a token whose `kid` is no string is refused. -/
structure Header where
  kid : Option Str
  alg : Value

/-- What the verifier uses of the `jwt` package, with `str()` of a container and `int()` of a
float, which is an `object` of JSON. -/
structure Jwt where
  Key : Type
  isPyJwtError : Exc → Bool
  getUnverifiedHeader : Str → Except Exc Header
  fromJwk : Dict Value → Except Exc Key
  decode (token : Str) (key : Key) (algorithms : List Str) (audience issuer : Str) (require : List Str) (now : ℚ) :
    Except Exc Value
  containerText : Value → Str
  floatInt : Str → Except Exc ℤ

structure AccessToken where
  token : Str
  clientId : Str
  scopes : List Str
  expiresAt : Option ℤ
  claims : Dict Value

variable (V : AzureEntraTokenVerifier) (J : Jwt)

namespace AzureEntraTokenVerifier

def discoveryUrl : Str :=
  "https://login.microsoftonline.com/".toList ++ V.tenantId ++ "/v2.0/.well-known/openid-configuration".toList

def audience : Str := (V.identifierUri.filter (fun s ↦ !s.isEmpty)).getD V.clientId

def validateRequiredScopes (scopes : List Str) : Bool := (V.requiredScopes.getD []).all (fun scope ↦ scope ∈ scopes)

end AzureEntraTokenVerifier

def Jwt.str (v : Value) : Str := pyStr J.containerText v

def openidPayload : Value → Option (Dict Value)
  | .dict d => if (Row.get d "jwks_uri".toList).truthy && (Row.get d "issuer".toList).truthy then some d else none
  | _ => none

def jwksPayload : Value → Option (Dict Value)
  | .dict d => match d.lookup "keys".toList with
    | some (.list _) => some d
    | _ => none
  | _ => none

def jwksKeys (jwks : Dict Value) : List Value :=
  match jwks.lookup "keys".toList with
  | some (.list keys) => keys
  | _ => []

def attributeError : Exc := .ofMessage .other "AttributeError".toList "object has no attribute 'get'".toList

/-- `next((k for k in keys if k.get("kid") == kid), None)`; only a dictionary has a `get`. -/
def findKey (kid : Str) : List Value → Except Exc (Option (Dict Value))
  | [] => .ok none
  | .dict k :: keys =>
    match k.lookup "kid".toList with
    | some (.str s) => if s = kid then .ok (some k) else findKey kid keys
    | _ => findKey kid keys
  | _ :: _ => .error attributeError

section Claims

variable [UnicodeData]

def extractScopes (claims : Dict Value) : List Str :=
  match claims.lookup "scp".toList with
  | some (.str value) => ((value.splitOn ' ').map strip).filter (fun scope ↦ !scope.isEmpty)
  | _ => []

def Jwt.expiresAt : Value → Except Exc (Option ℤ)
  | .bool b => .ok (some (if b then 1 else 0))
  | .int n => .ok (some n)
  | .object text => (J.floatInt text).map some
  | _ => .ok none

def firstTruthy (default : Value) (values : List Value) : Value := (values.find? Value.truthy).getD default

def accessToken (token : Str) (claims : Dict Value) : Except Exc (Option AccessToken) :=
  let scopes := extractScopes claims
  if V.validateRequiredScopes scopes = false then .ok none
  else
    let claims := if V.groupClaimName ≠ [] ∧ (claims.lookup V.groupClaimName).isNone then
      setItem V.groupClaimName (.list []) claims else claims
    let clientId := firstTruthy (.str V.clientId) [Row.get claims "azp".toList, Row.get claims "appid".toList,
      Row.get claims "aud".toList]
    (J.expiresAt (Row.get claims "exp".toList)).map
      (fun expiresAt ↦ some ⟨token, J.str clientId, scopes, expiresAt, claims⟩)

def orNone (e : Exc) : Except Exc (Option AccessToken) := if e.caught then .ok none else .error e

def decodeToken (token : Str) (keyData : Dict Value) (issuer : Str) (now : ℚ) : Except Exc (Option AccessToken) :=
  match J.fromJwk keyData with
  | .error e => orNone e
  | .ok key =>
    match J.decode token key ["RS256".toList] V.audience issuer ["exp".toList, "iss".toList, "aud".toList] now with
    | .error e => orNone e
    | .ok (.dict claims) => accessToken V J token claims
    | .ok _ => .ok none

def headerKid (token : Str) : Except (Except Exc (Option AccessToken)) Str :=
  match J.getUnverifiedHeader token with
  | .error e => .error (if J.isPyJwtError e then .ok none else .error e)
  | .ok header =>
    match header.kid with
    | none | some [] => .error (.ok none)
    | some kid => if header.alg.truthy then .ok kid else .error (.ok none)

end Claims

inductive DocumentKind
  | openid
  | jwks
  deriving DecidableEq

/-- A document that passed its payload check, the time that was read in front of its request,
and the call and the address of the request. -/
structure Fetched where
  kind : DocumentKind
  document : Dict Value
  requestedAt : ℚ
  requestedBy : ℕ
  url : Str

def Jwt.jwksUri (openid : Fetched) : Str := J.str (Row.get openid.document "jwks_uri".toList)

def Jwt.issuer (openid : Fetched) : Str := J.str (Row.get openid.document "issuer".toList)

/-- What `_get_openid_config` and `_get_jwks` return without a request. -/
def AzureEntraTokenVerifier.cached (now : ℚ) (cache : Option Fetched) : Option Fetched :=
  cache.filter (fun f ↦ !f.document.isEmpty && decide (now - f.requestedAt < V.configCacheTtlSec))

/-- Where a call of `verify_token` is: in front of one of its awaited calls, waiting for the
response to a request, in front of `jwt.decode`, or at its end. -/
inductive Phase
  | getOpenid
  | awaitOpenid (now : ℚ) (response : Option (Except Exc Value))
  | getJwks (openid : Fetched) (forceRefresh : Bool)
  | awaitJwks (openid : Fetched) (forceRefresh : Bool) (now : ℚ) (response : Option (Except Exc Value))
  | decode (openid jwks : Fetched) (keyData : Dict Value)
  | done (result : Except Exc (Option AccessToken)) (endedAt : ℚ)

structure Call where
  token : Str
  startedAt : ℚ
  phase : Phase
  reads : List (Fetched × ℚ) := []
  published : List Value

def Call.ended (call : Call) : Bool :=
  match call.phase with
  | .done _ _ => true
  | _ => false

def Call.goto (call : Call) (phase : Phase) : Call := { call with phase := phase }

def Call.witness (payload : Value) (call : Call) : Call :=
  if call.ended then call else { call with published := payload :: call.published }

def Call.start (token : Str) (now : ℚ) (published : Value) : Call where
  token := token
  startedAt := now
  phase := match headerKid J token with
    | .error result => .done result now
    | .ok _ => .getOpenid
  published := [published]

def Call.kid (call : Call) : Str :=
  match headerKid J call.token with
  | .error _ => []
  | .ok kid => kid

def searchKeys (call : Call) (openid jwks : Fetched) (forceRefresh : Bool) (now : ℚ) : Phase :=
  match findKey (call.kid J) (jwksKeys jwks.document) with
  | .error e => .done (orNone e) now
  | .ok (some keyData) => .decode openid jwks keyData
  | .ok none => if forceRefresh then .done (.ok none) now else .getJwks openid true

/-- The first part of `_get_openid_config` or `_get_jwks`: the cache is read or a request is sent. -/
def Call.get (openidCache jwksCache : Option Fetched) (now : ℚ) (call : Call) : Option Call :=
  match call.phase with
  | .getOpenid =>
    match V.cached now openidCache with
    | some f => some { call with phase := .getJwks f false, reads := (f, now) :: call.reads }
    | none => some (call.goto (.awaitOpenid now none))
  | .getJwks openid forceRefresh =>
    match if forceRefresh then none else V.cached now jwksCache with
    | some f => some { call with phase := searchKeys J call openid f forceRefresh now, reads := (f, now) :: call.reads }
    | none => some (call.goto (.awaitJwks openid forceRefresh now none))
  | _ => none

def Call.answer (outcome : Except Exc Value) (call : Call) : Option Call :=
  match call.phase with
  | .awaitOpenid now none => some (call.goto (.awaitOpenid now (some outcome)))
  | .awaitJwks openid forceRefresh now none => some (call.goto (.awaitJwks openid forceRefresh now (some outcome)))
  | _ => none

def Call.resume (c : ℕ) (clock : ℚ) (call : Call) : Option (Call × Option Fetched) :=
  match call.phase with
  | .awaitOpenid _ (some (.error e)) => some (call.goto (.done (orNone e) clock), none)
  | .awaitOpenid now (some (.ok payload)) =>
    match openidPayload payload with
    | some d =>
      let f : Fetched := ⟨.openid, d, now, c, V.discoveryUrl⟩
      some (call.goto (.getJwks f false), some f)
    | none => some (call.goto (.done (.ok none) clock), none)
  | .awaitJwks _ _ _ (some (.error e)) => some (call.goto (.done (orNone e) clock), none)
  | .awaitJwks openid forceRefresh now (some (.ok payload)) =>
    match jwksPayload payload with
    | some d =>
      let f : Fetched := ⟨.jwks, d, now, c, J.jwksUri openid⟩
      some (call.goto (searchKeys J call openid f forceRefresh clock), some f)
    | none => some (call.goto (.done (.ok none) clock), none)
  | _ => none

def Call.decode [UnicodeData] (now : ℚ) (call : Call) : Option Call :=
  match call.phase with
  | .decode openid _ keyData =>
    some (call.goto (.done (decodeToken V J call.token keyData (J.issuer openid) now) now))
  | _ => none

/-- The verifier with its calls, the last time that was read, the key set that the provider
publishes, and all documents that were cached so far. -/
structure State where
  clock : ℚ
  openidCache : Option Fetched := none
  jwksCache : Option Fetched := none
  calls : ℕ → Option Call := fun _ ↦ none
  published : Value
  log : List Fetched := []

def State.store (s : State) : Option Fetched → State
  | none => s
  | some f => match f.kind with
    | .openid => { s with openidCache := some f, log := f :: s.log }
    | .jwks => { s with jwksCache := some f, log := f :: s.log }

def State.setCall (s : State) (c : ℕ) (call : Call) : State :=
  { s with calls := Function.update s.calls c (some call) }

inductive Action
  | start (c : ℕ) (token : Str) (now : ℚ)
  | get (c : ℕ) (now : ℚ)
  | answer (c : ℕ) (outcome : Except Exc Value)
  | resume (c : ℕ)
  | decode (c : ℕ) (now : ℚ)
  | rotate (payload : Value)

def State.tick (s : State) (now : ℚ) : Option State := if s.clock ≤ now then some { s with clock := now } else none

def step [UnicodeData] (s : State) : Action → Option State
  | .start c token now =>
    if (s.calls c).isSome then none
    else (s.tick now).map (fun s ↦ s.setCall c (.start J token now s.published))
  | .get c now => do
    let call ← s.calls c
    let s ← s.tick now
    let call ← call.get V J s.openidCache s.jwksCache now
    some (s.setCall c call)
  | .answer c outcome => do
    let call ← s.calls c
    let call ← call.answer outcome
    some (s.setCall c call)
  | .resume c => do
    let call ← s.calls c
    let (call, document) ← call.resume V J c s.clock
    some ((s.store document).setCall c call)
  | .decode c now => do
    let call ← s.calls c
    let s ← s.tick now
    let call ← call.decode V J now
    some (s.setCall c call)
  | .rotate payload => some { s with published := payload, calls := fun c ↦ (s.calls c).map (Call.witness payload) }

end McpSqlServer.TokenVerifier
