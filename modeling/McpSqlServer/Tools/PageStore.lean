import McpSqlServer.Library.Admission
import McpSqlServer.Library.ExpiringMap
import McpSqlServer.Library.Python.DeepCopy
import McpSqlServer.Library.Python.Dict
import McpSqlServer.Tools.DashboardHtml
import McpSqlServer.Tools.DashboardPages
import Mathlib.Algebra.Order.Ring.Rat

namespace McpSqlServer

open Library Library.Text Library.Python Library.Admission

/-- What the page store takes from its surroundings. -/
structure PageStore extends DashboardPayloads.Builtins where
  uncopyable : Uncopyable
  publicBaseUrl : Str

namespace PageStore

def validateRequestId [UnicodeData] : Value → Except Exc Str
  | .str requestId => (McpSqlServer.validateRequestId requestId).map (fun _ ↦ requestId)
  | _ => .error (valueError "request_id must be a non-empty string".toList)

def validateHtml [UnicodeData] : Value → Except Exc Str
  | .str html => (McpSqlServer.validateHtml html).map (fun _ ↦ html)
  | _ => .error (valueError "html must be a string".toList)

variable (E : PageStore)

def validateTtlSeconds [UnicodeData] (ttlSeconds : Value) : Except Exc ℤ :=
  (E.int ttlSeconds).bind (fun ttl ↦
    match ttl with
    | none => .error (valueError "ttl_seconds must be an integer".toList)
    | some ttl => (McpSqlServer.validateTtlSeconds ttl).map (fun _ ↦ ttl))

def copyMetadata : Option (Dict Value) → Except Exc (Option (Dict Value))
  | none => .ok none
  | some metadata => (deepcopyDict E.uncopyable metadata).map some

def registerDashboardPageWithMetadata [UnicodeData] (now : ℚ) (requestId html ttlSeconds : Value)
    (metadata : Option (Dict Value)) : Act (Dict Page) Exc Str := do
  let html ← Act.ofExcept (validateHtml html)
  let ttl ← Act.ofExcept (E.validateTtlSeconds ttlSeconds)
  let requestId ← Act.ofExcept (validateRequestId requestId)
  let expiresEpoch := now + ttl
  Act.modify (cleanupExpired now)
  let metadata ← Act.ofExcept (E.copyMetadata metadata)
  Act.modify (setItem requestId ⟨html, expiresEpoch, metadata⟩)
  pure (E.publicBaseUrl ++ "/diagnostics/dashboards/".toList ++ requestId)

def getValidEntry [UnicodeData] (now : ℚ) (requestId : Value) : Act (Dict Page) Exc (Option Page) := do
  let requestId ← Act.ofExcept (validateRequestId requestId)
  Act.modify (cleanupExpired now)
  let entry ← Act.read (fun pages ↦ pages.lookup requestId)
  match entry with
  | none => pure none
  | some entry =>
    if entry.expiresEpoch ≤ now then do
      Act.modify (List.filter (fun e ↦ e.1 ≠ requestId))
      pure none
    else pure (some entry)

def getDashboardPage [UnicodeData] (now : ℚ) (requestId : Value) : Act (Dict Page) Exc (Option Str) := do
  let entry ← getValidEntry now requestId
  pure (entry.map Page.html)

def getDashboardPageMetadata [UnicodeData] (now : ℚ) (requestId : Value) :
    Act (Dict Page) Exc (Option (Dict Value)) := do
  let entry ← getValidEntry now requestId
  Act.ofExcept (E.copyMetadata (entry.bind Page.metadata))

end PageStore

/-- A call of the page store, with the reading of the clock that it makes. -/
inductive PageCall
  | register (now : ℚ) (requestId html ttlSeconds : Value) (metadata : Option (Dict Value))
  | getPage (now : ℚ) (requestId : Value)
  | getMetadata (now : ℚ) (requestId : Value)

inductive PageAnswer
  | url (url : Str)
  | page (html : Option Str)
  | metadata (metadata : Option (Dict Value))

namespace PageCall

def time : PageCall → ℚ
  | .register now _ _ _ _ => now
  | .getPage now _ => now
  | .getMetadata now _ => now

def requestId : PageCall → Value
  | .register _ requestId _ _ _ => requestId
  | .getPage _ requestId => requestId
  | .getMetadata _ requestId => requestId

def aboutId (c : PageCall) : Option Str :=
  match c.requestId with
  | .str requestId => some requestId
  | _ => none

def run [UnicodeData] (E : PageStore) : PageCall → Act (Dict Page) Exc PageAnswer
  | .register now requestId html ttlSeconds metadata => do
    let url ← E.registerDashboardPageWithMetadata now requestId html ttlSeconds metadata
    pure (.url url)
  | .getPage now requestId => do
    let html ← PageStore.getDashboardPage now requestId
    pure (.page html)
  | .getMetadata now requestId => do
    let metadata ← E.getDashboardPageMetadata now requestId
    pure (.metadata metadata)

end PageCall

def PagesClocked (calls : List PageCall) : Prop := calls.Pairwise (fun c d ↦ c.time ≤ d.time)

structure PageRegistration where
  requestId : Str
  html : Str
  time : ℚ
  ttl : ℤ
  metadata : Option (Dict Value)

namespace PageRegistration

def expires (r : PageRegistration) : ℚ := r.time + r.ttl

def page (r : PageRegistration) : Page := ⟨r.html, r.expires, r.metadata⟩

end PageRegistration

section Runs

variable [UnicodeData] (E : PageStore)

/-- The calls that return, and what every call leaves in the store. -/
def pageGate : Admission.Gate PageCall (Dict Page) Exc := fun c pages ↦ (((c.run E pages).1).map (fun _ ↦ ()), (c.run E pages).2)

def transcript : List PageCall → Dict Page → List (PageCall × Except Exc PageAnswer)
  | [], _ => []
  | c :: calls, pages => (c, (c.run E pages).1) :: transcript calls (c.run E pages).2

def pageAnswer (pre : List PageCall) (c : PageCall) : Except Exc PageAnswer := (c.run E (after (pageGate E) [] pre)).1

def PageCall.asRegistration : PageCall → Option PageRegistration
  | .register now (.str requestId) (.str html) ttlSeconds metadata =>
    match E.int ttlSeconds with
    | .ok (some ttl) => some ⟨requestId, html, now, ttl, metadata⟩
    | _ => none
  | _ => none

def registrations (calls : List PageCall) : List PageRegistration :=
  (admitted (pageGate E) calls []).filterMap (PageCall.asRegistration E)

/-- The latest registration of an id, while its time has not come. -/
def currentRegistration (history : List PageRegistration) (now : ℚ) (requestId : Str) : Option PageRegistration :=
  ExpiringMap.answer PageRegistration.requestId PageRegistration.expires history now requestId

end Runs

end McpSqlServer
