import McpSqlServer.Tools.Runtime

namespace McpSqlServer

open Library Library.Text Library.Python

variable {β : Type} [UnicodeData] (S : Site β)

omit [UnicodeData] in
/-- `re.match(r"^[a-zA-Z0-9_-]{1,255}$", request_id)`; the dollar sign also matches in front
of a final newline. -/
def requestIdMatches (requestId : Str) : Bool :=
  let body := if requestId.getLast? = some '\n' then requestId.dropLast else requestId
  !body.isEmpty && body.length ≤ 255 && body.all (fun c ↦ c.isAlphanum || c = '_' || c = '-')

def validateRequestId (requestId : Str) : Except Exc Unit :=
  if strip requestId = [] then .error (valueError "request_id must be a non-empty string".toList)
  else if requestIdMatches requestId then .ok ()
  else .error (valueError "request_id contains invalid characters".toList)

def validateHtml (html : Str) : Except Exc Unit :=
  if strip html = [] then .error (valueError "html must be a non-empty string".toList) else .ok ()

omit [UnicodeData] in
def maxTtlSeconds : ℤ := 7 * 24 * 60 * 60

omit [UnicodeData] in
def validateTtlSeconds (ttlSeconds : ℤ) : Except Exc Unit :=
  if ttlSeconds < 1 then .error (valueError "ttl_seconds must be >= 1".toList)
  else if maxTtlSeconds < ttlSeconds then
    .error (valueError ("ttl_seconds must be <= ".toList ++ intText maxTtlSeconds))
  else .ok ()

omit [UnicodeData] in
def cleanupExpired (now : ℚ) (pages : Dict Page) : Dict Page :=
  pages.filter (fun entry ↦ decide (now < entry.2.expiresEpoch))

def registerDashboardPageWithMetadata (requestId html : Str) (ttlSeconds : ℤ) (metadata : Option (Dict Value)) :
    ToolM β Str := do
  Act.ofExcept (validateHtml html)
  Act.ofExcept (validateTtlSeconds ttlSeconds)
  Act.ofExcept (validateRequestId requestId)
  Act.modify (fun w ↦
    let now := S.clock w.trace
    { w with pages := setItem requestId ⟨html, now + ttlSeconds, metadata⟩ (cleanupExpired now w.pages) })
  pure (S.publicBaseUrl ++ "/diagnostics/dashboards/".toList ++ requestId)

def getValidEntry (requestId : Str) : ToolM β (Option Page) := do
  Act.ofExcept (validateRequestId requestId)
  Act.modify (fun w ↦ { w with pages := cleanupExpired (S.clock w.trace) w.pages })
  Act.read (fun w ↦ w.pages.lookup requestId)

def getDashboardPageMetadata (requestId : Str) : ToolM β (Option (Dict Value)) := do
  let entry ← getValidEntry S requestId
  pure (entry.bind Page.metadata)

def getDashboardPageExpiryUtc (requestId : Str) : ToolM β Value := do
  let entry ← getValidEntry S requestId
  pure (match entry with
    | none => .none
    | some page => .str (S.reports.isoformat page.expiresEpoch))

end McpSqlServer
