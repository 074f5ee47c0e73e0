import McpSqlServer.Library.Python.Exc
import McpSqlServer.Library.Python.Value
import Mathlib.Data.Rat.Defs

namespace McpSqlServer

open Library.Text Library.Python

/-- The `RateLimiter` protocol, over the state in which a backend keeps its events. -/
structure RateLimiter (β : Type) where
  allow : ℚ → Str → β → Except Exc Unit × β

structure WindowLimits where
  actorRpm : ℤ
  actorBurst : ℤ
  globalRpm : ℤ
  globalBurst : ℤ

structure Windows where
  actorEvents : Dict (List ℚ) := []
  globalEvents : List ℚ := []

def prune (now : ℚ) (bucket : List ℚ) : List ℚ := bucket.dropWhile (fun t ↦ t < now - 60)

def slidingWindowRateLimiter (limits : WindowLimits) : RateLimiter Windows where
  allow now actor windows :=
    let actorBucket := prune now ((windows.actorEvents.lookup actor).getD [])
    let globalEvents := prune now windows.globalEvents
    let pruned : Windows := ⟨setItem actor actorBucket windows.actorEvents, globalEvents⟩
    if limits.actorRpm + limits.actorBurst ≤ actorBucket.length then
      (.error (permissionError "RATE_LIMIT_EXCEEDED: actor quota exceeded".toList), pruned)
    else if limits.globalRpm + limits.globalBurst ≤ globalEvents.length then
      (.error (permissionError "RATE_LIMIT_EXCEEDED: global quota exceeded".toList), pruned)
    else (.ok (), ⟨setItem actor (actorBucket ++ [now]) windows.actorEvents, globalEvents ++ [now]⟩)

end McpSqlServer
