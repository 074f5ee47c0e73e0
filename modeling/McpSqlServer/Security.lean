import McpSqlServer.Models
import McpSqlServer.Library.Python.Exc
import McpSqlServer.Library.Python.Value
import Mathlib.Data.Char
import Mathlib.Data.List.Dedup
import Mathlib.Data.List.Lex
import Mathlib.Data.Rat.Defs

namespace McpSqlServer

open Library.Text Library.Python

/-- The value of a token claim; the items of a list are given as `str()` shows them. -/
inductive ClaimValue
  | null
  | text (s : Str)
  | items (l : List Str)
  | other (truthy : Bool) (className : Str)

def ClaimValue.truthy : ClaimValue → Bool
  | .null => false
  | .text s => !s.isEmpty
  | .items l => !l.isEmpty
  | .other b _ => b

inductive Privilege
  | none
  | read
  | write
  deriving DecidableEq

structure GroupMatch where
  groupAuthorizationEnabled : Bool
  matched : Option (List Str × List Str) := none

variable [UnicodeData]

def normalizeGroups : ClaimValue → Except Exc (List Str)
  | .null => .ok []
  | .text s => .ok ((((s.splitOn ',').map strip).filter (fun w ↦ !w.isEmpty)).map lower)
  | .items l => .ok (((l.map strip).filter (fun w ↦ !w.isEmpty)).map lower)
  | .other _ className => .error (typeError ("Expected str, list, set, or tuple; got ".toList ++ className))

def normalizeGroupNames (groups : List Str) : List Str :=
  ((groups.map strip).filter (fun w ↦ !w.isEmpty)).map lower

def sortedIntersection (a b : List Str) : List Str :=
  (a.filter (fun w ↦ w ∈ b)).dedup.mergeSort (fun v w ↦ decide (v ≤ w))

def resolveGroupPrivilege (principalGroups : ClaimValue) (readGroups writeGroups : List Str)
    (groupAuthorizationEnabled : Bool) : Except Exc (Privilege × GroupMatch) :=
  if !groupAuthorizationEnabled then .ok (.write, ⟨false, some ([], [])⟩)
  else match normalizeGroups principalGroups with
    | .error e => .error e
    | .ok principal =>
      let matchedRead := sortedIntersection principal (normalizeGroupNames readGroups)
      let matchedWrite := sortedIntersection principal (normalizeGroupNames writeGroups)
      .ok (if !matchedWrite.isEmpty then .write else if !matchedRead.isEmpty then .read else .none,
        ⟨true, some (matchedRead, matchedWrite)⟩)

structure AccessToken where
  claims : Dict ClaimValue

def AccessToken.subject (token : AccessToken) : ClaimValue :=
  let get (name : Str) : ClaimValue := (token.claims.lookup name).getD .null
  if (get "preferred_username".toList).truthy then get "preferred_username".toList
  else if (get "oid".toList).truthy then get "oid".toList
  else if (get "sub".toList).truthy then get "sub".toList
  else get "upn".toList

structure AuthContext where
  authMode : Str
  authSubject : ClaimValue
  privilegeLevel : Privilege
  groupMatchResult : GroupMatch

def authEnforced : Option AuthConfig → Bool
  | none => false
  | some auth => auth.azureAuthEnabled || auth.authMode = "azure_token_verifier".toList

def resolvedActor (subject : ClaimValue) (actor : Str) : Str :=
  match subject with
  | .text s => if actor ∈ ["system".toList, "unknown".toList] ∧ s ≠ [] then s else actor
  | _ => actor

/-- The decision of `_resolve_actor_and_authorize`. -/
def authorize (auth : Option AuthConfig) (token : Option AccessToken) (actor : Str) (required : Privilege) :
    Except Exc (Str × AuthContext) :=
  match auth with
  | none => .ok (actor, ⟨"disabled".toList, .null, .none, ⟨false, none⟩⟩)
  | some cfg =>
    if !authEnforced (some cfg) then .ok (actor, ⟨"disabled".toList, .null, .none, ⟨false, none⟩⟩)
    else match token with
      | none => .error (permissionError "AUTH_FAILED: missing or invalid bearer token".toList)
      | some token =>
        let principalGroups := (token.claims.lookup cfg.azureGroupClaimName).getD (.items [])
        match resolveGroupPrivilege principalGroups cfg.azureReadGroups cfg.azureWriteGroups
            cfg.azureGroupAuthorizationEnabled with
        | .error e => .error e
        | .ok (privilege, groupMatch) =>
          if required = .write ∧ privilege ≠ .write then
            .error (permissionError "AUTH_FAILED: write privilege required".toList)
          else if required = .read ∧ privilege = .none then
            .error (permissionError "AUTH_FAILED: read privilege required".toList)
          else .ok (resolvedActor token.subject actor, ⟨cfg.authMode, token.subject, privilege, groupMatch⟩)

omit [UnicodeData]

/-- `SessionManager._sessions`: for each actor its session keys with the time of their last touch. -/
abbrev Sessions := Dict (Dict ℚ)

def cleanup (limits : SessionLimits) (now : ℚ) (sessions : Sessions) : Sessions :=
  (sessions.map (fun entry ↦ (entry.1, entry.2.filter (fun session ↦
    ¬ ((limits.sessionTtlMinutes * 60 : ℤ) < now - session.2 ∨
      (limits.inactivityTimeoutMinutes * 60 : ℤ) < now - session.2))))).filter (fun entry ↦ !entry.2.isEmpty)

def sessionKey (mcpSessionId : Option Str) (requestId : Str) : Str :=
  match mcpSessionId with
  | some (c :: s) => c :: s
  | _ => requestId

def touch (limits : SessionLimits) (now : ℚ) (actor key : Str) (sessions : Sessions) : Except Exc Unit × Sessions :=
  let sessions := setDefault actor [] (cleanup limits now sessions)
  let actorSessions := (sessions.lookup actor).getD []
  if (actorSessions.lookup key).isNone ∧ limits.concurrentSessionsLimit ≤ actorSessions.length then
    (.error (permissionError "SESSION_LIMIT_EXCEEDED".toList), sessions)
  else (.ok (), setItem actor (setItem key now actorSessions) sessions)

end McpSqlServer
