import McpSqlServer.AuditLog
import McpSqlServer.Library.Transition
import McpSqlServer.Tools.AuditEvents
import McpSqlServer.Tools.Dashboards

namespace McpSqlServer

open Library Library.Text Library.Python

section File

/-- What one write of the log adds to the event of the call. `subject` is the claim of a
token whose subject is no text, as its JSON has it. -/
structure LogWrite where
  stamp : Stamp
  latencyMs : ℤ
  subject : Value
  subject_wellFormed : Json.WellFormed subject

def Privilege.text : Privilege → Str
  | .none => "none".toList
  | .read => "read".toList
  | .write => "write".toList

def GroupMatch.dict (g : GroupMatch) : Dict Value :=
  ("group_authorization_enabled".toList, .bool g.groupAuthorizationEnabled) ::
    match g.matched with
    | none => []
    | some (read, write) => [("matched_read_groups".toList, .list (read.map .str)),
        ("matched_write_groups".toList, .list (write.map .str))]

def LogWrite.claim (x : LogWrite) : ClaimValue → Option Value
  | .null => none
  | .text s => some (.str s)
  | _ => some x.subject

def LogWrite.event (x : LogWrite) (ev : AuditEvent) : LogEvent where
  requestId := ev.requestId
  actor := ev.actor
  tool := ev.tool
  instanceId := ev.instanceId
  sql := ev.sql
  decision := ev.decision
  latencyMs := x.latencyMs
  rows := ev.rows
  errorCode := ev.errorCode
  authMode := ev.authCtx.map AuthContext.authMode
  authSubject := ev.authCtx.bind (fun a ↦ x.claim a.authSubject)
  privilegeLevel := ev.authCtx.map (fun a ↦ a.privilegeLevel.text)
  groupMatchResult := ev.authCtx.map (fun a ↦ a.groupMatchResult.dict)

def AuditFile (audit : List AuditEvent) (text : Str) : Prop :=
  ∃ writes : List (LogWrite × AuditEvent), writes.map Prod.snd = audit ∧
    logText (writes.map (fun w ↦ (w.1.stamp, w.1.event w.2))) = some text

theorem GroupMatch.wellFormed_dict (g : GroupMatch) : Json.WellFormed (.dict g.dict) := by
  have htexts (l : List Str) : Json.WellFormed (.list (l.map .str)) := by
    refine .list (fun v hv ↦ ?_)
    obtain ⟨s, -, rfl⟩ := List.mem_map.mp hv
    exact .str s
  cases hm : g.matched with
  | none =>
    rw [GroupMatch.dict, hm]
    exact .dict (List.nodup_singleton _) (List.forall_mem_singleton.mpr (.bool _))
  | some groups =>
    rw [GroupMatch.dict, hm]
    have hkeys : ["group_authorization_enabled".toList, "matched_read_groups".toList,
        "matched_write_groups".toList].Nodup := by decide
    refine .dict hkeys ?_
    simp only [List.forall_mem_cons]
    exact ⟨.bool _, htexts _, htexts _, fun _ h ↦ nomatch h⟩

theorem LogWrite.proper (x : LogWrite) (ev : AuditEvent) : (x.event ev).Proper := by
  constructor
  · intro v hv
    obtain ⟨a, -, ha⟩ := Option.bind_eq_some_iff.mp hv
    cases hs : a.authSubject with
    | null =>
      rw [hs] at ha
      cases ha
    | text s =>
      rw [hs] at ha
      exact Option.some.inj ha ▸ .str s
    | items l =>
      rw [hs] at ha
      exact Option.some.inj ha ▸ x.subject_wellFormed
    | other truthy className =>
      rw [hs] at ha
      exact Option.some.inj ha ▸ x.subject_wellFormed
  · intro d hd
    obtain ⟨a, -, rfl⟩ := Option.map_eq_some_iff.mp hd
    exact a.groupMatchResult.wellFormed_dict

def denials (audit : List AuditEvent) : ℕ := audit.countP (fun ev ↦ ev.decision = "deny".toList)

theorem denials_append (audit : List AuditEvent) (ev : AuditEvent) :
    denials (audit ++ [ev]) = denials audit + if ev.decision = "deny".toList then 1 else 0 := by
  simp [denials, List.countP_append, List.countP_cons]

theorem denyTotal_auditFile [UnicodeData] {R : Reader} {audit : List AuditEvent} {text : Str}
    (h : AuditFile audit text) :
    (summarizeAuditEvents R (some text)).map AuditSummary.denyTotal = some (denials audit) := by
  obtain ⟨writes, rfl, htext⟩ := h
  have hproper : ∀ e ∈ writes.map (fun w ↦ (w.1.stamp, w.1.event w.2)), e.2.Proper := by
    intro e he
    obtain ⟨w, -, rfl⟩ := List.mem_map.mp he
    exact w.1.proper w.2
  rw [denyTotal_logText hproper htext, denials, List.countP_map, List.countP_map]
  rfl

end File

section Runs

variable {β : Type} [UnicodeData]

/-- A client's use of a tool: one of the SQL tools, or the one of the dashboard app. -/
inductive ToolUse
  | sql (b : Binding) (o : Overrides) (req : Request)
  | app (args : FetchArgs)

def ToolUse.run (S : Site β) : ToolUse → ToolM β Value
  | .sql b o req => invoke S b o req
  | .app args => fetchSessionsDashboardData S args

def callStep (V : Server β) (w : World β) (c : Environment × ToolUse) : Option (World β) :=
  some (c.2.run ⟨V, c.1⟩ w).2

def World.Balanced (w : World β) : Prop := w.deniedRequests = denials w.audit

/-- Where an `Exception` ends the `try` block, its clause counts a denial exactly if the log
takes the event up. -/
def ToolUse.Counted (S : Site β) (w : World β) : ToolUse → Prop
  | .sql b o req => req.sendsSql = true → ∀ e w₁, Attempted S (b.override o) req w (.error e) w₁ → e.caught = true →
      (req.clauses.counts e = true ↔ S.log (invoke S b o req w).2.trace = .ok ())
  | .app _ => True

omit [UnicodeData] in
instance (w : World β) : Decidable w.Balanced := inferInstanceAs (Decidable (_ = _))

variable {S : Site β} {b : Binding} {req : Request} {w w₁ : World β} {t : Except Exc Value}

theorem Attempted.balanced_iff (hs : req.sendsSql = true) (h : Attempted S b req w t w₁) (hw : w.Balanced) :
    (runRequest S b req w).2.Balanced ↔
      ∀ e, failure t = some e → (req.clauses.counts e = true ↔ S.log (runRequest S b req w).2.trace = .ok ()) := by
  have hend := h.concluded hs
  unfold World.Balanced at hw ⊢
  rw [hend.denied, hw, Request.countOf]
  cases hlog : S.log (runRequest S b req w).2.trace with
  | error x =>
    rw [(hend.unlogged x hlog).2]
    cases hf : failure t with
    | none => simp
    | some e => cases hc : req.clauses.counts e <;> simp [hc]
  | ok u =>
    obtain ⟨-, ev, haudit, hev⟩ := hend.logged hlog
    rw [haudit, denials_append, hev.decision, decisionOf]
    cases hf : failure t with
    | none => simp
    | some e => cases hc : req.clauses.counts e <;> simp [hc]

theorem fetch_triple {P J I : World β → Prop} {args : FetchArgs} (hbegin : ∀ w, P w → J (w.begin args.actor))
    (hJ : ∀ w, J w → I w) (htouch : Invariant J (touchSession S none)) (hallow : Invariant J (allowRequest S))
    (hguard : Invariant I (checkGuard S appFetchGuard)) (hI : ∀ i, Undisturbed i (fun _ ↦ True) I) :
    Triple P (fetchSessionsDashboardData S args) (fun _ ↦ I) (fun _ ↦ I) := by
  have hstay {γ : Type} {m : ToolM β γ} (h : Invariant J m) : Triple J m (fun _ ↦ J) (fun _ ↦ I) :=
    h.mono (fun _ hw ↦ hw) (fun _ _ hw ↦ hw) (fun _ w hw ↦ hJ w hw)
  refine .modify_bind hbegin (.bind (hstay (.ofExcept _)) (fun target ↦ ?_))
  refine .bind (hstay htouch) (fun _ ↦ .bind (hstay hallow) (fun _ ↦ ?_))
  refine Triple.mono (P := I) ?_ hJ (fun _ _ h ↦ h) (fun _ _ h ↦ h)
  refine Invariant.bind hguard (fun _ ↦ .bind ?_ (fun sessions ↦ .bind ?_ (fun locks ↦ .ofExcept _)))
  · exact catalogQuery_invariant (hI target.2).query (fun _ ↦ trivial) _ _
  · exact catalogQueriesIf_invariant (hI target.2).query (fun _ ↦ trivial) _ _

theorem fetch_verdict (args : FetchArgs) (w : World β) :
    Verdict "allow".toList none w.deniedRequests w.audit (fetchSessionsDashboardData S args w).2 := by
  have hfetch : Triple (fun w' ↦ w' = w) (fetchSessionsDashboardData S args)
      (fun _ ↦ Verdict "allow".toList none w.deniedRequests w.audit)
      (fun _ ↦ Verdict "allow".toList none w.deniedRequests w.audit) := by
    refine fetch_triple ?_ (fun _ h ↦ h) (touchSession_verdict _) allowRequest_verdict ?_
      (fun i ↦ undisturbed_verdict i _)
    · rintro _ rfl
      exact ⟨rfl, rfl, rfl, rfl⟩
    · exact checkGuard_triple (fun w h _ ↦ h.record _) (fun w e h _ ↦ h.record _)
  exact (hfetch w rfl).snd (fun _ _ h ↦ h) (fun _ _ h ↦ h)

/-- One call keeps the counter and the log in agreement exactly if it is counted as it is logged. -/
theorem ToolUse.balanced_iff (u : ToolUse) (hw : w.Balanced) : (u.run S w).2.Balanced ↔ u.Counted S w := by
  cases u with
  | app args =>
    refine iff_of_true ?_ trivial
    have hend := fetch_verdict (S := S) args w
    rw [World.Balanced, ToolUse.run, hend.denied, hend.audit]
    exact hw
  | sql b o req =>
    cases hs : req.sendsSql with
    | false =>
      have hsame : (invoke S b o req w).2.deniedRequests = w.deniedRequests ∧
          (invoke S b o req w).2.audit = w.audit := by
        cases req with
        | latencyReport args => exact ⟨rfl, rfl⟩
        | _ => cases hs
      refine iff_of_true ?_ (fun h ↦ absurd (hs.symm.trans h) Bool.false_ne_true)
      rw [World.Balanced, ToolUse.run, hsame.1, hsame.2]
      exact hw
    | true =>
      constructor
      · intro hbalanced _ e w₁ h he
        have hf : failure (.error e) = some e := if_pos he
        exact (h.balanced_iff hs hw).mp hbalanced e hf
      · intro hcounted
        obtain ⟨t, w₁, h⟩ := exists_attempted (S := S) (b := b.override o) hs w
        refine (h.balanced_iff hs hw).mpr (fun e hf ↦ ?_)
        cases t with
        | ok v => cases hf
        | error e' =>
          obtain ⟨he, heq⟩ := Option.ite_none_right_eq_some.mp hf
          obtain rfl := Option.some.inj heq
          exact hcounted hs e' w₁ h he

theorem balanced_of_reachable {V : Server β} {w₀ : World β} (h₀ : w₀.Balanced)
    (h : Transition.Reachable (callStep V) (fun w c ↦ c.2.Counted ⟨V, c.1⟩ w) w₀ w) : w.Balanced := by
  refine h.invariant h₀ (fun w c w' _ hw hc hstep ↦ ?_)
  rw [← Option.some.inj hstep]
  exact (c.2.balanced_iff hw).mpr hc

def ToolUse.after (V : Server β) (w : World β) (c : Environment × ToolUse) : World β := (c.2.run ⟨V, c.1⟩ w).2

theorem reachable_of_balanced {V : Server β} {calls : List (Environment × ToolUse)} {w : World β}
    (h : ∀ w' ∈ calls.scanl (ToolUse.after V) w, w'.Balanced) :
    Transition.Reachable (callStep V) (fun w c ↦ c.2.Counted ⟨V, c.1⟩ w) w (calls.foldl (ToolUse.after V) w) := by
  have hfrom : ∀ (calls : List (Environment × ToolUse)) (w w' : World β),
      Transition.Reachable (callStep V) (fun w c ↦ c.2.Counted ⟨V, c.1⟩ w) w w' →
      (∀ w'' ∈ calls.scanl (ToolUse.after V) w', w''.Balanced) →
      Transition.Reachable (callStep V) (fun w c ↦ c.2.Counted ⟨V, c.1⟩ w) w (calls.foldl (ToolUse.after V) w') := by
    intro calls
    induction calls with
    | nil => exact fun w w' hrun _ ↦ hrun
    | cons c calls ih =>
      intro w w' hrun h
      rw [List.scanl_cons] at h
      obtain ⟨hw, h⟩ := List.forall_mem_cons.mp h
      have hnext : (c.2.run ⟨V, c.1⟩ w').2.Balanced := by
        refine h _ ?_
        cases calls with
        | nil => exact List.mem_singleton_self _
        | cons c' calls =>
          rw [List.scanl_cons]
          exact List.mem_cons_self
      exact ih w _ (.next (a := c) hrun ((c.2.balanced_iff hw).mp hnext) rfl) h
  exact hfrom calls w w .init h

/-- In a run of calls that count what they log, `denied_requests` is the `deny_total` of the file. -/
theorem deniedRequests_eq_denyTotal {V : Server β} {R : Reader} {w₀ : World β} {text : Str} (haudit : w₀.audit = [])
    (hdenied : w₀.deniedRequests = 0)
    (h : Transition.Reachable (callStep V) (fun w c ↦ c.2.Counted ⟨V, c.1⟩ w) w₀ w) (hfile : AuditFile w.audit text) :
    (summarizeAuditEvents R (some text)).map AuditSummary.denyTotal = some w.deniedRequests := by
  have h₀ : w₀.Balanced := by
    rw [World.Balanced, haudit, hdenied]
    rfl
  rw [denyTotal_auditFile hfile, balanced_of_reachable h₀ h]

end Runs

def failingSite : Site Unit :=
  { openSite {} [{ id := "primary".toList, host := "sql".toList, database := "master".toList, authSecretRef := [] }] with
    driver := fun _ ↦ .error (runtimeError "connection refused".toList) }

def failedEvent (b : Binding) (actor errorCode : Str) : AuditEvent where
  requestId := []
  actor := actor
  tool := b.tool
  instanceId := b.instanceId
  sql := "SELECT 1".toList
  decision := "deny".toList
  rows := 0
  errorCode := some errorCode
  authCtx := some ⟨"disabled".toList, .null, .none, ⟨false, none⟩⟩

def logWrite : LogWrite where
  stamp := ⟨"2026-01-01T00:00:00Z".toList, fun _ ↦ "e004ebd5b5532a4b85984a62f8ad48a81aa3460c1ca07701f386135d72cdecf5".toList⟩
  latencyMs := 3
  subject := .none
  subject_wellFormed := .none

def queryOne : Request := .executeQuery { databaseName := "master".toList, sqlStatement := "SELECT 1".toList }

def answeringEnvironment : Environment := { failingSite.toEnvironment with driver := fun _ ↦ .ok {} }

def primaryPing : Binding := ⟨"db_1_sql2019_ping".toList, "primary".toList, 1⟩

def primaryQuery : Binding := ⟨"db_primary_sql2019_execute_query".toList, "primary".toList, 1⟩

def mixedUses : List (Environment × ToolUse) :=
  [(failingSite.toEnvironment, .sql primaryQuery {} queryOne),
    (answeringEnvironment, .sql primarySelect {} (.select { sql := "SELECT 1".toList })),
    (answeringEnvironment, .sql primarySelect {} (.select { sql := "DELETE FROM dbo.T".toList })),
    (failingSite.toEnvironment, .sql primaryPing {} (.ping {})), (answeringEnvironment, .app {}),
    (answeringEnvironment, .sql primaryQuery {} (.latencyReport {}))]

theorem deniedRequests_eq_denyTotal_mixed : let _ := asciiData
    let w := mixedUses.foldl (ToolUse.after failingSite.toServer) freshWorld
    w.deniedRequests = 3 ∧ ∃ text, AuditFile w.audit text ∧
      ∀ R, (summarizeAuditEvents R (some text)).map AuditSummary.denyTotal = some w.deniedRequests := by
  intro U w
  have hbalanced : ∀ w ∈ mixedUses.scanl (ToolUse.after failingSite.toServer) freshWorld, w.Balanced := by
    decide +kernel
  have hlogged : (logText (w.audit.map (fun ev ↦ (logWrite.stamp, logWrite.event ev)))).isSome := by decide +kernel
  obtain ⟨text, htext⟩ := Option.isSome_iff_exists.mp hlogged
  have hfile : AuditFile w.audit text := by
    refine ⟨w.audit.map (fun ev ↦ (logWrite, ev)), ?_, ?_⟩
    · rw [List.map_map]
      exact List.map_id _
    · rw [List.map_map]
      exact htext
  refine ⟨by decide +kernel, text, hfile, fun R ↦ ?_⟩
  exact deniedRequests_eq_denyTotal rfl rfl (reachable_of_balanced hbalanced) hfile

theorem failed_select_uncounted :
    ¬ ∀ [UnicodeData] (V : Server Unit) (R : Reader) (w₀ w : World Unit) (text : Str), w₀.audit = [] →
      w₀.deniedRequests = 0 →
      Transition.Reachable (callStep V) (fun w c ↦ OnlyExceptions (c.2.run ⟨V, c.1⟩ w).1) w₀ w →
      AuditFile w.audit text →
      (summarizeAuditEvents R (some text)).map AuditSummary.denyTotal = some w.deniedRequests := by
  intro h
  let _ := asciiData
  have hr : (ToolUse.run failingSite (.sql primarySelect {} selectOne) freshWorld).1 =
      .error (runtimeError "connection refused".toList) := rfl
  have hok : OnlyExceptions (ToolUse.run failingSite (.sql primarySelect {} selectOne) freshWorld).1 := by
    rw [hr]
    exact .error rfl
  have hrun : Transition.Reachable (callStep failingSite.toServer)
      (fun w c ↦ OnlyExceptions (c.2.run ⟨failingSite.toServer, c.1⟩ w).1) freshWorld
      (invoke failingSite primarySelect {} selectOne freshWorld).2 :=
    .next (a := (failingSite.toEnvironment, .sql primarySelect {} selectOne)) .init hok rfl
  have haudit : (invoke failingSite primarySelect {} selectOne freshWorld).2.audit =
      [failedEvent primarySelect "unknown".toList "SQL_ERROR_HY000".toList] := rfl
  have hfile : ∃ text, AuditFile [failedEvent primarySelect "unknown".toList "SQL_ERROR_HY000".toList] text :=
    ⟨_, [(logWrite, _)], rfl, rfl⟩
  obtain ⟨text, htext⟩ := hfile
  have hequal := h failingSite.toServer ⟨⟨.object, .object⟩, fun _ ↦ []⟩ freshWorld _ text rfl rfl hrun (haudit ▸ htext)
  rw [denyTotal_auditFile (haudit ▸ htext), haudit] at hequal
  exact absurd hequal (by decide)

end McpSqlServer
