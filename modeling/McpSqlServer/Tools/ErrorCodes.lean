import McpSqlServer.Tools.AuditEvents

namespace McpSqlServer

open Library Library.Text Library.Python

def gateCodes : List Str :=
  ["AUTH_FAILED".toList, "SESSION_LIMIT_EXCEEDED".toList, "RATE_LIMIT_EXCEEDED".toList]

def Request.PassesOn : Request → Prop
  | .ping _ | .listTools _ | .listObject _ => False
  | _ => True

section UnicodeData

variable {β : Type} [UnicodeData] {S : Site β} {b : Binding} {req : Request} {w w₁ : World β} {t r : Except Exc Value}
  {e : Exc} {code s : Str}

section Prefixes

omit [UnicodeData] in
theorem not_prefix_of_prefix {p : Str} (hc : code ∈ gateCodes) (hp : ∀ c ∈ gateCodes, ¬ p <+: c ∧ ¬ c <+: p)
    (hs : p <+: s) : ¬ code <+: s := by
  intro h
  rcases List.prefix_or_prefix_of_prefix h hs with hcp | hpc
  · exact (hp code hc).2 hcp
  · exact (hp code hc).1 hpc

theorem extractSqlError_code {err : SqlError} (h : extractSqlError e = some err) :
    err.code = "SQL_ERROR_".toList ++ err.sqlstate := by
  unfold extractSqlError at h
  split at h
  all_goals
    dsimp only at h
    split at h
    · cases h
    · split at h
      · rw [← Option.some.inj h]
      · obtain ⟨n, -, hn⟩ := Option.map_eq_some_iff.mp h
        rw [← hn]

theorem prefix_sqlErrorCode (e : Exc) : "SQL_E".toList <+: sqlErrorCode e := by
  unfold sqlErrorCode
  cases h : extractSqlError e with
  | none => exact ⟨"XECUTION_ERROR: ".toList ++ e.text, rfl⟩
  | some err =>
    dsimp only
    rw [extractSqlError_code h]
    exact ⟨"RROR_".toList ++ err.sqlstate ++ ": ".toList ++ err.sqlMessage, rfl⟩

theorem not_prefix_sqlErrorCode (hc : code ∈ gateCodes) (e : Exc) : ¬ code <+: sqlErrorCode e :=
  not_prefix_of_prefix hc (by decide) (prefix_sqlErrorCode e)

omit [UnicodeData] in
theorem not_prefix_pingCode (hc : code ∈ gateCodes) (e : Exc) : ¬ code <+: pingCode e :=
  not_prefix_of_prefix (p := "INSTANCE_UNREACHABLE: ".toList) hc (by decide) ⟨e.text, rfl⟩

end Prefixes

section Answers

def notification (S : Site β) (w : World β) : Except Exc Unit :=
  match S.ctx with
  | none => .ok ()
  | some ctx => ctx.outcome (w.trace ++ [.notify])

omit [UnicodeData] in
theorem deny_fst (counted : Bool) (code : Str) (w : World β) : (deny S counted code w).1 = notification S w := by
  unfold notification
  cases h : S.ctx with
  | none => simp only [deny, notify, h]; rfl
  | some ctx => simp only [deny, notify, h]; rfl

theorem settle_of_notified (hs : req.sendsSql = true) (he : e.caught = true) (hn : notification S w₁ = .ok ()) :
    ∃ w₂, settle S b req (.error e) w₁ = req.clauses.answer S b e w₂ := by
  have hfst := deny_fst (S := S) (req.clauses.counts e) (req.clauses.code e) w₁
  rcases hd : deny S (req.clauses.counts e) (req.clauses.code e) w₁ with ⟨r, w₂⟩
  rw [hd, hn] at hfst
  obtain rfl : r = .ok () := hfst
  rw [settle, ladder_caught hs he, Act.bind_of_ok hd]
  exact ⟨w₂, rfl⟩

theorem settle_of_not_notified {x : Exc} (hs : req.sendsSql = true) (he : e.caught = true)
    (hn : notification S w₁ = .error x) : (settle S b req (.error e) w₁).1 = .error x := by
  have hfst := deny_fst (S := S) (req.clauses.counts e) (req.clauses.code e) w₁
  rcases hd : deny S (req.clauses.counts e) (req.clauses.code e) w₁ with ⟨r, w₂⟩
  rw [hd, hn] at hfst
  obtain rfl : r = .error x := hfst
  rw [settle, ladder_caught hs he, Act.bind_of_error hd]

omit [UnicodeData] in
theorem logAuditEvent_fst (sql : Str) (w : World β) :
    (logAuditEvent S b sql w).1 = S.log (logAuditEvent S b sql w).2.trace := by
  have hends : Triple (Verdict w.frame.decision w.frame.errorCode w.deniedRequests w.audit) (logAuditEvent S b sql)
      (fun u w ↦ .ok u = S.log w.trace) (fun e w ↦ .error e = S.log w.trace) :=
    (logAuditEvent_reports sql).mono (fun _ h ↦ h) (fun _ _ h ↦ h.1.symm) (fun _ _ h ↦ h.1.symm)
  have hw : Verdict w.frame.decision w.frame.errorCode w.deniedRequests w.audit w := ⟨rfl, rfl, rfl, rfl⟩
  exact Ends.result (K := fun (r : Except Exc Unit) (w : World β) ↦ r = S.log w.trace) (hends w hw)

theorem conclude_fst (hlog : S.log (conclude S b req t w₁).2.trace = .ok ()) :
    (conclude S b req t w₁).1 = (settle S b req t w₁).1 := by
  rcases hs : settle S b req t w₁ with ⟨r₀, w₂⟩
  have hfst := logAuditEvent_fst (S := S) (b := b) req.auditSql w₂
  rcases hw : logAuditEvent S b req.auditSql w₂ with ⟨r, w₃⟩
  cases r with
  | ok u => rw [conclude, Act.ensuring_of_ok hs hw]
  | error x =>
    rw [conclude, Act.ensuring_of_error hs hw] at hlog
    rw [hw, hlog] at hfst
    cases hfst

end Answers

/-- The authorization, session or rate gate of the call has raised the `PermissionError` `e`. -/
structure GateDenied (S : Site β) (b : Binding) (req : Request) (w : World β) (e : Exc) (w₁ : World β) : Prop where
  sends : req.sendsSql = true
  attempted : Attempted S b req w (.error e) w₁
  gate : ∃ g, w₁.trace.getLast? = some (.refused g) ∧ g.isGuard = false
  kind : e.kind = .permissionError

omit [UnicodeData] in
def Carries (code : Str) : Except Exc Value → Prop
  | .error x => code <+: x.text
  | .ok v => ∃ reply c, v = .dict reply ∧ reply.lookup "error_code".toList = some (.str c) ∧ code <+: c

omit [UnicodeData] in
def KeepsCode (code : Str) (w : World β) (r : Except Exc Value) (w' : World β) : Prop :=
  (∃ (ev : AuditEvent) (c : Str), w'.audit = w.audit ++ [ev] ∧ ev.errorCode = some c ∧ code <+: c) ∧ Carries code r

theorem code_of_passesOn (hs : req.sendsSql = true) (h : req.PassesOn) (he : e.kind = .permissionError) :
    req.clauses.code e = e.text ∧ ∀ w : World β, req.clauses.answer S b e w = (.error e, w) := by
  have hread : readCode e = e.text := by simp [readCode, he]
  cases req with
  | latencyReport args => cases hs
  | ping args => exact h.elim
  | listTools args => exact h.elim
  | listObject args => exact h.elim
  | select | execProc | blockReport | topQueriesReport | activeSessionsReport | indexHealthReport =>
    exact ⟨hread, fun _ ↦ rfl⟩
  | _ =>
    have hmem : e.kind ∈ [ExcKind.valueError, ExcKind.permissionError] := by simp [he]
    refine ⟨if_pos hmem, fun w ↦ ?_⟩
    simp only [Request.clauses, Clauses.answer, if_pos hmem]
    rfl

theorem code_of_not_passesOn (h : ¬ req.PassesOn) (he : e.kind = .permissionError) (hc : code ∈ gateCodes) :
    ¬ code <+: req.clauses.code e := by
  cases req with
  | ping args => exact not_prefix_pingCode hc e
  | listTools args =>
    have hcode : (Request.listTools args).clauses.code e = sqlErrorCode e := by simp [Request.clauses, Clauses.code]
    rw [hcode]
    exact not_prefix_sqlErrorCode hc e
  | listObject args =>
    have hcode : (Request.listObject args).clauses.code e = sqlErrorCode e := by
      simp [Request.clauses, Clauses.code, he]
    rw [hcode]
    exact not_prefix_sqlErrorCode hc e
  | _ => exact absurd trivial h

/-- The code of a gate survives the `except` clauses exactly where these pass a
`PermissionError` on, and neither notification nor log write raises something else. -/
theorem gateCode_kept_iff (h : GateDenied S b req w e w₁) (hc : code ∈ gateCodes) (hcode : code <+: e.text) :
    KeepsCode code w (runRequest S b req w).1 (runRequest S b req w).2 ↔
      req.PassesOn ∧ (∀ x, notification S w₁ = .error x → code <+: x.text) ∧
        S.log (runRequest S b req w).2.trace = .ok () := by
  have he : e.caught = true := by simp [Exc.caught, h.kind]
  have hcodeOf : req.codeOf (.error e) = some (req.clauses.code e) := by simp [Request.codeOf, failure, he]
  have hend := h.attempted.concluded h.sends
  have hfst : S.log (conclude S b req (.error e) w₁).2.trace = .ok () → _ := conclude_fst
  rw [← h.attempted.runRequest_eq] at hfst
  constructor
  · rintro ⟨⟨ev, c, haudit, hev, hprefix⟩, hcarries⟩
    cases hlog : S.log (runRequest S b req w).2.trace with
    | error x =>
      have hsame := (hend.unlogged x hlog).2
      simp [haudit] at hsame
    | ok u =>
      obtain ⟨-, ev', haudit', hreports⟩ := hend.logged hlog
      obtain rfl : ev' = ev := by simpa using haudit'.symm.trans haudit
      rw [hreports.errorCode, hcodeOf] at hev
      rw [← Option.some.inj hev] at hprefix
      refine ⟨?_, ?_, rfl⟩
      · by_contra hpass
        exact code_of_not_passesOn hpass h.kind hc hprefix
      · intro x hx
        rw [hfst hlog, settle_of_not_notified h.sends he hx] at hcarries
        exact hcarries
  · rintro ⟨hpass, hnotify, hlog⟩
    obtain ⟨htext, hanswer⟩ := code_of_passesOn (S := S) (b := b) h.sends hpass h.kind
    obtain ⟨-, ev, haudit, hreports⟩ := hend.logged hlog
    refine ⟨⟨ev, e.text, haudit, ?_, hcode⟩, ?_⟩
    · rw [hreports.errorCode, hcodeOf, htext]
    · rw [hfst hlog]
      cases hn : notification S w₁ with
      | error x =>
        rw [settle_of_not_notified h.sends he hn]
        exact hnotify x hn
      | ok u =>
        obtain ⟨w₂, hw₂⟩ := settle_of_notified (b := b) h.sends he hn
        rw [hw₂, hanswer]
        exact hcode

end UnicodeData

def missingToken : Exc := permissionError "AUTH_FAILED: missing or invalid bearer token".toList

def lockedSite : Site Unit := { openSite {} [] with auth := some { azureAuthEnabled := true } }

theorem lockedSite_denied [UnicodeData] {b : Binding} {req : Request} (hs : req.sendsSql = true) (hv : req.Valid)
    (w : World Unit) : ∃ w₁, GateDenied lockedSite b req w missingToken w₁ := by
  obtain ⟨α, call, body, hp⟩ := runRequest_isTool b lockedSite hs
  obtain ⟨input, hinput⟩ := (hp.valid.mpr hv).1
  have hnotify : notify lockedSite (w.begin req.actor) = (.ok (), w.begin req.actor) := rfl
  have hcheck : (Act.ofExcept call.check : ToolM Unit α) (w.begin req.actor) = (.ok input, w.begin req.actor) := by
    rw [hinput]
    rfl
  have hgate : resolveActorAndAuthorize lockedSite call.required (w.begin req.actor) =
      (.error missingToken, (w.begin req.actor).record (.refused (.authorize call.required req.actor))) := rfl
  refine ⟨(w.begin req.actor).record (.refused (.authorize call.required req.actor)), hs, ⟨α, call, body, hp, ?_⟩,
    ⟨.authorize call.required req.actor, by simp, rfl⟩, rfl⟩
  rw [tryBlock, Act.bind_of_ok hnotify, Act.bind_of_ok hcheck, Act.bind_of_error hgate]

theorem gateCode_kept_iff_select : let _ := asciiData
    ∃ w₁, KeepsCode "AUTH_FAILED".toList freshWorld (runRequest lockedSite primarySelect selectOne freshWorld).1
      (runRequest lockedSite primarySelect selectOne freshWorld).2 ↔
      selectOne.PassesOn ∧ (∀ x, notification lockedSite w₁ = .error x → "AUTH_FAILED".toList <+: x.text) ∧
        lockedSite.log (runRequest lockedSite primarySelect selectOne freshWorld).2.trace = .ok () := by
  intro U
  have hv : selectOne.Valid := ⟨none, rfl⟩
  obtain ⟨w₁, hw₁⟩ := @lockedSite_denied _ primarySelect selectOne rfl hv freshWorld
  exact ⟨w₁, gateCode_kept_iff hw₁ (by decide) (by decide)⟩

theorem listTools_loses_code :
    ¬ ∀ [UnicodeData] (S : Site Unit) (b : Binding) (req : Request) (w w₁ : World Unit) (e : Exc) (code : Str),
      GateDenied S b req w e w₁ → code ∈ gateCodes → code <+: e.text →
      KeepsCode code w (runRequest S b req w).1 (runRequest S b req w).2 := by
  intro h
  let _ := asciiData
  obtain ⟨w₁, hw₁⟩ := @lockedSite_denied _ primarySelect (.listTools {}) rfl trivial freshWorld
  have hkeeps := h lockedSite primarySelect (.listTools {}) freshWorld w₁ missingToken "AUTH_FAILED".toList hw₁
    (by decide) (by decide)
  have hr : (runRequest lockedSite primarySelect (.listTools {}) freshWorld).1 =
      .error (runtimeError "SQL_ERROR_HY000: AUTH_FAILED: missing or invalid bearer token".toList) := rfl
  have hcarries := hkeeps.2
  rw [hr] at hcarries
  have hnot : ¬ "AUTH_FAILED".toList <+: "SQL_ERROR_HY000: AUTH_FAILED: missing or invalid bearer token".toList := by
    decide
  exact hnot hcarries

end McpSqlServer
