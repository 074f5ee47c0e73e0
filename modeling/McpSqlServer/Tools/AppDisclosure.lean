import McpSqlServer.Library.Python.Dict
import McpSqlServer.Tools.AppHeadBlockers
import McpSqlServer.Tools.DashboardAccess
import McpSqlServer.Tools.ReportRefinement

namespace McpSqlServer

open Library Library.Text Library.Python

section Masks

variable {raw raw' : Str}

/-- `_redact_login_name` on the stripped text of a login name. -/
def maskText (raw : Str) : Str :=
  if raw.isEmpty then "redacted".toList
  else if raw.length ≤ 2 then List.replicate raw.length '*'
  else raw.head?.toList ++ "***".toList ++ raw.getLast?.toList

/-- Names that the mask does not tell apart: their lengths agree up to three, and longer names have the same ends. -/
structure MaskAlike (raw raw' : Str) : Prop where
  length : min raw.length 3 = min raw'.length 3
  ends : 2 < raw.length → raw.head? = raw'.head? ∧ raw.getLast? = raw'.getLast?

theorem maskText_of_short (h : raw.length ≤ 2) (hne : raw ≠ []) : maskText raw = List.replicate raw.length '*' := by
  rw [maskText, if_neg (by simpa using hne), if_pos h]

theorem maskText_of_long (raw : Str) (h : 2 < raw.length) :
    ∃ a b, raw.head? = some a ∧ raw.getLast? = some b ∧ maskText raw = [a, '*', '*', '*', b] := by
  have hne : raw ≠ [] := List.ne_nil_of_length_pos (by omega)
  refine ⟨raw.head hne, raw.getLast hne, List.head?_eq_some_head hne, List.getLast?_eq_some_getLast hne, ?_⟩
  rw [maskText, if_neg (by simpa using hne), if_neg (by omega), List.head?_eq_some_head hne,
    List.getLast?_eq_some_getLast hne]
  rfl

theorem maskText_length (raw : Str) :
    (maskText raw).length = if raw.length = 0 then 8 else if raw.length ≤ 2 then raw.length else 5 := by
  cases raw with
  | nil => rfl
  | cons a raw =>
    rw [if_neg (show ¬ (a :: raw).length = 0 from Nat.succ_ne_zero _)]
    split
    · rename_i h
      rw [maskText_of_short h (List.cons_ne_nil _ _), List.length_replicate]
    · rename_i h
      obtain ⟨_, _, -, -, hmask⟩ := maskText_of_long _ (not_le.mp h)
      rw [hmask]
      rfl

theorem maskText_eq_iff : maskText raw = maskText raw' ↔ MaskAlike raw raw' := by
  have hlen := maskText_length raw
  have hlen' := maskText_length raw'
  constructor
  · intro h
    have hmin : min raw.length 3 = min raw'.length 3 := by
      rw [h] at hlen
      have heq := hlen.symm.trans hlen'
      split_ifs at heq <;> omega
    refine ⟨hmin, fun hlong ↦ ?_⟩
    obtain ⟨a, b, ha, hb, hmask⟩ := maskText_of_long raw hlong
    obtain ⟨a', b', ha', hb', hmask'⟩ := maskText_of_long raw' (by omega)
    have hcells := hmask.symm.trans (h.trans hmask')
    simp only [List.cons.injEq, true_and, and_true] at hcells
    rw [ha, hb, ha', hb', hcells.1, hcells.2]
    exact ⟨rfl, rfl⟩
  · intro h
    have hmin := h.length
    by_cases hlong : 2 < raw.length
    · obtain ⟨a, b, ha, hb, hmask⟩ := maskText_of_long raw hlong
      obtain ⟨a', b', ha', hb', hmask'⟩ := maskText_of_long raw' (by omega)
      obtain ⟨hhead, hlast⟩ := h.ends hlong
      rw [ha, ha'] at hhead
      rw [hb, hb'] at hlast
      rw [hmask, hmask', Option.some.inj hhead, Option.some.inj hlast]
    · have hsame : raw.length = raw'.length := by omega
      cases raw with
      | nil => rw [List.length_eq_zero_iff.mp hsame.symm]
      | cons a raw =>
        have hne : raw' ≠ [] := List.ne_nil_of_length_pos (by rw [← hsame]; exact Nat.succ_pos _)
        rw [maskText_of_short (not_lt.mp hlong) (List.cons_ne_nil _ _), maskText_of_short (by omega) hne, hsame]

end Masks

section Payload

variable [UnicodeData]

omit [UnicodeData] in
structure AppRules where
  containerText : Value → Str
  generatedAtUtc : Str

omit [UnicodeData] in
def loginName : Str := "login_name".toList

omit [UnicodeData] in
def blockerRecommendations (heads : List ℤ) : Value :=
  .list [.dict [("priority".toList, .str (if heads.isEmpty then "info".toList else "high".toList)),
    ("action".toList, .str (if heads.isEmpty then "No immediate lock chain action required.".toList
      else "Investigate head blockers and long wait chains.".toList)),
    ("rationale".toList, .str ("Detected ".toList ++ intText heads.length ++
      " unique blocking session(s).".toList))]]

namespace AppRules

variable (rules : AppRules)

def loginText (value : Value) : Str := strip (if value.truthy then pyStr rules.containerText value else [])

def redactLoginName (value : Value) : Str := maskText (rules.loginText value)

def maskRow (row : Row) : Row := setItem loginName (.str (rules.redactLoginName (row.get loginName))) row

/-- The dictionary that `fetch_sessions_dashboard_data` returns. -/
def appDashboard (instanceNumber : ℤ) (dbName : Str) (lookbackMinutes : ℤ)
    (sessions lockRows blockingChains : List Row) : Except Exc Value := do
  let heads ← fetchHeadBlockers lockRows
  pure (.dict [("generated_at_utc".toList, .str rules.generatedAtUtc), ("instance_number".toList, .int instanceNumber),
    ("database_name".toList, .str dbName), ("lookback_minutes".toList, .int lookbackMinutes),
    ("active_sessions".toList, ofRows (sessions.map rules.maskRow)), ("lock_chains".toList, ofRows lockRows),
    ("blocking_chains".toList, ofRows blockingChains), ("head_blockers".toList, .list ((heads.take 25).map .int)),
    ("recommendations".toList, blockerRecommendations heads)])

def appReport (instanceNumber : ℤ) (dbName : Str) (lookbackMinutes : ℤ) : List (List Row) → Except Exc Value
  | [sessions, lockRows, blockingChains] =>
    rules.appDashboard instanceNumber dbName lookbackMinutes sessions lockRows blockingChains
  | _ => .error (runtimeError [])

def reports (base : Reports) : Reports :=
  { base with
    appDashboard := fun instanceNumber dbName lookbackMinutes results ↦
      rules.appReport instanceNumber dbName lookbackMinutes (results.map ResultSet.rows) }

/-- Rows that differ in their login names only, and in these only behind the mask. -/
structure SessionAlike (row row' : Row) : Prop where
  login : MaskAlike (rules.loginText (row.get loginName)) (rules.loginText (row'.get loginName))
  others : setItem loginName .none row = setItem loginName .none row'

variable {rules} {row row' : Row} {rows rows' : List Row}

theorem maskRow_eq_iff : rules.maskRow row = rules.maskRow row' ↔ rules.SessionAlike row row' := by
  unfold maskRow
  rw [setItem_eq_iff .none, Value.str.injEq]
  unfold redactLoginName
  rw [maskText_eq_iff]
  exact ⟨fun h ↦ ⟨h.1, h.2⟩, fun h ↦ ⟨h.login, h.others⟩⟩

theorem map_maskRow_eq_iff :
    rows.map rules.maskRow = rows'.map rules.maskRow ↔ List.Forall₂ rules.SessionAlike rows rows' := by
  rw [← List.forall₂_eq_eq_eq, List.forall₂_map_left_iff, List.forall₂_map_right_iff]
  simp only [maskRow_eq_iff]

omit [UnicodeData] in
theorem ofRows_inj : ofRows rows = ofRows rows' ↔ rows = rows' := by
  refine ⟨fun h ↦ ?_, fun h ↦ by rw [h]⟩
  rw [← dictRows_ofRows rows, h, dictRows_ofRows]

/-- The app tool shows the masked sessions, and the other rows as they are. -/
theorem appDashboard_eq_iff {instanceNumber lookbackMinutes : ℤ} {dbName : Str}
    {sessions sessions' lockRows lockRows' chains chains' : List Row} {v v' : Value}
    (h : rules.appDashboard instanceNumber dbName lookbackMinutes sessions lockRows chains = .ok v)
    (h' : rules.appDashboard instanceNumber dbName lookbackMinutes sessions' lockRows' chains' = .ok v') :
    v = v' ↔ List.Forall₂ rules.SessionAlike sessions sessions' ∧ lockRows = lockRows' ∧ chains = chains' := by
  rw [← map_maskRow_eq_iff]
  obtain ⟨heads, hheads, hv⟩ := exists_of_bind_ok h
  obtain ⟨heads', hheads', hv'⟩ := exists_of_bind_ok h'
  rw [← Except.ok.inj hv, ← Except.ok.inj hv']
  constructor
  · intro heq
    simp only [Value.dict.injEq, List.cons.injEq, Prod.mk.injEq, true_and, and_true, ofRows_inj] at heq
    exact ⟨heq.1, heq.2.1, heq.2.2.1⟩
  · rintro ⟨hsessions, rfl, rfl⟩
    rw [hsessions, Except.ok.inj (hheads.symm.trans hheads')]

end AppRules

end Payload

section Fetch

variable {β : Type} [UnicodeData] {S S' : Site β} {rules : AppRules} {base base' : Reports} {args : FetchArgs}
  {instanceId dbName : Str} {catalog catalog' : Catalog} {w w' : World β}

def AppRules.fetch (rules : AppRules) (catalog : Catalog) (dbName : Str) (args : FetchArgs) : Except Exc Value := do
  let sessions ← catalog.rows (.activeSessions 200) 200
  let lockRows ← catalog.rowsIf (locksFlag args.includeLocks) (.lockChain 200) 200
  let blockingChains ← catalog.rowsIf (locksFlag args.includeLocks) (.blockingChain 200) 200
  rules.appDashboard args.instanceNumber dbName args.lookbackMinutes sessions lockRows blockingChains

theorem AppRules.fetch_eq (rules : AppRules) (catalog : Catalog) (dbName : Str) (args : FetchArgs) :
    rules.fetch catalog dbName args = (do
      let sessions ← catalog.rows (.activeSessions 200) 200
      let locks ← catalog.branch (locksFlag args.includeLocks) [(.lockChain 200, 200), (.blockingChain 200, 200)]
      rules.appReport args.instanceNumber dbName args.lookbackMinutes (sessions :: locks)) := by
  simp only [Catalog.branch_cons, Catalog.branch_nil, ok_bind, bind_assoc, pure_bind]
  rfl

theorem fetch_ends (hc : args.check S = .ok (dbName, instanceId)) (h : Answers S instanceId dbName catalog)
    (hS : S.reports = rules.reports base) : Triple (fun _ ↦ True) (fetchSessionsDashboardData S args)
      (fun v _ ↦ rules.fetch catalog dbName args = .ok v)
      (fun e w ↦ rules.fetch catalog dbName args = .error e ∨ Every (fun e ↦ e.isQuery = false) w) := by
  refine .modify_bind (I := Every (fun e ↦ e.isQuery = false)) (fun w _ e he ↦ absurd he List.not_mem_nil) ?_
  rw [hc]
  refine .bind (R := fun p w ↦ p = (dbName, instanceId) ∧ Every (fun e ↦ e.isQuery = false) w)
    (.pure (fun _ hw ↦ ⟨rfl, hw⟩)) (fun p ↦ .extract ?_)
  rintro rfl
  refine .bind (R := fun _ ↦ Every (fun e ↦ e.isQuery = false))
    (touchSession_triple (fun w _ hw _ ↦ Every.record hw rfl) (fun w _ _ hw _ ↦ .inr (Every.record hw rfl)))
    (fun _ ↦ ?_)
  refine .bind (R := fun _ ↦ Every (fun e ↦ e.isQuery = false))
    (allowRequest_triple (fun w _ hw _ ↦ Every.record hw rfl) (fun w _ _ hw _ ↦ .inr (Every.record hw rfl)))
    (fun _ ↦ ?_)
  refine .bind (R := fun _ ↦ Every (fun e ↦ e.isQuery = false))
    (checkGuard_triple (fun w hw _ ↦ Every.record hw rfl) (fun w _ hw _ ↦ .inr (Every.record hw rfl))) (fun _ ↦ ?_)
  have hbody : EndsIn (do
      let sessions ← catalogQuery S instanceId dbName (.activeSessions 200) 200
      let locks ← catalogQueriesIf S (locksFlag args.includeLocks) instanceId dbName
        [(.lockChain 200, 200), (.blockingChain 200, 200)]
      Act.ofExcept (S.reports.appDashboard args.instanceNumber dbName args.lookbackMinutes (sessions :: locks)))
      (rules.fetch catalog dbName args) := by
    rw [hS, AppRules.fetch_eq]
    exact (h.shows _ _).bind (fun sessions ↦ (h.branch _ _).bind (fun locks _ ↦ rfl))
  exact (endsIn_triple hbody).mono (fun _ h ↦ h) (fun _ _ h ↦ h) (fun _ _ h ↦ .inl h)

theorem fetch_returned (hc : args.check S = .ok (dbName, instanceId)) (h : Answers S instanceId dbName catalog)
    (hS : S.reports = rules.reports base) {v : Value} (hv : (fetchSessionsDashboardData S args w).1 = .ok v) :
    rules.fetch catalog dbName args = .ok v := by
  have hend := fetch_ends hc h hS w trivial
  rcases hw : fetchSessionsDashboardData S args w with ⟨r, w'⟩
  rw [hw] at hend hv
  rw [show r = .ok v from hv] at hend
  exact hend

/-- Where nothing that the app tool checks stops the call, it ends as its queries do. -/
theorem fetch_answers (hc : args.check S = .ok (dbName, instanceId)) (h : Answers S instanceId dbName catalog)
    (hS : S.reports = rules.reports base) (hr : FetchReached S w args) :
    (fetchSessionsDashboardData S args w).1 = rules.fetch catalog dbName args := by
  have hend := fetch_ends hc h hS w trivial
  have hreach := (fetch_reaches (S := S) w args w rfl).snd (fun _ _ h ↦ h) (fun _ _ h ↦ h)
  rcases hw : fetchSessionsDashboardData S args w with ⟨r, w'⟩
  rw [hw] at hend hreach
  rcases hreach with ⟨hn, -⟩ | ⟨-, -, q, hq, hquery⟩
  · exact absurd hr hn
  · cases r with
    | ok v => exact hend.symm
    | error e =>
      rcases hend with hend | hnone
      · exact hend.symm
      · exact absurd ((hnone q hq).symm.trans hquery) Bool.false_ne_true

namespace AppRules

def AnswersAlike (rules : AppRules) : Except Exc (List Row) → Except Exc (List Row) → Prop
  | .ok rows, .ok rows' => List.Forall₂ rules.SessionAlike rows rows'
  | .error e, .error e' => e = e'
  | _, _ => False

/-- Databases that the app tool does not tell apart: their sessions differ in masked letters of login names only and,
where the locks are asked for, their lock rows and blocking chains do not differ at all. -/
structure DashboardAlike (rules : AppRules) (catalog catalog' : Catalog) (locks : Bool) : Prop where
  sessions : rules.AnswersAlike (catalog.rows (.activeSessions 200) 200) (catalog'.rows (.activeSessions 200) 200)
  lockRows : catalog.rowsIf locks (.lockChain 200) 200 = catalog'.rowsIf locks (.lockChain 200) 200
  blockingChains : catalog.rowsIf locks (.blockingChain 200) 200 = catalog'.rowsIf locks (.blockingChain 200) 200

theorem appDashboard_congr {instanceNumber lookbackMinutes : ℤ} {sessions sessions' : List Row}
    (h : List.Forall₂ rules.SessionAlike sessions sessions') (lockRows blockingChains : List Row) :
    rules.appDashboard instanceNumber dbName lookbackMinutes sessions lockRows blockingChains =
      rules.appDashboard instanceNumber dbName lookbackMinutes sessions' lockRows blockingChains := by
  unfold appDashboard
  rw [map_maskRow_eq_iff.mpr h]

theorem fetch_congr (h : rules.DashboardAlike catalog catalog' (locksFlag args.includeLocks)) :
    rules.fetch catalog dbName args = rules.fetch catalog' dbName args := by
  have hsessions := h.sessions
  unfold fetch
  rw [h.lockRows, h.blockingChains]
  cases hs : catalog.rows (.activeSessions 200) 200 with
  | ok sessions =>
    cases hs' : catalog'.rows (.activeSessions 200) 200 with
    | ok sessions' =>
      rw [hs, hs'] at hsessions
      simp only [ok_bind, appDashboard_congr hsessions]
    | error e =>
      rw [hs, hs'] at hsessions
      exact hsessions.elim
  | error e =>
    cases hs' : catalog'.rows (.activeSessions 200) 200 with
    | ok sessions' =>
      rw [hs, hs'] at hsessions
      exact hsessions.elim
    | error e' =>
      rw [hs, hs'] at hsessions
      exact congrArg Except.error hsessions

theorem fetch_eq_iff {v v' : Value} (h : rules.fetch catalog dbName args = .ok v)
    (h' : rules.fetch catalog' dbName args = .ok v') :
    v = v' ↔ rules.DashboardAlike catalog catalog' (locksFlag args.includeLocks) := by
  refine ⟨fun heq ↦ ?_, fun halike ↦ Except.ok.inj (h.symm.trans ((fetch_congr halike).trans h'))⟩
  obtain ⟨sessions, hsessions, h⟩ := exists_of_bind_ok h
  obtain ⟨lockRows, hlocks, h⟩ := exists_of_bind_ok h
  obtain ⟨chains, hchains, h⟩ := exists_of_bind_ok h
  obtain ⟨sessions', hsessions', h'⟩ := exists_of_bind_ok h'
  obtain ⟨lockRows', hlocks', h'⟩ := exists_of_bind_ok h'
  obtain ⟨chains', hchains', h'⟩ := exists_of_bind_ok h'
  obtain ⟨halike, hlock, hchain⟩ := (appDashboard_eq_iff h h').mp heq
  constructor
  · rw [hsessions, hsessions']
    exact halike
  · rw [hlocks, hlocks', hlock]
  · rw [hchains, hchains', hchain]

end AppRules

/-- The app tool discloses the login names of the sessions up to their mask, and the lock rows and blocking chains
as they are: what two calls of one time return is the same exactly when their databases differ in masked letters only,
and where nothing stops the calls, databases that differ so give the same result, be it an exception. -/
theorem fetchSessionsDashboardData_discloses (hc : args.check S = .ok (dbName, instanceId))
    (hc' : args.check S' = .ok (dbName, instanceId)) (h : Answers S instanceId dbName catalog)
    (h' : Answers S' instanceId dbName catalog') (hS : S.reports = rules.reports base)
    (hS' : S'.reports = rules.reports base') (w w' : World β) :
    (∀ v v', (fetchSessionsDashboardData S args w).1 = .ok v → (fetchSessionsDashboardData S' args w').1 = .ok v' →
      (v = v' ↔ rules.DashboardAlike catalog catalog' (locksFlag args.includeLocks))) ∧
    (FetchReached S w args → FetchReached S' w' args →
      rules.DashboardAlike catalog catalog' (locksFlag args.includeLocks) →
      (fetchSessionsDashboardData S args w).1 = (fetchSessionsDashboardData S' args w').1) := by
  refine ⟨fun v v' hv hv' ↦ ?_, fun hr hr' halike ↦ ?_⟩
  · exact AppRules.fetch_eq_iff (fetch_returned hc h hS hv) (fetch_returned hc' h' hS' hv')
  · rw [fetch_answers hc h hS hr, fetch_answers hc' h' hS' hr', AppRules.fetch_congr halike]

end Fetch

def plainAppRules : AppRules := ⟨fun _ ↦ [], []⟩

def loginRows (login : String) : CatalogQuery → List Row
  | .activeSessions _ => [[("session_id".toList, .int 51), (loginName, .str login.toList)]]
  | _ => []

def loginAnswer (login : String) : Event → Except Exc ResultSet
  | .execute _ (.catalog query) => .ok { rows := loginRows login query }
  | _ => .ok {}

section Sample

variable [UnicodeData]

def loginSite (login : String) : Site Unit :=
  { answeringSite (loginAnswer login) with reports := plainAppRules.reports blankReports }

theorem answers_login (login : String) : Answers (loginSite login) "primary".toList "master".toList
    (fun query ↦ .ok (loginRows login query)) := by
  intro query maxRows w
  have hquery : loginAnswer login (.execute "primary".toList (.catalog query)) =
      .ok { rows := loginRows login query } := rfl
  exact executeCatalogQuery_answeringSite rfl hquery w

end Sample

theorem fetchReached_login (login : String) : let _ := asciiData
    FetchReached (loginSite login) freshWorld {} := by
  intro U
  exact ⟨⟨_, rfl⟩, rfl, rfl, rfl⟩

theorem fetchSessionsDashboardData_discloses_login : let _ := asciiData
    (fetchSessionsDashboardData (loginSite "alice") {} freshWorld).1 =
      (fetchSessionsDashboardData (loginSite "annie") {} freshWorld).1 := by
  intro U
  have hcheck (login : String) : ({} : FetchArgs).check (loginSite login) = .ok ("master".toList, "primary".toList) :=
    rfl
  have halike : plainAppRules.DashboardAlike (fun query ↦ .ok (loginRows "alice" query))
      (fun query ↦ .ok (loginRows "annie" query)) true := by
    exact ⟨.cons ⟨⟨by decide, fun _ ↦ ⟨by decide, by decide⟩⟩, rfl⟩ .nil, rfl, rfl⟩
  exact (fetchSessionsDashboardData_discloses (hcheck "alice") (hcheck "annie") (answers_login "alice")
    (answers_login "annie") rfl rfl freshWorld freshWorld).2 (fetchReached_login "alice") (fetchReached_login "annie")
    halike

end McpSqlServer
