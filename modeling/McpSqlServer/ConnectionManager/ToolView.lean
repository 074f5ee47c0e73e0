import McpSqlServer.ConnectionManager.Attempts
import McpSqlServer.ConnectionManager.Commit
import McpSqlServer.Library.Playback
import McpSqlServer.Tools.CallTraces

namespace McpSqlServer

open Library Library.Text Library.Python

def Statement.text [UnicodeData] (render : CatalogQuery → Str) : Statement → Str
  | .program text => text
  | .catalog query => render query
  | .caller sql => sql
  | .exec procName params => execStatement procName params

def World.extend {β : Type} (w : World β) (events : List Event) : World β := { w with trace := w.trace ++ events }

@[simp] theorem World.extend_nil {β : Type} (w : World β) : w.extend [] = w := by
  rw [extend, List.append_nil]

@[simp] theorem World.extend_extend {β : Type} (w : World β) (events events' : List Event) :
    (w.extend events).extend events' = w.extend (events ++ events') := by
  simp only [extend, List.append_assoc]

end McpSqlServer

namespace McpSqlServer.ConnectionManager

open Library Library.Text Library.Python
open Pool (Conn)

/-- What the blocks of `connect` make the server do. -/
inductive Sending
  | statement (text : Str)
  | commit

def send (sent : Bool × List Sending) : Event → Bool × List Sending
  | .entered _ _ => (true, sent.2)
  | .left _ _ _ => (false, sent.2)
  | .call (.execute _ sql _) => if sent.1 then (true, sent.2 ++ [.statement sql]) else sent
  | .call (.commit _) => if sent.1 then (true, sent.2 ++ [.commit]) else sent
  | _ => sent

def sends (log : List Event) : Bool × List Sending := log.foldl send (false, [])

def toolSending [UnicodeData] (render : CatalogQuery → Str) : McpSqlServer.Event → Option Sending
  | .execute _ statement => some (.statement (statement.text render))
  | .commit _ => some .commit
  | _ => none

/-- A site of the tools whose connection manager is the given one. -/
structure Manages {β : Type} (M : Site) (S : McpSqlServer.Site β) : Prop where
  instances : ∀ instanceId, S.instances.any (fun inst ↦ inst.id = instanceId) = (M.lookup instanceId).isSome
  planSummary : ∀ result, S.reports.planSummary result = M.planSummary (ofRows result.rows)

/-- `fetchmany(n)` returns at most `n` rows. -/
def Site.FetchesAtMost (M : Site) : Prop :=
  ∀ log c n reply, M.answer (log ++ [.call (.fetchmany c n)]) = .ok reply → reply.rows.length ≤ n.toNat

abbrev ToolScript := Script McpSqlServer.Event (Except Exc ResultSet)

def scriptSends [UnicodeData] (render : CatalogQuery → Str) (script : ToolScript) : List Sending :=
  (Script.events script).filterMap (toolSending render)

section Sends

variable {log : List Event} {l : List Sending} {sql : Str} {c : Conn}

theorem sends_snoc (log : List Event) (e : Event) : sends (log ++ [e]) = send (sends log) e := by
  rw [sends, List.foldl_append]
  rfl

/-- Between the blocks nothing counts as sent. -/
theorem sends_maintained : Maintained (fun log ↦ sends log = (false, l)) := by
  intro log e he h
  rw [sends_snoc, h]
  cases e with
  | call d => cases d <;> rfl
  | waited seconds => rfl
  | _ => cases he

/-- A block has sent what it had sent before, and then at most this statement. -/
def SentAtMost (l : List Sending) (sql : Str) (log : List Event) : Prop :=
  ∃ es, sends log = (true, l ++ es) ∧ es.Sublist [.statement sql]

theorem sentAtMost_of_none (h : sends log = (true, l)) : SentAtMost l sql log :=
  ⟨[], by rwa [List.append_nil], List.nil_sublist _⟩

theorem sentAtMost_of_some (h : sends log = (true, l ++ [.statement sql])) : SentAtMost l sql log :=
  ⟨_, h, .refl _⟩

def DriverCall.isSilent : DriverCall → Bool
  | .execute _ _ _ | .commit _ => false
  | _ => true

theorem sends_silent {d : DriverCall} (hd : d.isSilent = true) (log : List Event) :
    sends (log ++ [.call d]) = sends log := by
  rw [sends_snoc]
  cases d with
  | execute c sql params => cases hd
  | commit c => cases hd
  | _ => rfl

end Sends

section Refinement

variable {β γ γ' δ δ' : Type} [UnicodeData]

/-- The tools' model of a computation, behind a driver that plays the script, ends as the computation does; what
the manager has sent is in the script, in the same order. -/
structure Replays (M : Site) (render : CatalogQuery → Str) (inside : Bool) (l : List Sending)
    (ended : Except Exc γ × World) (t : McpSqlServer.Site β → ToolM β δ) (present : δ → γ) (script : ToolScript)
    (r : Except Exc δ) (es : List Sending) : Prop where
  result : ended.1 = r.map present
  sent : sends ended.2.log = (inside, l ++ es)
  covered : es.Sublist (scriptSends render script)
  plays : ∀ S w, Manages M S → Plays S.driver w.trace script → t S w = (r, w.extend (Script.events script))

/-- Whatever a computation of the manager does, the tools' model of it does behind some driver. -/
def Refines (M : Site) (render : CatalogQuery → Str) (inside : Bool) (n : ManagerM γ)
    (t : McpSqlServer.Site β → ToolM β δ) (present : δ → γ) : Prop :=
  ∀ m l, sends m.log = (inside, l) → ∃ script r es, Replays M render inside l (n m) t present script r es

variable {M : Site} {render : CatalogQuery → Str} {inside : Bool} {n : ManagerM γ}
  {t : McpSqlServer.Site β → ToolM β δ} {f : δ → γ} {g : δ' → γ'}

theorem scriptSends_append (script script' : ToolScript) :
    scriptSends render (script ++ script') = scriptSends render script ++ scriptSends render script' := by
  rw [scriptSends, Script.events_append, List.filterMap_append]
  rfl

theorem Replays.append {l es es' : List Sending} {script script' : ToolScript} {r : Except Exc δ} {r' : Except Exc δ'}
    {ended : Except Exc γ × World} {ended' : Except Exc γ' × World} {t' : McpSqlServer.Site β → ToolM β δ'}
    {u : McpSqlServer.Site β → ToolM β δ'} (h : Replays M render inside l ended t f script r es)
    (h' : Replays M render inside (l ++ es) ended' t' g script' r' es')
    (hu : ∀ S w, t S w = (r, w.extend (Script.events script)) → u S w = t' S (w.extend (Script.events script))) :
    Replays M render inside l ended' u g (script ++ script') r' (es ++ es') where
  result := h'.result
  sent := by rw [h'.sent, List.append_assoc]
  covered := by
    rw [scriptSends_append]
    exact h.covered.append h'.covered
  plays S w hS hw := by
    obtain ⟨hfirst, hrest⟩ := plays_append.mp hw
    rw [hu S w (h.plays S w hS hfirst), h'.plays S _ hS hrest, World.extend_extend, Script.events_append]

namespace Refines

theorem pure (d : δ) : Refines M render inside (pure (f d)) (fun _ : McpSqlServer.Site β ↦ pure d) f :=
  fun m l hm ↦ ⟨[], .ok d, [], rfl, by rwa [List.append_nil], .refl _, fun S w _ _ ↦ by
    rw [Script.events, List.map_nil, World.extend_nil]
    rfl⟩

theorem raise (e : Exc) : Refines M render inside (Act.raise e) (fun _ : McpSqlServer.Site β ↦ Act.raise e) f :=
  fun m l hm ↦ ⟨[], .error e, [], rfl, by rwa [List.append_nil], .refl _, fun S w _ _ ↦ by
    rw [Script.events, List.map_nil, World.extend_nil]
    rfl⟩

theorem bind {k : γ → ManagerM γ'} {h : δ → McpSqlServer.Site β → ToolM β δ'} (hn : Refines M render inside n t f)
    (hk : ∀ d, Refines M render inside (k (f d)) (h d) g) :
    Refines M render inside (n >>= k) (fun S ↦ t S >>= fun d ↦ h d S) g := by
  intro m l hm
  obtain ⟨script, r, es, hr⟩ := hn m l hm
  rcases hnm : n m with ⟨v, m'⟩
  rw [hnm] at hr
  cases r with
  | error e =>
    obtain rfl : v = .error e := hr.result
    refine ⟨script, .error e, es, ?_, ?_, hr.covered, fun S w hS hw ↦ ?_⟩
    · rw [Act.bind_of_error hnm]
      rfl
    · rw [Act.bind_of_error hnm]
      exact hr.sent
    · exact Act.bind_of_error (hr.plays S w hS hw) _
  | ok d =>
    obtain rfl : v = .ok (f d) := hr.result
    obtain ⟨script', r', es', hr'⟩ := hk d m' (l ++ es) hr.sent
    refine ⟨script ++ script', r', es ++ es', ?_⟩
    rw [Act.bind_of_ok hnm]
    exact hr.append hr' (fun S w hS ↦ Act.bind_of_ok hS _)

theorem map {h : δ' → δ} {t : McpSqlServer.Site β → ToolM β δ'} (hn : Refines M render inside n t (fun d ↦ f (h d))) :
    Refines M render inside n (fun S ↦ t S >>= fun d ↦ Pure.pure (h d)) f := by
  intro m l hm
  obtain ⟨script, r, es, hr⟩ := hn m l hm
  refine ⟨script, r.map h, es, ?_, hr.sent, hr.covered, fun S w hS hw ↦ ?_⟩
  · rw [hr.result]
    cases r <;> rfl
  · rw [Act.bind_pure_apply, hr.plays S w hS hw]

/-- Both sides end in a function of what they got; the tools' one comes with their site. -/
theorem conclude {k : γ → γ'} {h : McpSqlServer.Site β → δ → δ'} {h' : δ → δ'} (hh : ∀ S, Manages M S → h S = h')
    (hk : ∀ d, g (h' d) = k (f d)) (hn : Refines M render inside n t f) :
    Refines M render inside (n >>= fun v ↦ Pure.pure (k v)) (fun S ↦ t S >>= fun d ↦ Pure.pure (h S d)) g := by
  intro m l hm
  obtain ⟨script, r, es, hr⟩ := hn m l hm
  refine ⟨script, r.map h', es, ?_⟩
  rw [Act.bind_pure_apply]
  refine ⟨?_, hr.sent, hr.covered, fun S w hS hw ↦ ?_⟩
  · rw [hr.result]
    cases r with
    | ok d => exact congrArg Except.ok (hk d).symm
    | error e => rfl
  · rw [Act.bind_pure_apply, hr.plays S w hS hw, hh S hS]

theorem catching {handler : Exc → ManagerM γ} {h : Exc → McpSqlServer.Site β → ToolM β δ}
    (hn : Refines M render inside n t f) (hh : ∀ e, Refines M render inside (handler e) (h e) f) :
    Refines M render inside (Act.catching n handler) (fun S ↦ Act.catching (t S) (fun e ↦ h e S)) f := by
  intro m l hm
  obtain ⟨script, r, es, hr⟩ := hn m l hm
  rcases hnm : n m with ⟨v, m'⟩
  rw [hnm] at hr
  cases r with
  | ok d =>
    obtain rfl : v = .ok (f d) := hr.result
    refine ⟨script, .ok d, es, ?_, ?_, hr.covered, fun S w hS hw ↦ Act.catching_of_ok (hr.plays S w hS hw)⟩
    · rw [Act.catching_of_ok hnm]
      rfl
    · rw [Act.catching_of_ok hnm]
      exact hr.sent
  | error e =>
    obtain rfl : v = .error e := hr.result
    obtain ⟨script', r', es', hr'⟩ := hh e m' (l ++ es) hr.sent
    refine ⟨script ++ script', r', es ++ es', ?_⟩
    rw [Act.catching_of_error hnm]
    exact hr.append hr' (fun S w hS ↦ Act.catching_of_error hS)

theorem ensuring {cleanup : ManagerM Unit} {c : McpSqlServer.Site β → ToolM β Unit} (hn : Refines M render inside n t f)
    (hc : Refines M render inside cleanup c id) :
    Refines M render inside (Act.ensuring n cleanup) (fun S ↦ Act.ensuring (t S) (c S)) f := by
  intro m l hm
  obtain ⟨script, r, es, hr⟩ := hn m l hm
  rcases hnm : n m with ⟨v, m₁⟩
  rw [hnm] at hr
  obtain ⟨script', r', es', hr'⟩ := hc m₁ (l ++ es) hr.sent
  rcases hcm : cleanup m₁ with ⟨v', m₂⟩
  rw [hcm] at hr'
  have hsent : sends m₂.log = (inside, l ++ (es ++ es')) := by rw [hr'.sent, List.append_assoc]
  have hcovered : (es ++ es').Sublist (scriptSends render (script ++ script')) := by
    rw [scriptSends_append]
    exact hr.covered.append hr'.covered
  cases r' with
  | ok u =>
    obtain rfl : v' = .ok u := hr'.result
    have hend := Act.ensuring_of_ok hnm hcm
    refine ⟨script ++ script', r, es ++ es', ?_, ?_, hcovered, fun S w hS hw ↦ ?_⟩
    · rw [hend]
      exact hr.result
    · rw [hend]
      exact hsent
    · obtain ⟨hfirst, hrest⟩ := plays_append.mp hw
      rw [Act.ensuring_of_ok (hr.plays S w hS hfirst) (hr'.plays S _ hS hrest), World.extend_extend,
        Script.events_append]
  | error e =>
    obtain rfl : v' = .error e := hr'.result
    have hend := Act.ensuring_of_error hnm hcm
    refine ⟨script ++ script', .error e, es ++ es', ?_, ?_, hcovered, fun S w hS hw ↦ ?_⟩
    · rw [hend]
      rfl
    · rw [hend]
      exact hsent
    · obtain ⟨hfirst, hrest⟩ := plays_append.mp hw
      rw [Act.ensuring_of_error (hr.plays S w hS hfirst) (hr'.plays S _ hS hrest), World.extend_extend,
        Script.events_append]

theorem record_bind {e : Event} {k : Unit → ManagerM γ} (he : ∀ log, sends (log ++ [e]) = sends log)
    (hk : Refines M render inside (k ()) t f) : Refines M render inside (record e >>= k) t f := by
  intro m l hm
  obtain ⟨script, r, es, hr⟩ := hk (m.record e) l ((he m.log).trans hm)
  exact ⟨script, r, es, hr⟩

theorem bind_record {e : γ → Event} (he : ∀ v log, sends (log ++ [e v]) = sends log)
    (hn : Refines M render inside n t f) : Refines M render inside (do
      let v ← n
      record (e v)
      Pure.pure v) t f := by
  intro m l hm
  obtain ⟨script, r, es, hr⟩ := hn m l hm
  refine ⟨script, r, es, ?_⟩
  rcases hnm : n m with ⟨v, m'⟩
  rw [hnm] at hr
  cases v with
  | error e' =>
    rw [Act.bind_of_error hnm]
    exact ⟨hr.result, hr.sent, hr.covered, hr.plays⟩
  | ok v =>
    rw [Act.bind_of_ok hnm]
    exact ⟨hr.result, (he v m'.log).trans hr.sent, hr.covered, hr.plays⟩

end Refines

section Connecting

variable {instanceId : Str} {databaseOverride : Option Str}

omit [UnicodeData] in
theorem acquireConnection_sends {m m' : World} {l : List Sending} {r : Except Exc (Conn × Bool)}
    (hm : sends m.log = (false, l)) (ha : acquireConnection M instanceId databaseOverride m = (r, m')) :
    sends m'.log = (false, l) := by
  have hkept : Invariant (fun m ↦ sends m.log = (false, l)) (acquireConnection M instanceId databaseOverride) :=
    acquireConnection_maintained sends_maintained
  have h := hkept m hm
  rw [ha] at h
  exact Ends.snd (I := fun m ↦ sends m.log = (false, l)) h (fun _ _ h ↦ h) (fun _ _ h ↦ h)

omit [UnicodeData] in
theorem driver_apply (S : McpSqlServer.Site β) (e : McpSqlServer.Event) (w : McpSqlServer.World β) :
    driver S e w = (S.driver (w.trace ++ [e]), w.extend [e]) := rfl

omit [UnicodeData] in
theorem connect_of_known {S : McpSqlServer.Site β} (hS : Manages M S) {inst : SqlInstanceConfig}
    (hl : M.lookup instanceId = some inst) (block : ToolM β δ) :
    McpSqlServer.connect S instanceId databaseOverride block = driver S (.connect instanceId databaseOverride) >>=
      fun _ ↦ block := by
  rw [McpSqlServer.connect, hS.instances, hl]
  rfl

theorem Refines.connect {block : Conn → ManagerM γ} (hb : ∀ c, Refines M render true (block c) t f) :
    Refines M render false (connect M instanceId databaseOverride block)
      (fun S ↦ McpSqlServer.connect S instanceId databaseOverride (t S)) f := by
  intro m l hm
  rcases ha : acquireConnection M instanceId databaseOverride m with ⟨a, m₀⟩
  have hm₀ := acquireConnection_sends hm ha
  cases a with
  | error e =>
    have hend : ConnectionManager.connect M instanceId databaseOverride block m = (.error e, m₀) :=
      Act.bind_of_error ha _
    rw [hend]
    cases hl : M.lookup instanceId with
    | none =>
      rw [acquireConnection, hl] at ha
      cases ha
      refine ⟨[], .error (keyError instanceId), [], rfl, by rwa [List.append_nil], .refl _, fun S w hS _ ↦ ?_⟩
      rw [McpSqlServer.connect, hS.instances, hl, Script.events, List.map_nil, World.extend_nil]
      rfl
    | some inst =>
      refine ⟨[(.connect instanceId databaseOverride, some (.error e))], .error e, [], rfl,
        by rwa [List.append_nil], List.nil_sublist _, fun S w hS hw ↦ ?_⟩
      rw [connect_of_known hS hl]
      have hd : driver S (.connect instanceId databaseOverride) w =
          (.error e, w.extend [.connect instanceId databaseOverride]) := by rw [driver_apply, hw.1 _ rfl]
      exact Act.bind_of_error hd _
  | ok entry =>
    obtain ⟨c, pooled⟩ := entry
    obtain ⟨inst, hl⟩ := acquireConnection_lookup ha
    have hentered : sends (m₀.record (.entered c pooled)).log = (true, l) := by
      rw [World.record, sends_snoc, hm₀]
      rfl
    obtain ⟨script, r, es, hr⟩ := hb c (m₀.record (.entered c pooled)) l hentered
    rcases hbm : block c (m₀.record (.entered c pooled)) with ⟨v, m₁⟩
    rw [hbm] at hr
    have hleft : sends (m₁.log ++ [.left c pooled (failureOf v)]) = (false, l ++ es) := by
      rw [sends_snoc, hr.sent]
      rfl
    have hrelease := releaseConnection_maintained (E := fun _ m ↦ sends m.log = (false, l ++ es)) (c := c)
      (sends_maintained.on c) hl pooled ((failureOf v).any Exc.caught) (m₁.record (.left c pooled (failureOf v))) hleft
    rw [connect_eq_release ha hbm]
    refine ⟨(.connect instanceId databaseOverride, some (.ok {})) :: script, r, es, hr.result,
      Ends.snd (I := fun m ↦ sends m.log = (false, l ++ es)) hrelease (fun _ _ h ↦ h) (fun _ _ h ↦ h), hr.covered,
      fun S w hS hw ↦ ?_⟩
    rw [connect_of_known hS hl]
    have hd : driver S (.connect instanceId databaseOverride) w =
        (.ok {}, w.extend [.connect instanceId databaseOverride]) := by rw [driver_apply, hw.1 _ rfl]
    rw [Act.bind_of_ok hd, hr.plays S _ hS hw.2, World.extend_extend]
    rfl

theorem Refines.readAttempts {operation : Conn → ManagerM Value} {f : δ → Value}
    (ho : ∀ c, Refines M render true (operation c) t f) (attempts : ℕ) :
    Refines M render false (readAttempts M instanceId databaseOverride operation attempts)
      (fun S ↦ McpSqlServer.readAttempts S instanceId databaseOverride (t S) attempts) f := by
  induction attempts with
  | zero => exact .raise _
  | succ attempts ih =>
    refine .catching (.bind_record (fun v log ↦ sends_snoc log (.attempted (.ok v))) (.connect ho)) (fun e ↦ ?_)
    refine .record_bind (fun log ↦ sends_snoc log (.attempted (.error e))) ?_
    by_cases hretry : (e.caught && decide (attempts ≠ 0) && isTransientReadError e) = true
    · simp only [if_pos hretry]
      exact .record_bind (fun log ↦ sends_snoc log _) ih
    · simp only [if_neg hretry]
      exact .raise e

end Connecting

section Blocks

variable {Q : γ → Prop} {R : γ' → Prop} {instanceId : Str} {c : Conn} {l : List Sending}

def Fetches (n : ManagerM γ) (Q : γ → Prop) : Prop :=
  ∀ s, Triple (fun m ↦ sends m.log = s) n (fun v m ↦ Q v ∧ sends m.log = s) (fun _ m ↦ sends m.log = s)

namespace Fetches

omit [UnicodeData] in
theorem pure {v : γ} (h : Q v) : Fetches (pure v) Q := fun _ ↦ Triple.pure (fun _ hm ↦ ⟨h, hm⟩)

omit [UnicodeData] in
theorem bind {k : γ → ManagerM γ'} (hn : Fetches n Q) (hk : ∀ v, Q v → Fetches (k v) R) : Fetches (n >>= k) R :=
  fun s ↦ Triple.bind (hn s) (fun v ↦ Triple.extract (fun hv ↦ hk v hv s))

omit [UnicodeData] in
theorem ask {d : DriverCall} (hd : d.isSilent = true) {Q : Reply → Prop}
    (hQ : ∀ log reply, M.answer (log ++ [.call d]) = .ok reply → Q reply) : Fetches (ask M d) Q := by
  refine fun s ↦ ask_answered (fun m reply hm hr ↦ ⟨hQ m.log reply hr, ?_⟩) (fun m e hm _ ↦ ?_)
  · exact (sends_silent hd m.log).trans hm
  · exact (sends_silent hd m.log).trans hm

omit [UnicodeData] in
theorem asking (M : Site) {d : DriverCall} (hd : d.isSilent = true) :
    Fetches (ConnectionManager.ask M d) (fun _ ↦ True) :=
  .ask hd (fun _ _ _ ↦ trivial)

omit [UnicodeData] in
theorem ofExcept (r : Except Exc γ) : Fetches (Act.ofExcept r) (fun _ ↦ True) :=
  fun _ ↦ Triple.ofExcept (fun _ _ _ h ↦ ⟨trivial, h⟩) (fun _ _ _ h ↦ h)

theorem columnNames (M : Site) (c : Conn) : Fetches (columnNames M c) (fun _ ↦ True) :=
  (asking M rfl).bind (fun _ _ ↦ .ofExcept _)

end Fetches

omit [UnicodeData] in
theorem execute_then {sql : Str} {params : List Value} {rest : ManagerM γ} (hrest : Fetches rest Q) (l : List Sending) :
    Triple (fun m ↦ sends m.log = (true, l)) (do
      let _ ← ask M (.execute c sql params)
      rest) (fun v m ↦ Q v ∧ SentAtMost l sql m.log) (fun _ m ↦ SentAtMost l sql m.log) := by
  have hsent : ∀ m : World, sends m.log = (true, l) →
      sends (m.log ++ [.call (.execute c sql params)]) = (true, l ++ [.statement sql]) := by
    intro m hm
    rw [sends_snoc, hm]
    rfl
  refine .bind (R := fun _ m ↦ sends m.log = (true, l ++ [.statement sql]))
    (ask_answered (fun m _ hm _ ↦ hsent m hm) (fun m _ hm _ ↦ sentAtMost_of_some (hsent m hm))) (fun _ ↦ ?_)
  exact (hrest _).mono (fun _ h ↦ h) (fun _ _ h ↦ ⟨h.1, sentAtMost_of_some h.2⟩) (fun _ _ h ↦ sentAtMost_of_some h)

omit [UnicodeData] in
theorem cursor_execute_then {sql : Str} {params : List Value} {rest : ManagerM γ} (hrest : Fetches rest Q)
    (l : List Sending) : Triple (fun m ↦ sends m.log = (true, l)) (do
      let _ ← ask M (.cursor c)
      let _ ← ask M (.execute c sql params)
      rest) (fun v m ↦ Q v ∧ SentAtMost l sql m.log) (fun _ m ↦ SentAtMost l sql m.log) := by
  have hcursor := (Fetches.asking M (d := .cursor c) rfl) (true, l)
  refine .bind (hcursor.mono (fun _ h ↦ h) (fun _ _ h ↦ h.2) (fun _ _ h ↦ sentAtMost_of_none h)) (fun _ ↦ ?_)
  exact execute_then hrest l

/-- A part of a block around one statement is one call of the driver to the tools. -/
theorem Refines.execute {statement : Statement} {present : ResultSet → γ}
    (h : ∀ l, Triple (fun m ↦ sends m.log = (true, l)) n
      (fun v m ↦ (∃ result, present result = v) ∧ SentAtMost l (statement.text render) m.log)
      (fun _ m ↦ SentAtMost l (statement.text render) m.log)) :
    Refines M render true n (fun S : McpSqlServer.Site β ↦ McpSqlServer.execute S instanceId statement) present := by
  intro m l hm
  have hend := h l m hm
  rcases hnm : n m with ⟨v, m'⟩
  rw [hnm] at hend
  have hplays (r : Except Exc ResultSet) (S : McpSqlServer.Site β) (w : McpSqlServer.World β)
      (hw : Plays S.driver w.trace [(.execute instanceId statement, some r)]) :
      McpSqlServer.execute S instanceId statement w = (r, w.extend [.execute instanceId statement]) := by
    rw [McpSqlServer.execute, driver_apply, hw.1 _ rfl]
  cases v with
  | error e =>
    obtain ⟨es, hes, hsub⟩ : SentAtMost l (statement.text render) m'.log := hend
    exact ⟨[(.execute instanceId statement, some (.error e))], .error e, es, rfl, hes, hsub,
      fun S w _ hw ↦ hplays _ S w hw⟩
  | ok v =>
    obtain ⟨⟨result, rfl⟩, es, hes, hsub⟩ := hend
    exact ⟨[(.execute instanceId statement, some (.ok result))], .ok result, es, rfl, hes, hsub,
      fun S w _ hw ↦ hplays _ S w hw⟩

theorem executeReadOp_refines (instanceId : Str) (hM : M.FetchesAtMost) (statement : Statement) (maxRows : ℤ)
    (c : Conn) :
    Refines M render true (executeReadOp M (statement.text render) maxRows c) (fun S : McpSqlServer.Site β ↦ do
      let result ← McpSqlServer.execute S instanceId statement
      pure (result.rows.take maxRows.toNat)) ofRows := by
  refine .map (.execute (cursor_execute_then ?_))
  refine (Fetches.columnNames M c).bind (fun columns _ ↦
    .bind (.ask rfl (fun log ↦ hM log c maxRows)) (fun reply h ↦ ?_))
  refine .pure ⟨{ rows := toRows columns reply.rows }, ?_⟩
  rw [List.take_of_length_le (by rwa [toRows, List.length_map])]

theorem executeReadInDatabaseOp_refines (instanceId : Str) (hM : M.FetchesAtMost) (statement : Statement)
    (maxRows : ℤ) (c : Conn) :
    Refines M render true (executeReadInDatabaseOp M (statement.text render) maxRows c)
      (fun S : McpSqlServer.Site β ↦ do
        let result ← McpSqlServer.execute S instanceId statement
        pure { result with rows := result.rows.take maxRows.toNat })
      (fun result ↦
        .dict [("columns".toList, .list (result.columns.map .str)), ("rows".toList, ofRows result.rows)]) := by
  refine .map (.execute (cursor_execute_then ?_))
  refine (Fetches.columnNames M c).bind (fun columns _ ↦
    .bind (.ask rfl (fun log ↦ hM log c maxRows)) (fun reply h ↦ ?_))
  refine .pure ⟨{ columns := columns, rows := toRows columns reply.rows }, ?_⟩
  dsimp only
  rw [List.take_of_length_le (by rwa [toRows, List.length_map])]

theorem fetchSingleRowOp_refines (instanceId : Str) (statement : Statement) (c : Conn) :
    Refines M render true (fetchSingleRowOp M (statement.text render) c) (fun S : McpSqlServer.Site β ↦ do
      let result ← McpSqlServer.execute S instanceId statement
      pure (result.rows.head?.getD [])) .dict := by
  refine .map (.execute (cursor_execute_then ?_))
  refine (Fetches.asking M rfl).bind (fun reply _ ↦ (Fetches.columnNames M c).bind (fun columns _ ↦ ?_))
  refine .pure ?_
  split
  · rename_i row rows h
    exact ⟨{ rows := [columns.zip row] }, rfl⟩
  · exact ⟨{}, rfl⟩

theorem listObjectsOp_refines (instanceId : Str) (typeCode : Str) (c : Conn) :
    Refines M render true (listObjectsOp M 5000 typeCode c) (fun S : McpSqlServer.Site β ↦ do
      let result ← McpSqlServer.execute S instanceId (.program (listObjectsSql 5000))
      pure result.rows) ofRows := by
  refine .map (.execute (cursor_execute_then ?_))
  refine (Fetches.columnNames M c).bind (fun columns _ ↦ (Fetches.asking M rfl).bind (fun reply _ ↦ ?_))
  exact .pure ⟨{ rows := toRows columns reply.rows }, rfl⟩

theorem explainQueryOp_refines (instanceId : Str) (statement : Statement) (c : Conn) :
    Refines M render true (explainQueryOp M (statement.text render) c) (fun S : McpSqlServer.Site β ↦ do
      let _ ← McpSqlServer.execute S instanceId (.program "SET SHOWPLAN_ALL ON".toList)
      Act.ensuring (McpSqlServer.execute S instanceId statement) (do
        let _ ← McpSqlServer.execute S instanceId (.program "SET SHOWPLAN_ALL OFF".toList)
        pure ())) (fun result ↦ ofRows result.rows) := by
  have hon : Refines M render true (do
      let _ ← ask M (.cursor c)
      let _ ← ask M (.execute c "SET SHOWPLAN_ALL ON".toList [])
      pure ()) (fun S : McpSqlServer.Site β ↦ McpSqlServer.execute S instanceId (.program "SET SHOWPLAN_ALL ON".toList))
      (fun _ ↦ ()) := .execute (cursor_execute_then (.pure ⟨{}, rfl⟩))
  have hoff : Refines M render true (do
      let _ ← ask M (.execute c "SET SHOWPLAN_ALL OFF".toList [])
      pure ()) (fun S : McpSqlServer.Site β ↦ do
        let _ ← McpSqlServer.execute S instanceId (.program "SET SHOWPLAN_ALL OFF".toList)
        pure ()) id := .map (.execute (execute_then (.pure ⟨{}, rfl⟩)))
  have hplan : Refines M render true (do
      let _ ← ask M (.execute c (statement.text render) [])
      let columns ← columnNames M c
      let reply ← ask M (.fetchall c)
      pure (ofRows (toRows columns reply.rows)))
      (fun S : McpSqlServer.Site β ↦ McpSqlServer.execute S instanceId statement)
      (fun result ↦ ofRows result.rows) := by
    refine .execute (execute_then ?_)
    refine (Fetches.columnNames M c).bind (fun columns _ ↦ (Fetches.asking M rfl).bind (fun reply _ ↦ ?_))
    exact .pure ⟨{ rows := toRows columns reply.rows }, rfl⟩
  have hexplain := hon.bind (k := fun _ ↦ _) (h := fun _ ↦ _) (fun _ ↦ hplan.ensuring hoff)
  simp only [Act.bind_assoc, Act.pure_bind] at hexplain
  exact hexplain

end Blocks

section Procedures

variable {instanceId procName : Str} {params : List Value} {c : Conn} {l : List Sending}

def fetchProc (M : Site) (procName : Str) (params : List Value) (c : Conn) : ManagerM (Bool × List Str × List Row) := do
  let _ ← ask M (.cursor c)
  let _ ← ask M (.execute c (execStatement procName params.length) params)
  let described ← ask M (.description c)
  let hasResultSet := !(described.description.getD []).isEmpty
  let (columns, rows) ← (if hasResultSet then do
      let columns ← columnNames M c
      let reply ← ask M (.fetchall c)
      pure (columns, toRows columns reply.rows)
    else pure ([], []))
  pure (hasResultSet, columns, rows)

omit [UnicodeData] in
def commitCount (M : Site) (c : Conn) : ManagerM ℤ := do
  let _ ← ask M (.commit c)
  let counted ← ask M (.rowcount c)
  pure counted.rowcount

theorem executeProcOp_eq_fetchProc (M : Site) (procName : Str) (params : List Value) (c : Conn) :
    executeProcOp M procName params c = (do
      let d ← fetchProc M procName params c
      let rowcount ← commitCount M c
      pure (procResult procName d rowcount)) := by
  simp only [executeProcOp, fetchProc, commitCount, Act.bind_assoc, Act.pure_bind]
  rfl

theorem fetchProc_sends (M : Site) (procName : Str) (params : List Value) (c : Conn) (l : List Sending) :
    Triple (fun m ↦ sends m.log = (true, l)) (fetchProc M procName params c)
      (fun d m ↦ (d.1 = false → d.2 = ([], [])) ∧ SentAtMost l (execStatement procName params.length) m.log)
      (fun _ m ↦ SentAtMost l (execStatement procName params.length) m.log) := by
  refine cursor_execute_then ((Fetches.asking M rfl).bind (fun described _ ↦ ?_)) l
  refine .bind (Q := fun d ↦ (!(described.description.getD []).isEmpty) = false → d = ([], [])) ?_
    (fun d hd ↦ .pure hd)
  split
  · rename_i h
    refine (Fetches.columnNames M c).bind (fun columns _ ↦ (Fetches.asking M rfl).bind (fun reply _ ↦ .pure ?_))
    exact fun hfalse ↦ Bool.noConfusion (h.symm.trans hfalse)
  · exact .pure (fun _ ↦ rfl)

omit [UnicodeData] in
theorem commitCount_sends (M : Site) (c : Conn) (l : List Sending) :
    Triple (fun m ↦ sends m.log = (true, l)) (commitCount M c) (fun _ m ↦ sends m.log = (true, l ++ [.commit]))
      (fun _ m ↦ sends m.log = (true, l ++ [.commit])) := by
  have hsent : ∀ m : World, sends m.log = (true, l) →
      sends (m.log ++ [.call (.commit c)]) = (true, l ++ [.commit]) := by
    intro m hm
    rw [sends_snoc, hm]
    rfl
  refine .bind (R := fun _ m ↦ sends m.log = (true, l ++ [.commit]))
    (ask_answered (fun m _ hm _ ↦ hsent m hm) (fun m _ hm _ ↦ hsent m hm)) (fun _ ↦ ?_)
  refine ((Fetches.asking M rfl).bind (fun counted _ ↦ .pure (Q := fun _ ↦ True) trivial) _).mono
    (fun _ h ↦ h) (fun _ _ h ↦ h.2) (fun _ _ h ↦ h)

omit [UnicodeData] in
def procAnswer (procName : Str) (result : ResultSet) : Dict Value × List Row :=
  let rows := if result.hasResultSet then result.rows else []
  ([("status".toList, .str "ok".toList), ("procedure".toList, .str procName),
    ("rowcount".toList, .int result.rowcount), ("has_result_set".toList, .bool result.hasResultSet),
    ("columns".toList, .list (if result.hasResultSet then result.columns.map .str else [])),
    ("rows".toList, ofRows rows)], rows)

theorem executeProcOp_refines (instanceId procName : Str) (params : List Value) (c : Conn) :
    Refines M render true (executeProcOp M procName params c) (fun S : McpSqlServer.Site β ↦ do
      let result ← McpSqlServer.execute S instanceId (.exec procName params.length)
      let _ ← driver S (.commit instanceId)
      pure (procAnswer procName result)) (fun answer ↦ .dict answer.1) := by
  intro m l hm
  rw [executeProcOp_eq_fetchProc]
  have hfetch := fetchProc_sends M procName params c l m hm
  have hexecute (r : Except Exc ResultSet) (S : McpSqlServer.Site β) (w : McpSqlServer.World β) (script : ToolScript)
      (hw : Plays S.driver w.trace ((.execute instanceId (.exec procName params.length), some r) :: script)) :
      McpSqlServer.execute S instanceId (.exec procName params.length) w =
        (r, w.extend [.execute instanceId (.exec procName params.length)]) := by
    rw [McpSqlServer.execute, driver_apply, hw.1 _ rfl]
  rcases hd : fetchProc M procName params c m with ⟨d, m₁⟩
  rw [hd] at hfetch
  cases d with
  | error e =>
    obtain ⟨es, hes, hsub⟩ : SentAtMost l (execStatement procName params.length) m₁.log := hfetch
    refine ⟨[(.execute instanceId (.exec procName params.length), some (.error e))], .error e, es, ?_⟩
    rw [Act.bind_of_error hd]
    exact ⟨rfl, hes, hsub, fun S w _ hw ↦ Act.bind_of_error (hexecute _ S w _ hw) _⟩
  | ok d =>
    obtain ⟨hnone, es, hes, hsub⟩ := hfetch
    have hcount := commitCount_sends M c (l ++ es) m₁ hes
    rcases hn : commitCount M c m₁ with ⟨n, m₂⟩
    rw [hn] at hcount
    have hsent : sends m₂.log = (true, l ++ (es ++ [.commit])) := by
      rw [← List.append_assoc]
      exact Ends.snd (I := fun m ↦ sends m.log = (true, l ++ es ++ [.commit])) hcount (fun _ _ h ↦ h) (fun _ _ h ↦ h)
    -- the tools' driver gives the number of rows with the result set, the manager asks for it behind the commit
    have hplays (rowcount : ℤ) (r : Except Exc ResultSet) (S : McpSqlServer.Site β) (w : McpSqlServer.World β)
        (hw : Plays S.driver w.trace [(.execute instanceId (.exec procName params.length),
          some (.ok { columns := d.2.1, rows := d.2.2, rowcount := rowcount, hasResultSet := d.1 })),
          (.commit instanceId, some r)]) : driver S (.commit instanceId)
            (w.extend [.execute instanceId (.exec procName params.length)]) =
              (r, w.extend [.execute instanceId (.exec procName params.length), .commit instanceId]) := by
      rw [driver_apply, World.extend_extend]
      exact Prod.ext (hw.2.1 _ rfl) rfl
    rw [Act.bind_of_ok hd]
    cases n with
    | error e =>
      refine ⟨[(.execute instanceId (.exec procName params.length),
        some (.ok { columns := d.2.1, rows := d.2.2, rowcount := 0, hasResultSet := d.1 })),
        (.commit instanceId, some (.error e))], .error e, es ++ [.commit], ?_⟩
      rw [Act.bind_of_error hn]
      refine ⟨rfl, hsent, hsub.append (.refl [Sending.commit]), fun S w _ hw ↦ ?_⟩
      rw [Act.bind_of_ok (hexecute _ S w _ hw)]
      exact Act.bind_of_error (hplays 0 (.error e) S w hw) _
    | ok n =>
      refine ⟨[(.execute instanceId (.exec procName params.length),
        some (.ok { columns := d.2.1, rows := d.2.2, rowcount := n, hasResultSet := d.1 })),
        (.commit instanceId, some (.ok {}))],
        .ok (procAnswer procName { columns := d.2.1, rows := d.2.2, rowcount := n, hasResultSet := d.1 }),
        es ++ [.commit], ?_⟩
      rw [Act.bind_of_ok hn]
      refine ⟨?_, hsent, hsub.append (.refl [Sending.commit]), fun S w _ hw ↦ ?_⟩
      · obtain ⟨hasResultSet, d⟩ := d
        cases hasResultSet with
        | true => rfl
        | false =>
          obtain rfl : d = ([], []) := hnone rfl
          rfl
      · rw [Act.bind_of_ok (hexecute _ S w _ hw)]
        exact Act.bind_of_ok (hplays n (.ok {}) S w hw) _

end Procedures

section Runs

inductive ToolQuery
  | executeRead (statement : Statement) (maxRows : ℤ)
  | executeReadInDatabase (databaseName : Str) (statement : Statement) (maxRows : ℤ)
  | fetchSingleRowInDatabase (databaseName : Str) (statement : Statement)
  | listObjects (databaseName objectType : Str)
  | explainQuery (databaseName : Str) (statement : Statement)
  | executeProc (procName : Str) (params : List Value) (databaseOverride : Option Str)

namespace ToolQuery

def operation (render : CatalogQuery → Str) : ToolQuery → Operation
  | .executeRead statement maxRows => .executeRead (statement.text render) maxRows
  | .executeReadInDatabase databaseName statement maxRows =>
    .executeReadInDatabase databaseName (statement.text render) maxRows
  | .fetchSingleRowInDatabase databaseName statement => .fetchSingleRowInDatabase databaseName (statement.text render)
  | .listObjects databaseName objectType => .listObjects databaseName objectType 5000
  | .explainQuery databaseName statement => .explainQuery databaseName (statement.text render)
  | .executeProc procName params databaseOverride => .executeProc procName params databaseOverride

def perform (S : McpSqlServer.Site β) (instanceId : Str) : ToolQuery → ToolM β Value
  | .executeRead statement maxRows => do
    let rows ← McpSqlServer.executeRead S instanceId statement maxRows
    pure (ofRows rows)
  | .executeReadInDatabase databaseName statement maxRows => do
    let result ← McpSqlServer.executeReadInDatabase S instanceId databaseName statement maxRows
    pure (.dict [("columns".toList, .list (result.columns.map .str)), ("rows".toList, ofRows result.rows)])
  | .fetchSingleRowInDatabase databaseName statement => do
    let row ← McpSqlServer.fetchSingleRowInDatabase S instanceId databaseName statement
    pure (.dict row)
  | .listObjects databaseName objectType => do
    let rows ← McpSqlServer.listObjects S instanceId databaseName objectType
    pure (ofRows rows)
  | .explainQuery databaseName statement => McpSqlServer.explainQuery S instanceId databaseName statement
  | .executeProc procName params databaseOverride => do
    let answer ← McpSqlServer.executeProc S instanceId procName params databaseOverride
    pure (.dict answer.1)

end ToolQuery

theorem Refines.present {f : δ → Value} {n : ManagerM Value} (hn : Refines M render inside n t f) :
    Refines M render inside n (fun S ↦ t S >>= fun d ↦ Pure.pure (f d)) id := .map hn

theorem Refines.manager (instanceId : Str) (hn : Refines M render inside n t f) :
    Refines M render inside n (fun S ↦ McpSqlServer.record (.manager instanceId) >>= fun _ ↦ t S) f := by
  intro m l hm
  obtain ⟨script, r, es, hr⟩ := hn m l hm
  exact ⟨(.manager instanceId, none) :: script, r, es, hr.result, hr.sent, hr.covered, fun S w hS hw ↦ by
    have h := hr.plays S (w.record (.manager instanceId)) hS hw.2
    have hrecord : McpSqlServer.record (.manager instanceId) w = (.ok (), w.record (.manager instanceId)) := rfl
    rw [Act.bind_of_ok hrecord, h]
    exact congrArg (Prod.mk r) (World.extend_extend w [.manager instanceId] _)⟩

theorem ToolQuery.refines (hM : M.FetchesAtMost) (query : ToolQuery) (instanceId : Str) :
    Refines M render false ((query.operation render).perform M instanceId)
      (fun S : McpSqlServer.Site β ↦ query.perform S instanceId) id := by
  cases query with
  | executeRead statement maxRows =>
    exact .present (.manager instanceId
      (.readAttempts (executeReadOp_refines instanceId hM statement maxRows) readRetryAttempts))
  | executeReadInDatabase databaseName statement maxRows =>
    exact .present (.manager instanceId
      (.readAttempts (executeReadInDatabaseOp_refines instanceId hM statement maxRows) readRetryAttempts))
  | fetchSingleRowInDatabase databaseName statement =>
    exact .present (.manager instanceId
      (.readAttempts (fetchSingleRowOp_refines instanceId statement) readRetryAttempts))
  | listObjects databaseName objectType =>
    refine .present (.manager instanceId ?_)
    show Refines M render false (ConnectionManager.listObjects M instanceId databaseName objectType 5000) _ _
    unfold ConnectionManager.listObjects
    cases hl : objectTypeMap.lookup (strip (lower objectType)) with
    | some typeCode => exact .readAttempts (listObjectsOp_refines instanceId typeCode) readRetryAttempts
    | none => exact .raise _
  | explainQuery databaseName statement =>
    exact .manager instanceId (.conclude (fun S hS ↦ funext hS.planSummary) (fun _ ↦ rfl)
      (.readAttempts (explainQueryOp_refines instanceId statement) readRetryAttempts))
  | executeProc procName params databaseOverride =>
    exact .present (.manager instanceId (.connect (executeProcOp_refines instanceId procName params)))

def inTurn {σ ι : Type} (perform : ι → Act σ Exc Value) : List ι → σ → List (Except Exc Value) × σ
  | [], s => ([], s)
  | call :: calls, s =>
    let ended := perform call s
    let rest := inTurn perform calls ended.2
    (ended.1 :: rest.1, rest.2)

def askTools (S : McpSqlServer.Site β) : List (Str × ToolQuery) → McpSqlServer.World β →
    List (Except Exc Value) × McpSqlServer.World β := inTurn (fun query ↦ query.2.perform S query.1)

def askManager (M : Site) (render : CatalogQuery → Str) : List (Str × ToolQuery) → World →
    List (Except Exc Value) × World := inTurn (fun query ↦ (query.2.operation render).perform M query.1)

variable (render) in
theorem queries_replayed (hM : M.FetchesAtMost) (calls : List (Str × ToolQuery)) {m : World} {l : List Sending}
    (hm : sends m.log = (false, l)) : ∃ (script : ToolScript) (es : List Sending),
      sends (askManager M render calls m).2.log = (false, l ++ es) ∧
      es.Sublist (scriptSends render script) ∧ ∀ (S : McpSqlServer.Site β) w, Manages M S →
        Plays S.driver w.trace script → askTools S calls w =
          ((askManager M render calls m).1, w.extend (Script.events script)) := by
  induction calls generalizing m l with
  | nil => exact ⟨[], [], by rwa [List.append_nil], .refl _, fun S w _ _ ↦ by
      rw [Script.events, List.map_nil, World.extend_nil]
      rfl⟩
  | cons call calls ih =>
    have hrefines : Refines M render false ((call.2.operation render).perform M call.1)
        (fun S : McpSqlServer.Site β ↦ call.2.perform S call.1) id := call.2.refines hM call.1
    obtain ⟨script, r, es, hr⟩ := hrefines m l hm
    obtain ⟨script', es', hsent, hcovered, hrest⟩ := ih hr.sent
    refine ⟨script ++ script', es ++ es', ?_, ?_, fun S w hS hw ↦ ?_⟩
    · rw [← List.append_assoc]
      exact hsent
    · rw [scriptSends_append]
      exact hr.covered.append hcovered
    · obtain ⟨hfirst, hthen⟩ := plays_append.mp hw
      have h := hr.result
      rw [Except.map_id] at h
      rw [askTools, inTurn, hr.plays S w hS hfirst]
      show (r :: (askTools S calls _).1, (askTools S calls _).2) = _
      rw [hrest S _ hS hthen, World.extend_extend, Script.events_append, askManager, inTurn, h]
      rfl

/-- Whatever queries the tools make, one after another: there are answers of the driver on which their model of the
manager gives the results of the manager, and every statement and commit that the manager sends is among the
events of the model, in the same order. -/
theorem manager_refines (hM : M.FetchesAtMost) {S : McpSqlServer.Site β} (hS : Manages M S)
    (calls : List (Str × ToolQuery)) (w : McpSqlServer.World β) {m : World} (hm : (sends m.log).1 = false) :
    ∃ (driver : List McpSqlServer.Event → Except Exc ResultSet) (events : List McpSqlServer.Event) (es : List Sending),
      (∀ trace, trace.length ≤ w.trace.length → driver trace = S.driver trace) ∧
      askTools { S with driver := driver } calls w =
        ((askManager M render calls m).1, w.extend events) ∧
      (sends (askManager M render calls m).2.log).2 = (sends m.log).2 ++ es ∧
      es.Sublist (events.filterMap (toolSending render)) := by
  obtain ⟨script, es, hsent, hcovered, hreplay⟩ := queries_replayed (β := β) render hM calls
    (m := m) (l := (sends m.log).2) (Prod.ext hm rfl)
  obtain ⟨driver, hplays, hbefore⟩ := exists_plays S.driver w.trace script
  refine ⟨driver, Script.events script, es, hbefore, ?_, congrArg Prod.snd hsent, hcovered⟩
  exact hreplay { S with driver := driver } w ⟨hS.instances, hS.planSummary⟩ hplays

end Runs

end Refinement

def planlessSite : Site := { lossySite with planSummary := fun _ ↦ .none }

theorem planlessSite_fetchesAtMost : planlessSite.FetchesAtMost := by
  intro log c n reply h
  have hlast : (log ++ [Event.call (.fetchmany c n)]).getLast? = some (.call (.fetchmany c n)) :=
    List.getLast?_concat
  have hreply : lossyAnswer (log ++ [.call (.fetchmany c n)]) = .ok {} := by rw [lossyAnswer, hlast]
  obtain rfl : ({} : Reply) = reply := Except.ok.inj (hreply.symm.trans h)
  exact Nat.zero_le _

theorem planlessSite_manages : Manages planlessSite (openSite {} [Pool.smallInstance]) where
  instances instanceId := by
    show (decide (Pool.smallInstance.id = instanceId) || false) =
      ([Pool.smallInstance].find? (fun inst ↦ inst.id = instanceId)).isSome
    rw [List.find?_cons]
    cases decide (Pool.smallInstance.id = instanceId) <;> rfl
  planSummary _ := rfl

def lostQueries : List (Str × ToolQuery) :=
  [("primary".toList, .executeRead (.caller "SELECT 42".toList) 1),
    ("primary".toList, .executeProc "dbo.p".toList [] none)]

theorem manager_refines_planless :
    let _ := asciiData
    ∃ (driver : List McpSqlServer.Event → Except Exc ResultSet) (events : List McpSqlServer.Event) (es : List Sending),
      (∀ trace, trace.length ≤ freshWorld.trace.length →
        driver trace = (openSite {} [Pool.smallInstance]).driver trace) ∧
      askTools { openSite {} [Pool.smallInstance] with driver := driver } lostQueries freshWorld =
        ((askManager planlessSite (fun _ ↦ []) lostQueries {}).1, freshWorld.extend events) ∧
      (sends (askManager planlessSite (fun _ ↦ []) lostQueries {}).2.log).2 = (sends ({} : World).log).2 ++ es ∧
      es.Sublist (events.filterMap (toolSending (fun _ ↦ []))) := by
  intro U
  exact manager_refines planlessSite_fetchesAtMost planlessSite_manages lostQueries freshWorld rfl

end McpSqlServer.ConnectionManager
