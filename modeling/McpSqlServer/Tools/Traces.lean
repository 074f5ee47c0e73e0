import McpSqlServer.Tools.AnalysisTools

namespace McpSqlServer

open Library Library.Text Library.Python

variable {β α : Type} {S : Site β} {w : World β} {I : World β → Prop} {E : Exc → World β → Prop}

def Event.isGate : Event → Bool
  | .passed _ | .refused _ => true
  | _ => false

def Event.isQuery : Event → Bool
  | .manager _ | .connect _ _ | .execute _ _ | .commit _ => true
  | _ => false

def Event.QueryOf (instanceId : Str) (stmts : Statement → Prop) : Event → Prop
  | .manager i | .connect i _ | .commit i => i = instanceId
  | .execute i stmt => i = instanceId ∧ stmts stmt
  | _ => False

theorem Event.QueryOf.isQuery {instanceId : Str} {stmts : Statement → Prop} {e : Event}
    (h : e.QueryOf instanceId stmts) : e.isQuery = true := by
  cases e with
  | manager i => rfl
  | connect i d => rfl
  | execute i s => rfl
  | commit i => rfl
  | notify => cases h
  | passed g => cases h
  | refused g => cases h
  | logEvent t => cases h

@[simp] theorem World.record_trace (w : World β) (e : Event) : (w.record e).trace = w.trace ++ [e] := rfl

/-- An assertion that neither notifications nor the bookkeeping of a call disturb. -/
structure Quiet (I : World β → Prop) : Prop where
  notify : ∀ w, I w → I (w.record .notify)
  frame : ∀ w f, I w → I (w.setFrame f)
  denied : ∀ w n, I w → I { w with deniedRequests := n }

def KeptByQueries (instanceId : Str) (stmts : Statement → Prop) (I : World β → Prop) : Prop :=
  ∀ w e, e.QueryOf instanceId stmts → I w → I (w.record e)

structure Undisturbed (instanceId : Str) (stmts : Statement → Prop) (I : World β → Prop) : Prop where
  notify : ∀ w, I w → I (w.record .notify)
  query : ∀ w e, e.QueryOf instanceId stmts → I w → I (w.record e)
  rows : ∀ w n, I w → I (w.setFrame (fun f ↦ { f with rows := n }))
  pages : ∀ w p, I w → I { w with pages := p }

theorem record_invariant {e : Event} (h : ∀ w, I w → I (w.record e)) : Invariant I (record (β := β) e) :=
  Invariant.modify h

theorem notify_invariant (h : ∀ w, I w → I (w.record .notify)) : Invariant I (notify S) := by
  unfold notify
  split
  · exact Invariant.pure ()
  · exact .bind (record_invariant h) (fun _ ↦ .bind (.read _) (fun _ ↦ .ofExcept _))

theorem notifyIf_invariant (condition : Bool) (h : ∀ w, I w → I (w.record .notify)) : Invariant I (notifyIf S condition) := by
  unfold notifyIf
  split
  · exact notify_invariant h
  · exact Invariant.pure ()

theorem driver_invariant {e : Event} (h : ∀ w, I w → I (w.record e)) : Invariant I (driver S e) :=
  .bind (record_invariant h) (fun _ ↦ .bind (.read _) (fun _ ↦ .ofExcept _))

theorem utcNow_invariant : Invariant I (utcNow S) := .bind (.read _) (fun _ ↦ .pure _)

section Queries

variable {instanceId dbName : Str} {db : Option Str} {stmts : Statement → Prop} {stmt : Statement}

theorem connect_invariant {block : ToolM β α} (hq : KeptByQueries instanceId stmts I) (hb : Invariant I block) :
    Invariant I (connect S instanceId db block) := by
  unfold connect
  split
  · exact .bind (driver_invariant (fun w h ↦ hq w _ rfl h)) (fun _ ↦ hb)
  · exact Invariant.raise _

theorem execute_invariant (hq : KeptByQueries instanceId stmts I) (hs : stmts stmt) :
    Invariant I (execute S instanceId stmt) :=
  driver_invariant (fun w h ↦ hq w _ ⟨rfl, hs⟩ h)

theorem manager_invariant (hq : KeptByQueries instanceId stmts I) :
    Invariant I (record (β := β) (.manager instanceId)) :=
  record_invariant (fun w h ↦ hq w _ rfl h)

theorem setRows_invariant (hI : Undisturbed instanceId stmts I) (n : ℕ) : Invariant I (setRows (β := β) n) :=
  Invariant.modify (fun w h ↦ hI.rows w n h)

theorem commit_invariant (hI : Undisturbed instanceId stmts I) : Invariant I (driver S (.commit instanceId)) :=
  driver_invariant (fun w h ↦ hI.query w _ rfl h)

theorem executeProc_invariant {procName : Str} {params : List Value} (hI : Undisturbed instanceId stmts I)
    (hs : stmts (.exec procName params.length)) : Invariant I (executeProc S instanceId procName params db) := by
  refine .bind (manager_invariant hI.query) (fun _ ↦ connect_invariant hI.query ?_)
  refine .bind (execute_invariant hI.query hs) (fun result ↦ ?_)
  exact .bind (commit_invariant hI) (fun _ ↦ Invariant.pure _)

variable [UnicodeData]

theorem readAttempts_invariant {operation : ToolM β α} (hq : KeptByQueries instanceId stmts I)
    (ho : Invariant I operation) (n : ℕ) : Invariant I (readAttempts S instanceId db operation n) := by
  induction n with
  | zero => exact Invariant.raise _
  | succ n ih =>
    refine .catching (connect_invariant hq ho) (fun e ↦ ?_)
    split
    · exact ih
    · exact Invariant.raise e

theorem runReadOperation_invariant {operation : ToolM β α} (hq : KeptByQueries instanceId stmts I)
    (ho : Invariant I operation) : Invariant I (runReadOperation S instanceId db operation) :=
  readAttempts_invariant hq ho readRetryAttempts

theorem executeRead_invariant (hI : Undisturbed instanceId stmts I) (hs : stmts stmt) (maxRows : ℤ) :
    Invariant I (executeRead S instanceId stmt maxRows) :=
  .bind (manager_invariant hI.query) (fun _ ↦ runReadOperation_invariant hI.query
    (.bind (execute_invariant hI.query hs) (fun _ ↦ Invariant.pure _)))

theorem executeReadInDatabase_invariant (hq : KeptByQueries instanceId stmts I) (hs : stmts stmt) (maxRows : ℤ) :
    Invariant I (executeReadInDatabase S instanceId dbName stmt maxRows) :=
  .bind (manager_invariant hq) (fun _ ↦ runReadOperation_invariant hq
    (.bind (execute_invariant hq hs) (fun _ ↦ Invariant.pure _)))

theorem readRows_invariant (hI : Undisturbed instanceId stmts I) (hs : stmts stmt) (db : Option Str) (maxRows : ℤ) :
    Invariant I (readRows S instanceId db stmt maxRows) := by
  cases db with
  | none => exact executeRead_invariant hI hs maxRows
  | some dbName => exact .bind (executeReadInDatabase_invariant hI.query hs maxRows) (fun _ ↦ Invariant.pure _)

theorem fetchSingleRowInDatabase_invariant (hI : Undisturbed instanceId stmts I) (hs : stmts stmt) :
    Invariant I (fetchSingleRowInDatabase S instanceId dbName stmt) :=
  .bind (manager_invariant hI.query) (fun _ ↦ runReadOperation_invariant hI.query
    (.bind (execute_invariant hI.query hs) (fun _ ↦ Invariant.pure _)))

theorem listObjects_invariant {objectType : Str} (hI : Undisturbed instanceId stmts I)
    (hs : stmts (.program (listObjectsSql 5000))) : Invariant I (listObjects S instanceId dbName objectType) := by
  refine .bind (manager_invariant hI.query) (fun _ ↦ ?_)
  split
  · exact runReadOperation_invariant hI.query (.bind (execute_invariant hI.query hs) (fun _ ↦ Invariant.pure _))
  · exact Invariant.raise _

theorem explainQuery_invariant (hI : Undisturbed instanceId stmts I) (hs : stmts stmt)
    (hp : ∀ text, stmts (.program text)) : Invariant I (explainQuery S instanceId dbName stmt) := by
  refine .bind (manager_invariant hI.query) (fun _ ↦
    .bind (runReadOperation_invariant hI.query ?_) (fun _ ↦ Invariant.pure _))
  refine .bind (execute_invariant hI.query (hp _)) (fun _ ↦ .ensuring (execute_invariant hI.query hs) ?_)
  exact .bind (execute_invariant hI.query (hp _)) (fun _ ↦ Invariant.pure ())

theorem catalogQuery_invariant (hq : KeptByQueries instanceId stmts I) (hc : ∀ q, stmts (.catalog q))
    (query : CatalogQuery) (maxRows : ℤ) : Invariant I (catalogQuery S instanceId dbName query maxRows) :=
  executeReadInDatabase_invariant hq (hc query) maxRows

theorem catalogQueriesIf_invariant (hq : KeptByQueries instanceId stmts I) (hc : ∀ q, stmts (.catalog q))
    (cond : Bool) (queries : List (CatalogQuery × ℤ)) :
    Invariant I (catalogQueriesIf S cond instanceId dbName queries) := by
  unfold catalogQueriesIf
  split
  · refine Invariant.each (fun q ↦ ?_) queries
    exact catalogQuery_invariant hq hc q.1 q.2
  · exact Invariant.pure _

theorem dashboardQueries_invariant (hq : KeptByQueries instanceId stmts I) (hc : ∀ q, stmts (.catalog q))
    (includeLocks : Bool) : Invariant I (dashboardQueries S instanceId dbName includeLocks) :=
  .bind (catalogQuery_invariant hq hc _ _) (fun _ ↦
    .bind (catalogQueriesIf_invariant hq hc _ _) (fun _ ↦ Invariant.pure _))

theorem registerDashboardPage_invariant (hI : Undisturbed instanceId stmts I) (requestId html : Str)
    (ttlSeconds : ℤ) (metadata : Option (Dict Value)) :
    Invariant I (registerDashboardPageWithMetadata S requestId html ttlSeconds metadata) :=
  .bind (.ofExcept _) (fun _ ↦ .bind (.ofExcept _) (fun _ ↦ .bind (.ofExcept _) (fun _ ↦
    .bind (.modify (fun w h ↦ hI.pages w _ h)) (fun _ ↦ Invariant.pure _))))

theorem getValidEntry_invariant (hI : Undisturbed instanceId stmts I) (requestId : Str) :
    Invariant I (getValidEntry S requestId) :=
  .bind (.ofExcept _) (fun _ ↦ .bind (.modify (fun w h ↦ hI.pages w _ h)) (fun _ ↦ Invariant.read _))

theorem dmvFallback_invariant (hI : Undisturbed instanceId stmts I) (hc : ∀ q, stmts (.catalog q)) (topN : ℤ)
    (exc : Exc) : Invariant I (dmvFallback S instanceId dbName topN exc) := by
  unfold dmvFallback
  split
  · refine .catching (.bind (catalogQuery_invariant hI.query hc _ _) (fun _ ↦ Invariant.pure _)) (fun e ↦ ?_)
    split
    · exact Invariant.pure _
    · exact Invariant.raise e
  · exact Invariant.raise exc

theorem objectPressure_invariant (hI : Undisturbed instanceId stmts I) (hc : ∀ q, stmts (.catalog q)) (topN : ℤ) :
    Invariant I (objectPressure S instanceId dbName topN) := by
  refine .catching (.bind (catalogQuery_invariant hI.query hc _ _) (fun _ ↦ Invariant.pure _)) (fun e ↦ ?_)
  split
  · exact Invariant.pure _
  · exact Invariant.raise e

theorem collectTopStatementMetrics_invariant (hI : Undisturbed instanceId stmts I) (hc : ∀ q, stmts (.catalog q))
    (topN lookbackMinutes : ℤ) :
    Invariant I (collectTopStatementMetrics S instanceId dbName topN lookbackMinutes) := by
  refine .bind (.catching ?_ (dmvFallback_invariant hI hc topN)) (fun stmt ↦ ?_)
  · exact .bind (catalogQuery_invariant hI.query hc _ _) (fun _ ↦ Invariant.pure _)
  · exact .bind (objectPressure_invariant hI hc topN) (fun _ ↦ Invariant.pure _)

end Queries

end McpSqlServer
