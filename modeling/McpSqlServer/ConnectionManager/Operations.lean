import McpSqlServer.ConnectionManager.ColumnNames
import McpSqlServer.ConnectionManager.Queries
import McpSqlServer.ConnectionManager.Statements
import McpSqlServer.Pool.State
import Mathlib.Algebra.Order.Ring.Rat
import Mathlib.Logic.Function.Basic

namespace McpSqlServer.ConnectionManager

open Library Library.Text Library.Python
open Pool (Conn PoolState)

inductive DriverCall
  | connect (instanceId database : Str)
  | cursor (c : Conn)
  | execute (c : Conn) (sql : Str) (params : List Value)
  | description (c : Conn)
  | fetchone (c : Conn)
  | fetchmany (c : Conn) (maxRows : ℤ)
  | fetchall (c : Conn)
  | rowcount (c : Conn)
  | commit (c : Conn)
  | rollback (c : Conn)
  | setAutocommit (c : Conn) (autocommit : Bool)
  | close (c : Conn)

structure Reply where
  description : Option (List (Option Str)) := none
  rows : List (List Value) := []
  rowcount : ℤ := -1

/-- What a call of the manager does, in its order: besides driver calls and waits, where the
blocks of `connect` begin and end, and how the attempts of `_run_read_operation` end. -/
inductive Event
  | call (d : DriverCall)
  | waited (seconds : ℚ)
  | slept (seconds : ℚ)
  | entered (c : Conn) (pooled : Bool)
  | left (c : Conn) (pooled : Bool) (failure : Option Exc)
  | attempted (outcome : Except Exc Value)

/-- The configuration and surroundings of a manager. Driver and clocks answer what has
happened so far; the driver raises nothing but `Exception`s. -/
structure Site where
  config : List SqlInstanceConfig
  answer : List Event → Except Exc Reply
  monotonic : List Event → ℚ
  time : List Event → ℚ
  timestamp : List Event → Str
  planSummary : Value → Value
  answer_onlyExceptions : ∀ log, OnlyExceptions (answer log)
  monotonic_waited : ∀ log seconds, monotonic log + seconds ≤ monotonic (log ++ [.waited seconds])

structure World where
  pools : Str → PoolState := fun _ ↦ {}
  next : Conn := 0
  health : Str → Dict Value :=
    fun _ ↦ [("state".toList, .str "unknown".toList), ("checked_at".toList, .none), ("error".toList, .none)]
  log : List Event := []

abbrev ManagerM (α : Type) := Act World Exc α

variable {α : Type} (S : Site)

/-- `_instances[instance_id]`; of two entries for one id the later wins. -/
def Site.lookup (instanceId : Str) : Option SqlInstanceConfig :=
  (S.config.filter SqlInstanceConfig.enabled).reverse.find? (fun inst ↦ inst.id = instanceId)

def World.record (w : World) (e : Event) : World := { w with log := w.log ++ [e] }

def World.setPool (w : World) (instanceId : Str) (pool : PoolState) : World :=
  { w with pools := Function.update w.pools instanceId pool }

@[simp] theorem World.setPool_self (w : World) (instanceId : Str) (pool : PoolState) :
    (w.setPool instanceId pool).pools instanceId = pool := Function.update_self ..

theorem World.setPool_of_ne {i instanceId : Str} (h : i ≠ instanceId) (w : World) (pool : PoolState) :
    (w.setPool instanceId pool).pools i = w.pools i := Function.update_of_ne h _ _

def record (e : Event) : ManagerM Unit := Act.modify (fun w ↦ w.record e)

def updatePool (instanceId : Str) (f : PoolState → PoolState) : ManagerM Unit :=
  Act.modify (fun w ↦ w.setPool instanceId (f (w.pools instanceId)))

def ask (d : DriverCall) : ManagerM Reply := do
  record (.call d)
  let log ← Act.read World.log
  Act.ofExcept (S.answer log)

/-- `try: m except Exception: return False else: return True`. -/
def succeeds (m : ManagerM α) : ManagerM Bool :=
  Act.catching (do
    let _ ← m
    pure true) (fun e ↦ if e.caught then pure false else Act.raise e)

def suppress (m : ManagerM α) : ManagerM Unit := do
  let _ ← succeeds m
  pure ()

def isConnectionUsable (c : Conn) : ManagerM Bool :=
  succeeds (do
    let _ ← ask S (.cursor c)
    let _ ← ask S (.execute c "SELECT 1".toList [])
    ask S (.fetchone c))

def connectNew (inst : SqlInstanceConfig) (databaseOverride : Option Str) : ManagerM Conn := do
  let _ ← ask S (.connect inst.id (inst.databaseFor databaseOverride))
  let c ← Act.read World.next
  Act.modify (fun w ↦ { w with next := c + 1 })
  pure c

def acquireTimeout (inst : SqlInstanceConfig) : Exc :=
  .ofMessage .other "TimeoutError".toList ("Connection pool acquire timeout for instance '".toList ++ inst.id ++
    "' after ".toList ++ intText inst.poolAcquireTimeoutSec ++ ['s'])

/-- The loop of `_acquire_connection`, for at most the given number of rounds, while no
other thread acts. -/
def acquireLoop (inst : SqlInstanceConfig) (deadline : ℚ) : ℕ → ManagerM Conn
  | 0 => Act.raise (acquireTimeout inst)
  | rounds + 1 => do
    let w ← Act.read id
    match (w.pools inst.id).acquire inst.poolCap with
    | (.reuse c, pool) => do
      updatePool inst.id (fun _ ↦ pool)
      if ← isConnectionUsable S c then pure c
      else do
        updatePool inst.id (PoolState.discardStale c)
        suppress (ask S (.close c))
        acquireLoop inst deadline rounds
    | (.createNew, _) => do
      let c ← connectNew S inst none
      updatePool inst.id (PoolState.registerCreated c)
      pure c
    | (.full, _) =>
      let remaining := deadline - S.monotonic w.log
      if remaining ≤ 0 then Act.raise (acquireTimeout inst)
      else do
        record (.waited remaining)
        acquireLoop inst deadline rounds

/-- `_acquire_connection`. Each round but the last two discards an available connection. -/
def acquireConnection (instanceId : Str) (databaseOverride : Option Str) : ManagerM (Conn × Bool) :=
  match S.lookup instanceId with
  | none => Act.raise (keyError instanceId)
  | some inst =>
    if inst.poolEnabled && databaseOverride.isNone then do
      let w ← Act.read id
      let deadline := S.monotonic w.log + max 0 (inst.poolAcquireTimeoutSec : ℚ)
      let c ← acquireLoop S inst deadline ((w.pools instanceId).available.length + 2)
      pure (c, true)
    else do
      let c ← connectNew S inst databaseOverride
      pure (c, false)

/-- The critical section of `_release_connection` and the `close` after it. -/
def returnConnection (inst : SqlInstanceConfig) (c : Conn) (shouldDiscard autocommitOk : Bool) : ManagerM Unit := do
  let w ← Act.read id
  let released := (w.pools inst.id).release inst.poolCap c shouldDiscard autocommitOk
  updatePool inst.id (fun _ ↦ released.2)
  if released.1 then suppress (ask S (.close c)) else pure ()

def releaseConnection (instanceId : Str) (c : Conn) (pooled hadError : Bool) : ManagerM Unit := do
  let _ ← (if hadError then suppress (ask S (.rollback c)) else pure ())
  if pooled then
    match S.lookup instanceId with
    | none => Act.raise (keyError instanceId)
    | some inst => do
      let usable ← (if hadError then pure false else isConnectionUsable S c)
      let autocommitOk ← (if usable then succeeds (ask S (.setAutocommit c false)) else pure false)
      returnConnection S inst c (!usable) autocommitOk
  else suppress (ask S (.close c))

/-- `with self.connect(…) as c: block`. -/
def connect (instanceId : Str) (databaseOverride : Option Str) (block : Conn → ManagerM α) : ManagerM α := do
  let (c, pooled) ← acquireConnection S instanceId databaseOverride
  record (.entered c pooled)
  let a ← Act.catching (block c) (fun e ↦ do
    record (.left c pooled (some e))
    releaseConnection S instanceId c pooled e.caught
    Act.raise e)
  record (.left c pooled none)
  releaseConnection S instanceId c pooled false
  pure a

def readRetryBackoffSec : ℚ := 1 / 20

variable [UnicodeData]

def readAttempts (instanceId : Str) (databaseOverride : Option Str) (operation : Conn → ManagerM Value) :
    ℕ → ManagerM Value
  | 0 => Act.raise (runtimeError "Read operation failed unexpectedly".toList)
  | n + 1 => Act.catching (do
      let v ← connect S instanceId databaseOverride operation
      record (.attempted (.ok v))
      pure v) (fun e ↦ do
        record (.attempted (.error e))
        if e.caught && decide (n ≠ 0) && isTransientReadError e then do
          record (.slept (readRetryBackoffSec * (readRetryAttempts - n : ℕ)))
          readAttempts instanceId databaseOverride operation n
        else Act.raise e)

def runReadOperation (instanceId : Str) (databaseOverride : Option Str) (operation : Conn → ManagerM Value) :
    ManagerM Value :=
  readAttempts S instanceId databaseOverride operation readRetryAttempts

def columnNames (c : Conn) : ManagerM (List Str) := do
  let reply ← ask S (.description c)
  Act.ofExcept (normalizeColumnNames (reply.description.getD []))

omit [UnicodeData] in
def toRows (columns : List Str) (rows : List (List Value)) : List Row := rows.map columns.zip

def executeReadOp (sql : Str) (maxRows : ℤ) (c : Conn) : ManagerM Value := do
  let _ ← ask S (.cursor c)
  let _ ← ask S (.execute c sql [])
  let columns ← columnNames S c
  let reply ← ask S (.fetchmany c maxRows)
  pure (ofRows (toRows columns reply.rows))

def executeReadInDatabaseOp (sql : Str) (maxRows : ℤ) (c : Conn) : ManagerM Value := do
  let _ ← ask S (.cursor c)
  let _ ← ask S (.execute c sql [])
  let columns ← columnNames S c
  let reply ← ask S (.fetchmany c maxRows)
  pure (.dict [("columns".toList, .list (columns.map .str)), ("rows".toList, ofRows (toRows columns reply.rows))])

def fetchSingleRowOp (sql : Str) (c : Conn) : ManagerM Value := do
  let _ ← ask S (.cursor c)
  let _ ← ask S (.execute c sql [])
  let reply ← ask S (.fetchone c)
  let columns ← columnNames S c
  pure (.dict (match reply.rows with
    | row :: _ => columns.zip row
    | [] => []))

def listObjectsOp (maxRows : ℤ) (typeCode : Str) (c : Conn) : ManagerM Value := do
  let _ ← ask S (.cursor c)
  let _ ← ask S (.execute c (listObjectsSql maxRows) [.str typeCode])
  let columns ← columnNames S c
  let reply ← ask S (.fetchall c)
  pure (ofRows (toRows columns reply.rows))

/-- The cursor leaves `SHOWPLAN_ALL` also after a failure. -/
def explainQueryOp (sql : Str) (c : Conn) : ManagerM Value := do
  let _ ← ask S (.cursor c)
  let _ ← ask S (.execute c "SET SHOWPLAN_ALL ON".toList [])
  Act.ensuring (do
    let _ ← ask S (.execute c sql [])
    let columns ← columnNames S c
    let reply ← ask S (.fetchall c)
    pure (ofRows (toRows columns reply.rows))) (do
    let _ ← ask S (.execute c "SET SHOWPLAN_ALL OFF".toList [])
    pure ())

def executeProcOp (procName : Str) (params : List Value) (c : Conn) : ManagerM Value := do
  let _ ← ask S (.cursor c)
  let _ ← ask S (.execute c (execStatement procName params.length) params)
  let described ← ask S (.description c)
  let hasResultSet := !(described.description.getD []).isEmpty
  let (columns, rows) ← (if hasResultSet then do
      let columns ← columnNames S c
      let reply ← ask S (.fetchall c)
      pure (columns, toRows columns reply.rows)
    else pure ([], []))
  let _ ← ask S (.commit c)
  let counted ← ask S (.rowcount c)
  pure (.dict [("status".toList, .str "ok".toList), ("procedure".toList, .str procName),
    ("rowcount".toList, .int counted.rowcount), ("has_result_set".toList, .bool hasResultSet),
    ("columns".toList, .list (columns.map .str)), ("rows".toList, ofRows rows)])

omit [UnicodeData] in
def healthcheckOp (c : Conn) : ManagerM Unit := do
  let _ ← ask S (.cursor c)
  let _ ← ask S (.execute c "SELECT 1".toList [])
  let _ ← ask S (.fetchone c)
  pure ()

def executeRead (instanceId sql : Str) (maxRows : ℤ) : ManagerM Value :=
  runReadOperation S instanceId none (executeReadOp S sql maxRows)

def executeReadInDatabase (instanceId databaseName sql : Str) (maxRows : ℤ) : ManagerM Value :=
  runReadOperation S instanceId (some databaseName) (executeReadInDatabaseOp S sql maxRows)

def fetchSingleRowInDatabase (instanceId databaseName sql : Str) : ManagerM Value :=
  runReadOperation S instanceId (some databaseName) (fetchSingleRowOp S sql)

omit [UnicodeData] in
def unknownObjectType : Exc :=
  valueError "INVALID_INPUT: object_type must be one of table, view, procedure, function, synonym".toList

def listObjects (instanceId databaseName objectType : Str) (maxRows : ℤ) : ManagerM Value :=
  match objectTypeMap.lookup (strip (lower objectType)) with
  | some typeCode => runReadOperation S instanceId (some databaseName) (listObjectsOp S maxRows typeCode)
  | none => Act.raise unknownObjectType

def explainQuery (instanceId databaseName sql : Str) : ManagerM Value := do
  let plan ← runReadOperation S instanceId (some databaseName) (explainQueryOp S sql)
  pure (S.planSummary plan)

def executeProc (instanceId procName : Str) (params : List Value) (databaseOverride : Option Str) : ManagerM Value :=
  connect S instanceId databaseOverride (executeProcOp S procName params)

omit [UnicodeData] in
/-- `self._health[instance_id] = {…}`; the latency is `int((time.time() - started) * 1000)`. -/
def setHealth (instanceId state : Str) (started : ℚ) (error : Value) : ManagerM Unit :=
  Act.modify (fun w ↦
    let latency := (S.time w.log - started) * 1000
    let entry : Dict Value := [("state".toList, .str state), ("checked_at".toList, .str (S.timestamp w.log)),
      ("latency_ms".toList, .int (latency.num.tdiv latency.den)), ("error".toList, error)]
    { w with health := Function.update w.health instanceId entry })

omit [UnicodeData] in
def healthcheckInstance (instanceId : Str) : ManagerM Value := do
  let w ← Act.read id
  let started := S.time w.log
  Act.catching (do
    connect S instanceId none (healthcheckOp S)
    setHealth S instanceId "healthy".toList started .none) (fun e ↦
      if e.caught then setHealth S instanceId "unhealthy".toList started (.str e.text)
      else Act.raise e)
  let w ← Act.read id
  pure (.dict (w.health instanceId))

inductive Operation
  | executeRead (sql : Str) (maxRows : ℤ)
  | executeReadInDatabase (databaseName sql : Str) (maxRows : ℤ)
  | fetchSingleRowInDatabase (databaseName sql : Str)
  | listObjects (databaseName objectType : Str) (maxRows : ℤ)
  | explainQuery (databaseName sql : Str)
  | executeProc (procName : Str) (params : List Value) (databaseOverride : Option Str)
  | healthcheckInstance

def Operation.perform (instanceId : Str) : Operation → ManagerM Value
  | .executeRead sql maxRows => ConnectionManager.executeRead S instanceId sql maxRows
  | .executeReadInDatabase databaseName sql maxRows =>
    ConnectionManager.executeReadInDatabase S instanceId databaseName sql maxRows
  | .fetchSingleRowInDatabase databaseName sql =>
    ConnectionManager.fetchSingleRowInDatabase S instanceId databaseName sql
  | .listObjects databaseName objectType maxRows =>
    ConnectionManager.listObjects S instanceId databaseName objectType maxRows
  | .explainQuery databaseName sql => ConnectionManager.explainQuery S instanceId databaseName sql
  | .executeProc procName params databaseOverride =>
    ConnectionManager.executeProc S instanceId procName params databaseOverride
  | .healthcheckInstance => ConnectionManager.healthcheckInstance S instanceId

end McpSqlServer.ConnectionManager
