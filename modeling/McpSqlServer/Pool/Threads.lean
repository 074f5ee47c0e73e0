import McpSqlServer.Pool.State
import McpSqlServer.Library.Transition
import Mathlib.Data.Fintype.Pi
import Mathlib.Logic.Function.Basic

namespace McpSqlServer.Pool

open Library.Text

/-- A statement sent on a connection, either the `SELECT 1` of `_is_connection_usable`
or one that the body of a `connect` block executes. -/
inductive Issued
  | probe
  | body (sql : Str)
  deriving DecidableEq

/-- The bodies that the operations of `ConnectionManager` run inside `connect`. -/
inductive Op
  | executeRead (sql : Str)
  | executeReadInDatabase (sql : Str)
  | fetchSingleRowInDatabase (sql : Str)
  | listObjects (sql : Str)
  | explainQuery (sql : Str)
  | executeProc (statement : Str)
  | healthcheckInstance
  deriving DecidableEq

def Op.statements : Op → List Str
  | .executeRead sql | .executeReadInDatabase sql | .fetchSingleRowInDatabase sql | .listObjects sql => [sql]
  | .explainQuery sql => ["SET SHOWPLAN_ALL ON".toList, sql, "SET SHOWPLAN_ALL OFF".toList]
  | .executeProc statement => [statement]
  | .healthcheckInstance => ["SELECT 1".toList]

def Op.commits : Op → Bool
  | .executeProc _ => true
  | _ => false

structure Call where
  op : Op
  databaseOverride : Option Str := none
  deriving DecidableEq

def Call.usePool (inst : SqlInstanceConfig) (call : Call) : Bool :=
  inst.poolEnabled && call.databaseOverride.isNone

/-- A connection opened with `autocommit=False`: everything executed on it since it
was opened, and the part that no commit or rollback has ended. -/
structure ConnState where
  executed : List Issued := []
  uncommitted : List Issued := []
  closed : Bool := false

/-- Where a call is between two of its steps. Opening, probing and closing a connection
and the body of the block lie outside the lock; `pooled` is `use_pool` until the connection
is there, and what `_acquire_connection` returned with it afterwards. -/
inductive Phase
  | acquiring
  | waiting (notified : Bool)
  | connecting (pooled : Bool)
  | registering (c : Conn)
  | probing (c : Conn)
  | discarding (c : Conn)
  | closingStale (c : Conn)
  | running (c : Conn) (pooled : Bool) (done : ℕ) (committed : Bool)
  | rollingBack (c : Conn) (pooled : Bool)
  | checking (c : Conn)
  | releasing (c : Conn) (shouldDiscard : Bool)
  | closing (c : Conn)
  deriving DecidableEq

inductive Thread
  | idle
  | active (call : Call) (phase : Phase)
  deriving DecidableEq

def Thread.notify : Thread → Thread
  | .active call (.waiting _) => .active call (.waiting true)
  | th => th

/-- `healthcheck_instance` keeps `_lock` for its whole call, and gives it up only in
the condition wait. -/
def Thread.holdsLock : Thread → Bool
  | .active _ (.waiting _) => false
  | .active call _ => call.op = .healthcheckInstance
  | .idle => false

/-- What the threads of one instance share: its pool, the connections opened so far
and the statements that commits have made durable. -/
structure Shared where
  pool : PoolState := {}
  conn : Conn → ConnState := fun _ ↦ {}
  next : Conn := 0
  durable : List Issued := []

namespace Shared

def openNew (sh : Shared) : Shared :=
  { sh with conn := Function.update sh.conn sh.next {}, next := sh.next + 1 }

def setConn (sh : Shared) (c : Conn) (k : ConnState) : Shared :=
  { sh with conn := Function.update sh.conn c k }

def execute (sh : Shared) (c : Conn) (stmt : Issued) : Shared :=
  sh.setConn c { sh.conn c with executed := (sh.conn c).executed ++ [stmt],
                                uncommitted := (sh.conn c).uncommitted ++ [stmt] }

def commit (sh : Shared) (c : Conn) : Shared :=
  { sh.setConn c { sh.conn c with uncommitted := [] } with
    durable := sh.durable ++ (sh.conn c).uncommitted }

def rollback (sh : Shared) (c : Conn) : Shared := sh.setConn c { sh.conn c with uncommitted := [] }

def close (sh : Shared) (c : Conn) : Shared :=
  sh.setConn c { sh.conn c with uncommitted := [], closed := true }

def usable (sh : Shared) (c : Conn) : Bool := !(sh.conn c).closed

variable (sh : Shared) (c : Conn) (stmt : Issued)

@[simp] theorem openNew_conn : sh.openNew.conn sh.next = {} := Function.update_self ..

theorem openNew_of_ne {sh : Shared} {d : Conn} (h : d ≠ sh.next) : sh.openNew.conn d = sh.conn d :=
  Function.update_of_ne h _ _

@[simp] theorem setConn_self (k : ConnState) : (sh.setConn c k).conn c = k := Function.update_self ..

theorem setConn_of_ne {sh : Shared} {c d : Conn} (h : d ≠ c) (k : ConnState) : (sh.setConn c k).conn d = sh.conn d :=
  Function.update_of_ne h _ _

@[simp] theorem execute_uncommitted :
    ((sh.execute c stmt).conn c).uncommitted = (sh.conn c).uncommitted ++ [stmt] := by
  simp only [execute, setConn, Function.update_self]

@[simp] theorem commit_uncommitted : ((sh.commit c).conn c).uncommitted = [] := by
  simp only [commit, setConn, Function.update_self]

@[simp] theorem rollback_uncommitted : ((sh.rollback c).conn c).uncommitted = [] := by
  simp only [rollback, setConn, Function.update_self]

@[simp] theorem close_uncommitted : ((sh.close c).conn c).uncommitted = [] := by
  simp only [close, setConn, Function.update_self]

end Shared

/-- One step of a call. The flags are outcomes that the code does not control: whether
the acquire deadline has passed, and whether a driver call returned or raised. -/
inductive Move
  | begin (call : Call)
  | acquire (timedOut : Bool)
  | wake
  | connect (ok : Bool)
  | register
  | probe (ok : Bool)
  | discard
  | closeStale
  | execute
  | commit (ok : Bool)
  | finish (ok : Bool)
  | rollback (ok : Bool)
  | check (ok : Bool)
  | release (autocommitOk : Bool)
  | close
  deriving DecidableEq

def Move.needsLock : Move → Bool
  | .acquire _ | .wake | .register | .discard | .release _ => true
  | _ => false

structure Outcome where
  shared : Shared
  thread : Thread
  notifyAll : Bool := false

/-- `_acquire_connection`, the block's body and `_release_connection`, one step at a time. -/
def localStep (inst : SqlInstanceConfig) (sh : Shared) : Thread → Move → Option Outcome
  | .idle, .begin call =>
    some { shared := sh, thread := .active call (if call.usePool inst then .acquiring else .connecting false) }
  | .idle, _ => none
  | .active call phase, m =>
    let go (sh : Shared) (phase : Phase) (notifyAll : Bool) : Option Outcome :=
      some { shared := sh, thread := .active call phase, notifyAll := notifyAll }
    let finished (sh : Shared) : Option Outcome := some { shared := sh, thread := .idle }
    match phase, m with
    | .acquiring, .acquire timedOut =>
      match sh.pool.acquire inst.poolCap with
      | (.reuse c, pool) => go { sh with pool := pool } (.probing c) false
      | (.createNew, _) => go sh (.connecting true) false
      | (.full, _) => if timedOut then finished sh else go sh (.waiting false) false
    | .waiting _, .wake => go sh .acquiring false
    | .connecting _, .connect false => finished sh
    | .connecting true, .connect true => go sh.openNew (.registering sh.next) false
    | .connecting false, .connect true => go sh.openNew (.running sh.next false 0 false) false
    | .registering c, .register =>
      go { sh with pool := sh.pool.registerCreated c } (.running c true 0 false) false
    | .probing c, .probe true =>
      if sh.usable c then go (sh.execute c .probe) (.running c true 0 false) false else none
    | .probing c, .probe false => go sh (.discarding c) false
    | .discarding c, .discard => go { sh with pool := sh.pool.discardStale c } (.closingStale c) true
    | .closingStale c, .closeStale => go (sh.close c) .acquiring false
    | .running c pooled done committed, .execute =>
      match call.op.statements[done]? with
      | some sql =>
        if sh.usable c then go (sh.execute c (.body sql)) (.running c pooled (done + 1) committed) false
        else none
      | none => none
    | .running c pooled done false, .commit ok =>
      if call.op.commits ∧ done = call.op.statements.length then
        if ok then if sh.usable c then go (sh.commit c) (.running c pooled done true) false else none
        else go sh (.rollingBack c pooled) false
      else none
    | .running c pooled done committed, .finish true =>
      if committed = call.op.commits ∧ done = call.op.statements.length then
        go sh (if pooled then .checking c else .closing c) false
      else none
    | .running c pooled _ _, .finish false => go sh (.rollingBack c pooled) false
    | .rollingBack c pooled, .rollback ok =>
      let next := if pooled then .releasing c true else .closing c
      if ok then if sh.usable c then go (sh.rollback c) next false else none else go sh next false
    | .checking c, .check ok =>
      if ok then if sh.usable c then go (sh.execute c .probe) (.releasing c false) false else none
      else go sh (.releasing c true) false
    | .releasing c shouldDiscard, .release autocommitOk =>
      if autocommitOk && !sh.usable c then none
      else match sh.pool.release inst.poolCap c shouldDiscard autocommitOk with
        | (true, pool) => go { sh with pool := pool } (.closing c) true
        | (false, pool) => some { shared := { sh with pool := pool }, thread := .idle, notifyAll := true }
    | .closing c, .close => finished (sh.close c)
    | _, _ => none

structure State (Tid : Type) where
  shared : Shared := {}
  thread : Tid → Thread := fun _ ↦ .idle

inductive Action (Tid : Type)
  | move (t : Tid) (m : Move)
  | closeAllPools
  deriving DecidableEq

section System

variable {Tid : Type} [DecidableEq Tid]

def State.lockFree (s : State Tid) (t : Tid) : Prop := ∀ u, u ≠ t → (s.thread u).holdsLock = false

instance [Fintype Tid] (s : State Tid) (t : Tid) : Decidable (s.lockFree t) :=
  inferInstanceAs (Decidable (∀ u, u ≠ t → (s.thread u).holdsLock = false))

def State.after (s : State Tid) (t : Tid) (o : Outcome) : State Tid where
  shared := o.shared
  thread := Function.update (if o.notifyAll then fun u ↦ (s.thread u).notify else s.thread) t o.thread

def Shared.closeAll (sh : Shared) : Shared :=
  let (toClose, pool) := sh.pool.clear
  { toClose.foldl Shared.close sh with pool := pool }

/-- One step of the manager for one instance, by one of its threads. -/
def step [Fintype Tid] (inst : SqlInstanceConfig) (s : State Tid) : Action Tid → Option (State Tid)
  | .move t m =>
    match localStep inst s.shared (s.thread t) m with
    | some o => if (m.needsLock || o.thread.holdsLock) → s.lockFree t then some (s.after t o) else none
    | none => none
  | .closeAllPools =>
    if ∀ u, (s.thread u).holdsLock = false then
      some { shared := s.shared.closeAll, thread := fun u ↦ (s.thread u).notify }
    else none

end System

end McpSqlServer.Pool
