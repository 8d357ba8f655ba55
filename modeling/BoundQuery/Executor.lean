import BoundQuery.Builder
import BoundQuery.Value.Json

/-!
# Executing statements

An executor brings a statement into positional form, writes the log lines its settings ask for,
and hands the result to a connection pool. A closed pool refuses every statement.
-/

namespace BoundQuery

/-- How statements are handled. -/
structure QuerySettings where
  logStatements : Bool := false
  logParameters : Bool := false
  /-- The most values a statement may bind, lists expanded. -/
  maxBoundParameters : Nat := 65535
deriving DecidableEq, Repr, Inhabited

/-- The log line of a statement. -/
def statementLine (p : Positional) : String :=
  "[QUERYHAUS] SQL: " ++ p.sql ++ " (" ++ p.values.length.repr ++ " bound values)"

/-- The log line of the value at a position. -/
def parameterLine (position : Nat) (value : Value) : String :=
  "[QUERYHAUS] $" ++ position.repr ++ " = " ++ value.toJson.text ++ " (" ++ value.kind ++ ")"

/-- The log lines of values in order, from a position on. -/
def parameterLines (position : Nat) : List Value → List String
  | [] => []
  | value :: values => parameterLine position value :: parameterLines (position + 1) values

/-- The outcome of preparing a statement, and the lines logged on the way. -/
structure Prepared where
  outcome : Except StatementError Positional
  log : List String

/-- Brings a statement into positional form. Lines are logged only if that succeeds. -/
def Statement.prepare (settings : QuerySettings) (s : Statement) : Prepared :=
  match s.toPositional settings.maxBoundParameters with
  | .error e => ⟨.error e, []⟩
  | .ok p =>
    ⟨.ok p, (if settings.logStatements then [statementLine p] else []) ++
      (if settings.logParameters then parameterLines 1 p.values else [])⟩

/-- Why a pool gives no connection. -/
inductive PoolError where
  | closed
deriving DecidableEq, Repr

def PoolError.message : PoolError → String
  | closed => "attempted to acquire a connection on a closed pool"

/-- Why a call on an executor fails. -/
inductive ExecutorError where
  | connection (e : PoolError)
  | statement (e : StatementError)
deriving DecidableEq, Repr

def ExecutorError.message : ExecutorError → String
  | connection e => "Database connection error: " ++ e.message
  | statement e => "Statement error: " ++ e.message

/-- What a pool answers to statements; `Row` is what it reads rows into. -/
structure Pool (Row : Type) where
  fetchAll : Positional → Except PoolError (List Row)
  fetchOptional : Positional → Except PoolError (Option Row)
  execute : Positional → Except PoolError Nat
  ping : Except PoolError Unit

/-- A pool that was closed. -/
def Pool.closed (Row : Type) : Pool Row :=
  ⟨fun _ => .error .closed, fun _ => .error .closed, fun _ => .error .closed, .error .closed⟩

structure Executor (Row : Type) where
  pool : Pool Row
  settings : QuerySettings

namespace Executor

variable {Row : Type}

/-- Prepares a statement and sends it on. -/
def send {α : Type} (executor : Executor Row) (call : Positional → Except PoolError α)
    (s : Statement) : Except ExecutorError α :=
  match (s.prepare executor.settings).outcome with
  | .error e => .error (.statement e)
  | .ok p => (call p).mapError .connection

/-- All rows of a query. -/
def fetchAll (executor : Executor Row) (s : Statement) : Except ExecutorError (List Row) :=
  executor.send executor.pool.fetchAll s

/-- The first row of a query, if there is one. -/
def fetchOptional (executor : Executor Row) (s : Statement) : Except ExecutorError (Option Row) :=
  executor.send executor.pool.fetchOptional s

/-- The number of rows a statement changed. -/
def execute (executor : Executor Row) (s : Statement) : Except ExecutorError Nat :=
  executor.send executor.pool.execute s

def fetchAllFrom (executor : Executor Row) (b : Builder) : Except ExecutorError (List Row) :=
  executor.fetchAll b.statement

def executeFrom (executor : Executor Row) (b : Builder) : Except ExecutorError Nat :=
  executor.execute b.statement

/-- Asks the pool for a connection and prepares nothing. -/
def healthCheck (executor : Executor Row) : Except ExecutorError Unit :=
  executor.pool.ping.mapError .connection

end Executor

end BoundQuery
