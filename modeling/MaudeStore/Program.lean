import MaudeStore.Splitter
import MaudeStore.Dsn
import MaudeStore.Errors

/-! The store's code that talks to database/sql, written as programs that make a call and go
on with its answer: New, openServerConnection, initSchemaOnDB, RunMigrations with its two
migrations, and Close. Who answers the calls (a driver that may fail anywhere, a server with
a catalog, several clients at one server) is left to the modules that run the programs. -/
namespace MaudeStore.Program
open GoString Splitter Dsn Errors

/-- The calls the store makes; a *sql.DB is named by a number. -/
inductive Req
  | sqlOpen (dsn : List UInt8)
  | close (db : Nat)
  | ping (db : Nat)
  | exec (db : Nat) (stmt : List UInt8)
  | queryCount (db : Nat) (query : List UInt8)
  deriving DecidableEq, Repr

/-- The answers: sql.Open gives a handle or an error; Close, Ping and Exec an error or nil
(Exec's Result is unused); QueryRow(query).Scan(&count) an error or the count. -/
def Req.Resp : Req → Type
  | sqlOpen _ => Except Err Nat
  | close _ | ping _ | exec _ _ => Option Err
  | queryCount _ _ => Except Err Nat

/-- A program returns, or makes a call and goes on with the answer. -/
inductive Prog (α : Type)
  | ret (a : α)
  | call (r : Req) (k : r.Resp → Prog α)

namespace Prog
variable {α β : Type}

def bind : Prog α → (α → Prog β) → Prog β
  | ret a, f => f a
  | call r k, f => call r fun x => bind (k x) f

instance : Monad Prog where
  pure := ret
  bind := bind

@[simp] theorem pure_eq (a : α) : (pure a : Prog α) = ret a := rfl

@[simp] theorem ret_bind (a : α) (f : α → Prog β) : (ret a >>= f) = f a := rfl

@[simp] theorem call_bind (r : Req) (k : r.Resp → Prog α) (f : α → Prog β) :
    (call r k >>= f) = call r fun x => k x >>= f := rfl

theorem bind_ret (p : Prog α) : p >>= ret = p := by
  induction p with
  | ret a => rfl
  | call r k ih => exact congrArg (call r) (funext ih)

end Prog

def sqlOpen (dsn : List UInt8) : Prog (Except Err Nat) := .call (.sqlOpen dsn) .ret
def closeDB (db : Nat) : Prog (Option Err) := .call (.close db) .ret
def ping (db : Nat) : Prog (Option Err) := .call (.ping db) .ret
def exec (db : Nat) (stmt : List UInt8) : Prog (Option Err) := .call (.exec db stmt) .ret
def queryCount (db : Nat) (query : List UInt8) : Prog (Except Err Nat) :=
  .call (.queryCount db query) .ret

/-- if err := step; err != nil { return wrap(err) }, then rest. -/
def orFail (step : Prog (Option Err)) (wrap : Err → Err) (rest : Prog (Option Err)) :
    Prog (Option Err) :=
  step >>= fun
    | some err => pure (some (wrap err))
    | none => rest

def execTolerating (db : Nat) (stmt : List UInt8) (needles : List String) : Prog (Option Err) :=
  exec db stmt >>= fun
    | some err => pure (if mentions err needles then none else some err)
    | none => pure none

/-! ## initSchemaOnDB -/

def isCommentLine (line : List UInt8) : Bool :=
  trimSpace line = [] || (bytes "--").isPrefixOf (trimSpace line)

def isOnlyComments (stmt : List UInt8) : Bool := (stmt.splitOn 10).all isCommentLine

def truncateForError (s : List UInt8) : List UInt8 :=
  if s.length > 100 then s.take 100 ++ bytes "..." else s

/-- The loop of initSchemaOnDB over a script's statements: each is trimmed, blank and
comment-only ones are skipped, the others executed until one fails, whose error onErr wraps
with the statement. -/
def execStatements (db : Nat) (onErr : List UInt8 → Err → Err) :
    List (List UInt8) → Prog (Option Err)
  | [] => pure none
  | stmt :: rest =>
    let stmt := trimSpace stmt
    if stmt = [] then execStatements db onErr rest
    else if isOnlyComments stmt then execStatements db onErr rest
    else orFail (exec db stmt) (onErr stmt) (execStatements db onErr rest)

/-- The constants of schema.go, which is not among the sources: the baseline script, the
default config script and the two view statements. -/
structure SchemaText where
  schema : List UInt8
  defaultConfig : List UInt8
  readyIssuesView : List UInt8
  blockedIssuesView : List UInt8

def createIssueTypeIndex : List UInt8 :=
  bytes "CREATE INDEX idx_issues_issue_type ON issues(issue_type)"

def indexMigrations : List (List UInt8) := [createIssueTypeIndex]

def dropDependsOnFk : List UInt8 :=
  bytes "ALTER TABLE dependencies DROP FOREIGN KEY fk_dep_depends_on"

def applyIndexMigrations (db : Nat) : List (List UInt8) → Prog (Option Err)
  | [] => pure none
  | m :: ms =>
    orFail (execTolerating db m ["duplicate", "already exists"])
      (wrapf "failed to apply index migration: ") (applyIndexMigrations db ms)

/-! ## Migrations -/

def columnCountQuery (column : String) : List UInt8 :=
  bytes ("\n\t\tSELECT COUNT(*) \n\t\tFROM information_schema.columns \n\t\tWHERE table_schema = " ++
    "DATABASE() \n\t\tAND table_name = 'issues' \n\t\tAND column_name = '" ++ column ++ "'\n\t")

def addWispType : List UInt8 := bytes "ALTER TABLE issues ADD COLUMN wisp_type VARCHAR(32) DEFAULT ''"
def addSpecId : List UInt8 := bytes "ALTER TABLE issues ADD COLUMN spec_id VARCHAR(1024)"
def createSpecIdIndex : List UInt8 := bytes "CREATE INDEX idx_issues_spec_id ON issues(spec_id)"

/-- The check-then-add both migrations make: count the column; when it is there, nil;
otherwise ALTER TABLE, a duplicate-column error counting as done, and then rest. -/
def addColumn (column : String) (alter : List UInt8) (rest : Prog (Option Err)) (db : Nat) :
    Prog (Option Err) :=
  queryCount db (columnCountQuery column) >>= fun
    | .error err => pure (some (wrapf ("checking " ++ column ++ " column: ") err))
    | .ok count =>
      if count > 0 then pure none
      else exec db alter >>= fun
        | some err =>
          if mentions err ["duplicate column"] then rest
          else pure (some (wrapf ("adding " ++ column ++ " column: ") err))
        | none => rest

def migrateWispTypeColumn (db : Nat) : Prog (Option Err) :=
  addColumn "wisp_type" addWispType (pure none) db

def migrateSpecIDColumn (db : Nat) : Prog (Option Err) :=
  addColumn "spec_id" addSpecId
    (orFail (execTolerating db createSpecIdIndex ["duplicate", "already exists"])
      (wrapf "creating spec_id index: ") (pure none)) db

structure Migration where
  name : String
  func : Nat → Prog (Option Err)

def migrationsList : List Migration :=
  [⟨"wisp_type_column", migrateWispTypeColumn⟩, ⟨"spec_id_column", migrateSpecIDColumn⟩]

def runMigrationsOf (db : Nat) : List Migration → Prog (Option Err)
  | [] => pure none
  | m :: ms =>
    orFail (m.func db) (wrapf ("mariadb migration \"" ++ m.name ++ "\" failed: "))
      (runMigrationsOf db ms)

def runMigrations (db : Nat) : Prog (Option Err) := runMigrationsOf db migrationsList

def listMigrations : List String := migrationsList.map Migration.name

def initSchemaOnDB (T : SchemaText) (db : Nat) : Prog (Option Err) :=
  orFail (execStatements db (fun stmt err => .wrap (bytes "failed to create schema: ")
      (bytes "\nStatement: " ++ truncateForError stmt) err) (splitStatements T.schema)) id <|
  orFail (execStatements db (fun _ => wrapf "failed to insert default config: ")
      (splitStatements T.defaultConfig)) id <|
  orFail (applyIndexMigrations db indexMigrations) id <|
  orFail (execTolerating db dropDependsOnFk
      ["can't drop", "doesn't exist", "check that it exists", "was not found"])
    (wrapf "failed to drop fk_dep_depends_on: ") <|
  orFail (exec db T.readyIssuesView) (wrapf "failed to create ready_issues view: ") <|
  orFail (exec db T.blockedIssuesView) (wrapf "failed to create blocked_issues view: ") <|
  orFail (runMigrations db) (wrapf "failed to run mariadb migrations: ") (pure none)

/-! ## openServerConnection, New and Close -/

def createDatabaseStmt (database : List UInt8) : List UInt8 :=
  bytes "CREATE DATABASE IF NOT EXISTS " ++ database

def refusedErr (cfg : Config) (err : Err) : Err :=
  .wrap (bytes "failed to connect to MariaDB server at " ++ cfg.host ++ bytes ":" ++ fmtInt cfg.port ++
      bytes ": ")
    (bytes ("\n\nThe MariaDB server may not be running. Try:\n  sudo systemctl start mariadb    " ++
      "# On systemd systems\n  brew services start mariadb     # On macOS with Homebrew")) err

/-- CREATE DATABASE through the administrative handle: an error saying the database exists is
no error; any other closes the pool. -/
def ensureDatabase (cfg : Config) (db initDB : Nat) : Prog (Except Err (Nat × List UInt8)) :=
  exec initDB (createDatabaseStmt cfg.database) >>= fun
    | none => pure (.ok (db, connStr cfg))
    | some err =>
      if mentions err ["database exists", "1007"] then pure (.ok (db, connStr cfg))
      else closeDB db >>= fun _ =>
        pure (.error (if mentions err ["connection refused", "connect: connection refused"]
          then refusedErr cfg err else wrapf "failed to create database: " err))

/-- openServerConnection; the deferred initDB.Close() runs after ensureDatabase. -/
def openServerConnection (cfg : Config) : Prog (Except Err (Nat × List UInt8)) :=
  sqlOpen (connStr cfg) >>= fun
    | .error err => pure (.error (wrapf "failed to open MariaDB server connection: " err))
    | .ok db =>
      sqlOpen (initConnStr cfg) >>= fun
        | .error err =>
          closeDB db >>= fun _ => pure (.error (wrapf "failed to open init connection: " err))
        | .ok initDB =>
          ensureDatabase cfg db initDB >>= fun r => closeDB initDB >>= fun _ => pure r

structure Store where
  db : Option Nat
  dbName : List UInt8
  closed : Bool
  connStr : List UInt8
  readOnly : Bool
  deriving DecidableEq

def new (env : List UInt8) (T : SchemaText) (cfg : Config) : Prog (Except Err Store) :=
  let cfg := withDefaults env cfg
  openServerConnection cfg >>= fun
    | .error err => pure (.error err)
    | .ok (db, connStr) =>
      ping db >>= fun
        | some err => closeDB db >>= fun _ =>
          pure (.error (wrapf "failed to ping MariaDB database: " err))
        | none =>
          let store : Store := ⟨some db, cfg.database, false, connStr, cfg.readOnly⟩
          if cfg.readOnly then pure (.ok store)
          else initSchemaOnDB T db >>= fun
            | some err => pure (.error (wrapf "failed to initialize schema: " err))
            | none => pure (.ok store)

/-- The backend the factory registers for MariaDB: New with the options' fields; the path
argument is not read. -/
def openBackend (env : List UInt8) (T : SchemaText) (opts : FactoryOptions) :
    Prog (Except Err Store) :=
  new env T (factoryConfig opts) >>= fun
    | .error err => pure (.error err)
    | .ok store => pure (.ok store)

theorem openBackend_eq (env : List UInt8) (T : SchemaText) (opts : FactoryOptions) :
    openBackend env T opts = new env T (factoryConfig opts) := by
  conv_rhs => rw [← Prog.bind_ret (new env T (factoryConfig opts))]
  unfold openBackend
  congr 1
  funext x
  cases x <;> rfl

/-- Close: mark the store closed, close the pool if it has one (an error that is
context.Canceled counts as none; errors.Join of nil and cerr wraps cerr alone), and drop it. -/
def Store.close (s : Store) : Prog (Option Err × Store) :=
  let s := { s with closed := true }
  match s.db with
  | none => pure (none, { s with db := none })
  | some db =>
    closeDB db >>= fun cerr =>
      let err := match cerr with
        | some c => if c.isCanceled then none else some (.wrap [] [] c)
        | none => none
      pure (err, { s with db := none })

end MaudeStore.Program
