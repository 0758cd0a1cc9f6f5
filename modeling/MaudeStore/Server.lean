import MaudeStore.Program
import MaudeStore.SplitLaws

/-! The server the migrations run against: the part of its catalog they read and change, and
how it answers the store's calls. initSchemaOnDB is run to its end, or stopped after any
number of its calls, as a crash or a failed call leaves it. -/
namespace MaudeStore.Server
open GoString Splitter SplitLaws Errors Program

/-- The issues table as the migrations see it; an index on spec_id needs the column. -/
structure IssuesTable where
  wispType : Bool
  specId : Bool
  idxIssueType : Bool
  idxSpecId : Bool
  spec_of_idx : idxSpecId = true → specId = true
  deriving DecidableEq

/-- The tables, when they exist; dependencies with whether it has fk_dep_depends_on. -/
structure Catalog where
  issues : Option IssuesTable
  dependencies : Option Bool
  deriving DecidableEq

def Catalog.empty : Catalog := ⟨none, none⟩

/-! ## The server's answers -/

def tableMissing (table : String) : Err :=
  .base (bytes ("Error 1146 (42S02): Table 'beads." ++ table ++ "' doesn't exist"))

def duplicateColumn (column : String) : Err :=
  .base (bytes ("Error 1060 (42S21): Duplicate column name '" ++ column ++ "'"))

def duplicateKey (key : String) : Err :=
  .base (bytes ("Error 1061 (42000): Duplicate key name '" ++ key ++ "'"))

def cantDropFk : Err :=
  .base (bytes "Error 1091 (42000): Can't DROP FOREIGN KEY `fk_dep_depends_on`; check that it exists")

def keyColumnMissing : Err :=
  .base (bytes "Error 1072 (42000): Key column 'spec_id' doesn't exist in table")

def freshIssues (typeIndex : Bool) : IssuesTable := ⟨false, false, typeIndex, false, nofun⟩

def createTableHead : List UInt8 := bytes "CREATE TABLE IF NOT EXISTS "

def createdTable (stmt : List UInt8) : Option (List UInt8) :=
  if createTableHead.isPrefixOf stmt then
    some ((stmt.drop createTableHead.length).takeWhile fun b => !(isAsciiSpace b || b == 40))
  else none

/-- Modelled from the spec: schema.go, which holds the baseline, seed and view statements, is
not among the sources. Spec §6 names a table of issues and one of their dependency edges,
whose foreign key on the target §4.3 calls legacy, and the glossary keeps the migrations'
columns out of the baseline. So CREATE TABLE IF NOT EXISTS issues or dependencies creates that
one table when it is missing: issues with its issue_type index when the statement names
idx_issues_issue_type, dependencies with fk_dep_depends_on when it names that. Every other
statement besides the migrations' own (a seed, a view, CREATE DATABASE, another table)
succeeds and leaves both tables as they are. -/
def baseline (stmt : List UInt8) (cat : Catalog) : Catalog :=
  match createdTable stmt with
  | some name =>
    if name = bytes "issues" then
      { cat with issues := some (cat.issues.getD
          (freshIssues (contains stmt (bytes "idx_issues_issue_type")))) }
    else if name = bytes "dependencies" then
      { cat with dependencies := some (cat.dependencies.getD
          (contains stmt (bytes "fk_dep_depends_on"))) }
    else cat
  | none => cat

/-- What a statement besides the migrations' own can do: nothing, create the missing issues
table, or create the missing dependencies table. -/
theorem baseline_cases (stmt : List UInt8) (cat : Catalog) :
    baseline stmt cat = cat ∨
      (cat.issues = none ∧ ∃ b, baseline stmt cat = { cat with issues := some (freshIssues b) }) ∨
      (cat.dependencies = none ∧ ∃ fk, baseline stmt cat = { cat with dependencies := some fk }) := by
  obtain ⟨issues, deps⟩ := cat
  unfold baseline
  split
  · split_ifs
    · cases issues
      · exact .inr (.inl ⟨rfl, _, rfl⟩)
      · exact .inl rfl
    · cases deps
      · exact .inr (.inr ⟨rfl, _, rfl⟩)
      · exact .inl rfl
    · exact .inl rfl
  · exact .inl rfl

theorem issues_ne_dependencies : bytes "issues" ≠ bytes "dependencies" := by decide

theorem baseline_eq_self {stmt : List UInt8} {cat : Catalog} :
    baseline stmt cat = cat ↔
      (createdTable stmt = some (bytes "issues") → cat.issues.isSome) ∧
        (createdTable stmt = some (bytes "dependencies") → cat.dependencies.isSome) := by
  obtain ⟨issues, deps⟩ := cat
  unfold baseline
  split
  · rename_i name h
    split_ifs with h₁ h₂
    · subst h₁
      cases issues <;> simp [h, issues_ne_dependencies]
    · subst h₂
      cases deps <;> simp [h, Ne.symm issues_ne_dependencies]
    · simp [h, h₁, h₂]
  · simp [*]

theorem baseline_baseline (stmt : List UInt8) (cat : Catalog) :
    baseline stmt (baseline stmt cat) = baseline stmt cat :=
  baseline_eq_self.2 ⟨fun h => by simp [baseline, h],
    fun h => by simp [baseline, h, Ne.symm issues_ne_dependencies]⟩

theorem baseline_of_tables {stmt : List UInt8} {cat : Catalog} (hi : cat.issues.isSome)
    (hd : cat.dependencies.isSome) : baseline stmt cat = cat :=
  baseline_eq_self.2 ⟨fun _ => hi, fun _ => hd⟩

def onIssues (cat : Catalog) (f : IssuesTable → Option Err × IssuesTable) : Option Err × Catalog :=
  match cat.issues with
  | none => (some (tableMissing "issues"), cat)
  | some t => ((f t).1, { cat with issues := some (f t).2 })

/-- How the server runs a statement: the migrations' own by their effect on the catalog, any
other as a baseline, seed or view statement. -/
def execStmt (cat : Catalog) (stmt : List UInt8) : Option Err × Catalog :=
  if stmt = createIssueTypeIndex then onIssues cat fun t =>
    if t.idxIssueType then (some (duplicateKey "idx_issues_issue_type"), t)
    else (none, { t with idxIssueType := true })
  else if stmt = dropDependsOnFk then
    match cat.dependencies with
    | none => (some (tableMissing "dependencies"), cat)
    | some true => (none, { cat with dependencies := some false })
    | some false => (some cantDropFk, cat)
  else if stmt = addWispType then onIssues cat fun t =>
    if t.wispType then (some (duplicateColumn "wisp_type"), t) else (none, { t with wispType := true })
  else if stmt = addSpecId then onIssues cat fun t =>
    if t.specId then (some (duplicateColumn "spec_id"), t)
    else (none, { t with specId := true, spec_of_idx := fun _ => rfl })
  else if stmt = createSpecIdIndex then onIssues cat fun t =>
    if t.idxSpecId then (some (duplicateKey "idx_issues_spec_id"), t)
    else if h : t.specId then (none, { t with idxSpecId := true, spec_of_idx := fun _ => h })
    else (some keyColumnMissing, t)
  else (none, baseline stmt cat)

def ownStatements : List (List UInt8) :=
  [createIssueTypeIndex, dropDependsOnFk, addWispType, addSpecId, createSpecIdIndex]

theorem ownStatements_cases (s : List UInt8) : s = createIssueTypeIndex ∨ s = dropDependsOnFk ∨
    s = addWispType ∨ s = addSpecId ∨ s = createSpecIdIndex ∨ s ∉ ownStatements := by
  by_cases h : s ∈ ownStatements
  · simp only [ownStatements, List.mem_cons, List.mem_singleton, List.not_mem_nil, or_false] at h
    rcases h with h | h | h | h | h
    exacts [.inl h, .inr (.inl h), .inr (.inr (.inl h)), .inr (.inr (.inr (.inl h))),
      .inr (.inr (.inr (.inr (.inl h))))]
  · exact .inr (.inr (.inr (.inr (.inr h))))

theorem execStmt_other {s : List UInt8} (h : s ∉ ownStatements) (cat : Catalog) :
    execStmt cat s = (none, baseline s cat) := by
  simp only [ownStatements, List.mem_cons, List.mem_singleton, List.not_mem_nil, or_false,
    not_or] at h
  simp [execStmt, h.1, h.2.1, h.2.2.1, h.2.2.2.1, h.2.2.2.2]

theorem createDatabaseStmt_not_own (database : List UInt8) :
    createDatabaseStmt database ∉ ownStatements := by
  have key : (createDatabaseStmt database).take 8 = bytes "CREATE D" := by
    rw [createDatabaseStmt, List.take_append_of_le_length (by decide)]
    decide
  simp only [ownStatements, List.mem_cons, List.mem_singleton, List.not_mem_nil, or_false]
  rintro (h | h | h | h | h) <;> rw [h] at key <;> exact absurd key (by decide)

/-- CREATE DATABASE leaves both tables as they are. -/
theorem execStmt_createDatabaseStmt (database : List UInt8) (cat : Catalog) :
    execStmt cat (createDatabaseStmt database) = (none, cat) := by
  have h : createdTable (createDatabaseStmt database) = none := rfl
  rw [execStmt_other (createDatabaseStmt_not_own database)]
  simp [baseline, h]

theorem execStmt_createIssueTypeIndex (cat : Catalog) :
    execStmt cat createIssueTypeIndex = onIssues cat fun t =>
      if t.idxIssueType then (some (duplicateKey "idx_issues_issue_type"), t)
      else (none, { t with idxIssueType := true }) := by
  simp [execStmt]

theorem execStmt_dropDependsOnFk (cat : Catalog) :
    execStmt cat dropDependsOnFk = match cat.dependencies with
      | none => (some (tableMissing "dependencies"), cat)
      | some true => (none, { cat with dependencies := some false })
      | some false => (some cantDropFk, cat) := by
  rw [execStmt, if_neg (by decide), if_pos rfl]

theorem execStmt_addWispType (cat : Catalog) :
    execStmt cat addWispType = onIssues cat fun t =>
      if t.wispType then (some (duplicateColumn "wisp_type"), t)
      else (none, { t with wispType := true }) := by
  rw [execStmt, if_neg (by decide), if_neg (by decide), if_pos rfl]

theorem execStmt_addSpecId (cat : Catalog) :
    execStmt cat addSpecId = onIssues cat fun t =>
      if t.specId then (some (duplicateColumn "spec_id"), t)
      else (none, { t with specId := true, spec_of_idx := fun _ => rfl }) := by
  rw [execStmt, if_neg (by decide), if_neg (by decide), if_neg (by decide), if_pos rfl]

theorem execStmt_createSpecIdIndex (cat : Catalog) :
    execStmt cat createSpecIdIndex = onIssues cat fun t =>
      if t.idxSpecId then (some (duplicateKey "idx_issues_spec_id"), t)
      else if h : t.specId then (none, { t with idxSpecId := true, spec_of_idx := fun _ => h })
      else (some keyColumnMissing, t) := by
  rw [execStmt, if_neg (by decide), if_neg (by decide), if_neg (by decide), if_neg (by decide),
    if_pos rfl]

def columnCount (cat : Catalog) (query : List UInt8) : Nat :=
  match cat.issues with
  | none => 0
  | some t =>
    if query = columnCountQuery "wisp_type" then (if t.wispType then 1 else 0)
    else if query = columnCountQuery "spec_id" then (if t.specId then 1 else 0)
    else 0

/-- The server's answer to a call and its catalog after it. Every call goes to the one
database, which exists. -/
def answer (cat : Catalog) : (r : Req) → r.Resp × Catalog
  | .exec _ stmt => execStmt cat stmt
  | .queryCount _ q => (.ok (columnCount cat q), cat)
  | .sqlOpen _ => (.ok 0, cat)
  | .close _ | .ping _ => (none, cat)

@[simp] theorem answer_exec (cat : Catalog) (db : Nat) (s : List UInt8) :
    answer cat (.exec db s) = execStmt cat s := rfl

@[simp] theorem answer_queryCount (cat : Catalog) (db : Nat) (q : List UInt8) :
    answer cat (.queryCount db q) = (.ok (columnCount cat q), cat) := rfl

def serve {α : Type} : Prog α → Catalog → α × Catalog
  | .ret a, cat => (a, cat)
  | .call r k, cat => serve (k (answer cat r).1) (answer cat r).2

/-- The catalog after at most n calls of the program: it stopped there, crashed or failed. -/
def serveFor {α : Type} : Nat → Prog α → Catalog → Catalog
  | 0, _, cat => cat
  | _ + 1, .ret _, cat => cat
  | n + 1, .call r k, cat => serveFor n (k (answer cat r).1) (answer cat r).2

def execAnswers {α : Type} : Prog α → Catalog → List (Option Err)
  | .ret _, _ => []
  | .call (.exec _ s) k, cat => (execStmt cat s).1 :: execAnswers (k (execStmt cat s).1) (execStmt cat s).2
  | .call r k, cat => execAnswers (k (answer cat r).1) (answer cat r).2

def expectedAnswer : Option Err → Bool
  | none => true
  | some e => e = duplicateColumn "wisp_type" || e = duplicateColumn "spec_id" ||
      e = duplicateKey "idx_issues_issue_type" || e = duplicateKey "idx_issues_spec_id" ||
      e = cantDropFk

/-- The catalogs that runs of initSchemaOnDB leave, one after another from an empty database,
each stopped after any number of its calls. -/
inductive Reachable (T : SchemaText) : Catalog → Prop
  | empty : Reachable T Catalog.empty
  | run {cat : Catalog} (n : Nat) : Reachable T cat → Reachable T (serveFor n (initSchemaOnDB T 0) cat)

/-! ## A run stopped between the column and its index -/

def issuesStmt : List UInt8 :=
  bytes ("CREATE TABLE IF NOT EXISTS issues (id VARCHAR(255) PRIMARY KEY, " ++
    "issue_type VARCHAR(32), INDEX idx_issues_issue_type (issue_type))")

def dependenciesStmt : List UInt8 :=
  bytes ("CREATE TABLE IF NOT EXISTS dependencies (issue_id VARCHAR(255), " ++
    "depends_on_id VARCHAR(255), CONSTRAINT fk_dep_depends_on FOREIGN KEY (depends_on_id) " ++
    "REFERENCES issues (id))")

/-- A stand-in for schema.go: its two tables, dependencies with the legacy foreign key, no
seed, and the two views. -/
def sampleSchema : SchemaText :=
  ⟨join [semicolon] [issuesStmt, dependenciesStmt], [],
    bytes "CREATE OR REPLACE VIEW ready_issues AS SELECT id FROM issues",
    bytes "CREATE OR REPLACE VIEW blocked_issues AS SELECT issue_id FROM dependencies"⟩

theorem sampleSchema_split :
    splitStatements sampleSchema.schema = [issuesStmt, dependenciesStmt] := by
  have hp : ∀ t ∈ [issuesStmt, dependenciesStmt], ∀ c ∈ t, Plain c := by decide!
  exact splitStatements_of_chain (chain_of_closed fun t ht => plain_none (hp t ht) none)
    (by decide!)

def stoppedAfterSpecId : Catalog := serveFor 10 (initSchemaOnDB sampleSchema 0) Catalog.empty

def specIdWithoutIndex : Catalog := ⟨some ⟨true, true, true, false, nofun⟩, some false⟩

theorem stoppedAfterSpecId_eq : stoppedAfterSpecId = specIdWithoutIndex := by
  rw [stoppedAfterSpecId, initSchemaOnDB, sampleSchema_split]
  decide!

theorem runMigrations_after_crash :
    Reachable sampleSchema stoppedAfterSpecId ∧
      serve (runMigrations 0) stoppedAfterSpecId = (none, stoppedAfterSpecId) ∧
      stoppedAfterSpecId.issues.map (fun t => (t.wispType, t.specId, t.idxSpecId)) =
        some (true, true, false) := by
  refine ⟨.run 10 .empty, ?_⟩
  rw [stoppedAfterSpecId_eq]
  decide!

theorem initSchemaOnDB_after_crash :
    (execAnswers (initSchemaOnDB sampleSchema 0) stoppedAfterSpecId).all expectedAnswer ∧
      (serve (initSchemaOnDB sampleSchema 0) stoppedAfterSpecId).1 = none ∧
      (serve (initSchemaOnDB sampleSchema 0) stoppedAfterSpecId).2.issues.map (·.idxSpecId) =
        some false := by
  rw [stoppedAfterSpecId_eq, initSchemaOnDB, sampleSchema_split]
  decide!

end MaudeStore.Server
