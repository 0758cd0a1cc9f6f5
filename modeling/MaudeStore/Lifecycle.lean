import MaudeStore.Program

/-! New against a driver and a server that may answer each call either way: which *sql.DB
handles a run leaves open, what Close does after it, and the text of the CREATE DATABASE
statement openServerConnection sends. -/
namespace MaudeStore.Lifecycle
open GoString Splitter Dsn Errors Program

/-- The answers, call by call: the n-th call fails with fail n when that is an error, and a
count query that does not fail reads count n. -/
structure Oracle where
  fail : Nat → Option Err
  count : Nat → Nat

/-- The handles sql.Open returned (numbered in order), those closed, and those that answered
a Ping. -/
structure Handles where
  opened : List Nat
  closed : List Nat
  pinged : List Nat
  deriving DecidableEq

def Handles.live (h : Handles) : List Nat := h.opened.filter (· ∉ h.closed)

structure World where
  calls : Nat
  handles : Handles

def World.init : World := ⟨0, ⟨[], [], []⟩⟩

/-- The answer to a call and its effect. Close closes the handle whatever it reports. -/
def answer (O : Oracle) (w : World) : (r : Req) → r.Resp × World
  | .sqlOpen _ =>
    match O.fail w.calls with
    | some e => (.error e, ⟨w.calls + 1, w.handles⟩)
    | none => (.ok w.handles.opened.length, ⟨w.calls + 1,
        { w.handles with opened := w.handles.opened ++ [w.handles.opened.length] }⟩)
  | .close db => (O.fail w.calls, ⟨w.calls + 1, { w.handles with closed := w.handles.closed ++ [db] }⟩)
  | .ping db =>
    match O.fail w.calls with
    | some e => (some e, ⟨w.calls + 1, w.handles⟩)
    | none => (none, ⟨w.calls + 1, { w.handles with pinged := w.handles.pinged ++ [db] }⟩)
  | .exec _ _ => (O.fail w.calls, ⟨w.calls + 1, w.handles⟩)
  | .queryCount _ _ => ((O.fail w.calls).elim (.ok (O.count w.calls)) .error, ⟨w.calls + 1, w.handles⟩)

def run (O : Oracle) {α : Type} : Prog α → World → α × World
  | .ret a, w => (a, w)
  | .call r k, w => run O (k (answer O w r).1) (answer O w r).2

variable {O : Oracle} {α β : Type}

@[simp] theorem run_ret (a : α) (w : World) : run O (.ret a) w = (a, w) := rfl

@[simp] theorem run_call (r : Req) (k : r.Resp → Prog α) (w : World) :
    run O (.call r k) w = run O (k (answer O w r).1) (answer O w r).2 := rfl

theorem run_bind (p : Prog α) (f : α → Prog β) (w : World) :
    run O (p >>= f) w = run O (f (run O p w).1) (run O p w).2 := by
  induction p generalizing w with
  | ret a => rfl
  | call r k ih => exact ih _ _

theorem run_orFail_none {step : Prog (Option Err)} {w : World} (wrap : Err → Err)
    (rest : Prog (Option Err)) (h : run O step w = (none, w)) :
    run O (orFail step wrap rest) w = run O rest w := by
  rw [orFail, run_bind, h]

theorem run_orFail_some {step : Prog (Option Err)} {w : World} {e : Err} (wrap : Err → Err)
    (rest : Prog (Option Err)) (h : (run O step w).1 = some e) :
    (run O (orFail step wrap rest) w).1 = some (wrap e) := by
  rw [orFail, run_bind, h]; rfl

/-! ## initSchemaOnDB touches no handle -/

inductive StatementsOnly : Prog α → Prop
  | ret (a : α) : StatementsOnly (.ret a)
  | exec (db : Nat) (stmt : List UInt8) (k : Option Err → Prog α) :
      (∀ x, StatementsOnly (k x)) → StatementsOnly (.call (.exec db stmt) k)
  | query (db : Nat) (q : List UInt8) (k : Except Err Nat → Prog α) :
      (∀ x, StatementsOnly (k x)) → StatementsOnly (.call (.queryCount db q) k)

theorem StatementsOnly.bind {p : Prog α} {f : α → Prog β} (hp : StatementsOnly p)
    (hf : ∀ a, StatementsOnly (f a)) : StatementsOnly (p >>= f) := by
  induction hp with
  | ret a => exact hf a
  | exec db stmt k _ ih => exact .exec db stmt _ ih
  | query db q k _ ih => exact .query db q _ ih

theorem statementsOnly_exec (db : Nat) (stmt : List UInt8) : StatementsOnly (exec db stmt) :=
  .exec db stmt _ fun x => .ret x

theorem statementsOnly_orFail {step rest : Prog (Option Err)} (wrap : Err → Err)
    (hs : StatementsOnly step) (hr : StatementsOnly rest) : StatementsOnly (orFail step wrap rest) :=
  hs.bind fun | some _ => .ret _ | none => hr

theorem statementsOnly_execTolerating (db : Nat) (stmt : List UInt8) (needles : List String) :
    StatementsOnly (execTolerating db stmt needles) :=
  (statementsOnly_exec db stmt).bind fun | some _ => .ret _ | none => .ret _

theorem statementsOnly_execStatements (db : Nat) (onErr : List UInt8 → Err → Err)
    (ss : List (List UInt8)) : StatementsOnly (execStatements db onErr ss) := by
  induction ss with
  | nil => exact .ret _
  | cons s ss ih =>
    rw [execStatements]
    split
    · exact ih
    split
    · exact ih
    exact statementsOnly_orFail _ (statementsOnly_exec db _) ih

theorem statementsOnly_addColumn (column : String) (alter : List UInt8) {rest : Prog (Option Err)}
    (hr : StatementsOnly rest) (db : Nat) : StatementsOnly (addColumn column alter rest db) := by
  refine .query db _ _ fun
    | .error _ => .ret _
    | .ok count => ?_
  show StatementsOnly (if count > 0 then _ else _)
  split
  · exact .ret _
  · refine (statementsOnly_exec db alter).bind fun
      | some _ => ?_
      | none => hr
    show StatementsOnly (if _ then _ else _)
    split
    · exact hr
    · exact .ret _

theorem statementsOnly_initSchemaOnDB (T : SchemaText) (db : Nat) :
    StatementsOnly (initSchemaOnDB T db) := by
  have hidx : ∀ ms, StatementsOnly (applyIndexMigrations db ms) := fun ms => by
    induction ms with
    | nil => exact .ret _
    | cons m ms ih => exact statementsOnly_orFail _ (statementsOnly_execTolerating _ _ _) ih
  have hmig : ∀ ms : List Migration, (∀ m ∈ ms, StatementsOnly (m.func db)) →
      StatementsOnly (runMigrationsOf db ms) := fun ms => by
    induction ms with
    | nil => exact fun _ => .ret _
    | cons m ms ih =>
      exact fun h => statementsOnly_orFail _ (h m (by simp)) (ih fun m' hm' => h m' (by simp [hm']))
  have hrun : StatementsOnly (runMigrations db) := hmig _ fun m hm => by
    simp only [migrationsList, List.mem_cons, List.mem_singleton, List.not_mem_nil, or_false] at hm
    rcases hm with rfl | rfl
    · exact statementsOnly_addColumn _ _ (.ret _) db
    · exact statementsOnly_addColumn _ _
        (statementsOnly_orFail _ (statementsOnly_execTolerating _ _ _) (.ret _)) db
  exact statementsOnly_orFail _ (statementsOnly_execStatements _ _ _) <|
    statementsOnly_orFail _ (statementsOnly_execStatements _ _ _) <|
    statementsOnly_orFail _ (hidx _) <|
    statementsOnly_orFail _ (statementsOnly_execTolerating _ _ _) <|
    statementsOnly_orFail _ (statementsOnly_exec _ _) <|
    statementsOnly_orFail _ (statementsOnly_exec _ _) <| statementsOnly_orFail _ hrun (.ret _)

theorem run_handles {p : Prog α} (hp : StatementsOnly p) (w : World) :
    (run O p w).2.handles = w.handles := by
  induction hp generalizing w with
  | ret a => rfl
  | exec db stmt k _ ih => exact ih _ _
  | query db q k _ ih => exact ih _ _

/-! ## The handles New leaves open -/

def SchemaFailure (e : Err) : Prop := ∃ e', e = wrapf "failed to initialize schema: " e'

theorem not_schemaFailure_wrapf (context : String) (e : Err)
    (h : bytes context ≠ bytes "failed to initialize schema: ") :
    ¬SchemaFailure (wrapf context e) :=
  fun ⟨_, he⟩ => h (Err.wrap.inj he).1

theorem not_schemaFailure_refusedErr (cfg : Config) (e : Err) :
    ¬SchemaFailure (refusedErr cfg e) :=
  fun ⟨_, he⟩ => absurd (Err.wrap.inj he).2.1 (by decide)

theorem run_openServerConnection (cfg : Config) (c : Nat) :
    let r := run O (openServerConnection cfg) ⟨c, ⟨[], [], []⟩⟩
    (∃ e, r.1 = .error e ∧ ¬SchemaFailure e ∧ r.2.handles.live = [] ∧
      r.2.handles.pinged = []) ∨
      r = (.ok (0, connStr cfg), ⟨c + 4, ⟨[0, 1], [1], []⟩⟩) := by
  simp only [openServerConnection, sqlOpen, closeDB, ensureDatabase, exec, Prog.call_bind,
    Prog.ret_bind]
  rcases h0 : O.fail c with _ | e0
  · rcases h1 : O.fail (c + 1) with _ | e1
    · rcases h2 : O.fail (c + 1 + 1) with _ | e2
      · simp [run, answer, h0, h1, h2]
      · by_cases hm : mentions e2 ["database exists", "1007"]
        · simp [run, answer, h0, h1, h2, hm]
        · by_cases hr : mentions e2 ["connection refused", "connect: connection refused"]
          · exact .inl ⟨refusedErr cfg e2, by simp [run, answer, h0, h1, h2, hm, hr],
              not_schemaFailure_refusedErr cfg e2, by simp [run, answer, h0, h1, h2, hm, Handles.live]⟩
          · exact .inl ⟨wrapf "failed to create database: " e2,
              by simp [run, answer, h0, h1, h2, hm, hr], not_schemaFailure_wrapf _ e2 (by decide),
              by simp [run, answer, h0, h1, h2, hm, Handles.live]⟩
    · exact .inl ⟨wrapf "failed to open init connection: " e1, by simp [run, answer, h0, h1],
        not_schemaFailure_wrapf _ e1 (by decide), by simp [run, answer, h0, h1, Handles.live]⟩
  · exact .inl ⟨wrapf "failed to open MariaDB server connection: " e0, by simp [run, answer, h0],
      not_schemaFailure_wrapf _ e0 (by decide), by simp [run, answer, h0, Handles.live]⟩

theorem run_new_cases (env : List UInt8) (T : SchemaText) (cfg : Config) :
    let r := run O (new env T cfg) World.init
    (∃ s db, r.1 = .ok s ∧ s.db = some db ∧ r.2.handles.live = [db] ∧
        db ∈ r.2.handles.pinged) ∨
      (∃ e, r.1 = .error e ∧ SchemaFailure e ∧
        ∃ db, r.2.handles.live = [db] ∧ db ∈ r.2.handles.pinged) ∨
      ∃ e, r.1 = .error e ∧ ¬SchemaFailure e ∧ r.2.handles.live = [] := by
  simp only [new, World.init]
  rw [run_bind]
  rcases run_openServerConnection (O := O) (withDefaults env cfg) 0 with ⟨e, he, hs, hl, -⟩ | he
  · rw [he]
    exact .inr (.inr ⟨e, rfl, hs, hl⟩)
  rw [he]
  simp only [ping, closeDB, Prog.call_bind, Prog.ret_bind, run_call, run_ret]
  rcases hp : O.fail (0 + 4) with _ | ep
  · simp only [answer, hp]
    by_cases hro : (withDefaults env cfg).readOnly
    · simp [hro, Handles.live]
    · simp only [hro, Bool.false_eq_true, if_false]
      rw [run_bind]
      have hf := run_handles (O := O) (statementsOnly_initSchemaOnDB T 0)
        ⟨0 + 4 + 1, ⟨[0, 1], [1], [] ++ [0]⟩⟩
      generalize run O (initSchemaOnDB T 0) _ = r at hf ⊢
      obtain ⟨_ | es, w'⟩ := r <;> simp_all [Handles.live, SchemaFailure]
  · exact .inr (.inr ⟨wrapf "failed to ping MariaDB database: " ep, by simp [answer, hp],
      not_schemaFailure_wrapf _ ep (by decide), by simp [answer, hp, Handles.live]⟩)

/-- Every run of New: a store holds the pool, which answered the Ping and is the only handle
left open; an error leaves the pinged pool as the one open handle exactly when it is a failure
of initSchemaOnDB, and no handle open otherwise. -/
theorem new_live_handles (env : List UInt8) (T : SchemaText) (cfg : Config) :
    let r := run O (new env T cfg) World.init
    match r.1 with
    | .ok s => ∃ db, s.db = some db ∧ r.2.handles.live = [db] ∧ db ∈ r.2.handles.pinged
    | .error e =>
      (SchemaFailure e → ∃ db, r.2.handles.live = [db] ∧ db ∈ r.2.handles.pinged) ∧
        (¬SchemaFailure e → r.2.handles.live = []) := by
  rcases run_new_cases (O := O) env T cfg with ⟨s, db, hr, hs⟩ | ⟨e, hr, hf, hl⟩ | ⟨e, hr, hf, hl⟩ <;>
    dsimp only <;> rw [hr]
  · exact ⟨db, hs⟩
  · exact ⟨fun _ => hl, fun h => absurd hf h⟩
  · exact ⟨fun h => absurd h hf, fun _ => hl⟩

theorem run_initSchemaOnDB_first_fail (T : SchemaText) (db : Nat) (w : World) {e : Err}
    (hf : O.fail w.calls = some e) (hm : mentions e ["duplicate", "already exists"] = false) :
    ∃ e', (run O (initSchemaOnDB T db) w).1 = some e' := by
  have hfirst : ∀ (onErr : List UInt8 → Err → Err) ss,
      run O (execStatements db onErr ss) w = (none, w) ∨
        ∃ e', (run O (execStatements db onErr ss) w).1 = some e' := fun onErr ss => by
    induction ss with
    | nil => exact .inl rfl
    | cons s ss ih =>
      rw [execStatements]
      split
      · exact ih
      split
      · exact ih
      exact .inr ⟨_, run_orFail_some (e := e) _ _ (by simp [exec, answer, hf])⟩
  rw [initSchemaOnDB]
  rcases hfirst _ (splitStatements T.schema) with h | ⟨e', h⟩
  · rw [run_orFail_none _ _ h]
    rcases hfirst (fun _ => wrapf "failed to insert default config: ")
      (splitStatements T.defaultConfig) with h' | ⟨e', h'⟩
    · rw [run_orFail_none _ _ h']
      have hidx : (run O (applyIndexMigrations db indexMigrations) w).1 =
          some (wrapf "failed to apply index migration: " e) := by
        simp [indexMigrations, applyIndexMigrations, orFail, execTolerating, run_bind, exec,
          answer, hf, hm]
      exact ⟨_, run_orFail_some _ _ hidx⟩
    · exact ⟨_, run_orFail_some _ _ h'⟩
  · exact ⟨_, run_orFail_some _ _ h⟩

/-- A failure of the first schema statement after a good Ping: New returns an error and the
pool stays open, whatever the schema and the configuration. -/
theorem new_schema_failure_leaks_pool (env : List UInt8) (T : SchemaText) (cfg : Config) :
    let O : Oracle := ⟨fun n => if n = 5 then some (.base (bytes "driver: bad connection"))
      else none, fun _ => 0⟩
    let r := run O (new env T { cfg with readOnly := false }) World.init
    (∃ e, r.1 = .error e) ∧ r.2.handles.live = [0] := by
  intro O
  have hopen : run O (openServerConnection (withDefaults env { cfg with readOnly := false }))
      World.init = (.ok (0, connStr (withDefaults env { cfg with readOnly := false })),
        ⟨4, ⟨[0, 1], [1], []⟩⟩) := by
    simp [openServerConnection, ensureDatabase, sqlOpen, closeDB, exec, answer, O, World.init]
  obtain ⟨e', he'⟩ :=
    run_initSchemaOnDB_first_fail (O := O) T 0 ⟨5, ⟨[0, 1], [1], [0]⟩⟩ rfl (by decide)
  have hframe := run_handles (O := O) (statementsOnly_initSchemaOnDB T 0) ⟨5, ⟨[0, 1], [1], [0]⟩⟩
  simp only [new]
  rw [run_bind, hopen]
  simp [ping, answer, O, withDefaults, run_bind, he', hframe, Handles.live]

/-! ## Close -/

theorem Handles.live_close {h : Handles} {db : Nat} (hl : h.live = [db]) :
    { h with closed := h.closed ++ [db] }.live = [] := by
  refine List.filter_eq_nil_iff.2 fun x hx => ?_
  simp only [List.mem_append, List.mem_singleton, decide_eq_true_eq, not_not]
  by_cases hc : x ∈ h.closed
  · exact .inl hc
  · have : x ∈ h.live := List.mem_filter.2 ⟨hx, by simpa using hc⟩
    rw [hl] at this
    exact .inr (List.mem_singleton.1 this)

/-- Closing the store New returned closes the last handle New left open. -/
theorem new_close_live (env : List UInt8) (T : SchemaText) (cfg : Config) :
    let r := run O (new env T cfg) World.init
    match r.1 with
    | .ok s => (run O s.close r.2).2.handles.live = []
    | .error _ => True := by
  rcases run_new_cases (O := O) env T cfg with ⟨s, db, hr, hdb, hlive, -⟩ | ⟨e, hr, -⟩ | ⟨e, hr, -⟩ <;>
    dsimp only <;> rw [hr]
  · simp only [Store.close, hdb, closeDB, Prog.call_bind, Prog.ret_bind, run, answer]
    exact Handles.live_close hlive
  all_goals trivial

/-! ## The CREATE DATABASE statement -/

/-- A byte MariaDB takes into an unquoted identifier: an ASCII letter or digit, '$', '_', or
a byte of a multi-byte UTF-8 character. -/
def identByte (b : UInt8) : Bool :=
  (48 ≤ b && b ≤ 57) || (65 ≤ b && b ≤ 90) || (97 ≤ b && b ≤ 122) || b == 36 || b == 95 ||
    128 ≤ b

def isDigit (b : UInt8) : Bool := 48 ≤ b && b ≤ 57

def escapeBackticks : List UInt8 → List UInt8
  | [] => []
  | b :: d => if b = 96 then 96 :: 96 :: escapeBackticks d else b :: escapeBackticks d

def quoteIdent (d : List UInt8) : List UInt8 := 96 :: escapeBackticks d ++ [96]

/-- text lexes as one identifier that names d: d itself, unquoted, of identifier bytes and not
all digits (reserved words are not ruled out here), or d between backticks. -/
def NamesIdent (text d : List UInt8) : Prop :=
  (text = d ∧ d ≠ [] ∧ d.all identByte ∧ ¬ d.all isDigit) ∨ text = quoteIdent d

instance (text d : List UInt8) : Decidable (NamesIdent text d) :=
  inferInstanceAs (Decidable (_ ∨ _))

/-- "my-db": the statement reads CREATE DATABASE IF NOT EXISTS my - db. -/
theorem createDatabaseStmt_hyphen :
    createDatabaseStmt (bytes "my-db") = bytes "CREATE DATABASE IF NOT EXISTS " ++ bytes "my-db" ∧
      ¬ NamesIdent (bytes "my-db") (bytes "my-db") := by
  decide

end MaudeStore.Lifecycle
