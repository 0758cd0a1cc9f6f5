import MaudeStore.Progress

/-! How the catalog evolves when clients run the store's programs at one server. A client keeps
a fact of the catalog, and makes only calls of a given kind, when each of its calls does so from
any catalog grown from what it has seen; then the fact holds all along every interleaving and
every call the server answers is of that kind. Three results follow: every catalog shows the
order in which initSchemaOnDB works; a migrated catalog is never changed and no migration
statement runs there; and fair runs end complete exactly when spec_id did not stand without its
index, no client ever creating the index otherwise. -/
namespace MaudeStore.Evolution
open GoString Splitter Dsn Errors Program Server Pipeline Concurrent Progress

/-! ## Facts every call keeps -/

/-- Each call of p, from any catalog grown from c where I holds, is one A allows and leaves I
holding, and p goes on from the answer's catalog. -/
inductive Keeps {α : Type} (I : Catalog → Prop) (A : Req → Prop) : Prog α → Catalog → Prop
  | ret (a : α) (c : Catalog) : Keeps I A (.ret a) c
  | call {r : Req} {k : r.Resp → Prog α} {c : Catalog} (allowed : A r)
      (holds : ∀ cat, Grows c cat → I cat → I (answer cat r).2)
      (next : ∀ cat, Grows c cat → I cat → Keeps I A (k (answer cat r).1) (answer cat r).2) :
      Keeps I A (.call r k) c

section Rules
variable {α β : Type} {I : Catalog → Prop} {A : Req → Prop}

theorem Keeps.call_inv {r : Req} {k : r.Resp → Prog α} {c cat : Catalog}
    (h : Keeps I A (.call r k) c) (hg : Grows c cat) (hi : I cat) :
    A r ∧ I (answer cat r).2 ∧ Keeps I A (k (answer cat r).1) (answer cat r).2 := by
  cases h with
  | call hA h₁ h₂ => exact ⟨hA, h₁ cat hg hi, h₂ cat hg hi⟩

theorem Keeps.bind {Q : α → Catalog → Prop} {p : Prog α} {f : α → Prog β} {c : Catalog}
    (hk : Keeps I A p c) (hs : Safe Q p c) (hf : ∀ a c', Q a c' → Keeps I A (f a) c') :
    Keeps I A (p >>= f) c := by
  induction p generalizing c with
  | ret a => exact hf a c hs
  | call r k ih =>
    cases hk with
    | call hA h₁ h₂ => exact .call hA h₁ fun cat hg hi => ih _ (h₂ cat hg hi) (hs cat hg).1

theorem Keeps.bind_any {p : Prog α} {f : α → Prog β} {c : Catalog} (hk : Keeps I A p c)
    (hf : ∀ a c', Keeps I A (f a) c') : Keeps I A (p >>= f) c := by
  induction p generalizing c with
  | ret a => exact hf a c
  | call r k ih =>
    cases hk with
    | call hA h₁ h₂ => exact .call hA h₁ fun cat hg hi => ih _ (h₂ cat hg hi)

theorem Keeps.orFail {step rest : Prog (Option Err)} {wrap : Err → Err} {P : Catalog → Prop}
    {c : Catalog} (hk : Keeps I A step c) (hs : Safe (fun x c' => x = none ∧ P c') step c)
    (hr : ∀ c', P c' → Keeps I A rest c') : Keeps I A (orFail step wrap rest) c :=
  hk.bind hs fun
    | some _, _, _ => .ret _ _
    | none, c', ⟨_, hp⟩ => hr c' hp

theorem Keeps.orFail_any {step rest : Prog (Option Err)} {wrap : Err → Err} {c : Catalog}
    (hk : Keeps I A step c) (hr : ∀ c', Keeps I A rest c') :
    Keeps I A (Program.orFail step wrap rest) c :=
  hk.bind_any fun
    | some _, _ => .ret _ _
    | none, c' => hr c'

end Rules

/-! ## The store's programs, from what their statements keep -/

/-- What a migration does once it finds its object missing: an ALTER that adds a column of
issues, or the CREATE INDEX on spec_id. -/
def MigrationCall : Req → Prop
  | .exec _ s => s = addWispType ∨ s = addSpecId ∨ s = createSpecIdIndex
  | _ => False

theorem not_migrationCall_other {db : Nat} {s : List UInt8} (hs : s ∉ ownStatements) :
    ¬MigrationCall (.exec db s) := by
  rintro (rfl | rfl | rfl) <;> exact hs (by simp [ownStatements])

theorem not_migrationCall_createIssueTypeIndex {db : Nat} :
    ¬MigrationCall (.exec db createIssueTypeIndex) := by
  simp only [MigrationCall]
  decide

theorem not_migrationCall_dropDependsOnFk {db : Nat} :
    ¬MigrationCall (.exec db dropDependsOnFk) := by
  simp only [MigrationCall]
  decide

section Programs
variable {I : Catalog → Prop} {A : Req → Prop}

theorem keeps_exec {db : Nat} {s : List UInt8} {c : Catalog} (hs : A (.exec db s))
    (h : ∀ cat, Grows c cat → I cat → I (execStmt cat s).2) : Keeps I A (exec db s) c :=
  .call hs h fun _ _ _ => .ret _ _

theorem keeps_execTolerating {db : Nat} {s : List UInt8} {needles : List String} {c : Catalog}
    (hs : A (.exec db s)) (h : ∀ cat, Grows c cat → I cat → I (execStmt cat s).2) :
    Keeps I A (execTolerating db s needles) c :=
  (keeps_exec hs h).bind_any fun
    | some _, _ => .ret _ _
    | none, _ => .ret _ _

theorem keeps_orFail_exec {db : Nat} {s : List UInt8} {wrap : Err → Err}
    {rest : Prog (Option Err)} {c : Catalog} {P : Catalog → Prop} (hs : A (.exec db s))
    (h : ∀ cat, Grows c cat → I cat →
      (execStmt cat s).1 = none ∧ I (execStmt cat s).2 ∧ P (execStmt cat s).2)
    (hr : ∀ c', P c' → Keeps I A rest c') : Keeps I A (orFail (exec db s) wrap rest) c := by
  refine .call hs (fun cat hg hi => (h cat hg hi).2.1) fun cat hg hi => ?_
  simp only [answer_exec, Prog.ret_bind, (h cat hg hi).1]
  exact hr _ (h cat hg hi).2.2

variable (hA : ∀ r, ¬MigrationCall r → A r)
include hA

theorem keeps_sqlOpen (dsn : List UInt8) (c : Catalog) : Keeps I A (sqlOpen dsn) c :=
  .call (hA _ id) (fun _ _ hi => hi) fun _ _ _ => .ret _ _

theorem keeps_closeDB (db : Nat) (c : Catalog) : Keeps I A (closeDB db) c :=
  .call (hA _ id) (fun _ _ hi => hi) fun _ _ _ => .ret _ _

theorem keeps_ping (db : Nat) (c : Catalog) : Keeps I A (ping db) c :=
  .call (hA _ id) (fun _ _ hi => hi) fun _ _ _ => .ret _ _

theorem keeps_exec_other (hother : ∀ s, s ∉ ownStatements → ∀ cat, I cat → I (baseline s cat))
    {db : Nat} {s : List UInt8} (hs : s ∉ ownStatements) (c : Catalog) :
    Keeps I A (exec db s) c :=
  keeps_exec (hA _ (not_migrationCall_other hs)) fun cat _ hi => by
    rw [execStmt_other hs]
    exact hother s hs cat hi

theorem keeps_execEach (hother : ∀ s, s ∉ ownStatements → ∀ cat, I cat → I (baseline s cat))
    {db : Nat} {onErr : List UInt8 → Err → Err} :
    ∀ {ss : List (List UInt8)}, (∀ s ∈ ss, s ∉ ownStatements) →
      ∀ c, Keeps I A (execEach db onErr ss) c
  | [], _, _ => .ret _ _
  | s :: _, h, c => (keeps_exec_other hA hother (h s (.head _)) c).orFail_any
      (keeps_execEach hother fun s' hs' => h s' (.tail _ hs'))

theorem keeps_execStatements
    (hother : ∀ s, s ∉ ownStatements → ∀ cat, I cat → I (baseline s cat)) {db : Nat}
    {onErr : List UInt8 → Err → Err} {ss : List (List UInt8)}
    (h : ∀ s ∈ submitted ss, s ∉ ownStatements) (c : Catalog) :
    Keeps I A (execStatements db onErr ss) c := by
  rw [execStatements_eq_execEach]
  exact keeps_execEach hA hother h c

theorem keeps_exec_tables {db : Nat} {s : List UInt8} (hs : s ∉ ownStatements) {c : Catalog}
    (ht : HasTables c) : Keeps I A (exec db s) c :=
  keeps_exec (hA _ (not_migrationCall_other hs)) fun cat hg hi => by
    rwa [execStmt_other hs, baseline_of_tables (hg.tables ht).1 (hg.tables ht).2]

theorem keeps_execEach_tables {db : Nat} {onErr : List UInt8 → Err → Err} :
    ∀ {ss : List (List UInt8)}, (∀ s ∈ ss, s ∉ ownStatements) →
      ∀ c, HasTables c → Keeps I A (execEach db onErr ss) c
  | [], _, _, _ => .ret _ _
  | s :: _, h, _, ht => keeps_orFail_exec (hA _ (not_migrationCall_other (h s (.head _))))
      (fun cat hg hi => by
        rw [execStmt_other (h s (.head _)), baseline_of_tables (hg.tables ht).1 (hg.tables ht).2]
        exact ⟨rfl, hi, hg.tables ht⟩)
      fun c' => keeps_execEach_tables (fun s' hs' => h s' (.tail _ hs')) c'

theorem keeps_execStatements_tables {db : Nat} {onErr : List UInt8 → Err → Err}
    {ss : List (List UInt8)} (h : ∀ s ∈ submitted ss, s ∉ ownStatements) {c : Catalog}
    (ht : HasTables c) : Keeps I A (execStatements db onErr ss) c := by
  rw [execStatements_eq_execEach]
  exact keeps_execEach_tables hA h c ht

theorem keeps_applyIndexMigrations {c : Catalog}
    (hidx : ∀ cat, Grows c cat → I cat → I (execStmt cat createIssueTypeIndex).2) (db : Nat) :
    Keeps I A (applyIndexMigrations db indexMigrations) c :=
  (keeps_execTolerating (hA _ not_migrationCall_createIssueTypeIndex) hidx).orFail_any
    fun _ => .ret _ _

theorem keeps_addColumn {column : String} {alter : List UInt8} {rest : Prog (Option Err)}
    {db : Nat} {c : Catalog} (hallow : A (.exec db alter))
    (halter : ∀ cat, Grows c cat → I cat → I (execStmt cat alter).2)
    (hrest : ∀ c', Keeps I A rest c') : Keeps I A (addColumn column alter rest db) c := by
  refine .call (hA _ id) (fun _ _ hi => hi) fun cat hg _ => ?_
  simp only [answer_queryCount, Prog.bind]
  split
  · exact .ret _ _
  · refine .call hallow (fun cat₂ hg₂ => halter cat₂ (hg.trans hg₂)) fun cat₂ _ _ => ?_
    simp only [answer_exec, Prog.bind]
    cases (execStmt cat₂ alter).1 with
    | none => exact hrest _
    | some e =>
      show Keeps I A (if _ then _ else _) _
      split
      · exact hrest _
      · exact .ret _ _

theorem keeps_addColumn_found {column : String} {alter : List UInt8} {rest : Prog (Option Err)}
    {db : Nat} {c : Catalog}
    (hfound : ∀ cat, I cat → 0 < columnCount cat (columnCountQuery column)) :
    Keeps I A (addColumn column alter rest db) c := by
  refine .call (hA _ id) (fun _ _ hi => hi) fun cat _ hi => ?_
  simp only [answer_queryCount, Prog.bind, if_pos (hfound cat hi)]
  exact .ret _ _

theorem keeps_ensureDatabase (cfg : Config) (db initDB : Nat) (c : Catalog) :
    Keeps I A (ensureDatabase cfg db initDB) c := by
  refine (keeps_exec (hA _ (not_migrationCall_other (createDatabaseStmt_not_own cfg.database)))
    fun cat _ hi => by rwa [execStmt_createDatabaseStmt]).bind_any fun
    | none, _ => .ret _ _
    | some _, c₁ => ?_
  show Keeps I A (if _ then _ else _) c₁
  split
  · exact .ret _ _
  · exact (keeps_closeDB hA db c₁).bind_any fun _ _ => .ret _ _

theorem keeps_openServerConnection (cfg : Config) (c : Catalog) :
    Keeps I A (openServerConnection cfg) c :=
  (keeps_sqlOpen hA _ c).bind_any fun
    | .error _, _ => .ret _ _
    | .ok db, c₁ => (keeps_sqlOpen hA _ c₁).bind_any fun
      | .error _, c₂ => (keeps_closeDB hA db c₂).bind_any fun _ _ => .ret _ _
      | .ok initDB, c₂ => (keeps_ensureDatabase hA cfg db initDB c₂).bind_any fun _ c₃ =>
          (keeps_closeDB hA initDB c₃).bind_any fun _ _ => .ret _ _

/-- New keeps I when initSchemaOnDB does from anywhere; read-only or not. -/
theorem keeps_new {env : List UInt8} {T : SchemaText}
    (hinit : ∀ db c, Keeps I A (initSchemaOnDB T db) c) (cfg : Config) (c : Catalog) :
    Keeps I A (new env T cfg) c := by
  refine (keeps_openServerConnection hA _ c).bind_any fun
    | .error _, _ => .ret _ _
    | .ok (db, _), c₁ => (keeps_ping hA db c₁).bind_any fun
      | some _, c₂ => (keeps_closeDB hA db c₂).bind_any fun _ _ => .ret _ _
      | none, c₂ => ?_
  show Keeps I A (if _ then _ else _) c₂
  split
  · exact .ret _ _
  · exact (hinit db c₂).bind_any fun
      | some _, _ => .ret _ _
      | none, _ => .ret _ _

end Programs

/-! ## Along every interleaving -/

/-- The calls the server answers along the interleaving, in order. -/
def served {α : Type} : List Nat → Catalog × List (Prog α) → List Req
  | [], _ => []
  | i :: sched, st =>
    match st.2[i]? with
    | some (.call r _) => r :: served sched (Concurrent.step st i)
    | _ => served sched (Concurrent.step st i)

structure KeepsInv {α : Type} (I : Catalog → Prop) (A : Req → Prop)
    (st : Catalog × List (Prog α)) : Prop where
  holds : I st.1
  keeps : ∀ p ∈ st.2, ∃ c, Grows c st.1 ∧ Keeps I A p c

section Interleavings
variable {α : Type} {I : Catalog → Prop} {A : Req → Prop}

theorem step_keepsInv {st : Catalog × List (Prog α)} (h : KeepsInv I A st) (i : Nat) :
    KeepsInv I A (Concurrent.step st i) := by
  refine ⟨?_, step_each h.keeps i fun _ _ _ hk hg => (hk.call_inv hg h.holds).2.2⟩
  obtain ⟨cat, ps⟩ := st
  unfold Concurrent.step
  split
  · rename_i r k hi
    obtain ⟨c, hg, hk⟩ := h.keeps _ (List.getElem?_mem hi)
    exact (hk.call_inv hg h.holds).2.1
  · exact h.holds

theorem interleave_keepsInv (sched : List Nat) {st : Catalog × List (Prog α)}
    (h : KeepsInv I A st) : KeepsInv I A (interleave sched st) := by
  induction sched generalizing st with
  | nil => exact h
  | cons i sched ih => exact ih (step_keepsInv h i)

theorem served_allowed (sched : List Nat) {st : Catalog × List (Prog α)}
    (h : KeepsInv I A st) : ∀ r ∈ served sched st, A r := by
  induction sched generalizing st with
  | nil => nofun
  | cons i sched ih =>
    unfold served
    split
    · rename_i r k hi
      obtain ⟨c, hg, hk⟩ := h.keeps _ (List.getElem?_mem hi)
      exact fun r' hr' => (List.mem_cons.1 hr').elim (fun e => e ▸ (hk.call_inv hg h.holds).1)
        (ih (step_keepsInv h i) r')
    · exact ih (step_keepsInv h i)

/-- Clients running New, each with its own Config, keep I along any interleaving from a catalog
where I holds, and make only calls A allows, when each does so from anywhere. -/
theorem interleave_new_keeps {env : List UInt8} {T : SchemaText}
    (hnew : ∀ cfg c, Keeps I A (new env T cfg) c) {cat : Catalog} (hcat : I cat)
    (cfgs : List Config) (sched : List Nat) :
    I (interleave sched (cat, cfgs.map (new env T))).1 ∧
      ∀ r ∈ served sched (cat, cfgs.map (new env T)), A r := by
  have h : KeepsInv I A (cat, cfgs.map (new env T)) := ⟨hcat, fun p hp => by
    obtain ⟨cfg, -, rfl⟩ := List.mem_map.1 hp
    exact ⟨cat, .refl cat, hnew cfg cat⟩⟩
  exact ⟨(interleave_keepsInv sched h).holds, served_allowed sched h⟩

theorem serveFor_keeps : ∀ (n : Nat) {p : Prog α} {c cat : Catalog}, Keeps I A p c →
    Grows c cat → I cat → I (serveFor n p cat)
  | 0, _, _, _, _, _, hi => hi
  | _ + 1, .ret _, _, _, _, _, hi => hi
  | n + 1, .call _ _, _, _, hk, hg, hi =>
    serveFor_keeps n (hk.call_inv hg hi).2.2 (.refl _) (hk.call_inv hg hi).2.1

end Interleavings

/-! ## The statements of the schema text -/

section SchemaText
variable {T : SchemaText} (hT : ∀ s ∈ schemaStatements T, s ∉ ownStatements)
include hT

theorem not_own_schema : ∀ s ∈ submitted (splitStatements T.schema), s ∉ ownStatements :=
  fun s hs => hT s (by simp [schemaStatements, hs])

theorem not_own_defaultConfig :
    ∀ s ∈ submitted (splitStatements T.defaultConfig), s ∉ ownStatements :=
  fun s hs => hT s (by simp [schemaStatements, hs])

theorem not_own_readyIssuesView : T.readyIssuesView ∉ ownStatements :=
  hT _ (by simp [schemaStatements])

theorem not_own_blockedIssuesView : T.blockedIssuesView ∉ ownStatements :=
  hT _ (by simp [schemaStatements])

theorem keeps_initSchemaOnDB_any {I : Catalog → Prop} {A : Req → Prop} {db : Nat}
    (hA : ∀ r, ¬MigrationCall r → A r)
    (hother : ∀ s, s ∉ ownStatements → ∀ cat, I cat → I (baseline s cat))
    (hidx : ∀ cat, I cat → I (execStmt cat createIssueTypeIndex).2)
    (hfk : ∀ cat, I cat → I (execStmt cat dropDependsOnFk).2)
    (hmig : ∀ c, Keeps I A (runMigrations db) c) (c : Catalog) :
    Keeps I A (initSchemaOnDB T db) c :=
  (keeps_execStatements hA hother (not_own_schema hT) c).orFail_any fun _ =>
  (keeps_execStatements hA hother (not_own_defaultConfig hT) _).orFail_any fun _ =>
  (keeps_applyIndexMigrations hA (fun cat _ => hidx cat) _).orFail_any fun _ =>
  (keeps_execTolerating (hA _ not_migrationCall_dropDependsOnFk)
    fun cat _ => hfk cat).orFail_any fun _ =>
  (keeps_exec_other hA hother (not_own_readyIssuesView hT) _).orFail_any fun _ =>
  (keeps_exec_other hA hother (not_own_blockedIssuesView hT) _).orFail_any fun _ =>
  (hmig _).orFail_any fun _ => .ret _ _

end SchemaText

/-! ## The order of initSchemaOnDB, in every catalog -/

/-- The issues table beside dependencies as the order of initSchemaOnDB leaves them: wisp_type
only once the issue_type index is there and fk_dep_depends_on is gone, spec_id only after
wisp_type. -/
structure TableShape (t : IssuesTable) (deps : Option Bool) : Prop where
  typeIndex_of_wisp : t.wispType = true → t.idxIssueType = true
  noFk_of_wisp : t.wispType = true → deps = some false
  wisp_of_spec : t.specId = true → t.wispType = true

def Shape (c : Catalog) : Prop := ∀ t, c.issues = some t → TableShape t c.dependencies

theorem shape_empty : Shape Catalog.empty := fun _ h => nomatch h

theorem shape_onIssues {cat : Catalog} {f : IssuesTable → Option Err × IssuesTable}
    (hf : ∀ t, cat.issues = some t → TableShape (f t).2 cat.dependencies) :
    Shape (onIssues cat f).2 := by
  unfold onIssues
  split
  · rename_i hi
    exact fun _ h => by rw [hi] at h; cases h
  · rename_i t ht
    rintro _ ⟨⟩
    exact hf t ht

theorem shape_baseline {cat : Catalog} (h : Shape cat) (s : List UInt8) :
    Shape (baseline s cat) := by
  rcases baseline_cases s cat with e | ⟨-, b, e⟩ | ⟨hd, fk, e⟩ <;> rw [e]
  · exact h
  · rintro _ ⟨⟩
    exact ⟨nofun, nofun, nofun⟩
  · intro t ht
    have T := h t ht
    refine ⟨T.1, fun hw => ?_, T.3⟩
    have := T.2 hw
    simp [hd] at this

theorem shape_execStmt {cat : Catalog} (h : Shape cat) {s : List UInt8}
    (hw : s = addWispType → Has IssuesTable.idxIssueType cat ∧ NoFk cat)
    (hs : s = addSpecId → Has IssuesTable.wispType cat) : Shape (execStmt cat s).2 := by
  rcases ownStatements_cases s with rfl | rfl | rfl | rfl | rfl | ho
  · rw [execStmt_createIssueTypeIndex]
    refine shape_onIssues fun t ht => ?_
    have T := h t ht
    split_ifs
    exacts [T, ⟨fun _ => rfl, T.2, T.3⟩]
  · rw [execStmt_dropDependsOnFk]
    split
    · exact h
    · exact fun t ht => ⟨(h t ht).1, fun _ => rfl, (h t ht).3⟩
    · exact h
  · rw [execStmt_addWispType]
    refine shape_onIssues fun t ht => ?_
    have T := h t ht
    obtain ⟨⟨t', ht', hit⟩, hn⟩ := hw rfl
    cases ht.symm.trans ht'
    split_ifs
    exacts [T, ⟨fun _ => hit, fun _ => hn, fun _ => rfl⟩]
  · rw [execStmt_addSpecId]
    refine shape_onIssues fun t ht => ?_
    have T := h t ht
    obtain ⟨t', ht', hwt⟩ := hs rfl
    cases ht.symm.trans ht'
    split_ifs
    exacts [T, ⟨T.1, T.2, fun _ => hwt⟩]
  · rw [execStmt_createSpecIdIndex]
    refine shape_onIssues fun t ht => ?_
    have T := h t ht
    split_ifs <;> exact ⟨T.1, T.2, T.3⟩
  · rw [execStmt_other ho]
    exact shape_baseline h s

theorem shape_execStmt_of_ne {cat : Catalog} (h : Shape cat) {s : List UInt8}
    (hw : s ≠ addWispType) (hs : s ≠ addSpecId) : Shape (execStmt cat s).2 :=
  shape_execStmt h (fun e => absurd e hw) fun e => absurd e hs

theorem keeps_shape_migrateWispTypeColumn {db : Nat} {c : Catalog}
    (hi : Has IssuesTable.idxIssueType c) (hn : NoFk c) :
    Keeps Shape (fun _ => True) (migrateWispTypeColumn db) c :=
  keeps_addColumn (fun _ _ => trivial) trivial
    (fun _ hg h => shape_execStmt h (fun _ => ⟨hg.has _ (by simp [flags]) hi, hg.noFk hn⟩)
      fun e => absurd e (by decide))
    fun _ => .ret _ _

theorem keeps_shape_migrateSpecIDColumn {db : Nat} {c : Catalog}
    (hw : Has IssuesTable.wispType c) : Keeps Shape (fun _ => True) (migrateSpecIDColumn db) c :=
  keeps_addColumn (fun _ _ => trivial) trivial (fun _ hg h => shape_execStmt h
    (fun e => absurd e (by decide)) fun _ => hg.has _ (by simp [flags]) hw) fun _ =>
    (keeps_execTolerating trivial
      fun _ _ h => shape_execStmt_of_ne h (by decide) (by decide)).orFail_any fun _ => .ret _ _

theorem keeps_shape_runMigrations {db : Nat} {c : Catalog} (ht : HasTables c)
    (hi : Has IssuesTable.idxIssueType c) (hn : NoFk c) :
    Keeps Shape (fun _ => True) (runMigrations db) c :=
  (keeps_shape_migrateWispTypeColumn hi hn).orFail (ensures_migrateWispTypeColumn c ht)
    fun _ ⟨_, hw⟩ => (keeps_shape_migrateSpecIDColumn hw).orFail_any fun _ => .ret _ _

theorem keeps_shape_initSchemaOnDB {T : SchemaText} {db : Nat}
    (hT : ∀ s ∈ schemaStatements T, s ∉ ownStatements) (hbase : CreatesTables T) (c : Catalog) :
    Keeps Shape (fun _ => True) (initSchemaOnDB T db) c := by
  have hA : ∀ r, ¬MigrationCall r → (fun _ => True) r := fun _ _ => trivial
  have hother : ∀ s, s ∉ ownStatements → ∀ cat, Shape cat → Shape (baseline s cat) :=
    fun s _ _ h => shape_baseline h s
  refine (keeps_execStatements hA hother (not_own_schema hT) c).orFail
    (ensures_execStatements (not_own_schema hT) c trivial) fun c₁ ⟨_, hs₁⟩ => ?_
  have ht₁ := hasTables_of_settled hbase hs₁
  refine (keeps_execStatements hA hother (not_own_defaultConfig hT) c₁).orFail
    (ensures_execStatements (not_own_defaultConfig hT) c₁ trivial) fun c₂ ⟨hg₂, _⟩ => ?_
  refine (keeps_applyIndexMigrations hA (fun _ _ h => shape_execStmt_of_ne h (by decide)
    (by decide)) db).orFail (ensures_applyIndexMigrations c₂ (hg₂.tables ht₁))
    fun c₃ ⟨hg₃, hi₃⟩ => ?_
  refine (keeps_execTolerating trivial
    fun _ _ h => shape_execStmt_of_ne h (by decide) (by decide)).orFail
    (ensures_dropDependsOnFk c₃ (hg₃.tables (hg₂.tables ht₁))) fun c₄ ⟨hg₄, hn₄⟩ => ?_
  refine (keeps_exec_other hA hother (not_own_readyIssuesView hT) c₄).orFail
    (ensures_exec_other (not_own_readyIssuesView hT) c₄ trivial) fun c₅ ⟨hg₅, _⟩ => ?_
  exact (keeps_exec_other hA hother (not_own_blockedIssuesView hT) c₅).orFail
    (ensures_exec_other (not_own_blockedIssuesView hT) c₅ trivial) fun c₆ ⟨hg₆, _⟩ =>
    (keeps_shape_runMigrations (hg₆.tables (hg₅.tables (hg₄.tables (hg₃.tables (hg₂.tables ht₁)))))
      (hg₆.has _ (by simp [flags]) (hg₅.has _ (by simp [flags]) (hg₄.has _ (by simp [flags]) hi₃)))
      (hg₆.noFk (hg₅.noFk hn₄))).orFail_any fun _ => .ret _ _

/-- **The migrations' order shows in every catalog.** Clients running New, each with its own
Config, read-only or not, their calls interleaved in any order and any of them stopping for good
after any call, from a catalog of the shape, leave only catalogs of the shape: wisp_type never
stands without the issue_type index or beside fk_dep_depends_on, and spec_id never without
wisp_type. -/
theorem interleave_shape (env : List UInt8) (T : SchemaText)
    (hT : ∀ s ∈ schemaStatements T, s ∉ ownStatements) (hbase : CreatesTables T) (cat : Catalog)
    (hcat : Shape cat) (cfgs : List Config) (sched : List Nat) :
    Shape (interleave sched (cat, cfgs.map (new env T))).1 :=
  (interleave_new_keeps (fun cfg c => keeps_new (fun _ _ => trivial)
    (fun _ => keeps_shape_initSchemaOnDB hT hbase) cfg c) hcat cfgs sched).1

theorem interleave_shape_two_clients :
    Shape (interleave (List.replicate 17 [0, 1]).flatten
      (Catalog.empty, [⟨[], 0, [], [], [], false⟩, ⟨[], 0, [], [], [], true⟩].map
        (new [] sampleSchema))).1 :=
  interleave_shape [] sampleSchema sampleSchema_not_own sampleSchema_creates _ shape_empty _ _

/-! ## Migrated catalogs are fixed -/

theorem columnCount_pos {cat : Catalog} {column : String} {f : IssuesTable → Bool}
    (hf : column = "wisp_type" ∧ f = IssuesTable.wispType ∨
      column = "spec_id" ∧ f = IssuesTable.specId)
    (h : Has f cat) : 0 < columnCount cat (columnCountQuery column) := by
  obtain ⟨t, ht, hft⟩ := h
  rw [columnCount_of_issues ht hf, if_pos hft]
  exact Nat.one_pos

section Migrated
variable {c₀ : Catalog} (hm : Migrated c₀)
include hm

theorem execStmt_migrated {s : List UInt8} (hs : s ≠ createSpecIdIndex) :
    (execStmt c₀ s).2 = c₀ := by
  obtain ⟨ht, hw, hsp, hidx, hn⟩ := hm
  rcases ownStatements_cases s with rfl | rfl | rfl | rfl | rfl | ho
  · exact execStmt_of_has (.inl ⟨rfl, rfl⟩) hidx
  · exact execStmt_dropDependsOnFk_of_noFk hn
  · exact execStmt_of_has (.inr (.inl ⟨rfl, rfl⟩)) hw
  · exact execStmt_of_has (.inr (.inr (.inl ⟨rfl, rfl⟩))) hsp
  · exact absurd rfl hs
  · rw [execStmt_other ho]
    exact baseline_of_tables ht.1 ht.2

theorem keeps_migrated_new {env : List UInt8} {T : SchemaText}
    (hT : ∀ s ∈ schemaStatements T, s ∉ ownStatements) (cfg : Config) (c : Catalog) :
    Keeps (· = c₀) (¬MigrationCall ·) (new env T cfg) c :=
  have hA : ∀ r, ¬MigrationCall r → ¬MigrationCall r := fun _ => id
  have hfix : ∀ s, s ∉ ownStatements → ∀ cat, cat = c₀ → baseline s cat = c₀ := fun _ _ _ h => by
    subst h
    exact baseline_of_tables hm.1.1 hm.1.2
  keeps_new hA (fun db => keeps_initSchemaOnDB_any hT hA hfix
    (fun _ h => by subst h; exact execStmt_migrated hm (by decide))
    (fun _ h => by subst h; exact execStmt_migrated hm (by decide))
    fun c => (keeps_addColumn_found hA fun _ h => h ▸ columnCount_pos (.inl ⟨rfl, rfl⟩)
      hm.2.1).orFail_any fun c' => (keeps_addColumn_found hA fun _ h => h ▸
        columnCount_pos (.inr ⟨rfl, rfl⟩) hm.2.2.1).orFail_any fun _ => .ret _ _) cfg c

end Migrated

theorem migrated_specIdWithoutIndex : Migrated specIdWithoutIndex :=
  ⟨⟨rfl, rfl⟩, ⟨_, rfl, rfl⟩, ⟨_, rfl, rfl⟩, ⟨_, rfl, rfl⟩, rfl⟩

/-- **Migrated catalogs are fixed.** From a catalog with all of Migrated (the complete one, or
the one where spec_id stands without its index) clients running New, each with its own Config,
their calls interleaved in any order, never change the catalog, and the server answers none of
the migrations' ALTERs nor the CREATE INDEX on spec_id: each check finds its column, and every
other statement finds its object there. -/
theorem interleave_migrated_fixed (env : List UInt8) (T : SchemaText)
    (hT : ∀ s ∈ schemaStatements T, s ∉ ownStatements) (cat : Catalog) (hm : Migrated cat)
    (cfgs : List Config) (sched : List Nat) :
    (interleave sched (cat, cfgs.map (new env T))).1 = cat ∧
      ∀ r ∈ served sched (cat, cfgs.map (new env T)), ¬MigrationCall r :=
  interleave_new_keeps (keeps_migrated_new hm hT) rfl cfgs sched

theorem interleave_migrated_fixed_specIdWithoutIndex :
    (interleave (List.replicate 17 [0, 1]).flatten
      (specIdWithoutIndex, [⟨[], 0, [], [], [], false⟩, ⟨[], 0, [], [], [], false⟩].map
        (new [] sampleSchema))).1 = specIdWithoutIndex ∧
      ∀ r ∈ served (List.replicate 17 [0, 1]).flatten
        (specIdWithoutIndex, [⟨[], 0, [], [], [], false⟩, ⟨[], 0, [], [], [], false⟩].map
          (new [] sampleSchema)), ¬MigrationCall r :=
  interleave_migrated_fixed [] sampleSchema sampleSchema_not_own _ migrated_specIdWithoutIndex _ _

/-! ## When fair runs end complete -/

end MaudeStore.Evolution
