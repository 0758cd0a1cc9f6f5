import MaudeStore.Evolution

/-! The catalogs of a first run. From an empty database a run of initSchemaOnDB changes the
catalog only at the baseline script's statements and then at the migrations' own, one after the
other: firstRun T i is the catalog after the first i of them. A statement made from a catalog of
the run that is at least as far as its place finds there either the catalog just before its
place or its own effect already in place, so it leaves a catalog of the run. The place a client
has reached shows in what it has seen, so whatever the other clients do, no call leaves the
first run; and the first run itself passes through every one of its catalogs. -/
namespace MaudeStore.FirstRun
open GoString Splitter Dsn Errors Program Server Pipeline Concurrent Progress Evolution

/-- The statements that change the catalog along a first run from an empty database: the
baseline script's, then the migrations' own, in the order initSchemaOnDB makes them. -/
def changing (T : SchemaText) : List (List UInt8) :=
  submitted (splitStatements T.schema) ++ ownStatements

/-- The catalog after the first i of them. -/
def firstRun (T : SchemaText) (i : Nat) : Catalog :=
  ((changing T).take i).foldl (fun c s => (execStmt c s).2) Catalog.empty

def OnFirstRun (T : SchemaText) (c : Catalog) : Prop := ∃ i, c = firstRun T i

theorem createSpecIdIndex_mem : createSpecIdIndex ∈ ownStatements := by simp [ownStatements]

theorem ownStatements_eq_createSpecIdIndex {k : Nat}
    (h : ownStatements[k]? = some createSpecIdIndex) : k = 4 := by
  match k, h with
  | 4, _ => rfl
  | 0, h | 1, h | 2, h | 3, h => exact absurd (Option.some.inj h) (by decide)
  | _ + 5, h => exact absurd h (by simp [ownStatements])

/-! ## The run grows one statement at a time -/

section Run
variable {T : SchemaText}

theorem firstRun_succ {i : Nat} {s : List UInt8} (h : (changing T)[i]? = some s) :
    firstRun T (i + 1) = (execStmt (firstRun T i) s).2 := by
  rw [firstRun, firstRun, List.take_succ, h]
  simp only [Option.toList, List.foldl_append, List.foldl_cons, List.foldl_nil]

theorem firstRun_of_le {i : Nat} (h : (changing T).length ≤ i) :
    firstRun T i = firstRun T (changing T).length := by
  rw [firstRun, firstRun, List.take_of_length_le h, List.take_of_length_le (le_refl _)]

theorem firstRun_mono {i i' : Nat} (h : i ≤ i') : Grows (firstRun T i) (firstRun T i') := by
  induction h with
  | refl => exact .refl _
  | step _ ih =>
    rename_i m _
    refine ih.trans ?_
    cases hc : (changing T)[m]? with
    | some s =>
      rw [firstRun_succ hc]
      exact execStmt_grows _ _
    | none =>
      have hm := List.getElem?_eq_none_iff.1 hc
      rw [firstRun_of_le hm, firstRun_of_le (show _ ≤ m + 1 by omega)]
      exact .refl _

theorem firstRun_eq_of_grows {i j : Nat} (hij : i ≤ j)
    (hg : Grows (firstRun T j) (firstRun T i)) : firstRun T i = firstRun T j :=
  Grows.antisymm (firstRun_mono hij) hg

theorem changing_schema {j : Nat} (hj : j < (submitted (splitStatements T.schema)).length) :
    (changing T)[j]? = (submitted (splitStatements T.schema))[j]? :=
  List.getElem?_append_left hj

theorem changing_own (k : Nat) :
    (changing T)[(submitted (splitStatements T.schema)).length + k]? = ownStatements[k]? := by
  rw [changing, List.getElem?_append_right (by omega), Nat.add_sub_cancel_left]

theorem changing_own_zero :
    (changing T)[(submitted (splitStatements T.schema)).length]? = ownStatements[0]? := by
  rw [← changing_own 0, Nat.add_zero]

theorem firstRun_settled_of {i j : Nat} {s : List UInt8} (hc : (changing T)[j]? = some s)
    (hi : j < i) (ht : s ∈ ownStatements → HasTables (firstRun T j))
    (hs : s = createSpecIdIndex → Has IssuesTable.specId (firstRun T j)) :
    (execStmt (firstRun T i) s).2 = firstRun T i :=
  execStmt_settled ht hs (firstRun_succ hc ▸ firstRun_mono hi)

/-- A catalog of the run grown from the one before a place, where the statement of that place
changes nothing, is grown from the one after it too. -/
theorem firstRun_grows_of_settled {i j : Nat} {s : List UInt8} (hc : (changing T)[j]? = some s)
    (hg : Grows (firstRun T j) (firstRun T i))
    (hs : (execStmt (firstRun T i) s).2 = firstRun T i) :
    Grows (firstRun T (j + 1)) (firstRun T i) := by
  by_cases hij : j < i
  · exact firstRun_mono hij
  · rw [firstRun_succ hc, ← firstRun_eq_of_grows (Nat.le_of_not_lt hij) hg, hs]
    exact .refl _

end Run

/-! ## Where each statement finds its effect -/

section Places
variable {T : SchemaText} (hT : ∀ s ∈ schemaStatements T, s ∉ ownStatements)
include hT

theorem changing_not_own {j : Nat} {s : List UInt8} (hc : (changing T)[j]? = some s)
    (hj : j < (submitted (splitStatements T.schema)).length) : s ∉ ownStatements :=
  not_own_schema hT s (List.getElem?_mem ((changing_schema hj).symm.trans hc))

theorem firstRun_grows_of_tables {i : Nat} (ht : HasTables (firstRun T i)) :
    ∀ m ≤ (submitted (splitStatements T.schema)).length, Grows (firstRun T m) (firstRun T i)
  | 0, _ => grows_empty _
  | m + 1, hm => by
    obtain ⟨s, hc⟩ : ∃ s, (changing T)[m]? = some s :=
      ⟨_, List.getElem?_eq_getElem (by simp [changing]; omega)⟩
    refine firstRun_grows_of_settled hc (firstRun_grows_of_tables ht m (by omega)) ?_
    rw [execStmt_other (changing_not_own hT hc (by omega)), baseline_of_tables ht.1 ht.2]

theorem firstRun_grows_idx {i : Nat} (ht : HasTables (firstRun T i))
    (hi : Has IssuesTable.idxIssueType (firstRun T i)) :
    Grows (firstRun T ((submitted (splitStatements T.schema)).length + 1)) (firstRun T i) :=
  firstRun_grows_of_settled changing_own_zero (firstRun_grows_of_tables hT ht _ le_rfl)
    (execStmt_of_has (.inl ⟨rfl, rfl⟩) hi)

theorem firstRun_grows_noFk {i : Nat} (ht : HasTables (firstRun T i))
    (hi : Has IssuesTable.idxIssueType (firstRun T i)) (hn : NoFk (firstRun T i)) :
    Grows (firstRun T ((submitted (splitStatements T.schema)).length + 2)) (firstRun T i) :=
  firstRun_grows_of_settled (changing_own 1) (firstRun_grows_idx hT ht hi)
    (execStmt_dropDependsOnFk_of_noFk hn)

theorem firstRun_grows_wisp {i : Nat} (ht : HasTables (firstRun T i))
    (hi : Has IssuesTable.idxIssueType (firstRun T i)) (hn : NoFk (firstRun T i))
    (hw : Has IssuesTable.wispType (firstRun T i)) :
    Grows (firstRun T ((submitted (splitStatements T.schema)).length + 3)) (firstRun T i) :=
  firstRun_grows_of_settled (changing_own 2) (firstRun_grows_noFk hT ht hi hn)
    (execStmt_of_has (.inr (.inl ⟨rfl, rfl⟩)) hw)

/-- A column of issues is missing up to the place of its ALTER. -/
theorem not_column_firstRun {f : IssuesTable → Bool} {alter : List UInt8} {k : Nat}
    (hf : f = IssuesTable.wispType ∧ alter = addWispType ∨
      f = IssuesTable.specId ∧ alter = addSpecId)
    (h5 : k < 5) (hk : ∀ k' < k, ownStatements[k']? ≠ some alter) :
    ∀ j ≤ (submitted (splitStatements T.schema)).length + k, ¬Has f (firstRun T j)
  | 0, _, ⟨_, h, _⟩ => nomatch h
  | j + 1, hj, hs => by
    obtain ⟨s, hc⟩ : ∃ s, (changing T)[j]? = some s :=
      ⟨_, List.getElem?_eq_getElem (by simp [changing, ownStatements]; omega)⟩
    have hne : s ≠ alter := by
      rintro rfl
      by_cases hja : j < (submitted (splitStatements T.schema)).length
      · exact changing_not_own hT hc hja
          (by rcases hf with ⟨-, rfl⟩ | ⟨-, rfl⟩ <;> simp [ownStatements])
      obtain ⟨k', rfl⟩ : ∃ k', j = (submitted (splitStatements T.schema)).length + k' :=
        ⟨_, (Nat.add_sub_of_le (by omega)).symm⟩
      rw [changing_own] at hc
      exact hk k' (by omega) hc
    rw [firstRun_succ hc] at hs
    exact not_column_firstRun hf h5 hk j (by omega) (execStmt_column_of hf hne hs)

variable (hbase : CreatesTables T)
include hbase

theorem firstRun_tables {i : Nat} (h : (submitted (splitStatements T.schema)).length ≤ i) :
    HasTables (firstRun T i) := by
  refine (firstRun_mono h).tables (hasTables_of_settled hbase fun s hs => ?_)
  obtain ⟨j, hj, rfl⟩ := List.getElem_of_mem hs
  have hc := (changing_schema hj).trans (List.getElem?_eq_getElem hj)
  have ho := changing_not_own hT hc hj
  have := firstRun_settled_of hc hj (fun h => absurd h ho)
    fun h => absurd (h ▸ createSpecIdIndex_mem) ho
  simpa only [execStmt_other ho] using this

theorem firstRun_settled {i j : Nat} {s : List UInt8} (hc : (changing T)[j]? = some s)
    (hi : j < i) : (execStmt (firstRun T i) s).2 = firstRun T i := by
  by_cases hj : j < (submitted (splitStatements T.schema)).length
  · have ho := changing_not_own hT hc hj
    exact firstRun_settled_of hc hi (fun h => absurd h ho)
      fun h => absurd (h ▸ createSpecIdIndex_mem) ho
  refine firstRun_settled_of hc hi (fun _ => firstRun_tables hT hbase (by omega)) fun hs => ?_
  obtain ⟨k, rfl⟩ : ∃ k, j = (submitted (splitStatements T.schema)).length + k :=
    ⟨_, (Nat.add_sub_of_le (by omega)).symm⟩
  rw [changing_own, hs] at hc
  obtain rfl := ownStatements_eq_createSpecIdIndex hc
  rw [firstRun_succ (changing_own 3)]
  exact (tolerated_addSpecId (firstRun_tables hT hbase (by omega))).2

/-- **One step on the first run.** The statement of place j, made from a catalog of the run
grown from the one before that place, leaves a catalog of the run grown from the one after. -/
theorem onFirstRun_execStmt {j : Nat} {s : List UInt8} (hc : (changing T)[j]? = some s)
    {cat : Catalog} (hcat : OnFirstRun T cat) (hg : Grows (firstRun T j) cat) :
    OnFirstRun T (execStmt cat s).2 ∧ Grows (firstRun T (j + 1)) (execStmt cat s).2 := by
  obtain ⟨i, rfl⟩ := hcat
  by_cases hij : j < i
  · rw [firstRun_settled hT hbase hc hij]
    exact ⟨⟨i, rfl⟩, firstRun_mono hij⟩
  · rw [firstRun_eq_of_grows (Nat.le_of_not_lt hij) hg, ← firstRun_succ hc]
    exact ⟨⟨_, rfl⟩, .refl _⟩

/-- The CREATE INDEX on spec_id needs no place: without spec_id it changes nothing, and spec_id
stands only past the place of its ALTER. -/
theorem onFirstRun_createSpecIdIndex {cat : Catalog} (hcat : OnFirstRun T cat) :
    OnFirstRun T (execStmt cat createSpecIdIndex).2 := by
  by_cases hs : Has IssuesTable.specId cat
  · obtain ⟨i, rfl⟩ := hcat
    have hi : (submitted (splitStatements T.schema)).length + 4 ≤ i := by
      by_contra h
      exact not_column_firstRun (k := 3) hT (.inr ⟨rfl, rfl⟩) (by decide) (by decide) _ le_rfl
        ((firstRun_mono (by omega)).has _ (by simp [flags]) hs)
    exact (onFirstRun_execStmt hT hbase (changing_own 4) ⟨i, rfl⟩ (firstRun_mono hi)).1
  · rw [execStmt_createSpecIdIndex_of_not_spec hs]
    exact hcat

/-! ## Every client stays on the first run -/

theorem keeps_firstRun_execEach {db : Nat} {onErr : List UInt8 → Err → Err} :
    ∀ k j, j + k = (submitted (splitStatements T.schema)).length → ∀ c,
      Grows (firstRun T j) c → Keeps (OnFirstRun T) (fun _ => True)
        (execEach db onErr ((submitted (splitStatements T.schema)).drop j)) c
  | 0, j, h, _, _ => by
    rw [List.drop_of_length_le (by omega)]
    exact .ret _ _
  | k + 1, j, h, c, hg => by
    have hj : j < (submitted (splitStatements T.schema)).length := by omega
    rw [List.drop_eq_getElem_cons hj]
    have hc := (changing_schema hj).trans (List.getElem?_eq_getElem hj)
    have ho := changing_not_own hT hc hj
    exact keeps_orFail_exec trivial
      (fun cat hg' hcat => ⟨by rw [execStmt_other ho],
        onFirstRun_execStmt hT hbase hc hcat (hg.trans hg')⟩)
      fun c' => keeps_firstRun_execEach k (j + 1) (by omega) c'

/-- initSchemaOnDB keeps the catalog on the first run, from anywhere: what the client has seen
(both tables, then the issue_type index, the dropped key and wisp_type) places each of its
statements. -/
theorem keeps_firstRun_initSchemaOnDB (db : Nat) (c : Catalog) :
    Keeps (OnFirstRun T) (fun _ => True) (initSchemaOnDB T db) c := by
  have hA : ∀ r, ¬MigrationCall r → (fun _ => True) r := fun _ _ => trivial
  have hown : ∀ k s, ownStatements[k]? = some s → ∀ cat, OnFirstRun T cat →
      Grows (firstRun T ((submitted (splitStatements T.schema)).length + k)) cat →
      OnFirstRun T (execStmt cat s).2 :=
    fun k _ h _ hcat hg => (onFirstRun_execStmt hT hbase ((changing_own k).trans h) hcat hg).1
  have hschema : Keeps (OnFirstRun T) (fun _ => True)
      (execStatements db (fun stmt err => .wrap (bytes "failed to create schema: ")
        (bytes "\nStatement: " ++ truncateForError stmt) err) (splitStatements T.schema)) c := by
    rw [execStatements_eq_execEach, ← List.drop_zero (submitted _)]
    exact keeps_firstRun_execEach hT hbase _ 0 (Nat.zero_add _) c (grows_empty c)
  refine hschema.orFail (ensures_execStatements (not_own_schema hT) c trivial)
    fun c₁ ⟨_, hs₁⟩ => ?_
  have ht₁ := hasTables_of_settled hbase hs₁
  refine (keeps_execStatements_tables hA (not_own_defaultConfig hT) ht₁).orFail
    (ensures_execStatements (not_own_defaultConfig hT) c₁ trivial) fun c₂ ⟨hg₂, _⟩ => ?_
  have ht₂ := hg₂.tables ht₁
  refine (keeps_applyIndexMigrations hA (fun cat hg hcat => hown 0 _ rfl cat hcat ?_) db).orFail
    (ensures_applyIndexMigrations c₂ ht₂) fun c₃ ⟨hg₃, hi₃⟩ => ?_
  · obtain ⟨i, rfl⟩ := hcat
    exact firstRun_grows_of_tables hT (hg.tables ht₂) _ (Nat.add_zero _).le
  have ht₃ := hg₃.tables ht₂
  refine (keeps_execTolerating trivial fun cat hg hcat => hown 1 _ rfl cat hcat ?_).orFail
    (ensures_dropDependsOnFk c₃ ht₃) fun c₄ ⟨hg₄, hn₄⟩ => ?_
  · obtain ⟨i, rfl⟩ := hcat
    exact firstRun_grows_idx hT (hg.tables ht₃) (hg.has _ (by simp [flags]) hi₃)
  have ht₄ := hg₄.tables ht₃
  refine (keeps_exec_tables hA (not_own_readyIssuesView hT) ht₄).orFail
    (ensures_exec_other (not_own_readyIssuesView hT) c₄ trivial) fun c₅ ⟨hg₅, _⟩ => ?_
  refine (keeps_exec_tables hA (not_own_blockedIssuesView hT) (hg₅.tables ht₄)).orFail
    (ensures_exec_other (not_own_blockedIssuesView hT) c₅ trivial) fun c₆ ⟨hg₆, _⟩ => ?_
  have hg₆' := hg₅.trans hg₆
  have ht₆ := hg₆'.tables ht₄
  have hi₆ := (hg₄.trans hg₆').has _ (by simp [flags]) hi₃
  have hn₆ := hg₆'.noFk hn₄
  refine (((keeps_addColumn hA trivial (fun cat hg hcat => hown 2 _ rfl cat hcat ?_)
      fun _ => .ret _ _).orFail (ensures_migrateWispTypeColumn c₆ ht₆) fun c₇ ⟨hg₇, hw₇⟩ =>
    (keeps_addColumn hA trivial (fun cat hg hcat => hown 3 _ rfl cat hcat ?_) fun _ =>
      (keeps_execTolerating trivial fun _ _ hcat =>
        onFirstRun_createSpecIdIndex hT hbase hcat).orFail_any fun _ => .ret _ _).orFail_any
      fun _ => .ret _ _ : Keeps _ _ (runMigrations db) c₆)).orFail_any fun _ => .ret _ _
  · obtain ⟨i, rfl⟩ := hcat
    exact firstRun_grows_noFk hT (hg.tables ht₆) (hg.has _ (by simp [flags]) hi₆) (hg.noFk hn₆)
  · obtain ⟨i, rfl⟩ := hcat
    have hg' := hg₇.trans hg
    exact firstRun_grows_wisp hT (hg'.tables ht₆) (hg'.has _ (by simp [flags]) hi₆)
      (hg'.noFk hn₆) (hg.has _ (by simp [flags]) hw₇)

end Places

/-! ## The first run passes through each of them -/

/-- Run from c, p passes through x: its catalog after some number of its calls is x. -/
def Passes {α : Type} (p : Prog α) (c x : Catalog) : Prop := ∃ n, serveFor n p c = x

section Passes
variable {α β : Type}

theorem passes_self (p : Prog α) (c : Catalog) : Passes p c c := ⟨0, rfl⟩

theorem passes_call {r : Req} {k : r.Resp → Prog α} {c x : Catalog}
    (h : Passes (k (answer c r).1) (answer c r).2 x) : Passes (.call r k) c x :=
  let ⟨n, hn⟩ := h
  ⟨n + 1, hn⟩

theorem passes_exec {db : Nat} {s : List UInt8} {c : Catalog} :
    Passes (exec db s) c (execStmt c s).2 :=
  passes_call (passes_self _ _)

theorem serve_call {r : Req} {k : r.Resp → Prog α} {c : Catalog} :
    serve (.call r k) c = serve (k (answer c r).1) (answer c r).2 := rfl

theorem serve_exec {db : Nat} {s : List UInt8} {c : Catalog} :
    serve (exec db s) c = execStmt c s := rfl

theorem serve_bind (q : Prog α) (f : α → Prog β) (c : Catalog) :
    serve (q >>= f) c = serve (f (serve q c).1) (serve q c).2 := by
  induction q generalizing c with
  | ret a => rfl
  | call r k ih => exact ih _ _

theorem passes_bind_left {q : Prog α} {f : α → Prog β} {c x : Catalog} (h : Passes q c x) :
    Passes (q >>= f) c x := by
  induction q generalizing c with
  | ret a =>
    obtain ⟨n, rfl⟩ := h
    cases n <;> exact passes_self _ _
  | call r k ih =>
    obtain ⟨_ | n, rfl⟩ := h
    · exact passes_self _ _
    · exact passes_call (ih _ ⟨n, rfl⟩)

theorem passes_bind_right {q : Prog α} {f : α → Prog β} {c x : Catalog}
    (h : Passes (f (serve q c).1) (serve q c).2 x) : Passes (q >>= f) c x := by
  induction q generalizing c with
  | ret a => exact h
  | call r k ih => exact passes_call (ih _ h)

theorem passes_orFail_left {step rest : Prog (Option Err)} {wrap : Err → Err} {c x : Catalog}
    (h : Passes step c x) : Passes (orFail step wrap rest) c x :=
  passes_bind_left h

theorem serve_orFail_none {step rest : Prog (Option Err)} {wrap : Err → Err} {c c' : Catalog}
    (h : serve step c = (none, c')) : serve (orFail step wrap rest) c = serve rest c' := by
  rw [orFail, serve_bind, h]

theorem passes_orFail_none {step rest : Prog (Option Err)} {wrap : Err → Err}
    {c c' x : Catalog} (h : serve step c = (none, c')) (hp : Passes rest c' x) :
    Passes (orFail step wrap rest) c x :=
  passes_bind_right (by rw [h]; exact hp)

end Passes

theorem serve_execTolerating {db : Nat} {s : List UInt8} {needles : List String} {c : Catalog}
    (h : Tolerated needles (execStmt c s).1) :
    serve (execTolerating db s needles) c = (none, (execStmt c s).2) := by
  simp only [execTolerating, exec, Prog.call_bind, serve, answer_exec, Prog.ret_bind]
  revert h
  cases (execStmt c s).1 with
  | none => intro; rfl
  | some e =>
    intro h
    simp only [Tolerated] at h
    simp [h, serve]

theorem serve_applyIndexMigrations {db : Nat} {c : Catalog} (ht : HasTables c) :
    serve (applyIndexMigrations db indexMigrations) c =
      (none, (execStmt c createIssueTypeIndex).2) :=
  serve_orFail_none (serve_execTolerating (tolerated_createIssueTypeIndex ht).1)

theorem serve_dropDependsOnFk {db : Nat} {c : Catalog} (ht : HasTables c) :
    serve (execTolerating db dropDependsOnFk
      ["can't drop", "doesn't exist", "check that it exists", "was not found"]) c =
      (none, (execStmt c dropDependsOnFk).2) :=
  serve_execTolerating (tolerated_dropDependsOnFk ht).1

theorem serve_execEach_tables {db : Nat} {onErr : List UInt8 → Err → Err} :
    ∀ {ss : List (List UInt8)}, (∀ s ∈ ss, s ∉ ownStatements) → ∀ {c : Catalog}, HasTables c →
      serve (execEach db onErr ss) c = (none, c)
  | [], _, _, _ => rfl
  | s :: _, h, c, ht => by
    have he : execStmt c s = (none, c) := by
      rw [execStmt_other (h s (.head _)), baseline_of_tables ht.1 ht.2]
    rw [execEach, serve_orFail_none (serve_exec.trans he)]
    exact serve_execEach_tables (fun s' hs' => h s' (.tail _ hs')) ht

/-- The check-then-add, from a catalog with issues but not the column: the count query finds
none, the ALTER runs and rest goes on from its catalog. -/
theorem addColumn_absent {column : String} {alter : List UInt8} {rest : Prog (Option Err)}
    {db : Nat} {c : Catalog} {f : IssuesTable → Bool}
    (hf : column = "wisp_type" ∧ f = IssuesTable.wispType ∧ alter = addWispType ∨
      column = "spec_id" ∧ f = IssuesTable.specId ∧ alter = addSpecId)
    (ht : HasTables c) (hn : ¬Has f c) :
    serve (addColumn column alter rest db) c = serve rest (execStmt c alter).2 ∧
      ∀ x, Passes rest (execStmt c alter).2 x → Passes (addColumn column alter rest db) c x := by
  have htol : Tolerated ["duplicate column"] (execStmt c alter).1 := by
    rcases hf with ⟨-, -, rfl⟩ | ⟨-, -, rfl⟩
    exacts [(tolerated_addWispType ht).1, (tolerated_addSpecId ht).1]
  obtain ⟨t, hti⟩ := tables_issues ht
  have h0 : columnCount c (columnCountQuery column) = 0 := by
    rw [columnCount_of_issues hti (hf.imp (And.imp_right And.left) (And.imp_right And.left)),
      if_neg fun h => hn ⟨t, hti, h⟩]
  simp only [addColumn, queryCount, exec, Prog.call_bind, Prog.ret_bind]
  refine ⟨?_, fun x hx => passes_call ?_⟩ <;>
    simp only [serve_call, answer_queryCount, h0, gt_iff_lt, lt_self_iff_false, if_false]
  · simp only [answer_exec]
    generalize execStmt c alter = a at htol ⊢
    rcases a with ⟨_ | e, c'⟩
    · rfl
    · simp only [Tolerated] at htol
      simp only [htol, if_true]
  · refine passes_call ?_
    simp only [answer_exec]
    generalize execStmt c alter = a at htol hx ⊢
    rcases a with ⟨_ | e, c'⟩
    · exact hx
    · simp only [Tolerated] at htol
      simpa only [htol, if_true] using hx

section Passes
variable {T : SchemaText} (hT : ∀ s ∈ schemaStatements T, s ∉ ownStatements)
include hT

theorem firstRun_execEach {db : Nat} {onErr : List UInt8 → Err → Err} :
    ∀ k j, j + k = (submitted (splitStatements T.schema)).length →
      serve (execEach db onErr ((submitted (splitStatements T.schema)).drop j)) (firstRun T j) =
        (none, firstRun T (submitted (splitStatements T.schema)).length) ∧
      ∀ m, j ≤ m → m ≤ (submitted (splitStatements T.schema)).length →
        Passes (execEach db onErr ((submitted (splitStatements T.schema)).drop j)) (firstRun T j)
          (firstRun T m)
  | 0, j, h => by
    obtain rfl : j = (submitted (splitStatements T.schema)).length := by omega
    rw [List.drop_of_length_le le_rfl]
    exact ⟨rfl, fun m h₁ h₂ => by rw [Nat.le_antisymm h₂ h₁]; exact passes_self _ _⟩
  | k + 1, j, h => by
    have hj : j < (submitted (splitStatements T.schema)).length := by omega
    rw [List.drop_eq_getElem_cons hj]
    have hc := (changing_schema hj).trans (List.getElem?_eq_getElem hj)
    have ho := changing_not_own hT hc hj
    have he : serve (exec db (submitted (splitStatements T.schema))[j]) (firstRun T j) =
        (none, firstRun T (j + 1)) := by
      rw [serve_exec, firstRun_succ hc, execStmt_other ho]
    obtain ⟨hserve, hpass⟩ := firstRun_execEach k (j + 1) (by omega)
    refine ⟨(serve_orFail_none he).trans hserve, fun m h₁ h₂ => ?_⟩
    rcases Nat.eq_or_lt_of_le h₁ with rfl | h₁
    · exact passes_self _ _
    · exact passes_orFail_none he (hpass m h₁ h₂)

/-- The first run, from an empty database, passes through each of its catalogs: the baseline
script's statements one by one, the config script and the views changing nothing, the index and
the dropped key, then each column found missing and added, and the index on spec_id. -/
theorem firstRun_passes (hbase : CreatesTables T) (i : Nat) :
    Passes (initSchemaOnDB T 0) Catalog.empty (firstRun T i) := by
  rw [initSchemaOnDB, execStatements_eq_execEach, execStatements_eq_execEach]
  obtain ⟨h₀, hp₀⟩ := firstRun_execEach hT (T := T) _ 0 (Nat.zero_add _)
  rw [List.drop_zero] at h₀ hp₀
  set a := (submitted (splitStatements T.schema)).length with ha
  have ht : ∀ {j}, a ≤ j → HasTables (firstRun T j) := firstRun_tables hT hbase
  have e₁ : firstRun T (a + 1) = (execStmt (firstRun T a) createIssueTypeIndex).2 :=
    firstRun_succ changing_own_zero
  have e₂ : firstRun T (a + 2) = (execStmt (firstRun T (a + 1)) dropDependsOnFk).2 :=
    firstRun_succ (changing_own 1)
  have e₃ : firstRun T (a + 3) = (execStmt (firstRun T (a + 2)) addWispType).2 :=
    firstRun_succ (changing_own 2)
  have e₄ : firstRun T (a + 4) = (execStmt (firstRun T (a + 3)) addSpecId).2 :=
    firstRun_succ (changing_own 3)
  have e₅ : firstRun T (a + 5) = (execStmt (firstRun T (a + 4)) createSpecIdIndex).2 :=
    firstRun_succ (changing_own 4)
  rcases Nat.lt_or_ge a i with hi | hi
  swap
  · exact passes_orFail_left (hp₀ i (Nat.zero_le _) hi)
  refine passes_orFail_none h₀ (passes_orFail_none
    (serve_execEach_tables (not_own_defaultConfig hT) (ht le_rfl)) ?_)
  have h₁ : serve (applyIndexMigrations 0 indexMigrations) (firstRun T a) =
      (none, firstRun T (a + 1)) := by
    rw [e₁]
    exact serve_applyIndexMigrations (ht le_rfl)
  have h₂ : serve (execTolerating 0 dropDependsOnFk
      ["can't drop", "doesn't exist", "check that it exists", "was not found"])
      (firstRun T (a + 1)) = (none, firstRun T (a + 2)) := by
    rw [e₂]
    exact serve_dropDependsOnFk (ht (by omega))
  have hview : ∀ {s}, s ∉ ownStatements →
      serve (exec 0 s) (firstRun T (a + 2)) = (none, firstRun T (a + 2)) := fun hs => by
    rw [serve_exec, execStmt_other hs, baseline_of_tables (ht (by omega)).1 (ht (by omega)).2]
  obtain ⟨m, rfl⟩ : ∃ m, i = a + 1 + m := ⟨i - (a + 1), by omega⟩
  rcases m with _ | _ | m
  · rw [Nat.add_zero, e₁]
    exact passes_orFail_left (passes_orFail_left (passes_bind_left passes_exec))
  · rw [show a + 1 + (0 + 1) = a + 2 by omega, e₂]
    exact passes_orFail_none h₁ (passes_orFail_left (passes_bind_left passes_exec))
  refine passes_orFail_none h₁ (passes_orFail_none h₂ (passes_orFail_none
    (hview (not_own_readyIssuesView hT)) (passes_orFail_none
      (hview (not_own_blockedIssuesView hT)) (passes_orFail_left ?_))))
  obtain ⟨hsw, hpw⟩ := @addColumn_absent "wisp_type" addWispType (pure none) 0 _ _
    (.inl ⟨rfl, rfl, rfl⟩) (ht (j := a + 2) (by omega))
    (not_column_firstRun hT (.inl ⟨rfl, rfl⟩) (by decide) (by decide) _ le_rfl)
  obtain ⟨hss, hps⟩ := @addColumn_absent "spec_id" addSpecId
    (orFail (execTolerating 0 createSpecIdIndex ["duplicate", "already exists"])
      (wrapf "creating spec_id index: ") (pure none)) 0 _ _
    (.inr ⟨rfl, rfl, rfl⟩) (ht (j := a + 3) (by omega))
    (not_column_firstRun hT (.inr ⟨rfl, rfl⟩) (by decide) (by decide) _ le_rfl)
  rw [← e₃] at hsw hpw
  rw [← e₄] at hps
  rcases m with _ | _ | m
  · rw [show a + 1 + (0 + 1 + 1) = a + 3 by omega]
    exact passes_orFail_left (hpw _ (passes_self _ _))
  · rw [show a + 1 + (0 + 1 + 1 + 1) = a + 4 by omega]
    exact passes_orFail_none hsw (passes_orFail_left (hps _ (passes_self _ _)))
  · have hlen : (changing T).length = a + 5 := by simp [changing, ownStatements, ha]
    rw [firstRun_of_le (show (changing T).length ≤ a + 1 + (m + 1 + 1 + 1 + 1) by omega), hlen,
      e₅]
    exact passes_orFail_none hsw (passes_orFail_left (hps _ (passes_orFail_left
      (passes_bind_left passes_exec))))

end Passes

end MaudeStore.FirstRun
