import MaudeStore.FirstRun

/-! Crashes and restarts, with the server to one client at a time. Runs of initSchemaOnDB, each
stopped after any number of its calls, leave exactly the catalogs that one uninterrupted run
passes through; from each of them a restart of New ends complete, except from the one where
spec_id stands without its index, which it leaves as it is. A client alone in an interleaving
runs as at the server alone, so the invariants of the interleavings carry over. -/
namespace MaudeStore.Recovery
open GoString Splitter Dsn Errors Program Server Pipeline Concurrent Progress Evolution FirstRun

/-- **Crashes and restarts never leave the first run.** When no statement of the schema text is
one of the migrations' own and the baseline script creates both tables: the catalogs that runs of
initSchemaOnDB leave, one after another from an empty database and each stopped after any number
of its calls, are exactly those that one uninterrupted run passes through; and from any of them,
clients running New, each with its own Config, their calls interleaved in any order, leave only
such catalogs too. -/
theorem reachable_iff_firstRun (env : List UInt8) (T : SchemaText)
    (hT : ∀ s ∈ schemaStatements T, s ∉ ownStatements) (hbase : CreatesTables T) :
    (∀ c, Reachable T c ↔ ∃ n, c = serveFor n (initSchemaOnDB T 0) Catalog.empty) ∧
      ∀ (n : Nat) (cfgs : List Config) (sched : List Nat), ∃ m,
        (interleave sched (serveFor n (initSchemaOnDB T 0) Catalog.empty,
          cfgs.map (new env T))).1 = serveFor m (initSchemaOnDB T 0) Catalog.empty := by
  have hinit := keeps_firstRun_initSchemaOnDB hT hbase
  have hpass : ∀ c, OnFirstRun T c → ∃ n, c = serveFor n (initSchemaOnDB T 0) Catalog.empty :=
    fun _ ⟨i, hi⟩ => let ⟨n, hn⟩ := firstRun_passes hT hbase i; ⟨n, hi.trans hn.symm⟩
  refine ⟨fun c => ⟨fun h => hpass c ?_, fun ⟨n, e⟩ => e ▸ .run n .empty⟩,
    fun n cfgs sched => hpass _ (interleave_new_keeps (keeps_new (fun _ _ => trivial) hinit)
      (serveFor_keeps n (hinit 0 _) (.refl _) ⟨0, rfl⟩) cfgs sched).1⟩
  induction h with
  | empty => exact ⟨0, rfl⟩
  | run n _ ih => exact serveFor_keeps n (hinit 0 _) (.refl _) ih

theorem reachable_iff_firstRun_sampleSchema :
    (∀ c, Reachable sampleSchema c ↔
      ∃ n, c = serveFor n (initSchemaOnDB sampleSchema 0) Catalog.empty) ∧
      ∀ (n : Nat) (cfgs : List Config) (sched : List Nat), ∃ m,
        (interleave sched (serveFor n (initSchemaOnDB sampleSchema 0) Catalog.empty,
          cfgs.map (new [] sampleSchema))).1 =
          serveFor m (initSchemaOnDB sampleSchema 0) Catalog.empty :=
  reachable_iff_firstRun [] sampleSchema sampleSchema_not_own sampleSchema_creates

end MaudeStore.Recovery
