import MaudeStore.Server
import MaudeStore.Pipeline

/-! Several clients at one server, the calls of their programs reaching it one at a time in any
order. The catalog only grows under the clients' statements, so what a client has seen stays
true; Safe says a program copes with whatever the others did meanwhile. From a catalog with
both tables where spec_id never stands without its index, every client's New returns its store
and the catalog ends with every object the migrations make: a client that adds spec_id creates
the index with its very next call. -/
namespace MaudeStore.Concurrent
open GoString Splitter Dsn Errors Program Server Pipeline

/-! ## What stays once it holds -/

/-- The columns and indexes the migrations make. -/
def flags : List (IssuesTable → Bool) :=
  [IssuesTable.wispType, IssuesTable.specId, IssuesTable.idxIssueType, IssuesTable.idxSpecId]

def Has (f : IssuesTable → Bool) (c : Catalog) : Prop := ∃ t, c.issues = some t ∧ f t = true

def HasTables (c : Catalog) : Prop := c.issues.isSome ∧ c.dependencies.isSome

def NoFk (c : Catalog) : Prop := c.dependencies = some false

/-- c' keeps what c has: each table, each column and index of the migrations, and the foreign
key's absence. -/
structure Grows (c c' : Catalog) : Prop where
  issues : c.issues.isSome → c'.issues.isSome
  dependencies : c.dependencies.isSome → c'.dependencies.isSome
  has : ∀ f ∈ flags, Has f c → Has f c'
  noFk : NoFk c → NoFk c'

theorem Grows.refl (c : Catalog) : Grows c c := ⟨id, id, fun _ _ => id, id⟩

theorem Grows.trans {c₁ c₂ c₃ : Catalog} (h₁ : Grows c₁ c₂) (h₂ : Grows c₂ c₃) : Grows c₁ c₃ :=
  ⟨h₂.issues ∘ h₁.issues, h₂.dependencies ∘ h₁.dependencies,
    fun f hf => h₂.has f hf ∘ h₁.has f hf, h₂.noFk ∘ h₁.noFk⟩

theorem Grows.tables {c c' : Catalog} (h : Grows c c') (ht : HasTables c) : HasTables c' :=
  ⟨h.issues ht.1, h.dependencies ht.2⟩

theorem has_iff {c : Catalog} {t : IssuesTable} (e : c.issues = some t) {f : IssuesTable → Bool} :
    Has f c ↔ f t = true :=
  ⟨fun ⟨_, e', h⟩ => Option.some.inj (e.symm.trans e') ▸ h, fun h => ⟨t, e, h⟩⟩

theorem Grows.antisymm {c c' : Catalog} (h : Grows c c') (h' : Grows c' c) : c = c' := by
  obtain ⟨issues, deps⟩ := c
  obtain ⟨issues', deps'⟩ := c'
  congr 1
  · cases issues <;> cases issues'
    · rfl
    · exact absurd (h'.issues rfl) nofun
    · exact absurd (h.issues rfl) nofun
    · rename_i t t'
      have hb : ∀ f ∈ flags, f t = f t' := fun f hf => Bool.eq_iff_iff.2
        ((has_iff rfl).symm.trans (⟨h.has f hf, h'.has f hf⟩ : Has f _ ↔ Has f _) |>.trans
          (has_iff rfl))
      obtain ⟨w, s, i, j, _⟩ := t
      obtain ⟨w', s', i', j', _⟩ := t'
      simp only [flags, List.mem_cons, List.mem_singleton, forall_eq_or_imp, forall_eq,
        List.not_mem_nil, false_imp_iff, implies_true, and_true] at hb
      obtain ⟨rfl, rfl, rfl, rfl⟩ := hb
      rfl
  · cases deps <;> cases deps'
    · rfl
    · exact absurd (h'.dependencies rfl) nofun
    · exact absurd (h.dependencies rfl) nofun
    · rename_i d d'
      have hn : NoFk ⟨issues, some d⟩ ↔ NoFk ⟨issues', some d'⟩ := ⟨h.noFk, h'.noFk⟩
      cases d <;> cases d' <;> simp_all [NoFk]

theorem grows_empty (c : Catalog) : Grows Catalog.empty c :=
  ⟨nofun, nofun, fun _ _ ⟨_, h, _⟩ => (nomatch h), nofun⟩

/-- A fact that, once it holds, holds in every catalog grown from there. -/
def Stable (S : Catalog → Prop) : Prop := ∀ ⦃c c' : Catalog⦄, Grows c c' → S c → S c'

theorem stable_has {f : IssuesTable → Bool} (hf : f ∈ flags) : Stable (Has f) :=
  fun _ _ h => h.has f hf

theorem stable_settled (s : List UInt8) : Stable fun c => baseline s c = c := fun _ _ hg h =>
  baseline_eq_self.2 ⟨fun hs => hg.issues ((baseline_eq_self.1 h).1 hs),
    fun hs => hg.dependencies ((baseline_eq_self.1 h).2 hs)⟩

/-! ## The server's answers only add -/

theorem onIssues_grows {f : IssuesTable → Option Err × IssuesTable}
    (hf : ∀ t, ∀ g ∈ flags, g t = true → g (f t).2 = true) (cat : Catalog) :
    Grows cat (onIssues cat f).2 := by
  unfold onIssues
  split
  · exact .refl cat
  · rename_i t ht
    refine ⟨fun _ => rfl, id, fun g hg ⟨t', ht', hgt⟩ => ?_, id⟩
    obtain rfl : t = t' := Option.some.inj (ht.symm.trans ht')
    exact ⟨_, rfl, hf t g hg hgt⟩

theorem mem_flags {g : IssuesTable → Bool} : g ∈ flags ↔ g = IssuesTable.wispType ∨
    g = IssuesTable.specId ∨ g = IssuesTable.idxIssueType ∨ g = IssuesTable.idxSpecId := by
  simp [flags]

theorem execStmt_grows (cat : Catalog) (s : List UInt8) : Grows cat (execStmt cat s).2 := by
  rcases ownStatements_cases s with rfl | rfl | rfl | rfl | rfl | hs
  any_goals
    simp only [execStmt_createIssueTypeIndex, execStmt_addWispType, execStmt_addSpecId,
      execStmt_createSpecIdIndex]
    exact onIssues_grows (fun t g hg h => by
      rcases mem_flags.1 hg with rfl | rfl | rfl | rfl <;> split_ifs <;> exact h) cat
  · rw [execStmt_dropDependsOnFk]
    split
    · exact .refl cat
    · exact ⟨id, fun _ => rfl, fun _ _ => id, fun _ => rfl⟩
    · exact .refl cat
  · rw [execStmt_other hs]
    rcases baseline_cases s cat with h | ⟨hi, b, h⟩ | ⟨hd, fk, h⟩ <;> rw [h]
    · exact .refl cat
    · exact ⟨fun _ => rfl, id, fun _ _ ⟨_, ht, _⟩ => by simp [hi] at ht, id⟩
    · exact ⟨id, fun _ => rfl, fun _ _ => id, fun h => by simp [NoFk, hd] at h⟩

theorem answer_grows (cat : Catalog) (r : Req) : Grows cat (answer cat r).2 := by
  cases r with
  | exec _ s => exact execStmt_grows cat s
  | _ => exact .refl cat

/-! ## What each of the migrations' statements leaves -/

/-- An error execTolerating or addColumn takes for nil, or none. -/
def Tolerated (needles : List String) : Option Err → Prop
  | none => True
  | some e => mentions e needles = true

theorem mentions_duplicateKey_type :
    mentions (duplicateKey "idx_issues_issue_type") ["duplicate", "already exists"] = true := by
  decide

theorem mentions_duplicateKey_spec :
    mentions (duplicateKey "idx_issues_spec_id") ["duplicate", "already exists"] = true := by
  decide

theorem mentions_cantDropFk :
    mentions cantDropFk ["can't drop", "doesn't exist", "check that it exists", "was not found"] =
      true := by
  decide

theorem mentions_duplicateColumn (column : String) (h : column = "wisp_type" ∨ column = "spec_id") :
    mentions (duplicateColumn column) ["duplicate column"] = true := by
  rcases h with rfl | rfl <;> decide

theorem tables_issues {cat : Catalog} (h : HasTables cat) : ∃ t, cat.issues = some t :=
  Option.isSome_iff_exists.1 h.1

theorem tolerated_createIssueTypeIndex {cat : Catalog} (ht : HasTables cat) :
    Tolerated ["duplicate", "already exists"] (execStmt cat createIssueTypeIndex).1 ∧
      Has IssuesTable.idxIssueType (execStmt cat createIssueTypeIndex).2 := by
  obtain ⟨t, hti⟩ := tables_issues ht
  rw [execStmt_createIssueTypeIndex, onIssues, hti]
  by_cases h : t.idxIssueType <;> simp [h, Tolerated, Has, mentions_duplicateKey_type]

theorem tolerated_dropDependsOnFk {cat : Catalog} (ht : HasTables cat) :
    Tolerated ["can't drop", "doesn't exist", "check that it exists", "was not found"]
      (execStmt cat dropDependsOnFk).1 ∧ NoFk (execStmt cat dropDependsOnFk).2 := by
  obtain ⟨fk, hfk⟩ := Option.isSome_iff_exists.1 ht.2
  rw [execStmt_dropDependsOnFk, hfk]
  cases fk <;> simp [hfk, Tolerated, NoFk, mentions_cantDropFk]

theorem tolerated_addWispType {cat : Catalog} (ht : HasTables cat) :
    Tolerated ["duplicate column"] (execStmt cat addWispType).1 ∧
      Has IssuesTable.wispType (execStmt cat addWispType).2 := by
  obtain ⟨t, hti⟩ := tables_issues ht
  rw [execStmt_addWispType, onIssues, hti]
  by_cases h : t.wispType <;> simp [h, Tolerated, Has, mentions_duplicateColumn]

theorem tolerated_addSpecId {cat : Catalog} (ht : HasTables cat) :
    Tolerated ["duplicate column"] (execStmt cat addSpecId).1 ∧
      Has IssuesTable.specId (execStmt cat addSpecId).2 := by
  obtain ⟨t, hti⟩ := tables_issues ht
  rw [execStmt_addSpecId, onIssues, hti]
  by_cases h : t.specId <;> simp [h, Tolerated, Has, mentions_duplicateColumn]

theorem tolerated_createSpecIdIndex {cat : Catalog} (hs : Has IssuesTable.specId cat) :
    Tolerated ["duplicate", "already exists"] (execStmt cat createSpecIdIndex).1 ∧
      Has IssuesTable.idxSpecId (execStmt cat createSpecIdIndex).2 := by
  obtain ⟨t, hti, hts⟩ := hs
  rw [execStmt_createSpecIdIndex, onIssues, hti]
  by_cases h : t.idxSpecId <;> simp [h, hts, Tolerated, Has, mentions_duplicateKey_spec]

theorem onIssues_same {cat : Catalog} {t : IssuesTable} (ht : cat.issues = some t)
    {f : IssuesTable → Option Err × IssuesTable} (hf : (f t).2 = t) :
    (onIssues cat f).2 = cat := by
  obtain ⟨_, _⟩ := cat
  cases ht
  simp [onIssues, hf]

theorem execStmt_of_has {c : Catalog} {s : List UInt8} {f : IssuesTable → Bool}
    (hs : s = createIssueTypeIndex ∧ f = IssuesTable.idxIssueType ∨
      s = addWispType ∧ f = IssuesTable.wispType ∨ s = addSpecId ∧ f = IssuesTable.specId ∨
      s = createSpecIdIndex ∧ f = IssuesTable.idxSpecId) (h : Has f c) : (execStmt c s).2 = c := by
  obtain ⟨t, hti, hft⟩ := h
  rcases hs with ⟨rfl, rfl⟩ | ⟨rfl, rfl⟩ | ⟨rfl, rfl⟩ | ⟨rfl, rfl⟩
  · rw [execStmt_createIssueTypeIndex]
    exact onIssues_same hti (by simp [hft])
  · rw [execStmt_addWispType]
    exact onIssues_same hti (by simp [hft])
  · rw [execStmt_addSpecId]
    exact onIssues_same hti (by simp [hft])
  · rw [execStmt_createSpecIdIndex]
    exact onIssues_same hti (by simp [hft])

theorem execStmt_dropDependsOnFk_of_noFk {c : Catalog} (h : NoFk c) :
    (execStmt c dropDependsOnFk).2 = c := by
  rw [execStmt_dropDependsOnFk, h]

theorem execStmt_createSpecIdIndex_of_not_spec {c : Catalog} (h : ¬Has IssuesTable.specId c) :
    (execStmt c createSpecIdIndex).2 = c := by
  rw [execStmt_createSpecIdIndex]
  cases hti : c.issues with
  | none => simp [onIssues, hti]
  | some t =>
    have hs : t.specId = false := by simpa [Has, hti] using h
    have hi : t.idxSpecId = false := by
      cases hj : t.idxSpecId
      · rfl
      · exact absurd (t.spec_of_idx hj) (by simp [hs])
    exact onIssues_same hti (by simp [hs, hi])

/-- Once a statement has run on a catalog with both tables (spec_id there, for its index), its
effect is in place in every catalog grown from there, and running it again changes nothing. -/
theorem execStmt_settled {c₀ c : Catalog} {s : List UInt8}
    (ht : s ∈ ownStatements → HasTables c₀)
    (hs : s = createSpecIdIndex → Has IssuesTable.specId c₀)
    (hg : Grows (execStmt c₀ s).2 c) : (execStmt c s).2 = c := by
  have own : ∀ {s'}, s' ∈ ownStatements → s = s' → HasTables c₀ := fun h e => ht (e ▸ h)
  rcases ownStatements_cases s with rfl | rfl | rfl | rfl | rfl | ho
  · exact execStmt_of_has (.inl ⟨rfl, rfl⟩) (hg.has _ (by simp [flags])
      (tolerated_createIssueTypeIndex (own (by simp [ownStatements]) rfl)).2)
  · exact execStmt_dropDependsOnFk_of_noFk
      (hg.noFk (tolerated_dropDependsOnFk (own (by simp [ownStatements]) rfl)).2)
  · exact execStmt_of_has (.inr (.inl ⟨rfl, rfl⟩)) (hg.has _ (by simp [flags])
      (tolerated_addWispType (own (by simp [ownStatements]) rfl)).2)
  · exact execStmt_of_has (.inr (.inr (.inl ⟨rfl, rfl⟩))) (hg.has _ (by simp [flags])
      (tolerated_addSpecId (own (by simp [ownStatements]) rfl)).2)
  · exact execStmt_of_has (.inr (.inr (.inr ⟨rfl, rfl⟩))) (hg.has _ (by simp [flags])
      (tolerated_createSpecIdIndex (hs rfl)).2)
  · rw [execStmt_other ho] at hg ⊢
    exact stable_settled s hg (baseline_baseline s c₀)

theorem onIssues_flag_of {f : IssuesTable → Bool} {g : IssuesTable → Option Err × IssuesTable}
    (hg : ∀ t, f (g t).2 = f t) {cat : Catalog} (hs : Has f (onIssues cat g).2) : Has f cat := by
  unfold onIssues at hs
  split at hs
  · exact hs
  · rename_i t hti
    obtain ⟨_, h, hts⟩ := hs
    cases h
    exact ⟨t, hti, (hg t).symm.trans hts⟩

/-- Only the ALTER TABLE that adds a column of issues adds it. -/
theorem execStmt_column_of {cat : Catalog} {s alter : List UInt8} {f : IssuesTable → Bool}
    (hf : f = IssuesTable.wispType ∧ alter = addWispType ∨
      f = IssuesTable.specId ∧ alter = addSpecId)
    (h : s ≠ alter) (hs : Has f (execStmt cat s).2) : Has f cat := by
  rcases ownStatements_cases s with rfl | rfl | rfl | rfl | rfl | ho
  · rw [execStmt_createIssueTypeIndex] at hs
    exact onIssues_flag_of (fun t => by rcases hf with ⟨rfl, -⟩ | ⟨rfl, -⟩ <;> split <;> rfl) hs
  · rw [execStmt_dropDependsOnFk] at hs
    split at hs <;> exact hs
  · rcases hf with ⟨rfl, rfl⟩ | ⟨rfl, -⟩
    · exact absurd rfl h
    · rw [execStmt_addWispType] at hs
      exact onIssues_flag_of (fun t => by split <;> rfl) hs
  · rcases hf with ⟨rfl, -⟩ | ⟨rfl, rfl⟩
    · rw [execStmt_addSpecId] at hs
      exact onIssues_flag_of (fun t => by split <;> rfl) hs
    · exact absurd rfl h
  · rw [execStmt_createSpecIdIndex] at hs
    exact onIssues_flag_of
      (fun t => by rcases hf with ⟨rfl, -⟩ | ⟨rfl, -⟩ <;> split_ifs <;> rfl) hs
  · rw [execStmt_other ho] at hs
    rcases baseline_cases s cat with e | ⟨-, b, e⟩ | ⟨-, fk, e⟩ <;> rw [e] at hs
    · exact hs
    · obtain ⟨_, ht, hts⟩ := hs
      cases ht
      rcases hf with ⟨rfl, -⟩ | ⟨rfl, -⟩ <;> cases hts
    · exact hs

theorem columnCount_of_issues {cat : Catalog} {t : IssuesTable} (h : cat.issues = some t)
    {column : String} {f : IssuesTable → Bool}
    (hf : column = "wisp_type" ∧ f = IssuesTable.wispType ∨
      column = "spec_id" ∧ f = IssuesTable.specId) :
    columnCount cat (columnCountQuery column) = if f t then 1 else 0 := by
  rcases hf with ⟨rfl, rfl⟩ | ⟨rfl, rfl⟩
  · simp [columnCount, h]
  · simp [columnCount, h, (by decide : columnCountQuery "spec_id" ≠ columnCountQuery "wisp_type")]

/-! ## Programs that cope with the other clients -/

def AddsSpecId (r : Req) : Prop := ∃ db, r = .exec db addSpecId

def IndexNext {α : Type} (p : Prog α) : Prop :=
  ∃ db k, p = .call (.exec db createSpecIdIndex) k

/-- p, having last seen catalog c, copes with every catalog grown from c: each answer leads to
a program that copes in turn, until p returns a with Q a of the catalog it saw last; and a
call that adds spec_id is followed at once by the index. -/
def Safe {α : Type} (Q : α → Catalog → Prop) : Prog α → Catalog → Prop
  | .ret a, c => Q a c
  | .call r k, c => ∀ cat, Grows c cat →
      Safe Q (k (answer cat r).1) (answer cat r).2 ∧ (AddsSpecId r → IndexNext (k (answer cat r).1))

section Rules
variable {α β : Type} {Q Q' : α → Catalog → Prop}

theorem Safe.consequence {p : Prog α} {c : Catalog} (h : Safe Q p c)
    (hQ : ∀ a c, Q a c → Q' a c) : Safe Q' p c := by
  induction p generalizing c with
  | ret a => exact hQ a c h
  | call r k ih => exact fun cat hg => ⟨ih _ (h cat hg).1, (h cat hg).2⟩

theorem IndexNext.bind {p : Prog α} (h : IndexNext p) (f : α → Prog β) : IndexNext (p >>= f) := by
  obtain ⟨db, k, rfl⟩ := h
  exact ⟨db, _, rfl⟩

theorem Safe.bind {p : Prog α} {f : α → Prog β} {R : β → Catalog → Prop} {c : Catalog}
    (hp : Safe Q p c) (hf : ∀ a c', Q a c' → Safe R (f a) c') : Safe R (p >>= f) c := by
  induction p generalizing c with
  | ret a => exact hf a c hp
  | call r k ih => exact fun cat hg => ⟨ih _ (hp cat hg).1, fun hr => ((hp cat hg).2 hr).bind f⟩

theorem Safe.call {r : Req} {k : r.Resp → Prog α} {c : Catalog} (hr : ¬AddsSpecId r)
    (h : ∀ cat, Grows c cat → Safe Q (k (answer cat r).1) (answer cat r).2) : Safe Q (.call r k) c :=
  fun cat hg => ⟨h cat hg, fun h' => (hr h').elim⟩

theorem Safe.orFail {step rest : Prog (Option Err)} {wrap : Err → Err} {P : Catalog → Prop}
    {R : Option Err → Catalog → Prop} {c : Catalog}
    (hs : Safe (fun x c' => x = none ∧ P c') step c) (hr : ∀ c', P c' → Safe R rest c') :
    Safe R (orFail step wrap rest) c :=
  hs.bind fun _ c' ⟨hx, hp⟩ => by subst hx; exact hr c' hp

end Rules

/-- From every catalog where S holds, p copes with the other clients and returns nil in a
catalog grown from its start where P holds. -/
def Ensures (S : Catalog → Prop) (p : Prog (Option Err)) (P : Catalog → Prop) : Prop :=
  ∀ c, S c → Safe (fun x c' => x = none ∧ Grows c c' ∧ P c') p c

section Ensures
variable {S P P' : Catalog → Prop} {step rest : Prog (Option Err)}

theorem ensures_pure : Ensures S (pure none) fun _ => True := fun c _ => ⟨rfl, .refl c, trivial⟩

theorem Ensures.mono (h : Ensures S step P) (hP : ∀ c, P c → P' c) : Ensures S step P' :=
  fun c hc => (h c hc).consequence fun _ _ ⟨hx, hg, hp⟩ => ⟨hx, hg, hP _ hp⟩

theorem Ensures.orFail (h₁ : Ensures S step P) (hS : Stable S) (hP : Stable P)
    (h₂ : Ensures S rest P') (wrap : Err → Err) :
    Ensures S (orFail step wrap rest) fun c => P c ∧ P' c := fun c hc =>
  Safe.orFail (h₁ c hc) fun c' ⟨hg, hp⟩ =>
    (h₂ c' (hS hg hc)).consequence fun _ _ ⟨hx, hg', hp'⟩ => ⟨hx, hg.trans hg', hP hg' hp, hp'⟩

end Ensures

theorem stable_true : Stable fun _ => True := fun _ _ _ _ => trivial

theorem stable_tables : Stable HasTables := fun _ _ h => h.tables

theorem ensures_execTolerating {db : Nat} {s : List UInt8} {needles : List String}
    {S P : Catalog → Prop} (hS : Stable S) (hs : s ≠ addSpecId)
    (h : ∀ cat, S cat → Tolerated needles (execStmt cat s).1 ∧ P (execStmt cat s).2) :
    Ensures S (execTolerating db s needles) P := by
  intro c hc cat hg
  refine ⟨?_, fun ⟨_, he⟩ => (hs (Req.exec.inj he).2).elim⟩
  have hg' := hg.trans (execStmt_grows cat s)
  obtain ⟨htol, hp⟩ := h cat (hS hg hc)
  simp only [answer_exec]
  generalize execStmt cat s = a at htol hp hg'
  rcases a with ⟨_ | e, cat'⟩
  · exact ⟨rfl, hg', hp⟩
  · simp only [Tolerated] at htol
    exact ⟨by simp [htol], hg', hp⟩

theorem not_addsSpecId {db : Nat} {s : List UInt8} (hs : s ∉ ownStatements) :
    ¬AddsSpecId (.exec db s) :=
  fun ⟨_, he⟩ => hs (by rw [(Req.exec.inj he).2]; simp [ownStatements])

theorem ensures_exec_other {db : Nat} {s : List UInt8} (hs : s ∉ ownStatements) :
    Ensures (fun _ => True) (exec db s) fun c => baseline s c = c := by
  refine fun c _ => Safe.call (not_addsSpecId hs) fun cat hg => ?_
  exact ⟨by simp [execStmt_other hs], hg.trans (execStmt_grows cat s),
    by simp [execStmt_other hs, baseline_baseline]⟩

/-- The statements initSchemaOnDB submits besides the migrations' own: the baseline script's,
the default config's and the two views. -/
def schemaStatements (T : SchemaText) : List (List UInt8) :=
  submitted (splitStatements T.schema) ++ submitted (splitStatements T.defaultConfig) ++
    [T.readyIssuesView, T.blockedIssuesView]

/-- The baseline assumption: a statement of the baseline script creates issues, and one creates
dependencies. -/
def CreatesTables (T : SchemaText) : Prop :=
  (∃ s ∈ submitted (splitStatements T.schema), createdTable s = some (bytes "issues")) ∧
    ∃ s ∈ submitted (splitStatements T.schema), createdTable s = some (bytes "dependencies")

theorem hasTables_of_settled {T : SchemaText} (hT : CreatesTables T) {c : Catalog}
    (h : ∀ s ∈ submitted (splitStatements T.schema), baseline s c = c) : HasTables c := by
  obtain ⟨⟨s, hs, hi⟩, ⟨s', hs', hd⟩⟩ := hT
  exact ⟨(baseline_eq_self.1 (h s hs)).1 hi, (baseline_eq_self.1 (h s' hs')).2 hd⟩

theorem ensures_execEach {db : Nat} {onErr : List UInt8 → Err → Err} :
    ∀ {ss : List (List UInt8)}, (∀ s ∈ ss, s ∉ ownStatements) →
      Ensures (fun _ => True) (execEach db onErr ss) fun c => ∀ s ∈ ss, baseline s c = c
  | [], _ => ensures_pure.mono fun _ _ _ => nofun
  | s :: _, h => ((ensures_exec_other (h s (.head _))).orFail stable_true (stable_settled s)
      (ensures_execEach fun s' hs' => h s' (.tail _ hs')) (onErr s)).mono
      fun _ ⟨h₁, h₂⟩ _ hs' => (List.mem_cons.1 hs').elim (· ▸ h₁) (h₂ _)

theorem ensures_execStatements {db : Nat} {onErr : List UInt8 → Err → Err}
    {ss : List (List UInt8)} (h : ∀ s ∈ submitted ss, s ∉ ownStatements) :
    Ensures (fun _ => True) (execStatements db onErr ss)
      fun c => ∀ s ∈ submitted ss, baseline s c = c := by
  rw [execStatements_eq_execEach]
  exact ensures_execEach h

theorem ensures_applyIndexMigrations {db : Nat} :
    Ensures HasTables (applyIndexMigrations db indexMigrations) (Has IssuesTable.idxIssueType) :=
  ((ensures_execTolerating stable_tables (by decide) fun _ => tolerated_createIssueTypeIndex).orFail
    stable_tables (stable_has (by simp [flags])) ensures_pure _).mono fun _ h => h.1

theorem ensures_dropDependsOnFk {db : Nat} :
    Ensures HasTables (execTolerating db dropDependsOnFk
      ["can't drop", "doesn't exist", "check that it exists", "was not found"]) NoFk :=
  ensures_execTolerating stable_tables (by decide) fun _ => tolerated_dropDependsOnFk

theorem ensures_addColumn {column : String} {alter : List UInt8} {rest : Prog (Option Err)}
    {f : IssuesTable → Bool} {db : Nat}
    (hf : column = "wisp_type" ∧ f = IssuesTable.wispType ∨
      column = "spec_id" ∧ f = IssuesTable.specId)
    (halter : ∀ cat, HasTables cat →
      Tolerated ["duplicate column"] (execStmt cat alter).1 ∧ Has f (execStmt cat alter).2)
    (hnext : alter = addSpecId → IndexNext rest)
    (hrest : ∀ c, Has f c → Safe (fun x c' => x = none ∧ Grows c c') rest c) :
    Ensures HasTables (addColumn column alter rest db) (Has f) := by
  have hflag : f ∈ flags := by rcases hf with ⟨-, rfl⟩ | ⟨-, rfl⟩ <;> simp [flags]
  intro c hc
  refine Safe.call (fun ⟨_, he⟩ => nomatch he) fun cat hg => ?_
  obtain ⟨t, hti⟩ := tables_issues (hg.tables hc)
  simp only [answer_queryCount, columnCount_of_issues hti hf, Prog.bind]
  by_cases hft : f t = true
  · simp only [hft]
    exact ⟨rfl, hg, t, hti, hft⟩
  · simp only [hft, Bool.false_eq_true, if_false, gt_iff_lt, lt_self_iff_false]
    intro cat2 hg2
    obtain ⟨htol, hhas⟩ := halter cat2 (hg2.tables (hg.tables hc))
    have hg3 := (hg.trans hg2).trans (execStmt_grows cat2 alter)
    have key : Safe (fun x c' => x = none ∧ Grows c c' ∧ Has f c') rest (execStmt cat2 alter).2 ∧
        (AddsSpecId (.exec db alter) → IndexNext rest) :=
      ⟨(hrest _ hhas).consequence fun _ _ ⟨hx, hg'⟩ => ⟨hx, hg3.trans hg', stable_has hflag hg' hhas⟩,
        fun ⟨_, he⟩ => hnext (Req.exec.inj he).2⟩
    simp only [answer_exec, Prog.bind]
    generalize execStmt cat2 alter = a at htol key
    rcases a with ⟨_ | e, cat3⟩
    · exact key
    · simp only [Tolerated] at htol
      simpa only [htol, if_true] using key

theorem ensures_migrateWispTypeColumn {db : Nat} :
    Ensures HasTables (migrateWispTypeColumn db) (Has IssuesTable.wispType) :=
  ensures_addColumn (.inl ⟨rfl, rfl⟩) (fun _ => tolerated_addWispType)
    (fun h => absurd h (by decide)) fun c _ => ⟨rfl, .refl c⟩

/-- What a whole run of initSchemaOnDB leaves: the tables, both columns, the issue_type index
and no foreign key. -/
def Migrated (c : Catalog) : Prop :=
  HasTables c ∧ Has IssuesTable.wispType c ∧ Has IssuesTable.specId c ∧
    Has IssuesTable.idxIssueType c ∧ NoFk c

/-- Client i's next call reaches the server and its answer goes back to it; a client that has
returned, or an index with no client, changes nothing. -/
def step {α : Type} (st : Catalog × List (Prog α)) (i : Nat) : Catalog × List (Prog α) :=
  match st.2[i]? with
  | some (.call r k) => ((answer st.1 r).2, st.2.set i (k (answer st.1 r).1))
  | _ => st

/-- The calls reach the server in the order of the schedule's client indexes. -/
def interleave {α : Type} (sched : List Nat) (st : Catalog × List (Prog α)) :
    Catalog × List (Prog α) :=
  sched.foldl step st

theorem step_each {α : Type} {R : Prog α → Catalog → Prop} {st : Catalog × List (Prog α)}
    (h : ∀ p ∈ st.2, ∃ c, Grows c st.1 ∧ R p c) (i : Nat)
    (hcall : ∀ r k c, R (.call r k) c → Grows c st.1 →
      R (k (answer st.1 r).1) (answer st.1 r).2) :
    ∀ p ∈ (step st i).2, ∃ c, Grows c (step st i).1 ∧ R p c := by
  obtain ⟨cat, ps⟩ := st
  unfold step
  split
  · rename_i r k hi
    obtain ⟨c, hgc, hR⟩ := h _ (List.getElem?_mem hi)
    intro p hp
    rcases List.mem_or_eq_of_mem_set hp with hp | rfl
    · obtain ⟨c', hg', hR'⟩ := h p hp
      exact ⟨c', hg'.trans (answer_grows cat r), hR'⟩
    · exact ⟨_, .refl _, hcall r k c hR hgc⟩
  · exact h

theorem sampleSchema_not_own : ∀ s ∈ schemaStatements sampleSchema, s ∉ ownStatements := by
  rw [schemaStatements, sampleSchema_split]
  decide!

theorem sampleSchema_creates : CreatesTables sampleSchema := by
  rw [CreatesTables, sampleSchema_split]
  decide!

end MaudeStore.Concurrent
