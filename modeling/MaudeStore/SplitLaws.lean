import MaudeStore.Splitter
import Mathlib.Data.List.Chain

/-! What the quote state of splitStatements guarantees: statements that are scanned from
outside a literal back to outside one, with no cut, survive a join and a split; every
statement the splitter emits is such a statement, so splitting is a fixpoint. -/
namespace MaudeStore.SplitLaws
open GoString Splitter

def NoCut : Option UInt8 → Option UInt8 → List UInt8 → Prop
  | _, _, [] => True
  | q, prev, c :: cs => ¬(q = none ∧ c = semicolon) ∧ NoCut (next q prev c) (some c) cs

def quoteAfter : Option UInt8 → Option UInt8 → List UInt8 → Option UInt8
  | q, _, [] => q
  | q, prev, c :: cs => quoteAfter (next q prev c) (some c) cs

def lastByte : Option UInt8 → List UInt8 → Option UInt8
  | prev, [] => prev
  | _, c :: cs => lastByte (some c) cs

theorem lastByte_concat (prev : Option UInt8) (x : List UInt8) (c : UInt8) :
    lastByte prev (x ++ [c]) = some c := by
  induction x generalizing prev with
  | nil => rfl
  | cons b x ih => exact ih _

/-- Pieces that split back into themselves: each is scanned without a cut, and each but
the last ends outside a literal, so the semicolon after it cuts. -/
def Chain : List (List UInt8) → Prop
  | [] => True
  | [t] => NoCut none none t
  | t :: u :: ts => NoCut none none t ∧ quoteAfter none none t = none ∧ Chain (u :: ts)

/-! Outside a literal the previous byte is never read. -/

theorem noCut_none (p p' : Option UInt8) (s : List UInt8) : NoCut none p s ↔ NoCut none p' s := by
  cases s <;> rfl

theorem quoteAfter_none (p p' : Option UInt8) (s : List UInt8) :
    quoteAfter none p s = quoteAfter none p' s := by
  cases s <;> rfl

/-! Scans compose. -/

theorem noCut_append (q prev : Option UInt8) (x y : List UInt8) :
    NoCut q prev (x ++ y) ↔ NoCut q prev x ∧ NoCut (quoteAfter q prev x) (lastByte prev x) y := by
  induction x generalizing q prev with
  | nil => simp [NoCut, quoteAfter, lastByte]
  | cons c x ih => simp [NoCut, quoteAfter, lastByte, ih, and_assoc]

theorem quoteAfter_append (q prev : Option UInt8) (x y : List UInt8) :
    quoteAfter q prev (x ++ y) = quoteAfter (quoteAfter q prev x) (lastByte prev x) y := by
  induction x generalizing q prev with
  | nil => rfl
  | cons c x ih => exact ih _ _

theorem pieces_append_of_noCut {q prev : Option UInt8} {x : List UInt8} (h : NoCut q prev x)
    (y : List UInt8) : pieces q prev (x ++ y) =
      (pieces (quoteAfter q prev x) (lastByte prev x) y).modifyHead (x ++ ·) := by
  induction x generalizing q prev with
  | nil => simp [quoteAfter, lastByte]
  | cons c x ih =>
    obtain ⟨hc, hx⟩ := h
    simp [pieces, hc, ih hx, quoteAfter, lastByte, Function.comp_def]

theorem pieces_of_noCut {q prev : Option UInt8} {x : List UInt8} (h : NoCut q prev x) :
    pieces q prev x = [x] := by
  simpa [pieces] using pieces_append_of_noCut h []

def Plain (c : UInt8) : Prop := isQuote c = false ∧ c ≠ semicolon

instance : DecidablePred Plain := fun _ => inferInstanceAs (Decidable (_ ∧ _))

theorem plain_none {w : List UInt8} (hw : ∀ c ∈ w, Plain c) (prev : Option UInt8) :
    NoCut none prev w ∧ quoteAfter none prev w = none := by
  induction w generalizing prev with
  | nil => simp [quoteAfter, NoCut]
  | cons c w ih =>
    obtain ⟨hq, hs⟩ := hw c (List.mem_cons_self c w)
    have := ih (fun b hb => hw b (List.mem_cons_of_mem c hb)) (some c)
    simp_all [NoCut, quoteAfter, next]

theorem plain_some {w : List UInt8} (hw : ∀ c ∈ w, Plain c) {k : UInt8} (hk : isQuote k)
    (prev : Option UInt8) : quoteAfter (some k) prev w = some k := by
  induction w generalizing prev with
  | nil => rfl
  | cons c w ih =>
    obtain ⟨hq, -⟩ := hw c (List.mem_cons_self c w)
    have hck : c ≠ k := by rintro rfl; simp [hq] at hk
    simpa [quoteAfter, next, hck] using ih (fun b hb => hw b (List.mem_cons_of_mem c hb)) (some c)

theorem quoteAfter_isQuote {q prev : Option UInt8} {x : List UInt8} {k : UInt8}
    (hq : ∀ j, q = some j → isQuote j) (h : quoteAfter q prev x = some k) : isQuote k := by
  induction x generalizing q prev with
  | nil => exact hq k h
  | cons c x ih =>
    refine ih (fun j hj => ?_) h
    cases q with
    | none =>
      simp only [next] at hj
      split at hj
      · cases hj; assumption
      · cases hj
    | some q =>
      simp only [next] at hj
      split at hj
      · cases hj
      · cases hj; exact hq _ rfl

theorem spaceByte_plain {c : UInt8} (h : spaceByte c) : Plain c := by
  refine ⟨Bool.eq_false_iff.2 fun hq => ?_, ?_⟩
  · simp only [isQuote, Bool.or_eq_true, beq_iff_eq] at hq
    rcases hq with (rfl | rfl) | rfl <;> exact absurd h (by decide)
  · rintro rfl; exact absurd h (by decide)

theorem trimSpace_scan {t : List UInt8} (h : NoCut none none t) :
    NoCut none none (trimSpace t) ∧
      (quoteAfter none none t = none → quoteAfter none none (trimSpace t) = none) := by
  obtain ⟨pre, post, ht, hpre, hpost⟩ := trimSpace_infix t
  obtain ⟨-, hq⟩ := plain_none (fun c hc => spaceByte_plain (hpre c hc)) none
  have hpost' : ∀ c ∈ post, Plain c := fun c hc => spaceByte_plain (hpost c hc)
  rw [ht, noCut_append, noCut_append, hq] at h
  refine ⟨(noCut_none _ _ _).1 h.1.2, fun he => ?_⟩
  rw [ht, quoteAfter_append, quoteAfter_append, hq] at he
  rw [quoteAfter_none none (lastByte none pre)]
  cases hm : quoteAfter none (lastByte none pre) (trimSpace t) with
  | none => rfl
  | some k =>
    have hk := quoteAfter_isQuote (by simp) hm
    rw [hm, plain_some hpost' hk] at he
    cases he

theorem chain_cons (t : List UInt8) (ts : List (List UInt8)) : Chain (t :: ts) ↔
    NoCut none none t ∧ (ts ≠ [] → quoteAfter none none t = none) ∧ Chain ts := by
  cases ts <;> simp [Chain]

/-- The pieces of any script form a chain: a cut follows each piece but the last. -/
theorem pieces_chain (q prev : Option UInt8) (s : List UInt8) : ∃ p ps, pieces q prev s = p :: ps ∧
    NoCut q prev p ∧ (ps ≠ [] → quoteAfter q prev p = none) ∧ Chain ps := by
  induction s generalizing q prev with
  | nil => exact ⟨[], [], rfl, trivial, by simp, trivial⟩
  | cons c cs ih =>
    obtain ⟨p, ps, hp, hn, hq, hc⟩ := ih (next q prev c) (some c)
    by_cases hcut : q = none ∧ c = semicolon
    · obtain ⟨rfl, rfl⟩ := hcut
      refine ⟨[], p :: ps, by simp [pieces, hp], trivial, fun _ => rfl, ?_⟩
      exact (chain_cons p ps).2 ⟨(noCut_none _ _ _).1 hn,
        fun h => (quoteAfter_none _ _ _).trans (hq h), hc⟩
    · exact ⟨c :: p, ps, by simp [pieces, hcut, hp], ⟨hcut, hn⟩, hq, hc⟩

theorem chain_pieces (s : List UInt8) : Chain (pieces none none s) := by
  obtain ⟨p, ps, hp, hn, hq, hc⟩ := pieces_chain none none s
  exact hp ▸ (chain_cons p ps).2 ⟨hn, hq, hc⟩

theorem chain_mem {ts : List (List UInt8)} (h : Chain ts) {t : List UInt8} (ht : t ∈ ts) :
    NoCut none none t := by
  induction ts with
  | nil => cases ht
  | cons u us ih =>
    obtain ⟨hu, -, hus⟩ := (chain_cons u us).1 h
    rcases List.mem_cons.1 ht with rfl | ht
    · exact hu
    · exact ih hus ht

theorem chain_emit {ts : List (List UInt8)} (h : Chain ts) : Chain (emit ts) := by
  induction ts with
  | nil => trivial
  | cons t ts ih =>
    obtain ⟨ht, hq, hts⟩ := (chain_cons t ts).1 h
    obtain ⟨ht', hq'⟩ := trimSpace_scan ht
    rw [emit_cons]
    by_cases he : trimSpace t = []
    · simpa [emit, he] using ih hts
    · have : emit [t] = [trimSpace t] := by simp [emit, he]
      rw [this, List.singleton_append, chain_cons]
      refine ⟨ht', fun hne => hq' (hq fun h => ?_), ih hts⟩
      simp [h] at hne

/-- A chain joined with semicolons is cut back into the same pieces. -/
theorem pieces_join {ts : List (List UInt8)} (h : Chain ts) (hne : ts ≠ []) (prev : Option UInt8) :
    pieces none prev (join [semicolon] ts) = ts := by
  induction ts generalizing prev with
  | nil => exact absurd rfl hne
  | cons t ts ih =>
    obtain ⟨ht, hq, hts⟩ := (chain_cons t ts).1 h
    rcases ts with _ | ⟨u, us⟩
    · exact pieces_of_noCut ((noCut_none _ _ _).1 ht)
    · have hq' : quoteAfter none prev t = none := (quoteAfter_none _ _ _).trans (hq (by simp))
      rw [join, List.append_assoc, List.singleton_append, pieces_append_of_noCut ((noCut_none _ _ _).1 ht), hq']
      simp [pieces, next, ih hts (by simp)]

theorem splitStatements_of_chain {ts : List (List UInt8)} (h : Chain ts)
    (htr : ∀ t ∈ ts, t ≠ [] ∧ trimSpace t = t) : splitStatements (join [semicolon] ts) = ts := by
  rcases ts with _ | ⟨t, ts⟩
  · rfl
  · rw [splitStatements_eq_emit, pieces_join h (by simp), emit_of_trimmed htr]

/-- Splitting is a fixpoint on its own output: each statement splits into itself, and
joining the statements with semicolons and splitting again gives them back. -/
theorem splitStatements_fixpoint (script : List UInt8) :
    (∀ t ∈ splitStatements script, splitStatements t = [t]) ∧
      splitStatements (join [semicolon] (splitStatements script)) = splitStatements script := by
  have hc : Chain (splitStatements script) := by
    rw [splitStatements_eq_emit]; exact chain_emit (chain_pieces script)
  refine ⟨fun t ht => ?_, splitStatements_of_chain hc fun _ => mem_splitStatements⟩
  rw [splitStatements_eq_emit, pieces_of_noCut (chain_mem hc ht)]
  exact emit_of_trimmed (by simpa using mem_splitStatements ht)

/-! Statements written for the splitter: in a literal opened by q, a q right after a
backslash does not close it; every other q does. -/

def LitBody (q : UInt8) (body : List UInt8) : Prop :=
  (q :: body).Chain' (fun a b => b = q → a = backslash) ∧
    (q :: body).getLast (List.cons_ne_nil q body) ≠ backslash

/-- A statement whose literals all close, by the splitter's reading, and that has no
semicolon outside a literal. -/
inductive Closed : List UInt8 → Prop
  | nil : Closed []
  | byte {c : UInt8} {s : List UInt8} : Plain c → Closed s → Closed (c :: s)
  | literal {q : UInt8} {body s : List UInt8} :
      isQuote q → LitBody q body → Closed s → Closed (q :: (body ++ q :: s))

theorem scan_litBody {q a : UInt8} {body : List UInt8}
    (h : (a :: body).Chain' (fun a b => b = q → a = backslash)) :
    NoCut (some q) (some a) body ∧ quoteAfter (some q) (some a) body = some q ∧
      lastByte (some a) body = some ((a :: body).getLast (List.cons_ne_nil a body)) := by
  induction body generalizing a with
  | nil => simp [NoCut, quoteAfter, lastByte]
  | cons b body ih =>
    obtain ⟨hab, hrest⟩ := List.chain'_cons.1 h
    have hn : next (some q) (some a) b = some q := by
      simp only [next]; split_ifs with hb
      · exact absurd (congrArg some (hab hb.1)) hb.2
      · rfl
    simpa [NoCut, quoteAfter, lastByte, hn] using ih hrest

theorem scan_literal {q : UInt8} {body : List UInt8} (hq : isQuote q) (hb : LitBody q body)
    (prev : Option UInt8) : NoCut none prev (q :: (body ++ [q])) ∧
      quoteAfter none prev (q :: (body ++ [q])) = none ∧
      lastByte prev (q :: (body ++ [q])) = some q := by
  obtain ⟨hc, hqa, hl⟩ := scan_litBody (q := q) hb.1
  have hsemi : q ≠ semicolon := by rintro rfl; simp at hq
  have hopen : next none prev q = some q := by simp [next, hq]
  refine ⟨⟨by simp [hsemi], ?_⟩, ?_, ?_⟩
  · rw [hopen, noCut_append, hqa]
    exact ⟨hc, by simp [NoCut]⟩
  · rw [quoteAfter, hopen, quoteAfter_append, hqa, hl]
    simp [quoteAfter, next, hb.2]
  · exact lastByte_concat _ _ _

theorem closed_scan {s : List UInt8} (h : Closed s) (prev : Option UInt8) :
    NoCut none prev s ∧ quoteAfter none prev s = none := by
  induction h generalizing prev with
  | nil => simp [NoCut, quoteAfter]
  | byte hc _ ih =>
    obtain ⟨hq, hs⟩ := hc
    simpa [NoCut, quoteAfter, next, hq, hs] using ih _
  | @literal q body s hq hb _ ih =>
    obtain ⟨hc, hqa, hl⟩ := scan_literal hq hb prev
    have : q :: (body ++ q :: s) = (q :: (body ++ [q])) ++ s := by simp
    rw [this, noCut_append, quoteAfter_append, hqa]
    exact ⟨⟨hc, (ih _).1⟩, (ih _).2⟩

theorem chain_of_closed {ts : List (List UInt8)}
    (h : ∀ t ∈ ts, NoCut none none t ∧ quoteAfter none none t = none) : Chain ts := by
  induction ts with
  | nil => trivial
  | cons t ts ih =>
    obtain ⟨hn, hq⟩ := h t (List.mem_cons_self t ts)
    exact (chain_cons t ts).2 ⟨hn, fun _ => hq, ih fun u hu => h u (List.mem_cons_of_mem t hu)⟩

theorem join_append_nil (ts : List (List UInt8)) (hne : ts ≠ []) :
    join [semicolon] (ts ++ [[]]) = join [semicolon] ts ++ [semicolon] := by
  induction ts with
  | nil => exact absurd rfl hne
  | cons t ts ih => rcases ts with _ | ⟨u, us⟩ <;> simp_all [join]

/-- Closed statements, non-empty and trimmed, joined with semicolons (with or without a
final one), split back into exactly themselves. -/
theorem splitStatements_join_closed (ss : List (List UInt8))
    (h : ∀ s ∈ ss, s ≠ [] ∧ trimSpace s = s ∧ Closed s) :
    splitStatements (join [semicolon] ss) = ss ∧
      splitStatements (join [semicolon] ss ++ [semicolon]) = ss := by
  have hscan : ∀ s ∈ ss, NoCut none none s ∧ quoteAfter none none s = none :=
    fun s hs => closed_scan (h s hs).2.2 none
  have htr : ∀ s ∈ ss, s ≠ [] ∧ trimSpace s = s := fun s hs => ⟨(h s hs).1, (h s hs).2.1⟩
  refine ⟨splitStatements_of_chain (chain_of_closed hscan) htr, ?_⟩
  rcases ss with _ | ⟨s, ss⟩
  · rfl
  · have hc : Chain ((s :: ss) ++ [[]]) := chain_of_closed fun t ht => by
      rcases List.mem_append.1 ht with ht | ht
      · exact hscan t ht
      · simp at ht; subst ht; simp [NoCut, quoteAfter]
    rw [← join_append_nil _ (by simp), splitStatements_eq_emit, pieces_join hc (by simp),
      emit_append, emit_of_trimmed htr, show emit [[]] = [] by decide, List.append_nil]

theorem Closed.append {x y : List UInt8} (hx : Closed x) (hy : Closed y) : Closed (x ++ y) := by
  induction hx with
  | nil => exact hy
  | byte hc _ ih => exact .byte hc ih
  | literal hq hb _ ih => simpa using Closed.literal hq hb ih

theorem closed_plain_append {w s : List UInt8} (hw : ∀ c ∈ w, Plain c) (hs : Closed s) :
    Closed (w ++ s) := by
  induction w with
  | nil => exact hs
  | cons c w ih =>
    exact .byte (hw c (List.mem_cons_self c w)) (ih fun b hb => hw b (List.mem_cons_of_mem c hb))

theorem splitStatements_join_closed_quoted :
    splitStatements (join [semicolon] [bytes "SELECT 'a;b'", bytes "SELECT 2"]) =
      [bytes "SELECT 'a;b'", bytes "SELECT 2"] := by
  have h1 : Closed (bytes "SELECT 'a;b'") := by
    have : bytes "SELECT 'a;b'" = bytes "SELECT " ++ (39 :: ([97, 59, 98] ++ 39 :: [])) := by decide
    rw [this]
    exact closed_plain_append (by decide)
      (.literal (by decide) ⟨by simp [List.chain'_cons, backslash], by decide⟩ .nil)
  have h2 : Closed (bytes "SELECT 2") := by
    simpa using closed_plain_append (s := []) (w := bytes "SELECT 2") (by decide) .nil
  refine (splitStatements_join_closed _ ?_).1
  simp only [List.mem_cons, List.mem_singleton, forall_eq_or_imp, forall_eq, List.not_mem_nil,
    IsEmpty.forall_iff, implies_true, and_true]
  exact ⟨⟨by decide, by decide, h1⟩, ⟨by decide, by decide, h2⟩⟩

/-! The same statement read by MySQL's lexical rules instead of the splitter's. -/

/-- A literal body by MySQL's rules: in quotes a backslash escapes the next byte and a
doubled quote stands for one; in backticks only a doubled backtick escapes. -/
inductive MysqlBody (q : UInt8) : List UInt8 → Prop
  | nil : MysqlBody q []
  | byte {c : UInt8} {s : List UInt8} :
      c ≠ q → (q = 96 ∨ c ≠ backslash) → MysqlBody q s → MysqlBody q (c :: s)
  | escape {c : UInt8} {s : List UInt8} : q ≠ 96 → MysqlBody q s → MysqlBody q (backslash :: c :: s)
  | doubled {s : List UInt8} : MysqlBody q s → MysqlBody q (q :: q :: s)

inductive MysqlStmt : List UInt8 → Prop
  | nil : MysqlStmt []
  | byte {c : UInt8} {s : List UInt8} : Plain c → MysqlStmt s → MysqlStmt (c :: s)
  | literal {q : UInt8} {body s : List UInt8} :
      isQuote q → MysqlBody q body → MysqlStmt s → MysqlStmt (q :: (body ++ q :: s))

def CommentFree (s : List UInt8) : Prop :=
  ¬[45, 45] <:+: s ∧ (35 : UInt8) ∉ s ∧ ¬[47, 42] <:+: s

instance : DecidablePred CommentFree := fun _ => inferInstanceAs (Decidable (_ ∧ _ ∧ _))

theorem mysqlStmt_plain_append {w s : List UInt8} (hw : ∀ c ∈ w, Plain c) (hs : MysqlStmt s) :
    MysqlStmt (w ++ s) := by
  induction w with
  | nil => exact hs
  | cons c w ih =>
    exact .byte (hw c (List.mem_cons_self c w)) (ih fun b hb => hw b (List.mem_cons_of_mem c hb))

/-- By MySQL's rules the literal in SELECT '\\' holds one escaped backslash and closes;
the splitter reads its closing quote as escaped, so the semicolon after it does not cut. -/
theorem splitStatements_join_mysql_counterexample : ¬∀ ss : List (List UInt8),
    (∀ s ∈ ss, s ≠ [] ∧ trimSpace s = s ∧ MysqlStmt s ∧ CommentFree s) →
      splitStatements (join [semicolon] ss) = ss := fun h => by
  have hlit : MysqlStmt (bytes "SELECT '\\\\'") := by
    have : bytes "SELECT '\\\\'" = bytes "SELECT " ++ (39 :: ([backslash, backslash] ++ 39 :: [])) := by
      decide
    rw [this]
    exact mysqlStmt_plain_append (by decide) (.literal (by decide) (.escape (by decide) .nil) .nil)
  have hsel : MysqlStmt (bytes "SELECT 2") := by
    simpa using mysqlStmt_plain_append (s := []) (w := bytes "SELECT 2") (by decide) .nil
  have := h [bytes "SELECT '\\\\'", bytes "SELECT 2"] (by
    simp only [List.mem_cons, List.mem_singleton, forall_eq_or_imp, forall_eq, List.not_mem_nil,
      IsEmpty.forall_iff, implies_true, and_true]
    exact ⟨⟨by decide, by decide, hlit, by decide⟩, ⟨by decide, by decide, hsel, by decide⟩⟩)
  revert this
  decide

end MaudeStore.SplitLaws
