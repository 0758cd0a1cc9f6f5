import MaudeStore.GoString

/-! splitStatements (store.go) as the byte loop it is, and what that loop computes: the
pieces between the semicolons it meets outside a quoted literal, each trimmed, the blank
ones dropped. -/
namespace MaudeStore.Splitter
open GoString

def semicolon : UInt8 := 59
def backslash : UInt8 := 92

def isQuote (c : UInt8) : Bool := c == 39 || c == 34 || c == 96

@[simp] theorem isQuote_semicolon : isQuote semicolon = false := rfl

/-- The variables of the loop: statements, the builder current, inString, stringChar. -/
structure State where
  statements : List (List UInt8)
  current : List UInt8
  inString : Bool
  stringChar : UInt8

/-- The loop body on c = script[i]; prev is script[i-1], none when i = 0. -/
def step (st : State) (prev : Option UInt8) (c : UInt8) : State :=
  if st.inString then
    { st with current := st.current ++ [c],
              inString := if c = st.stringChar ∧ prev ≠ some backslash then false else true }
  else if isQuote c then
    { st with inString := true, stringChar := c, current := st.current ++ [c] }
  else if c = semicolon then
    let stmt := trimSpace st.current
    { st with statements := if stmt ≠ [] then st.statements ++ [stmt] else st.statements,
              current := [] }
  else { st with current := st.current ++ [c] }

def loop : State → Option UInt8 → List UInt8 → State
  | st, _, [] => st
  | st, prev, c :: cs => loop (step st prev c) (some c) cs

def flush (st : State) : List (List UInt8) :=
  let stmt := trimSpace st.current
  if stmt ≠ [] then st.statements ++ [stmt] else st.statements

def splitStatements (script : List UInt8) : List (List UInt8) :=
  flush (loop ⟨[], [], false, 0⟩ none script)

/-! The quote state alone: the quote byte of the literal the loop is inside. -/

def quoteOf (st : State) : Option UInt8 := if st.inString then some st.stringChar else none

def next : Option UInt8 → Option UInt8 → UInt8 → Option UInt8
  | some q, prev, c => if c = q ∧ prev ≠ some backslash then none else some q
  | none, _, c => if isQuote c then some c else none

/-- The script from quote state q on, cut at each semicolon met outside a literal; the
first piece continues the statement in the builder. -/
def pieces (q prev : Option UInt8) : List UInt8 → List (List UInt8)
  | [] => [[]]
  | c :: cs =>
    if q = none ∧ c = semicolon then [] :: pieces (next q prev c) (some c) cs
    else (pieces (next q prev c) (some c) cs).modifyHead (c :: ·)

def emit (ps : List (List UInt8)) : List (List UInt8) := (ps.map trimSpace).filter (· ≠ [])

@[simp] theorem modifyHead_self (l : List (List UInt8)) : l.modifyHead (fun x => x) = l := by
  cases l <;> rfl

theorem pieces_ne_nil (q prev : Option UInt8) (s : List UInt8) : pieces q prev s ≠ [] := by
  induction s generalizing q prev with
  | nil => simp [pieces]
  | cons c cs ih => simp only [pieces]; split <;> simp [ih]

theorem join_pieces (q prev : Option UInt8) (s : List UInt8) :
    join [semicolon] (pieces q prev s) = s := by
  induction s generalizing q prev with
  | nil => rfl
  | cons c cs ih =>
    have hne := pieces_ne_nil (next q prev c) (some c) cs
    obtain ⟨p, ps, hp⟩ := List.exists_cons_of_ne_nil hne
    have := ih (next q prev c) (some c)
    simp only [pieces]
    split
    · rename_i h
      rw [hp] at this ⊢
      cases ps <;> simp_all [join]
    · rw [hp] at this ⊢
      cases ps <;> simp_all [join]

@[simp] theorem emit_nil : emit [] = [] := rfl

theorem emit_cons (p : List UInt8) (ps : List (List UInt8)) :
    emit (p :: ps) = emit [p] ++ emit ps := by
  simp only [emit, List.map_cons, List.filter_cons, List.map_nil, List.filter_nil]
  split <;> rfl

theorem emit_append (ps qs : List (List UInt8)) : emit (ps ++ qs) = emit ps ++ emit qs := by
  simp [emit, List.filter_append]

theorem emit_of_trimmed {ts : List (List UInt8)} (h : ∀ t ∈ ts, t ≠ [] ∧ trimSpace t = t) :
    emit ts = ts := by
  induction ts with
  | nil => rfl
  | cons t ts ih =>
    obtain ⟨hne, htr⟩ := h t (List.mem_cons_self t ts)
    rw [emit_cons, ih (fun u hu => h u (List.mem_cons_of_mem t hu))]
    simp [emit, htr, hne]

theorem quoteOf_step (st : State) (prev : Option UInt8) (c : UInt8) :
    quoteOf (step st prev c) = next (quoteOf st) prev c := by
  unfold step quoteOf
  by_cases hs : st.inString <;> simp only [hs, next, ite_true, Bool.false_eq_true, ite_false]
  · by_cases hp : c = st.stringChar ∧ prev ≠ some backslash <;> simp [hp]
  · by_cases hq : isQuote c <;> simp only [hq, ite_true, Bool.false_eq_true, ite_false]
    split_ifs <;> first | rfl | contradiction

theorem statements_step (st : State) (prev : Option UInt8) (c : UInt8) :
    (step st prev c).statements =
      if quoteOf st = none ∧ c = semicolon then st.statements ++ emit [st.current]
      else st.statements := by
  unfold step quoteOf emit
  by_cases hs : st.inString <;> simp only [hs, ite_true, Bool.false_eq_true, ite_false]
  · simp
  · by_cases hq : isQuote c
    · have : c ≠ semicolon := by rintro rfl; simp [isQuote, semicolon] at hq
      simp [hq, this]
    · by_cases hc : c = semicolon <;> simp [hq, hc, List.filter_cons]; split_ifs <;> simp

theorem current_step (st : State) (prev : Option UInt8) (c : UInt8) :
    (step st prev c).current =
      if quoteOf st = none ∧ c = semicolon then [] else st.current ++ [c] := by
  unfold step quoteOf
  by_cases hs : st.inString <;> simp only [hs, ite_true, Bool.false_eq_true, ite_false]
  · simp
  · by_cases hq : isQuote c
    · have : c ≠ semicolon := by rintro rfl; simp [isQuote, semicolon] at hq
      simp [hq, this]
    · by_cases hc : c = semicolon <;> simp [hq, hc]

/-- The loop refines the pieces: what it has emitted, then the trimmed pieces of the rest
of the script, the first one continuing the builder. -/
theorem flush_loop (st : State) (prev : Option UInt8) (cs : List UInt8) :
    flush (loop st prev cs) =
      st.statements ++ emit ((pieces (quoteOf st) prev cs).modifyHead (st.current ++ ·)) := by
  induction cs generalizing st prev with
  | nil => simp [loop, flush, pieces, emit, List.filter_cons]; split_ifs <;> simp
  | cons c cs ih =>
    rw [loop, ih, quoteOf_step, statements_step, current_step, pieces]
    split
    · simpa using (emit_cons _ _).symm
    · simp [Function.comp_def]

theorem splitStatements_eq_emit (script : List UInt8) :
    splitStatements script = emit (pieces none none script) := by
  rw [splitStatements, flush_loop]; simp [quoteOf, Function.comp_def]

theorem mem_splitStatements {script t : List UInt8} (ht : t ∈ splitStatements script) :
    t ≠ [] ∧ trimSpace t = t := by
  rw [splitStatements_eq_emit, emit, List.mem_filter, List.mem_map] at ht
  obtain ⟨⟨p, -, rfl⟩, hne⟩ := ht
  exact ⟨by simpa using hne, trimSpace_trimSpace p⟩

/-- The script is the pieces joined at some of its semicolons, and the statements are the
trimmed pieces that are not blank: nothing is lost, altered or reordered. -/
theorem splitStatements_decomposition (script : List UInt8) :
    ∃ ps, ps ≠ [] ∧ script = join [semicolon] ps ∧
      splitStatements script = (ps.map trimSpace).filter (· ≠ []) ∧
      ∀ t ∈ splitStatements script, t ≠ [] ∧ trimSpace t = t := by
  refine ⟨pieces none none script, pieces_ne_nil _ _ _, (join_pieces _ _ _).symm,
    splitStatements_eq_emit script, fun _ => mem_splitStatements⟩

example : splitStatements (bytes "SELECT 'a;b'; SELECT 2") =
    [bytes "SELECT 'a;b'", bytes "SELECT 2"] := by decide

end MaudeStore.Splitter
