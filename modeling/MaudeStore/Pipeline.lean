import MaudeStore.SplitLaws
import MaudeStore.Program

/-! What initSchemaOnDB executes of a script with comments in it. The splitter knows no
comments, and isOnlyComments only drops the fragments that hold nothing else: a script keeps
its statements when every comment's text is closed by the splitter's reading. -/
namespace MaudeStore.Pipeline
open GoString Splitter SplitLaws Errors Program

def execEach (db : Nat) (onErr : List UInt8 → Err → Err) : List (List UInt8) → Prog (Option Err)
  | [] => pure none
  | s :: rest => orFail (exec db s) (onErr s) (execEach db onErr rest)

/-- The fragments of a split script that execStatements executes: trimmed, neither blank nor
only comments. -/
def submitted (ss : List (List UInt8)) : List (List UInt8) :=
  (ss.map trimSpace).filter fun t => t ≠ [] && !isOnlyComments t

/-- execStatements executes exactly the submitted fragments, in order. -/
theorem execStatements_eq_execEach (db : Nat) (onErr : List UInt8 → Err → Err)
    (ss : List (List UInt8)) : execStatements db onErr ss = execEach db onErr (submitted ss) := by
  induction ss with
  | nil => rfl
  | cons s ss ih =>
    by_cases he : trimSpace s = []
    · simp [execStatements, submitted, he, ih]
    by_cases hc : isOnlyComments (trimSpace s)
    · simp [execStatements, submitted, he, hc, ih]
    · simp only [submitted] at ih
      simp [execStatements, submitted, execEach, he, hc, ih]

/-- White space and line comments: ASCII white-space bytes, and comments "--" text newline
whose text has no newline and is closed by the splitter's reading (its quotes pair up, and
no semicolon stands outside them). -/
inductive Filler : List UInt8 → Prop
  | nil : Filler []
  | space {b : UInt8} {c : List UInt8} : isAsciiSpace b → Filler c → Filler (b :: c)
  | comment {t c : List UInt8} : 10 ∉ t → Closed t → Filler c → Filler (45 :: 45 :: t ++ 10 :: c)

def TrailingFiller (c : List UInt8) : Prop :=
  Filler c ∨ ∃ pre t, Filler pre ∧ 10 ∉ t ∧ Closed t ∧ c = pre ++ 45 :: 45 :: t

theorem Filler.closed {c : List UInt8} (h : Filler c) : Closed c := by
  induction h with
  | nil => exact .nil
  | space hb _ ih => exact .byte (spaceByte_plain (by simp [spaceByte, hb])) ih
  | comment _ ht _ ih =>
    exact .byte (by decide) (.byte (by decide) (ht.append (.byte (by decide) ih)))

theorem TrailingFiller.closed {c : List UInt8} (h : TrailingFiller c) : Closed c := by
  rcases h with h | ⟨pre, t, hpre, -, ht, rfl⟩
  · exact h.closed
  · exact hpre.closed.append (.byte (by decide) (.byte (by decide) ht))

end MaudeStore.Pipeline
