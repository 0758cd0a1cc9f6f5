import MaudeStore.GoString

/-! Go error values as the store reads them: by their message, and along the chain of
wrapped errors that errors.As and errors.Is walk. -/
namespace MaudeStore.Errors
open GoString

/-- A message from the driver or the server, an fmt.Errorf wrapping with %w (the text before
and after the wrapped message), a *backoff.PermanentError, or context.Canceled. -/
inductive Err
  | base (msg : List UInt8)
  | wrap (before after : List UInt8) (inner : Err)
  | permanent (inner : Err)
  | canceled
  deriving DecidableEq, Repr

namespace Err

def error : Err → List UInt8
  | base m => m
  | wrap b a e => b ++ e.error ++ a
  | permanent e => e.error
  | canceled => bytes "context canceled"

/-- errors.As with a *backoff.PermanentError target, read as the target's Err: the first
PermanentError on the chain. -/
def permanentErr : Err → Option Err
  | base _ | canceled => none
  | wrap _ _ e => e.permanentErr
  | permanent e => some e

def isCanceled : Err → Bool
  | base _ => false
  | wrap _ _ e | permanent e => e.isCanceled
  | canceled => true

end Err

def wrapf (context : String) (e : Err) : Err := .wrap (bytes context) [] e

/-- strings.Contains(strings.ToLower(err.Error()), n) for some n of the needles: how the
store recognises an error by its text. -/
def mentions (e : Err) (needles : List String) : Bool :=
  needles.any fun n => contains (toLower e.error) (bytes n)

def isRetryableError : Option Err → Bool
  | none => false
  | some e =>
    mentions e ["driver: bad connection", "invalid connection", "broken pipe", "connection reset"]

end MaudeStore.Errors
