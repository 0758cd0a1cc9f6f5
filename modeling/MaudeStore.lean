import MaudeStore.GoString
import MaudeStore.Splitter
import MaudeStore.SplitLaws
import MaudeStore.Dsn
import MaudeStore.Errors
import MaudeStore.Retry
import MaudeStore.Program
import MaudeStore.Lifecycle
import MaudeStore.Pipeline
import MaudeStore.Server
import MaudeStore.Concurrent
import MaudeStore.Progress
import MaudeStore.Evolution
import MaudeStore.FirstRun
import MaudeStore.Recovery
