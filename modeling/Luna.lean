import Luna.Console
import Luna.Net.TxService
import Luna.Net.TxHostile
import Luna.UserHeap
import Luna.HeapContents
import Luna.PageHeap
import Luna.Timer
import Luna.Net.TxChild
import Luna.Net.TxHandshake
import Luna.Net.TxSlots
import Luna.Net.TxCoalescing
import Luna.Net.TxFinish
import Luna.Net.RxService
import Luna.Net.RxDelivery
import Luna.Net.RxWakeup
import Luna.Disk.Durability
import Luna.Sync.PoolExclusion
import Luna.ThreadsSafety
import Luna.Child.Rollback
import Luna.Child.BootProtocol
import Luna.Child.Smoke
import Luna.Net.TxOrder
import Luna.Child.HeapMessages
import Luna.TimerCallbackSafety
import Luna.TimerRearm
import Luna.TimerDeactivate
import Luna.Static.Pipeline
import Luna.Static.WorkerFiles
import Luna.Static.Stdin
import Luna.Static.StdinSeek
import Luna.Static.Streams
import Luna.Static.FreadCount
import Luna.Static.Getopt
import Luna.Static.StreamPosition
import Luna.Net.TxWake
import Luna.Net.Teardown
import Luna.TimerDeadlines
import Luna.TimerGenerations
import Luna.Disk.HostileWindow
import Luna.Disk.WindowWords
import Luna.Disk.ClaimTokens
import Luna.Disk.PendingWrap
import Luna.Disk.PlainArray
import Luna.Percentiles
import Luna.Clocks
import Luna.TimerStatistics
import Luna.Tls.Isolation
import Luna.ThreadsReturn
import Luna.Static.Reaping
import Luna.Realpath.Lookup
import Luna.HeapPointers
import Luna.HeapThreads
import Luna.Net.TxStream
import Luna.Net.RxBurstRecovery
