import Tilck.Config
import Tilck.Utils
import Tilck.PendingSet
import Tilck.Kernel
import Tilck.Signal
import Tilck.Syscalls
import Tilck.Sched
import Tilck.System
import Tilck.Dispositions
import Tilck.JobControl
import Tilck.Wakeups
import Tilck.MaskBuffers
import Tilck.Provenance
import Tilck.DebugPanel
import Tilck.FpuBuffers
import Tilck.SigFrames
