import Rtapi.Basic
import Rtapi.Time
import Rtapi.Os
import Rtapi.Affinity
import Rtapi.Workers
import Rtapi.Interleaving
import Rtapi.Linux.State
import Rtapi.Linux.Module
import Rtapi.Linux.Task
import Rtapi.Linux.Start
import Rtapi.Linux.Wait
import Rtapi.Linux.Step
import Rtapi.Linux.Threads
import Rtapi.Linux.Slots
import Rtapi.Linux.Period
import Rtapi.Linux.Deadline
import Rtapi.Linux.Stop
import Rtapi.Linux.Stacks
import Rtapi.Linux.Independence
import Rtapi.Linux.Client
import Rtapi.Preempt.State
import Rtapi.Preempt.Module
import Rtapi.Preempt.Task
import Rtapi.Preempt.Threads
import Rtapi.Preempt.Self
import Rtapi.Preempt.Slots
import Rtapi.Preempt.Stop
import Rtapi.Preempt.Independence
import Rtapi.Preempt.Client
import Rtapi.Flavours
