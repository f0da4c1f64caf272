import OsExercises.BlockArray.Benchmark
import OsExercises.BlockArray.Insertion
import OsExercises.BlockArray.Library
import OsExercises.BlockArray.Nearest
import OsExercises.BlockArray.Refinement
import OsExercises.BlockArray.StaticNearest
import OsExercises.BoundedBuffer.Memory
import OsExercises.BoundedBuffer.Mutex.Completeness
import OsExercises.BoundedBuffer.Mutex.Progress
import OsExercises.BoundedBuffer.Semaphore.Completeness
import OsExercises.BoundedBuffer.Semaphore.Termination
import OsExercises.BoundedBuffer.Semaphore.TimeLimit
import OsExercises.BoundedBuffer.Semaphore.Wakeups
import OsExercises.BoundedBuffer.Shutdown
import OsExercises.DirectorySearch.Agreement
import OsExercises.DirectorySearch.Partition
import OsExercises.DirectorySearch.TreeWalk
import OsExercises.Foundation.Channel
import OsExercises.Foundation.Conversation
import OsExercises.Foundation.Decimals
import OsExercises.Foundation.Exclusion
import OsExercises.Foundation.Files
import OsExercises.Foundation.Minima
import OsExercises.Foundation.Ring
import OsExercises.Foundation.Scanning
import OsExercises.Foundation.Termination
import OsExercises.Foundation.Text
import OsExercises.Foundation.TransitionSystem
import OsExercises.ImageFilter.Generator
import OsExercises.ImageFilter.Joining
import OsExercises.ImageFilter.Kernels
import OsExercises.ImageFilter.PortableGraymap
import OsExercises.MessageServer.Arithmetic
import OsExercises.MessageServer.Capacity
import OsExercises.MessageServer.Completion
import OsExercises.MessageServer.Descriptors
import OsExercises.MessageServer.Mirror
import OsExercises.MessageServer.Registration
import OsExercises.MessageServer.Waiting
import OsExercises.NamedPipe.Reader
import OsExercises.NamedPipe.Termination
import OsExercises.RecordSort.Copying
import OsExercises.RecordSort.Overstated
import OsExercises.Shell.Hygiene
import OsExercises.Shell.Composition
import OsExercises.Shell.Vectors
import OsExercises.Shell.Wiring
import OsExercises.SignalModes.Acknowledged
import OsExercises.SignalModes.RealTime
import OsExercises.SignalModes.Termination
import OsExercises.SleepingBarber.FailedSends
import OsExercises.SleepingBarber.Handshake
import OsExercises.SleepingBarber.Termination
import OsExercises.Timing.Reports
import OsExercises.WorkRequests.Endings
