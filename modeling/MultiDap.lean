import MultiDap.Session.Configuration
import MultiDap.Daemon.Breakpoints
import MultiDap.Daemon.Paging
import MultiDap.Actor.Coverage
import MultiDap.Actor.FailClosed
import MultiDap.Actor.Lifetime
import MultiDap.Actor.Attribution
import MultiDap.Actor.Lease
import MultiDap.Actor.Rollback
import MultiDap.Multi.Place
import MultiDap.Multi.Execution
import MultiDap.Bridge.Command
import MultiDap.Bridge.Reader
import MultiDap.Bridge.Session
import MultiDap.Perf.Recorder
import MultiDap.TimeMachine.Export
import MultiDap.Trace.Release
import MultiDap.Trace.Replies
import MultiDap.Trace.Close
import MultiDap.Trace.Ranges
