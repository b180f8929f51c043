import Aegis.Library.Execution
import Aegis.Library.Beside
import Aegis.Library.Session
import Aegis.Library.Interleaving
import Aegis.Library.Code
import Aegis.Library.Threads
import Aegis.Library.Linearization
import Aegis.Library.Specification
import Aegis.Library.Waiting
import Aegis.Library.History
import Aegis.Library.Table
import Aegis.Library.LastWins
import Aegis.Library.Ownership
import Aegis.Library.Path
import Aegis.Library.FileTree
import Aegis.Library.Layout
import Aegis.Library.BoundedMap
import Aegis.Library.Ring
import Aegis.Library.Regex
import Aegis.Library.Words
import Aegis.Library.JsonText
import Aegis.Library.Json
import Aegis.Library.JsonTemplate
import Aegis.Library.JsonEncoder
import Aegis.Library.JsonWriter
import Aegis.Library.Http
import Aegis.Status
import Aegis.Ebpf.Events
import Aegis.Ebpf.RingBuffer
import Aegis.Ebpf.Programs
import Aegis.Ebpf.Loader
import Aegis.Ebpf.ProcessMonitor
import Aegis.Ebpf.Loading
import Aegis.Ebpf.Bookkeeping
import Aegis.Ebpf.Polling
import Aegis.Ebpf.Reader
import Aegis.Ebpf.Lifetime
import Aegis.Ebpf.Pipeline
import Aegis.Ebpf.Settings
import Aegis.Ebpf.Reach
import Aegis.Policy.Engine
import Aegis.Policy.Store
import Aegis.Policy.Yaml
import Aegis.Policy.Extraction
import Aegis.Policy.Readings
import Aegis.Policy.Cidrs
import Aegis.Policy.Lines
import Aegis.Policy.Rendering
import Aegis.Policy.Documents
import Aegis.Policy.Edits
import Aegis.Policy.Styles
import Aegis.Runtime.Host
import Aegis.Runtime.Cgroup
import Aegis.Runtime.Attribution
import Aegis.Runtime.Sandbox
import Aegis.Runtime.Stages
import Aegis.Runtime.HttpClient
import Aegis.Runtime.Delivery
import Aegis.Runtime.Creation
import Aegis.Runtime.Firecracker
import Aegis.Runtime.Termination
import Aegis.Runtime.Calls
import Aegis.Runtime.Enforcement
import Aegis.Runtime.Rollback
import Aegis.Runtime.Locking
import Aegis.Runtime.Isolation
import Aegis.Runtime.Capacity
import Aegis.Runtime.Containment
import Aegis.Runtime.Monitoring
import Aegis.Runtime.Descriptors
import Aegis.Runtime.Consistency
import Aegis.Runtime.Lifetime
import Aegis.Runtime.ControlFiles
import Aegis.Runtime.Separation
import Aegis.Runtime.Teardown
import Aegis.Runtime.Reaping
import Aegis.Runtime.Actions
import Aegis.Runtime.Threads
import Aegis.Runtime.Verdicts
import Aegis.Runtime.Registry
import Aegis.Runtime.RoundTrip
import Aegis.Guest.Agent
import Aegis.Guest.Outcomes
import Aegis.Guest.ChildEnvironment
import Aegis.Guest.Protocol
import Aegis.Guest.Encoder
import Aegis.Guest.Scripts
import Aegis.Guest.Service
import Aegis.Guest.Wiping
import Aegis.Cli.Processes
import Aegis.Cli.Signals
import Aegis.Cli.Arguments
