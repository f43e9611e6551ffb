import PlatformBridge.Main
import PlatformBridge.Proofs.Action.History
import PlatformBridge.Proofs.Lifecycle.Course
import PlatformBridge.Proofs.Lifecycle.Delivery
import PlatformBridge.Proofs.Lifecycle.Ledger
import PlatformBridge.Proofs.Lifecycle.Trail
import PlatformBridge.Rehearsal.Activity
import PlatformBridge.Rehearsal.FileTree
import PlatformBridge.Rehearsal.Lifecycle
import PlatformBridge.Rehearsal.Registration
import PlatformBridge.Proofs.Lifecycle.Run
import PlatformBridge.Proofs.Engine.Crossing
import PlatformBridge.Proofs.Engine.Marshalling
import PlatformBridge.Proofs.Lifecycle.Forwarding
import PlatformBridge.Proofs.Lifecycle.Itinerary
import PlatformBridge.Proofs.Android.Request
import PlatformBridge.Proofs.Android.Life
import PlatformBridge.Proofs.Android.Mirror
import PlatformBridge.Proofs.Engine.Registration
import PlatformBridge.Proofs.Host.Survey
import PlatformBridge.Proofs.Simulator.Session
import PlatformBridge.Proofs.Host.Handover
import PlatformBridge.Proofs.Android.Harmless
import PlatformBridge.Proofs.Android.Abort
import PlatformBridge.Proofs.Lifecycle.Attribution
import PlatformBridge.Proofs.Android.Inheritance
import PlatformBridge.Proofs.Android.Exceptions
import PlatformBridge.Proofs.Json.Literal
import PlatformBridge.Proofs.Json.Spelling
import PlatformBridge.Proofs.Json.Faithful
import PlatformBridge.Proofs.Json.Documents
import PlatformBridge.Proofs.Simulator.Program
import PlatformBridge.Proofs.Lifecycle.FirstFailure
import PlatformBridge.Proofs.Lifecycle.Record
import PlatformBridge.Proofs.Lifecycle.Account
import PlatformBridge.Proofs.Simulator.Change
import PlatformBridge.Proofs.Json.Grammar
import PlatformBridge.Proofs.Json.Passing
import PlatformBridge.Proofs.Json.Meaning
import PlatformBridge.Proofs.Json.Scalars
import PlatformBridge.Proofs.Json.Members
import PlatformBridge.Proofs.Json.Overlay
import PlatformBridge.Proofs.Json.Overrides
import PlatformBridge.Proofs.Host.Bookkeeping
import PlatformBridge.Proofs.Host.Collected
import PlatformBridge.Proofs.Settings.Gate
import PlatformBridge.Proofs.Host.ExecutablePath
import PlatformBridge.Proofs.Android.Dimensions
