import ExecutionHandoff.Takeover.SessionUses
import ExecutionHandoff.Core.HumanSurfaceGrants
import ExecutionHandoff.Core.HumanSurfaceSettling
import ExecutionHandoff.Core.HandoffOwner
import ExecutionHandoff.Core.ExecutionRuntime
import ExecutionHandoff.Transport.CoordinatorOrder
import ExecutionHandoff.Transport.ManagedRevocation
import ExecutionHandoff.Transport.ManagedCompletion
import ExecutionHandoff.Experimental.TerminalQueue
import ExecutionHandoff.Experimental.TransportRevocation
import ExecutionHandoff.Experimental.TerminalOutput
import ExecutionHandoff.Hosted.GateAgreement
import ExecutionHandoff.Hosted.LifecycleOrder
import ExecutionHandoff.Hosted.LatestFrameBridge
import ExecutionHandoff.Hosted.HumanInputBridge
import ExecutionHandoff.Broker.CompletionOnce
import ExecutionHandoff.WebSocket.ChannelFrames
import ExecutionHandoff.WebSocket.ChannelTermination
import ExecutionHandoff.WebSocket.FrameWire
import ExecutionHandoff.WebSocket.IngressLeases
import ExecutionHandoff.WebSocket.WindowHandoff
import ExecutionHandoff.Runtime.NativeRuntime
import ExecutionHandoff.Surface.WindowSurfaceClose
import ExecutionHandoff.Surface.InputChainSteps
import ExecutionHandoff.Host.HostShutdown
import ExecutionHandoff.Host.HelperRuns
import ExecutionHandoff.Host.HostCommands
import ExecutionHandoff.Host.WindowAuthority
import ExecutionHandoff.WebRtc.IdrRequests
import ExecutionHandoff.Host.RetainedBytes
import ExecutionHandoff.Host.CancellationPoint
import ExecutionHandoff.TakeoverCore.Session
import ExecutionHandoff.TakeoverCore.InputServer
import ExecutionHandoff.TakeoverCore.SecureCodecs
import ExecutionHandoff.TakeoverCore.SecureVideoReceiver
import ExecutionHandoff.Browser.TextReplacement
import ExecutionHandoff.Browser.DesktopViewer
import ExecutionHandoff.Browser.PinchTransform
import ExecutionHandoff.Host.VideoOutput
