import TokioProcessTools.Foundation.BoundedChannel
import TokioProcessTools.Foundation.BroadcastRing
import TokioProcessTools.Foundation.Checked
import TokioProcessTools.Foundation.Fragments
import TokioProcessTools.Foundation.Indexed
import TokioProcessTools.Foundation.Longest
import TokioProcessTools.Foundation.Machine
import TokioProcessTools.Foundation.Program
import TokioProcessTools.Foundation.Settling
import TokioProcessTools.Foundation.SuffixWindow
import TokioProcessTools.Foundation.Tiling
import TokioProcessTools.Foundation.Transducer
import TokioProcessTools.Foundation.Utf8Length
import TokioProcessTools.Foundation.Utf8Lossy
import TokioProcessTools.Foundation.Utf8Text
import TokioProcessTools.OutputStream.Backend.Account
import TokioProcessTools.OutputStream.Backend.Broadcast.Fanout
import TokioProcessTools.OutputStream.Backend.Broadcast.FanoutEnd
import TokioProcessTools.OutputStream.Backend.Broadcast.FanoutHistory
import TokioProcessTools.OutputStream.Backend.Broadcast.FanoutInvariant
import TokioProcessTools.OutputStream.Backend.Broadcast.FanoutLines
import TokioProcessTools.OutputStream.Backend.Broadcast.FanoutMoves
import TokioProcessTools.OutputStream.Backend.Broadcast.FanoutSettles
import TokioProcessTools.OutputStream.Backend.Broadcast.Fast
import TokioProcessTools.OutputStream.Backend.Broadcast.FastDelivery
import TokioProcessTools.OutputStream.Backend.Broadcast.FastEnd
import TokioProcessTools.OutputStream.Backend.Broadcast.FastLines
import TokioProcessTools.OutputStream.Backend.Broadcast.FastSettles
import TokioProcessTools.OutputStream.Backend.Broadcast.FastTerminal
import TokioProcessTools.OutputStream.Backend.Broadcast.LiveQueue
import TokioProcessTools.OutputStream.Backend.Broadcast.LiveQueueWakeup
import TokioProcessTools.OutputStream.Backend.Broadcast.LiveReceivers
import TokioProcessTools.OutputStream.Backend.Broadcast.Lossy
import TokioProcessTools.OutputStream.Backend.Broadcast.LossyDelivery
import TokioProcessTools.OutputStream.Backend.Broadcast.Reliable
import TokioProcessTools.OutputStream.Backend.Broadcast.State
import TokioProcessTools.OutputStream.Backend.ReplayWindow
import TokioProcessTools.OutputStream.Backend.SingleSubscriber.Coherence
import TokioProcessTools.OutputStream.Backend.SingleSubscriber.End
import TokioProcessTools.OutputStream.Backend.SingleSubscriber.Gaps
import TokioProcessTools.OutputStream.Backend.SingleSubscriber.Handoff
import TokioProcessTools.OutputStream.Backend.SingleSubscriber.History
import TokioProcessTools.OutputStream.Backend.SingleSubscriber.Lag
import TokioProcessTools.OutputStream.Backend.SingleSubscriber.Lines
import TokioProcessTools.OutputStream.Backend.SingleSubscriber.Moves
import TokioProcessTools.OutputStream.Backend.SingleSubscriber.Registration
import TokioProcessTools.OutputStream.Backend.SingleSubscriber.Settles
import TokioProcessTools.OutputStream.Backend.SingleSubscriber.State
import TokioProcessTools.OutputStream.Backend.SingleSubscriber.Stream
import TokioProcessTools.OutputStream.Backend.SubscriptionEnd
import TokioProcessTools.OutputStream.Config
import TokioProcessTools.OutputStream.Consumer
import TokioProcessTools.OutputStream.ConsumerProtocol
import TokioProcessTools.OutputStream.Event
import TokioProcessTools.OutputStream.Line.Adapter
import TokioProcessTools.OutputStream.Line.ByteMachine
import TokioProcessTools.OutputStream.Line.DecodedLines
import TokioProcessTools.OutputStream.Line.Driving
import TokioProcessTools.OutputStream.Line.DroppedChunks
import TokioProcessTools.OutputStream.Line.Options
import TokioProcessTools.OutputStream.Line.Parser
import TokioProcessTools.OutputStream.Line.ParserCalls
import TokioProcessTools.OutputStream.Line.ReferenceSplitter
import TokioProcessTools.OutputStream.Line.StreamLines
import TokioProcessTools.OutputStream.Line.Visiting
import TokioProcessTools.OutputStream.Line.WaitForLine
import TokioProcessTools.OutputStream.Visitor
import TokioProcessTools.OutputStream.Visitors.Chunks
import TokioProcessTools.OutputStream.Visitors.Collect
import TokioProcessTools.OutputStream.Visitors.CollectedBytes
import TokioProcessTools.OutputStream.Visitors.CollectedLines
import TokioProcessTools.OutputStream.Visitors.Write
import TokioProcessTools.OutputStream.Visitors.WriteFailures
import TokioProcessTools.OutputStream.Visitors.WriteRoundTrip
import TokioProcessTools.ProcessHandle.AlreadyExited
import TokioProcessTools.ProcessHandle.Answers
import TokioProcessTools.ProcessHandle.Disposal
import TokioProcessTools.ProcessHandle.DropSafeguard
import TokioProcessTools.ProcessHandle.Error
import TokioProcessTools.ProcessHandle.Escalation
import TokioProcessTools.ProcessHandle.Group
import TokioProcessTools.ProcessHandle.OutputCollection.Collectors
import TokioProcessTools.ProcessHandle.OutputCollection.Drain
import TokioProcessTools.ProcessHandle.OutputCollection.DrainOutcome
import TokioProcessTools.ProcessHandle.OutputCollection.Release
import TokioProcessTools.ProcessHandle.OutputCollection.WholeOutput
import TokioProcessTools.ProcessHandle.State
import TokioProcessTools.ProcessHandle.Termination
import TokioProcessTools.ProcessHandle.TotalTimeout
