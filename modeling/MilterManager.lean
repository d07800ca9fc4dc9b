import MilterManager.Base.Chunks
import MilterManager.Base.Comparison
import MilterManager.Base.Cursor
import MilterManager.Base.Framing
import MilterManager.Base.Merge
import MilterManager.Base.Occurrence
import MilterManager.Base.Outputs
import MilterManager.Base.Proc
import MilterManager.Base.Runs
import MilterManager.Base.Table
import MilterManager.Base.Windows
import MilterManager.Core.Headers
import MilterManager.Core.Option
import MilterManager.Core.Protocol
import MilterManager.Core.ReplyCode
import MilterManager.Core.Ascii
import MilterManager.Codec.Memory
import MilterManager.Codec.Decoder
import MilterManager.Codec.Packet
import MilterManager.Codec.CommandDecoder
import MilterManager.Codec.ReplyDecoder
import MilterManager.Codec.Fields
import MilterManager.Codec.CommandFields
import MilterManager.Codec.ReplyFields
import MilterManager.Codec.Locality
import MilterManager.Codec.CommandLocality
import MilterManager.Codec.ReplyLocality
import MilterManager.Codec.Stream
import MilterManager.Codec.ChunkInvariance
import MilterManager.Codec.Discipline
import MilterManager.Codec.CommandDiscipline
import MilterManager.Codec.ReplyDiscipline
import MilterManager.Codec.ErrorDiscipline
import MilterManager.Codec.Encoder
import MilterManager.Codec.CommandEncoder
import MilterManager.Codec.RoundTrip
import MilterManager.Codec.CommandRoundTrip
import MilterManager.Codec.ReplyEncoder
import MilterManager.Codec.ReplyRoundTrip
import MilterManager.Codec.EncoderHistory
import MilterManager.Codec.Sequence
import MilterManager.Control.Protocol
import MilterManager.Control.RoundTrip
import MilterManager.Server.Context
import MilterManager.Server.Macros
import MilterManager.Server.MacroCache
import MilterManager.Server.MessageReports
import MilterManager.Client.Context
import MilterManager.Client.ReplyLines
import MilterManager.Client.ReplyCodeText
import MilterManager.Client.Session
import MilterManager.Client.ReplyFreshness
import MilterManager.Client.Buffering
import MilterManager.Client.SetReply
import MilterManager.Client.Accounting
import MilterManager.Children.HeaderDiff
import MilterManager.Children.HeaderReplay
import MilterManager.Children.State
import MilterManager.Children.Connection
import MilterManager.Children.Status
import MilterManager.Children.Message
import MilterManager.Children.Commands
import MilterManager.Children.Negotiation
import MilterManager.Children.Callbacks
import MilterManager.Children.ConnectionKeeps
import MilterManager.Children.ObjectKeeps
import MilterManager.Children.RunKeeps
import MilterManager.Children.ContextsKeep
import MilterManager.Children.EvaluationMode
import MilterManager.Children.NegotiateOnce
import MilterManager.Children.ReplyAggregation
import MilterManager.Children.NegotiateOutcome
import MilterManager.Children.NegotiateAttempts
import MilterManager.Children.ContextRun
import MilterManager.Children.Waiting
import MilterManager.Children.BodyTransport
import MilterManager.Children.BodyStorage
import MilterManager.Children.Recipients
import MilterManager.Children.AbortFlush
import MilterManager.Leader.Leader
import MilterManager.Leader.Session
import MilterManager.Leader.NegotiateOnce
import MilterManager.Manager.Manager
import MilterManager.Manager.Bookkeeping
import MilterManager.Agent.Writer
import MilterManager.Agent.Shutdown
import MilterManager.Agent.Link
import MilterManager.Agent.SharedChannel
import MilterManager.Launcher.ProcessLauncher
import MilterManager.Launcher.LauncherSystem
import MilterManager.Control.Configuration
import MilterManager.Control.Controller
import MilterManager.Connection.Spec
import MilterManager.Esmtp.Parser
import MilterManager.Esmtp.Grammar
import MilterManager.Events.Watchers
import MilterManager.Tool.TestServer
import MilterManager.Tool.TestInvariant
import MilterManager.Tool.TestSession
import MilterManager.Tool.TestGaps
import MilterManager.Tool.TestCompletion
import MilterManager.Tool.MailFile
import MilterManager.Tool.MailFormat
import MilterManager.Tool.MailSession
