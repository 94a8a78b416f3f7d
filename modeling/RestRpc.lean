import RestRpc.Automaton
import RestRpc.Octets
import RestRpc.Chunks
import RestRpc.Numeral
import RestRpc.Pipes
import RestRpc.Protocol
import RestRpc.CrossEnding
import RestRpc.ErrorCode
import RestRpc.Md5
import RestRpc.Codec
import RestRpc.Router
import RestRpc.Registry
import RestRpc.Dispatch
import RestRpc.Connection
import RestRpc.Writes
import RestRpc.ResponseFrames
import RestRpc.Client
import RestRpc.Framing
import RestRpc.Call
import RestRpc.IntegerTuples
import RestRpc.FrameEnds
import RestRpc.CallError
import RestRpc.CallRoundTrip
import RestRpc.ArgumentPassing
import RestRpc.ArgumentTypes
import RestRpc.ArgumentConversion
import RestRpc.Server
import RestRpc.AcceptLoop
import RestRpc.StartOutcome
import RestRpc.SubOperations
import RestRpc.HandlerCompletion
import RestRpc.SessionHandlers
import RestRpc.Shutdown
import RestRpc.IdleTimeout
import RestRpc.Lifetime
import RestRpc.ContextBinding
import RestRpc.DelayFlag
import RestRpc.RequestFrames
import RestRpc.ErrorFrames
import RestRpc.PubSub
import RestRpc.TopicIds
import RestRpc.Session
import RestRpc.SubscribeHeader
import RestRpc.Awaited
import RestRpc.OwnResponse
import RestRpc.Feed
import RestRpc.FeedOrder
import RestRpc.OverlappingCalls
import RestRpc.CallLine
import RestRpc.CallTurns
import RestRpc.WatchdogRace
import RestRpc.BinaryFloat
import RestRpc.DecimalText
import RestRpc.DoubleText
import RestRpc.Doubles
import RestRpc.FunctionName
import RestRpc.WholeNumeral
import RestRpc.InPlaceReader
import RestRpc.PackTypes
import RestRpc.Packer
import RestRpc.Unpacker
import RestRpc.TextAcceptance
import RestRpc.ElementBound
import RestRpc.TypeLiterals
import RestRpc.PackedCalls
import RestRpc.CheckTimer
import RestRpc.RequestOrder
import RestRpc.PublishRounds
import RestRpc.CallProgress
import RestRpc.BlockDigest
import RestRpc.Md5Standard
import RestRpc.IoContextPool
import RestRpc.BodyBuffer
import RestRpc.ReceivedFrames
import RestRpc.Readers
