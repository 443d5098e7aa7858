import Gonggo.AcknowledgedRequests
import Gonggo.ActivationLedger
import Gonggo.ActivationTimeout
import Gonggo.AliveNotification
import Gonggo.ChannelDeadlock
import Gonggo.ChannelExchange
import Gonggo.ChannelInvariants
import Gonggo.ChannelRestart
import Gonggo.ClientIsolation
import Gonggo.ClientStream
import Gonggo.ClosedConnections
import Gonggo.ClosedRequests
import Gonggo.ConfvarLong
import Gonggo.ConnectionClose
import Gonggo.DbCalls
import Gonggo.EnvelopeIntegrity
import Gonggo.KillDeadlock
import Gonggo.MutexBalance
import Gonggo.PidFile
import Gonggo.ProxyIsolation
import Gonggo.ProxynameRefinement
import Gonggo.ProxynameSearch
import Gonggo.QueueRefinement
import Gonggo.ReplyHeaders
import Gonggo.RequestExpiry
import Gonggo.ReservedService
import Gonggo.RespondQuery
import Gonggo.ResponseCursor
import Gonggo.ResponsePaging
import Gonggo.ResponsePurge
import Gonggo.RestQuery
import Gonggo.RestResponses
import Gonggo.RouteAdmission
import Gonggo.SegmentNames
import Gonggo.Shutdown
import Gonggo.StoreAgreement
import Gonggo.SubscribeAnswers
import Gonggo.TerminalOutcomes
import Gonggo.TerminatedIncarnation
import Gonggo.WakeupDelivery
import Gonggo.WorkProgress
