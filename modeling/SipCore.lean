import SipCore.Library.AssocMap
import SipCore.Library.GuardedRun
import SipCore.Library.CircularPosition
import SipCore.Library.FilterPrefix
import SipCore.Library.Pairing
import SipCore.Library.JsonValue
import SipCore.Library.Emission
import SipCore.Library.Regex
import SipCore.Library.Statements
import SipCore.Library.ClampedSum
import SipCore.Library.SearchEquality
import SipCore.Library.Tiling
import SipCore.Library.SlidingWindow
import SipCore.Library.ListMove
import SipCore.Audio.RingBuffer
import SipCore.Audio.RingBufferDelivery
import SipCore.Audio.RingBufferPool
import SipCore.Audio.RingBufferContents
import SipCore.Audio.PoolData
import SipCore.Audio.Mixing
import SipCore.Audio.MicrophoneMute
import SipCore.Audio.MutedInfluence
import SipCore.Audio.G729Decoder
import SipCore.Audio.G729Encoder
import SipCore.Audio.G729Packets
import SipCore.Audio.AudioRtpSession
import SipCore.Audio.DtmfEvents
import SipCore.Media.Codec
import SipCore.Sdp.Session
import SipCore.Sdp.Answer
import SipCore.Sdp.AnswerMeaning
import SipCore.Sdp.IncomingOffer
import SipCore.Sdp.Descriptions
import SipCore.Sdp.SendCodec
import SipCore.Call.NegotiatedMedia
import SipCore.Media.MediaMap
import SipCore.Conference.HostSources
import SipCore.Conference.MediaChange
import SipCore.Conference.Room
import SipCore.Conference.MutedParticipants
import SipCore.Conference.Departure
import SipCore.Conference.HostMute
import SipCore.Conference.HostMuteSurvival
import SipCore.Conference.Protocol
import SipCore.Conference.Orders
import SipCore.Conference.ReceivedJson
import SipCore.Conference.ConfInfo
import SipCore.Conference.Hangup
import SipCore.Conference.VoiceActivity
import SipCore.Conference.RowUpdates
import SipCore.Sip.SdesNegotiator
import SipCore.Sip.RecoveryLimiter
import SipCore.Sip.ConnectivityRecovery
import SipCore.Sip.RouteResolution
import SipCore.Im.MessageEngine
import SipCore.Im.MessageDelivery
import SipCore.Im.MessageRetries
import SipCore.Account.AccountConfig
import SipCore.Account.ConfigFile
import SipCore.Account.ConfigDetails
import SipCore.Call.Hold
import SipCore.Call.MediaUpdate
import SipCore.Media.SocketReservation
import SipCore.Call.LocalPorts
import SipCore.Call.MediaChangeRequest
import SipCore.Media.SocketPair
import SipCore.Media.CongestionControl
import SipCore.Video.MixerPositions
import SipCore.Video.MixerLayout
import SipCore.Video.VoiceStates
import SipCore.Video.MixerSources
import SipCore.Video.MixerPasses
import SipCore.Video.MixerNotices
import SipCore.Library.PrefixCode
import SipCore.Library.Utf8Text
import SipCore.Connectivity.Utf8Utils
import SipCore.Audio.FrameResizer
import SipCore.Audio.PoolBindings
import SipCore.Library.SortedMap
import SipCore.ScheduledExecutor
import SipCore.Audio.DeviceSignature
import SipCore.Library.InPlaceFilter
import SipCore.Sdp.FilteredSdp
import SipCore.Sdp.NegotiableMedia
import SipCore.Library.HexDigits
import SipCore.Library.JsonObject
import SipCore.Im.MessageFile
import SipCore.Library.ReverseIndex
import SipCore.Rational
import SipCore.Sip.AccountTransport
import SipCore.Sip.TransportBroker
import SipCore.StringUtils
import SipCore.Library.Custody
import SipCore.Media.SocketOwnership
import SipCore.Video.LayoutUpdates
import SipCore.Call.ClientStates
import SipCore.RepeatedTask
