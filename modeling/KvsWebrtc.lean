import KvsWebrtc.Common.BigEndian
import KvsWebrtc.Common.Blocks
import KvsWebrtc.Common.BoundedMap
import KvsWebrtc.Common.Chunks
import KvsWebrtc.Common.Emits
import KvsWebrtc.Common.Fifo
import KvsWebrtc.Common.HoledQueue
import KvsWebrtc.Common.LastBest
import KvsWebrtc.Common.Loop
import KvsWebrtc.Common.Matching
import KvsWebrtc.Common.Memory
import KvsWebrtc.Common.Mutual
import KvsWebrtc.Common.Overwrite
import KvsWebrtc.Common.Ring
import KvsWebrtc.Common.Run
import KvsWebrtc.Common.SeqNum
import KvsWebrtc.Common.Status
import KvsWebrtc.Common.Text
import KvsWebrtc.Common.TwoPass
import KvsWebrtc.Crypto.Equiv.IOBuffer
import KvsWebrtc.Crypto.IOBuffer
import KvsWebrtc.Ice.Agent
import KvsWebrtc.Ice.Candidates
import KvsWebrtc.Ice.Connectivity
import KvsWebrtc.Ice.Equiv.Authentication
import KvsWebrtc.Ice.Equiv.CandidateString
import KvsWebrtc.Ice.Equiv.GatherTimer
import KvsWebrtc.Ice.Equiv.Gathering
import KvsWebrtc.Ice.Equiv.IceUtils
import KvsWebrtc.Ice.Equiv.Moves
import KvsWebrtc.Ice.Equiv.Network
import KvsWebrtc.Ice.Equiv.Nomination
import KvsWebrtc.Ice.Equiv.Pairs
import KvsWebrtc.Ice.Equiv.Priority
import KvsWebrtc.Ice.Equiv.Ready
import KvsWebrtc.Ice.Equiv.RemoteCandidates
import KvsWebrtc.Ice.Equiv.Selected
import KvsWebrtc.Ice.Equiv.Session
import KvsWebrtc.Ice.Equiv.StateMachine
import KvsWebrtc.Ice.Equiv.TurnChannelData
import KvsWebrtc.Ice.Equiv.TurnChannelDataBounds
import KvsWebrtc.Ice.GatherTimer
import KvsWebrtc.Ice.IceUtils
import KvsWebrtc.Ice.Network
import KvsWebrtc.Ice.StateMachine
import KvsWebrtc.Ice.TurnChannelData
import KvsWebrtc.JitterBuffer.Arrivals
import KvsWebrtc.JitterBuffer.Basic
import KvsWebrtc.JitterBuffer.Equiv.Checks
import KvsWebrtc.JitterBuffer.Equiv.Delivery
import KvsWebrtc.JitterBuffer.Equiv.Drop
import KvsWebrtc.JitterBuffer.Equiv.FrameData
import KvsWebrtc.JitterBuffer.Equiv.Invariant
import KvsWebrtc.JitterBuffer.Equiv.InvariantRun
import KvsWebrtc.JitterBuffer.Equiv.Latency
import KvsWebrtc.JitterBuffer.Equiv.LongFrame
import KvsWebrtc.JitterBuffer.Equiv.Order
import KvsWebrtc.JitterBuffer.Equiv.Ownership
import KvsWebrtc.JitterBuffer.Equiv.ParseMoves
import KvsWebrtc.JitterBuffer.Equiv.Pushes
import KvsWebrtc.JitterBuffer.Equiv.Refine
import KvsWebrtc.JitterBuffer.Equiv.StartPacket
import KvsWebrtc.JitterBuffer.Equiv.Touches
import KvsWebrtc.JitterBuffer.Equiv.Walk
import KvsWebrtc.JitterBuffer.Equiv.Window
import KvsWebrtc.JitterBuffer.FrameData
import KvsWebrtc.JitterBuffer.Frames
import KvsWebrtc.JitterBuffer.Parse
import KvsWebrtc.JitterBuffer.Stream
import KvsWebrtc.PeerConnection.Equiv.CandidateInit
import KvsWebrtc.PeerConnection.Equiv.FrameCalls
import KvsWebrtc.PeerConnection.Equiv.FrameSends
import KvsWebrtc.PeerConnection.Equiv.Frames
import KvsWebrtc.PeerConnection.Equiv.Jsmn
import KvsWebrtc.PeerConnection.Equiv.JsonOutput
import KvsWebrtc.PeerConnection.Equiv.Receive
import KvsWebrtc.PeerConnection.Equiv.Retransmitter
import KvsWebrtc.PeerConnection.Equiv.Rtcp
import KvsWebrtc.PeerConnection.Equiv.RtcpCompound
import KvsWebrtc.PeerConnection.Equiv.Rtp
import KvsWebrtc.PeerConnection.Equiv.RtxPacket
import KvsWebrtc.PeerConnection.Equiv.SequenceNumbers
import KvsWebrtc.PeerConnection.Equiv.SessionDescription
import KvsWebrtc.PeerConnection.Equiv.Twcc
import KvsWebrtc.PeerConnection.Equiv.TwccAccounting
import KvsWebrtc.PeerConnection.Equiv.TwccFeedback
import KvsWebrtc.PeerConnection.Equiv.TwccHistory
import KvsWebrtc.PeerConnection.Equiv.TwccShift
import KvsWebrtc.PeerConnection.Equiv.TwccTable
import KvsWebrtc.PeerConnection.Frames
import KvsWebrtc.PeerConnection.Jsmn
import KvsWebrtc.PeerConnection.Receive
import KvsWebrtc.PeerConnection.Retransmitter
import KvsWebrtc.PeerConnection.Rtcp
import KvsWebrtc.PeerConnection.Rtp
import KvsWebrtc.PeerConnection.SessionDescription
import KvsWebrtc.PeerConnection.Twcc
import KvsWebrtc.Relay.Equiv.Protocol
import KvsWebrtc.Relay.Equiv.Registration
import KvsWebrtc.Relay.Equiv.Routing
import KvsWebrtc.Relay.Equiv.Server
import KvsWebrtc.Relay.Equiv.Session
import KvsWebrtc.Relay.Equiv.Transport
import KvsWebrtc.Relay.Protocol
import KvsWebrtc.Relay.Server
import KvsWebrtc.Relay.Session
import KvsWebrtc.Relay.Transport
import KvsWebrtc.Rtcp.Equiv.BufferRuns
import KvsWebrtc.Rtcp.Equiv.NackList
import KvsWebrtc.Rtcp.Equiv.RollingBuffer
import KvsWebrtc.Rtcp.Equiv.RtcpPacket
import KvsWebrtc.Rtcp.Equiv.ValidIndices
import KvsWebrtc.Rtcp.NackList
import KvsWebrtc.Rtcp.RollingBuffer
import KvsWebrtc.Rtcp.RtcpPacket
import KvsWebrtc.Rtcp.ValidIndices
import KvsWebrtc.Rtp.Codec
import KvsWebrtc.Rtp.Codecs
import KvsWebrtc.Rtp.Equiv.Aggregation
import KvsWebrtc.Rtp.Equiv.Codec
import KvsWebrtc.Rtp.Equiv.Depayload
import KvsWebrtc.Rtp.Equiv.HeaderBounds
import KvsWebrtc.Rtp.Equiv.Payloader
import KvsWebrtc.Rtp.Equiv.Restore
import KvsWebrtc.Rtp.Equiv.RtpH264Payloader
import KvsWebrtc.Rtp.Equiv.RtpH265Payloader
import KvsWebrtc.Rtp.Equiv.RtpPayloadFunc
import KvsWebrtc.Rtp.Equiv.RtpVP8Payloader
import KvsWebrtc.Rtp.Equiv.StartCodes
import KvsWebrtc.Rtp.Payloader
import KvsWebrtc.Rtp.RtpPacket
import KvsWebrtc.Sctp.Equiv.DataChannelOpen
import KvsWebrtc.Sctp.Equiv.Session
import KvsWebrtc.Sctp.Session
import KvsWebrtc.Sdp.Answer
import KvsWebrtc.Sdp.Description
import KvsWebrtc.Sdp.Deserialize
import KvsWebrtc.Sdp.Equiv.Agreement
import KvsWebrtc.Sdp.Equiv.Answer
import KvsWebrtc.Sdp.Equiv.Attributes
import KvsWebrtc.Sdp.Equiv.BufferSizes
import KvsWebrtc.Sdp.Equiv.FieldBounds
import KvsWebrtc.Sdp.Equiv.MediaSection
import KvsWebrtc.Sdp.Equiv.PayloadTypes
import KvsWebrtc.Sdp.Equiv.Pointers
import KvsWebrtc.Sdp.Equiv.RoundTrip
import KvsWebrtc.Sdp.Equiv.Serialize
import KvsWebrtc.Sdp.Equiv.Stored
import KvsWebrtc.Sdp.MediaSection
import KvsWebrtc.Sdp.PayloadTypes
import KvsWebrtc.Sdp.Pointers
import KvsWebrtc.Sdp.Serialize
import KvsWebrtc.Signaling.CString
import KvsWebrtc.Signaling.Equiv.CString
import KvsWebrtc.Signaling.Equiv.Delivery
import KvsWebrtc.Signaling.Equiv.FileCache
import KvsWebrtc.Signaling.Equiv.FileCacheParse
import KvsWebrtc.Signaling.Equiv.IceConfig
import KvsWebrtc.Signaling.Equiv.IceConfigResponse
import KvsWebrtc.Signaling.Equiv.IceConfigTokens
import KvsWebrtc.Signaling.Equiv.JoinRequest
import KvsWebrtc.Signaling.Equiv.JoinResponse
import KvsWebrtc.Signaling.Equiv.MessageMembers
import KvsWebrtc.Signaling.Equiv.MessageQueue
import KvsWebrtc.Signaling.Equiv.Progress
import KvsWebrtc.Signaling.Equiv.ReceivedMessage
import KvsWebrtc.Signaling.Equiv.SendMessage
import KvsWebrtc.Signaling.Equiv.StateMachine
import KvsWebrtc.Signaling.FileCache
import KvsWebrtc.Signaling.IceConfig
import KvsWebrtc.Signaling.IceConfigResponse
import KvsWebrtc.Signaling.JoinResponse
import KvsWebrtc.Signaling.MessageQueue
import KvsWebrtc.Signaling.SendMessage
import KvsWebrtc.Signaling.StateMachine
import KvsWebrtc.Stun.Accesses
import KvsWebrtc.Stun.Builder
import KvsWebrtc.Stun.Deserialize
import KvsWebrtc.Stun.Equiv.Accesses
import KvsWebrtc.Stun.Equiv.Append
import KvsWebrtc.Stun.Equiv.Builder
import KvsWebrtc.Stun.Equiv.Deserialize
import KvsWebrtc.Stun.Equiv.Integrity
import KvsWebrtc.Stun.Equiv.RoundTrip
import KvsWebrtc.Stun.Equiv.Serialize
import KvsWebrtc.Stun.Equiv.TwoPass
import KvsWebrtc.Stun.Equiv.XorAddress
import KvsWebrtc.Stun.Packet
import KvsWebrtc.Stun.Serialize
import KvsWebrtc.Turn.Connection
import KvsWebrtc.Turn.Equiv.Nonce
import KvsWebrtc.Turn.Equiv.Peers
import KvsWebrtc.Turn.Equiv.SendData
import KvsWebrtc.Turn.Equiv.Shutdown
import KvsWebrtc.Turn.Equiv.StateMachine
import KvsWebrtc.Turn.Equiv.TransactionIdStore
import KvsWebrtc.Turn.Nonce
import KvsWebrtc.Turn.StateMachine
import KvsWebrtc.Turn.TransactionIdStore
