import VoxSdk.Account
import VoxSdk.AccountMachine
import VoxSdk.Accounts
import VoxSdk.Adapt
import VoxSdk.AddrScan
import VoxSdk.AudioExternal
import VoxSdk.AudioPath
import VoxSdk.CallStates
import VoxSdk.CallWrapper
import VoxSdk.CodecList
import VoxSdk.Config
import VoxSdk.Dispatch
import VoxSdk.Dns
import VoxSdk.Dtls
import VoxSdk.EventQueue
import VoxSdk.EventStrings
import VoxSdk.HandlerSwap
import VoxSdk.Handover
import VoxSdk.IceIfsel
import VoxSdk.IceShim
import VoxSdk.Jobs
import VoxSdk.Lib.Alternation
import VoxSdk.Lib.Block
import VoxSdk.Lib.Bytes
import VoxSdk.Lib.CountedQueue
import VoxSdk.Lib.Framing
import VoxSdk.Lib.Ledger
import VoxSdk.Lib.Machine
import VoxSdk.Lib.Printer
import VoxSdk.Lib.RefTable
import VoxSdk.Lib.Rotation
import VoxSdk.Lib.StableSort
import VoxSdk.Lib.Sweep
import VoxSdk.Lib.Text
import VoxSdk.Lib.Timer
import VoxSdk.Lib.Worklist
import VoxSdk.Lifecycle
import VoxSdk.MessageRecv
import VoxSdk.Migration
import VoxSdk.Mwi
import VoxSdk.Netmon
import VoxSdk.Outbound
import VoxSdk.OwnedStrings
import VoxSdk.Pcap
import VoxSdk.Proof.AccountLemmas
import VoxSdk.Proof.AccountUri
import VoxSdk.Proof.AddressAgreement
import VoxSdk.Proof.Attempts
import VoxSdk.Proof.BitrateControl
import VoxSdk.Proof.CallLemmas
import VoxSdk.Proof.CallStream
import VoxSdk.Proof.CallTurns
import VoxSdk.Proof.CaptureFrames
import VoxSdk.Proof.CodecLists
import VoxSdk.Proof.Countdown
import VoxSdk.Proof.Coverage
import VoxSdk.Proof.Debounce
import VoxSdk.Proof.DnsCompletion
import VoxSdk.Proof.DnsOrder
import VoxSdk.Proof.Driven
import VoxSdk.Proof.DtlsRole
import VoxSdk.Proof.DtlsWatch
import VoxSdk.Proof.EchoPath
import VoxSdk.Proof.FlowRoute
import VoxSdk.Proof.FmtpRewrite
import VoxSdk.Proof.HandlerLemmas
import VoxSdk.Proof.HandoverLemmas
import VoxSdk.Proof.IceGather
import VoxSdk.Proof.IceMedia
import VoxSdk.Proof.IceRestart
import VoxSdk.Proof.IceWindow
import VoxSdk.Proof.IfFilter
import VoxSdk.Proof.JobsInTime
import VoxSdk.Proof.LaddrRotation
import VoxSdk.Proof.LateAnswers
import VoxSdk.Proof.LifecycleBalance
import VoxSdk.Proof.LossWindow
import VoxSdk.Proof.MemoryBalance
import VoxSdk.Proof.MessageLayout
import VoxSdk.Proof.MigrationEnds
import VoxSdk.Proof.MosScore
import VoxSdk.Proof.MwiGrammar
import VoxSdk.Proof.MwiSummary
import VoxSdk.Proof.NegotiatedRate
import VoxSdk.Proof.OfferBudget
import VoxSdk.Proof.OfferTalk
import VoxSdk.Proof.OutboundUri
import VoxSdk.Proof.Outcomes
import VoxSdk.Proof.OwnedClones
import VoxSdk.Proof.Ownership
import VoxSdk.Proof.PackedEvents
import VoxSdk.Proof.PcapStream
import VoxSdk.Proof.ProbeLife
import VoxSdk.Proof.PublishedTargets
import VoxSdk.Proof.PushToken
import VoxSdk.Proof.QualityAlerts
import VoxSdk.Proof.QueueAccounting
import VoxSdk.Proof.QueuedStrings
import VoxSdk.Proof.RecordingContent
import VoxSdk.Proof.RecordingFile
import VoxSdk.Proof.Recovery
import VoxSdk.Proof.Release
import VoxSdk.Proof.ReofferDiscipline
import VoxSdk.Proof.RetryBudget
import VoxSdk.Proof.RetryControl
import VoxSdk.Proof.RetryDelay
import VoxSdk.Proof.RetryTimer
import VoxSdk.Proof.Rounds
import VoxSdk.Proof.SdpShelter
import VoxSdk.Proof.ServerUrl
import VoxSdk.Proof.SetupDeadline
import VoxSdk.Proof.StallAlerts
import VoxSdk.Proof.Stranded
import VoxSdk.Proof.Stream
import VoxSdk.Proof.Success
import VoxSdk.Proof.SwapDeadlock
import VoxSdk.Proof.TargetSort
import VoxSdk.Proof.TransferAnswers
import VoxSdk.Proof.TransferApproval
import VoxSdk.Proof.TransferCalls
import VoxSdk.Proof.UpgradeHeaders
import VoxSdk.Proof.WaitCharges
import VoxSdk.Proof.WrapperOwnership
import VoxSdk.Proof.WsConnect
import VoxSdk.Proof.WsExact
import VoxSdk.Proof.WsPins
import VoxSdk.QevClone
import VoxSdk.Record
import VoxSdk.Registration
import VoxSdk.SetupWatch
import VoxSdk.Stats
import VoxSdk.System
import VoxSdk.Transfer
import VoxSdk.WsHeaders
import VoxSdk.WsPath
import VoxSdk.WsRoute
import VoxSdk.Lib.LockOrder
import VoxSdk.Locking
import VoxSdk.Proof.LockDiscipline
