import UllReceiver.Air.AirFeedback
import UllReceiver.Air.AirFrame
import UllReceiver.Air.AirSession
import UllReceiver.Air.CcmCache
import UllReceiver.Air.DownlinkDecode
import UllReceiver.Air.DownlinkMemory
import UllReceiver.Air.Hopping
import UllReceiver.Air.PacketExact
import UllReceiver.Air.PacketMemory
import UllReceiver.Air.PacketShape
import UllReceiver.Air.PlanBinding
import UllReceiver.Air.SessionGrid
import UllReceiver.Air.TonePacket
import UllReceiver.Air.UplinkGrammar
import UllReceiver.Air.UplinkMemory
import UllReceiver.Audio.Playout
import UllReceiver.Audio.Resampler
import UllReceiver.Audio.Source
import UllReceiver.Audio.SourceQueue
import UllReceiver.Audio.SourceRun
import UllReceiver.Bridge.Barrier
import UllReceiver.Bridge.CodecRepeats
import UllReceiver.Bridge.CodecReply
import UllReceiver.Bridge.CodecSlave
import UllReceiver.Bridge.CodecWire
import UllReceiver.Bridge.DecoderRun
import UllReceiver.Bridge.MicAge
import UllReceiver.Bridge.MicCodec
import UllReceiver.Bridge.MicRing
import UllReceiver.Bridge.MicSignal
import UllReceiver.Bridge.MicTaken
import UllReceiver.Bridge.Moves
import UllReceiver.Bridge.Pairing
import UllReceiver.Bridge.PairingRun
import UllReceiver.Bridge.PcmStream
import UllReceiver.Bridge.QueueRoom
import UllReceiver.Bridge.Reconnect
import UllReceiver.Bridge.RequestFrame
import UllReceiver.Bridge.Rounds
import UllReceiver.Bridge.System
import UllReceiver.Bridge.WireBursts
import UllReceiver.Diagnostics.Captures
import UllReceiver.Diagnostics.CapturesRun
import UllReceiver.Diagnostics.ControlLog
import UllReceiver.Diagnostics.CounterDeltas
import UllReceiver.Diagnostics.Hiding
import UllReceiver.Diagnostics.Secrets
import UllReceiver.Host.Console
import UllReceiver.Host.ConsoleLink
import UllReceiver.Host.ConsolePackets
import UllReceiver.Host.ConsoleRun
import UllReceiver.Host.Handoff
import UllReceiver.Host.HandoffRun
import UllReceiver.Library.BitRuns
import UllReceiver.Library.Buffer
import UllReceiver.Library.BurstErrors
import UllReceiver.Library.ChannelSelection
import UllReceiver.Library.Counter
import UllReceiver.Library.DelayLine
import UllReceiver.Library.Halting
import UllReceiver.Library.LineReader
import UllReceiver.Library.LinkLayer
import UllReceiver.Library.LinkedChain
import UllReceiver.Library.Loan
import UllReceiver.Library.MaskedWord
import UllReceiver.Library.Overlay
import UllReceiver.Library.Passage
import UllReceiver.Library.RingView
import UllReceiver.Library.Runs
import UllReceiver.Library.ShiftRegister
import UllReceiver.Library.SpanRing
import UllReceiver.Library.Tiling
import UllReceiver.Link.AclPackets
import UllReceiver.Link.Gate
import UllReceiver.Link.GateRun
import UllReceiver.Link.Hearing
import UllReceiver.Link.Keeper
import UllReceiver.Link.KeeperRun
import UllReceiver.Link.Reassembly
import UllReceiver.Parent.AckCounts
import UllReceiver.Parent.AirHandshake
import UllReceiver.Parent.DetachedLink
import UllReceiver.Parent.DetachedRun
import UllReceiver.Parent.FreeList
import UllReceiver.Parent.LlcpPool
import UllReceiver.Parent.OneShot
import UllReceiver.Parent.ParentAck
import UllReceiver.Parent.PlanRecheck
import UllReceiver.Parent.PoolReserve
import UllReceiver.Parent.PoolRun
import UllReceiver.Parent.RawLlcp
import UllReceiver.Parent.RawRun
import UllReceiver.Parent.RawSend
import UllReceiver.Radio.Arguments
import UllReceiver.Radio.PhyBursts
import UllReceiver.Radio.PhyPacket
import UllReceiver.Radio.PhyReceiver
import UllReceiver.Radio.Request
import UllReceiver.Radio.Reservation
import UllReceiver.Radio.ReservationCover
import UllReceiver.Radio.Transmitter
import UllReceiver.Radio.TransmitterEngaged
import UllReceiver.Radio.TransmitterInFlight
import UllReceiver.Radio.TransmitterLoans
import UllReceiver.Radio.TransmitterProgress
import UllReceiver.Radio.TransmitterRegisters
import UllReceiver.Radio.TransmitterRun
import UllReceiver.Radio.TransmitterSafe
import UllReceiver.Trial.AccessAddress
import UllReceiver.Trial.Account
import UllReceiver.Trial.Bounds
import UllReceiver.Trial.Cache
import UllReceiver.Trial.CacheRun
import UllReceiver.Trial.ControlPolls
import UllReceiver.Trial.Cooldown
import UllReceiver.Trial.Deeds
import UllReceiver.Trial.DeedsWalk
import UllReceiver.Trial.FrameRun
import UllReceiver.Trial.Moves
import UllReceiver.Trial.Ownership
import UllReceiver.Trial.Prepare
import UllReceiver.Trial.Pump
import UllReceiver.Trial.PumpRun
import UllReceiver.Trial.Requests
import UllReceiver.Trial.Retry
import UllReceiver.Trial.RetryRun
import UllReceiver.Trial.RetryView
import UllReceiver.Trial.SecondStream
import UllReceiver.Trial.State
import UllReceiver.Trial.Step
import UllReceiver.Trial.TraceBuffer
import UllReceiver.Trial.TraceRun
import UllReceiver.Trial.Walk
import UllReceiver.Usb.PcmRing
import UllReceiver.Usb.UsbAudio
import UllReceiver.Usb.UsbAudioControls
import UllReceiver.Usb.UsbAudioRun
import UllReceiver.Usb.UsbAudioSafe
import UllReceiver.Usb.UsbConsole
import UllReceiver.Usb.UsbConsoleRun
import UllReceiver.Usb.UsbControls
import UllReceiver.Usb.UsbFeedback
