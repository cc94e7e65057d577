import FlipperZero.Stream.Refinement
import FlipperZero.Expansion.ProtocolRoundTrip
import FlipperZero.Expansion.Control
import FlipperZero.Expansion.ControlSafety
import FlipperZero.Foundation.Loop
import FlipperZero.Infrared.CommonDecoder
import FlipperZero.Foundation.Bits
import FlipperZero.Infrared.CommonEncoder
import FlipperZero.Infrared.Protocols
import FlipperZero.Infrared.DecoderBounds
import FlipperZero.Infrared.PulseFrame
import FlipperZero.Infrared.RoundTrip
import FlipperZero.Foundation.Memory
import FlipperZero.Nfc.MfUltralight
import FlipperZero.Toolbox.BitBuffer
import FlipperZero.Nfc.MfUltralightCommands
import FlipperZero.Nfc.MfUltralightLocks
import FlipperZero.Nfc.MfUltralightMemorySafety
import FlipperZero.Stream.EndOfFile
import FlipperZero.Stream.StringStream
import FlipperZero.Stream.DeleteAndInsert
import FlipperZero.Furi.EventLoop
import FlipperZero.Furi.EventLoopWakeup
import FlipperZero.Rpc.Storage
import FlipperZero.Rpc.StorageWrite
import FlipperZero.Storage.Processing
import FlipperZero.Storage.OpenFiles
import FlipperZero.Nfc.Crypto1
import FlipperZero.Nfc.Crypto1Rollback
import FlipperZero.Nfc.Crypto1Lockstep
import FlipperZero.Nfc.MfClassic
import FlipperZero.Nfc.MfClassicListener
import FlipperZero.Nfc.MfClassicSafety
import FlipperZero.Nfc.Iso15693Listener
import FlipperZero.Nfc.Iso15693Memory
import FlipperZero.Nfc.Iso15693Session
import FlipperZero.Foundation.Scanner
import FlipperZero.Stream.ScanStream
import FlipperZero.FlipperFormat.FlipperFormatStream
import FlipperZero.FlipperFormat.Lines
import FlipperZero.FlipperFormat.Update
import FlipperZero.FlipperFormat.ReadBack
import FlipperZero.Nfc.MfUltralightAccessSafety
import FlipperZero.Foundation.FileTree
import FlipperZero.Foundation.Program
import FlipperZero.Storage.ExternalApi
import FlipperZero.SubGhz.Raw
import FlipperZero.SubGhz.FileEncoderWorker
import FlipperZero.SubGhz.RawFile
import FlipperZero.SubGhz.RawLines
import FlipperZero.SubGhz.Replay
import FlipperZero.Furi.FuriString
import FlipperZero.Toolbox.Args
import FlipperZero.Toolbox.Compress
import FlipperZero.Toolbox.BitBufferAppend
import FlipperZero.Toolbox.BitBufferParity
import FlipperZero.Lfrfid.RawFile
import FlipperZero.Toolbox.StrintGrammar
import FlipperZero.Foundation.Lines
import FlipperZero.Toolbox.KeysDict
import FlipperZero.Toolbox.KeysDictEdit
import FlipperZero.Toolbox.KeysDictRead
import FlipperZero.Toolbox.KeysDictText
import FlipperZero.Foundation.Reads
import FlipperZero.Nfc.Iso14443Layer
import FlipperZero.Nfc.Iso14443LayerSafety
import FlipperZero.Nfc.Iso14443LayerNumbers
import FlipperZero.BitLib.BitLib
import FlipperZero.BitLib.ParityBits
import FlipperZero.BitLib.ParityRoundTrip
import FlipperZero.Infrared.RepeatFrames
import FlipperZero.Infrared.NecRepeat
import FlipperZero.Infrared.ManchesterFrame
import FlipperZero.Infrared.ManchesterRoundTrip
import FlipperZero.SubGhz.Keeloq
import FlipperZero.BitLib.BitWindow
import FlipperZero.Foundation.ShiftWindow
import FlipperZero.Lfrfid.FskDemod
import FlipperZero.SubGhz.RawFaults
import FlipperZero.Lfrfid.Awid
import FlipperZero.Lfrfid.Pyramid
import FlipperZero.Lfrfid.FskWindows
import FlipperZero.Lfrfid.PyramidEncode
import FlipperZero.Toolbox.ManchesterDecoder
import FlipperZero.Toolbox.PulseGlue
import FlipperZero.Lfrfid.Em4100
import FlipperZero.Lfrfid.Em4100Reading
import FlipperZero.Lfrfid.IoProxXsf
import FlipperZero.Lfrfid.FdxB
import FlipperZero.Lfrfid.Paradox
import FlipperZero.Lfrfid.Gallagher
import FlipperZero.Lfrfid.RoundTrips
import FlipperZero.Nfc.MfClassicFile
import FlipperZero.Nfc.MfClassicFileBounds
import FlipperZero.Nfc.MfClassicFileRoundTrip
import FlipperZero.Foundation.LevelRuns
import FlipperZero.SubGhz.SubGhzWorker
import FlipperZero.SubGhz.BlockEncoder
import FlipperZero.SubGhz.AlutechAt4n
import FlipperZero.SubGhz.ByteScramblers
import FlipperZero.SubGhz.SecPlusV1
import FlipperZero.SubGhz.SecPlusV1Feed
import FlipperZero.Toolbox.ManchesterEncoder
import FlipperZero.SubGhz.SecPlusV2
import FlipperZero.SubGhz.SecPlusV2Feed
import FlipperZero.SubGhz.Keystore
import FlipperZero.SubGhz.BinRaw
import FlipperZero.SubGhz.BinRawRoundTrip
import FlipperZero.Nfc.Iso15693Poller
import FlipperZero.Storage.EquivalentPath
import FlipperZero.Storage.NextFilename
import FlipperZero.Furi.EventLoopTimer
import FlipperZero.Furi.EventLoopTimerPeriod
import FlipperZero.Nfc.Iso15693Accesses
import FlipperZero.Nfc.Iso15693AccessSafety
import FlipperZero.Storage.PathBelow
import FlipperZero.Toolbox.DirWalkIter
import FlipperZero.Storage.RemoveRecursive
import FlipperZero.Datetime.Datetime
import FlipperZero.Datetime.RoundTrip
import FlipperZero.Dolphin.DolphinState
import FlipperZero.Dolphin.DailyLimits
import FlipperZero.Foundation.Calls
import FlipperZero.Nfc.EmvPoller
import FlipperZero.Nfc.EmvTermination
import FlipperZero.Nfc.MfUltralightReadLeak
import FlipperZero.Nfc.MfClassicPoller
import FlipperZero.Nfc.MfClassicAuth
import FlipperZero.Nfc.Felica
import FlipperZero.Nfc.FelicaListener
import FlipperZero.Nfc.FelicaSteps
import FlipperZero.Nfc.FelicaBlocks
import FlipperZero.Nfc.FelicaCounter
import FlipperZero.Nfc.FelicaFrame
import FlipperZero.Nfc.FelicaPermissions
import FlipperZero.Nfc.EmvSafety
import FlipperZero.Foundation.LeafSearch
import FlipperZero.OneWire.OneWireHost
import FlipperZero.OneWire.SearchAll
import FlipperZero.Nfc.MfDesfireFileSettings
import FlipperZero.Nfc.MfUltralightAuth
import FlipperZero.BadUsb.DuckyCommands
import FlipperZero.BadUsb.DuckyScript
import FlipperZero.Nfc.MfUltralightMirrorLoop
import FlipperZero.Toolbox.TarArchive
import FlipperZero.BadUsb.DuckyLines
import FlipperZero.BadUsb.ScriptRuns
import FlipperZero.Nfc.CardEquality
import FlipperZero.Nfc.MfUltralightMirrorText
import FlipperZero.Nfc.SlixListener
import FlipperZero.Nfc.SlixAnswers
import FlipperZero.Nfc.SlixReplies
import FlipperZero.Nfc.SlixProtection
import FlipperZero.Foundation.BigEndian
import FlipperZero.Lfrfid.FskOsc
import FlipperZero.Lfrfid.HidGeneric
import FlipperZero.Nfc.Crypto1Prng
import FlipperZero.BitLib.BitReads
import FlipperZero.Foundation.LastOccurrence
import FlipperZero.Toolbox.Path
import FlipperZero.Stream.StreamView
import FlipperZero.Stream.SeekToChar
import FlipperZero.BadUsb.ScriptLines
import FlipperZero.BadUsb.ScriptPreload
import FlipperZero.BadUsb.ScriptWorker
import FlipperZero.BadUsb.WorkerReruns
import FlipperZero.SubGhz.StaticCodes
import FlipperZero.SubGhz.StaticCodesFeed
import FlipperZero.SubGhz.StaticCodesTransmit
import FlipperZero.Foundation.Crc
import FlipperZero.Nfc.FrameCrc
import FlipperZero.Foundation.Quiet
import FlipperZero.Nfc.NoisyLine
