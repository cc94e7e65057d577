import FlipperZero.Foundation.System
import FlipperZero.FlipperFormat.FlipperFormatStream
import FlipperZero.Furi.FuriString
import FlipperZero.SubGhz.Raw
import FlipperZero.Toolbox.KeysDict
import FlipperZero.Toolbox.StrintGrammar

/-!
# The file encoder worker

`subghz_file_encoder_worker.c` replays a recording: a thread reads the lines of the file and puts
their numbers into a stream buffer, from which the transmitter takes them. The buffer holds 2048
numbers, and a line is read only when 512 of them fit.

The thread and the transmitter are interleaved. A transmitter that finds the buffer empty is told to
wait, and a thread that finds no room for a line waits; neither is a step here.
-/

namespace FlipperZero

open Foundation FlipperFormatStream

/-! ### Parsing a line -/

/-- `strstr`: the text from the first occurrence on. -/
def strstr (pattern : List UInt8) : List UInt8 → Option (List UInt8)
  | []      => if pattern = [] then some [] else none
  | c :: cs => if pattern.isPrefixOf (c :: cs) then some (c :: cs) else strstr pattern cs

/-- The number that is sent for a duration: one above a second is cut. -/
def subghzClampDuration (duration : Int) : Int :=
  if duration < -1000000 ∨ 1000000 < duration then if 0 < duration then 100 else -100
  else duration

/-- The loop of `subghz_file_encoder_worker_data_parse`. -/
def subghzParseDurations (str : List UInt8) : List Int :=
  match _hread : strintToInt32 str 10 with
  | .error _             => []
  | .ok (duration, rest) =>
    subghzClampDuration duration ::
      subghzParseDurations (if rest.head? = some 44 then rest.tail else rest)
termination_by str.length
decreasing_by
  have hlt := strintTo_length_lt (t := .int32) _hread
  have htail : rest.tail.length ≤ rest.length := (List.tail_suffix rest).length_le
  split_ifs
  · exact Nat.lt_of_le_of_lt htail hlt
  · exact hlt

/-- `subghz_file_encoder_worker_data_parse`: the numbers to send, when the line has the key. -/
def subghzDataParse (strStart : List UInt8) : Option (List Int) :=
  (strstr (ascii ['R', 'A', 'W', '_', 'D', 'a', 't', 'a', ':', ' ']) (cString strStart)).map
    fun str => subghzParseDurations (str.dropWhile (· ≠ 32))

/-! ### The worker and the transmitter -/

/-- `LevelDuration`, but for the one that tells to wait. -/
inductive LevelDuration where
  | reset
  | make (level : Bool) (duration : Nat)
  deriving DecidableEq, Repr

/-- What `subghz_file_encoder_worker_get_level_duration` makes of a number. -/
def levelDuration (duration : Int) : LevelDuration :=
  if duration < 0 then .make false duration.natAbs
  else if 0 < duration then .make true duration.natAbs
  else .reset

/-- `SubGhzFileEncoderWorker`, with the numbers that the thread is about to send, whether it goes on
to read, and what the transmitter has got. -/
structure SubGhzFileEncoderWorker where
  flipperFormat : File
  stream : List Int
  sends : List Int
  reading : Bool
  received : List LevelDuration

namespace SubGhzFileEncoderWorker

/-- `subghz_file_encoder_worker_thread` up to its loop, if the search for the protocol ends. -/
def start (content : List UInt8) : Option SubGhzFileEncoderWorker :=
  (readStringLine (content.length + 2) subghzProtocolKey false
    ⟨content, 0, File.zero_le_length content⟩).map
    fun ((found, _), f) =>
      { flipperFormat := if found then (fileStreamSeek f 1 .fromCurrent).2 else f
        stream := []
        sends := []
        reading := found
        received := [] }

variable (w : SubGhzFileEncoderWorker)

/-- Stop reading, with a reset. -/
def endOfFile : SubGhzFileEncoderWorker := { w with sends := [0], reading := false }

/-- One round of the loop of the thread, when nothing is left to send: a line is read. -/
def readRound : SubGhzFileEncoderWorker :=
  let r := streamReadLine w.flipperFormat
  let w := { w with flipperFormat := r.2 }
  if r.1 = [] then w.endOfFile
  else
    match subghzDataParse (furiStringTrim r.1) with
    | none           => w.endOfFile
    | some durations => { w with sends := durations }

/-- A step of the thread. `furi_stream_buffer_send` gives up when the buffer stays full. -/
def workerStep : Option SubGhzFileEncoderWorker :=
  match w.sends with
  | duration :: sends =>
    some { w with
      sends := sends
      stream := if w.stream.length < 2048 then w.stream ++ [duration] else w.stream }
  | [] =>
    if w.reading = true ∧ 512 ≤ 2048 - w.stream.length then some w.readRound
    else none

/-- `subghz_file_encoder_worker_get_level_duration` of a buffer that is not empty. -/
def transmitterStep : Option SubGhzFileEncoderWorker :=
  match w.stream with
  | []                 => none
  | duration :: stream =>
    some { w with stream := stream, received := w.received ++ [levelDuration duration] }

end SubGhzFileEncoderWorker

/-- Whose step it is. -/
inductive SubGhzReplayEvent where
  | worker
  | transmitter
  deriving DecidableEq, Repr

def subghzReplay : System SubGhzFileEncoderWorker SubGhzReplayEvent where
  step w
    | .worker      => w.workerStep
    | .transmitter => w.transmitterStep

end FlipperZero
