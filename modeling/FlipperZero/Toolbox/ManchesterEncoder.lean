import FlipperZero.Foundation.Mealy
import FlipperZero.Toolbox.ManchesterDecoder

/-!
# The Manchester encoder

A bit is sent as two halves of different levels. The encoder tells of each run of one level when it
knows how long it is: the second half of a bit is put together with the first half of the next one if
they have the same level, so a bit that is like the one before it takes two calls. The decoder gives
each bit when its first half is over.
-/

namespace FlipperZero

open Foundation

/-! ### The encoder -/

inductive ManchesterEncoderResult
  | shortLow
  | longLow
  | longHigh
  | shortHigh
  deriving DecidableEq, Repr

/-- The result with the number `(prev << 1) + curr`. -/
def ManchesterEncoderResult.ofBits : Bool → Bool → ManchesterEncoderResult
  | false, false => shortLow
  | false, true  => longLow
  | true,  false => longHigh
  | true,  true  => shortHigh

structure ManchesterEncoderState where
  prevBit : Bool
  step : Fin 3

def manchesterEncoderReset (state : ManchesterEncoderState) : ManchesterEncoderState :=
  { state with step := 0 }

/-- `manchester_encoder_advance`: whether the bit is taken, the result and the next state. -/
def manchesterEncoderAdvance (state : ManchesterEncoderState) (currBit : Bool) :
    Bool × ManchesterEncoderResult × ManchesterEncoderState :=
  match state.step with
  | 0 => (true, if currBit then .shortLow else .shortHigh, ⟨currBit, 1⟩)
  | 1 =>
    if currBit = state.prevBit then (false, .ofBits state.prevBit currBit, { state with step := 2 })
    else (true, .ofBits state.prevBit currBit, { state with prevBit := currBit })
  | 2 => (true, if currBit then .shortLow else .shortHigh, ⟨currBit, 1⟩)

def manchesterEncoderFinish (state : ManchesterEncoderState) :
    ManchesterEncoderResult × ManchesterEncoderState :=
  (.ofBits state.prevBit state.prevBit, { state with step := 0 })

/-- The results for a bit, which is advanced a second time if it is not taken at once. -/
def manchesterEncodeBit (state : ManchesterEncoderState) (bit : Bool) :
    List ManchesterEncoderResult × ManchesterEncoderState :=
  let (advance, result, state) := manchesterEncoderAdvance state bit
  if !advance then
    let (_, result', state) := manchesterEncoderAdvance state bit
    ([result, result'], state)
  else ([result], state)

def manchesterEncode (state : ManchesterEncoderState) :
    List Bool → List ManchesterEncoderResult × ManchesterEncoderState
  | []          => ([], state)
  | bit :: bits =>
    let r := manchesterEncodeBit state bit
    let rest := manchesterEncode r.2 bits
    (r.1 ++ rest.1, rest.2)

/-! ### Decoding -/

/-- The event of a run that the encoder tells of. -/
def ManchesterEncoderResult.event : ManchesterEncoderResult → ManchesterEvent
  | shortLow  => .shortLow
  | longLow   => .longLow
  | longHigh  => .longHigh
  | shortHigh => .shortHigh

/-- The bits that the decoder gives for runs, and the state behind them. -/
def manchesterDecode (state : ManchesterState) :
    List ManchesterEncoderResult → List Bool × ManchesterState
  | []                => ([], state)
  | result :: results =>
    let r := manchesterAdvance state result.event
    let rest := manchesterDecode r.1 results
    (r.2.toList ++ rest.1, rest.2)

/-- The state behind the first half of a bit. -/
def ManchesterState.mid : Bool → ManchesterState
  | false => mid0
  | true  => mid1

lemma manchesterDecode_append (state : ManchesterState)
    (results results' : List ManchesterEncoderResult) :
    manchesterDecode state (results ++ results') =
      ((manchesterDecode state results).1 ++
          (manchesterDecode (manchesterDecode state results).2 results').1,
        (manchesterDecode (manchesterDecode state results).2 results').2) := by
  induction results generalizing state with
  | nil => rfl
  | cons result results ih =>
    rw [List.cons_append, manchesterDecode, ih, manchesterDecode, List.append_assoc]

lemma manchesterDecode_encodeBit (prev bit : Bool) :
    manchesterDecode (.mid prev) (manchesterEncodeBit ⟨prev, 1⟩ bit).1 = ([bit], .mid bit) ∧
      (manchesterEncodeBit ⟨prev, 1⟩ bit).2 = ⟨bit, 1⟩ := by
  cases prev <;> cases bit <;> exact ⟨by decide, rfl⟩

lemma manchesterDecode_encode (prev : Bool) (bits : List Bool) :
    manchesterDecode (.mid prev) (manchesterEncode ⟨prev, 1⟩ bits).1 =
        (bits, .mid (bits.getLastD prev)) ∧
      (manchesterEncode ⟨prev, 1⟩ bits).2 = ⟨bits.getLastD prev, 1⟩ := by
  induction bits generalizing prev with
  | nil => exact ⟨rfl, rfl⟩
  | cons bit bits ih =>
    obtain ⟨hbit, hstate⟩ := manchesterDecode_encodeBit prev bit
    obtain ⟨hbits, hlast⟩ := ih bit
    simp only [manchesterEncode, hstate, manchesterDecode_append, hbit, hbits, hlast,
      List.getLastD_cons]
    exact ⟨rfl, trivial⟩

lemma manchesterDecode_encode_start (state : ManchesterEncoderState) (bits : List Bool) :
    manchesterDecode .start0 (manchesterEncode (manchesterEncoderReset state) (false :: bits)).1 =
        (false :: bits, .mid (bits.getLastD false)) ∧
      (manchesterEncode (manchesterEncoderReset state) (false :: bits)).2 =
        ⟨bits.getLastD false, 1⟩ := by
  obtain ⟨hbits, hlast⟩ := manchesterDecode_encode false bits
  have hfirst : manchesterEncodeBit (manchesterEncoderReset state) false =
      ([.shortHigh], ⟨false, 1⟩) := rfl
  have hshort : manchesterDecode .start0 [.shortHigh] = ([false], .mid false) := by decide
  simp only [manchesterEncode, hfirst, manchesterDecode_append, hshort, hbits, hlast]
  exact ⟨rfl, trivial⟩

/-! ### Whole frames -/

/-- The results for bits that are sent alone, from a reset to the end. -/
def manchesterFrame (state : ManchesterEncoderState) (bits : List Bool) :
    List ManchesterEncoderResult :=
  let r := manchesterEncode (manchesterEncoderReset state) bits
  r.1 ++ [(manchesterEncoderFinish r.2).1]

/-- The decoder as a machine that is told of the runs of an encoder. -/
def manchesterDecoder :
    Mealy ManchesterState ManchesterEncoderResult (ManchesterState × Option Bool) where
  step state result :=
    (manchesterAdvance state result.event, (manchesterAdvance state result.event).1)

/-- The decoder goes back to its reset state without a bit. -/
def ManchesterFallsBack (state : ManchesterState) (result : ManchesterEncoderResult) : Prop :=
  manchesterAdvance state result.event = (manchesterResetState, none)

def ManchesterKeepsStep (state : ManchesterState) (results : List ManchesterEncoderResult) : Prop :=
  manchesterDecoder.Along (fun state result => ¬ManchesterFallsBack state result) state results

instance (state : ManchesterState) (results : List ManchesterEncoderResult) :
    Decidable (ManchesterKeepsStep state results) :=
  have : ∀ state result, Decidable (¬ManchesterFallsBack state result) := fun state result =>
    inferInstanceAs (Decidable (¬manchesterAdvance state result.event = (manchesterResetState, none)))
  inferInstanceAs (Decidable (manchesterDecoder.Along _ state results))

lemma manchesterDecoder_final (state : ManchesterState) (results : List ManchesterEncoderResult) :
    manchesterDecoder.final state results = (manchesterDecode state results).2 := by
  induction results generalizing state with
  | nil => rfl
  | cons result results ih => exact ih _

lemma manchesterKeepsStep_append {state : ManchesterState}
    {results results' : List ManchesterEncoderResult} :
    ManchesterKeepsStep state (results ++ results') ↔
      ManchesterKeepsStep state results ∧
        ManchesterKeepsStep (manchesterDecode state results).2 results' := by
  rw [← manchesterDecoder_final]
  exact Mealy.along_append

lemma manchesterKeepsStep_encode (prev : Bool) (bits : List Bool) :
    ManchesterKeepsStep (.mid prev) (manchesterEncode ⟨prev, 1⟩ bits).1 := by
  induction bits generalizing prev with
  | nil => trivial
  | cons bit bits ih =>
    obtain ⟨hbit, hstate⟩ := manchesterDecode_encodeBit prev bit
    have hkeeps : ManchesterKeepsStep (.mid prev) (manchesterEncodeBit ⟨prev, 1⟩ bit).1 := by
      cases prev <;> cases bit <;> decide
    simp only [manchesterEncode, hstate]
    rw [manchesterKeepsStep_append, hbit]
    exact ⟨hkeeps, ih bit⟩

lemma manchesterDecode_finish (last : Bool) :
    (manchesterDecode (.mid last) [(manchesterEncoderFinish ⟨last, 1⟩).1]).1 = [] ∧
      ManchesterKeepsStep (.mid last) [(manchesterEncoderFinish ⟨last, 1⟩).1] := by
  cases last <;> exact ⟨by decide, by decide⟩

/-- A frame that starts with a one is decoded from the reset state: the first result leaves the
decoder where it is, and all that follow give the bits behind the one. -/
theorem manchesterFrame_decode (state : ManchesterEncoderState) (bits : List Bool) :
    (manchesterDecode manchesterResetState (manchesterFrame state (true :: bits))).1 = bits ∧
      ∃ first rest, manchesterFrame state (true :: bits) = first :: rest ∧
        ManchesterKeepsStep (manchesterDecoder.final manchesterResetState [first]) rest := by
  obtain ⟨hbits, hlast⟩ := manchesterDecode_encode true bits
  obtain ⟨hnone, hkeeps⟩ := manchesterDecode_finish (bits.getLastD true)
  have hframe : manchesterFrame state (true :: bits) =
      .shortLow :: ((manchesterEncode ⟨true, 1⟩ bits).1 ++
        [(manchesterEncoderFinish ⟨bits.getLastD true, 1⟩).1]) := by
    rw [← hlast]
    rfl
  have hfirst : manchesterAdvance manchesterResetState ManchesterEncoderResult.shortLow.event =
      (.mid true, none) := by decide
  refine ⟨?_, _, _, hframe, ?_⟩
  · rw [hframe, manchesterDecode, hfirst, manchesterDecode_append, hbits, hnone, List.append_nil]
    rfl
  · have hsecond : manchesterDecoder.final manchesterResetState [.shortLow] = .mid true := by decide
    rw [hsecond, manchesterKeepsStep_append, hbits]
    exact ⟨manchesterKeepsStep_encode true bits, hkeeps⟩

end FlipperZero
