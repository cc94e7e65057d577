import FlipperZero.Foundation.Mealy
import FlipperZero.SubGhz.SecPlusV2
import FlipperZero.SubGhz.SubGhzWorker
import FlipperZero.Toolbox.ManchesterEncoder

/-!
# Sending and receiving Security+ 2.0

The upload of a message is both packets with Manchester coding and a long gap behind each. The
decoder waits for a gap, and then for a first and a second packet. So it misses the first packet of
the first play, and it waits for a gap again behind each message that it reports: of two plays in a
row it reports the second one.
-/

namespace FlipperZero

open Foundation

/-! ### The upload -/

def subghzProtocolEncoderSecplusV2AddDurationToUpload :
    ManchesterEncoderResult → Bool × BitVec 30
  | .shortLow  => levelDurationMake false 250
  | .longLow   => levelDurationMake false 500
  | .longHigh  => levelDurationMake true 500
  | .shortHigh => levelDurationMake true 250

/-- The bits of a packet that are sent, the highest first. The loop counts with an `uint8_t`. -/
def secPlusV2SentBits (packet : BitVec 64) (dataCountBit : BitVec 16) : List Bool :=
  (List.range (dataCountBit.setWidth 8).toNat).map fun k =>
    packet.getLsbD ((dataCountBit.setWidth 8).toNat - 1 - k)

/-- The part of the upload for a packet. The encoder is reset, but for the last bit it has seen. -/
def secPlusV2UploadPacket (state : ManchesterEncoderState) (packet : BitVec 64)
    (dataCountBit : BitVec 16) : List (Bool × BitVec 30) × ManchesterEncoderState :=
  let r := manchesterEncode (manchesterEncoderReset state) (secPlusV2SentBits packet dataCountBit)
  let finish := manchesterEncoderFinish r.2
  let last := subghzProtocolEncoderSecplusV2AddDurationToUpload finish.1
  (r.1.map subghzProtocolEncoderSecplusV2AddDurationToUpload ++ (if last.1 then [last] else []) ++
    [levelDurationMake false (500 * 136)], finish.2)

/-- `subghz_protocol_encoder_secplus_v2_get_upload`, with an encoder that is not initialised. -/
def subghzProtocolEncoderSecplusV2GetUpload (inst : SubGhzProtocolEncoderSecPlusV2)
    (state : ManchesterEncoderState) : List (Bool × BitVec 30) :=
  let first := secPlusV2UploadPacket state inst.secplusPacket1 inst.generic.dataCountBit
  let second := secPlusV2UploadPacket first.2 inst.generic.data inst.generic.dataCountBit
  first.1 ++ second.1

/-! ### The decoder -/

inductive SecPlusV2DecoderStep where
  | reset
  | decoderData
  deriving DecidableEq

/-- `SubGhzProtocolDecoderSecPlus_v2`, with the fields of `generic` that feeding writes. -/
structure SubGhzProtocolDecoderSecPlusV2 where
  parserStep : SecPlusV2DecoderStep
  decodeData : BitVec 64
  decodeCountBit : BitVec 8
  manchesterSavedState : ManchesterState
  secplusPacket1 : BitVec 64
  data : BitVec 64
  dataCountBit : BitVec 16

/-- `subghz_protocol_decoder_secplus_v2_alloc`, which gives memory of zeros. -/
def subghzProtocolDecoderSecplusV2Alloc : SubGhzProtocolDecoderSecPlusV2 where
  parserStep := .reset
  decodeData := 0
  decodeCountBit := 0
  manchesterSavedState := .start1
  secplusPacket1 := 0
  data := 0
  dataCountBit := 0

namespace SubGhzProtocolDecoderSecPlusV2

variable (inst : SubGhzProtocolDecoderSecPlusV2)

/-- A packet is expected. -/
def restart : SubGhzProtocolDecoderSecPlusV2 :=
  let state := (manchesterAdvance inst.manchesterSavedState .reset).1
  let state := (manchesterAdvance state .longHigh).1
  { inst with
    decodeData := 0
    decodeCountBit := 0
    manchesterSavedState := (manchesterAdvance state .shortLow).1 }

/-- `subghz_protocol_secplus_v2_check_packet`. -/
def checkPacket : Bool × SubGhzProtocolDecoderSecPlusV2 :=
  if inst.decodeData &&& secPlusV2HeaderMask = secPlusV2Header then
    if inst.decodeData &&& secPlusV2PacketMask = secPlusV2Packet1 then
      (false, { inst with secplusPacket1 := inst.decodeData })
    else
      (inst.decodeData &&& secPlusV2PacketMask = secPlusV2Packet2 ∧ inst.secplusPacket1 ≠ 0, inst)
  else (false, inst)

/-- A packet in `generic`. -/
def stored : SubGhzProtocolDecoderSecPlusV2 :=
  { inst with data := inst.decodeData, dataCountBit := inst.decodeCountBit.setWidth 16 }

/-- A gap behind a packet, with the packets that the callback gets. -/
def endPacket : Option (BitVec 64 × BitVec 64) × SubGhzProtocolDecoderSecPlusV2 :=
  if inst.decodeCountBit = 62 then
    let r := inst.stored.checkPacket
    if r.1 then (some (r.2.secplusPacket1, r.2.data), { r.2 with parserStep := .reset }.restart)
    else (none, r.2.restart)
  else (none, inst.restart)

/-- A run of one level. -/
def advance (event : ManchesterEvent) : SubGhzProtocolDecoderSecPlusV2 :=
  let r := manchesterAdvance inst.manchesterSavedState event
  match r.2 with
  | some bit =>
    { inst with
      manchesterSavedState := r.1
      decodeData := shiftIn inst.decodeData bit
      decodeCountBit := inst.decodeCountBit + 1 }
  | none => { inst with manchesterSavedState := r.1 }

end SubGhzProtocolDecoderSecPlusV2

/-- `subghz_protocol_decoder_secplus_v2_feed`, with the packets that the callback gets. -/
def subghzProtocolDecoderSecplusV2Feed (inst : SubGhzProtocolDecoderSecPlusV2) (level : Bool)
    (duration : Nat) : Option (BitVec 64 × BitVec 64) × SubGhzProtocolDecoderSecPlusV2 :=
  match inst.parserStep with
  | .reset =>
    if !level ∧ durationDiff duration (500 * 130) < 110 * 100 then
      (none, { inst with parserStep := .decoderData, secplusPacket1 := 0 }.restart)
    else (none, inst)
  | .decoderData =>
    if !level then
      if durationDiff duration 250 < 110 then (none, inst.advance .shortLow)
      else if durationDiff duration 500 < 110 then (none, inst.advance .longLow)
      else if 500 * 2 + 110 ≤ duration then inst.endPacket
      else (none, { inst with parserStep := .reset })
    else
      if durationDiff duration 250 < 110 then (none, inst.advance .shortHigh)
      else if durationDiff duration 500 < 110 then (none, inst.advance .longHigh)
      else (none, { inst with parserStep := .reset })

/-- The decoder, fed with the entries of uploads. -/
def secPlusV2Machine : Mealy SubGhzProtocolDecoderSecPlusV2 (Bool × BitVec 30)
    (Option (BitVec 64 × BitVec 64)) where
  step inst entry := subghzProtocolDecoderSecplusV2Feed inst entry.1 entry.2.toNat

def secPlusV2Reports (inst : SubGhzProtocolDecoderSecPlusV2) (entries : List (Bool × BitVec 30)) :
    List (BitVec 64 × BitVec 64) :=
  (secPlusV2Machine.outputs inst entries).filterMap id

/-! ### Entries of an upload -/

variable {inst : SubGhzProtocolDecoderSecPlusV2}

lemma secPlusV2Reports_append (inst : SubGhzProtocolDecoderSecPlusV2)
    (entries entries' : List (Bool × BitVec 30)) :
    secPlusV2Reports inst (entries ++ entries') = secPlusV2Reports inst entries ++
      secPlusV2Reports (secPlusV2Machine.final inst entries) entries' := by
  rw [secPlusV2Reports, Mealy.outputs_append, List.filterMap_append]
  rfl

/-- While the decoder waits for a gap, it ignores the runs of packets. -/
lemma feed_reset (h : inst.parserStep = .reset) (result : ManchesterEncoderResult) :
    secPlusV2Machine.step inst (subghzProtocolEncoderSecplusV2AddDurationToUpload result) =
      (none, inst) := by
  cases result <;>
    simp only [secPlusV2Machine, subghzProtocolDecoderSecplusV2Feed, h] <;> exact if_neg (by decide)

lemma feed_decoderData (h : inst.parserStep = .decoderData) (result : ManchesterEncoderResult) :
    secPlusV2Machine.step inst (subghzProtocolEncoderSecplusV2AddDurationToUpload result) =
      (none, inst.advance result.event) := by
  cases result <;> simp only [secPlusV2Machine, subghzProtocolDecoderSecplusV2Feed, h] <;> rfl

lemma feeds_reset (h : inst.parserStep = .reset) (results : List ManchesterEncoderResult) :
    secPlusV2Reports inst (results.map subghzProtocolEncoderSecplusV2AddDurationToUpload) = [] ∧
      secPlusV2Machine.final inst
        (results.map subghzProtocolEncoderSecplusV2AddDurationToUpload) = inst := by
  induction results with
  | nil => exact ⟨rfl, rfl⟩
  | cons result results ih =>
    rw [List.map_cons, secPlusV2Reports, Mealy.outputs_cons, Mealy.final_cons, feed_reset h]
    exact ih

def SubGhzProtocolDecoderSecPlusV2.received (inst : SubGhzProtocolDecoderSecPlusV2)
    (bits : List Bool) (state : ManchesterState) : SubGhzProtocolDecoderSecPlusV2 :=
  { inst with
    manchesterSavedState := state
    decodeData := bits.foldl shiftIn inst.decodeData
    decodeCountBit := inst.decodeCountBit + BitVec.ofNat 8 bits.length }

lemma feeds_decoderData (results : List ManchesterEncoderResult) :
    ∀ {inst : SubGhzProtocolDecoderSecPlusV2}, inst.parserStep = .decoderData →
      let r := manchesterDecode inst.manchesterSavedState results
      secPlusV2Reports inst (results.map subghzProtocolEncoderSecplusV2AddDurationToUpload) = [] ∧
        secPlusV2Machine.final inst
          (results.map subghzProtocolEncoderSecplusV2AddDurationToUpload) =
            inst.received r.1 r.2 := by
  induction results with
  | nil =>
    intro inst _
    refine ⟨rfl, ?_⟩
    rw [List.map_nil, Mealy.final_nil, manchesterDecode, SubGhzProtocolDecoderSecPlusV2.received,
      List.foldl_nil, List.length_nil, BitVec.add_zero]
  | cons result results ih =>
    intro inst h r
    have hnext : (inst.advance result.event).parserStep = .decoderData := by
      rw [SubGhzProtocolDecoderSecPlusV2.advance]
      split <;> exact h
    obtain ⟨hreports, hfinal⟩ := ih hnext
    rw [List.map_cons, secPlusV2Reports, Mealy.outputs_cons, Mealy.final_cons, feed_decoderData h]
    refine ⟨hreports, hfinal.trans ?_⟩
    have hr : r = ((manchesterAdvance inst.manchesterSavedState result.event).2.toList ++
        (manchesterDecode (manchesterAdvance inst.manchesterSavedState result.event).1 results).1,
      (manchesterDecode (manchesterAdvance inst.manchesterSavedState result.event).1 results).2) := rfl
    rw [hr]
    cases hbit : (manchesterAdvance inst.manchesterSavedState result.event).2 with
    | none =>
      simp only [SubGhzProtocolDecoderSecPlusV2.advance, hbit,
        SubGhzProtocolDecoderSecPlusV2.received, Option.toList_none, List.nil_append]
    | some bit =>
      simp only [SubGhzProtocolDecoderSecPlusV2.advance, hbit,
        SubGhzProtocolDecoderSecPlusV2.received, Option.toList_some, List.singleton_append,
        List.foldl_cons, List.length_cons, BitVec.ofNat_add, BitVec.add_assoc]
      congr 1
      exact congrArg (inst.decodeCountBit + ·) (BitVec.add_comm _ _)

/-! ### Packets -/

/-- The results for a packet. The second half of a last one is sent, that of a last zero belongs to
the gap. -/
def secPlusV2Results (state : ManchesterEncoderState) (packet : BitVec 64)
    (dataCountBit : BitVec 16) : List ManchesterEncoderResult :=
  let r := manchesterEncode (manchesterEncoderReset state) (secPlusV2SentBits packet dataCountBit)
  r.1 ++ (if r.2.prevBit then [.shortHigh] else [])

lemma secPlusV2UploadPacket_eq (state : ManchesterEncoderState) (packet : BitVec 64)
    (dataCountBit : BitVec 16) :
    (secPlusV2UploadPacket state packet dataCountBit).1 =
      (secPlusV2Results state packet dataCountBit).map
        subghzProtocolEncoderSecplusV2AddDurationToUpload ++ [levelDurationMake false (500 * 136)] := by
  have hlast (prev : Bool) :
      (if (subghzProtocolEncoderSecplusV2AddDurationToUpload (.ofBits prev prev)).1 then
        [subghzProtocolEncoderSecplusV2AddDurationToUpload (.ofBits prev prev)] else []) =
      (if prev then [ManchesterEncoderResult.shortHigh] else []).map
        subghzProtocolEncoderSecplusV2AddDurationToUpload := by
    cases prev <;> rfl
  rw [secPlusV2Results, List.map_append, ← hlast]
  rfl

/-- The decoder expects a packet. -/
structure SubGhzProtocolDecoderSecPlusV2.Ready (inst : SubGhzProtocolDecoderSecPlusV2)
    (packet1 : BitVec 64) : Prop where
  step : inst.parserStep = .decoderData
  data : inst.decodeData = 0
  count : inst.decodeCountBit = 0
  state : inst.manchesterSavedState = .start0
  packet1 : inst.secplusPacket1 = packet1

lemma ready_restart (h : inst.parserStep = .decoderData) :
    inst.restart.Ready inst.secplusPacket1 where
  step := h
  data := rfl
  count := rfl
  state := by
    simp only [SubGhzProtocolDecoderSecPlusV2.restart, manchesterAdvance_reset]
    decide
  packet1 := rfl

lemma feed_gap_reset (h : inst.parserStep = .reset) :
    ∃ inst', secPlusV2Machine.step inst (levelDurationMake false (500 * 136)) = (none, inst') ∧
      inst'.Ready 0 := by
  refine ⟨_, ?_, @ready_restart { inst with parserStep := .decoderData, secplusPacket1 := 0 } rfl⟩
  simp only [secPlusV2Machine, subghzProtocolDecoderSecplusV2Feed, h]
  exact if_pos (by decide)

lemma feed_gap_decoderData (h : inst.parserStep = .decoderData) :
    secPlusV2Machine.step inst (levelDurationMake false (500 * 136)) = inst.endPacket := by
  simp only [secPlusV2Machine, subghzProtocolDecoderSecplusV2Feed, h]
  rfl

lemma uploadPacket_gap {inst' : SubGhzProtocolDecoderSecPlusV2} {state : ManchesterEncoderState}
    {packet : BitVec 64} {dataCountBit : BitVec 16}
    (hreports : secPlusV2Reports inst ((secPlusV2Results state packet dataCountBit).map
      subghzProtocolEncoderSecplusV2AddDurationToUpload) = [])
    (hfinal : secPlusV2Machine.final inst ((secPlusV2Results state packet dataCountBit).map
      subghzProtocolEncoderSecplusV2AddDurationToUpload) = inst') :
    secPlusV2Reports inst (secPlusV2UploadPacket state packet dataCountBit).1 =
        (secPlusV2Machine.step inst' (levelDurationMake false (500 * 136))).1.toList ∧
      secPlusV2Machine.final inst (secPlusV2UploadPacket state packet dataCountBit).1 =
        (secPlusV2Machine.step inst' (levelDurationMake false (500 * 136))).2 := by
  rw [secPlusV2UploadPacket_eq, secPlusV2Reports_append, hreports, Mealy.final_append, hfinal,
    List.nil_append, secPlusV2Reports, Mealy.outputs_cons, Mealy.final_cons]
  refine ⟨?_, rfl⟩
  cases (secPlusV2Machine.step inst' (levelDurationMake false (500 * 136))).1 <;> rfl

lemma uploadPacket_reset (h : inst.parserStep = .reset) (state : ManchesterEncoderState)
    (packet : BitVec 64) (dataCountBit : BitVec 16) :
    secPlusV2Reports inst (secPlusV2UploadPacket state packet dataCountBit).1 = [] ∧
      (secPlusV2Machine.final inst (secPlusV2UploadPacket state packet dataCountBit).1).Ready 0 := by
  obtain ⟨hreports, hfinal⟩ := feeds_reset h (secPlusV2Results state packet dataCountBit)
  obtain ⟨inst', hgap, hready⟩ := feed_gap_reset h
  obtain ⟨hupload, hbehind⟩ := uploadPacket_gap hreports hfinal
  rw [hupload, hbehind, hgap]
  exact ⟨rfl, hready⟩

lemma foldl_shiftIn_range (f : Nat → Bool) (n : Nat) :
    ((List.range n).map f).foldl shiftIn (0 : BitVec 64) = packed 64 f n := by
  induction n with
  | zero => rfl
  | succ n ih =>
    rw [List.range_succ, List.map_append, List.foldl_append, ih]
    rfl

variable {packet kind : BitVec 64}

lemma SecPlusV2Headed.sentBits (h : SecPlusV2Headed packet kind) :
    (secPlusV2SentBits packet 62).foldl shiftIn 0 = packet ∧
      (secPlusV2SentBits packet 62).length = 62 ∧
      ∃ bits, secPlusV2SentBits packet 62 = false :: bits := by
  refine ⟨?_, rfl, _, congrArg (· :: _) (h.top 61 (Nat.le_refl 61))⟩
  rw [secPlusV2SentBits, foldl_shiftIn_range]
  apply BitVec.eq_of_getLsbD_eq
  intro i hi
  have hcount : ((62 : BitVec 16).setWidth 8).toNat = 62 := rfl
  rw [getLsbD_packed _ hi, hcount]
  by_cases hlt : i < 62
  · have hsub : 62 - 1 - (62 - 1 - i) = i := by omega
    rw [decide_eq_true hlt, Bool.true_and, hsub]
  · rw [decide_eq_false hlt, Bool.false_and, h.top i (by omega)]

lemma feeds_packet {packet1 : BitVec 64} (hready : inst.Ready packet1)
    (h : SecPlusV2Headed packet kind) (state : ManchesterEncoderState) :
    ∃ inst', secPlusV2Reports inst ((secPlusV2Results state packet 62).map
          subghzProtocolEncoderSecplusV2AddDurationToUpload) = [] ∧
      secPlusV2Machine.final inst ((secPlusV2Results state packet 62).map
          subghzProtocolEncoderSecplusV2AddDurationToUpload) = inst' ∧
      inst'.parserStep = .decoderData ∧ inst'.decodeData = packet ∧ inst'.decodeCountBit = 62 ∧
      inst'.secplusPacket1 = packet1 := by
  obtain ⟨hpacket, hlength, bits, hbits⟩ := h.sentBits
  obtain ⟨hdecode, hlast⟩ := manchesterDecode_encode_start state bits
  rw [← hbits] at hdecode hlast
  have hresults : (manchesterDecode inst.manchesterSavedState
      (secPlusV2Results state packet 62)).1 = secPlusV2SentBits packet 62 := by
    have hhalf (prev : Bool) :
        (manchesterDecode (.mid prev) (if prev then [.shortHigh] else [])).1 = [] := by
      cases prev <;> decide
    rw [hready.state, secPlusV2Results, manchesterDecode_append, hdecode, hlast]
    exact (congrArg (secPlusV2SentBits packet 62 ++ ·) (hhalf _)).trans (List.append_nil _)
  obtain ⟨hreports, hfinal⟩ := feeds_decoderData (secPlusV2Results state packet 62) hready.step
  rw [hresults] at hfinal
  refine ⟨_, hreports, hfinal, hready.step, ?_, ?_, hready.packet1⟩
  · rw [SubGhzProtocolDecoderSecPlusV2.received, hready.data]
    exact hpacket
  · rw [SubGhzProtocolDecoderSecPlusV2.received, hready.count, hlength]
    rfl

lemma uploadPacket_first {packet1 : BitVec 64} (hready : inst.Ready packet1)
    (h : SecPlusV2Headed packet secPlusV2Packet1) (state : ManchesterEncoderState) :
    secPlusV2Reports inst (secPlusV2UploadPacket state packet 62).1 = [] ∧
      (secPlusV2Machine.final inst (secPlusV2UploadPacket state packet 62).1).Ready packet := by
  obtain ⟨inst', hreports, hfinal, hstep, hdata, hcount, -⟩ := feeds_packet hready h state
  have hcheck : inst'.stored.checkPacket =
      (false, { inst'.stored with secplusPacket1 := inst'.decodeData }) := by
    rw [SubGhzProtocolDecoderSecPlusV2.checkPacket, if_pos (by rw [← h.header, ← hdata]; rfl),
      if_pos (by rw [← h.kind, ← hdata]; rfl)]
    rfl
  obtain ⟨hupload, hbehind⟩ := uploadPacket_gap hreports hfinal
  rw [hupload, hbehind, feed_gap_decoderData hstep, SubGhzProtocolDecoderSecPlusV2.endPacket,
    if_pos hcount, hcheck]
  exact ⟨rfl, hdata ▸ @ready_restart { inst'.stored with secplusPacket1 := inst'.decodeData } hstep⟩

lemma uploadPacket_second {packet1 : BitVec 64} (hready : inst.Ready packet1)
    (h : SecPlusV2Headed packet secPlusV2Packet2) (state : ManchesterEncoderState) :
    (packet1 = 0 →
      secPlusV2Reports inst (secPlusV2UploadPacket state packet 62).1 = [] ∧
        (secPlusV2Machine.final inst (secPlusV2UploadPacket state packet 62).1).Ready 0) ∧
      (packet1 ≠ 0 →
        secPlusV2Reports inst (secPlusV2UploadPacket state packet 62).1 = [(packet1, packet)] ∧
          (secPlusV2Machine.final inst
            (secPlusV2UploadPacket state packet 62).1).parserStep = .reset) := by
  obtain ⟨inst', hreports, hfinal, hstep, hdata, hcount, hpacket1⟩ := feeds_packet hready h state
  have hkind : secPlusV2Packet2 ≠ secPlusV2Packet1 := by decide
  have hmasked : inst'.stored.decodeData &&& secPlusV2PacketMask = secPlusV2Packet2 := by
    rw [← h.kind, ← hdata]
    rfl
  have hcheck : inst'.stored.checkPacket = (decide (packet1 ≠ 0), inst'.stored) := by
    rw [SubGhzProtocolDecoderSecPlusV2.checkPacket, if_pos (by rw [← h.header, ← hdata]; rfl), hmasked,
      if_neg hkind, ← hpacket1]
    simp only [true_and]
    rfl
  obtain ⟨hupload, hbehind⟩ := uploadPacket_gap hreports hfinal
  rw [hupload, hbehind, feed_gap_decoderData hstep, SubGhzProtocolDecoderSecPlusV2.endPacket,
    if_pos hcount, hcheck]
  refine ⟨fun hzero => ?_, fun hne => ?_⟩
  · have hrestart := @ready_restart inst'.stored hstep
    rw [show inst'.stored.secplusPacket1 = 0 from hpacket1.trans hzero] at hrestart
    simp only [hzero, ne_eq, not_true_eq_false, decide_false, Bool.false_eq_true, if_false]
    exact ⟨rfl, hrestart⟩
  · simp only [hne, ne_eq, not_false_eq_true, decide_true, if_true]
    refine ⟨?_, rfl⟩
    show [(inst'.secplusPacket1, inst'.decodeData)] = _
    rw [hpacket1, hdata]

/-! ### Messages -/

variable {sent : SubGhzProtocolEncoderSecPlusV2}

/-- Two packets that belong together, with their 62 bits. -/
structure SubGhzProtocolEncoderSecPlusV2.Message (sent : SubGhzProtocolEncoderSecPlusV2) : Prop where
  first : SecPlusV2Headed sent.secplusPacket1 secPlusV2Packet1
  second : SecPlusV2Headed sent.generic.data secPlusV2Packet2
  count : sent.generic.dataCountBit = 62

lemma SecPlusV2Headed.ne_zero (h : SecPlusV2Headed packet kind) : packet ≠ 0 := by
  rintro rfl
  exact absurd h.header (by decide)

lemma play_reset (hsent : sent.Message) (h : inst.parserStep = .reset)
    (state : ManchesterEncoderState) :
    secPlusV2Reports inst (subghzProtocolEncoderSecplusV2GetUpload sent state) = [] ∧
      (secPlusV2Machine.final inst
        (subghzProtocolEncoderSecplusV2GetUpload sent state)).Ready 0 := by
  obtain ⟨hreports, hready⟩ :=
    uploadPacket_reset h state sent.secplusPacket1 sent.generic.dataCountBit
  obtain ⟨hnone, -⟩ := uploadPacket_second hready hsent.second
    (secPlusV2UploadPacket state sent.secplusPacket1 sent.generic.dataCountBit).2
  obtain ⟨hreports', hready'⟩ := hnone rfl
  rw [subghzProtocolEncoderSecplusV2GetUpload, secPlusV2Reports_append, Mealy.final_append, hreports, hsent.count] at *
  exact ⟨hreports', hready'⟩

lemma play_ready (hsent : sent.Message) {packet1 : BitVec 64} (hready : inst.Ready packet1)
    (state : ManchesterEncoderState) :
    secPlusV2Reports inst (subghzProtocolEncoderSecplusV2GetUpload sent state) =
        [(sent.secplusPacket1, sent.generic.data)] ∧
      (secPlusV2Machine.final inst
        (subghzProtocolEncoderSecplusV2GetUpload sent state)).parserStep = .reset := by
  obtain ⟨hreports, hready'⟩ := uploadPacket_first hready hsent.first state
  obtain ⟨-, hfound⟩ := uploadPacket_second hready' hsent.second
    (secPlusV2UploadPacket state sent.secplusPacket1 62).2
  obtain ⟨hreports', hreset⟩ := hfound hsent.first.ne_zero
  rw [subghzProtocolEncoderSecplusV2GetUpload, hsent.count, secPlusV2Reports_append, Mealy.final_append, hreports, hreports']
  exact ⟨rfl, hreset⟩

lemma reports_plays (hsent : sent.Message) (state : ManchesterEncoderState) (n : Nat) :
    ∀ {inst : SubGhzProtocolDecoderSecPlusV2}, inst.parserStep = .reset →
      secPlusV2Reports inst
          (List.replicate n (subghzProtocolEncoderSecplusV2GetUpload sent state)).flatten =
        List.replicate (n / 2) (sent.secplusPacket1, sent.generic.data) := by
  induction n using Nat.twoStepInduction with
  | zero => exact fun _ => rfl
  | one =>
    intro inst h
    rw [List.replicate_one, List.flatten_singleton, (play_reset hsent h state).1]
    rfl
  | more n ih _ =>
    intro inst h
    obtain ⟨hfirst, hready⟩ := play_reset hsent h state
    obtain ⟨hsecond, hreset⟩ := play_ready hsent hready state
    have hhalf : (n + 2) / 2 = n / 2 + 1 := by omega
    rw [List.replicate_succ, List.replicate_succ, List.flatten_cons, List.flatten_cons,
      secPlusV2Reports_append, hfirst, secPlusV2Reports_append, hsecond, ih hreset, hhalf,
      List.replicate_succ]
    rfl

lemma btnCode_ok {btns : SubGhzCustomBtns} (hid : btns.id = .ok) :
    subghzProtocolSecplusV2GetBtnCode btns = btns.original := by
  obtain ⟨id, original, maxBtns⟩ := btns
  cases hid
  rfl

lemma btn_encode {inst : SubGhzProtocolEncoderSecPlusV2} {btns : SubGhzCustomBtns}
    (hid : btns.id = .ok) (horiginal : btns.original = 0 ∨ btns.original = inst.generic.btn)
    (mult : BitVec 8) :
    (subghzProtocolSecplusV2Encode inst mult btns).1.generic.btn = inst.generic.btn := by
  show subghzProtocolSecplusV2GetBtnCode (btns.keepOriginal inst.generic.btn) = inst.generic.btn
  rw [SubGhzCustomBtns.keepOriginal]
  split_ifs with hzero
  · exact btnCode_ok hid
  · rw [btnCode_ok hid]
    exact horiginal.resolve_left hzero

/-- Without a custom button the packets of a message are accepted and read as the serial number, the
button and the next counter; and of plays in a row into a new decoder every second one is reported
as these two packets. -/
theorem secPlusV2_read_and_reports (inst : SubGhzProtocolEncoderSecPlusV2) (mult : BitVec 8)
    (btns : SubGhzCustomBtns) (hid : btns.id = .ok)
    (horiginal : btns.original = 0 ∨ btns.original = inst.generic.btn)
    (hcount : inst.generic.dataCountBit = 62) :
    let sent := (subghzProtocolSecplusV2Encode inst mult btns).1
    let cnt := secPlusV2NextCounter inst.generic.cnt mult
    secPlusV2Read sent.secplusPacket1 sent.generic.data =
        some (cnt, inst.generic.btn, inst.generic.serial) ∧
      (∀ generic btns', generic.data = sent.generic.data →
        (subghzProtocolSecplusV2RemoteController generic sent.secplusPacket1 btns').1 =
          { generic with cnt, btn := inst.generic.btn, serial := inst.generic.serial }) ∧
      ∀ state n, 2 ≤ n → 0 < n / 2 ∧
        secPlusV2Reports subghzProtocolDecoderSecplusV2Alloc
            (List.replicate n (subghzProtocolEncoderSecplusV2GetUpload sent state)).flatten =
          List.replicate (n / 2) (sent.secplusPacket1, sent.generic.data) := by
  intro sent cnt
  have hread : secPlusV2Read sent.secplusPacket1 sent.generic.data =
      some (cnt, inst.generic.btn, inst.generic.serial) := by
    have hencode := secPlusV2Read_encode inst mult btns
    dsimp only at hencode
    rw [btn_encode hid horiginal] at hencode
    exact hencode
  obtain ⟨hfirst, hsecond⟩ := headed_encode inst mult btns
  refine ⟨hread, fun generic btns' hdata => ?_, fun state n hn => ⟨Nat.div_pos hn Nat.two_pos, ?_⟩⟩
  · rw [subghzProtocolSecplusV2RemoteController, hdata, hread]
  · exact reports_plays ⟨hfirst, hsecond, hcount⟩ state n rfl

/-- A button of a remote control that is sent for the first time. -/
def secPlusV2NewRemote : SubGhzProtocolEncoderSecPlusV2 where
  generic :=
    { data := 0, serial := 0x12345678, dataCountBit := 62, btn := 0x68, cnt := 0xFFFFFFF }
  secplusPacket1 := 0

/-- The last counter, behind which the counters start again. -/
theorem secPlusV2_read_and_reports_last :
    let sent := (subghzProtocolSecplusV2Encode secPlusV2NewRemote 1 ⟨.ok, 0, 0⟩).1
    secPlusV2Read sent.secplusPacket1 sent.generic.data = some (0xE500000, 0x68, 0x12345678) ∧
      (∀ generic btns', generic.data = sent.generic.data →
        (subghzProtocolSecplusV2RemoteController generic sent.secplusPacket1 btns').1 =
          { generic with cnt := 0xE500000, btn := 0x68, serial := 0x12345678 }) ∧
      ∀ state n, 2 ≤ n → 0 < n / 2 ∧
        secPlusV2Reports subghzProtocolDecoderSecplusV2Alloc
            (List.replicate n (subghzProtocolEncoderSecplusV2GetUpload sent state)).flatten =
          List.replicate (n / 2) (sent.secplusPacket1, sent.generic.data) :=
  secPlusV2_read_and_reports secPlusV2NewRemote 1 ⟨.ok, 0, 0⟩ rfl (.inl rfl) rfl

end FlipperZero
