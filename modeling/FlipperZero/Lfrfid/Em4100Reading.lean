import FlipperZero.Lfrfid.Em4100

/-!
# Reading EM4100 cards

What the encoder of a card yields is glued and fed to a decoder. A decoder that has been started gets
the bits of the card behind some ones that stand for zeros. The register for the header of the next
frame is not cleared when a decoder is started, so that bits from before the start may complete a
frame; if there are none, only the card is reported.
-/

namespace FlipperZero

open Foundation

/-! ### Reading -/

def lfRfidReadTimingMultiplier : BitVec 32 := 8

/-- The card, the glue and the decoder, with what has been reported, the last one first. -/
structure Em4100Reading where
  encoder : ProtocolEM4100
  glue : PulseGlue
  decoder : ProtocolEM4100
  reports : List Memory

/-- What a call of the decoder reports. -/
def em4100Report (r : Bool × ProtocolEM4100) : List Memory := if r.1 then [r.2.data] else []

/-- The encoder yields a level, and the decoder is fed with what is popped. -/
def em4100ReadStep (s : Em4100Reading) : Em4100Reading :=
  let r := protocolEm4100EncoderYield s.encoder
  let push := pulseGluePush s.glue r.1.1 (r.1.2 * lfRfidReadTimingMultiplier)
  if push.1 then
    let pop := pulseGluePop push.2
    let first := protocolEm4100DecoderFeed s.decoder true pop.2.1
    let second := protocolEm4100DecoderFeed first.2 false (pop.1 - pop.2.1)
    { encoder := r.2
      glue := pop.2.2
      decoder := second.2
      reports := em4100Report second ++ (em4100Report first ++ s.reports) }
  else { s with encoder := r.2, glue := push.2 }

/-- The encoder of a card after it has yielded some levels. -/
def em4100Yielded (card : ProtocolEM4100) : Nat → ProtocolEM4100
  | 0     => protocolEm4100EncoderStart card
  | n + 1 => (protocolEm4100EncoderYield (em4100Yielded card n)).2

def em4100Read (card decoder : ProtocolEM4100) (begin : Nat) : Nat → Em4100Reading
  | 0     => ⟨em4100Yielded card begin, pulseGlueReset, protocolEm4100DecoderStart decoder, []⟩
  | n + 1 => em4100ReadStep (em4100Read card decoder begin n)

/-- The clocks of the three protocols. -/
def em4100Clocks : List (BitVec 8) := [64, 32, 16]

/-- All that is reported is the card, and it is found within five frames. -/
structure Em4100ReadsCard (card decoder : ProtocolEM4100) (begin : Nat) : Prop where
  right : ∀ n, ∀ report ∈ (em4100Read card decoder begin n).reports, ∀ i < 5, report i = card.data i
  found : ∀ n ≥ 640, (em4100Read card decoder begin n).reports ≠ []

/-! ### The encoder -/

def em4100Half (clockPerBit : BitVec 8) : Nat := 4 * clockPerBit.toNat

variable {card decoder : ProtocolEM4100}

lemma em4100Yielded_eq (card : ProtocolEM4100) (n : Nat) :
    em4100Yielded card n = { protocolEm4100EncoderStart card with
      encodedDataIndex := n / 2 % 64
      encodedPolarity := decide (n % 2 = 0) } := by
  induction n with
  | zero => rfl
  | succ n ih =>
    rw [em4100Yielded, ih, protocolEm4100EncoderYield]
    obtain ⟨i, rfl | rfl⟩ : ∃ i, n = 2 * i ∨ n = 2 * i + 1 := ⟨n / 2, by omega⟩
    · have heven : 2 * i % 2 = 0 := by omega
      have hodd : ¬(2 * i + 1) % 2 = 0 := by omega
      have hdiv : (2 * i + 1) / 2 = 2 * i / 2 := by omega
      rw [decide_eq_true heven, if_pos rfl, decide_eq_false hodd, hdiv]
    · have hodd : ¬(2 * i + 1) % 2 = 0 := by omega
      have heven : (2 * i + 1 + 1) % 2 = 0 := by omega
      have hdiv : (2 * i + 1) / 2 = i := by omega
      have hdiv' : (2 * i + 1 + 1) / 2 = i + 1 := by omega
      have hindex : (if 64 ≤ i % 64 + 1 then 0 else i % 64 + 1) = (i + 1) % 64 := by
        split_ifs <;> omega
      rw [decide_eq_false hodd, if_neg Bool.false_ne_true, decide_eq_true heven, hdiv, hdiv']
      dsimp only
      rw [hindex]

lemma protocolEm4100EncoderYield_eq (card : ProtocolEM4100) (n : Nat) :
    (protocolEm4100EncoderYield (em4100Yielded card n)).1 =
      (halfLevel (em4100Sent card.data) n, (card.clockPerBit / 2).setWidth 32) := by
  have hlevel : (em4100Frame card.data).getLsbD (63 - n / 2 % 64) = em4100Sent card.data (n / 2) := by
    have hindex : 64 - 1 - (63 - n / 2 % 64) = n / 2 % 64 := by omega
    rw [em4100Frame_eq, getLsbD_packed _ (by omega), decide_eq_true (by omega), Bool.true_and, hindex]
    rfl
  rw [em4100Yielded_eq, protocolEm4100EncoderYield]
  dsimp only [protocolEm4100EncoderStart]
  rw [hlevel, halfLevel]
  by_cases heven : n % 2 = 0
  · rw [if_pos (decide_eq_true heven), decide_eq_false (by omega), Bool.xor_false]
  · rw [if_neg (by simpa using heven), decide_eq_true (by omega), Bool.xor_true]

/-! ### The decoder -/

/-- The words of a decoder that has been given some bits. -/
def em4100Words (bits : List Bool) : BitVec 64 × BitVec 64 :=
  (lastBits 64 (bits.drop 64), lastBits 64 bits)

/-- What has been reported when some bits have been given. -/
def em4100Reports : List Bool → List Memory
  | []        => []
  | b :: bits =>
    let words := em4100Words (b :: bits)
    (if em4100CanBeDecoded words.1 words.2 then [em4100Decode words.1] else []) ++ em4100Reports bits

/-- A decoder that has been given some bits. -/
structure Em4100Shows (clockPerBit : BitVec 8) (decoder : ProtocolEM4100)
    (receiver : ManchesterReceiver) (reports : List Memory) : Prop where
  clock : decoder.clockPerBit = clockPerBit
  state : decoder.decoderManchesterState = receiver.state
  words : (decoder.encodedData, decoder.encodedEpilogue) = em4100Words receiver.bits
  reports : reports = em4100Reports receiver.bits

lemma getLsbD_lastBits {n i : Nat} (bits : List Bool) (hi : i < n) :
    (lastBits n bits).getLsbD i = bits.getD i false := by
  have hsub : n - 1 - (n - 1 - i) = i := by omega
  rw [lastBits, getLsbD_packed _ hi, decide_eq_true hi, Bool.true_and, hsub]

lemma em4100Words_nil : em4100Words [] = (0, 0) := by decide +kernel

lemma em4100Words_cons (b : Bool) (bits : List Bool) :
    em4100Words (b :: bits) =
      (shiftIn (em4100Words bits).1 ((em4100Words bits).2.getLsbD 63), shiftIn (em4100Words bits).2 b) := by
  apply Prod.ext
  · apply BitVec.eq_of_getLsbD_eq
    intro i hi
    dsimp only [em4100Words]
    rw [getLsbD_shiftIn _ _ hi, getLsbD_lastBits _ hi, getLsbD_lastBits _ (by decide),
      List.drop_succ_cons]
    cases i with
    | zero => simp
    | succ i =>
      rw [if_neg (Nat.succ_ne_zero i), getLsbD_lastBits _ (by omega), Nat.succ_sub_one]
      simp only [List.getD_eq_getElem?_getD, List.getElem?_drop]
      have hindex : 63 + (i + 1) = 64 + i := by omega
      rw [hindex]
  · apply BitVec.eq_of_getLsbD_eq
    intro i hi
    dsimp only [em4100Words]
    rw [getLsbD_shiftIn _ _ hi, getLsbD_lastBits _ hi]
    cases i with
    | zero => rfl
    | succ i => rw [if_neg (Nat.succ_ne_zero i), getLsbD_lastBits _ (by omega), Nat.succ_sub_one,
        List.getD_cons_succ]

lemma protocolEm4100Event_run {clockPerBit : BitVec 8} (hclock : clockPerBit ∈ em4100Clocks)
    (hsame : decoder.clockPerBit = clockPerBit) (level long : Bool) :
    protocolEm4100Event decoder level (halvesLength (em4100Half clockPerBit) (halves long)) =
      manchesterEvent level long := by
  have hdivisor : protocolEm4100GetTimeDivisor decoder =
      protocolEm4100GetTimeDivisor (protocolEm4100AllocWith clockPerBit) := by
    rw [protocolEm4100GetTimeDivisor, hsame]
    rfl
  have hevent : protocolEm4100Event decoder = protocolEm4100Event (protocolEm4100AllocWith clockPerBit) := by
    funext level duration
    rw [protocolEm4100Event, protocolEm4100GetShortTimeLow, protocolEm4100GetShortTimeHigh,
      protocolEm4100GetLongTimeLow, protocolEm4100GetLongTimeHigh, hdivisor]
    rfl
  have htable : ∀ clock ∈ em4100Clocks, ∀ level long : Bool,
      protocolEm4100Event (protocolEm4100AllocWith clock) level
        (halvesLength (em4100Half clock) (halves long)) = manchesterEvent level long := by decide
  rw [hevent]
  exact htable clockPerBit hclock level long

lemma Em4100Shows.feed {clockPerBit : BitVec 8} {receiver : ManchesterReceiver}
    {reports : List Memory} (h : Em4100Shows clockPerBit decoder receiver reports)
    (hclock : clockPerBit ∈ em4100Clocks) (level long : Bool) :
    Em4100Shows clockPerBit (protocolEm4100DecoderFeed decoder level
        (halvesLength (em4100Half clockPerBit) (halves long))).2
      (receiver.run level long)
      (em4100Report (protocolEm4100DecoderFeed decoder level
        (halvesLength (em4100Half clockPerBit) (halves long))) ++ reports) := by
  have hreset : manchesterEvent level long ≠ .reset := by
    cases level <;> cases long <;> decide
  obtain ⟨hdata, hepilogue⟩ := Prod.mk.inj h.words
  rw [protocolEm4100DecoderFeed, protocolEm4100Event_run hclock h.clock, if_neg hreset, h.state,
    ManchesterReceiver.run]
  cases hadvance : manchesterAdvance receiver.state (manchesterEvent level long) with
  | mk state data =>
    cases data with
    | none => exact ⟨h.clock, rfl, h.words, h.reports⟩
    | some b =>
      have hwords : (shiftIn decoder.encodedData (decoder.encodedEpilogue.getLsbD 63),
          shiftIn decoder.encodedEpilogue b) = em4100Words (b :: receiver.bits) := by
        rw [hdata, hepilogue]
        exact (em4100Words_cons b receiver.bits).symm
      have hdata' : shiftIn decoder.encodedData (decoder.encodedEpilogue.getLsbD 63) =
          (em4100Words (b :: receiver.bits)).1 := congrArg Prod.fst hwords
      have hepilogue' : shiftIn decoder.encodedEpilogue b = (em4100Words (b :: receiver.bits)).2 :=
        congrArg Prod.snd hwords
      dsimp only
      rw [hdata', hepilogue']
      split_ifs with haccept
      · refine ⟨h.clock, rfl, rfl, ?_⟩
        rw [h.reports]
        show _ = em4100Reports (b :: receiver.bits)
        rw [em4100Reports, if_pos haccept]
        rfl
      · refine ⟨h.clock, rfl, rfl, ?_⟩
        rw [h.reports]
        show _ = em4100Reports (b :: receiver.bits)
        rw [em4100Reports, if_neg haccept]
        rfl

/-! ### What is reported -/

lemma mem_em4100Reports {report : Memory} {bits : List Bool} (h : report ∈ em4100Reports bits) :
    ∃ k, em4100CanBeDecoded (em4100Words (bits.drop k)).1 (em4100Words (bits.drop k)).2 = true ∧
      report = em4100Decode (em4100Words (bits.drop k)).1 := by
  induction bits with
  | nil => exact absurd h List.not_mem_nil
  | cons b bits ih =>
    rw [em4100Reports, List.mem_append] at h
    rcases h with hnow | hbefore
    · split_ifs at hnow with haccept
      · exact ⟨0, haccept, List.mem_singleton.mp hnow⟩
      · exact absurd hnow List.not_mem_nil
    · obtain ⟨k, haccept, hreport⟩ := ih hbefore
      exact ⟨k + 1, haccept, hreport⟩

lemma em4100Reports_ne_nil {k : Nat} {bits : List Bool} (hk : k < bits.length)
    (h : em4100CanBeDecoded (em4100Words (bits.drop k)).1 (em4100Words (bits.drop k)).2 = true) :
    em4100Reports bits ≠ [] := by
  induction bits generalizing k with
  | nil => exact absurd hk (Nat.not_lt_zero k)
  | cons b bits ih =>
    rw [em4100Reports]
    cases k with
    | zero =>
      rw [List.drop_zero] at h
      rw [if_pos h]
      exact List.cons_ne_nil _ _
    | succ k =>
      intro hnil
      exact ih (Nat.lt_of_succ_lt_succ hk) h (List.append_eq_nil_iff.mp hnil).2

variable {data : Memory} {start p q g : Nat} {bits : List Bool}

lemma getLsbD_em4100Words (hgiven : ∀ k, bits.getD k false = receivedBit (em4100Sent data) p q g k)
    {i : Nat} (hi : i < 64) :
    (em4100Words bits).1.getLsbD i = receivedBit (em4100Sent data) p q g (64 + i) ∧
      (em4100Words bits).2.getLsbD i = receivedBit (em4100Sent data) p q g i := by
  constructor
  · rw [em4100Words, getLsbD_lastBits _ hi, ← hgiven, List.getD_eq_getElem?_getD, List.getElem?_drop,
      List.getD_eq_getElem?_getD]
  · rw [em4100Words, getLsbD_lastBits _ hi, hgiven]

/-- A word that is accepted is the frame: the ones in front of it could only be more than one if a
header stood among the zeros that were taken for them. -/
lemma em4100Words_accepted (hpq : p < q) (hgarbled : Garbled (em4100Sent data) start p g)
    (hgiven : ∀ k, bits.getD k false = receivedBit (em4100Sent data) p q g k)
    (haccept : em4100CanBeDecoded (em4100Words bits).1 (em4100Words bits).2 = true) :
    (em4100Words bits).1 = packed 64 (em4100Bit data) 64 := by
  obtain ⟨hnext, hheader, hstop⟩ := em4100CanBeDecoded_header haccept
  have hfirst := hheader 0 (by decide)
  rw [(getLsbD_em4100Words hgiven (by decide)).1] at hstop hfirst
  by_cases hin : 64 + p + 1 < q
  · have hbefore : em4100Sent data (q - 64 + 63) = false := by
      have hmod : (q - 64 + 63) % 64 = (q - 1 - (64 + 0)) % 64 := by omega
      rw [receivedBit, if_pos hin] at hstop
      rw [em4100Sent, hmod]
      exact hstop
    have hmultiple := em4100Sent_header data hbefore fun k hk => by
      have hone := hnext k hk
      have hindex : q - 1 - (63 - k) = q - 64 + k := by omega
      rw [(getLsbD_em4100Words hgiven (by omega)).2, receivedBit, if_pos (by omega), hindex] at hone
      exact hone
    apply BitVec.eq_of_getLsbD_eq
    intro i hi
    have hsub : 64 - 1 - i = 63 - i := by omega
    rw [(getLsbD_em4100Words hgiven hi).1, getLsbD_packed _ hi, decide_eq_true hi, Bool.true_and,
      hsub, receivedBit]
    by_cases hsent : 64 + i + p + 1 < q
    · have hmod : (q - 1 - (64 + i)) % 64 = 63 - i := by omega
      rw [if_pos hsent, em4100Sent, hmod]
    · rw [receivedBit, if_neg (by omega), decide_eq_true_eq] at hfirst
      have hcount := hgarbled.count
      -- the header before `q` is not among the zeros, so that it starts with the bit `p`
      have hstart : q - 128 = p := by
        by_contra hne
        have hzero := hgarbled.zero (q - 128) (by omega) (by omega)
        have hmod : (q - 128) % 64 = 0 := by omega
        rw [em4100Sent, hmod] at hzero
        exact Bool.noConfusion hzero
      have hlast : i = 63 := by omega
      rw [if_neg hsent, hlast, decide_eq_true (by omega)]
      rfl
  · rw [receivedBit, if_neg hin, decide_eq_false_iff_not] at hstop
    rw [receivedBit, if_neg (by omega), decide_eq_true_eq] at hfirst
    omega

lemma em4100Words_frame (hmultiple : q % 64 = 0) (hlong : p + 128 < q)
    (hgiven : ∀ k, bits.getD k false = receivedBit (em4100Sent data) p q g k) :
    em4100CanBeDecoded (em4100Words bits).1 (em4100Words bits).2 = true := by
  have hword : (em4100Words bits).1 = packed 64 (em4100Bit data) 64 := by
    apply BitVec.eq_of_getLsbD_eq
    intro i hi
    have hmod : (q - 1 - (64 + i)) % 64 = 64 - 1 - i := by omega
    rw [(getLsbD_em4100Words hgiven hi).1, getLsbD_packed _ hi, decide_eq_true hi, Bool.true_and,
      receivedBit, if_pos (by omega), em4100Sent, hmod]
  rw [hword]
  apply em4100CanBeDecoded_frame
  intro k hk
  have hmod : (q - 1 - (63 - k)) % 64 = k := by omega
  rw [(getLsbD_em4100Words hgiven (by omega)).2, receivedBit, if_pos (by omega), em4100Sent, hmod]
  exact em4100Bit_header data hk

/-! ### Reading a card -/

/-- The reading of a card is in step with a Manchester decoder that is told of the glued halves. -/
structure Em4100Follows (card : ProtocolEM4100) (begin n : Nat) (s : Em4100Reading)
    (receiver : ManchesterReceiver) : Prop where
  encoder : s.encoder = em4100Yielded card (begin + n)
  glue : GlueReading (em4100Sent card.data) (em4100Half card.clockPerBit) begin (begin + n) s.glue
    receiver
  decoder : Em4100Shows card.clockPerBit s.decoder receiver s.reports

lemma Em4100Follows.step {begin n : Nat} {s : Em4100Reading} {receiver : ManchesterReceiver}
    (h : Em4100Follows card begin n s receiver) (hclock : card.clockPerBit ∈ em4100Clocks) :
    ∃ receiver', Em4100Follows card begin (n + 1) (em4100ReadStep s) receiver' := by
  have hlength : ∀ clock ∈ em4100Clocks, (clock / 2).setWidth 32 * lfRfidReadTimingMultiplier =
      halvesLength (em4100Half clock) 1 := by decide
  have hhalf : ∀ clock ∈ em4100Clocks, 0 < em4100Half clock ∧ 2 * em4100Half clock < 2 ^ 32 := by
    decide
  obtain ⟨hpos, hlt⟩ := hhalf _ hclock
  have hyield := protocolEm4100EncoderYield_eq card (begin + n)
  have hnext : (protocolEm4100EncoderYield s.encoder).2 = em4100Yielded card (begin + (n + 1)) := by
    rw [h.encoder]
    rfl
  rw [em4100ReadStep, hnext, h.encoder, hyield]
  dsimp only
  rw [hlength _ hclock]
  rcases h.glue.push hpos hlt with ⟨hready, hglue⟩ | ⟨first, second, length, period, left, hready, hpop,
    hperiod, hrest, hglue⟩
  · rw [hready, if_neg Bool.false_ne_true]
    exact ⟨receiver, rfl, hglue, h.decoder⟩
  · rw [hready, if_pos rfl, hpop]
    dsimp only
    rw [hperiod] at hrest ⊢
    rw [hrest]
    exact ⟨_, rfl, hglue, (h.decoder.feed hclock true first).feed hclock false second⟩

lemma em4100Read_follows (hclock : card.clockPerBit ∈ em4100Clocks)
    (hsame : decoder.clockPerBit = card.clockPerBit) (hcleared : decoder.encodedEpilogue = 0)
    (begin n : Nat) : ∃ receiver, Em4100Follows card begin n (em4100Read card decoder begin n) receiver := by
  induction n with
  | zero =>
    refine ⟨⟨manchesterResetState, []⟩, rfl,
      .waiting begin fun j hbegin hj => absurd hbegin (Nat.not_le.mpr hj), hsame, rfl, ?_, rfl⟩
    rw [em4100Words_nil]
    exact Prod.ext rfl hcleared
  | succ n ih =>
    obtain ⟨receiver, hfollows⟩ := ih
    exact hfollows.step hclock

/-- Of the rotations of a frame only the frame itself is accepted, and it is decoded to the card. A
decoder without bits from before its start reports the card and nothing else, wherever the card is
read from. -/
theorem em4100Read_card (card decoder : ProtocolEM4100) (hclock : card.clockPerBit ∈ em4100Clocks)
    (hsame : decoder.clockPerBit = card.clockPerBit) :
    (∀ r < 64, em4100CanBeDecoded ((em4100Frame card.data).rotateLeft r)
        ((em4100Frame card.data).rotateLeft r) = true ↔ r = 0) ∧
      (∀ i < 5, em4100Decode (em4100Frame card.data) i = card.data i) ∧
      (decoder.encodedEpilogue = 0 → ∀ begin, Em4100ReadsCard card decoder begin) := by
  refine ⟨fun r hr => em4100CanBeDecoded_rotateLeft card.data hr, fun i hi => ?_,
    fun hcleared begin => ⟨fun n report hreport i hi => ?_, fun n hn => ?_⟩⟩
  · rw [em4100Frame_eq]
    exact em4100Decode_frame card.data hi
  · obtain ⟨receiver, hfollows⟩ := em4100Read_follows hclock hsame hcleared begin n
    rw [hfollows.decoder.reports] at hreport
    obtain ⟨k, haccept, rfl⟩ := mem_em4100Reports hreport
    rcases hfollows.glue.given with hnil | ⟨start, p, q, g, hpq, hgarbled, hgiven⟩
    · rw [hnil] at hreport
      exact absurd hreport List.not_mem_nil
    · obtain ⟨q', g', hpq', hle, hdrop⟩ := receivedBit_drop (em4100Sent card.data) p q g k
      have hgiven' (j : Nat) : (receiver.bits.drop k).getD j false =
          receivedBit (em4100Sent card.data) p q' g' j := by
        rw [← hdrop, ← hgiven, List.getD_eq_getElem?_getD, List.getElem?_drop,
          List.getD_eq_getElem?_getD]
      rw [em4100Words_accepted hpq' (hgarbled.mono hle) hgiven' haccept]
      exact em4100Decode_frame card.data hi
  · obtain ⟨receiver, hfollows⟩ := em4100Read_follows hclock hsame hcleared begin n
    have hone (j : Nat) : ∃ k < 64, em4100Sent card.data (j + k) = true := by
      refine ⟨(64 - j % 64) % 64, Nat.mod_lt _ (by decide), ?_⟩
      have hmod : (j + (64 - j % 64) % 64) % 64 = 0 := by omega
      rw [em4100Sent, hmod]
      rfl
    obtain ⟨start, p, q, g, hp, hq, hpq, hgarbled, hgiven⟩ :=
      hfollows.glue.locked hone (by omega)
    -- the last header that has been given whole
    rw [hfollows.decoder.reports]
    have hgiven' (j : Nat) : (receiver.bits.drop (q % 64)).getD j false =
        receivedBit (em4100Sent card.data) p (q - q % 64) g j := by
      have hindex : q - 1 - (q % 64 + j) = q - q % 64 - 1 - j := by omega
      have hlow : (q % 64 + j + p + 1 < q) = (j + p + 1 < q - q % 64) := propext (by omega)
      have hhigh : (q % 64 + j + p + 1 < q + g) = (j + p + 1 < q - q % 64 + g) := propext (by omega)
      rw [List.getD_eq_getElem?_getD, List.getElem?_drop, ← List.getD_eq_getElem?_getD, hgiven]
      simp only [receivedBit, hindex, hlow, hhigh]
    have haccept := em4100Words_frame (q := q - q % 64) (by omega) (by omega) hgiven'
    refine em4100Reports_ne_nil ?_ haccept
    by_contra hshort
    rw [List.drop_eq_nil_of_le (Nat.not_lt.mp hshort), em4100Words_nil] at haccept
    exact absurd haccept (by decide)

def em4100CardZero : ProtocolEM4100 := protocolEm4100Alloc

def em4100CardOne : ProtocolEM4100 :=
  { protocolEm4100Alloc with data := fun i => if i = 0 then 0x80 else 0 }

theorem em4100Read_cardOne :
    (∀ r < 64, em4100CanBeDecoded ((em4100Frame em4100CardOne.data).rotateLeft r)
        ((em4100Frame em4100CardOne.data).rotateLeft r) = true ↔ r = 0) ∧
      (∀ i < 5, em4100Decode (em4100Frame em4100CardOne.data) i = em4100CardOne.data i) ∧
      (protocolEm4100Alloc.encodedEpilogue = 0 →
        ∀ begin, Em4100ReadsCard em4100CardOne protocolEm4100Alloc begin) :=
  em4100Read_card em4100CardOne protocolEm4100Alloc (by decide) rfl

/-- A decoder that has seen a frame of the card of zeros, and has not reported it yet. -/
def em4100Stale : ProtocolEM4100 := (em4100Read em4100CardZero protocolEm4100Alloc 118 138).decoder

lemma protocolEm4100DecoderStart_stale : protocolEm4100DecoderStart em4100Stale =
    protocolEm4100DecoderStart { protocolEm4100Alloc with encodedEpilogue := 0xFF80000000000000 } := by
  have hepilogue : em4100Stale.encodedEpilogue = 0xFF80000000000000 := by decide +kernel
  have hindex : em4100Stale.encodedDataIndex = 0 := by decide +kernel
  have hpolarity : em4100Stale.encodedPolarity = false := by decide +kernel
  have hclock : em4100Stale.clockPerBit = 64 := by decide +kernel
  rw [protocolEm4100DecoderStart, protocolEm4100DecoderStart, manchesterAdvance_reset,
    manchesterAdvance_reset, hepilogue, hindex, hpolarity, hclock]
  rfl

lemma em4100Read_congr {card decoder decoder' : ProtocolEM4100} (begin n : Nat)
    (h : protocolEm4100DecoderStart decoder = protocolEm4100DecoderStart decoder') :
    em4100Read card decoder begin n = em4100Read card decoder' begin n := by
  induction n with
  | zero => rw [em4100Read, em4100Read, h]
  | succ n ih => rw [em4100Read, em4100Read, ih]

/-- It is started again, and reports that card when the other one is read. -/
theorem not_em4100ReadsCard_stale : ¬Em4100ReadsCard em4100CardOne em4100Stale 0 := by
  intro hreads
  have hwrong : ((em4100Read em4100CardOne
      { protocolEm4100Alloc with encodedEpilogue := 0xFF80000000000000 } 0 131).reports.any
        fun report => report 0 != em4100CardOne.data 0) = true := by
    decide +kernel
  obtain ⟨report, hmem, hne⟩ := List.any_eq_true.mp hwrong
  rw [← em4100Read_congr 0 131 protocolEm4100DecoderStart_stale] at hmem
  have hright := hreads.right 131 report hmem 0 (by decide)
  rw [hright, bne_self_eq_false] at hne
  exact Bool.noConfusion hne

end FlipperZero
