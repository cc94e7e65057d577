import FlipperZero.Foundation.Quiet
import FlipperZero.Nfc.FelicaSteps
import FlipperZero.Nfc.FrameCrc
import FlipperZero.Nfc.Iso15693AccessSafety

/-!
# Cards on a noisy line

A reader appends a checksum to each of its requests. Some of the frames do not arrive, and some
arrive with a burst of wrong bits. The listeners drop what fails the check, so that a session over
such a line is the session of the requests that arrived as they were sent.
-/

namespace FlipperZero

open Foundation

namespace FrameCrc

variable (crc : FrameCrc)

/-- A request that can be sent: whole bytes, with room for the checksum. -/
structure Sendable (request : BitBuffer) : Prop where
  whole : request.sizeBits % 8 = 0
  pos : 0 < request.getSizeBytes
  room : request.getSizeBytes + 2 ≤ request.capacityBytes

/-- A burst of at most sixteen wrong bits turns one frame into the other. -/
def Burst (out received : BitBuffer) : Prop :=
  ∃ before x y after : List Bool,
    crc.bits (out.bytes 0 out.getSizeBytes) = before ++ x ++ after ∧
    crc.bits (received.bytes 0 received.getSizeBytes) = before ++ y ++ after ∧
    x.length = y.length ∧ x.length ≤ 16 ∧ x ≠ y

/-- The requests that a reader sends, what is received of them with their checksums, and the
requests that arrive as they were sent. -/
inductive NoisyLine : List BitBuffer → List BitBuffer → List BitBuffer → Prop where
  | nil : NoisyLine [] [] []
  | intact {request out : BitBuffer} {requests received arrived : List BitBuffer}
      (hsend : Sendable request) (happend : crc.append request = some out)
      (h : NoisyLine requests received arrived) :
      NoisyLine (request :: requests) (out :: received) (request :: arrived)
  | burst {request out noisy : BitBuffer} {requests received arrived : List BitBuffer}
      (hsend : Sendable request) (happend : crc.append request = some out)
      (hburst : crc.Burst out noisy) (h : NoisyLine requests received arrived) :
      NoisyLine (request :: requests) (noisy :: received) arrived
  | lost {request : BitBuffer} {requests received arrived : List BitBuffer}
      (h : NoisyLine requests received arrived) :
      NoisyLine (request :: requests) received arrived

variable {crc}

lemma length_bits (bytes : List (BitVec 8)) : (crc.bits bytes).length = bytes.length * 8 := by
  induction bytes with
  | nil => rfl
  | cons byte bytes ih =>
    rw [bits, List.flatMap_cons, List.length_append, length_lsbFirst, ← bits, ih, List.length_cons,
      Nat.succ_mul, Nat.add_comm]

lemma Burst.getSizeBytes_eq {out received : BitBuffer} (h : crc.Burst out received) :
    received.getSizeBytes = out.getSizeBytes := by
  obtain ⟨before, x, y, after, hout, hreceived, hlen, -, -⟩ := h
  have hbits := (congrArg List.length hout).trans (by simp [hlen]) |>.trans
    (congrArg List.length hreceived).symm
  rw [length_bits, length_bits, BitBuffer.length_bytes, BitBuffer.length_bytes] at hbits
  omega

lemma Burst.check_eq_false {request out received : BitBuffer} (hsend : Sendable request)
    (happend : crc.append request = some out) (h : crc.Burst out received) :
    crc.check received = false ∧ received.getSize ≠ 0 := by
  obtain ⟨out', happend', hcheck, -⟩ := check_append crc hsend.whole hsend.pos hsend.room
  obtain rfl : out' = out := Option.some.inj (happend'.symm.trans happend)
  have hsize := h.getSizeBytes_eq
  obtain ⟨before, x, y, after, hout, hreceived, hlen, hle, hne⟩ := h
  refine ⟨check_burst hout hreceived hlen hle hne hcheck, fun hempty => ?_⟩
  have hlong := ((check_iff crc out').mp hcheck).1
  rw [BitBuffer.getSize] at hempty
  rw [← hsize, BitBuffer.getSizeBytes, hempty] at hlong
  exact absurd hlong (by decide)

/-- A frame that arrives as it was sent passes, and holds the request when it is trimmed. -/
lemma Sendable.received {request out : BitBuffer} (hsend : Sendable request)
    (happend : crc.append request = some out) :
    crc.check out = true ∧ ∃ back, crc.trim out = some back ∧
      back.getSizeBytes = request.getSizeBytes ∧
      ∀ i < request.getSizeBytes, back.data i = request.data i := by
  obtain ⟨out', happend', hcheck, back, htrim, hbits, hbytes⟩ :=
    check_append crc hsend.whole hsend.pos hsend.room
  obtain rfl : out' = out := Option.some.inj (happend'.symm.trans happend)
  refine ⟨hcheck, back, htrim, by rw [BitBuffer.getSizeBytes, hbits, ← BitBuffer.getSizeBytes], ?_⟩
  intro i hi
  have hat := congrArg (fun bytes => bytes[i]?) hbytes
  simpa [BitBuffer.bytes, hi] using hat

end FrameCrc

/-! ### ISO 15693 -/

/-- The event that `iso15693_3_listener_run` makes of what was received; `none` when a check of the
trimming fails. -/
def iso15693_3RxEnd (rxBuffer : BitBuffer) : Option Iso15693_3NfcEvent :=
  if FrameCrc.iso13239Default.check rxBuffer then
    (FrameCrc.iso13239Default.trim rxBuffer).map fun rx => .frame rx.data rx.getSizeBytes
  else if rxBuffer.getSize = 0 then some .eof
  else some .wrongCrc

/-- The listener as a machine over what is received. -/
def iso15693_3Receiver : Mealy Iso15693_3Listener BitBuffer (Option Iso15693_3Reply) where
  step l rxBuffer :=
    match iso15693_3RxEnd rxBuffer with
    | some event => iso15693_3Listener.step l event
    | none => (none, l)

namespace Iso15693_3Listener

/-- The listener without what is left in the transmit buffer, which is reset at each reception. -/
def cleared (l : Iso15693_3Listener) : Iso15693_3Listener := { l with txBuffer := [] }

lemma run_cleared (l : Iso15693_3Listener) (event : Iso15693_3NfcEvent) :
    l.cleared.run event = l.run event := by
  cases event <;> rfl

lemma step_cleared {l l' : Iso15693_3Listener} (h : l.cleared = l'.cleared)
    (event : Iso15693_3NfcEvent) :
    (iso15693_3Listener.step l event).1 = (iso15693_3Listener.step l' event).1 ∧
      (iso15693_3Listener.step l event).2.cleared =
        (iso15693_3Listener.step l' event).2.cleared := by
  have hrun : l.run event = l'.run event := by
    rw [← run_cleared l, h, run_cleared l']
  simp only [iso15693_3Listener, hrun]
  cases l'.run event with
  | none => exact ⟨rfl, h⟩
  | some r => exact ⟨rfl, rfl⟩

end Iso15693_3Listener

/-- The receive buffer holds a frame. Behind it is what earlier frames left there. -/
structure BitBuffer.HoldsFrame (buf frame : BitBuffer) : Prop where
  sizeBits : buf.sizeBits = frame.sizeBits
  capacityBytes : buf.capacityBytes = frame.capacityBytes
  data : ∀ i < frame.getSizeBytes, buf.data i = frame.data i

namespace BitBuffer.HoldsFrame

variable {buf frame : BitBuffer}

lemma getSizeBytes (h : buf.HoldsFrame frame) : buf.getSizeBytes = frame.getSizeBytes := by
  rw [BitBuffer.getSizeBytes, h.sizeBits, BitBuffer.getSizeBytes]

lemma check (h : buf.HoldsFrame frame) (crc : FrameCrc) : crc.check buf = crc.check frame := by
  rw [FrameCrc.check, FrameCrc.check, h.getSizeBytes]
  by_cases hshort : frame.getSizeBytes ≤ 2
  · rw [if_pos hshort, if_pos hshort]
  · have hbytes : buf.bytes 0 (frame.getSizeBytes - 2) = frame.bytes 0 (frame.getSizeBytes - 2) := by
      refine List.map_congr_left fun i hi => ?_
      have hlt := List.mem_range.mp hi
      rw [Nat.zero_add, h.data i (by omega)]
    rw [if_neg hshort, if_neg hshort]
    dsimp only
    rw [hbytes, h.data _ (by omega), h.data _ (by omega)]

lemma trim (h : buf.HoldsFrame frame) {crc : FrameCrc} {back : BitBuffer}
    (hback : crc.trim frame = some back) : ∃ back', crc.trim buf = some back' ∧
      back'.getSizeBytes = back.getSizeBytes ∧ ∀ i < back.getSizeBytes, back'.data i = back.data i := by
  unfold FrameCrc.trim BitBuffer.setSizeBytes at hback ⊢
  dsimp only at hback ⊢
  rw [h.getSizeBytes, h.capacityBytes]
  split_ifs at hback ⊢
  all_goals cases hback
  all_goals
    refine ⟨_, rfl, rfl, fun i hi => h.data i ?_⟩
    refine Nat.lt_of_lt_of_le hi ?_
    rw [BitBuffer.getSizeBytes, Nat.mul_mod_left, if_pos rfl, Nat.mul_div_cancel _ (by decide)]
    exact Nat.sub_le _ _

end BitBuffer.HoldsFrame

def Iso15693_3NfcEvent.IsFrameOf (event : Iso15693_3NfcEvent) (request : BitBuffer) : Prop :=
  ∃ rxBuffer : Memory, event = .frame rxBuffer request.getSizeBytes ∧
    ∀ i < request.getSizeBytes, rxBuffer i = request.data i

lemma Iso15693_3NfcEvent.IsFrameOf.sameFrame {requests : List BitBuffer} :
    ∀ {events events' : List Iso15693_3NfcEvent}, List.Forall₂ IsFrameOf events requests →
      List.Forall₂ IsFrameOf events' requests → List.Forall₂ SameFrame events events' := by
  induction requests with
  | nil =>
    intro events events' h h'
    cases h
    cases h'
    exact .nil
  | cons request requests ih =>
    intro events events' h h'
    cases h with
    | cons hevent h =>
      cases h' with
      | cons hevent' h' =>
        obtain ⟨rxBuffer, rfl, hbytes⟩ := hevent
        obtain ⟨rxBuffer', rfl, hbytes'⟩ := hevent'
        exact .cons ⟨rfl, fun i hi => (hbytes i hi).trans (hbytes' i hi).symm⟩ (ih h h')

lemma iso15693_3Receiver_heard {requests received arrived heard : List BitBuffer}
    (hline : FrameCrc.NoisyLine .iso13239Default requests received arrived)
    (hbuffers : List.Forall₂ BitBuffer.HoldsFrame heard received) :
    ∃ events, List.Forall₂ Iso15693_3NfcEvent.IsFrameOf events arrived ∧
      Heard (fun rxBuffer => iso15693_3RxEnd rxBuffer = some .wrongCrc)
        (fun rxBuffer event => iso15693_3RxEnd rxBuffer = some event) heard events := by
  induction hline generalizing heard with
  | nil =>
    cases hbuffers
    exact ⟨[], .nil, .nil⟩
  | @intact request out _ _ _ hsend happend _ ih =>
    obtain ⟨buf, heard, hholds, hrest, rfl⟩ := List.forall₂_cons_right_iff.mp hbuffers
    obtain ⟨events, hframes, hheard⟩ := ih hrest
    obtain ⟨hcheck, back, htrim, hsize, hdata⟩ := hsend.received happend
    obtain ⟨back', htrim', hsize', hdata'⟩ := hholds.trim htrim
    rw [hsize] at hsize' hdata'
    refine ⟨.frame back'.data back'.getSizeBytes :: events, .cons ⟨back'.data, ?_, fun i hi => ?_⟩
      hframes, .carry ?_ hheard⟩
    · rw [hsize']
    · exact (hdata' i hi).trans (hdata i hi)
    · rw [iso15693_3RxEnd, hholds.check, if_pos hcheck, htrim', Option.map_some]
  | burst hsend happend hburst _ ih =>
    obtain ⟨buf, heard, hholds, hrest, rfl⟩ := List.forall₂_cons_right_iff.mp hbuffers
    obtain ⟨events, hframes, hheard⟩ := ih hrest
    obtain ⟨hcheck, hsize⟩ := hburst.check_eq_false hsend happend
    refine ⟨events, hframes, .drop ?_ hheard⟩
    rw [iso15693_3RxEnd, hholds.check, hcheck, if_neg Bool.false_ne_true, BitBuffer.getSize,
      hholds.sizeBits, ← BitBuffer.getSize, if_neg hsize]
  | lost _ ih => exact ih hbuffers

/-- An emulated card on a noisy line behaves as if only the requests had been sent that arrive as
they were sent: it gives the same answers, and ends with the same data in the same state, whatever
bursts of at most sixteen bits hit the other frames, and whatever the receive buffer holds behind
each frame in either of the sessions. This is so as long as each request that is taken up keeps the
conditions on the requests for several blocks: the multiple write may read behind its frame. -/
theorem iso15693_3Receiver_noisyLine {requests received arrived heard : List BitBuffer}
    (hline : FrameCrc.NoisyLine .iso13239Default requests received arrived)
    (hbuffers : List.Forall₂ BitBuffer.HoldsFrame heard received) {events : List Iso15693_3NfcEvent}
    (hevents : List.Forall₂ Iso15693_3NfcEvent.IsFrameOf events arrived) {l : Iso15693_3Listener}
    (hcard : l.data.Bounded)
    (hinside : iso15693_3Listener.Along Iso15693_3Listener.Inside l events) :
    (iso15693_3Receiver.outputs l heard).filter (· ≠ some ⟨.none, none⟩) =
        (iso15693_3Listener.outputs l events).filter (· ≠ some ⟨.none, none⟩) ∧
      (iso15693_3Receiver.final l heard).cleared =
        (iso15693_3Listener.final l events).cleared := by
  obtain ⟨events', hframes, hheard⟩ := iso15693_3Receiver_heard hline hbuffers
  obtain ⟨houtputs, hfinal⟩ := Iso15693_3Listener.session_sameFrame hcard
    (Iso15693_3NfcEvent.IsFrameOf.sameFrame hevents hframes) hinside
  rw [houtputs, hfinal]
  refine hheard.simulation
    (R := fun l l' : Iso15693_3Listener => l.cleared = l'.cleared) ?_ ?_ rfl
  · intro l l' rxBuffer event h hevent
    simp only [iso15693_3Receiver, hevent]
    exact Iso15693_3Listener.step_cleared h event
  · intro l l' rxBuffer h hevent
    simp only [iso15693_3Receiver, hevent]
    exact ⟨rfl, h⟩

/-- A write to block 1 of which the first bit is received wrong is dropped, and block 1 is read. Two
bytes of the write are still behind the request to read. -/
theorem iso15693_3Receiver_noisyLine_read :
    let heard : List BitBuffer := [.ofBytes [0x03, 0x21, 1, 0xA0, 0xA1, 0xB7, 0x0B],
      { BitBuffer.ofBytes [0x02, 0x20, 1, 0xCE, 0x41, 0xB7, 0x0B] with sizeBits := 40 }]
    let events := [iso15693_3Frame [0x02, 0x20, 1]]
    (iso15693_3Receiver.outputs iso15693_3Blank heard).filter (· ≠ some ⟨.none, none⟩) =
        (iso15693_3Listener.outputs iso15693_3Blank events).filter (· ≠ some ⟨.none, none⟩) ∧
      (iso15693_3Receiver.final iso15693_3Blank heard).cleared =
        (iso15693_3Listener.final iso15693_3Blank events).cleared := by
  have hwrite : FrameCrc.Sendable (.ofBytes [0x02, 0x21, 1, 0xA0, 0xA1]) :=
    ⟨by decide, by decide, by decide⟩
  have hread : FrameCrc.Sendable (.ofBytes [0x02, 0x20, 1]) := ⟨by decide, by decide, by decide⟩
  obtain ⟨written, happendWrite, hburst⟩ : ∃ out,
      FrameCrc.iso13239Default.append (.ofBytes [0x02, 0x21, 1, 0xA0, 0xA1]) = some out ∧
        FrameCrc.iso13239Default.Burst out (.ofBytes [0x03, 0x21, 1, 0xA0, 0xA1, 0xB7, 0x0B]) :=
    ⟨_, rfl, [], [false], [true],
      (FrameCrc.iso13239Default.bits [0x02, 0x21, 1, 0xA0, 0xA1, 0xB7, 0x0B]).tail,
      by decide +kernel, by decide +kernel, rfl, by decide, by decide⟩
  obtain ⟨out, happendRead, hholds⟩ : ∃ out,
      FrameCrc.iso13239Default.append (.ofBytes [0x02, 0x20, 1]) = some out ∧
        BitBuffer.HoldsFrame
          { BitBuffer.ofBytes [0x02, 0x20, 1, 0xCE, 0x41, 0xB7, 0x0B] with sizeBits := 40 } out :=
    ⟨_, rfl, rfl, rfl, by decide +kernel⟩
  refine iso15693_3Receiver_noisyLine
    (.burst hwrite happendWrite hburst (.intact hread happendRead .nil))
    (.cons ⟨rfl, rfl, fun _ _ => rfl⟩ (.cons hholds .nil))
    (.cons ⟨_, rfl, by decide⟩ .nil) iso15693_3Blank_bounded ⟨fun r hr => ?_, trivial⟩
  cases Option.some.inj hr
  exact ⟨by decide, fun h => absurd h (by decide), fun h => absurd h (by decide),
    fun h => absurd h (by decide), fun h => absurd h (by decide)⟩

/-! ### FeliCa -/

/-- The event of `felica_listener_run` for what was received. -/
def felicaRxEnd (rxBuffer : BitBuffer) : FelicaEvent :=
  .received rxBuffer.data rxBuffer.getSizeBytes

lemma felicaCrcCheck_eq_check (buf : BitBuffer) :
    felicaCrcCheck buf.data buf.getSizeBytes = FrameCrc.felica.check buf := by
  rw [felicaCrcCheck, FrameCrc.check]
  by_cases hshort : buf.getSizeBytes ≤ 2
  · rw [if_pos hshort, decide_eq_false (Nat.not_lt.mpr hshort), Bool.false_and]
  · have hlast : buf.getSizeBytes - 2 + 1 = buf.getSizeBytes - 1 := by omega
    rw [if_neg hshort, decide_eq_true (Nat.not_le.mp hshort), Bool.true_and]
    simp only [FrameCrc.calculate, BitBuffer.bytes, Nat.zero_add, FelicaBlockData.bytes, hlast]

lemma felicaSystem_step_of_check_eq_false (des3 : Des3) (s : FelicaListener) {buf : BitBuffer}
    (h : FrameCrc.felica.check buf = false) :
    (felicaSystem des3).step s (felicaRxEnd buf) = some s := by
  simp only [felicaSystem, felicaRxEnd, felicaListenerRun, Reads.value_bind, Reads.value_readRange,
    Option.bind_some, felicaCrcCheck_eq_check, h, Bool.false_eq_true, if_false]
  rfl

/-- An emulated FeliCa card on a noisy line behaves as if only the requests had been sent that
arrive as they were sent: with the others left out it has sent the same answers and holds the same
blocks, or crashes at the same request. -/
theorem felicaSystem_noisyLine {requests received arrived : List BitBuffer}
    (hline : FrameCrc.NoisyLine .felica requests received arrived) :
    ∃ frames, List.Forall₂ (fun out request => FrameCrc.felica.append request = some out)
        frames arrived ∧
      ∀ (des3 : Des3) (s : FelicaListener),
        (felicaSystem des3).replay (fun _ _ => True) s (received.map felicaRxEnd) =
          (felicaSystem des3).replay (fun _ _ => True) s (frames.map felicaRxEnd) := by
  induction hline with
  | nil => exact ⟨[], .nil, fun _ _ => rfl⟩
  | @intact request out _ _ _ _ happend _ ih =>
    obtain ⟨frames, hframes, hsame⟩ := ih
    refine ⟨out :: frames, .cons happend hframes, fun des3 s => ?_⟩
    rw [List.map_cons, List.map_cons, System.replay, System.replay, if_pos trivial, if_pos trivial]
    exact congrArg _ (funext fun s' => hsame des3 s')
  | burst hsend happend hburst _ ih =>
    obtain ⟨frames, hframes, hsame⟩ := ih
    refine ⟨frames, hframes, fun des3 s => ?_⟩
    rw [List.map_cons, System.replay, if_pos trivial,
      felicaSystem_step_of_check_eq_false des3 s (hburst.check_eq_false hsend happend).1,
      Option.bind_some, hsame]
  | lost _ ih => exact ih

/-- A request is sent again after its first bit was received wrong. -/
theorem felicaSystem_noisyLine_burst : ∃ out frames,
    FrameCrc.felica.append (.ofBytes [0x06, 0x00, 0xFF, 0xFF, 0x00, 0x00]) = some out ∧
      List.Forall₂ (fun out request => FrameCrc.felica.append request = some out) frames
        [.ofBytes [0x06, 0x00, 0xFF, 0xFF, 0x00, 0x00]] ∧
      ∀ (des3 : Des3) (s : FelicaListener),
        (felicaSystem des3).replay (fun _ _ => True) s
            ([.ofBytes [0x86, 0x00, 0xFF, 0xFF, 0x00, 0x00, 0x09, 0x21], out].map felicaRxEnd) =
          (felicaSystem des3).replay (fun _ _ => True) s (frames.map felicaRxEnd) := by
  have hsend : FrameCrc.Sendable (.ofBytes [0x06, 0x00, 0xFF, 0xFF, 0x00, 0x00]) :=
    ⟨by decide, by decide, by decide⟩
  obtain ⟨out, happend, hburst⟩ : ∃ out,
      FrameCrc.felica.append (.ofBytes [0x06, 0x00, 0xFF, 0xFF, 0x00, 0x00]) = some out ∧
        FrameCrc.felica.Burst out
          (.ofBytes [0x86, 0x00, 0xFF, 0xFF, 0x00, 0x00, 0x09, 0x21]) :=
    ⟨_, rfl, [], [false], [true],
      (FrameCrc.felica.bits [0x06, 0x00, 0xFF, 0xFF, 0x00, 0x00, 0x09, 0x21]).tail,
      by decide +kernel, by decide +kernel, rfl, by decide, by decide⟩
  obtain ⟨frames, hframes, hsame⟩ := felicaSystem_noisyLine
    (.burst hsend happend hburst (.intact hsend happend .nil))
  exact ⟨out, frames, happend, hframes, hsame⟩

end FlipperZero
