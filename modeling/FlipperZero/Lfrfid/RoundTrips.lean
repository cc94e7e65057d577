import FlipperZero.Lfrfid.FdxB
import FlipperZero.Lfrfid.Gallagher
import FlipperZero.Lfrfid.IoProxXsf
import FlipperZero.Lfrfid.Paradox

/-!
# Round trips of cards

What an encoder makes of a card is accepted and decoded to the same card by the decoder of the
protocol, whatever the arrays of the decoder held before. A decoder that waits for the start of the
next frame has the frame and that start in its array.
-/

namespace FlipperZero

open Foundation

def FdxBRoundTrip (tag : ProtocolFDXB) : Prop :=
  ∀ decoder : ProtocolFDXB,
    decoder.encodedData = repeatedFrame 16 (protocolFdxBEncoderStart tag).encodedData →
      (∀ stack, protocolFdxBCanBeDecoded decoder stack = some true) ∧
      ∃ decoded, protocolFdxBDecode decoder = some decoded ∧ ∀ i < 11, decoded.data i = tag.data i

def GallagherRoundTrip (card : ProtocolGallagher) : Prop :=
  ∃ frame, protocolGallagherEncoderStart card = some frame ∧
    ∀ decoder : ProtocolGallagher, decoder.encodedData = repeatedFrame 12 frame.encodedData →
      protocolGallagherCanBeDecoded decoder = true ∧
      ∃ decoded, protocolGallagherDecode decoder = some decoded ∧ ∀ i < 8, decoded.data i = card.data i

def IoProxXsfRoundTrip (data : Memory) : Prop :=
  ∀ encodedData, ∃ frame, protocolIoProxXsfEncode data encodedData = some frame ∧
    protocolIoProxXsfCanBeDecoded frame = true ∧
    ∀ decodedData, ∀ i < 4, protocolIoProxXsfDecode frame decodedData i = data i

def ParadoxRoundTrip (data : Memory) : Prop :=
  ∀ encodedData, ∃ frame, protocolParadoxEncode data encodedData = some frame ∧
    protocolParadoxCanBeDecoded (repeatedFrame 12 frame) = true ∧
    ∀ decodedData, ∀ i < 6, protocolParadoxDecode (repeatedFrame 12 frame) decodedData i = data i

lemma fdxBRoundTrip (tag : ProtocolFDXB) : FdxBRoundTrip tag := fun _ hdecoder =>
  ⟨fun stack => (protocolFdxBEncoderStart_frame tag).canBeDecoded hdecoder stack,
    (protocolFdxBEncoderStart_frame tag).decode hdecoder⟩

lemma gallagherRoundTrip (card : ProtocolGallagher) (hfacility : gallagherFacility card.data < 2 ^ 16)
    (hcard : gallagherCard card.data < 2 ^ 24) : GallagherRoundTrip card := by
  obtain ⟨encoded, hencode, hframe⟩ := protocolGallagherEncoderStart_frame card
  exact ⟨_, hencode, fun decoder hdecoder =>
    ⟨hframe.canBeDecoded hdecoder, hframe.decode hdecoder hfacility hcard⟩⟩

lemma ioProxXsfRoundTrip (data : Memory) : IoProxXsfRoundTrip data := by
  intro encodedData
  obtain ⟨encoded, hencode, hframe⟩ := protocolIoProxXsfEncode_frame data encodedData
  exact ⟨encoded, hencode, hframe.canBeDecoded, fun decodedData i hi => hframe.decode decodedData hi⟩

lemma paradoxRoundTrip (data : Memory) (hlast : data 5 &&& 0x0F = 0) : ParadoxRoundTrip data := by
  intro encodedData
  obtain ⟨encoded, hencode, hframe⟩ := protocolParadoxEncode_frame data encodedData
  exact ⟨encoded, hencode, hframe.canBeDecoded, fun decodedData i hi => hframe.decode hlast decodedData hi⟩

/-- Every card comes back: of Gallagher those whose facility code and number fit into the frame, of
Paradox those that end with the four zeros that the decoder puts there. -/
theorem lfrfid_roundTrips :
    (∀ tag, FdxBRoundTrip tag) ∧
      (∀ card : ProtocolGallagher, gallagherFacility card.data < 2 ^ 16 →
        gallagherCard card.data < 2 ^ 24 → GallagherRoundTrip card) ∧
      (∀ data, IoProxXsfRoundTrip data) ∧
      ∀ data : Memory, data 5 &&& 0x0F = 0 → ParadoxRoundTrip data :=
  ⟨fdxBRoundTrip, gallagherRoundTrip, ioProxXsfRoundTrip, paradoxRoundTrip⟩

theorem lfrfid_roundTrips_sample :
    GallagherRoundTrip ⟨fun i => if i = 1 ∨ i = 4 then 0 else 0xA5, fun _ => 0⟩ ∧
      ParadoxRoundTrip fun i => if i = 5 then 0x30 else 0x5A :=
  ⟨lfrfid_roundTrips.2.1 _ (by decide) (by decide), lfrfid_roundTrips.2.2.2 _ (by decide)⟩

end FlipperZero
