import FlipperZero.Lfrfid.Awid
import FlipperZero.Lfrfid.Pyramid

/-!
# The windows of the FSK decoders

The decoders of AWID and Pyramid take the parity bits of a candidate out of their window and may
reject it afterwards. From then on the window does not show the last bits of the stream until it has
been filled again.
-/

namespace FlipperZero

open Foundation

/-- The window of the AWID decoder after some pulses, which knows since when it has not been changed
but by the bits that came in. -/
def awidWindow (pulses : List LevelTime) : ShiftWindow 104 :=
  (FskWindow.run awidTest true ⟨fskDemodAlloc 44 6 100 5, .start 104⟩ pulses).window

def pyramidWindow (pulses : List LevelTime) : ShiftWindow 152 :=
  (FskWindow.run pyramidTest false ⟨fskDemodAlloc 44 6 100 5, .start 152⟩ pulses).window

/-- The bits that the demodulator of both decoders gives, the last one first. -/
def fskStream (pulses : List LevelTime) : List Bool :=
  fskDemodBits (fskDemodAlloc 44 6 100 5) [] pulses

/-- The window shows the last bits of the stream whenever none of the candidates in as many bits has
had its parity bits taken out: no candidate with both preambles and a group of odd parity for AWID,
none with both preambles and the right checksum for Pyramid. -/
theorem fskWindows_exact (pulses : List LevelTime) :
    (∀ protocol, feedAll protocolAwidDecoderFeed (protocolAwidDecoderStart protocolAwidAlloc) pulses =
        some protocol → 104 ≤ (awidWindow pulses).clean →
      bitLibBits 104 protocol.encodedData = lastBits 104 (fskStream pulses)) ∧
    ∀ protocol, feedAll protocolPyramidDecoderFeed
        (protocolPyramidDecoderStart protocolPyramidAlloc) pulses = some protocol →
      152 ≤ (pyramidWindow pulses).clean →
        bitLibBits 152 protocol.encodedData = lastBits 152 (fskStream pulses) := by
  constructor
  · intro protocol hrun hclean
    obtain ⟨_, hsame, hshows⟩ := awidShows_run pulses
    obtain rfl := Option.some.inj (hsame.symm.trans hrun)
    have hexact := FskWindow.exact_run awidTest true (s := ⟨fskDemodAlloc 44 6 100 5, .start 104⟩)
      (ShiftWindow.exact_start 104) pulses
    rw [hshows.word, hexact.word_eq hclean, FskWindow.bits_run]
    rfl
  · intro protocol hrun hclean
    obtain ⟨_, hsame, hshows⟩ := pyramidShows_run pulses
    obtain rfl := Option.some.inj (hsame.symm.trans hrun)
    have hexact := FskWindow.exact_run pyramidTest false
      (s := ⟨fskDemodAlloc 44 6 100 5, .start 152⟩) (ShiftWindow.exact_start 152) pulses
    rw [hshows.word, hexact.word_eq hclean, FskWindow.bits_run]
    rfl

/-- Two ones and a zero. -/
theorem fskWindows_exact_short :
    ∃ protocol, feedAll protocolAwidDecoderFeed (protocolAwidDecoderStart protocolAwidAlloc)
        (fskCarrier [(true, 2), (false, 1), (true, 1)]) = some protocol ∧
      bitLibBits 104 protocol.encodedData =
        lastBits 104 (fskStream (fskCarrier [(true, 2), (false, 1), (true, 1)])) := by
  obtain ⟨protocol, hrun, -⟩ := awidShows_run (fskCarrier [(true, 2), (false, 1), (true, 1)])
  exact ⟨protocol, hrun, (fskWindows_exact _).1 protocol hrun (by decide +kernel)⟩

/-- A frame with one group of odd parity and a format of no length, as runs of bits. -/
def awidRejectedRuns : List (Bool × Nat) :=
  [(true, 1), (false, 20), (true, 1), (false, 74), (true, 1)]

/-- A candidate is rejected, and the window does not show the last bits. -/
theorem not_fskWindows_exact :
    ∃ pulses pulse protocol protocol',
      feedAll protocolAwidDecoderFeed (protocolAwidDecoderStart protocolAwidAlloc) pulses =
        some protocol ∧
      protocolAwidDecoderFeed protocol pulse = some (false, protocol') ∧
      bitLibBits 104 protocol'.encodedData ≠ lastBits 104 (fskStream (pulses ++ [pulse])) := by
  obtain ⟨protocol, hrun, hshows⟩ :=
    awidShows_run (fskCarrier awidRejectedRuns ++ [(true, fskHalf !true)])
  obtain ⟨count, hrise, hreported⟩ := FskWindow.run_fskCarrier_rise awidTest true (.start 104)
    (by decide : ∀ run ∈ awidRejectedRuns, 0 < run.2 ∧ run.2 < 2 ^ 29) (by decide)
    (rfl : awidRejectedRuns.getLast? = some (true, 1))
  have hfall : fskDemodFeed (fskTuned true count (fskHalf !true)) false (fskHalf !true) =
      ((true, fskReported true count), fskTuned false 0 64) := fskDemodFeed_other true count
  have hword : (carrierWindow awidTest true (.start 104) (false, 0) awidRejectedRuns).1.word =
      39614100146598100275352829952 := by
    decide +kernel
  have hstream : lastBits 104
      (true :: (carrierWindow awidTest true (.start 104) (false, 0) awidRejectedRuns).1.bits) =
        79228200293196200550705659905 := by
    decide +kernel
  have hbits (pulse : LevelTime) :
      fskStream (fskCarrier awidRejectedRuns ++ [(true, fskHalf !true)] ++ [pulse]) =
        ((FskWindow.run awidTest true ⟨fskDemodAlloc 44 6 100 5, .start 104⟩
          (fskCarrier awidRejectedRuns ++ [(true, fskHalf !true)])).feed awidTest true
            pulse).2.window.bits := by
    have hrun := FskWindow.bits_run awidTest true ⟨fskDemodAlloc 44 6 100 5, .start 104⟩
      (fskCarrier awidRejectedRuns ++ [(true, fskHalf !true)] ++ [pulse])
    rw [FskWindow.run_append] at hrun
    exact hrun.symm
  replace hrise : FskWindow.run awidTest true ⟨fskDemodAlloc 44 6 100 5, .start 104⟩
      (fskCarrier awidRejectedRuns ++ [(true, fskHalf !true)]) = _ := hrise
  rw [hrise] at hbits hshows
  generalize (carrierWindow awidTest true (.start 104) (false, 0) awidRejectedRuns).1 = window
    at hword hstream hbits hshows
  have hrejected : awidTest.accepts (shiftIn window.word true) = false := by
    rw [hword]
    decide +kernel
  have hfeed : FskWindow.feed awidTest true ⟨fskTuned true count (fskHalf !true), window⟩
      (false, fskHalf !true) = (false, ⟨fskTuned false 0 64, window.push awidTest true⟩) := by
    rw [FskWindow.feed]
    dsimp only
    rw [hfall, hreported, ShiftWindow.pushes_one hrejected]
  obtain ⟨protocol', hlast, hshows'⟩ := hshows.feed (false, fskHalf !true)
  have hbits' := hbits (false, fskHalf !true)
  rw [hfeed] at hlast hshows' hbits'
  refine ⟨_, _, protocol, protocol', hrun, hlast, ?_⟩
  rw [hshows'.word, hbits']
  show awidTest.left (shiftIn window.word true) ≠ lastBits 104 (true :: window.bits)
  rw [hstream, hword]
  decide +kernel

end FlipperZero
