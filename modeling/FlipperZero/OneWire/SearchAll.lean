import FlipperZero.Foundation.LeafSearch
import FlipperZero.OneWire.OneWireHost
import Mathlib.Data.Finset.Card
import Mathlib.Data.Finset.Filter

/-!
# A search finds every device once

The ROM codes on the bus are the leaves of a binary tree, and every call walks it along one path.
The counters of the host are the depth of the last fork of that path, and the devices that still
take part are the leaves below the node that the walk has come to.
-/

namespace FlipperZero

open Foundation

variable {answering : List (BitVec 64)} {P : Nat → Bool} {k L : Nat} {s : OneWireSearch}
  {mode : OneWireHostSearchMode} {host : OneWireHost} {bus : OneWireBus}

def romPaths (answering : List (BitVec 64)) : Set (Nat → Bool) :=
  { p | ∃ rom ∈ answering, p = rom.getLsbD }

lemma below_romPaths {r : Nat → Bool} {rom : BitVec 64} (hrom : rom ∈ answering)
    (hr : ∀ i < k, rom.getLsbD i = r i) : Below (romPaths answering) r k rom.getLsbD :=
  ⟨⟨rom, hrom, rfl⟩, hr⟩

/-! ### A bit of the saved ROM code -/

/-- The mask of a bit in its byte. -/
abbrev romMask (k : Nat) : BitVec 8 := 1#8 <<< (k % 8)

lemma getLsbD_select_bit {m j : Nat} (byte : BitVec 8) (b : Bool) (hj : j < 8) :
    (if b then byte ||| 1#8 <<< m else byte &&& ~~~(1#8 <<< m)).getLsbD j =
      if j = m then b else byte.getLsbD j := by
  have hbit : (1#8 <<< m).getLsbD j = decide (j = m) := by
    rw [BitVec.getLsbD_shiftLeft, BitVec.getLsbD_one]
    grind
  cases b with
  | true =>
    rw [if_pos rfl, BitVec.getLsbD_or, hbit]
    by_cases h : j = m <;> simp [h]
  | false =>
    rw [if_neg Bool.false_ne_true, BitVec.getLsbD_and, BitVec.getLsbD_not, hbit]
    by_cases h : j = m <;> simp [h, hj]

/-- The bits of the memory after one of them has been set or cleared. -/
lemma bit_update_select (mem : Memory) (b : Bool) (k i : Nat) :
    Memory.bit (Function.update mem (k / 8) (if b then mem (k / 8) ||| romMask k
      else mem (k / 8) &&& ~~~romMask k)) i = if i = k then b else mem.bit i := by
  by_cases hbyte : i / 8 = k / 8
  · have hi : i = 8 * (k / 8) + i % 8 := by omega
    rw [hi, Memory.bit_update_self (Nat.mod_lt i (by decide)),
      getLsbD_select_bit _ _ (Nat.mod_lt i (by decide)), ← hi,
      Memory.bit, hbyte]
    exact if_congr (by omega) rfl rfl
  · rw [Memory.bit_update_of_ne hbyte, if_neg (by rintro rfl; exact hbyte rfl)]

lemma and_mask_bne_zero (mem : Memory) (k : Nat) :
    (mem (k / 8) &&& romMask k != 0) = mem.bit k := by
  have hall : ∀ m < 8, ∀ byte : BitVec 8, (byte &&& 1#8 <<< m != 0) = byte.getLsbD m := by
    decide +kernel
  exact hall _ (Nat.mod_lt k (by decide)) _

lemma shift_mask (k : Nat) :
    (if romMask k <<< 1 = 0 then k / 8 + 1 else k / 8) = (k + 1) / 8 ∧
      (if romMask k <<< 1 = 0 then (1 : BitVec 8) else romMask k <<< 1) = romMask (k + 1) := by
  have hall : ∀ m < 8, (romMask m <<< 1 = 0 ↔ m = 7) ∧
      (m ≠ 7 → romMask m <<< 1 = romMask (m + 1)) := by decide
  obtain ⟨hzero, hnext⟩ := hall (k % 8) (Nat.mod_lt k (by decide))
  have hk : romMask (k % 8) = romMask k := by rw [romMask, Nat.mod_mod]
  rw [hk] at hzero hnext
  by_cases h7 : k % 8 = 7
  · rw [if_pos (hzero.mpr h7), if_pos (hzero.mpr h7), romMask,
      show (k + 1) % 8 = 0 by omega]
    exact ⟨by omega, rfl⟩
  · rw [if_neg (mt hzero.mp h7), if_neg (mt hzero.mp h7), hnext h7, romMask, romMask,
      Nat.mod_add_mod]
    exact ⟨by omega, rfl⟩

/-! ### The walk of one call -/

/-- The loop after `k` bits of a call that follows the path `P`. -/
structure Walking (answering : List (BitVec 64)) (P : Nat → Bool) (L : Nat) (devices : OneWireBus)
    (k : Nat) (s : OneWireSearch) : Prop where
  idBitNumber : s.idBitNumber = k + 1
  romByteNumber : s.romByteNumber = k / 8
  romByteMask : s.romByteMask = romMask k
  slot : s.bus.slot = 3 * k
  searching : ∀ rom, rom ∈ s.bus.searching ↔
    rom ∈ answering ∧ ∀ i < k, rom.getLsbD i = s.host.savedRom.bit i
  chosen : ∀ i < k, Chosen (romPaths answering) P L s.host.savedRom.bit i
  rest : ∀ i, k ≤ i → s.host.savedRom.bit i = P i
  lastZero : LastFork (romPaths answering) s.host.savedRom.bit k s.lastZero
  lastDiscrepancy : s.host.lastDiscrepancy = L
  lastDeviceFlag : s.host.lastDeviceFlag = false
  devices : s.bus.devices = devices.devices ∧ s.bus.alarm = devices.alarm

/-- The direction that a round takes, from what the bus answers. -/
def searchDirection (searching : List (BitVec 64)) (P : Nat → Bool) (L k : Nat) : Bool :=
  if searching.all (·.getLsbD k) ≠ searching.all (!·.getLsbD k) then searching.all (·.getLsbD k)
  else if k + 1 < L then P k else k + 1 == L

/-- The bus answers both bits with zero: a fork of the tree. -/
abbrev bothBits (searching : List (BitVec 64)) (k : Nat) : Prop :=
  searching.all (·.getLsbD k) = searching.all (!·.getLsbD k)

lemma onewireHostSearchRound_eq {devices : OneWireBus} (h : Walking answering P L devices k s)
    (hne : s.bus.searching ≠ []) :
    ∃ s', onewireHostSearchRound s = (if k + 1 < 64 then .again s' else .leave s') ∧
      s'.idBitNumber = k + 2 ∧ s'.romByteNumber = (k + 1) / 8 ∧
      s'.romByteMask = romMask (k + 1) ∧ s'.bus.slot = 3 * (k + 1) ∧
      (s'.bus.searching = s.bus.searching.filter fun rom =>
        rom.getLsbD k == searchDirection s.bus.searching P L k) ∧
      (∀ i, s'.host.savedRom.bit i =
        if i = k then searchDirection s.bus.searching P L k else s.host.savedRom.bit i) ∧
      (s'.lastZero = if bothBits s.bus.searching k ∧
        searchDirection s.bus.searching P L k = false then k + 1 else s.lastZero) ∧
      s'.host.lastDiscrepancy = L ∧ s'.host.lastDeviceFlag = false ∧
      s'.bus.devices = devices.devices ∧ s'.bus.alarm = devices.alarm := by
  obtain ⟨⟨mem, disc, fam, flag⟩, ⟨devs, alarm, searching, slot⟩, idn, lz, byteNumber, mask⟩ := s
  obtain ⟨rfl, rfl, rfl, rfl, -, -, hrest, -, rfl, rfl, hdevs, halarm⟩ := h
  have h0 : 3 * k % 3 = 0 := by omega
  have h1 : (3 * k + 1) % 3 = 1 := by omega
  have hd0 : 3 * k / 3 = k := by omega
  have hd1 : (3 * k + 1) / 3 = k := by omega
  have hd2 : (3 * k + 2) / 3 = k := by omega
  have hnot : ¬(searching.all (·.getLsbD k) = true ∧ searching.all (!·.getLsbD k) = true) := by
    obtain ⟨rom, hrom⟩ := List.exists_mem_of_ne_nil _ hne
    rintro ⟨hone, hzero⟩
    have h1 := List.all_eq_true.mp hone rom hrom
    have h2 := List.all_eq_true.mp hzero rom hrom
    simp [h1] at h2
  have hbyte : ((k + 1) / 8 < 8) = (k + 1 < 64) := by
    rw [Nat.div_lt_iff_lt_mul (by decide)]
  have hsends0 : (OneWireBus.sends ⟨devs, alarm, searching, 3 * k⟩) = (·.getLsbD k) := by
    funext rom
    simp only [OneWireBus.sends, h0, hd0]
  have hsends1 : (OneWireBus.sends ⟨devs, alarm, searching, 3 * k + 1⟩) = (!·.getLsbD k) := by
    funext rom
    simp only [OneWireBus.sends, h1, hd1]
  have hP := hrest k le_rfl
  simp only [onewireHostSearchRound, OneWireBus.readBit, OneWireBus.writeBit, hsends0, hsends1, hd2,
    Bool.and_eq_true, if_neg hnot, and_mask_bne_zero, hP, (shift_mask k).1, (shift_mask k).2]
  refine ⟨_, if_congr (Iff.of_eq hbyte) rfl rfl, rfl, rfl, rfl, rfl, rfl, fun i => ?_, rfl, rfl, rfl, hdevs, halarm⟩
  exact bit_update_select mem _ k i

lemma Walking.below_iff {devices : OneWireBus} (h : Walking answering P L devices k s)
    {r : Nat → Bool} : Below (romPaths answering) s.host.savedRom.bit k r ↔
      ∃ rom ∈ s.bus.searching, r = rom.getLsbD := by
  constructor
  · rintro ⟨⟨rom, hrom, rfl⟩, hr⟩
    exact ⟨rom, (h.searching rom).mpr ⟨hrom, hr⟩, rfl⟩
  · rintro ⟨rom, hrom, rfl⟩
    obtain ⟨hmem, hr⟩ := (h.searching rom).mp hrom
    exact below_romPaths hmem hr

lemma searchDirection_spec {searching : List (BitVec 64)} (hne : searching ≠ []) :
    (∀ rom ∈ searching, rom.getLsbD k = searchDirection searching P L k) ∧
        ¬(bothBits searching k) ∨
      (∃ rom ∈ searching, rom.getLsbD k = true) ∧ (∃ rom ∈ searching, rom.getLsbD k = false) ∧
        searchDirection searching P L k = (if k + 1 < L then P k else decide (k + 1 = L)) ∧
        bothBits searching k := by
  obtain ⟨rom, hrom⟩ := List.exists_mem_of_ne_nil _ hne
  cases hone : searching.all (·.getLsbD k) with
  | true =>
    have hall := List.all_eq_true.mp hone
    have hzero : searching.all (!·.getLsbD k) = false :=
      List.all_eq_false.mpr ⟨rom, hrom, by simp [hall rom hrom]⟩
    refine .inl ⟨fun x hx => ?_, by simp [bothBits, hone, hzero]⟩
    simp [searchDirection, hone, hzero, hall x hx]
  | false =>
    obtain ⟨x, hx, hx0⟩ := List.all_eq_false.mp hone
    cases hzero : searching.all (!·.getLsbD k) with
    | true =>
      have hall := List.all_eq_true.mp hzero
      refine .inl ⟨fun y hy => ?_, by simp [bothBits, hone, hzero]⟩
      have hy0 := hall y hy
      simp only [Bool.not_eq_true'] at hy0
      simp [searchDirection, hone, hzero, hy0]
    | false =>
      obtain ⟨y, hy, hy1⟩ := List.all_eq_false.mp hzero
      refine .inr ⟨⟨y, hy, by simpa using hy1⟩, ⟨x, hx, by simpa using hx0⟩, ?_,
        by simp [bothBits, hone, hzero]⟩
      rw [searchDirection, hone, hzero, if_neg (by simp)]
      rfl

lemma Walking.step {devices : OneWireBus} (h : Walking answering P L devices k s)
    (hanswering : answering ≠ []) (hk : k < 64) :
    ∃ s', onewireHostSearchRound s = (if k + 1 < 64 then .again s' else .leave s') ∧
      Walking answering P L devices (k + 1) s' := by
  have hne : s.bus.searching ≠ [] := by
    obtain ⟨rom, hrom⟩ := List.exists_mem_of_ne_nil _ hanswering
    have htree : (romPaths answering).Nonempty := ⟨rom.getLsbD, rom, hrom, rfl⟩
    obtain ⟨r, hr⟩ := exists_below htree h.chosen
    obtain ⟨x, hx, -⟩ := h.below_iff.mp hr
    exact List.ne_nil_of_mem hx
  obtain ⟨s', hround, hid, hbyte, hmask, hslot, hsearching, hbit, hzero, hdisc, hflag, hdevices⟩ :=
    onewireHostSearchRound_eq h hne
  have hspec := searchDirection_spec (k := k) (P := P) (L := L) hne
  have hsame : ∀ i < k, s.host.savedRom.bit i = s'.host.savedRom.bit i := fun i hi => by
    rw [hbit, if_neg (Nat.ne_of_lt hi)]
  have hself : s'.host.savedRom.bit k = searchDirection s.bus.searching P L k := by
    rw [hbit, if_pos rfl]
  have hbelow : ∀ r, Below (romPaths answering) s'.host.savedRom.bit k r ↔
      ∃ rom ∈ s.bus.searching, r = rom.getLsbD := fun r =>
    ⟨fun hr => h.below_iff.mp (hr.congr fun i hi => (hsame i hi).symm),
      fun hr => (h.below_iff.mpr hr).congr hsame⟩
  refine ⟨s', hround, hid, hbyte, hmask, hslot, fun rom => ?_, fun i hi => ?_, fun i hi => ?_,
    ?_, hdisc, hflag, hdevices⟩
  · -- the devices that are left agree with one more bit
    rw [hsearching, List.mem_filter, h.searching, beq_iff_eq, and_assoc]
    refine and_congr_right fun _ => ⟨fun hr i hi => ?_, fun hr => ⟨fun i hi => ?_, ?_⟩⟩
    · rcases Nat.lt_succ_iff_lt_or_eq.mp hi with hlt | rfl
      · exact (hr.1 i hlt).trans (hsame i hlt)
      · exact hr.2.trans hself.symm
    · exact (hr i (Nat.lt_succ_of_lt hi)).trans (hsame i hi).symm
    · exact (hr k k.lt_succ_self).trans hself
  · rcases Nat.lt_succ_iff_lt_or_eq.mp hi with hlt | rfl
    · exact (h.chosen i hlt).congr fun j hj => hsame j (by omega)
    · rcases hspec with ⟨hall, -⟩ | ⟨⟨x, hx, hx1⟩, ⟨y, hy, hy0⟩, hdir, -⟩
      · refine .inl fun r hr => ?_
        obtain ⟨rom, hrom, rfl⟩ := (hbelow r).mp hr
        exact (hall rom hrom).trans hself.symm
      · exact .inr ⟨⟨_, (hbelow _).mpr ⟨x, hx, rfl⟩, hx1⟩, ⟨_, (hbelow _).mpr ⟨y, hy, rfl⟩, hy0⟩,
          hself.trans hdir⟩
  · rw [hbit, if_neg (by omega)]
    exact h.rest i (by omega)
  · -- a fork is where both bits are sent and the host goes on with a zero
    refine LastFork.succ (h.lastZero.congr hsame) (fun hfork => ?_) fun hfork => ?_
    · obtain ⟨hfalse, r, hr, htrue⟩ := hfork
      obtain ⟨rom, hrom, rfl⟩ := (hbelow r).mp hr
      rw [hself] at hfalse
      rcases hspec with ⟨hall, -⟩ | ⟨-, -, -, hboth⟩
      · exact absurd ((hall rom hrom).symm.trans htrue) (by simp [hfalse])
      · rw [hzero, if_pos ⟨hboth, hfalse⟩]
    · rw [hzero, if_neg]
      rintro ⟨hboth, hfalse⟩
      rcases hspec with ⟨-, hnot⟩ | ⟨⟨x, hx, hx1⟩, -⟩
      · exact hnot hboth
      · exact hfork ⟨hself.trans hfalse, _, (hbelow _).mpr ⟨x, hx, rfl⟩, hx1⟩

lemma Walking.run {devices : OneWireBus} (hanswering : answering ≠ []) {n : Nat}
    (h : Walking answering P L devices k s) (hk : k < 64) (hn : 64 = k + n) :
    ∃ s', loop onewireHostSearchRound n s = some s' ∧ Walking answering P L devices 64 s' := by
  induction n generalizing k s with
  | zero => omega
  | succ n ih =>
    obtain ⟨s', hround, hs'⟩ := h.step hanswering hk
    by_cases hlast : k + 1 < 64
    · rw [if_pos hlast] at hround
      rw [loop_again hround]
      exact ih hs' hlast (by omega)
    · rw [if_neg hlast] at hround
      obtain rfl : k = 63 := by omega
      exact ⟨s', loop_leave hround, hs'⟩

/-! ### The result of one call -/

lemma rom_ext {a b : BitVec 64} (h : ∀ i < 64, a.getLsbD i = b.getLsbD i) : a = b :=
  BitVec.eq_of_getLsbD_eq fun i hi => h i hi

/-- The saved ROM code is the one of a device, byte for byte. -/
lemma savedRom_eq {mem : Memory} {rom : BitVec 64} (h : ∀ i < 64, mem.bit i = rom.getLsbD i)
    {n : Nat} (hn : n < 8) : mem n = rom.extractLsb' (8 * n) 8 := by
  apply BitVec.eq_of_getLsbD_eq
  intro j hj
  have hbit := h (8 * n + j) (by omega)
  have hdiv : (8 * n + j) / 8 = n := by omega
  have hmod : (8 * n + j) % 8 = j := by omega
  rw [Memory.bit, hdiv, hmod] at hbit
  rw [hbit, BitVec.getLsbD_extractLsb', decide_eq_true hj, Bool.true_and]

/-- The host has just found the device `rom`. -/
structure Found (answering : List (BitVec 64)) (rom : BitVec 64) (host : OneWireHost) : Prop where
  mem : rom ∈ answering
  savedRom : ∀ i < 64, host.savedRom.bit i = rom.getLsbD i
  lastFork : LastFork (romPaths answering) rom.getLsbD 64 host.lastDiscrepancy
  lastDeviceFlag : host.lastDeviceFlag = (host.lastDiscrepancy == 0)

lemma Walking.start (hflag : host.lastDeviceFlag = false) :
    Walking (bus.answering mode) host.savedRom.bit host.lastDiscrepancy bus 0
      ⟨host, bus.reset.2.writeCommand mode, 1, 0, 0, 1⟩ where
  idBitNumber := rfl
  romByteNumber := rfl
  romByteMask := rfl
  slot := rfl
  searching rom := by
    cases mode <;> simp [OneWireBus.writeCommand, OneWireBus.reset, OneWireBus.answering]
  chosen i hi := absurd hi (Nat.not_lt_zero i)
  rest _ _ := rfl
  lastZero := ⟨.inl rfl, fun j hj => absurd hj (Nat.not_lt_zero j)⟩
  lastDiscrepancy := rfl
  lastDeviceFlag := hflag
  devices := ⟨rfl, rfl⟩

variable (host) in
lemma onewireHostSearch_found (hanswering : bus.answering mode ≠ [])
    (hfamily : ∀ rom ∈ bus.answering mode, familyCode rom ≠ 0) (hflag : host.lastDeviceFlag = false)
    : ∃ rom host' bus', onewireHostSearch mode host bus = some (some (romBytes rom), host', bus') ∧
      Found (bus.answering mode) rom host' ∧ bus'.answering mode = bus.answering mode ∧
      ∀ i < 64, Chosen (romPaths (bus.answering mode)) host.savedRom.bit host.lastDiscrepancy
        rom.getLsbD i := by
  have hpresent : bus.reset.1 = true := by
    obtain ⟨rom, hrom⟩ := List.exists_mem_of_ne_nil _ hanswering
    have hmem : rom ∈ bus.devices := by
      cases mode with
      | conditional => exact (List.mem_filter.mp hrom).1
      | normal      => exact hrom
    cases hdev : bus.devices with
    | nil         => simp [hdev] at hmem
    | cons d rest => simp [OneWireBus.reset, hdev]
  obtain ⟨s, hloop, hs⟩ := (Walking.start hflag).run hanswering (by decide) (by decide : 64 = 0 + 64)
  have htree : (romPaths (bus.answering mode)).Nonempty := by
    obtain ⟨rom, hrom⟩ := List.exists_mem_of_ne_nil _ hanswering
    exact ⟨rom.getLsbD, rom, hrom, rfl⟩
  obtain ⟨r, ⟨⟨rom, hrom, rfl⟩, hbits⟩⟩ := exists_below htree hs.chosen
  have hsaved : ∀ i < 64, s.host.savedRom.bit i = rom.getLsbD i := fun i hi => (hbits i hi).symm
  have hbyte : ¬s.host.savedRom 0 = 0 := by
    rw [savedRom_eq hsaved (by decide)]
    exact hfamily rom hrom
  have haddress : (List.range 8).map s.host.savedRom = romBytes rom :=
    List.map_congr_left fun n hn => savedRom_eq hsaved (List.mem_range.mp hn)
  refine ⟨rom, { s.host with
    lastDiscrepancy := s.lastZero
    lastDeviceFlag := s.lastZero == 0 || s.host.lastDeviceFlag }, s.bus, ?_, ?_, ?_, fun i hi => (hs.chosen i hi).congr fun j hj =>
    hsaved j (by omega)⟩
  · rw [onewireHostSearch, if_neg (by simp [hflag]), if_neg (by simp [hpresent]), hloop,
      Option.map_some, if_neg (by rw [hs.idBitNumber]; decide), if_neg hbyte, haddress]
  · exact ⟨hrom, hsaved, hs.lastZero.congr hsaved, by simp [hs.lastDeviceFlag]⟩
  · cases mode with
    | conditional => rw [OneWireBus.answering, hs.devices.1, hs.devices.2]; rfl
    | normal      => exact hs.devices.1

variable (mode host bus) in
lemma onewireHostSearch_none (h : host.lastDeviceFlag = true ∨ bus.answering mode = []) :
    ∃ host' bus', onewireHostSearch mode host bus = some (none, host', bus') := by
  rw [onewireHostSearch]
  split
  · exact ⟨_, _, rfl⟩
  · rename_i hflag
    have hnone := h.resolve_left hflag
    split
    · exact ⟨_, _, rfl⟩
    · have hround : ∃ bus', onewireHostSearchRound
          ⟨host, bus.reset.2.writeCommand mode, 1, 0, 0, 1⟩ = .leave ⟨host, bus', 1, 0, 0, 1⟩ := by
        have hsearching : (bus.reset.2.writeCommand mode).searching = [] := by
          cases mode <;> exact hnone
        refine ⟨{ bus.reset.2.writeCommand mode with slot := 2 }, ?_⟩
        simp only [onewireHostSearchRound, OneWireBus.readBit, hsearching, List.all_nil,
          Bool.and_self, if_true]
        rfl
      obtain ⟨bus', hs'⟩ := hround
      rw [loop_leave hs', Option.map_some, if_pos (show 1 < 65 by decide)]
      exact ⟨_, _, rfl⟩

/-! ### All calls -/

lemma onewireHostSearches_after {rom : BitVec 64}
    (hfamily : ∀ rom ∈ answering, familyCode rom ≠ 0) (hbus : bus.answering mode = answering)
    (h : Found answering rom host) :
    ∃ found : List (BitVec 64), found.Nodup ∧
      (∀ x, x ∈ found ↔ x ∈ answering ∧ Precedes 64 rom.getLsbD x.getLsbD) ∧
      onewireHostSearches mode (found.length + 1) host bus =
        some (found.map (fun x => some (romBytes x)) ++ [none]) := by
  generalize hn : (answering.toFinset.filter fun x =>
    Precedes 64 rom.getLsbD x.getLsbD).card = n
  induction n using Nat.strong_induction_on generalizing rom host bus with
  | _ n ih =>
    by_cases hlast : host.lastDiscrepancy = 0
    · obtain ⟨host', bus', hcall⟩ := onewireHostSearch_none mode host bus
        (.inl (h.lastDeviceFlag.trans (by simp [hlast])))
      refine ⟨[], List.nodup_nil, fun x => ⟨nofun, fun hx => ?_⟩, ?_⟩
      · have hleaf : x.getLsbD ∈ romPaths answering := ⟨x, hx.1, rfl⟩
        exact absurd hx.2 (last_leaf (hlast ▸ h.lastFork) hleaf)
      · simp [onewireHostSearches, hcall]
    · have hne : bus.answering mode ≠ [] := hbus ▸ List.ne_nil_of_mem h.mem
      have hflag : host.lastDeviceFlag = false := h.lastDeviceFlag.trans (by simp [hlast])
      obtain ⟨next, host', bus', hcall, hfound, hbus', hchosen⟩ :=
        onewireHostSearch_found host hne (hbus ▸ hfamily) hflag
      rw [hbus] at hfound hbus' hchosen
      have hleaf : rom.getLsbD ∈ romPaths answering := ⟨rom, h.mem, rfl⟩
      have hwalk : ∀ i < 64, Chosen (romPaths answering) rom.getLsbD host.lastDiscrepancy
          next.getLsbD i := fun i hi => (hchosen i hi).congr_previous (h.savedRom i hi)
      have hprecedes := precedes_next hleaf h.lastFork hlast hwalk
      have hsplit : ∀ x ∈ answering, Precedes 64 rom.getLsbD x.getLsbD ↔
          x = next ∨ Precedes 64 next.getLsbD x.getLsbD := fun x hx => by
        have hxleaf : x.getLsbD ∈ romPaths answering := ⟨x, hx, rfl⟩
        constructor
        · intro hafter
          exact (next_leaf hleaf h.lastFork hlast hwalk hxleaf hafter).imp_left
            fun heq => (rom_ext heq).symm
        · rintro (rfl | hafter)
          · exact hprecedes
          · exact hprecedes.trans hafter
      have hcard : (answering.toFinset.filter fun x =>
          Precedes 64 next.getLsbD x.getLsbD).card < n := by
        rw [← hn]
        apply Finset.card_lt_card
        refine ⟨fun x hx => ?_, fun hsub => ?_⟩
        · simp only [Finset.mem_filter, List.mem_toFinset] at hx ⊢
          exact ⟨hx.1, hprecedes.trans hx.2⟩
        · have hnext := hsub (Finset.mem_filter.mpr
            ⟨List.mem_toFinset.mpr hfound.mem, hprecedes⟩)
          exact Precedes.irrefl (Finset.mem_filter.mp hnext).2
      obtain ⟨found, hnodup, hmem, hcalls⟩ := ih _ hcard hbus' hfound rfl
      refine ⟨next :: found, List.nodup_cons.mpr ⟨?_, hnodup⟩, fun x => ?_, ?_⟩
      · intro hnext
        exact Precedes.irrefl ((hmem next).mp hnext).2
      · rw [List.mem_cons, hmem]
        constructor
        · rintro (rfl | ⟨hx, hafter⟩)
          · exact ⟨hfound.mem, hprecedes⟩
          · exact ⟨hx, hprecedes.trans hafter⟩
        · rintro ⟨hx, hafter⟩
          exact ((hsplit x hx).mp hafter).imp_right fun h' => ⟨hx, h'⟩
      · rw [List.length_cons, onewireHostSearches, hcall]
        simp [hcalls]

variable (host) in
lemma onewireHostSearches_first (hfamily : ∀ rom ∈ bus.answering mode, familyCode rom ≠ 0) :
    ∃ found : List (BitVec 64), found.Nodup ∧ (∀ x, x ∈ found ↔ x ∈ bus.answering mode) ∧
      onewireHostSearches mode (found.length + 1) (onewireHostResetSearch host) bus =
        some (found.map (fun x => some (romBytes x)) ++ [none]) := by
  by_cases hanswering : bus.answering mode = []
  · obtain ⟨host', bus', hcall⟩ := onewireHostSearch_none mode
      (onewireHostResetSearch host) bus (.inr hanswering)
    exact ⟨[], List.nodup_nil, by simp [hanswering], by simp [onewireHostSearches, hcall]⟩
  · obtain ⟨first, host', bus', hcall, hfound, hbus', hchosen⟩ :=
      onewireHostSearch_found (onewireHostResetSearch host) hanswering hfamily rfl
    obtain ⟨found, hnodup, hmem, hcalls⟩ := onewireHostSearches_after hfamily hbus' hfound
    refine ⟨first :: found, List.nodup_cons.mpr ⟨?_, hnodup⟩, fun x => ?_, ?_⟩
    · intro hfirst
      exact Precedes.irrefl ((hmem first).mp hfirst).2
    · rw [List.mem_cons, hmem]
      constructor
      · rintro (rfl | hx)
        · exact hfound.mem
        · exact hx.1
      · intro hx
        have hleaf : x.getLsbD ∈ romPaths (bus.answering mode) := ⟨x, hx, rfl⟩
        exact (first_leaf hchosen hleaf).imp (fun heq => (rom_ext heq).symm) fun h => ⟨hx, h⟩
    · rw [List.length_cons, onewireHostSearches, hcall]
      simp [hcalls]

/-- After a reset of the search, repeated calls find every device that answers exactly once, with
its address, and the next call finds none. -/
theorem onewireHostSearches_all (mode : OneWireHostSearchMode) (host : OneWireHost)
    (bus : OneWireBus) (hdistinct : bus.devices.Nodup)
    (hfamily : ∀ rom ∈ bus.devices, familyCode rom ≠ 0) :
    ∃ found : List (BitVec 64), found.Perm (bus.answering mode) ∧
      onewireHostSearches mode (found.length + 1) (onewireHostResetSearch host) bus =
        some (found.map (fun rom => some (romBytes rom)) ++ [none]) := by
  have hsub : (bus.answering mode).Nodup ∧ ∀ rom ∈ bus.answering mode, rom ∈ bus.devices := by
    cases mode with
    | conditional => exact ⟨hdistinct.filter _, fun rom hrom => (List.mem_filter.mp hrom).1⟩
    | normal      => exact ⟨hdistinct, fun _ hrom => hrom⟩
  obtain ⟨found, hnodup, hmem, hcalls⟩ := onewireHostSearches_first host
    fun rom hrom => hfamily rom (hsub.2 rom hrom)
  exact ⟨found, (List.perm_ext_iff_of_nodup hnodup hsub.1).mpr hmem, hcalls⟩

/-- Two devices that differ in their last byte. -/
def twoDevices : OneWireBus where
  devices := [0x2A00000000000128#64, 0xAA00000000000128#64]
  alarm _ := false
  searching := []
  slot := 0

theorem onewireHostSearches_two : ∃ found : List (BitVec 64),
    found.Perm (twoDevices.answering .normal) ∧
      onewireHostSearches .normal (found.length + 1)
          (onewireHostResetSearch ⟨fun _ => 0xFF, 5, 3, true⟩) twoDevices =
        some (found.map (fun rom => some (romBytes rom)) ++ [none]) :=
  onewireHostSearches_all .normal ⟨fun _ => 0xFF, 5, 3, true⟩ twoDevices
    (by simp [twoDevices]) (by simp [twoDevices, familyCode])

end FlipperZero
