import FlipperZero.Foundation.Loop
import FlipperZero.Foundation.Memory

/-!
# The search for devices of a 1-Wire host

The host finds the ROM codes on the bus one bit after the other. All devices that still take part
send the bit and its complement, the host writes the bit that it goes on with, and the devices
with the other bit drop out. A call finds one device; three small counters and the ROM code of the
last device tell the next call where to go another way.
-/

namespace FlipperZero

open Foundation

inductive OneWireHostSearchMode where
  | conditional
  | normal
  deriving DecidableEq, Repr

/-! ### Bus -/

/-- An ideal bus. The devices in `searching` take part in a search, each with three time slots for
a bit; a device with an alarm takes part in a conditional search as well. -/
structure OneWireBus where
  devices : List (BitVec 64)
  alarm : BitVec 64 → Bool
  searching : List (BitVec 64)
  slot : Nat

namespace OneWireBus

variable (bus : OneWireBus)

/-- The devices that take part in a search. -/
def answering : OneWireHostSearchMode → List (BitVec 64)
  | .conditional => bus.devices.filter bus.alarm
  | .normal      => bus.devices

/-- `onewire_host_reset`: any device answers with its presence. -/
def reset : Bool × OneWireBus := (!bus.devices.isEmpty, { bus with searching := [] })

/-- `onewire_host_write` of a search command. -/
def writeCommand (mode : OneWireHostSearchMode) : OneWireBus :=
  { bus with searching := bus.answering mode, slot := 0 }

/-- What a device sends: the bit and then its complement. -/
def sends (rom : BitVec 64) : Bool :=
  match bus.slot % 3 with
  | 0 => rom.getLsbD (bus.slot / 3)
  | 1 => !rom.getLsbD (bus.slot / 3)
  | _ => true

/-- `onewire_host_read_bit`: the line is low when one device pulls it down. -/
def readBit : Bool × OneWireBus := (bus.searching.all bus.sends, { bus with slot := bus.slot + 1 })

/-- `onewire_host_write_bit`: the devices with the other bit drop out. -/
def writeBit (value : Bool) : OneWireBus :=
  { bus with
    searching := bus.searching.filter fun rom => rom.getLsbD (bus.slot / 3) == value
    slot := bus.slot + 1 }

end OneWireBus

/-! ### Host -/

/-- `OneWireHost`, as far as a search uses it. -/
structure OneWireHost where
  savedRom : Memory
  lastDiscrepancy : Nat
  lastFamilyDiscrepancy : Nat
  lastDeviceFlag : Bool

def onewireHostResetSearch (host : OneWireHost) : OneWireHost where
  savedRom i := if i < 8 then 0 else host.savedRom i
  lastDiscrepancy := 0
  lastFamilyDiscrepancy := 0
  lastDeviceFlag := false

/-- The counters of a host that begins its search again. -/
def OneWireHost.resetCounters (host : OneWireHost) : OneWireHost :=
  { host with lastDiscrepancy := 0, lastFamilyDiscrepancy := 0, lastDeviceFlag := false }

/-- The variables of the loop in `onewire_host_search`. -/
structure OneWireSearch where
  host : OneWireHost
  bus : OneWireBus
  idBitNumber : Nat
  lastZero : Nat
  romByteNumber : Nat
  romByteMask : BitVec 8

/-- One round of that loop, which finds the next bit. -/
def onewireHostSearchRound (s : OneWireSearch) : Round OneWireSearch OneWireSearch :=
  let idBit := s.bus.readBit
  let cmpIdBit := idBit.2.readBit
  if idBit.1 && cmpIdBit.1 then .leave { s with bus := cmpIdBit.2 }
  else
    let saved := s.host.savedRom s.romByteNumber
    let searchDirection : Bool :=
      if idBit.1 ≠ cmpIdBit.1 then idBit.1
      else if s.idBitNumber < s.host.lastDiscrepancy then saved &&& s.romByteMask != 0
      else s.idBitNumber == s.host.lastDiscrepancy
    let zeroPicked := idBit.1 = cmpIdBit.1 ∧ searchDirection = false
    let lastZero := if zeroPicked then s.idBitNumber else s.lastZero
    let lastFamilyDiscrepancy :=
      if zeroPicked ∧ lastZero < 9 then lastZero else s.host.lastFamilyDiscrepancy
    let savedRom := Function.update s.host.savedRom s.romByteNumber
      (if searchDirection then saved ||| s.romByteMask else saved &&& ~~~s.romByteMask)
    let mask := s.romByteMask <<< 1
    let next : OneWireSearch :=
      { host := { s.host with savedRom, lastFamilyDiscrepancy }
        bus := cmpIdBit.2.writeBit searchDirection
        idBitNumber := s.idBitNumber + 1
        lastZero
        romByteNumber := if mask = 0 then s.romByteNumber + 1 else s.romByteNumber
        romByteMask := if mask = 0 then 1 else mask }
    if next.romByteNumber < 8 then .again next else .leave next

/-- `onewire_host_search`. It returns the address when it returns true. -/
def onewireHostSearch (mode : OneWireHostSearchMode) (host : OneWireHost) (bus : OneWireBus) :
    Option (Option (List (BitVec 8)) × OneWireHost × OneWireBus) :=
  if host.lastDeviceFlag then some (none, host.resetCounters, bus)
  else if !bus.reset.1 then some (none, host.resetCounters, bus.reset.2)
  else
    (loop onewireHostSearchRound 64 ⟨host, bus.reset.2.writeCommand mode, 1, 0, 0, 1⟩).map fun s =>
      if s.idBitNumber < 65 then (none, s.host.resetCounters, s.bus)
      else
        let host := { s.host with
          lastDiscrepancy := s.lastZero
          lastDeviceFlag := s.lastZero == 0 || s.host.lastDeviceFlag }
        if host.savedRom 0 = 0 then (none, host.resetCounters, s.bus)
        else (some ((List.range 8).map host.savedRom), host, s.bus)

/-- The results of repeated calls. -/
def onewireHostSearches (mode : OneWireHostSearchMode) :
    Nat → OneWireHost → OneWireBus → Option (List (Option (List (BitVec 8))))
  | 0, _, _ => some []
  | n + 1, host, bus =>
    match onewireHostSearch mode host bus with
    | none => none
    | some (result, host, bus) => (onewireHostSearches mode n host bus).map (result :: ·)

/-- The ROM code in the order of its bytes. -/
def romBytes (rom : BitVec 64) : List (BitVec 8) :=
  (List.range 8).map fun i => rom.extractLsb' (8 * i) 8

def familyCode (rom : BitVec 64) : BitVec 8 := rom.extractLsb' 0 8

end FlipperZero
