import FlipperZero.Nfc.EmvTermination

/-!
# What the EMV decoders access

The decoders trust the lengths in an answer. Every byte that they read and every field that they
write to is listed, with the end of the memory that is read; what an answer, a log record and a PDOL
must be like for all of it to be in bounds is said of their items.
-/

namespace FlipperZero.Nfc

open Foundation Relation

/-! ### Accesses -/

def EmvDest.Exists : EmvDest → Prop
  | .trans i _ => i.toNat < emvTransCount
  | _          => True

/-- An access, with the end of the memory that is read. -/
abbrev EmvAccess := Nat × EmvOp

/-- A check passes, what is read has been received, and what is written fits its field. -/
def EmvAccess.Safe : EmvAccess → Prop
  | (_, .check ok)             => ok = true
  | (size, .read src n)        => n = 0 ∨ src.toNat + n ≤ size
  | (_, .write dest off bytes) => dest.Exists ∧ off + bytes.length ≤ dest.size

/-- What `emv_parse_tag` reads. -/
def emvParseTagReads (buff : EmvMemory) (base : UInt32) (len : UInt16) (off : UInt8) : List EmvOp :=
  let place := fun i : UInt8 => base + i.toUInt32
  .read (place off) 1 :: .read base 1 ::
    if emvResponseError buff base len then [.read (base + 1) 1]
    else
      let twoByteTag := buff (place off) &&& 31 == 31
      let i := if twoByteTag then off + 1 else off
      let i := i + 1
      (if twoByteTag then [.read (place off + 1) 1] else []) ++ .read (place i) 1 ::
        if buff (place i) &&& 128 == 128 then [.read (place (i + 1)) 1] else []

/-- What `emv_decode_response_tlv` accesses, with an answer of `size` bytes. -/
def emvResponseAccesses (buff : EmvMemory) (size : Nat) :
    Nat → UInt32 → UInt8 → UInt8 → EmvMemory → List EmvAccess
  | 0, _, _, _, _ => []
  | n + 1, base, len, i, app =>
    if i < len then
      (emvParseTagReads buff base len.toUInt16 i).map (size, ·) ++
        match emvParseTag buff base len.toUInt16 i with
        | none => []
        | some ⟨tag, tlen, j⟩ =>
          if buff (base + i.toUInt32) &&& 32 == 32 then
            emvResponseAccesses buff size n (base + j.toUInt32) tlen 0 app ++
              match emvDecodeResponseTlv buff n (base + j.toUInt32) tlen 0 false app with
              | some (.returned (_, app)) => emvResponseAccesses buff size n base len (j + tlen) app
              | _ => []
          else
            (emvDecodeTlvTag buff (base + j.toUInt32) tag tlen app).map (size, ·) ++
              match runEmvOps (emvDecodeTlvTag buff (base + j.toUInt32) tag tlen app) app with
              | some app => emvResponseAccesses buff size n base len (j + tlen) app
              | none     => []
    else []

/-- What the loop of `emv_decode_tl` accesses: the log format in the application data, and the
record. -/
def emvDecodeTlLoopAccesses (buff : EmvMemory) (len : UInt16) (fmtLen : UInt8) :
    Nat → UInt8 → UInt8 → EmvMemory → List EmvAccess
  | 0, _, _, _ => []
  | n + 1, i, f, app =>
    if f < fmtLen && i.toUInt16 < len then
      (emvParseTagReads app 2 fmtLen.toUInt16 f).map (2 + fmtLen.toNat, ·) ++
        match emvParseTag app 2 fmtLen.toUInt16 f with
        | none => []
        | some ⟨tag, tlen, g⟩ =>
          (emvDecodeTlvTag buff i.toUInt32 tag tlen app).map (len.toNat, ·) ++
            match runEmvOps (emvDecodeTlvTag buff i.toUInt32 tag tlen app) app with
            | some app => emvDecodeTlLoopAccesses buff len fmtLen n (i + tlen) g app
            | none     => []
    else []

/-- What `emv_decode_tl` accesses. -/
def emvDecodeTlAccesses (buff : EmvMemory) (n : Nat) (len : UInt16) (app : EmvMemory) :
    List EmvAccess :=
  if emvResponseError buff 0 len then [(len.toNat, .read 0 1), (len.toNat, .read 1 1)]
  else (len.toNat, .read 0 1) :: emvDecodeTlLoopAccesses buff len (emvLogFmtLen app) n 0 0 app

/-- What `emv_prepare_pdol` accesses, with `size` bytes in the answer to the PDOL so far: the PDOL
in the application data, and the default values. -/
def emvPreparePdolAccesses (app : EmvMemory) : Nat → UInt8 → Nat → List EmvAccess
  | 0, _, _ => []
  | n + 1, i, size =>
    if i < emvPdolSize app then
      (emvParseTagReads app 675 (emvPdolSize app).toUInt16 i).map
          (675 + (emvPdolSize app).toNat, ·) ++
        match emvParseTag app 675 (emvPdolSize app).toUInt16 i with
        | none => []
        | some ⟨tag, tlen, j⟩ =>
          (0, .check (size + tlen.toNat < 255)) ::
            (match pdolValues.find? (·.tag == tag) with
              | some v => [(v.data.length, .read 0 tlen.toNat)]
              | none   => []) ++
            if size + tlen.toNat < 255 then emvPreparePdolAccesses app n j (size + tlen.toNat)
            else []
    else []

/-! ### Items that fit -/

/-- The first bytes behind a place have been received. -/
def EmvReceived (size : Nat) (p : UInt32) (n : Nat) : Prop := n = 0 ∨ p.toNat + n ≤ size

def emvHeaderSize (buff : EmvMemory) (base : UInt32) (off : UInt8) : Nat :=
  let twoByteTag := buff (base + off.toUInt32) &&& 31 == 31
  let i := if twoByteTag then off + 1 else off
  (if twoByteTag then 2 else 1) +
    if buff (base + (i + 1).toUInt32) &&& 128 == 128 then 2 else 1

/-- The header of an item, or the status word that stands in its place, has been received. -/
def EmvHeaderFits (buff : EmvMemory) (size : Nat) (base : UInt32) (len : UInt16) (off : UInt8) :
    Prop :=
  if emvResponseError buff base len then base.toNat + 2 ≤ size
  else base.toNat + off.toNat + emvHeaderSize buff base off ≤ size

/-- The byte behind an index of a track has the delimiter. -/
def emvDelimited (buff : EmvMemory) (p : UInt32) (x : Nat) : Bool :=
  buff (p + UInt32.ofNat (x + 1)) > 0xD0

/-- A nibble of a byte of a track is padding. -/
def emvPadded (buff : EmvMemory) (p : UInt32) (x : Nat) : Bool :=
  buff (p + UInt32.ofNat x) >>> 4 == 0x0F || buff (p + UInt32.ofNat x) &&& 0x0F == 0x0F

/-- The card number is in front of the first delimiter, if there is one, and has at most ten bytes.
It has been received with the expiry date. -/
def EmvPanFits (buff : EmvMemory) (size : Nat) (p : UInt32) (first count : Nat) : Prop :=
  match (List.range' first count).find? (emvDelimited buff p) with
  | some x => x + 1 ≤ 10 ∧ EmvReceived size p (x + 4)
  | none   => 0 < count → EmvReceived size p (first + count + 1)

def emvTrackEnd (buff : EmvMemory) (p : UInt32) (first count : Nat) : Nat :=
  match (List.range' first count).find? (emvPadded buff p) with
  | some x => x + 1
  | none   => first + count

/-- A track of at most forty digits that has been received. -/
structure EmvTrack2Fits (buff : EmvMemory) (size : Nat) (p : UInt32) (tlen : UInt8) : Prop where
  pan      : EmvPanFits buff size p 1 (tlen.toNat - 1)
  digits   : emvTrackEnd buff p 0 tlen.toNat ≤ 20
  received : EmvReceived size p (emvTrackEnd buff p 0 tlen.toNat)

/-- The length of a value is that of its field, or what the field has room for. -/
def EmvFieldFits (buff : EmvMemory) (size : Nat) (p : UInt32) (tag : UInt16) (tlen : UInt8) :
    Prop :=
  match tag.toNat with
  | 0x9F4F => tlen < 50
  | 0x80   => 2 ≤ tlen
  | 0x4F   => tlen ≤ 16
  | 0x87   => tlen ≤ 1
  | 0x82   => tlen = 2
  | 0x50   => tlen ≤ 16
  | 0x9F12 => tlen ≤ 16
  | 0x56   => tlen ≤ 79
  | 0x9F6B | 0x57 => EmvTrack2Fits buff size p tlen
  | 0x5F20 => tlen ≤ 24
  | 0x5A   => tlen ≤ 10
  | 0x5F24 | 0x5F25 => tlen = 3
  | 0x9F42 | 0x5F28 | 0x9F4D | 0x9F13 | 0x9F36 | 0x9F1A | 0x5F2A => tlen = 2
  | 0x9F02 => tlen ≤ 8
  | 0x9A   => tlen ≤ 4
  | 0x9F21 => tlen ≤ 4
  | 0x9F17 => tlen = 1
  | _      => True

/-- The value of an item has been received, and fits its field. -/
structure EmvValueFits (buff : EmvMemory) (size : Nat) (p : UInt32) (tag : UInt16) (tlen : UInt8) :
    Prop where
  received : EmvReceived size p tlen.toNat
  field    : EmvFieldFits buff size p tag tlen

/-! ### A header -/

variable {buff : EmvMemory} {size : Nat}

lemma toNat_add_toUInt32 {base : UInt32} {i : UInt8} (hsize : size < 2 ^ 32)
    (h : base.toNat + i.toNat ≤ size) : (base + i.toUInt32).toNat = base.toNat + i.toNat := by
  rw [UInt32.toNat_add, UInt8.toNat_toUInt32]
  omega

lemma toNat_add_ofNat {p : UInt32} {k : Nat} (hsize : size < 2 ^ 32) (h : p.toNat + k ≤ size) :
    (p + UInt32.ofNat k).toNat = p.toNat + k := by
  rw [UInt32.toNat_add, UInt32.toNat_ofNat']
  omega

lemma safe_readPlace {base : UInt32} {i : UInt8} (hsize : size < 2 ^ 32)
    (h : base.toNat + i.toNat + 1 ≤ size) :
    EmvAccess.Safe (size, .read (base + i.toUInt32) 1) :=
  .inr (by rw [toNat_add_toUInt32 hsize (by omega)]; exact h)

lemma toNat_succ_le (i : UInt8) : (i + 1).toNat ≤ i.toNat + 1 := by
  rw [UInt8.toNat_add]
  exact Nat.mod_le _ _

lemma emvParseTagReads_safe {base : UInt32} {len off : UInt8} (hsize : size < 2 ^ 32)
    (hoff : off < len) (hfits : EmvHeaderFits buff size base len.toUInt16 off) :
    ∀ op ∈ emvParseTagReads buff base len.toUInt16 off, EmvAccess.Safe (size, op) := by
  have hlt := UInt8.lt_iff_toNat_lt.mp hoff
  have hone := toNat_succ_le off
  have htwo := toNat_succ_le (off + 1)
  have hthree := toNat_succ_le (off + 1 + 1)
  rw [EmvHeaderFits] at hfits
  rw [emvParseTagReads]
  by_cases herror : emvResponseError buff base len.toUInt16 = true
  · have hlen : len.toNat = 2 := by
      rw [emvResponseError, Bool.and_eq_true, beq_iff_eq] at herror
      have hnat := congrArg UInt16.toNat herror.1
      rwa [UInt8.toNat_toUInt16] at hnat
    rw [if_pos herror] at hfits
    simp only [if_pos herror, List.forall_mem_cons]
    refine ⟨safe_readPlace hsize (by omega), .inr (by omega), .inr ?_, by simp⟩
    have hadd : (base + 1).toNat = base.toNat + 1 :=
      toNat_add_ofNat (k := 1) hsize (by omega)
    omega
  · rw [if_neg herror, emvHeaderSize] at hfits
    simp only [if_neg herror, List.forall_mem_cons, List.forall_mem_append]
    by_cases htag : (buff (base + off.toUInt32) &&& 31 == 31) = true
    · simp only [if_pos htag] at hfits ⊢
      have hadd : (base + off.toUInt32 + 1).toNat = base.toNat + off.toNat + 1 := by
        have hplace : (base + off.toUInt32).toNat = base.toNat + off.toNat :=
          toNat_add_toUInt32 hsize (by omega)
        have hnext := toNat_add_ofNat (p := base + off.toUInt32) (k := 1) hsize (by omega)
        rw [← hplace]
        exact hnext
      refine ⟨safe_readPlace hsize (by omega), .inr (by omega), ?_, ?_⟩
      · simp only [List.forall_mem_cons, List.not_mem_nil, false_implies, implies_true, and_true]
        exact .inr (by omega)
      · refine ⟨safe_readPlace hsize (by split at hfits <;> omega), ?_⟩
        split
        next hlong =>
          rw [if_pos hlong] at hfits
          simp only [List.forall_mem_cons, List.not_mem_nil, false_implies, implies_true, and_true]
          exact safe_readPlace hsize (by omega)
        · simp
    · simp only [if_neg htag] at hfits ⊢
      refine ⟨safe_readPlace hsize (by omega), .inr (by omega), by simp, ?_⟩
      refine ⟨safe_readPlace hsize (by split at hfits <;> omega), ?_⟩
      split
      next hlong =>
        rw [if_pos hlong] at hfits
        simp only [List.forall_mem_cons, List.not_mem_nil, false_implies, implies_true, and_true]
        exact safe_readPlace hsize (by omega)
      · simp

/-! ### A value -/

lemma EmvReceived.mono {p : UInt32} {n k : Nat} (h : EmvReceived size p n) (hk : k ≤ n) :
    EmvReceived size p k := by
  rcases h with rfl | h
  · exact .inl (by omega)
  · exact .inr (by omega)

lemma EmvReceived.shift {p : UInt32} {n k m : Nat} (hsize : size < 2 ^ 32)
    (h : EmvReceived size p n) (hk : k + m ≤ n) (hm : 0 < m) :
    EmvReceived size (p + UInt32.ofNat k) m := by
  rcases h with rfl | h
  · omega
  · refine .inr ?_
    rw [toNat_add_ofNat hsize (by omega)]
    omega

lemma readBytes_length (buff : EmvMemory) (p : UInt32) (n : Nat) :
    (readBytes buff p n).length = n := by
  rw [readBytes, List.length_map, List.length_range]

lemma emvCopy_safe {dest : EmvDest} {p : UInt32} {n : UInt8} (hdest : dest.Exists)
    (h : EmvReceived size p n.toNat) (hroom : n.toNat ≤ dest.size) :
    ∀ op ∈ emvCopy buff dest p n, EmvAccess.Safe (size, op) := by
  simp only [emvCopy, List.forall_mem_cons, List.not_mem_nil, false_implies, implies_true, and_true]
  refine ⟨h, hdest, ?_⟩
  rw [readBytes_length]
  omega

lemma emvCopy16_safe {dest : EmvDest} {p : UInt32} (hdest : dest.Exists)
    (h : EmvReceived size p 2) (hroom : 2 ≤ dest.size) :
    ∀ op ∈ emvCopy16 buff dest p, EmvAccess.Safe (size, op) := by
  simp only [emvCopy16, List.forall_mem_cons, List.not_mem_nil, false_implies, implies_true,
    and_true]
  exact ⟨h, hdest, hroom⟩

lemma emvTrack2Pan_safe {p : UInt32} (hsize : size < 2 ^ 32) {count first : Nat}
    (h : EmvPanFits buff size p first count) :
    ∀ op ∈ emvTrack2Pan buff p (List.range' first count), EmvAccess.Safe (size, op) := by
  induction count generalizing first with
  | zero => simp [emvTrack2Pan]
  | succ count ih =>
    rw [EmvPanFits, List.range'_succ] at h
    rw [List.range'_succ, emvTrack2Pan, List.forall_mem_cons]
    by_cases hfound : emvDelimited buff p first = true
    · rw [List.find?_cons_of_pos hfound] at h
      obtain ⟨hroom, hreceived⟩ := h
      rw [if_pos (of_decide_eq_true hfound)]
      simp only [List.forall_mem_cons, List.not_mem_nil, false_implies, implies_true, and_true]
      refine ⟨hreceived.shift hsize (by omega) (by omega), hreceived.mono (by omega), ⟨trivial, ?_⟩,
        ⟨trivial, by simp [EmvDest.size]⟩, hreceived.shift hsize (by omega) (by omega),
        ⟨trivial, by simp [EmvDest.size]⟩, hreceived.shift hsize (by omega) (by omega),
        ⟨trivial, by simp [EmvDest.size]⟩⟩
      rw [readBytes_length]
      simpa [EmvDest.size] using hroom
    · rw [List.find?_cons_of_neg hfound] at h
      rw [if_neg fun hlarge => hfound (decide_eq_true hlarge)]
      cases hfind : (List.range' (first + 1) count).find? (emvDelimited buff p) with
      | some x =>
        rw [hfind] at h
        obtain ⟨hroom, hreceived⟩ := h
        have hle : first + 1 ≤ x :=
          (List.mem_range'_1.mp (List.mem_of_find?_eq_some hfind)).1
        have hread : first + 1 + 1 ≤ x + 4 := by omega
        refine ⟨hreceived.shift hsize hread Nat.one_pos, ih ?_⟩
        rw [EmvPanFits, hfind]
        exact ⟨hroom, hreceived⟩
      | none =>
        rw [hfind] at h
        have hreceived : EmvReceived size p (first + (count + 1) + 1) := h (Nat.succ_pos count)
        refine ⟨hreceived.shift hsize (by omega) (by omega), ih ?_⟩
        rw [EmvPanFits, hfind]
        exact fun _ => hreceived.mono (by omega)

lemma digit_eq_question (x : UInt8) : x + 0x30 = 0x3F ↔ x = 0x0F := by
  constructor
  · intro h
    have hsub := congrArg (· - 0x30) h
    simpa using hsub
  · rintro rfl
    rfl

lemma emvTrack2Equiv_safe {p : UInt32} (hsize : size < 2 ^ 32) {count first : Nat} {len : UInt8}
    (hlen : len.toNat = 2 * first) (hdigits : emvTrackEnd buff p first count ≤ 20)
    (h : EmvReceived size p (emvTrackEnd buff p first count)) :
    ∀ op ∈ emvTrack2Equiv buff p (List.range' first count) len, EmvAccess.Safe (size, op) := by
  induction count generalizing first len with
  | zero =>
    have hend : emvTrackEnd buff p first 0 = first := rfl
    rw [hend] at hdigits
    simp only [List.range'_zero, emvTrack2Equiv, List.forall_mem_cons, List.not_mem_nil,
      false_implies, implies_true, and_true]
    refine ⟨trivial, ?_⟩
    simp only [EmvDest.size, List.length_cons, List.length_nil]
    omega
  | succ count ih =>
    have hone : (len + 1).toNat ≤ len.toNat + 1 := toNat_succ_le len
    have htwo : (len + 2).toNat ≤ len.toNat + 2 := by
      rw [UInt8.toNat_add]
      exact Nat.mod_le _ _
    rw [emvTrackEnd, List.range'_succ] at hdigits h
    rw [List.range'_succ, emvTrack2Equiv]
    by_cases hpadded : emvPadded buff p first = true
    · rw [List.find?_cons_of_pos hpadded] at hdigits h
      have hwrite (off : Nat) (hoff : off ≤ 2 * first + 2) (byte : UInt8) :
          EmvAccess.Safe (size, .write .track2Equiv off [byte]) := by
        refine ⟨trivial, ?_⟩
        simp only [EmvDest.size, List.length_cons, List.length_nil]
        simp only at hdigits
        omega
      simp only [List.forall_mem_cons]
      refine ⟨h.shift hsize (Nat.le_refl _) Nat.one_pos, hwrite _ (by omega) _, ?_⟩
      split
      · simp only [List.forall_mem_cons, List.not_mem_nil, false_implies, implies_true, and_true]
        exact hwrite _ (by omega) _
      next htop =>
      rw [digit_eq_question] at htop
      rw [emvPadded, Bool.or_eq_true, beq_iff_eq, beq_iff_eq] at hpadded
      have hbottom := hpadded.resolve_left htop
      rw [if_pos ((digit_eq_question _).mpr hbottom)]
      simp only [List.forall_mem_cons, List.not_mem_nil, false_implies, implies_true, and_true]
      exact ⟨hwrite _ (by omega) _, hwrite _ (by omega) _⟩
    · rw [List.find?_cons_of_neg hpadded] at hdigits h
      have hend : emvTrackEnd buff p (first + 1) count =
          match (List.range' (first + 1) count).find? (emvPadded buff p) with
          | some x => x + 1
          | none   => first + (count + 1) := by
        rw [emvTrackEnd, Nat.add_right_comm first 1 count, Nat.add_assoc]
      rw [← hend] at hdigits h
      have hle : first + 1 ≤ emvTrackEnd buff p (first + 1) count := by
        rw [emvTrackEnd]
        split
        next x hfind =>
          have hmem := List.mem_range'_1.mp (List.mem_of_find?_eq_some hfind)
          omega
        · omega
      have hwrite (off : Nat) (hoff : off ≤ 2 * first + 1) (byte : UInt8) :
          EmvAccess.Safe (size, .write .track2Equiv off [byte]) := by
        refine ⟨trivial, ?_⟩
        simp only [EmvDest.size, List.length_cons, List.length_nil]
        omega
      have hnext : (len + 2).toNat = 2 * (first + 1) := by
        rw [UInt8.toNat_add, hlen]
        show (2 * first + 2) % 256 = _
        omega
      rw [emvPadded, Bool.or_eq_true, beq_iff_eq, beq_iff_eq, not_or] at hpadded
      simp only [List.forall_mem_cons]
      refine ⟨h.shift hsize hle Nat.one_pos, hwrite _ (by omega) _, ?_⟩
      rw [if_neg fun htop => hpadded.1 ((digit_eq_question _).mp htop), List.forall_mem_cons,
        if_neg fun hbottom => hpadded.2 ((digit_eq_question _).mp hbottom)]
      exact ⟨hwrite _ (by omega) _, ih hnext hdigits h⟩

lemma safe_writeByte (dest : EmvDest) (hdest : dest.Exists) {off : Nat} (hoff : off < dest.size)
    (byte : UInt8) : EmvAccess.Safe (size, .write dest off [byte]) := ⟨hdest, hoff⟩

lemma emvCopyCounted_safe {dest count : EmvDest} {p : UInt32} {n : UInt8} (hdest : dest.Exists)
    (hcount : count.Exists) (h : EmvReceived size p n.toNat) (hroom : n.toNat ≤ dest.size)
    (hone : 0 < count.size) :
    ∀ op ∈ emvCopy buff dest p n ++ [.write count 0 [n]], EmvAccess.Safe (size, op) := by
  rw [List.forall_mem_append]
  refine ⟨emvCopy_safe hdest h hroom, fun op hop => ?_⟩
  obtain rfl := List.mem_singleton.mp hop
  exact safe_writeByte count hcount hone n

lemma emvCopyText_safe {dest : EmvDest} {p : UInt32} {n : UInt8} (hdest : dest.Exists)
    (h : EmvReceived size p n.toNat) (hroom : n.toNat < dest.size) :
    ∀ op ∈ emvCopy buff dest p n ++ [.write dest n.toNat [0]], EmvAccess.Safe (size, op) := by
  rw [List.forall_mem_append]
  refine ⟨emvCopy_safe hdest h (Nat.le_of_lt hroom), fun op hop => ?_⟩
  obtain rfl := List.mem_singleton.mp hop
  exact safe_writeByte dest hdest hroom 0

lemma emvDate_safe {year month day : EmvDest} {p : UInt32} (hsize : size < 2 ^ 32)
    (hyear : year.Exists) (hmonth : month.Exists) (hday : day.Exists) (hone : 0 < year.size)
    (htwo : 0 < month.size) (hthree : 0 < day.size) (h : EmvReceived size p 3) :
    ∀ op ∈ [.read p 1, .write year 0 [buff p], .read (p + 1) 1, .write month 0 [buff (p + 1)],
      .read (p + 2) 1, .write day 0 [buff (p + 2)]], EmvAccess.Safe (size, op) := by
  simp only [List.forall_mem_cons, List.not_mem_nil, false_implies, implies_true, and_true]
  exact ⟨h.mono (by decide), safe_writeByte year hyear hone _,
    h.shift (k := 1) hsize (by decide) Nat.one_pos, safe_writeByte month hmonth htwo _,
    h.shift (k := 2) hsize (by decide) Nat.one_pos, safe_writeByte day hday hthree _⟩

lemma toNat_le_of_le {n m : UInt8} (h : n ≤ m) : n.toNat ≤ m.toNat := UInt8.le_iff_toNat_le.mp h

lemma EmvReceived.of_eq {p : UInt32} {tlen n : UInt8} (h : EmvReceived size p tlen.toNat)
    (heq : tlen = n) : EmvReceived size p n.toNat := heq ▸ h

lemma emvDecodeTlvTag_safe {p : UInt32} {tag : UInt16} {tlen : UInt8} {app : EmvMemory}
    (hsize : size < 2 ^ 32) (hactive : (emvActiveTr app).toNat < emvTransCount)
    (hfits : EmvValueFits buff size p tag tlen) :
    ∀ op ∈ emvDecodeTlvTag buff p tag tlen app, EmvAccess.Safe (size, op) := by
  obtain ⟨hreceived, hfield⟩ := hfits
  have hbyte : tlen.toNat ≤ 255 := Nat.le_of_lt_succ tlen.toNat_lt
  unfold EmvFieldFits at hfield
  unfold emvDecodeTlvTag
  generalize tag.toNat = t at hfield
  split
  case h_1 =>
    have hlt : tlen.toNat < 50 := UInt8.lt_iff_toNat_lt.mp hfield
    rw [List.cons_append, List.forall_mem_cons]
    exact ⟨decide_eq_true hfield, emvCopyCounted_safe trivial trivial hreceived (Nat.le_of_lt hlt)
      Nat.one_pos⟩
  case h_2 =>
    have hle : 2 ≤ tlen.toNat := toNat_le_of_le hfield
    have hvalue : (tlen - 2).toNat = tlen.toNat - 2 := by
      rw [UInt8.toNat_sub]
      show (256 - 2 + tlen.toNat) % 256 = _
      omega
    have hroom : (tlen - 2).toNat < 255 := by omega
    have hreceived' : EmvReceived size (p + 2) (tlen - 2).toNat := by
      rcases Nat.eq_zero_or_pos (tlen - 2).toNat with hzero | hpos
      · exact .inl hzero
      · exact hreceived.shift (k := 2) hsize (by omega) hpos
    rw [List.cons_append, List.forall_mem_cons]
    exact ⟨decide_eq_true (UInt8.lt_iff_toNat_lt.mpr hroom), emvCopyCounted_safe trivial trivial
      hreceived' (Nat.le_of_lt hroom) Nat.one_pos⟩
  case h_3 =>
    rw [List.forall_mem_cons]
    exact ⟨safe_writeByte .aidLen trivial Nat.one_pos _, emvCopy_safe trivial hreceived
      (toNat_le_of_le hfield)⟩
  case h_4 => exact emvCopy_safe trivial hreceived (toNat_le_of_le hfield)
  case h_5 =>
    rw [List.forall_mem_cons]
    exact ⟨beq_iff_eq.mpr hfield, emvCopy_safe trivial hreceived (by rw [hfield]; decide)⟩
  case h_6 =>
    exact emvCopyText_safe trivial hreceived (Nat.lt_succ_of_le (toNat_le_of_le hfield))
  case h_7 =>
    have hlt : tlen.toNat < 17 := Nat.lt_succ_of_le (toNat_le_of_le hfield)
    rw [List.cons_append, List.forall_mem_cons]
    exact ⟨decide_eq_true (UInt8.lt_iff_toNat_lt.mpr hlt),
      emvCopyText_safe trivial hreceived hlt⟩
  case h_8 =>
    exact emvDate_safe hsize trivial trivial trivial Nat.one_pos Nat.one_pos Nat.one_pos
      (hreceived.of_eq hfield)
  case h_9 => exact emvCopyCounted_safe trivial trivial hreceived hbyte Nat.one_pos
  case h_10 => exact emvCopyCounted_safe trivial trivial hreceived hbyte Nat.one_pos
  case h_11 =>
    exact emvCopyText_safe trivial hreceived (Nat.lt_succ_of_le (toNat_le_of_le hfield))
  case h_12 | h_13 =>
    rw [List.forall_mem_append, List.range_eq_range']
    exact ⟨emvTrack2Pan_safe hsize hfield.pan,
      emvTrack2Equiv_safe hsize rfl hfield.digits hfield.received⟩
  case h_14 =>
    have hle : tlen.toNat ≤ 24 := toNat_le_of_le hfield
    split
    · simp
    rw [List.forall_mem_append]
    refine ⟨emvCopyText_safe trivial hreceived (Nat.lt_succ_of_le hle), ?_⟩
    split
    next k hspace =>
      have hk := (List.findIdx?_eq_some_iff_getElem.mp hspace).1
      rw [readBytes_length] at hk
      intro op hop
      obtain rfl := List.mem_singleton.mp hop
      exact safe_writeByte .cardholderName trivial (show k < 25 by omega) 0
    · simp
  case h_15 =>
    exact emvCopyCounted_safe trivial trivial hreceived (toNat_le_of_le hfield) Nat.one_pos
  case h_16 =>
    exact emvDate_safe hsize trivial trivial trivial Nat.one_pos Nat.one_pos Nat.one_pos
      (hreceived.of_eq hfield)
  case h_17 | h_18 | h_20 =>
    exact emvCopy16_safe trivial (hreceived.of_eq hfield) (Nat.le_refl 2)
  case h_19 =>
    have hreceived := hreceived.of_eq hfield
    simp only [List.forall_mem_cons, List.not_mem_nil, false_implies, implies_true, and_true]
    exact ⟨hreceived.mono (by decide), safe_writeByte .logSfi trivial Nat.one_pos _,
      hreceived.shift (k := 1) hsize (by decide) Nat.one_pos,
      safe_writeByte .logRecords trivial Nat.one_pos _⟩
  case h_21 =>
    split
    · exact emvCopy16_safe hactive (hreceived.of_eq hfield) (Nat.le_refl 2)
    · exact emvCopy16_safe trivial (hreceived.of_eq hfield) (Nat.le_refl 2)
  case h_22 => exact emvCopy_safe hactive hreceived (toNat_le_of_le hfield)
  case h_23 | h_24 => exact emvCopy16_safe hactive (hreceived.of_eq hfield) (Nat.le_refl 2)
  case h_25 | h_26 => exact emvCopy_safe hactive hreceived (toNat_le_of_le hfield)
  case h_27 =>
    simp only [List.forall_mem_cons, List.not_mem_nil, false_implies, implies_true, and_true]
    exact ⟨hreceived.of_eq hfield, safe_writeByte .pinTryCounter trivial Nat.one_pos _⟩
  case h_28 => simp

/-! ### The number of the transaction -/

lemma emvActiveTr_of_tlvTag {p : UInt32} {tag : UInt16} {tlen : UInt8} {app app' : EmvMemory}
    (hrun : runEmvOps (emvDecodeTlvTag buff p tag tlen app) app = some app') :
    emvActiveTr app' = emvActiveTr app := by
  by_cases htag : tag.toNat = 0x9F4F
  · simp only [emvDecodeTlvTag, htag, emvCopy, List.cons_append, List.nil_append, runEmvOps,
      EmvOp.run, EmvDest.offset] at hrun
    split_ifs at hrun with hfits
    · have hlt : tlen.toNat < 50 := UInt8.lt_iff_toNat_lt.mp (of_decide_eq_true hfits)
      simp only [Option.bind_some, Option.some.injEq] at hrun
      rw [← hrun, emvActiveTr, emvActiveTr, writeBytes_outside (.inr (Nat.le_refl 53)),
        writeBytes_outside (.inr ?_)]
      rw [readBytes_length]
      show 2 + 0 + tlen.toNat ≤ 53
      omega
    · simp at hrun
  · exact runEmvOps_avoids (emvDecodeTlvTag_avoids (by decide) (by decide) buff p htag tlen app)
      hrun

/-! ### An answer -/

/-- The item at a place of an answer has been received with its header and ends inside the value that
it is part of, and a primitive one fits its field. -/
structure EmvItemFits (buff : EmvMemory) (size : Nat) (p : EmvPlace) : Prop where
  header : p.2.2 < p.2.1 → EmvHeaderFits buff size p.1 p.2.1.toUInt16 p.2.2
  inside : ∀ header ∈ emvItem buff p, header.off.toNat + header.tlen.toNat ≤ p.2.1.toNat
  value  : ∀ header ∈ emvItem buff p, emvConstructed buff p = false →
    EmvValueFits buff size (p.1 + header.off.toUInt32) header.tag header.tlen

/-- The items of an answer that the decoder comes to fit. -/
def EmvAnswerFits (buff : EmvMemory) (size : UInt32) : Prop :=
  ∀ p, ReflTransGen (EmvGoes buff) (0, size.toUInt8, 0) p → EmvItemFits buff size.toNat p

lemma goes_behind {p : EmvPlace} {header : EmvHeader} {n : Nat} {app : EmvMemory}
    {r : Bool × EmvMemory} (hitem : emvItem buff p = some header)
    (hconstructed : emvConstructed buff p = true)
    (hvalue : emvDecodeResponseTlv buff n (p.1 + header.off.toUInt32) header.tlen 0 false app =
      some (.returned r)) : EmvGoes buff p (p.behind header) := by
  have hcompletes : (emvCalls buff).Completes (p.value header) := by
    refine ⟨n, ?_⟩
    rw [EmvPlace.value, ← emvDecodeResponseTlv_eval buff n _ _ _ false app, hvalue]
    rfl
  exact .behind hitem hconstructed (stops_iff_leadsToFailure.not.mp hcompletes.not_stops)

lemma goes_next {p : EmvPlace} {header : EmvHeader} {src : UInt32} {app app' : EmvMemory}
    (hitem : emvItem buff p = some header) (hprimitive : emvConstructed buff p = false)
    (hrun : runEmvOps (emvDecodeTlvTag buff src header.tag header.tlen app) app = some app') :
    EmvGoes buff p (p.behind header) := by
  refine .next hitem hprimitive ?_
  rw [← runEmvOps_tlvTag buff src header.tag header.tlen app, hrun]
  rfl

lemma safe_of_forall {ops : List EmvOp} (h : ∀ op ∈ ops, EmvAccess.Safe (size, op)) :
    ∀ a ∈ ops.map (size, ·), EmvAccess.Safe a := by
  intro a ha
  obtain ⟨op, hop, rfl⟩ := List.mem_map.mp ha
  exact h op hop

lemma emvResponseAccesses_safe {root : EmvPlace} (hsize : size < 2 ^ 32)
    (hfits : ∀ p, ReflTransGen (EmvGoes buff) root p → EmvItemFits buff size p)
    {n : Nat} {base : UInt32} {len i : UInt8} {app : EmvMemory}
    (hreach : ReflTransGen (EmvGoes buff) root (base, len, i))
    (hactive : (emvActiveTr app).toNat < emvTransCount) :
    ∀ a ∈ emvResponseAccesses buff size n base len i app, EmvAccess.Safe a := by
  induction n generalizing base len i app with
  | zero => simp [emvResponseAccesses]
  | succ n ih =>
    have hkeeps (p : UInt32) (tag : UInt16) (tlen : UInt8) (app app' : EmvMemory)
        (h : (emvActiveTr app).toNat < emvTransCount)
        (hrun : runEmvOps (emvDecodeTlvTag buff p tag tlen app) app = some app') :
        (emvActiveTr app').toNat < emvTransCount := by
      rw [emvActiveTr_of_tlvTag hrun]
      exact h
    rw [emvResponseAccesses]
    by_cases hi : i < len
    swap
    · rw [if_neg hi]
      simp
    obtain ⟨hheader, -, hvalue⟩ := hfits _ hreach
    rw [if_pos hi, List.forall_mem_append]
    refine ⟨safe_of_forall (emvParseTagReads_safe hsize hi (hheader hi)), ?_⟩
    cases hparse : emvParseTag buff base len.toUInt16 i with
    | none => simp
    | some header =>
      obtain ⟨tag, tlen, j⟩ := header
      have hitem : emvItem buff (base, len, i) = some ⟨tag, tlen, j⟩ := by
        rw [emvItem, if_pos hi, hparse]
      simp only
      by_cases hcons : (buff (base + i.toUInt32) &&& 32 == 32) = true
      · rw [if_pos hcons, List.forall_mem_append]
        refine ⟨ih (hreach.tail (.value hitem hcons)) hactive, ?_⟩
        split
        next app' hdecoded =>
          exact ih (hreach.tail (goes_behind hitem hcons hdecoded))
            (emvDecodeResponseTlv_keeps hkeeps hactive hdecoded)
        · simp
      · have hprimitive : emvConstructed buff (base, len, i) = false := Bool.eq_false_iff.mpr hcons
        rw [if_neg hcons, List.forall_mem_append]
        refine ⟨safe_of_forall (emvDecodeTlvTag_safe hsize hactive
          (hvalue _ hitem hprimitive)), ?_⟩
        split
        next app' hrun =>
          exact ih (hreach.tail (goes_next hitem hprimitive hrun)) (hkeeps _ _ _ _ _ hactive hrun)
        · simp

/-- The decoder of an answer reports failure for a status word and for nothing else. -/
lemma emvDecodeResponseTlv_false {n : Nat} {base : UInt32} {len i : UInt8} {success : Bool}
    {app app' : EmvMemory}
    (hrun : emvDecodeResponseTlv buff n base len i success app = some (.returned (false, app'))) :
    (¬ i < len ∧ success = false) ∨ emvResponseError buff base len.toUInt16 = true := by
  induction n generalizing i success app with
  | zero => simp [emvDecodeResponseTlv] at hrun
  | succ n ih =>
    rw [emvDecodeResponseTlv] at hrun
    split at hrun
    swap
    · next hi =>
      obtain ⟨hsuccess, -⟩ := Prod.mk.inj (EmvEnd.returned.inj (Option.some.inj hrun))
      exact .inl ⟨hi, hsuccess⟩
    refine .inr ?_
    split at hrun
    next hparse =>
      rw [emvParseTag] at hparse
      by_contra herror
      rw [if_neg herror] at hparse
      cases hparse
    · split at hrun
      · split at hrun
        · cases hrun
        · cases hrun
        · exact (ih hrun).resolve_left fun hnot => Bool.noConfusion hnot.2
      · split at hrun
        · cases hrun
        · exact (ih hrun).resolve_left fun hnot => Bool.noConfusion hnot.2

lemma answerFits_of_false {size : UInt32} {n : Nat} {app app' : EmvMemory}
    (hrun : emvDecodeResponseTlv buff n 0 size.toUInt8 0 false app =
      some (.returned (false, app'))) : EmvAnswerFits buff size := by
  have hnone : emvItem buff (0, size.toUInt8, 0) = none := by
    rw [emvItem]
    rcases emvDecodeResponseTlv_false hrun with ⟨hi, -⟩ | herror
    · rw [if_neg hi]
    · split
      · rw [emvParseTag, if_pos herror]
      · rfl
  intro p hreach
  obtain rfl : p = (0, size.toUInt8, 0) := by
    rcases ReflTransGen.cases_head hreach with heq | ⟨q, hgoes, -⟩
    · exact heq.symm
    · cases hgoes <;> simp_all
  refine ⟨fun hi => ?_, fun header hitem => ?_, fun header hitem => ?_⟩
  · have herror := (emvDecodeResponseTlv_false hrun).resolve_left fun hnot => hnot.1 hi
    rw [EmvHeaderFits, if_pos herror]
    rw [emvResponseError, Bool.and_eq_true, beq_iff_eq] at herror
    have hlen : size.toNat % 256 = 2 := congrArg UInt16.toNat herror.1
    show 0 + 2 ≤ size.toNat
    omega
  · rw [hnone] at hitem
    cases hitem
  · rw [hnone] at hitem
    cases hitem

/-! ### A log record -/

/-- A round of `emv_decode_tl`. -/
def emvRecordNext (buff : EmvMemory) (len : UInt16) (fmtLen : UInt8) :
    UInt8 × UInt8 × EmvMemory → Option (UInt8 × UInt8 × EmvMemory)
  | (i, f, app) =>
    if f < fmtLen && i.toUInt16 < len then
      (emvParseTag app 2 fmtLen.toUInt16 f).bind fun header =>
        (runEmvOps (emvDecodeTlvTag buff i.toUInt32 header.tag header.tlen app) app).map fun app =>
          (i + header.tlen, header.off, app)
    else none

/-- The record is not empty, the headers of the log format are complete, and the items of the record
that the decoder comes to have been received, and fit their fields. -/
def EmvRecordFits (buff : EmvMemory) (len : UInt16) (app : EmvMemory) : Prop :=
  len ≠ 0 ∧ (emvResponseError buff 0 len = false → ∀ i f app',
    ReflTransGen (fun a b => emvRecordNext buff len (emvLogFmtLen app) a = some b) (0, 0, app)
      (i, f, app') → f < emvLogFmtLen app → i.toUInt16 < len →
    EmvHeaderFits app' (2 + (emvLogFmtLen app).toNat) 2 (emvLogFmtLen app).toUInt16 f ∧
    ∀ header ∈ emvParseTag app' 2 (emvLogFmtLen app).toUInt16 f,
      EmvValueFits buff len.toNat i.toUInt32 header.tag header.tlen)

lemma emvDecodeTlLoopAccesses_safe {len : UInt16} {fmtLen : UInt8}
    {first : UInt8 × UInt8 × EmvMemory}
    (hfits : ∀ i f app', ReflTransGen (fun a b => emvRecordNext buff len fmtLen a = some b) first
      (i, f, app') → f < fmtLen → i.toUInt16 < len →
      EmvHeaderFits app' (2 + fmtLen.toNat) 2 fmtLen.toUInt16 f ∧
      ∀ header ∈ emvParseTag app' 2 fmtLen.toUInt16 f,
        EmvValueFits buff len.toNat i.toUInt32 header.tag header.tlen)
    {n : Nat} {i f : UInt8} {app : EmvMemory}
    (hreach : ReflTransGen (fun a b => emvRecordNext buff len fmtLen a = some b) first (i, f, app))
    (hactive : (emvActiveTr app).toNat < emvTransCount) :
    ∀ a ∈ emvDecodeTlLoopAccesses buff len fmtLen n i f app, EmvAccess.Safe a := by
  induction n generalizing i f app with
  | zero => simp [emvDecodeTlLoopAccesses]
  | succ n ih =>
    rw [emvDecodeTlLoopAccesses]
    by_cases hin : (f < fmtLen && i.toUInt16 < len) = true
    swap
    · rw [if_neg hin]
      simp
    have hboth := hin
    rw [Bool.and_eq_true, decide_eq_true_eq, decide_eq_true_eq] at hboth
    obtain ⟨hheader, hvalue⟩ := hfits i f app hreach hboth.1 hboth.2
    have hfmt := fmtLen.toNat_lt
    have hlen := len.toNat_lt
    rw [if_pos hin, List.forall_mem_append]
    refine ⟨safe_of_forall (emvParseTagReads_safe (by omega) hboth.1 hheader), ?_⟩
    cases hparse : emvParseTag app 2 fmtLen.toUInt16 f with
    | none => simp
    | some header =>
      obtain ⟨tag, tlen, g⟩ := header
      simp only [List.forall_mem_append]
      refine ⟨safe_of_forall (emvDecodeTlvTag_safe (by omega) hactive
        (hvalue ⟨tag, tlen, g⟩ hparse)), ?_⟩
      split
      next app' hrun =>
        refine ih (hreach.tail ?_) ?_
        · simp only [emvRecordNext, if_pos hin, hparse, Option.bind_some, hrun, Option.map_some]
        · rw [emvActiveTr_of_tlvTag hrun]
          exact hactive
      · simp

lemma emvDecodeTlAccesses_safe {len : UInt16} {app : EmvMemory} (n : Nat)
    (hfits : EmvRecordFits buff len app) (hactive : (emvActiveTr app).toNat < emvTransCount) :
    ∀ a ∈ emvDecodeTlAccesses buff n len app, EmvAccess.Safe a := by
  have hpos : 0 < len.toNat := by
    refine Nat.pos_of_ne_zero fun hzero => hfits.1 ?_
    exact UInt16.toNat_inj.mp hzero
  rw [emvDecodeTlAccesses]
  by_cases herror : emvResponseError buff 0 len = true
  · have hlen : len.toNat = 2 := by
      rw [emvResponseError, Bool.and_eq_true, beq_iff_eq] at herror
      exact congrArg UInt16.toNat herror.1
    rw [if_pos herror]
    simp only [List.forall_mem_cons, List.not_mem_nil, false_implies, implies_true, and_true]
    refine ⟨.inr ?_, .inr ?_⟩
    · show 0 + 1 ≤ len.toNat
      omega
    · show 1 + 1 ≤ len.toNat
      omega
  · rw [if_neg herror, List.forall_mem_cons]
    refine ⟨.inr ?_, emvDecodeTlLoopAccesses_safe (hfits.2 (Bool.eq_false_iff.mpr herror)) .refl
      hactive⟩
    show 0 + 1 ≤ len.toNat
    omega

/-- The decoder of a log record reports failure in front of a log format that is a status word. -/
lemma emvDecodeTlLoop_false {len : UInt16} {fmtLen : UInt8} {n : Nat} {i f : UInt8}
    {app app' : EmvMemory}
    (hrun : emvDecodeTlLoop buff len fmtLen n i f app = some (.returned (false, app'))) :
    (f < fmtLen && i.toUInt16 < len) = true ∧
      emvResponseError app 2 fmtLen.toUInt16 = true ∧ fmtLen.toNat = 2 := by
  induction n generalizing i f app with
  | zero => simp [emvDecodeTlLoop] at hrun
  | succ n ih =>
    rw [emvDecodeTlLoop] at hrun
    split at hrun
    swap
    · cases hrun
    next hin =>
    split at hrun
    next hparse =>
      have herror : emvResponseError app 2 fmtLen.toUInt16 = true := by
        rw [emvParseTag] at hparse
        by_contra herror
        rw [if_neg herror] at hparse
        cases hparse
      refine ⟨hin, herror, ?_⟩
      rw [emvResponseError, Bool.and_eq_true, beq_iff_eq] at herror
      exact congrArg UInt16.toNat herror.1
    next tag tlen g hparse =>
      split at hrun
      · cases hrun
      -- a format of two bytes has one item
      obtain ⟨hnext, -, htwo⟩ := ih hrun
      rw [Bool.and_eq_true, decide_eq_true_eq, decide_eq_true_eq, UInt8.lt_iff_toNat_lt] at hin hnext
      have hoff := emvParseTag_off (by omega) hparse
      simp only at hoff
      omega

lemma recordFits_of_false {len : UInt16} {n : Nat} {app app' : EmvMemory}
    (hrun : emvDecodeTl buff n len app = some (.returned (false, app'))) :
    EmvRecordFits buff len app := by
  rw [emvDecodeTl] at hrun
  split at hrun
  next herror =>
    refine ⟨?_, fun hnot => ?_⟩
    · rw [emvResponseError, Bool.and_eq_true, beq_iff_eq] at herror
      rw [herror.1]
      decide
    · rw [herror] at hnot
      cases hnot
  · obtain ⟨hin, herror, htwo⟩ := emvDecodeTlLoop_false hrun
    have hparse : emvParseTag app 2 (emvLogFmtLen app).toUInt16 0 = none := by
      rw [emvParseTag, if_pos herror]
    refine ⟨?_, fun _ i f app'' hreach _ _ => ?_⟩
    · rintro rfl
      rw [Bool.and_eq_true, decide_eq_true_eq, decide_eq_true_eq] at hin
      exact absurd hin.2 (by decide)
    · obtain ⟨rfl, rfl, rfl⟩ : 0 = i ∧ 0 = f ∧ app = app'' := by
        rcases ReflTransGen.cases_head hreach with heq | ⟨q, hnext, -⟩
        · simpa using heq
        · simp [emvRecordNext, hparse] at hnext
      refine ⟨?_, fun header hheader => ?_⟩
      · rw [EmvHeaderFits, if_pos herror, htwo]
        decide
      · rw [hparse] at hheader
        cases hheader

/-! ### The PDOL -/

/-- The headers of the PDOL are complete, the answer to it has room for the items, and the default
values have as many bytes as they ask for. -/
def EmvPdolFits (app : EmvMemory) : Prop :=
  ∀ p, ReflTransGen (PdolGoes app) (0, 0) p → p.1 < emvPdolSize app →
    EmvHeaderFits app (675 + (emvPdolSize app).toNat) 675 (emvPdolSize app).toUInt16 p.1 ∧
    ∀ header ∈ pdolItem app p,
      p.2.toNat + header.tlen.toNat < 255 ∧
      ∀ v ∈ pdolValues.find? (·.tag == header.tag), header.tlen.toNat ≤ v.data.length

lemma emvPreparePdolAccesses_safe {app : EmvMemory} (hfits : EmvPdolFits app) {n : Nat}
    {i size : UInt8} (hreach : ReflTransGen (PdolGoes app) (0, 0) (i, size)) :
    ∀ a ∈ emvPreparePdolAccesses app n i size.toNat, EmvAccess.Safe a := by
  induction n generalizing i size with
  | zero => simp [emvPreparePdolAccesses]
  | succ n ih =>
    rw [emvPreparePdolAccesses]
    by_cases hi : i < emvPdolSize app
    swap
    · rw [if_neg hi]
      simp
    obtain ⟨hheader, hvalue⟩ := hfits _ hreach hi
    have hsize := (emvPdolSize app).toNat_lt
    rw [if_pos hi, List.forall_mem_append]
    refine ⟨safe_of_forall (emvParseTagReads_safe (by omega) hi hheader), ?_⟩
    cases hparse : emvParseTag app 675 (emvPdolSize app).toUInt16 i with
    | none => simp
    | some header =>
      obtain ⟨tag, tlen, j⟩ := header
      have hitem : pdolItem app (i, size) = some ⟨tag, tlen, j⟩ := by
        rw [pdolItem, if_pos hi, hparse]
      obtain ⟨hroom, hdefault⟩ := hvalue ⟨tag, tlen, j⟩ hitem
      simp only at hroom hdefault
      have hnext : (size + tlen).toNat = size.toNat + tlen.toNat := by
        rw [UInt8.toNat_add]
        omega
      simp only [List.cons_append, List.forall_mem_cons, List.forall_mem_append, if_pos hroom]
      refine ⟨decide_eq_true hroom, ?_, ?_⟩
      · cases hfind : pdolValues.find? (·.tag == tag) with
        | none => simp
        | some v =>
          simp only [List.forall_mem_cons, List.not_mem_nil, false_implies, implies_true, and_true]
          refine .inr ?_
          show 0 + tlen.toNat ≤ v.data.length
          rw [Nat.zero_add]
          exact hdefault v hfind
      · rw [← hnext]
        exact ih (hreach.tail (.next hitem hroom))

lemma headerFits_of_safe {base : UInt32} {len off : UInt8} (hbase : base.toNat + 256 ≤ 2 ^ 32)
    (hend : size ≤ base.toNat + len.toNat)
    (h : ∀ op ∈ emvParseTagReads buff base len.toUInt16 off, EmvAccess.Safe (size, op)) :
    EmvHeaderFits buff size base len.toUInt16 off := by
  have hlen := len.toNat_lt
  have hread (i : UInt8) (hsafe : EmvAccess.Safe (size, .read (base + i.toUInt32) 1)) :
      base.toNat + i.toNat + 1 ≤ size := by
    have hi := i.toNat_lt
    have hle := hsafe.resolve_left Nat.one_ne_zero
    rw [UInt32.toNat_add, UInt8.toNat_toUInt32] at hle
    omega
  -- an offset that wraps around comes behind a byte that has not been received
  have hsucc (i : UInt8) (hle : base.toNat + i.toNat + 1 ≤ size) :
      (i + 1).toNat = i.toNat + 1 ∨ (i.toNat = 255 ∧ base.toNat + 256 ≤ size) := by
    have hi := i.toNat_lt
    rw [UInt8.toNat_add, UInt8.toNat_one]
    omega
  rw [emvParseTagReads] at h
  rw [EmvHeaderFits]
  by_cases herror : emvResponseError buff base len.toUInt16 = true
  · simp only [if_pos herror, List.forall_mem_cons] at h ⊢
    exact hread 1 h.2.2.1
  · simp only [if_neg herror, List.forall_mem_cons, List.forall_mem_append] at h ⊢
    obtain ⟨hfirst, -, hsecond, hlength, hlong⟩ := h
    have hfirst := hread off hfirst
    rw [emvHeaderSize]
    by_cases htag : (buff (base + off.toUInt32) &&& 31 == 31) = true
    · simp only [if_pos htag, List.forall_mem_cons] at hsecond hlength hlong ⊢
      have hone : (off + 1).toNat = off.toNat + 1 := (hsucc off hfirst).resolve_right (by omega)
      have hplace : (base + off.toUInt32 + 1).toNat = base.toNat + off.toNat + 1 := by
        rw [UInt32.toNat_add, UInt32.toNat_add, UInt8.toNat_toUInt32, UInt32.toNat_one]
        omega
      have hsecond : base.toNat + off.toNat + 1 + 1 ≤ size := by
        have hle := hsecond.1.resolve_left Nat.one_ne_zero
        rwa [hplace] at hle
      have hlength := hread _ hlength
      have htwo := (hsucc (off + 1) (by omega)).resolve_right (by omega)
      split
      next hflag =>
        rw [if_pos hflag] at hlong
        have hlast := hread _ (hlong _ List.mem_cons_self)
        have hthree := (hsucc (off + 1 + 1) (by omega)).resolve_right (by omega)
        omega
      · omega
    · simp only [if_neg htag] at hlength hlong ⊢
      have hlength := hread _ hlength
      have hone := (hsucc off hfirst).resolve_right (by omega)
      split
      next hflag =>
        rw [if_pos hflag] at hlong
        have hlast := hread _ (hlong _ List.mem_cons_self)
        have htwo := (hsucc (off + 1) (by omega)).resolve_right (by omega)
        omega
      · omega

lemma pdolItem_eq_some {app : EmvMemory} {p : PdolPlace} {header : EmvHeader}
    (h : pdolItem app p = some header) : p.1 < emvPdolSize app ∧
      emvParseTag app 675 (emvPdolSize app).toUInt16 p.1 = some header := by
  rw [pdolItem] at h
  split_ifs at h with hi
  exact ⟨hi, h⟩

lemma mem_preparePdolAccesses {app : EmvMemory} {q : PdolPlace} {a : EmvAccess}
    (hreach : ReflTransGen (PdolGoes app) (0, 0) q) {n : Nat}
    (ha : a ∈ emvPreparePdolAccesses app n q.1 q.2.toNat) :
    ∃ m, a ∈ emvPreparePdolAccesses app m 0 0 := by
  induction hreach generalizing n with
  | refl => exact ⟨n, ha⟩
  | @tail p q hreach hgoes ih =>
    obtain ⟨hitem, hroom⟩ := hgoes
    obtain ⟨hi, hparse⟩ := pdolItem_eq_some hitem
    refine ih (n := n + 1) ?_
    rw [emvPreparePdolAccesses, if_pos hi, hparse]
    simp only [if_pos hroom]
    refine List.mem_append_right _ (List.mem_append_right _ ?_)
    rwa [UInt8.toNat_add, Nat.mod_eq_of_lt (by omega)] at ha

lemma pdolFits_of_safe {app : EmvMemory}
    (h : ∀ n, ∀ a ∈ emvPreparePdolAccesses app n 0 0, EmvAccess.Safe a) : EmvPdolFits app := by
  intro p hreach hi
  have hsafe : ∀ a ∈ emvPreparePdolAccesses app 1 p.1 p.2.toNat, EmvAccess.Safe a := by
    intro a ha
    obtain ⟨m, hm⟩ := mem_preparePdolAccesses hreach ha
    exact h m a hm
  rw [emvPreparePdolAccesses, if_pos hi, List.forall_mem_append] at hsafe
  obtain ⟨hreads, hvalue⟩ := hsafe
  refine ⟨headerFits_of_safe (by decide) (Nat.le_refl _) fun op hop =>
    hreads _ (List.mem_map_of_mem hop), fun header hitem => ?_⟩
  rw [(pdolItem_eq_some hitem).2] at hvalue
  simp only [List.cons_append, List.forall_mem_cons, List.forall_mem_append] at hvalue
  obtain ⟨hroom, hdefault, -⟩ := hvalue
  refine ⟨of_decide_eq_true hroom, fun v hfind => ?_⟩
  rw [Option.mem_def.mp hfind] at hdefault
  rcases hdefault _ List.mem_cons_self with hzero | hle
  · omega
  · simpa using hle

/-! ### Runs -/

/-- What the poller does with its data: it decodes an answer or a log record of so many bytes,
answers the PDOL, marks that it reads the log, and goes on to the next record. -/
inductive EmvEvent where
  | response (buff : EmvMemory) (size : UInt32)
  | record (buff : EmvMemory) (size : UInt32)
  | preparePdol
  | savingTransList (saving : UInt8)
  | nextRecord

/-- What an event accesses in at most `n` rounds. -/
def EmvEvent.accesses (app : EmvMemory) (n : Nat) : EmvEvent → List EmvAccess
  | .response buff size => emvResponseAccesses buff size.toNat n 0 size.toUInt8 0 app
  | .record buff size   => emvDecodeTlAccesses buff n size.toUInt16 app
  | .preparePdol        => emvPreparePdolAccesses app n 0 0
  | .savingTransList _  => []
  | .nextRecord         => [(0, .check (emvActiveTr app + 1 < 16))]

/-- What comes from the card is as long as the decoders take it to be. There are at most 15 log
records. -/
def EmvEvent.Fits (app : EmvMemory) : EmvEvent → Prop
  | .response buff size => EmvAnswerFits buff size
  | .record buff size   => EmvRecordFits buff size.toUInt16 app
  | .preparePdol        => EmvPdolFits app
  | .savingTransList _  => True
  | .nextRecord         => emvActiveTr app < 15

/-- The application data after an event that has come to its end. -/
inductive EmvEvent.Next (app : EmvMemory) : EmvEvent → EmvMemory → Prop
  | response {buff app' : EmvMemory} {size : UInt32} {n : Nat} {b : Bool}
    (hrun : emvDecodeResponseTlv buff n 0 size.toUInt8 0 false app = some (.returned (b, app'))) :
    Next app (.response buff size) app'
  | record {buff app' : EmvMemory} {size : UInt32} {n : Nat} {b : Bool}
    (hrun : emvDecodeTl buff n size.toUInt16 app = some (.returned (b, app'))) :
    Next app (.record buff size) app'
  | preparePdol : Next app .preparePdol app
  | savingTransList (saving : UInt8) :
    Next app (.savingTransList saving) (writeBytes app 54 [saving])
  | nextRecord : Next app .nextRecord (writeBytes app 53 [emvActiveTr app + 1])

/-- The application data after events that fit, in any order. -/
inductive EmvFittingRun : EmvMemory → Prop
  | reset : EmvFittingRun fun _ => 0
  | step {app app' : EmvMemory} {e : EmvEvent} (h : EmvFittingRun app) (hfits : e.Fits app)
    (hnext : e.Next app app') : EmvFittingRun app'

lemma EmvFittingRun.activeTr {app : EmvMemory} (h : EmvFittingRun app) :
    (emvActiveTr app).toNat < emvTransCount := by
  induction h with
  | reset => decide
  | @step app _ _ _ hfits hnext ih =>
    have hkeeps (buff : EmvMemory) (p : UInt32) (tag : UInt16) (tlen : UInt8) (app app' : EmvMemory)
        (h : (emvActiveTr app).toNat < emvTransCount)
        (hrun : runEmvOps (emvDecodeTlvTag buff p tag tlen app) app = some app') :
        (emvActiveTr app').toNat < emvTransCount := by
      rw [emvActiveTr_of_tlvTag hrun]
      exact h
    cases hnext with
    | response hrun => exact emvDecodeResponseTlv_keeps (hkeeps _) ih hrun
    | record hrun   => exact emvDecodeTl_keeps (hkeeps _) ih hrun
    | preparePdol   => exact ih
    | savingTransList saving =>
      rw [emvActiveTr, writeBytes_outside (.inl (show (53 : UInt32).toNat < 54 by decide))]
      exact ih
    | nextRecord =>
      have hlt := UInt8.lt_iff_toNat_lt.mp hfits
      have hle := toNat_succ_le (emvActiveTr app)
      have hwritten (app : EmvMemory) (x : UInt8) : emvActiveTr (writeBytes app 53 [x]) = x := rfl
      rw [hwritten]
      exact Nat.lt_of_le_of_lt hle (Nat.succ_lt_succ hlt)

/-- The decoder returns false; `emv_prepare_pdol` leaves nothing in the answer. -/
def EmvEvent.ReportsFailure (app : EmvMemory) : EmvEvent → Prop
  | .response buff size => ∃ n app',
    emvDecodeResponseTlv buff n 0 size.toUInt8 0 false app = some (.returned (false, app'))
  | .record buff size   => ∃ n app',
    emvDecodeTl buff n size.toUInt16 app = some (.returned (false, app'))
  | .preparePdol        => ∃ behind n, emvPreparePdol behind app n 0 [] = some (.returned [])
  | .savingTransList _  => False
  | .nextRecord         => False

/-- All that an event accesses is in bounds, no check fails, and an item that does not fit makes the
decoder report failure. -/
structure EmvEvent.Safe (app : EmvMemory) (e : EmvEvent) : Prop where
  accesses : ∀ n, ∀ a ∈ e.accesses app n, EmvAccess.Safe a
  reports  : ¬ e.Fits app → e.ReportsFailure app

lemma EmvEvent.Fits.accesses {app : EmvMemory} {e : EmvEvent} (hfits : e.Fits app)
    (hactive : (emvActiveTr app).toNat < emvTransCount) (n : Nat) :
    ∀ a ∈ e.accesses app n, EmvAccess.Safe a := by
  cases e with
  | response buff size => exact emvResponseAccesses_safe size.toNat_lt hfits .refl hactive
  | record buff size   => exact emvDecodeTlAccesses_safe n hfits hactive
  | preparePdol        => exact emvPreparePdolAccesses_safe hfits .refl
  | savingTransList _  => simp [EmvEvent.accesses]
  | nextRecord =>
    have hlt : (emvActiveTr app).toNat < 15 := UInt8.lt_iff_toNat_lt.mp hfits
    have hle := toNat_succ_le (emvActiveTr app)
    simp only [EmvEvent.accesses, List.forall_mem_cons, List.not_mem_nil, false_implies,
      implies_true, and_true]
    exact decide_eq_true (UInt8.lt_iff_toNat_lt.mpr (show _ < 16 by omega))

/-- The priority of an application, with a value of one byte. -/
def emvPriorityAnswer : EmvMemory := fun a =>
  if a = 0 then 0x87 else if a = 1 then 1 else if a = 2 then 1 else 0

lemma emvPriorityAnswer_places {q : EmvPlace}
    (h : ReflTransGen (EmvGoes emvPriorityAnswer) (0, 3, 0) q) :
    q = (0, 3, 0) ∨ q = (0, 3, 3) := by
  have hfirst : emvItem emvPriorityAnswer (0, 3, 0) = some ⟨0x87, 1, 2⟩ := rfl
  have hlast : emvItem emvPriorityAnswer (0, 3, 3) = none := rfl
  induction h with
  | refl => exact .inl rfl
  | tail _ hgoes ih =>
    rcases ih with rfl | rfl
    · cases hgoes with
      | value hitem hconstructed    => exact absurd hconstructed (by decide)
      | behind hitem hconstructed _ => exact absurd hconstructed (by decide)
      | next hitem hprimitive hpasses =>
        obtain rfl := Option.some.inj (hfirst.symm.trans hitem)
        exact .inr rfl
    · cases hgoes <;> simp_all

lemma emvPriorityAnswer_fits : EmvAnswerFits emvPriorityAnswer 3 := by
  intro p hreach
  have hfirst : emvItem emvPriorityAnswer (0, 3, 0) = some ⟨0x87, 1, 2⟩ := rfl
  have hlast : emvItem emvPriorityAnswer (0, 3, 3) = none := rfl
  rcases emvPriorityAnswer_places hreach with rfl | rfl
  · refine ⟨fun _ => by rw [EmvHeaderFits]; decide, fun header hitem => ?_, fun header hitem _ => ?_⟩
    · obtain rfl := Option.some.inj (hfirst.symm.trans hitem)
      decide
    · obtain rfl := Option.some.inj (hfirst.symm.trans hitem)
      exact ⟨.inr (by decide), show (1 : UInt8) ≤ 1 by decide⟩
  · refine ⟨fun hi => absurd hi (by decide), fun header hitem => ?_, fun header hitem _ => ?_⟩
    · rw [hlast] at hitem
      cases hitem
    · rw [hlast] at hitem
      cases hitem

/-- An AID of 17 bytes, for which its field has no room. -/
def emvLongAid : EmvMemory := fun a => if a = 0 then 0x4F else if a = 1 then 17 else 0xA0

end FlipperZero.Nfc
