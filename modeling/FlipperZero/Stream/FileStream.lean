import FlipperZero.Foundation.Mealy
import FlipperZero.Foundation.Overwrite
import FlipperZero.Foundation.MachineInt

/-!
# File streams

An open file of the storage service and `file_stream`, the unbuffered stream over it. The
storage calls never fail here: a read returns what is there, a write stores every byte.
Positions and sizes are `size_t`, so they are reported modulo `2 ^ 32`.
-/

namespace FlipperZero

open Foundation

/-- An open file: its bytes and the read/write position, which never lies behind the end. -/
@[ext] structure File where
  content : List UInt8
  pos : Nat
  pos_le : pos ≤ content.length

namespace File

lemma zero_le_length (content : List UInt8) : 0 ≤ content.length := Nat.zero_le _

lemma created_pos_le : 0 ≤ ([] : List UInt8).length := Nat.zero_le _

/-- `storage_file_tell`, as the `size_t` the streams keep. -/
def tell (f : File) : Nat := asUInt32 f.pos

/-- `storage_file_size`, as the `size_t` the streams keep. -/
def size (f : File) : Nat := asUInt32 f.content.length

/-- `storage_file_eof`, which is also the plain stream's `eof`. -/
def eof (f : File) : Bool := f.pos == f.content.length

/-- `storage_file_seek` from the start. The streams limit the offset to the file size. -/
def seek (f : File) (offset : Nat) : File where
  content := f.content
  pos := min offset f.content.length
  pos_le := Nat.min_le_right ..

/-- `storage_file_read`: the bytes at the position, at most `size` of them. -/
def read (f : File) (size : Nat) : List UInt8 × File :=
  ((f.content.drop f.pos).take size,
    { content := f.content
      pos := f.pos + min size (f.content.length - f.pos)
      pos_le := by have := f.pos_le; omega })

/-- `storage_file_write`: overwrites what stands at the position and extends the file. -/
def write (f : File) (data : List UInt8) : Nat × File :=
  (data.length,
    { content := overwrite f.content f.pos data
      pos := f.pos + data.length
      pos_le := by rw [length_overwrite f.pos_le]; omega })

variable (f : File) (n : Nat) (d : List UInt8)

@[simp] lemma seek_content : (f.seek n).content = f.content := rfl

@[simp] lemma read_fst : (f.read n).1 = (f.content.drop f.pos).take n := rfl

@[simp] lemma read_content : (f.read n).2.content = f.content := rfl

@[simp] lemma read_pos : (f.read n).2.pos = f.pos + min n (f.content.length - f.pos) := rfl

@[simp] lemma write_fst : (f.write d).1 = d.length := rfl

@[simp] lemma write_content : (f.write d).2.content = overwrite f.content f.pos d := rfl

@[simp] lemma write_pos : (f.write d).2.pos = f.pos + d.length := rfl

lemma read_read (m n : Nat) : ((f.read m).2.read n).2 = (f.read (m + n)).2 := by
  have := f.pos_le
  refine File.ext rfl ?_
  simp only [read_pos, read_content]
  omega

lemma read_append (m n : Nat) : (f.read m).1 ++ ((f.read m).2.read n).1 = (f.read (m + n)).1 := by
  have := f.pos_le
  simp only [read_fst, read_content, read_pos]
  rw [List.take_add, List.drop_drop]
  by_cases hm : m ≤ f.content.length - f.pos
  · rw [Nat.min_eq_left hm]
  · have hend : f.content.length ≤ f.pos + m := by omega
    rw [Nat.min_eq_right (by omega), Nat.add_sub_cancel' this, List.drop_length,
      List.drop_of_length_le hend]

lemma write_write (d e : List UInt8) : ((f.write d).2.write e).2 = (f.write (d ++ e)).2 := by
  refine File.ext ?_ ?_
  · simp only [write_content, write_pos]
    rw [overwrite_overwrite f.pos_le le_rfl, overwrite_length]
  · simp only [write_pos, List.length_append]
    omega

@[simp] lemma read_zero : (f.read 0).2 = f := File.ext rfl (by simp)

@[simp] lemma write_nil : (f.write []).2 = f := File.ext (by simp) (by simp)

end File

/-- `StreamOffset`: what a seek offset is relative to. -/
inductive StreamOffset where
  | fromCurrent
  | fromStart
  | fromEnd
  deriving DecidableEq, Repr

/-- The position `file_stream_seek` aims at, `none` when it lies below the start. -/
def seekTarget (currentPosition size : Nat) (offset : Int) : StreamOffset → Option Nat
  | .fromCurrent =>
    if 0 ≤ asInt32 (currentPosition + offset) then some (asUInt32 (currentPosition + offset))
    else none
  | .fromStart => if 0 ≤ offset then some (asUInt32 offset) else none
  | .fromEnd =>
    if 0 ≤ asInt32 (size + offset) then some (asUInt32 (size + offset)) else none

/-- Move to the target, limited to the file: the seek fails when a limit was applied. -/
def File.seekLimited (f : File) : Option Nat → Bool × File
  | none   => (false, f.seek 0)
  | some t => if 0 < asInt32 (t - f.size) then (false, f.seek f.size) else (true, f.seek t)

def fileStreamSeek (f : File) (offset : Int) (kind : StreamOffset) : Bool × File :=
  f.seekLimited (seekTarget f.tell f.size offset kind)

/-- The calls of the stream API that a user of a buffered file stream makes. -/
inductive StreamCall where
  | read (size : Nat)
  | write (data : List UInt8)
  | seek (offset : Int32) (kind : StreamOffset)
  | tell
  | size
  | sync
  deriving DecidableEq, Repr

/-- What a call returns: the bytes read (and so their count), a byte count or position, or
success. -/
inductive StreamReply where
  | bytes (data : List UInt8)
  | count (n : Nat)
  | result (ok : Bool)
  deriving DecidableEq, Repr

/-- The plain stream. It has nothing to sync. -/
def fileStreamCall (f : File) : StreamCall → StreamReply × File
  | .read n          => (.bytes (f.read n).1, (f.read n).2)
  | .write d         => (.count (f.write d).1, (f.write d).2)
  | .seek off kind   =>
    (.result (fileStreamSeek f off.toInt kind).1, (fileStreamSeek f off.toInt kind).2)
  | .tell            => (.count f.tell, f)
  | .size            => (.count f.size, f)
  | .sync            => (.result true, f)

/-- `file_stream` as a machine over API calls. -/
def fileStream : Mealy File StreamCall StreamReply where
  step := fileStreamCall

/-! ### Seeking -/

/-- The positions a relative seek of `file_stream` can reach in a file of `size` bytes: the
`int32_t` casts mistake the others for positions outside the file. -/
def Addressable (size t : Nat) : Prop := t < 2147483648 ∧ size ≤ t + 2147483648

instance (size t : Nat) : Decidable (Addressable size t) :=
  inferInstanceAs (Decidable (_ ∧ _))

@[simp] lemma File.seekLimited_content (f : File) (t : Option Nat) :
    (f.seekLimited t).2.content = f.content := by
  cases t with
  | none => rfl
  | some t => simp only [File.seekLimited]; split_ifs <;> rfl

@[simp] lemma fileStreamSeek_content (f : File) (offset : Int) (kind : StreamOffset) :
    (fileStreamSeek f offset kind).2.content = f.content := by
  rw [fileStreamSeek, File.seekLimited_content]

lemma File.seekLimited_congr {f g : File} (h : f.content = g.content) (t : Option Nat) :
    f.seekLimited t = g.seekLimited t := by
  have hseek : ∀ n, f.seek n = g.seek n := fun n => by
    simp only [File.seek, h]
  have hsize : f.size = g.size := by simp only [File.size, h]
  cases t with
  | none => simp only [File.seekLimited, hseek]
  | some t => rw [File.seekLimited, File.seekLimited, hsize, hseek, hseek]

lemma seekTarget_congr {c c' : Nat} {size : Nat} {off off' : Int}
    (h : (c + off - (c' + off')) % 4294967296 = 0) :
    seekTarget c size off .fromCurrent = seekTarget c' size off' .fromCurrent := by
  have hsign : 0 ≤ asInt32 (c + off) ↔ 0 ≤ asInt32 (c' + off') := by
    simp only [asInt32_nonneg_iff]; omega
  simp only [seekTarget, hsign, asUInt32_congr h]

/-- Two relative seeks over the same content that aim at the same position modulo `2 ^ 32`
are the same seek. -/
lemma fileStreamSeek_congr {f g : File} (h : f.content = g.content) {off off' : Int}
    (hpos : (f.pos + off - (g.pos + off')) % 4294967296 = 0) :
    fileStreamSeek f off .fromCurrent = fileStreamSeek g off' .fromCurrent := by
  have hcur : ((f.tell : Int) + off - (g.tell + off')) % 4294967296 = 0 := by
    simp only [File.tell, asUInt32]; omega
  have hsize : f.size = g.size := by simp only [File.size, h]
  rw [fileStreamSeek, fileStreamSeek, hsize, seekTarget_congr hcur, File.seekLimited_congr h]

/-- A relative seek to a position before the start fails and rewinds the file. -/
lemma fileStreamSeek_below {f : File} {off t : Int} (ht : (f.pos + off - t) % 4294967296 = 0)
    (hlo : -2147483648 ≤ t) (hneg : t < 0) :
    fileStreamSeek f off .fromCurrent = (false, f.seek 0) := by
  have htarget : seekTarget f.tell f.size off .fromCurrent = none := by
    have hnot : ¬ 0 ≤ asInt32 (f.tell + off) := by
      rw [asInt32_nonneg_iff]
      simp only [File.tell, asUInt32]
      omega
    simp only [seekTarget, if_neg hnot]
  rw [fileStreamSeek, htarget, File.seekLimited]

lemma fileStreamSeek_current {f : File} {off : Int} {t : Nat}
    (hlen : f.content.length < 4294967296) (ht : (f.pos : Int) + off = t)
    (htle : t ≤ f.content.length) (haddr : Addressable f.content.length t) :
    fileStreamSeek f off .fromCurrent = (true, f.seek t) := by
  obtain ⟨hlo, hhi⟩ := haddr
  have hpos := f.pos_le
  have hcur : (f.tell : Int) + off = t := by rw [File.tell, asUInt32_of_lt (by omega), ht]
  have hsize : f.size = f.content.length := asUInt32_of_lt hlen
  have htarget : seekTarget f.tell f.size off .fromCurrent = some t := by
    have hnonneg : 0 ≤ asInt32 t := asInt32_nonneg_iff.mpr (by omega)
    simp only [seekTarget, hcur, hnonneg, if_true, asUInt32_of_lt (show t < 4294967296 by omega)]
  have hnot : ¬ 0 < asInt32 ((t : Int) - f.size) := by
    rw [asInt32_pos_iff, hsize]; omega
  rw [fileStreamSeek, htarget, File.seekLimited, if_neg hnot]

/-- A relative seek to a position too far before the end goes to the end. -/
lemma fileStreamSeek_far {f : File} {off : Int} {t : Nat}
    (hlen : f.content.length < 4294967296) (ht : (f.pos : Int) + off = t) (htlt : t < 2147483648)
    (hfar : t + 2147483648 < f.content.length) :
    fileStreamSeek f off .fromCurrent = (false, f.seek f.content.length) := by
  have hpos := f.pos_le
  have hcur : (f.tell : Int) + off = t := by rw [File.tell, asUInt32_of_lt (by omega), ht]
  have hsize : f.size = f.content.length := asUInt32_of_lt hlen
  have htarget : seekTarget f.tell f.size off .fromCurrent = some t := by
    have hnonneg : 0 ≤ asInt32 t := asInt32_nonneg_iff.mpr (by omega)
    simp only [seekTarget, hcur, hnonneg, if_true, asUInt32_of_lt (show t < 4294967296 by omega)]
  have hbehind : 0 < asInt32 ((t : Int) - f.size) := by
    rw [asInt32_pos_iff, hsize]; omega
  rw [fileStreamSeek, htarget, File.seekLimited, if_pos hbehind, hsize]

end FlipperZero
