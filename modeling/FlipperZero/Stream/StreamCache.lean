import FlipperZero.Stream.FileStream

/-!
# The stream cache

A window of at most 1024 bytes over a stream, with a position inside it. The cache itself does
not know whether it holds bytes that were read ahead or bytes that still have to be written.
-/

namespace FlipperZero

open Foundation

def streamCacheMaxSize : Nat := 1024

/-- The cache: `data` is the valid part of the buffer, of `data_size` bytes. -/
@[ext] structure StreamCache where
  data : List UInt8
  position : Nat
  data_le : data.length ≤ streamCacheMaxSize
  position_le : position ≤ data.length

namespace StreamCache

/-- `stream_cache_drop`, also the state after `stream_cache_alloc`. -/
def empty : StreamCache where
  data := []
  position := 0
  data_le := Nat.zero_le _
  position_le := Nat.zero_le _

def atEnd (c : StreamCache) : Bool := c.data.length == c.position

/-- `stream_cache_fill`: read ahead from the stream. -/
def fill (f : File) : Nat × StreamCache × File :=
  let r := f.read streamCacheMaxSize
  (r.1.length,
    { data := r.1
      position := 0
      data_le := List.length_take_le ..
      position_le := Nat.zero_le _ },
    r.2)

/-- `stream_cache_flush`: write the data to the stream and drop it. -/
def flush (c : StreamCache) (f : File) : Bool × StreamCache × File :=
  let r := f.write c.data
  (r.1 == c.data.length, empty, r.2)

/-- `stream_cache_read`: take bytes from the position on. -/
def read (c : StreamCache) (size : Nat) : List UInt8 × StreamCache :=
  let sizeRead := min size (c.data.length - c.position)
  ((c.data.drop c.position).take sizeRead,
    { data := c.data
      position := c.position + sizeRead
      data_le := c.data_le
      position_le := by have := c.position_le; omega })

/-- `stream_cache_write`: store as many bytes as fit behind the position. -/
def write (c : StreamCache) (data : List UInt8) : Nat × StreamCache :=
  let sizeWritten := min data.length (streamCacheMaxSize - c.position)
  (sizeWritten,
    { data := overwrite c.data c.position (data.take sizeWritten)
      position := c.position + sizeWritten
      data_le := by
        have hd := c.data_le
        have hp := c.position_le
        rw [length_overwrite hp, List.length_take]
        omega
      position_le := by
        rw [length_overwrite c.position_le, List.length_take]
        omega })

/-- `stream_cache_seek`: move inside the cache as far as it goes; the offset that was made. -/
def seek (c : StreamCache) (offset : Int) : Int × StreamCache :=
  let actualOffset :=
    if 0 < offset then min ((c.data.length - c.position : Nat) : Int) offset
    else if offset < 0 then max (-(c.position : Int)) offset
    else 0
  (actualOffset,
    { data := c.data
      position := (c.position + actualOffset).toNat
      data_le := c.data_le
      position_le := by
        have := c.position_le
        simp only [actualOffset]
        split_ifs <;> omega })

variable (c : StreamCache) (f : File) (n : Nat) (d : List UInt8) (off : Int)

@[simp] lemma empty_data : empty.data = [] := rfl

@[simp] lemma empty_position : empty.position = 0 := rfl

@[simp] lemma fill_fst : (fill f).1 = ((f.content.drop f.pos).take streamCacheMaxSize).length := rfl

@[simp] lemma fill_data :
    (fill f).2.1.data = (f.content.drop f.pos).take streamCacheMaxSize := rfl

@[simp] lemma fill_position : (fill f).2.1.position = 0 := rfl

@[simp] lemma fill_file : (fill f).2.2 = (f.read streamCacheMaxSize).2 := rfl

@[simp] lemma flush_eq : c.flush f = (true, empty, (f.write c.data).2) := by
  simp [flush]

@[simp] lemma read_fst :
    (c.read n).1 = (c.data.drop c.position).take (min n (c.data.length - c.position)) := rfl

@[simp] lemma read_data : (c.read n).2.data = c.data := rfl

@[simp] lemma read_position :
    (c.read n).2.position = c.position + min n (c.data.length - c.position) := rfl

@[simp] lemma write_fst : (c.write d).1 = min d.length (streamCacheMaxSize - c.position) := rfl

@[simp] lemma write_data : (c.write d).2.data =
    overwrite c.data c.position (d.take (min d.length (streamCacheMaxSize - c.position))) := rfl

@[simp] lemma write_position : (c.write d).2.position =
    c.position + min d.length (streamCacheMaxSize - c.position) := rfl

@[simp] lemma seek_data : (c.seek off).2.data = c.data := rfl

@[simp] lemma seek_position : ((c.seek off).2.position : Int) = c.position + (c.seek off).1 := by
  have := c.position_le
  simp only [seek]
  split_ifs <;> omega

/-- The cache moves by the whole offset when the target lies inside it. -/
lemma seek_inside (hlo : -(c.position : Int) ≤ off) (hhi : off ≤ c.data.length - c.position) :
    (c.seek off).1 = off := by
  have := c.position_le
  simp only [seek]
  split_ifs <;> omega

lemma seek_forward (h : (c.data.length : Int) - c.position < off) :
    (c.seek off).1 = c.data.length - c.position := by
  have := c.position_le
  simp only [seek]
  split_ifs <;> omega

lemma seek_backward (h : off < -(c.position : Int)) : (c.seek off).1 = -c.position := by
  have := c.position_le
  simp only [seek]
  split_ifs <;> omega

end StreamCache

end FlipperZero
