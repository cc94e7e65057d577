import FlipperZero.Stream.StreamCache

/-!
# Buffered file streams

`buffered_file_stream`: a file stream behind a cache. While `syncPending` is false the cache
holds bytes read ahead and the file position stands behind them; while it is true the cache
holds bytes not written yet and the file position stands before them.
-/

namespace FlipperZero

open Foundation

structure BufferedFileStream where
  file : File
  cache : StreamCache
  syncPending : Bool

namespace BufferedFileStream

/-- The stream right after it was opened on a file. -/
def opened (f : File) : BufferedFileStream where
  file := f
  cache := .empty
  syncPending := false

/-- `buffered_file_stream_flush`: write the cache to the file and move the file position to
where the cache position was. -/
def flush (b : BufferedFileStream) : Bool × BufferedFileStream :=
  let offset : Int := asInt32 (b.cache.data.length - b.cache.position)
  let (written, cache, file) := b.cache.flush b.file
  if !written then (false, ⟨file, cache, false⟩)
  else if 0 < offset then
    let (success, file) := fileStreamSeek file (-offset) .fromCurrent
    (success, ⟨file, cache, false⟩)
  else (true, ⟨file, cache, false⟩)

/-- `buffered_file_stream_unread`: forget what was read ahead and move the file position back
over it. -/
def unread (b : BufferedFileStream) : Bool × BufferedFileStream :=
  if 0 < b.cache.data.length then
    if b.cache.position < b.cache.data.length then
      let offset : Int := asInt32 (b.cache.data.length - b.cache.position)
      let (success, file) := fileStreamSeek b.file (-offset) .fromCurrent
      (success, ⟨file, .empty, b.syncPending⟩)
    else (true, ⟨b.file, .empty, b.syncPending⟩)
  else (true, b)

def sync (b : BufferedFileStream) : Bool × BufferedFileStream :=
  if b.syncPending then b.flush else (true, b)

/-- The part of `buffered_file_stream_seek` that leaves the cache: write it or drop it, then
seek in the file. -/
def seekFile (b : BufferedFileStream) (newOffset : Int) (kind : StreamOffset) :
    Bool × BufferedFileStream :=
  let r := if b.syncPending then b.sync else (true, { b with cache := .empty })
  if r.1 then
    let (success, file) := fileStreamSeek r.2.file newOffset kind
    (success, { r.2 with file := file })
  else (false, r.2)

/-- `buffered_file_stream_seek`: a relative seek tries the cache first and hands the rest of
the offset to the file. -/
def seek (b : BufferedFileStream) (offset : Int) : StreamOffset → Bool × BufferedFileStream
  | .fromCurrent =>
    let (actualOffset, cache) := b.cache.seek offset
    let rest := asInt32 (offset - actualOffset)
    let newOffset := if rest < 0 then asInt32 (rest - cache.data.length) else rest
    if newOffset ≠ 0 then seekFile { b with cache := cache } newOffset .fromCurrent
    else (true, { b with cache := cache })
  | .fromStart => b.seekFile offset .fromStart
  | .fromEnd   => b.seekFile offset .fromEnd

def tell (b : BufferedFileStream) : Nat :=
  if b.syncPending then asUInt32 (b.file.tell + b.cache.position)
  else asUInt32 (b.file.tell + b.cache.position - b.cache.data.length)

def size (b : BufferedFileStream) : Nat :=
  let size := b.file.size
  if b.syncPending then
    let remainingSize := asUInt32 (size - b.file.tell)
    let cacheSize := b.cache.data.length
    if remainingSize < cacheSize then asUInt32 (size + (cacheSize - remainingSize)) else size
  else size

/-- `buffered_file_stream_eof`. While a write is pending the cache size is compared with the
value of a boolean. -/
def eof (b : BufferedFileStream) : Bool :=
  let fileStreamEof := b.file.eof
  let cacheAtEnd := b.cache.atEnd
  if !b.syncPending then fileStreamEof && cacheAtEnd
  else
    let remainingSize := asUInt32 (b.file.size - b.file.tell)
    decide (b.cache.data.length ≥
      (if remainingSize ≠ 0 then cacheAtEnd else fileStreamEof).toNat)

/-- The loop of `buffered_file_stream_write` over the bytes still to be written. It returns how
many of them are left. -/
def writeLoop (b : BufferedFileStream) (data : List UInt8) : Nat × BufferedFileStream :=
  if data = [] then (0, b)
  else
    let written := (b.cache.write data).1
    let cache := (b.cache.write data).2
    if (data.drop written) = [] then (0, ⟨b.file, cache, true⟩)
    else
      let r := cache.flush b.file
      if r.1 then writeLoop ⟨r.2.2, r.2.1, false⟩ (data.drop written)
      else ((data.drop written).length, ⟨r.2.2, r.2.1, false⟩)
termination_by 2 * data.length + if b.cache.position < streamCacheMaxSize then 0 else 1
decreasing_by
  -- A round stores something, or finds the cache full and empties it.
  have hne : 0 < data.length := List.length_pos_iff.mpr ‹_›
  have hmax : streamCacheMaxSize = 1024 := rfl
  simp only [List.length_drop, StreamCache.write_fst, StreamCache.flush_eq,
    StreamCache.empty_position]
  split_ifs <;> omega

def write (b : BufferedFileStream) (data : List UInt8) : Nat × BufferedFileStream :=
  let (success, b) := if b.syncPending then (true, b) else b.unread
  if success then
    let (left, b) := b.writeLoop data
    (data.length - left, b)
  else (0, b)

/-- The end of one round of the read loop: flush a pending write, then read ahead. -/
def refill (b : BufferedFileStream) : Nat × BufferedFileStream :=
  let (success, b) := if b.syncPending then b.flush else (true, b)
  if success then
    let (n, cache, file) := StreamCache.fill b.file
    (n, { b with cache := cache, file := file })
  else (0, b)

lemma refill_fst_le (b : BufferedFileStream) (h : 0 < b.refill.1) :
    b.refill.2.cache.position < b.refill.2.cache.data.length := by
  revert h
  simp only [refill]
  split_ifs <;> simp

/-- The loop of `buffered_file_stream_read`. -/
def read (b : BufferedFileStream) (size : Nat) : List UInt8 × BufferedFileStream :=
  if size = 0 then ([], b)
  else
    let bytes := (b.cache.read size).1
    let b' : BufferedFileStream := { b with cache := (b.cache.read size).2 }
    if size - bytes.length = 0 then (bytes, b')
    else if 0 < b'.refill.1 then
      let r := read b'.refill.2 (size - bytes.length)
      (bytes ++ r.1, r.2)
    else (bytes, b'.refill.2)
termination_by 2 * size + if b.cache.position < b.cache.data.length then 0 else 1
decreasing_by
  -- A round takes something from the cache, or finds it exhausted and fills it.
  rw [if_pos (refill_fst_le _ ‹_›)]
  simp only [StreamCache.read_fst, List.length_take, List.length_drop]
  split_ifs <;> omega

end BufferedFileStream

/-- The buffered stream behind the API. -/
def bufferedFileStreamCall (b : BufferedFileStream) :
    StreamCall → StreamReply × BufferedFileStream
  | .read n        => (.bytes (b.read n).1, (b.read n).2)
  | .write d       => (.count (b.write d).1, (b.write d).2)
  | .seek off kind => (.result (b.seek off.toInt kind).1, (b.seek off.toInt kind).2)
  | .tell          => (.count b.tell, b)
  | .size          => (.count b.size, b)
  | .sync          => (.result b.sync.1, b.sync.2)

/-- `buffered_file_stream` as a machine over API calls. -/
def bufferedFileStream : Mealy BufferedFileStream StreamCall StreamReply where
  step := bufferedFileStreamCall

end FlipperZero
