import FlipperZero.Stream.DeleteAndInsert
import FlipperZero.Stream.Refinement

/-!
# The streams as texts with a position

A search in a stream calls it through its table of functions. A view says which text and position a
state of the stream shows, and how seeks and reads change them. There is one of the plain file
stream, one of the buffered one, also with a write pending, and one of the string stream.
-/

namespace FlipperZero

open Foundation

/-- The functions of `StreamVTable` that a search uses. -/
structure StreamVTable (σ : Type) where
  seek : σ → Int → StreamOffset → Bool × σ
  tell : σ → Nat
  read : σ → Nat → List UInt8 × σ

/-- What a state of a stream shows, for texts below 2 GiB. A seek back is one over bytes that have
just been read. -/
structure StreamView {σ : Type} (V : StreamVTable σ) where
  Shows : σ → List UInt8 → Nat → Prop
  pos_le : ∀ {s content pos}, Shows s content pos → pos ≤ content.length
  small : ∀ {s content pos}, Shows s content pos → content.length < 2147483648
  tell : ∀ {s content pos}, Shows s content pos → V.tell s = pos
  read : ∀ {s content pos}, Shows s content pos → ∀ n,
    (V.read s n).1 = (content.drop pos).take n ∧
      Shows (V.read s n).2 content (pos + ((content.drop pos).take n).length)
  seekStart : ∀ {s content pos}, Shows s content pos → ∀ t : Nat, t ≤ content.length →
    (V.seek s t .fromStart).1 = true ∧ Shows (V.seek s t .fromStart).2 content t
  seekNext : ∀ {s content pos}, Shows s content pos → pos < content.length →
    (V.seek s 1 .fromCurrent).1 = true ∧ Shows (V.seek s 1 .fromCurrent).2 content (pos + 1)
  seekEnd : ∀ {s content pos}, Shows s content pos → pos = content.length →
    (V.seek s 1 .fromCurrent).1 = false ∧ ∃ p, Shows (V.seek s 1 .fromCurrent).2 content p
  seekBack : ∀ {s content pos}, Shows s content pos → ∀ n i : Nat, i ≤ (V.read s n).1.length →
    Shows (V.seek (V.read s n).2 (i - (V.read s n).1.length) .fromCurrent).2 content (pos + i)

/-! ### File streams -/

def fileStreamVtable : StreamVTable File where
  seek := fileStreamSeek
  tell := File.tell
  read := File.read

/-- A file shows its content. -/
structure File.Shows (f : File) (content : List UInt8) (pos : Nat) : Prop where
  content_eq : f.content = content
  pos_eq : f.pos = pos
  small : content.length < 2147483648

namespace File.Shows

variable {f : File} {content : List UInt8} {pos : Nat}

lemma seek (h : f.Shows content pos) {t : Nat} (ht : t ≤ content.length) :
    (f.seek t).Shows content t where
  content_eq := h.content_eq
  pos_eq := Nat.min_eq_left (by rw [h.content_eq]; exact ht)
  small := h.small

lemma tell (h : f.Shows content pos) : f.tell = pos := by
  have hle := f.pos_le
  rw [h.content_eq] at hle
  rw [File.tell, asUInt32_of_lt (Nat.lt_of_le_of_lt hle (h.small.trans (by decide))), h.pos_eq]

lemma read (h : f.Shows content pos) (n : Nat) :
    (f.read n).1 = (content.drop pos).take n ∧
      (f.read n).2.Shows content (pos + ((content.drop pos).take n).length) := by
  obtain ⟨rfl, rfl, hsmall⟩ := h
  refine ⟨rfl, rfl, ?_, hsmall⟩
  rw [File.read_pos, List.length_take, List.length_drop]

lemma seek_current (h : f.Shows content pos) {off : Int} {t : Nat} (ht : (pos : Int) + off = t)
    (htle : t ≤ content.length) : fileStreamSeek f off .fromCurrent = (true, f.seek t) := by
  obtain ⟨rfl, rfl, hsmall⟩ := h
  exact fileStreamSeek_current (by omega) ht htle ⟨by omega, by omega⟩

lemma seek_start (h : f.Shows content pos) {t : Nat} (ht : t ≤ content.length) :
    fileStreamSeek f t .fromStart = (true, f.seek t) := by
  obtain ⟨rfl, rfl, hsmall⟩ := h
  rw [fileStreamSeek_start (by omega) ht, if_pos (by omega)]

lemma seek_end (h : f.Shows content pos) (hend : pos = content.length) :
    (fileStreamSeek f 1 .fromCurrent).1 = false ∧
      ∃ p, (fileStreamSeek f 1 .fromCurrent).2.Shows content p := by
  obtain ⟨rfl, rfl, hsmall⟩ := h
  have hfalse : (fileStreamSeek f 1 .fromCurrent).1 = false := by
    have htell : f.tell = f.content.length := by
      rw [File.tell, hend, asUInt32_of_lt (hsmall.trans (by decide))]
    have hsize : f.size = f.content.length := asUInt32_of_lt (hsmall.trans (by decide))
    have hnext : asUInt32 ((f.content.length : Int) + 1) = f.content.length + 1 :=
      asUInt32_eq (by omega) (by omega)
    rw [fileStreamSeek, htell, hsize]
    simp only [seekTarget, hnext]
    split_ifs with hsign
    · rw [File.seekLimited, hsize, if_pos]
      rw [asInt32_pos_iff]
      omega
    · rfl
  exact ⟨hfalse, _, fileStreamSeek_content _ _ _, rfl, hsmall⟩

lemma seek_back (h : f.Shows content pos) (n : Nat) {i : Nat} (hi : i ≤ (f.read n).1.length) :
    fileStreamSeek (f.read n).2 (i - ((f.read n).1.length : Int)) .fromCurrent =
        (true, (f.read n).2.seek (pos + i)) ∧
      pos + i ≤ content.length := by
  obtain ⟨hbytes, hread⟩ := h.read n
  rw [hbytes] at hi ⊢
  have hle : pos + ((content.drop pos).take n).length ≤ content.length := by
    have hend := (f.read n).2.pos_le
    rwa [hread.content_eq, hread.pos_eq] at hend
  exact ⟨hread.seek_current (by omega) (by omega), by omega⟩

end File.Shows

def fileStreamView : StreamView fileStreamVtable where
  Shows := File.Shows
  pos_le := by
    rintro f content pos ⟨rfl, rfl, -⟩
    exact f.pos_le
  small h := h.small
  tell h := h.tell
  read h := h.read
  seekStart h t ht := by
    have hseek := h.seek_start ht
    exact ⟨congrArg Prod.fst hseek, (congrArg Prod.snd hseek).symm ▸ h.seek ht⟩
  seekNext h hlt := by
    have hseek := h.seek_current (Int.natCast_succ _).symm hlt
    exact ⟨congrArg Prod.fst hseek, (congrArg Prod.snd hseek).symm ▸ h.seek hlt⟩
  seekEnd h := h.seek_end
  seekBack h n i hi := by
    obtain ⟨hseek, hle⟩ := h.seek_back n hi
    exact (congrArg Prod.snd hseek).symm ▸ (h.read n).2.seek hle

/-! ### Buffered file streams -/

def bufferedFileStreamVtable : StreamVTable BufferedFileStream where
  seek := BufferedFileStream.seek
  tell := BufferedFileStream.tell
  read := BufferedFileStream.read

def BufferedFileStream.Shows (b : BufferedFileStream) (content : List UInt8) (pos : Nat) : Prop :=
  ∃ f, Represents b f ∧ f.Shows content pos

namespace BufferedFileStream

lemma syncPending_refill (b : BufferedFileStream) : b.refill.2.syncPending = false := by
  rw [refill]
  cases hpending : b.syncPending with
  | false => simpa using hpending
  | true => simp [flush]; split_ifs <;> rfl

lemma syncPending_read (b : BufferedFileStream) (n : Nat) (h : b.syncPending = false) :
    (b.read n).2.syncPending = false := by
  fun_induction read b n with
  | case1 b => exact h
  | case2 b n hn bytes b' hdone => exact h
  | case3 b n hn bytes b' hmore hrefill r ih => exact ih b'.syncPending_refill
  | case4 b n hn bytes b' hmore hrefill => exact b'.syncPending_refill

lemma length_read_le (b : BufferedFileStream) (n : Nat) (h : (b.read n).2.syncPending = true) :
    (b.read n).1.length ≤ (b.read n).2.cache.position := by
  revert h
  fun_cases read b n with
  | case1 => exact fun _ => Nat.zero_le _
  | case2 hn bytes b' hdone =>
    intro _
    simp only [bytes, b', StreamCache.read_fst, StreamCache.read_position, List.length_take,
      List.length_drop]
    omega
  | case3 hn bytes b' hmore hrefill r =>
    intro h
    rw [show r.2.syncPending = false from syncPending_read _ _ b'.syncPending_refill] at h
    cases h
  | case4 hn bytes b' hmore hrefill =>
    intro h
    rw [b'.syncPending_refill] at h
    cases h

end BufferedFileStream

variable {b : BufferedFileStream} {f : File} {content : List UInt8} {pos : Nat}

/-- In a file below 2 GiB all seeks inside the cache reach their targets. -/
lemma Represents.inCache_addressable (h : Represents b f) (hf : f.Shows content pos) {off : Int}
    (hin : b.InCache off) : Addressable b.totalSize (b.position + off).toNat := by
  obtain ⟨-, hhigh⟩ := h.inCache_bounds hin
  have hsmall := hf.small
  rw [hf.content_eq] at hhigh
  rw [h.totalSize_eq, h.position_eq, hf.content_eq]
  exact ⟨by omega, by omega⟩

lemma Represents.seek_next (h : Represents b f) (hf : f.Shows content pos) :
    (b.seek 1 .fromCurrent).1 = (fileStreamSeek f 1 .fromCurrent).1 ∧
      Represents (b.seek 1 .fromCurrent).2 (fileStreamSeek f 1 .fromCurrent).2 := by
  by_cases hin : b.InCache 1
  · exact h.seek_inCache hin (h.inCache_addressable hf hin)
  · refine h.seek_forward (by decide) (Int.not_le.mp fun hle => hin ⟨by omega, hle⟩)

lemma Represents.seek_start (h : Represents b f) (hf : f.Shows content pos) (off : Int) :
    (b.seek off .fromStart).1 = (fileStreamSeek f off .fromStart).1 ∧
      Represents (b.seek off .fromStart).2 (fileStreamSeek f off .fromStart).2 := by
  refine h.seek_absolute off (by decide) fun _ _ => ?_
  have hle := f.pos_le
  have hsmall := hf.small
  rw [hf.content_eq] at hle
  rw [h.totalSize_eq, h.position_eq, hf.content_eq]
  exact ⟨by omega, by omega⟩

lemma Represents.seek_back (h : Represents b f) (hf : f.Shows content pos) {n i : Nat}
    (hi : i ≤ (b.read n).1.length) :
    Represents ((b.read n).2.seek (i - ((b.read n).1.length : Int)) .fromCurrent).2
      (fileStreamSeek (f.read n).2 (i - ((b.read n).1.length : Int)) .fromCurrent).2 := by
  obtain ⟨hbytes, hread⟩ := h.read n
  have hshows := (hf.read n).2
  by_cases hin : (b.read n).2.InCache (i - ((b.read n).1.length : Int))
  · exact (hread.seek_inCache hin (hread.inCache_addressable hshows hin)).2
  · have hout : (i : Int) - (b.read n).1.length < -((b.read n).2.cache.position : Int) := by
      have hle := (b.read n).2.cache.position_le
      by_contra hge
      exact hin ⟨Int.not_lt.mp hge, by omega⟩
    have hlength : (b.read n).1.length ≤ content.length := by
      rw [hbytes, (hf.read n).1, List.length_take, List.length_drop]
      omega
    have hsmall := hf.small
    refine (hread.seek_backward (by omega) hout fun hpending => ?_).2
    have hcached := b.length_read_le n hpending
    omega

def bufferedFileStreamView : StreamView bufferedFileStreamVtable where
  Shows := BufferedFileStream.Shows
  pos_le := fun ⟨_, _, hf⟩ => fileStreamView.pos_le hf
  small := fun ⟨_, _, hf⟩ => hf.small
  tell := fun ⟨_, h, hf⟩ => h.tell.trans hf.tell
  read := fun ⟨_, h, hf⟩ n =>
    ⟨(h.read n).1.trans (hf.read n).1, _, (h.read n).2, (hf.read n).2⟩
  seekStart := fun ⟨_, h, hf⟩ t ht =>
    ⟨(h.seek_start hf t).1.trans (fileStreamView.seekStart hf t ht).1, _, (h.seek_start hf t).2,
      (fileStreamView.seekStart hf t ht).2⟩
  seekNext := fun ⟨_, h, hf⟩ hlt =>
    ⟨(h.seek_next hf).1.trans (fileStreamView.seekNext hf hlt).1, _, (h.seek_next hf).2,
      (fileStreamView.seekNext hf hlt).2⟩
  seekEnd := fun ⟨_, h, hf⟩ hend =>
    ⟨(h.seek_next hf).1.trans (hf.seek_end hend).1, (hf.seek_end hend).2.imp fun _ hshows =>
      ⟨_, (h.seek_next hf).2, hshows⟩⟩
  seekBack := by
    rintro b content pos ⟨f, h, hf⟩ n i hi
    have hlength : (b.read n).1 = (f.read n).1 := (h.read n).1
    refine ⟨_, h.seek_back hf hi, ?_⟩
    rw [hlength]
    exact fileStreamView.seekBack hf n i (hlength ▸ hi)

/-! ### String streams -/

def stringStreamVtable (σ : Type) [FuriString σ] : StreamVTable (StringStream σ) where
  seek := StringStream.seek
  tell := StringStream.tell
  read := StringStream.read

/-- A string stream shows its string. -/
structure StringStream.Shows {σ : Type} [FuriString σ] (s : StringStream σ) (content : List UInt8)
    (pos : Nat) : Prop where
  content_eq : FuriString.bytes s.string = content
  pos_eq : s.index = pos
  small : content.length < 2147483648

namespace StringStream.Shows

variable {σ : Type} [FuriString σ] {s : StringStream σ}

lemma pos_le (h : s.Shows content pos) : pos ≤ content.length := by
  obtain ⟨rfl, rfl, -⟩ := h
  exact s.index_le

lemma size (h : s.Shows content pos) : s.size = content.length := congrArg List.length h.content_eq

lemma seek_inside (h : s.Shows content pos) {off : Int} {kind : StreamOffset} {t : Nat}
    (ht : s.seekTarget off kind = some t) (htle : t ≤ content.length) :
    (s.seek off kind).1 = true ∧ (s.seek off kind).2.Shows content t := by
  have hsize := h.size
  rw [StringStream.seek, ht]
  simp only [if_neg (show ¬s.size < t by omega)]
  exact ⟨trivial, h.content_eq, Nat.min_eq_left (by omega), h.small⟩

lemma seek_current (h : s.Shows content pos) {off : Int} {t : Nat} (ht : (pos : Int) + off = t)
    (htle : t ≤ content.length) :
    (s.seek off .fromCurrent).1 = true ∧ (s.seek off .fromCurrent).2.Shows content t := by
  refine h.seek_inside ?_ htle
  have hpos := h.pos_eq
  simp only [StringStream.seekTarget]
  rw [if_pos (by omega), hpos, ht, Int.toNat_natCast]

lemma seek_end (h : s.Shows content pos) (hend : pos = content.length) :
    (s.seek 1 .fromCurrent).1 = false ∧ ∃ p, (s.seek 1 .fromCurrent).2.Shows content p := by
  have hsize := h.size
  have hpos := h.pos_eq
  have htarget : s.seekTarget 1 .fromCurrent = some (content.length + 1) := by
    simp only [StringStream.seekTarget]
    rw [if_pos (by omega), hpos, hend, ← Int.natCast_succ, Int.toNat_natCast]
  rw [StringStream.seek, htarget]
  simp only [if_pos (show s.size < content.length + 1 by omega)]
  exact ⟨trivial, s.size, h.content_eq, rfl, h.small⟩

lemma eof_iff (h : s.Shows content pos) : s.eof = true ↔ content.length ≤ pos := by
  rw [StringStream.eof, decide_eq_true_iff, StringStream.tell, h.size, h.pos_eq]

lemma readLoop (h : s.Shows content pos) (hlt : pos < content.length) (n : Nat) :
    (s.readLoop n).1 = (content.drop pos).take n ∧
      (s.readLoop n).2.Shows content (pos + ((content.drop pos).take n).length) := by
  induction n generalizing s pos with
  | zero =>
    rw [List.take_zero]
    exact ⟨rfl, h⟩
  | succ n ih =>
    have hchar : (FuriString.bytes s.string).getD s.index 0 = content[pos] := by
      rw [h.content_eq, h.pos_eq, List.getD_eq_getElem?_getD, List.getElem?_eq_getElem hlt,
        Option.getD_some]
    have hdrop : content.drop pos = content[pos] :: content.drop (pos + 1) :=
      List.drop_eq_getElem_cons hlt
    have hnext := (h.seek_current (Int.natCast_succ pos).symm hlt).2
    rw [StringStream.readLoop, hchar, hdrop, List.take_succ_cons, List.length_cons]
    by_cases hend : (s.seek 1 .fromCurrent).2.eof = true
    · have hempty : content.drop (pos + 1) = [] := List.drop_eq_nil_of_le (hnext.eof_iff.mp hend)
      rw [hempty, List.take_nil]
      simp only [if_pos hend]
      exact ⟨trivial, hnext⟩
    · obtain ⟨hbytes, hrest⟩ := ih hnext (Nat.lt_of_not_le fun hle => hend (hnext.eof_iff.mpr hle))
      simp only [if_neg hend, hbytes]
      refine ⟨trivial, ?_⟩
      rwa [Nat.succ_add_eq_add_succ] at hrest

lemma read (h : s.Shows content pos) (n : Nat) :
    (s.read n).1 = (content.drop pos).take n ∧
      (s.read n).2.Shows content (pos + ((content.drop pos).take n).length) := by
  rw [StringStream.read]
  by_cases hend : s.eof = true
  · rw [if_pos hend, List.drop_eq_nil_of_le (h.eof_iff.mp hend), List.take_nil]
    exact ⟨rfl, h⟩
  · rw [if_neg hend]
    exact h.readLoop (Nat.lt_of_not_le fun hle => hend (h.eof_iff.mpr hle)) n

end StringStream.Shows

def stringStreamView (σ : Type) [FuriString σ] : StreamView (stringStreamVtable σ) where
  Shows := StringStream.Shows
  pos_le h := h.pos_le
  small h := h.small
  tell h := h.pos_eq
  read h := h.read
  seekStart h t ht := by
    refine h.seek_inside ?_ ht
    simp only [StringStream.seekTarget]
    rw [if_pos (Int.natCast_nonneg t), Int.toNat_natCast]
  seekNext h hlt := h.seek_current (Int.natCast_succ _).symm hlt
  seekEnd h := h.seek_end
  seekBack := by
    intro s content pos h n i hi
    obtain ⟨hbytes, hread⟩ := h.read n
    have hi' : i ≤ ((content.drop pos).take n).length := hbytes ▸ hi
    have hle := hread.pos_le
    have hlength : (((stringStreamVtable σ).read s n).1.length : Int) =
        ((content.drop pos).take n).length := congrArg (fun l => (List.length l : Int)) hbytes
    rw [hlength]
    exact (hread.seek_current (by omega) (by omega)).2

end FlipperZero
