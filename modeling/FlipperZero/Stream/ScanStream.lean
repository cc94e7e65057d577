import FlipperZero.Foundation.Scanner
import FlipperZero.Stream.FileStream

/-!
# Scanning a stream in chunks

The readers of text above the streams share one loop: read a buffer of 32 bytes, go through it
byte by byte with a state, and at the byte that ends the search seek back from the end of the
buffer. Below 2 GiB the loop sees the bytes behind the position one after the other, however the
buffers cut them.
-/

namespace FlipperZero

open Foundation

variable {σ ρ : Type*} {step : σ → UInt8 → Round σ ρ} {f : File} {s : σ}

/-- The loop: `behind` is how far behind the ending byte it seeks. It is left with the result and
the success of the seek, or goes out of bytes in a last state. -/
def scanStream (step : σ → UInt8 → Round σ ρ) (behind : Nat) (f : File) (s : σ) :
    Round σ (ρ × Bool) × File :=
  let r := f.read 32
  if _hnil : r.1 = [] then (.again s, r.2)
  else
    match scanFrom step 0 s r.1 with
    | .again s' => scanStream step behind r.2 s'
    | .leave (a, i) =>
      let q := fileStreamSeek r.2 (i - r.1.length + behind) .fromCurrent
      (.leave (a, q.1), q.2)
termination_by f.content.length - f.pos
decreasing_by
  have hlt : f.pos < f.content.length := by
    by_contra hge
    exact _hnil (by simp [r, List.drop_eq_nil_of_le (Nat.not_lt.mp hge)])
  simp only [File.read_content, File.read_pos]
  omega

namespace File

/-- What is behind the position is what is read and what is behind it then. -/
lemma drop_read (f : File) (n : Nat) :
    f.content.drop f.pos = (f.read n).1 ++ (f.read n).2.content.drop (f.read n).2.pos := by
  rw [read_fst, read_content, read_pos]
  conv_lhs => rw [← List.take_append_drop n (f.content.drop f.pos)]
  rw [List.drop_drop]
  rcases Nat.le_total n (f.content.length - f.pos) with h | h
  · rw [Nat.min_eq_left h]
  · have hpos := f.pos_le
    have hread : f.content.drop (f.pos + n) = [] :=
      List.drop_eq_nil_of_le (Nat.sub_le_iff_le_add'.mp h)
    rw [Nat.min_eq_right h, Nat.add_sub_cancel' hpos, hread, List.drop_length]

lemma read_pos_eq (f : File) (n : Nat) : (f.read n).2.pos = f.pos + (f.read n).1.length := by
  rw [read_pos, read_fst, List.length_take, List.length_drop]

end File

@[simp] lemma scanStream_content (step : σ → UInt8 → Round σ ρ) (behind : Nat) (f : File) (s : σ) :
    (scanStream step behind f s).2.content = f.content := by
  fun_induction scanStream step behind f s with
  | case1 f s r hnil => rfl
  | case2 f s r hne s' hscan ih => exact ih
  | case3 f s r hne a i hscan q => exact File.seekLimited_content _ _

/-- A file shorter than 2 GiB, the range of the offset of a seek. -/
def Seekable (f : File) : Prop := f.content.length < 2147483648

/-- In a file below 2 GiB a relative seek to a position inside succeeds. -/
lemma Seekable.seek (hf : Seekable f) {off : Int} {t : Nat} (ht : (f.pos : Int) + off = t)
    (htle : t ≤ f.content.length) : fileStreamSeek f off .fromCurrent = (true, f.seek t) := by
  have hlen : f.content.length < 2147483648 := hf
  exact fileStreamSeek_current (by omega) ht htle ⟨by omega, by omega⟩

/-- In a file below 2 GiB the loop is the scan of all that is behind the position. -/
theorem Seekable.scanStream (hf : Seekable f) (step : σ → UInt8 → Round σ ρ) (behind : Nat)
    (hbehind : behind ≤ 1) (s : σ) :
    scanStream step behind f s =
      match scanFrom step f.pos s (f.content.drop f.pos) with
      | .again s' => (.again s', f.seek f.content.length)
      | .leave (a, i) => (.leave (a, true), f.seek (i + behind)) := by
  fun_induction FlipperZero.scanStream step behind f s with
  | case1 f s r hnil =>
    have hend : f.content.drop f.pos = [] := by
      have hread : (f.content.drop f.pos).take 32 = [] := hnil
      simpa using hread
    have hpos : f.pos = f.content.length :=
      Nat.le_antisymm f.pos_le (List.drop_eq_nil_iff.mp hend)
    have hlast : r.2 = f.seek f.content.length := by
      refine File.ext rfl ?_
      simp only [r, File.read_pos, File.seek]
      omega
    rw [hend, hlast]
    rfl
  | case2 f s r hne s' hscan ih =>
    have hsplit : f.content.drop f.pos = r.1 ++ r.2.content.drop r.2.pos := f.drop_read 32
    have hscan' : scanFrom step f.pos s r.1 = .again s' := by
      have hadd := scanFrom_add step 0 f.pos s r.1
      rwa [Nat.zero_add, hscan] at hadd
    have hpos : r.2.pos = f.pos + r.1.length := f.read_pos_eq 32
    rw [ih hf, hsplit, scanFrom_append_again hscan', ← hpos]
    rfl
  | case3 f s r hne a i hscan q =>
    have hsplit : f.content.drop f.pos = r.1 ++ r.2.content.drop r.2.pos := f.drop_read 32
    have hscan' : scanFrom step f.pos s r.1 = .leave (a, i + f.pos) := by
      have hadd := scanFrom_add step 0 f.pos s r.1
      rwa [Nat.zero_add, hscan] at hadd
    have hpos : r.2.pos = f.pos + r.1.length := f.read_pos_eq 32
    have hi := (scanFrom_leave_bounds hscan).2
    have hend : r.2.pos ≤ f.content.length := r.2.pos_le
    have hq : q = (true, r.2.seek (i + f.pos + behind)) :=
      Seekable.seek (f := r.2) hf (by omega) (by
        have hcontent : r.2.content = f.content := rfl
        rw [hcontent]
        omega)
    rw [hsplit, scanFrom_append_leave hscan', hq]
    rfl

end FlipperZero
