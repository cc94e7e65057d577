import FlipperZero.BadUsb.ScriptRuns

/-!
# The lines of a BadUSB script

A script is read through a buffer, once to count its lines and once to execute them. What a reader
has still to scan is a list of bytes, with the line end that is put behind the file; filling the
buffer leaves it as it is. Both readings then go through the same lines, wherever the buffer ends.
-/

namespace FlipperZero

open Foundation

/-! ### Lines of a text -/

/-- The next line, behind what has been read of it, and what follows it. A line end on an empty line
is a part of the line. -/
def duckyNextLine : List UInt8 → List UInt8 → Option (List UInt8 × List UInt8)
  | [], _              => none
  | chr :: bytes, line =>
    if chr = 10 ∧ line ≠ [] then some (line, bytes) else duckyNextLine bytes (line ++ [chr])

/-- The lines that come to their end, behind what has been read of the first one. -/
def duckyLines : List UInt8 → List UInt8 → List (List UInt8)
  | [], _              => []
  | chr :: bytes, line =>
    if chr = 10 ∧ line ≠ [] then line :: duckyLines bytes [] else duckyLines bytes (line ++ [chr])

section Lines

variable {bytes rest line next : List UInt8}

lemma duckyLines_of_none (h : duckyNextLine bytes line = none) : duckyLines bytes line = [] := by
  induction bytes generalizing line with
  | nil => rfl
  | cons chr bytes ih =>
    rw [duckyNextLine] at h
    rw [duckyLines]
    split at h
    · exact absurd h nofun
    · rename_i hgoes
      rw [if_neg hgoes]
      exact ih h

lemma duckyLines_of_some (h : duckyNextLine bytes line = some (next, rest)) :
    duckyLines bytes line = next :: duckyLines rest [] := by
  induction bytes generalizing line with
  | nil => exact absurd h nofun
  | cons chr bytes ih =>
    rw [duckyNextLine] at h
    rw [duckyLines]
    split at h
    · rename_i hends
      cases h
      rw [if_pos hends]
    · rename_i hgoes
      rw [if_neg hgoes]
      exact ih h

end Lines

/-! ### Reading a line -/

section Reading

variable {file : List UInt8}

def duckyBuffered (fileBuf : Nat → UInt8) (start len : Nat) : List UInt8 :=
  (List.range' start len).map fileBuf

lemma duckyBuffered_succ (fileBuf : Nat → UInt8) (start len : Nat) :
    duckyBuffered fileBuf start (len + 1) =
      fileBuf start :: duckyBuffered fileBuf (start + 1) len := by
  rw [duckyBuffered, List.range'_succ, List.map_cons, duckyBuffered]

lemma duckyScanBuffer_nextLine (fileBuf : Nat → UInt8) (n i : Nat) (line rest : List UInt8) :
    duckyNextLine (duckyBuffered fileBuf i n ++ rest) line =
      if (duckyScanBuffer fileBuf n i line).1 then
        some ((duckyScanBuffer fileBuf n i line).2.1,
          duckyBuffered fileBuf (duckyScanBuffer fileBuf n i line).2.2
            (n + i - (duckyScanBuffer fileBuf n i line).2.2) ++ rest)
      else duckyNextLine rest (duckyScanBuffer fileBuf n i line).2.1 := by
  induction n generalizing i line with
  | zero => rfl
  | succ n ih =>
    rw [duckyBuffered_succ, List.cons_append, duckyNextLine, duckyScanBuffer]
    split
    · rw [if_pos rfl, show n + 1 + i - (i + 1) = n by omega]
    · rw [ih, show n + 1 + i = n + (i + 1) by omega]

lemma duckyScanBuffer_line {fileBuf : Nat → UInt8} {n i : Nat} {line : List UInt8}
    (h : (duckyScanBuffer fileBuf n i line).1 = false) :
    (duckyScanBuffer fileBuf n i line).2.1 = line ++ duckyBuffered fileBuf i n := by
  induction n generalizing i line with
  | zero => exact (List.append_nil line).symm
  | succ n ih =>
    rw [duckyScanBuffer] at h ⊢
    split at h
    · cases h
    · rename_i hgoes
      rw [if_neg hgoes, ih h, duckyBuffered_succ, List.append_assoc, List.singleton_append]

/-- What is still to be scanned, with the line end behind the file. -/
def DuckyReader.unread (file : List UInt8) (r : DuckyReader) : List UInt8 :=
  duckyBuffered r.fileBuf r.bufStart r.bufLen ++
    (file.drop r.pos ++ if r.fileEnd then [] else [10])

/-- The line end is put behind the file when all of it has been read. -/
def DuckyReader.Valid (file : List UInt8) (r : DuckyReader) : Prop :=
  r.fileEnd = true → file.drop r.pos = []

lemma duckyBuffered_getD (bytes : List UInt8) (fileBuf : Nat → UInt8) :
    duckyBuffered (fun i => bytes.getD i (fileBuf i)) 0 bytes.length = bytes := by
  refine List.ext_getElem (by simp [duckyBuffered]) fun i hi hi' => ?_
  simp [duckyBuffered, List.getElem?_eq_getElem hi']

lemma duckyBuffered_update (bytes : List UInt8) (fileBuf : Nat → UInt8) :
    duckyBuffered (Function.update (fun i => bytes.getD i (fileBuf i)) bytes.length 10) 0
      (bytes.length + 1) = bytes ++ [10] := by
  refine List.ext_getElem (by simp [duckyBuffered]) fun i hi hi' => ?_
  by_cases hlt : i < bytes.length
  · simp [duckyBuffered, Function.update_of_ne hlt.ne, List.getElem?_eq_getElem hlt,
      List.getElem_append_left hlt]
  · obtain rfl : i = bytes.length := by
      rw [List.length_append, List.length_singleton] at hi'
      omega
    simp [duckyBuffered]

lemma DuckyReader.fill_unread {r : DuckyReader} (hvalid : r.Valid file) (hempty : r.bufLen = 0) :
    (r.fill file).Valid file ∧ (r.fill file).unread file = r.unread file ∧
      ((r.fill file).bufLen = 0 → r.unread file = []) := by
  have hunread : r.unread file = file.drop r.pos ++ if r.fileEnd then [] else [10] := by
    rw [DuckyReader.unread, hempty]
    rfl
  have hsplit : (file.drop r.pos).take fileBufferLen ++
      file.drop (r.pos + ((file.drop r.pos).take fileBufferLen).length) = file.drop r.pos := by
    rw [← List.drop_drop, List.length_take]
    rcases Nat.le_total fileBufferLen (file.drop r.pos).length with hle | hle
    · rw [Nat.min_eq_left hle, List.take_append_drop]
    · rw [Nat.min_eq_right hle, List.drop_length, List.append_nil, List.take_of_length_le hle]
  have hnil : (file.drop r.pos).take fileBufferLen = [] → file.drop r.pos = [] := fun hnil =>
    (List.take_eq_nil_iff.mp hnil).resolve_left (by decide)
  rw [hunread]
  simp only [DuckyReader.fill]
  generalize (file.drop r.pos).take fileBufferLen = bytes at hsplit hnil ⊢
  split
  · rename_i hend
    have hdrop : file.drop (r.pos + bytes.length) = [] := List.drop_eq_nil_of_le hend.1
    rw [hdrop, List.append_nil] at hsplit
    refine ⟨fun _ => hdrop, ?_, fun h => absurd h (Nat.succ_ne_zero _)⟩
    simp only [DuckyReader.unread, duckyBuffered_update, hdrop, hend.2.2, List.append_nil,
      reduceIte, Bool.false_eq_true]
    rw [hsplit]
  · rename_i hmore
    refine ⟨fun hfileEnd => ?_, ?_, fun hzero => ?_⟩
    · have hnil := hvalid hfileEnd
      rw [← hsplit] at hnil
      exact (List.append_eq_nil_iff.mp hnil).2
    · simp only [DuckyReader.unread, duckyBuffered_getD]
      rw [← List.append_assoc, hsplit]
    · obtain rfl : bytes = [] := List.length_eq_zero_iff.mp hzero
      have hdrop := hnil rfl
      have hfileEnd : r.fileEnd = true := by
        by_contra hopen
        exact hmore ⟨List.drop_eq_nil_iff.mp hdrop, by decide, eq_false_of_ne_true hopen⟩
      rw [hdrop, hfileEnd]
      rfl

/-- What reading a line yields: the next line of what is to be scanned, trimmed, or all that is left
when no line ends in it. -/
def DuckyReader.Reads (file : List UInt8) (r : DuckyReader)
    (out : Bool × DuckyReader × List UInt8) : Prop :=
  out.2.1.Valid file ∧
    match duckyNextLine (r.unread file) [] with
    | some (line, rest) => out.1 = true ∧ out.2.2 = furiStringTrim line ∧ out.2.1.unread file = rest
    | none => out.1 = false ∧ out.2.2 = r.unread file ∧ out.2.1.unread file = []

/-- Between the rounds the line is split in two: what has been read of it, and what is left. -/
def DuckyReader.Between (file : List UInt8) (r : DuckyReader) (s : DuckyReader × List UInt8) :
    Prop :=
  s.1.Valid file ∧ s.2 ++ s.1.unread file = r.unread file ∧
    duckyNextLine (s.1.unread file) s.2 = duckyNextLine (r.unread file) []

lemma DuckyReader.Between.buffer {r : DuckyReader} {s : DuckyReader × List UInt8}
    (h : r.Between file s) :
    r.Between file (if s.1.bufLen = 0 then s.1.fill file else s.1, s.2) ∧
      ((if s.1.bufLen = 0 then s.1.fill file else s.1).bufLen = 0 →
        (if s.1.bufLen = 0 then s.1.fill file else s.1).unread file = []) := by
  split
  · rename_i hempty
    obtain ⟨hvalid, hunread, hnil⟩ := DuckyReader.fill_unread h.1 hempty
    unfold DuckyReader.Between
    rw [hunread]
    exact ⟨⟨hvalid, h.2⟩, hnil⟩
  · rename_i hfull
    exact ⟨h, fun hempty => absurd hempty hfull⟩

lemma duckyReadRound_between {r : DuckyReader} {s : DuckyReader × List UInt8}
    (h : r.Between file s) :
    match duckyReadRound file s with
    | .again s' => r.Between file s'
    | .leave out => r.Reads file out := by
  obtain ⟨hbuffer, hempty⟩ := h.buffer
  simp only [duckyReadRound]
  generalize (if s.1.bufLen = 0 then s.1.fill file else s.1) = q at hbuffer hempty ⊢
  obtain ⟨hvalid, hline, hnext⟩ := hbuffer
  by_cases hzero : q.bufLen = 0
  · have hnil := hempty hzero
    rw [if_pos hzero]
    refine ⟨hvalid, ?_⟩
    rw [hnil] at hline hnext
    rw [← hnext]
    exact ⟨rfl, (List.append_nil s.2).symm.trans hline, hnil⟩
  rw [if_neg hzero]
  have hscan := duckyScanBuffer_nextLine q.fileBuf q.bufLen q.bufStart s.2
    (file.drop q.pos ++ if q.fileEnd then [] else [10])
  rw [← DuckyReader.unread, hnext] at hscan
  by_cases hfound : (duckyScanBuffer q.fileBuf q.bufLen q.bufStart s.2).1 = true
  · rw [if_pos hfound] at hscan ⊢
    refine ⟨hvalid, ?_⟩
    rw [hscan]
    exact ⟨rfl, rfl, rfl⟩
  · have hread := duckyScanBuffer_line (Bool.eq_false_of_not_eq_true hfound)
    have hleft : (duckyScanBuffer q.fileBuf q.bufLen q.bufStart s.2).2.1 ++
        (file.drop q.pos ++ if q.fileEnd then [] else [10]) = r.unread file := by
      rw [hread, List.append_assoc, ← DuckyReader.unread, hline]
    rw [if_neg hfound] at hscan ⊢
    by_cases hend : q.fileEnd = true
    · rw [if_pos hend]
      rw [hend, hvalid hend] at hscan hleft
      refine ⟨hvalid, ?_⟩
      rw [hscan]
      refine ⟨rfl, (List.append_nil _).symm.trans hleft, ?_⟩
      simp only [DuckyReader.unread, hvalid hend, hend]
      rfl
    · rw [if_neg hend]
      exact ⟨hvalid, hleft, hscan.symm⟩

/-- The next line is read, wherever the buffer ends. -/
theorem duckyReadLine_reads {r : DuckyReader} (hvalid : r.Valid file) :
    ∃ out, duckyReadLine file r = some out ∧ r.Reads file out := by
  obtain ⟨out, hread, -⟩ := duckyReadLine_total file r
  refine ⟨out, hread, loop_keeps (I := r.Between file) ?_ ?_ ⟨hvalid, rfl, rfl⟩ hread⟩
  · intro s s' hs hround
    have hbetween := duckyReadRound_between hs
    rw [hround] at hbetween
    exact hbetween
  · intro s out hs hround
    have hreads := duckyReadRound_between hs
    rw [hround] at hreads
    exact hreads

end Reading

end FlipperZero
