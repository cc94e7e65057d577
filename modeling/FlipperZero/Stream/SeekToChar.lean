import FlipperZero.Stream.StreamView

/-!
# Searching a stream for a character

`stream_seek_to_char` reads windows of 32 bytes. A search forward goes back in the window to the
character that it has found; a search backward keeps the start of the window. In a text below
2 GiB both find the nearest character, however the windows cut the text.
-/

namespace FlipperZero

open Foundation

inductive StreamDirection
  | forward
  | backward
  deriving DecidableEq, Repr

/-! ### The search -/

section

variable {σ : Type} (V : StreamVTable σ) (c : UInt8)

/-- The loop of `stream_seek_to_char_forward`. There is no result if the given number of rounds is
too small. -/
def streamSeekForwardLoop : Nat → σ → Option (Bool × σ)
  | 0, _          => none
  | rounds + 1, s =>
    let r := V.read s 32
    match r.1.idxOf? c with
    | some i => some (true, (V.seek r.2 (asInt32 (i - r.1.length)) .fromCurrent).2)
    | none   => if r.1.length ≠ 32 then some (false, r.2) else streamSeekForwardLoop rounds r.2

def streamSeekToCharForward (rounds : Nat) (s : σ) : Option (Bool × σ) :=
  let r := V.seek s 1 .fromCurrent
  if !r.1 then some (false, r.2) else streamSeekForwardLoop V c rounds r.2

/-- The index of a window at which the search backward stops. -/
def lastIndexOf? (buffer : List UInt8) : Option Nat :=
  (buffer.reverse.idxOf? c).map fun i => buffer.length - i - 1

/-- The loop of `stream_seek_to_char_backward`. A seek that fails stops the program. -/
def streamSeekBackwardLoop : Nat → Nat → σ → Option (Bool × σ)
  | 0, _, _               => none
  | rounds + 1, anchor, s =>
    let toRead := if 32 > anchor then anchor else 32
    let anchor := anchor - toRead
    let q := V.seek s (asInt32 anchor) .fromStart
    if !q.1 then none
    else
      let r := V.read q.2 toRead
      match lastIndexOf? c r.1 with
      | some cursor =>
        let q := V.seek r.2 (asInt32 (anchor + cursor)) .fromStart
        if !q.1 then none else some (true, q.2)
      | none => if r.1.length ≠ 32 then some (false, r.2) else streamSeekBackwardLoop rounds anchor r.2

def streamSeekToCharBackward (rounds : Nat) (s : σ) : Option (Bool × σ) :=
  let anchor := V.tell s
  if anchor = 0 then some (false, s) else streamSeekBackwardLoop V c rounds anchor s

/-- The search of `stream_seek_to_char`. -/
def streamSearch (rounds : Nat) (s : σ) : StreamDirection → Option (Bool × σ)
  | .forward  => streamSeekToCharForward V c rounds s
  | .backward => streamSeekToCharBackward V c rounds s

/-- `stream_seek_to_char`, with the position put back after a search without a result. -/
def streamSeekToChar (rounds : Nat) (s : σ) (direction : StreamDirection) : Option (Bool × σ) :=
  let oldPosition := V.tell s
  (streamSearch V c rounds s direction).map fun r =>
    if !r.1 then (false, (V.seek r.2 (asInt32 oldPosition) .fromStart).2) else r

end

/-! ### What it should find -/

/-- The character does not occur at the positions from `start` up to `stop`. -/
def Absent (content : List UInt8) (c : UInt8) (start stop : Nat) : Prop :=
  ∀ i, start ≤ i → i < stop → content[i]? ≠ some c

/-- The nearest occurrence strictly behind or strictly before a position. -/
def Nearest (content : List UInt8) (c : UInt8) (pos : Nat) : StreamDirection → Nat → Prop
  | .forward, t  => pos < t ∧ content[t]? = some c ∧ Absent content c (pos + 1) t
  | .backward, t => t < pos ∧ content[t]? = some c ∧ Absent content c (t + 1) pos

/-- There is no occurrence on that side. -/
def NoneThere (content : List UInt8) (c : UInt8) (pos : Nat) : StreamDirection → Prop
  | .forward  => Absent content c (pos + 1) content.length
  | .backward => Absent content c 0 pos

/-- The search comes to an end and moves to the nearest occurrence, or leaves the position. -/
def Finds {σ : Type} {V : StreamVTable σ} (view : StreamView V) (content : List UInt8) (pos : Nat)
    (s : σ) (c : UInt8) (direction : StreamDirection) : Prop :=
  ∀ rounds, content.length < rounds → ∃ result s',
    streamSeekToChar V c rounds s direction = some (result, s') ∧
      ((result = true ∧ ∃ t, Nearest content c pos direction t ∧ view.Shows s' content t) ∨
        result = false ∧ NoneThere content c pos direction ∧ view.Shows s' content pos)

/-! ### Windows -/

variable {content buffer : List UInt8} {c : UInt8} {pos start middle stop n i : Nat}

lemma Absent.append (h : Absent content c start middle) (h' : Absent content c middle stop) :
    Absent content c start stop := fun i hstart hstop =>
  (Nat.lt_or_ge i middle).elim (h i hstart) fun hge => h' i hge hstop

lemma absent_refl (content : List UInt8) (c : UInt8) (start : Nat) : Absent content c start start :=
  fun _ hstart hstop => absurd hstop (Nat.not_lt.mpr hstart)

lemma getElem?_window (hi : i < ((content.drop pos).take n).length) :
    ((content.drop pos).take n)[i]? = content[pos + i]? := by
  rw [List.length_take] at hi
  rw [List.getElem?_take, if_pos (by omega), List.getElem?_drop]

lemma length_window (content : List UInt8) (pos n : Nat) :
    ((content.drop pos).take n).length = min n (content.length - pos) := by
  rw [List.length_take, List.length_drop]

lemma absent_window (h : ∀ i < ((content.drop pos).take n).length,
    ((content.drop pos).take n)[i]? ≠ some c) :
    Absent content c pos (pos + ((content.drop pos).take n).length) := by
  intro i hstart hstop
  obtain ⟨k, rfl⟩ := Nat.exists_eq_add_of_le hstart
  have hk : k < ((content.drop pos).take n).length := by omega
  rw [← getElem?_window hk]
  exact h k hk

lemma idxOf?_first (h : buffer.idxOf? c = some i) :
    i < buffer.length ∧ buffer[i]? = some c ∧ ∀ j < i, buffer[j]? ≠ some c := by
  obtain ⟨hlt, hfound, hbefore⟩ := List.findIdx?_eq_some_iff_getElem.mp h
  refine ⟨hlt, ?_, fun j hj hsome => ?_⟩
  · rw [List.getElem?_eq_getElem hlt]
    exact congrArg some (eq_of_beq hfound)
  · have hjlt : j < buffer.length := hj.trans hlt
    rw [List.getElem?_eq_getElem hjlt] at hsome
    exact hbefore j hj (beq_iff_eq.mpr (Option.some.inj hsome))

lemma idxOf?_none (h : buffer.idxOf? c = none) (j : Nat) : buffer[j]? ≠ some c := fun hsome =>
  List.idxOf?_eq_none_iff.mp h (List.mem_of_getElem? hsome)

lemma lastIndexOf?_last (h : lastIndexOf? c buffer = some i) :
    i < buffer.length ∧ buffer[i]? = some c ∧ ∀ j < buffer.length, i < j → buffer[j]? ≠ some c := by
  obtain ⟨k, hk, rfl⟩ := Option.map_eq_some_iff.mp h
  obtain ⟨hlt, hfound, hbefore⟩ := idxOf?_first hk
  rw [List.length_reverse] at hlt
  have hindex : buffer.length - 1 - k = buffer.length - k - 1 := by omega
  rw [List.getElem?_reverse hlt, hindex] at hfound
  refine ⟨by omega, hfound, fun j hj hgt hsome => ?_⟩
  have hback : buffer.length - 1 - (buffer.length - 1 - j) = j := by omega
  refine hbefore (buffer.length - 1 - j) (by omega) ?_
  rwa [List.getElem?_reverse (by omega), hback]

lemma lastIndexOf?_none (h : lastIndexOf? c buffer = none) (j : Nat) : buffer[j]? ≠ some c :=
  fun hsome => List.idxOf?_eq_none_iff.mp (Option.map_eq_none_iff.mp h)
    (List.mem_reverse.mpr (List.mem_of_getElem? hsome))

/-! ### The loops -/

lemma asInt32_of_small (h : n < 2147483648) : asInt32 n = n := asInt32_of_bounds (by omega) (by omega)

section

variable {σ : Type} {V : StreamVTable σ} {view : StreamView V} {s : σ}

lemma streamSeekForwardLoop_finds (h : view.Shows s content pos) {rounds : Nat}
    (hrounds : content.length - pos < rounds) : ∃ result s',
      streamSeekForwardLoop V c rounds s = some (result, s') ∧
        ((result = true ∧ ∃ t, pos ≤ t ∧ content[t]? = some c ∧ Absent content c pos t ∧
            view.Shows s' content t) ∨
          result = false ∧ Absent content c pos content.length ∧ ∃ p, view.Shows s' content p) := by
  induction rounds generalizing s pos with
  | zero => omega
  | succ rounds ih =>
    obtain ⟨hbytes, hread⟩ := view.read h 32
    have hle := view.pos_le hread
    have hlength := length_window content pos 32
    have hsmall := view.small h
    rw [streamSeekForwardLoop]
    cases hfound : (V.read s 32).1.idxOf? c with
    | some i =>
      obtain ⟨hlt, hchar, hbefore⟩ := idxOf?_first hfound
      have hcast : asInt32 (i - ((V.read s 32).1.length : Int)) = i - ((V.read s 32).1.length : Int) := by
        rw [hbytes] at hlt ⊢
        exact asInt32_of_bounds (by omega) (by omega)
      have hshows := view.seekBack h 32 i hlt.le
      simp only [hcast]
      rw [hbytes] at hlt hchar hbefore
      refine ⟨_, _, rfl, .inl ⟨rfl, pos + i, by omega, ?_, ?_, hshows⟩⟩
      · rwa [← getElem?_window hlt]
      · intro j hstart hstop
        obtain ⟨k, rfl⟩ := Nat.exists_eq_add_of_le hstart
        rw [← getElem?_window (n := 32) (by omega)]
        exact hbefore k (by omega)
    | none =>
      have habsent : Absent content c pos (pos + ((content.drop pos).take 32).length) :=
        absent_window fun j _ => by
          rw [← hbytes]
          exact idxOf?_none hfound j
      by_cases hfull : (V.read s 32).1.length = 32
      · simp only [hfull, ne_eq, not_true_eq_false, if_false]
        rw [hbytes] at hfull
        obtain ⟨result, s', hloop, hresult⟩ := ih hread (by omega)
        refine ⟨result, s', hloop, ?_⟩
        rcases hresult with ⟨htrue, t, ht, hchar, hbefore, hshows⟩ | ⟨hfalse, hnone, hshows⟩
        · exact .inl ⟨htrue, t, by omega, hchar, habsent.append hbefore, hshows⟩
        · exact .inr ⟨hfalse, habsent.append hnone, hshows⟩
      · simp only [ne_eq, hfull, not_false_eq_true, if_true]
        rw [hbytes] at hfull
        have hend : pos + ((content.drop pos).take 32).length = content.length := by
          have hpos := view.pos_le h
          omega
        rw [hend] at habsent
        exact ⟨_, _, rfl, .inr ⟨rfl, habsent, _, hread⟩⟩

lemma streamSeekBackwardLoop_finds (h : view.Shows s content pos) {anchor rounds : Nat}
    (hanchor : anchor ≤ content.length) (hrounds : anchor < rounds) : ∃ result s',
      streamSeekBackwardLoop V c rounds anchor s = some (result, s') ∧
        ((result = true ∧ ∃ t, t < anchor ∧ content[t]? = some c ∧ Absent content c (t + 1) anchor ∧
            view.Shows s' content t) ∨
          result = false ∧ Absent content c 0 anchor ∧ ∃ p, view.Shows s' content p) := by
  induction rounds generalizing s pos anchor with
  | zero => omega
  | succ rounds ih =>
    obtain ⟨toRead, hread⟩ : ∃ toRead, toRead = if 32 > anchor then anchor else 32 := ⟨_, rfl⟩
    have hsize : toRead ≤ anchor ∧ (toRead = 32 ∨ toRead = anchor ∧ anchor < 32) := by
      rw [hread]
      split_ifs <;> omega
    have hsmall := view.small h
    have hcast := asInt32_of_small (show anchor - toRead < 2147483648 by omega)
    obtain ⟨hseek, hstart⟩ := view.seekStart h (anchor - toRead) (by omega)
    obtain ⟨hbytes, hwindow⟩ := view.read hstart toRead
    have hlength := length_window content (anchor - toRead) toRead
    have hfull : ((content.drop (anchor - toRead)).take toRead).length = toRead := by omega
    have hinside {k : Nat} (hk : k < toRead) :
        ((content.drop (anchor - toRead)).take toRead)[k]? = content[anchor - toRead + k]? :=
      getElem?_window (Nat.lt_of_lt_of_eq hk hfull.symm)
    rw [hfull] at hwindow
    have hend : anchor - toRead + toRead = anchor := by omega
    rw [hend] at hwindow
    rw [streamSeekBackwardLoop]
    simp only [← hread, hcast, hseek, Bool.not_true, Bool.false_eq_true, if_false]
    cases hfound : lastIndexOf? c
        (V.read (V.seek s ((anchor - toRead : Nat) : Int) .fromStart).2 toRead).1 with
    | some cursor =>
      rw [hbytes] at hfound
      obtain ⟨hlt, hchar, hbehind⟩ := lastIndexOf?_last hfound
      rw [hfull] at hlt hbehind
      have hbefore : anchor - toRead + cursor < anchor :=
        Nat.lt_of_lt_of_eq (Nat.add_lt_add_left hlt _) hend
      have hbound := hbefore.le.trans hanchor
      have hcast' := asInt32_of_small (Nat.lt_of_le_of_lt hbound hsmall)
      obtain ⟨hseek', hshows⟩ := view.seekStart hwindow (anchor - toRead + cursor) hbound
      simp only [← Int.natCast_add, hcast', hseek', Bool.not_true, Bool.false_eq_true, if_false]
      refine ⟨_, _, rfl, .inl ⟨rfl, anchor - toRead + cursor, hbefore, ?_, ?_, hshows⟩⟩
      · exact (hinside hlt).symm.trans hchar
      · intro j hstart hstop
        obtain ⟨k, rfl⟩ := Nat.exists_eq_add_of_le
          ((Nat.le_add_right _ cursor).trans (Nat.le_of_succ_le hstart))
        have hk : k < toRead := Nat.lt_of_add_lt_add_left (hstop.trans_eq hend.symm)
        rw [← hinside hk]
        exact hbehind k hk (Nat.lt_of_add_lt_add_left hstart)
    | none =>
      rw [hbytes] at hfound
      have habsent : Absent content c (anchor - toRead)
          (anchor - toRead + ((content.drop (anchor - toRead)).take toRead).length) :=
        absent_window fun j _ => lastIndexOf?_none hfound j
      rw [hfull, hend] at habsent
      simp only [hbytes, hfull]
      rcases hsize.2 with hmore | ⟨hlast, hshort⟩
      · simp only [hmore, ne_eq, not_true_eq_false, if_false]
        rw [hmore] at habsent hwindow hsize
        obtain ⟨result, s', hloop, hresult⟩ :=
          ih hwindow (show anchor - 32 ≤ content.length by omega) (by omega)
        refine ⟨result, s', hloop, ?_⟩
        rcases hresult with ⟨htrue, t, ht, hchar, hbehind, hshows⟩ | ⟨hfalse, hnone, hshows⟩
        · exact .inl ⟨htrue, t, by omega, hchar, hbehind.append habsent, hshows⟩
        · exact .inr ⟨hfalse, hnone.append habsent, hshows⟩
      · have hne : toRead ≠ 32 := by omega
        simp only [ne_eq, hne, not_false_eq_true, if_true]
        rw [hlast, Nat.sub_self] at habsent
        exact ⟨_, _, rfl, .inr ⟨rfl, habsent, _, hwindow⟩⟩

/-- The position is put back after a search without a result. -/
lemma shows_rollback (h : view.Shows s content i) (hpos : pos ≤ content.length) :
    view.Shows (V.seek s (asInt32 pos) .fromStart).2 content pos := by
  rw [asInt32_of_small (Nat.lt_of_le_of_lt hpos (view.small h))]
  exact (view.seekStart h pos hpos).2

lemma streamSeekToCharForward_finds (h : view.Shows s content pos) {rounds : Nat}
    (hrounds : content.length < rounds) : ∃ result s',
      streamSeekToCharForward V c rounds s = some (result, s') ∧
        ((result = true ∧ ∃ t, Nearest content c pos .forward t ∧ view.Shows s' content t) ∨
          result = false ∧ NoneThere content c pos .forward ∧ ∃ p, view.Shows s' content p) := by
  rw [streamSeekToCharForward]
  rcases Nat.lt_or_eq_of_le (view.pos_le h) with hlt | hend
  · obtain ⟨hseek, hnext⟩ := view.seekNext h hlt
    simp only [hseek, Bool.not_true, Bool.false_eq_true, if_false]
    obtain ⟨result, s', hloop, hresult⟩ :=
      streamSeekForwardLoop_finds (c := c) hnext (show _ < rounds by omega)
    refine ⟨result, s', hloop, ?_⟩
    rcases hresult with ⟨htrue, t, ht, hchar, habsent, hshows⟩ | hnone
    · exact .inl ⟨htrue, t, ⟨ht, hchar, habsent⟩, hshows⟩
    · exact .inr hnone
  · obtain ⟨hseek, hshows⟩ := view.seekEnd h hend
    simp only [hseek, Bool.not_false, if_true]
    exact ⟨_, _, rfl, .inr ⟨rfl, fun i hstart hstop => absurd hstop (by omega), hshows⟩⟩

lemma streamSeekToCharBackward_finds (h : view.Shows s content pos) {rounds : Nat}
    (hrounds : content.length < rounds) : ∃ result s',
      streamSeekToCharBackward V c rounds s = some (result, s') ∧
        ((result = true ∧ ∃ t, Nearest content c pos .backward t ∧ view.Shows s' content t) ∨
          result = false ∧ NoneThere content c pos .backward ∧ ∃ p, view.Shows s' content p) := by
  have hle := view.pos_le h
  rw [streamSeekToCharBackward, view.tell h]
  by_cases hzero : pos = 0
  · simp only [hzero, if_true]
    subst hzero
    exact ⟨_, _, rfl, .inr ⟨rfl, absent_refl content c 0, 0, h⟩⟩
  · simp only [hzero, if_false]
    obtain ⟨result, s', hloop, hresult⟩ :=
      streamSeekBackwardLoop_finds (c := c) h hle (show pos < rounds by omega)
    refine ⟨result, s', hloop, ?_⟩
    rcases hresult with ⟨htrue, t, ht, hchar, habsent, hshows⟩ | hnone
    · exact .inl ⟨htrue, t, ⟨ht, hchar, habsent⟩, hshows⟩
    · exact .inr hnone

/-- What either search finds is found, and otherwise the position stays. -/
lemma finds_of_search (h : view.Shows s content pos) {direction : StreamDirection}
    (hsearch : ∀ rounds, content.length < rounds → ∃ result s',
      streamSearch V c rounds s direction = some (result, s') ∧
        ((result = true ∧ ∃ t, Nearest content c pos direction t ∧ view.Shows s' content t) ∨
          result = false ∧ NoneThere content c pos direction ∧ ∃ p, view.Shows s' content p)) :
    Finds view content pos s c direction := by
  intro rounds hrounds
  obtain ⟨result, s', hfound, ⟨rfl, hnearest⟩ | ⟨rfl, hnone, p, hshows⟩⟩ := hsearch rounds hrounds
  · exact ⟨true, s', by rw [streamSeekToChar, hfound]; rfl, .inl ⟨rfl, hnearest⟩⟩
  · refine ⟨false, _, by rw [streamSeekToChar, hfound, view.tell h]; rfl, .inr ⟨rfl, hnone, ?_⟩⟩
    exact shows_rollback hshows (view.pos_le h)

lemma streamSeekToChar_finds (h : view.Shows s content pos) (c : UInt8)
    (direction : StreamDirection) : Finds view content pos s c direction := by
  refine finds_of_search h fun rounds hrounds => ?_
  cases direction with
  | forward => exact streamSeekToCharForward_finds h hrounds
  | backward => exact streamSeekToCharBackward_finds h hrounds

end

/-- In each kind of stream, with a text below 2 GiB, the search moves to the nearest occurrence, or
leaves the position where there is none. -/
theorem streamSeekToChar_nearest (σ : Type) [FuriString σ] (content : List UInt8) (pos : Nat)
    (c : UInt8) (direction : StreamDirection) :
    (∀ f : File, f.Shows content pos → Finds fileStreamView content pos f c direction) ∧
      (∀ b : BufferedFileStream, b.Shows content pos →
        Finds bufferedFileStreamView content pos b c direction) ∧
      ∀ s : StringStream σ, s.Shows content pos →
        Finds (stringStreamView σ) content pos s c direction :=
  ⟨fun _ h => streamSeekToChar_finds h c direction, fun _ h => streamSeekToChar_finds h c direction,
    fun _ h => streamSeekToChar_finds h c direction⟩

/-- A file of more than 2 GiB, at its end. -/
def largeFile : File where
  content := List.replicate 2147483712 0
  pos := 2147483712
  pos_le := Nat.le_of_eq List.length_replicate.symm

/-- There a search backward stops the program at its first seek. -/
theorem not_streamSeekToChar_large :
    ¬∃ rounds r, streamSeekToChar fileStreamVtable 0 rounds largeFile .backward = some r := by
  rintro ⟨rounds, r, hfound⟩
  have htell : fileStreamVtable.tell largeFile = 2147483712 := by decide
  have hseek : (fileStreamVtable.seek largeFile (asInt32 (2147483680 : Nat)) .fromStart).1 = false :=
    congrArg Prod.fst (fileStreamSeek_start_neg (by decide))
  have hloop : streamSeekBackwardLoop fileStreamVtable 0 rounds 2147483712 largeFile = none := by
    cases rounds with
    | zero => rfl
    | succ rounds =>
      rw [streamSeekBackwardLoop]
      simp only [if_neg (show ¬32 > 2147483712 by decide), Nat.reduceSub, hseek, Bool.not_false,
        if_true]
  simp only [streamSeekToChar, streamSearch, streamSeekToCharBackward, htell, hloop] at hfound
  cases hfound

end FlipperZero
