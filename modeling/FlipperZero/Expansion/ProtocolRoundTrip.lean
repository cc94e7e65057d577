import FlipperZero.Expansion.Protocol

/-!
# Expansion frames survive any chunking

What a frame says is its message. Encoding well-formed frames and decoding the line again
gives frames with the same messages, wherever the line cuts its bytes; and whatever comes over
the line, the decoder stays inside the frame buffer and asks for no byte behind the frame that
the header announces.
-/

namespace FlipperZero

open Foundation

/-- What a frame says, with the baud rate as its four bytes. -/
inductive ExpansionContent where
  | heartbeat
  | status (error : UInt8)
  | baudRate (baud : List UInt8)
  | control (command : UInt8)
  | data (bytes : List UInt8)
  deriving DecidableEq, Repr

namespace ExpansionFrame

/-- The message of a frame; `none` for an unknown type and for a data size that does not fit. -/
def message (f : ExpansionFrame) : Option ExpansionContent :=
  match f.headerType with
  | some .heartbeat => some .heartbeat
  | some .status    => some (.status (f.bytes.getD 1 0))
  | some .baudRate  => some (.baudRate ((f.bytes.drop 1).take 4))
  | some .control   => some (.control (f.bytes.getD 1 0))
  | some .data      =>
    if f.dataSize ≤ expansionProtocolMaxDataSize then
      some (.data ((f.bytes.drop 2).take f.dataSize))
    else none
  | none            => none

/-- A frame of a known type, a data frame with a size that fits. -/
def WellFormed (f : ExpansionFrame) : Prop := f.message.isSome

instance (f : ExpansionFrame) : Decidable f.WellFormed :=
  inferInstanceAs (Decidable (f.message.isSome = true))

/-- The bytes of a frame that are sent. -/
def used (f : ExpansionFrame) : List UInt8 := f.bytes.take f.getEncodedSize

variable {f g : ExpansionFrame}

/-! ### Frames that agree on the bytes received so far -/

lemma slice_eq_of_take {n i k : Nat} (h : g.bytes.take n = f.bytes.take n) (hi : i + k ≤ n) :
    (g.bytes.drop i).take k = (f.bytes.drop i).take k := by
  have hcut : ∀ l : List UInt8, (l.drop i).take k = ((l.take n).drop i).take k := fun l => by
    rw [List.drop_take, List.take_take, Nat.min_eq_left (by omega)]
  rw [hcut g.bytes, h, ← hcut f.bytes]

lemma getD_eq_of_take {n i : Nat} (h : g.bytes.take n = f.bytes.take n) (hi : i < n) :
    g.bytes.getD i 0 = f.bytes.getD i 0 := by
  have := congrArg (·.getD i 0) h
  simpa [List.getD_eq_getElem?_getD, List.getElem?_take_of_lt hi] using this

lemma headerType_eq_of_take {n : Nat} (h : g.bytes.take n = f.bytes.take n) (hn : 1 ≤ n) :
    g.headerType = f.headerType := by
  rw [headerType, headerType, getD_eq_of_take h hn]

lemma dataSize_eq_of_take {n : Nat} (h : g.bytes.take n = f.bytes.take n) (hn : 2 ≤ n) :
    g.dataSize = f.dataSize := by
  rw [dataSize, dataSize, getD_eq_of_take h hn]

lemma WellFormed.encodedSize_bounds (h : f.WellFormed) :
    1 ≤ f.getEncodedSize ∧ f.getEncodedSize ≤ sizeofExpansionFrame := by
  have hmax : sizeofExpansionFrame = 66 ∧ expansionProtocolMaxDataSize = 64 := ⟨rfl, rfl⟩
  simp only [WellFormed, message] at h
  simp only [getEncodedSize]
  cases htype : f.headerType with
  | none => simp [htype] at h
  | some t =>
    rw [htype] at h
    cases t with
    | data =>
      simp only at h
      split_ifs at h with hsize
      · simp only; omega
      · simp at h
    | _ => simp only; omega

lemma WellFormed.message_congr (h : f.WellFormed)
    (hsame : g.bytes.take f.getEncodedSize = f.bytes.take f.getEncodedSize) :
    g.message = f.message := by
  have htype := headerType_eq_of_take hsame h.encodedSize_bounds.1
  simp only [message, htype]
  cases hf : f.headerType with
  | none => rfl
  | some t =>
    cases t with
    | heartbeat => rfl
    | status | control =>
      have hsize : f.getEncodedSize = 2 := by simp only [getEncodedSize, hf]
      simp only [getD_eq_of_take hsame (show 1 < f.getEncodedSize by omega)]
    | baudRate =>
      have hsize : f.getEncodedSize = 5 := by simp only [getEncodedSize, hf]
      simp only [slice_eq_of_take hsame (show 1 + 4 ≤ f.getEncodedSize by omega)]
    | data =>
      have hsize : f.getEncodedSize = 2 + f.dataSize := by simp only [getEncodedSize, hf]
      simp only [dataSize_eq_of_take hsame (show 2 ≤ f.getEncodedSize by omega),
        slice_eq_of_take hsame (show 2 + f.dataSize ≤ f.getEncodedSize by omega)]

/-- The remaining size depends on the received bytes only. For a prefix of a well-formed frame
it is positive until the frame is complete, and it never reaches past it. -/
lemma WellFormed.remaining (h : f.WellFormed) {n : Nat} (hn : n ≤ f.getEncodedSize)
    (hsame : g.bytes.take n = f.bytes.take n) :
    ∃ k, g.getRemainingSize n = some k ∧ n + k ≤ f.getEncodedSize ∧
      (k = 0 → n = f.getEncodedSize) := by
  by_cases hzero : n < 1
  · exact ⟨1, by rw [getRemainingSize, if_pos hzero], by have := h.encodedSize_bounds; omega,
      by simp⟩
  have htype := headerType_eq_of_take hsame (by omega)
  rw [getRemainingSize, if_neg hzero, contentSize, htype]
  simp only [WellFormed, message] at h
  simp only [getEncodedSize] at hn ⊢
  cases hf : f.headerType with
  | none => simp [hf] at h
  | some t =>
    simp only [hf] at h hn ⊢
    cases t with
    | data =>
      simp only at h hn ⊢
      split_ifs at h with hfit
      · by_cases hone : n - 1 < 1
        · exact ⟨1 - (n - 1), by rw [if_pos hone]; rfl, by omega, by omega⟩
        · have hsize := dataSize_eq_of_take hsame (by omega)
          refine ⟨1 + f.dataSize - (n - 1), ?_, by omega, by omega⟩
          rw [if_neg hone, hsize, if_neg (by omega)]
          rfl
      · simp at h
    | _ => exact ⟨_, rfl, by simp only at hn ⊢; omega, by simp only at hn ⊢; omega⟩

end ExpansionFrame

variable {f : ExpansionFrame} {σ : Type*}

/-! ### Encoding -/

/-- The bytes that a well-formed frame puts on the line. -/
def ExpansionFrame.encoded (f : ExpansionFrame) : List UInt8 :=
  f.used ++ [expansionProtocolGetChecksum f.used]

lemma ExpansionFrame.WellFormed.encode (h : f.WellFormed) (line : List UInt8) :
    expansionProtocolEncode sendAll f line = (.ok, line ++ f.encoded) := by
  have hlen := f.length_eq
  obtain ⟨hpos, hle⟩ := h.encodedSize_bounds
  have hused : (f.bytes.take f.getEncodedSize).length = f.getEncodedSize := by
    rw [List.length_take]; omega
  simp [expansionProtocolEncode, sendAll, hused, show f.getEncodedSize ≠ 0 by omega,
    ExpansionFrame.encoded, ExpansionFrame.used]

/-! ### Decoding what was encoded -/

/-- A chunked line serves a non-empty part of what is asked for, and keeps the rest. -/
lemma receiveChunks_spec {chunks : List (List UInt8)} (hne : [] ∉ chunks) {size : Nat}
    (hsize : 0 < size) (hline : chunks.flatten ≠ []) :
    (receiveChunks.receive size chunks).1 ≠ [] ∧
      [] ∉ (receiveChunks.receive size chunks).2 ∧
      chunks.flatten =
        (receiveChunks.receive size chunks).1 ++ (receiveChunks.receive size chunks).2.flatten := by
  cases chunks with
  | nil => exact absurd rfl hline
  | cons c cs =>
    have hc : c ≠ [] := fun h => hne (h ▸ List.mem_cons_self)
    have hcs : [] ∉ cs := fun h => hne (List.mem_cons_of_mem _ h)
    simp only [receiveChunks]
    split_ifs with hfit
    · exact ⟨hc, hcs, rfl⟩
    · have hdrop : c.drop size ≠ [] := by rw [Ne, List.drop_eq_nil_iff]; omega
      have htake : c.take size ≠ [] := by
        rw [Ne, List.take_eq_nil_iff]
        rintro (h | h)
        · omega
        · exact hc h
      refine ⟨htake, ?_, ?_⟩
      · rw [List.mem_cons]
        rintro (h | h)
        · exact hdrop h.symm
        · exact hcs h
      · rw [List.flatten_cons, List.flatten_cons, ← List.append_assoc, List.take_append_drop]

/-- The receive loop fills in a well-formed frame, however the line is cut, and leaves what
comes behind it. -/
lemma ExpansionFrame.WellFormed.decodeLoop (h : f.WellFormed) {n : Nat} {mem : ExpansionFrame}
    {chunks : List (List UInt8)} {rest : List UInt8} (hn : n ≤ f.getEncodedSize)
    (hsame : mem.bytes.take n = f.bytes.take n) (hne : [] ∉ chunks)
    (hline : chunks.flatten = f.used.drop n ++ rest) :
    ∃ mem' chunks', decodeLoop receiveChunks mem n chunks =
        some (⟨.ok, mem', chunks'⟩, f.getEncodedSize) ∧
      mem'.bytes.take f.getEncodedSize = f.bytes.take f.getEncodedSize ∧
      [] ∉ chunks' ∧ chunks'.flatten = rest := by
  have hlen := f.length_eq
  have hmem := mem.length_eq
  have hsize := h.encodedSize_bounds.2
  have hused : f.used.length = f.getEncodedSize := by
    rw [ExpansionFrame.used, List.length_take]; omega
  obtain ⟨k, hrem, hle, hdone⟩ := h.remaining hn hsame
  rw [FlipperZero.decodeLoop, hrem]
  cases k with
  | zero =>
    have hfull := hdone rfl
    refine ⟨mem, chunks, by rw [hfull], hfull ▸ hsame, hne, ?_⟩
    rw [hline, hfull, List.drop_of_length_le (by omega), List.nil_append]
  | succ k =>
    have hfit : n + (k + 1) ≤ sizeofExpansionFrame := by omega
    have hpending : f.used.drop n ≠ [] := by rw [Ne, List.drop_eq_nil_iff]; omega
    obtain ⟨hsome, hne', hsplit⟩ := receiveChunks_spec hne (Nat.succ_pos k) (by
      rw [hline]
      exact fun hnil => hpending (List.append_eq_nil_iff.mp hnil).1)
    have hbound := receiveChunks.receive_le (k + 1) chunks
    set received := receiveChunks.receive (k + 1) chunks with hreceived
    have hpos : received.1.length ≠ 0 := fun hnil => hsome (List.length_eq_zero_iff.mp hnil)
    have hpart : received.1 = (f.bytes.drop n).take received.1.length := by
      have hcut := congrArg (List.take received.1.length) (hsplit.symm.trans hline)
      rw [List.take_left, List.take_append_of_le_length (by rw [List.length_drop]; omega),
        ExpansionFrame.used, List.drop_take, List.take_take,
        Nat.min_eq_left (by omega)] at hcut
      exact hcut
    have hrest : received.2.flatten = f.used.drop (n + received.1.length) ++ rest := by
      have hcut := congrArg (List.drop received.1.length) (hsplit.symm.trans hline)
      rwa [List.drop_left, List.drop_append_of_le_length (by rw [List.length_drop]; omega),
        List.drop_drop] at hcut
    simp only [dif_pos hfit, ← hreceived, if_neg hpos]
    refine ExpansionFrame.WellFormed.decodeLoop h (by omega) ?_ hne' hrest
    rw [ExpansionFrame.store, take_overwrite (by omega), hsame, List.take_add, ← hpart]
termination_by f.getEncodedSize - n
decreasing_by
  exact Nat.sub_lt_sub_left (by omega) (Nat.lt_add_of_pos_right (Nat.pos_of_ne_zero hpos))

lemma ExpansionFrame.WellFormed.decode (h : f.WellFormed) (mem : ExpansionFrame)
    {chunks : List (List UInt8)} {rest : List UInt8} (hne : [] ∉ chunks)
    (hline : chunks.flatten = f.encoded ++ rest) :
    ∃ mem' chunks', expansionProtocolDecode receiveChunks mem chunks =
        some ⟨.ok, mem', chunks'⟩ ∧
      mem'.message = f.message ∧ [] ∉ chunks' ∧ chunks'.flatten = rest := by
  obtain ⟨mem', chunks', hloop, hsame, hne', hline'⟩ :=
    @ExpansionFrame.WellFormed.decodeLoop f h 0 mem chunks
      (expansionProtocolGetChecksum f.used :: rest) (Nat.zero_le _) (by simp) hne (by
        rw [hline, ExpansionFrame.encoded]; simp)
  obtain ⟨hsome, hne'', hsplit⟩ := receiveChunks_spec hne' Nat.one_pos (by simp [hline'])
  have hbound := receiveChunks.receive_le 1 chunks'
  rw [hline'] at hsplit
  -- A request for one byte gets exactly the checksum.
  have hchecksum : (receiveChunks.receive 1 chunks').1 = [expansionProtocolGetChecksum f.used] ∧
      (receiveChunks.receive 1 chunks').2.flatten = rest := by
    revert hsome hbound hsplit
    cases (receiveChunks.receive 1 chunks').1 with
    | nil => intro hsome; exact absurd rfl hsome
    | cons b bs =>
      intro _ hsplit hbound
      have hbs : bs = [] := by
        rw [List.length_cons] at hbound
        exact List.length_eq_zero_iff.mp (by omega)
      simp only [hbs, List.cons_append, List.nil_append, List.cons.injEq] at hsplit
      exact ⟨by rw [hbs, hsplit.1], hsplit.2.symm⟩
  refine ⟨mem', (receiveChunks.receive 1 chunks').2, ?_, h.message_congr hsame, hne'',
    hchecksum.2⟩
  simp [expansionProtocolDecode, decodeChecksum, hloop, hchecksum.1, hsame, ExpansionFrame.used]

lemma decodeMany_chunks (frames : List ExpansionFrame) (hwf : ∀ f ∈ frames, f.WellFormed)
    (mem : ExpansionFrame) (chunks : List (List UInt8)) (hne : [] ∉ chunks)
    (hline : chunks.flatten = (frames.map ExpansionFrame.encoded).flatten) :
    ∃ out, decodeMany receiveChunks frames.length mem chunks = some (out, []) ∧
      (∀ r ∈ out, r.1 = .ok) ∧ out.map (fun r => r.2.message) = frames.map (·.message) := by
  induction frames generalizing mem chunks with
  | nil =>
    have hnil : chunks = [] := by
      cases chunks with
      | nil => rfl
      | cons c cs =>
        have hc : c = [] := by simp at hline; exact hline.1
        exact absurd (hc ▸ List.mem_cons_self) hne
    exact ⟨[], by rw [hnil]; rfl, by simp, rfl⟩
  | cons f fs ih =>
    obtain ⟨mem', chunks', hdecode, hmessage, hne', hline'⟩ :=
      (hwf f List.mem_cons_self).decode mem hne (by rw [hline]; rfl)
    obtain ⟨out, hmany, hok, hmessages⟩ :=
      ih (fun g hg => hwf g (List.mem_cons_of_mem _ hg)) mem' chunks' hne' hline'
    refine ⟨(.ok, mem') :: out, ?_, ?_, ?_⟩
    · simp [decodeMany, hdecode, hmany]
    · rintro r (_ | ⟨_, hr⟩)
      · rfl
      · exact hok r hr
    · simp only [List.map_cons, hmessage, hmessages]

/-! ### Arbitrary input -/

/-- The size of the frame that the bytes received so far announce. A malformed header announces
nothing behind itself. -/
def announcedFrameSize : List UInt8 → Nat
  | []        => 1
  | t :: rest =>
    match ExpansionFrameType.ofByte t with
    | some .heartbeat => 1
    | some .status    => 2
    | some .baudRate  => 5
    | some .control   => 2
    | some .data      =>
      match rest with
      | []     => 2
      | n :: _ => if n.toNat ≤ expansionProtocolMaxDataSize then 2 + n.toNat else 2
    | none            => 1

lemma announcedFrameSize_le_append (l m : List UInt8) :
    announcedFrameSize l ≤ announcedFrameSize (l ++ m) := by
  match l, m with
  | [], [] => exact Nat.le_refl _
  | [], t :: rest =>
    simp only [List.nil_append, announcedFrameSize]
    split
    · exact Nat.le_refl _
    · omega
    · omega
    · omega
    · split
      · omega
      · split_ifs <;> omega
    · exact Nat.le_refl _
  | [t], [] => exact Nat.le_refl _
  | [t], size :: rest =>
    simp only [List.cons_append, List.nil_append, announcedFrameSize]
    split
    · exact Nat.le_refl _
    · exact Nat.le_refl _
    · exact Nat.le_refl _
    · exact Nat.le_refl _
    · split_ifs <;> omega
    · exact Nat.le_refl _
  | t :: size :: rest, m => exact Nat.le_refl _

/-- The remaining size never leads out of the frame buffer or behind what the received bytes
announce. When nothing remains, more bytes do not change what is announced. -/
lemma ExpansionFrame.getRemainingSize_le {n k : Nat} (h : f.getRemainingSize n = some k)
    (hn : n ≤ announcedFrameSize (f.bytes.take n)) :
    n + k ≤ announcedFrameSize (f.bytes.take n) ∧ n + k ≤ sizeofExpansionFrame ∧
      (k = 0 → ∀ l, announcedFrameSize (f.bytes.take n ++ l) =
        announcedFrameSize (f.bytes.take n)) := by
  have hmax : sizeofExpansionFrame = 66 ∧ expansionProtocolMaxDataSize = 64 := ⟨rfl, rfl⟩
  obtain ⟨t, size, tail, hbytes⟩ : ∃ t size tail, f.bytes = t :: size :: tail := by
    have hlen := f.length_eq
    match f.bytes, hlen with
    | t :: size :: tail, _ => exact ⟨t, size, tail, rfl⟩
  have htype : f.headerType = ExpansionFrameType.ofByte t := by
    rw [ExpansionFrame.headerType, hbytes]; rfl
  have hsize : f.dataSize = size.toNat := by rw [ExpansionFrame.dataSize, hbytes]; rfl
  rw [ExpansionFrame.getRemainingSize] at h
  split_ifs at h with hzero
  · obtain rfl : n = 0 := by omega
    obtain rfl : 1 = k := Option.some.inj h
    exact ⟨by simp [announcedFrameSize], by omega, by simp⟩
  · obtain ⟨c, hc, hk⟩ := Option.map_eq_some_iff.mp h
    rw [ExpansionFrame.contentSize, htype, hsize] at hc
    obtain ⟨n, rfl⟩ : ∃ m, n = m + 1 := ⟨n - 1, by omega⟩
    simp only [hbytes, List.take_succ_cons, List.cons_append, announcedFrameSize] at hn ⊢
    cases hof : ExpansionFrameType.ofByte t with
    | none => simp [hof] at hc
    | some ty =>
      simp only [hof] at hc hn ⊢
      cases ty with
      | data =>
        simp only at hc hn ⊢
        cases n with
        | zero =>
          simp only [List.take_zero, List.nil_append] at hn ⊢
          obtain rfl : 1 = c := by simpa using hc
          exact ⟨by omega, by omega, fun hk => by omega⟩
        | succ n =>
          simp only [List.take_succ_cons, List.cons_append] at hn ⊢
          rw [if_neg (by omega)] at hc
          by_cases hfit : size.toNat ≤ expansionProtocolMaxDataSize
          · rw [if_neg (by omega), Option.some.injEq] at hc
            simp only [if_pos hfit] at hn ⊢
            exact ⟨by omega, by omega, fun _ _ => trivial⟩
          · rw [if_pos (by omega)] at hc
            cases hc
      | _ =>
        simp only [Option.some.injEq] at hc hn ⊢
        exact ⟨by omega, by omega, fun _ _ => trivial⟩

/-- The receive loop stays inside the frame buffer, for every callback. What it has received
is the start of the frame and no more than announced. After a success the announced size is
settled. -/
lemma decodeLoop_bounds (r : Receiver σ) {n : Nat} {mem : ExpansionFrame} {s : σ}
    (hn : n ≤ announcedFrameSize (mem.bytes.take n)) (hfit : n ≤ sizeofExpansionFrame) :
    ∃ (result : DecodeResult (σ × List UInt8)) (m : Nat),
      decodeLoop r.logged mem n (s, mem.bytes.take n) = some (result, m) ∧
        result.context.2.length ≤ announcedFrameSize result.context.2 ∧
        (result.status = .ok → ∀ l, announcedFrameSize (result.context.2 ++ l) =
          announcedFrameSize result.context.2) := by
  have hmem := mem.length_eq
  have hlen : (mem.bytes.take n).length = n := by rw [List.length_take]; omega
  rw [decodeLoop]
  cases hrem : mem.getRemainingSize n with
  | none => exact ⟨_, _, rfl, by rw [hlen]; exact hn, fun h => by cases h⟩
  | some k =>
    obtain ⟨hle, hbuf, hsettled⟩ := ExpansionFrame.getRemainingSize_le hrem hn
    cases k with
    | zero => exact ⟨_, _, rfl, by rw [hlen]; exact hn, fun _ => hsettled rfl⟩
    | succ k =>
      have hbound := r.receive_le (k + 1) s
      by_cases hnone : (r.logged.receive (k + 1) (s, mem.bytes.take n)).1.length = 0
      · simp only [dif_pos hbuf, if_pos hnone]
        refine ⟨_, _, rfl, ?_, fun h => by simp at h⟩
        rw [Receiver.logged_receive] at hnone
        have hnil : (r.receive (k + 1) s).1 = [] := List.length_eq_zero_iff.mp hnone
        simp only [Receiver.logged_receive, hnil, List.append_nil, hlen]
        exact hn
      · simp only [dif_pos hbuf, if_neg hnone]
        rw [Receiver.logged_receive] at hnone
        simp only [Receiver.logged_receive]
        have hwindow : n + (r.receive (k + 1) s).1.length ≤ sizeofExpansionFrame := by omega
        have htake : (mem.store n (r.receive (k + 1) s).1 hwindow).bytes.take
            (n + (r.receive (k + 1) s).1.length) =
              mem.bytes.take n ++ (r.receive (k + 1) s).1 :=
          take_overwrite (by omega) _
        have hmono := announcedFrameSize_le_append (mem.bytes.take n) (r.receive (k + 1) s).1
        rw [← htake]
        exact decodeLoop_bounds r (by rw [htake]; omega) hwindow
termination_by sizeofExpansionFrame - n
decreasing_by
  exact Nat.sub_lt_sub_left (by omega) (Nat.lt_add_of_pos_right (Nat.pos_of_ne_zero hnone))

lemma expansionProtocolDecode_bounds (r : Receiver σ) (mem : ExpansionFrame) (s : σ) :
    ∃ result, expansionProtocolDecode r.logged mem (s, []) = some result ∧
      result.context.2.length ≤ announcedFrameSize result.context.2 + 1 ∧
      (result.status = .errorFormat →
        result.context.2.length ≤ announcedFrameSize result.context.2) := by
  obtain ⟨⟨status, frame, s', log⟩, m, hloop, hle, hsettled⟩ :=
    @decodeLoop_bounds σ r 0 mem s (Nat.zero_le _) (Nat.zero_le _)
  rw [List.take_zero] at hloop
  simp only at hle hsettled
  simp only [expansionProtocolDecode, hloop, Option.map_some]
  by_cases hok : status = .ok
  · have hbound := r.receive_le 1 s'
    have hread : (log ++ (r.receive 1 s').1).length ≤
        announcedFrameSize (log ++ (r.receive 1 s').1) + 1 := by
      rw [hsettled hok, List.length_append]
      omega
    rw [if_pos hok]
    refine ⟨_, rfl, by simpa only [decodeChecksum, Receiver.logged_receive] using hread, ?_⟩
    simp only [decodeChecksum]
    split_ifs <;> simp
  · simp only [if_neg hok]
    exact ⟨_, rfl, by simp only; omega, fun _ => hle⟩

/-- The round trip and the bounds of the expansion protocol. Well-formed frames that were
encoded are decoded with valid checksums to frames that say the same, in order and with no byte
left, for every chunking of the line and whatever the frame buffer held before. For every
callback and every input, the decoder returns without leaving the frame buffer, and has
received no more than the frame that the received bytes announce and its checksum, of a
malformed header not even that. -/
theorem expansionProtocol_roundTrip_and_bounds :
    (∀ (frames : List ExpansionFrame) (mem : ExpansionFrame) (chunks : List (List UInt8)),
      (∀ f ∈ frames, f.WellFormed) → [] ∉ chunks →
      chunks.flatten = (frames.map fun f => (expansionProtocolEncode sendAll f []).2).flatten →
      ∃ out, decodeMany receiveChunks frames.length mem chunks = some (out, []) ∧
        (∀ r ∈ out, r.1 = .ok) ∧ out.map (fun r => r.2.message) = frames.map (·.message)) ∧
    ∀ {σ : Type} (r : Receiver σ) (mem : ExpansionFrame) (s : σ),
      ∃ result, expansionProtocolDecode r.logged mem (s, []) = some result ∧
        result.context.2.length ≤ announcedFrameSize result.context.2 + 1 ∧
        (result.status = .errorFormat →
          result.context.2.length ≤ announcedFrameSize result.context.2) := by
  refine ⟨fun frames mem chunks hwf hne hline => ?_, expansionProtocolDecode_bounds⟩
  refine decodeMany_chunks frames hwf mem chunks hne ?_
  rw [hline]
  congr 1
  refine List.map_congr_left fun f hf => ?_
  rw [(hwf f hf).encode, List.nil_append]

end FlipperZero
