import FlipperZero.SubGhz.StaticCodesFeed

/-!
# Sending static codes

What an encoder of a static code sends is received by the decoder of the same code. Every duration
may be off by less than the tolerance of a short one, and the decoder still reports the key as often
as it has been sent, but for the last time.
-/

namespace FlipperZero

open Foundation

/-! ### The levels of an encoder -/

/-- The encoder, asked for one level after the other. -/
def transmitter : Mealy SubGhzProtocolBlockEncoder Unit (Option (Bool × Nat)) where
  step encoder _ := encoder.yield

/-- The levels that an encoder sends when it is asked `n` times. -/
def sent (encoder : SubGhzProtocolBlockEncoder) (n : Nat) : List (Bool × Nat) :=
  (transmitter.outputs encoder (List.replicate n ())).filterMap id

lemma sent_succ (encoder : SubGhzProtocolBlockEncoder) (n : Nat) :
    sent encoder (n + 1) = encoder.yield.1.toList ++ sent encoder.yield.2 n := by
  simp only [sent, List.replicate_succ, Mealy.outputs_cons, transmitter]
  cases encoder.yield.1 <;> rfl

lemma sent_of_repeat_eq_zero (encoder : SubGhzProtocolBlockEncoder) (h : encoder.repeat = 0)
    (n : Nat) : sent encoder n = [] := by
  induction n generalizing encoder with
  | zero => rfl
  | succ n ih =>
    have hyield : encoder.yield = (none, { encoder with isRunning := false }) := by
      rw [SubGhzProtocolBlockEncoder.yield, if_pos (.inl h)]
    rw [sent_succ, hyield]
    exact ih { encoder with isRunning := false } h

/-- The encoder sends what is left of the levels, and then all of them as often as they are still to
be sent. -/
lemma sent_eq_take (encoder : SubGhzProtocolBlockEncoder) (times : Nat)
    (hrun : encoder.isRunning = true) (hsize : encoder.upload.length = encoder.sizeUpload)
    (hfront : encoder.front < encoder.sizeUpload) (htimes : encoder.repeat = times + 1) (n : Nat) :
    sent encoder n = (encoder.upload.drop encoder.front ++
      (List.replicate times encoder.upload).flatten).take n := by
  induction n generalizing encoder times with
  | zero => rw [List.take_zero]; rfl
  | succ n ih =>
    have hguard : ¬(encoder.repeat = 0 ∨ (!encoder.isRunning) = true) := by
      rw [htimes, hrun]
      simp
    have hlt : encoder.front < encoder.upload.length := hsize ▸ hfront
    rw [sent_succ, SubGhzProtocolBlockEncoder.yield, if_neg hguard, List.getElem?_eq_getElem hlt,
      List.drop_eq_getElem_cons hlt, List.cons_append, List.take_succ_cons, Option.toList_some,
      List.singleton_append]
    congr 1
    by_cases hlast : encoder.front + 1 = encoder.sizeUpload
    · rw [if_pos hlast, hlast, ← hsize, List.drop_length, List.nil_append]
      cases times with
      | zero =>
        rw [sent_of_repeat_eq_zero _ (Nat.sub_eq_of_eq_add htimes)]
        simp
      | succ times =>
        rw [List.replicate_succ, List.flatten_cons, hsize]
        exact ih { encoder with «repeat» := encoder.repeat - 1, front := 0 } times hrun hsize
          (Nat.zero_lt_of_lt hfront) (Nat.sub_eq_of_eq_add htimes)
    · rw [if_neg hlast]
      exact ih { encoder with front := encoder.front + 1 } times hrun hsize
        (Nat.lt_of_le_of_ne hfront hlast) htimes

/-- A running encoder that is asked often enough sends all levels as often as it has to. -/
lemma sent_eq_flatten (encoder : SubGhzProtocolBlockEncoder) (hrun : encoder.isRunning = true)
    (hsize : encoder.upload.length = encoder.sizeUpload) (hpos : 0 < encoder.sizeUpload)
    (hfront : encoder.front = 0) {n : Nat} (hn : encoder.repeat * encoder.sizeUpload ≤ n) :
    sent encoder n = (List.replicate encoder.repeat encoder.upload).flatten := by
  cases htimes : encoder.repeat with
  | zero => exact sent_of_repeat_eq_zero encoder htimes n
  | succ times =>
    rw [sent_eq_take encoder times hrun hsize (hfront ▸ hpos) htimes, hfront, List.drop_zero,
      ← List.flatten_cons, ← List.replicate_succ, ← htimes]
    apply List.take_of_length_le
    rw [List.length_flatten, List.map_replicate, List.sum_replicate_nat, hsize]
    exact hn

namespace StaticCode

variable {c : StaticCode}

/-! ### What is received -/

/-- A level that is received for one that has been sent. -/
def Jitter (c : StaticCode) (level received : Bool × Nat) : Prop :=
  received.1 = level.1 ∧ durationDiff received.2 level.2 < c.teDelta

/-- The bits of a key from the bit `i - 1` on. -/
def keyBits (data : BitVec 64) : Nat → List Bool
  | 0     => []
  | i + 1 => data.getLsbD i :: keyBits data i

lemma forall₂_jitter_pair {low high : Nat} {rest levels : List (Bool × Nat)}
    (h : List.Forall₂ c.Jitter ((false, low) :: (true, high) :: rest) levels) :
    ∃ low' high' levels', levels = (false, low') :: (true, high') :: levels' ∧
      durationDiff low' low < c.teDelta ∧ durationDiff high' high < c.teDelta ∧
      List.Forall₂ c.Jitter rest levels' := by
  obtain ⟨⟨_, low'⟩, _, ⟨rfl, hlow⟩, hnext, rfl⟩ := List.forall₂_cons_left_iff.mp h
  obtain ⟨⟨_, high'⟩, levels', ⟨rfl, hhigh⟩, hrest, rfl⟩ := List.forall₂_cons_left_iff.mp hnext
  exact ⟨low', high', levels', rfl, hlow, hhigh, hrest⟩

/-- A gap and a pulse are received as the bit they have been sent for. -/
lemma bitOf_of_jitter {bit : Bool} {rest levels : List (Bool × Nat)}
    (h : List.Forall₂ c.Jitter (c.sendBit bit ++ rest) levels) :
    ∃ low high levels', levels = (false, low) :: (true, high) :: levels' ∧
      c.bitOf low high = some bit ∧ List.Forall₂ c.Jitter rest levels' := by
  have hshort := c.short_le_long
  have hdelta := c.delta_le
  rw [sendBit] at h
  split_ifs at h with hbit <;> rw [List.cons_append, List.singleton_append] at h
  · obtain ⟨low, high, levels', rfl, hlow, hhigh, hrest⟩ := forall₂_jitter_pair h
    refine ⟨low, high, levels', rfl, ?_, hrest⟩
    rw [bitOf, if_pos ⟨hlow, Nat.lt_of_lt_of_le hhigh hdelta⟩, hbit]
  · obtain ⟨low, high, levels', rfl, hlow, hhigh, hrest⟩ := forall₂_jitter_pair h
    refine ⟨low, high, levels', rfl, ?_, hrest⟩
    have hnot : ¬ durationDiff low c.teShort < c.teDelta := by
      intro hnear
      have hnear := durationDiff_lt_iff.mp hnear
      have hlow := durationDiff_lt_iff.mp hlow
      omega
    rw [bitOf, if_neg fun hand => hnot hand.1, if_pos ⟨Nat.lt_of_lt_of_le hlow hdelta, hhigh⟩]
    cases bit <;> cases hlong : c.longHigh <;> simp_all

lemma carries_of_jitter {data : BitVec 64} {n : Nat} {rest levels : List (Bool × Nat)}
    (h : List.Forall₂ c.Jitter (c.sendKey data n ++ rest) levels) :
    ∃ body levels', levels = body ++ levels' ∧ c.Carries (keyBits data n) body ∧
      List.Forall₂ c.Jitter rest levels' := by
  induction n generalizing levels with
  | zero => exact ⟨[], levels, rfl, .nil, h⟩
  | succ n ih =>
    rw [sendKey, List.append_assoc] at h
    obtain ⟨low, high, levels', rfl, hbit, hrest⟩ := bitOf_of_jitter h
    obtain ⟨body, levels'', rfl, hbody, hrest⟩ := ih hrest
    exact ⟨(false, low) :: (true, high) :: body, levels'', rfl, .cons hbit hbody, hrest⟩

lemma durationDiff_of_jitter {x y z d delta : Nat} (hxy : durationDiff x y < d)
    (hyz : durationDiff y z + d ≤ delta) : durationDiff x z < delta := by
  have hdiff := durationDiff_lt_iff.mp (Nat.lt_succ_self (durationDiff y z))
  have hnear := durationDiff_lt_iff.mp hxy
  rw [durationDiff_lt_iff]
  omega

/-- A key that is sent again and again is received as a signal. -/
lemma signal_of_jitter {data : BitVec 64} {n times header : Nat}
    (hheader : durationDiff header c.header + c.teDelta ≤ c.headerDelta)
    {levels : List (Bool × Nat)}
    (h : List.Forall₂ c.Jitter (List.replicate times
      ((false, header) :: (true, c.sendStart) :: c.sendKey data n)).flatten levels) :
    c.Signal (List.replicate times (keyBits data n)) levels := by
  induction times generalizing levels with
  | zero =>
    rw [List.replicate_zero, List.flatten_nil, List.forall₂_nil_left_iff] at h
    rw [h]
    exact .nil
  | succ times ih =>
    rw [List.replicate_succ, List.flatten_cons, List.cons_append, List.cons_append] at h
    obtain ⟨gap, pulse, levels', rfl, hgap, hpulse, hkey⟩ := forall₂_jitter_pair h
    obtain ⟨body, levels'', rfl, hbody, hrest⟩ := carries_of_jitter hkey
    rw [List.replicate_succ]
    exact .cons (durationDiff_of_jitter hgap hheader)
      (durationDiff_of_jitter hpulse c.sendStart_le) hbody (ih hrest)

/-! ### Words -/

@[simp] lemma length_keyBits (data : BitVec 64) (n : Nat) : (keyBits data n).length = n := by
  induction n with
  | zero => rfl
  | succ n ih => rw [keyBits, List.length_cons, ih]

lemma getLsbD_foldl_keyBits (data x : BitVec 64) (n : Nat) {i : Nat} (hi : i < 64) :
    ((keyBits data n).foldl shiftIn x).getLsbD i =
      if i < n then data.getLsbD i else x.getLsbD (i - n) := by
  induction n generalizing x with
  | zero => rfl
  | succ n ih =>
    rw [keyBits, List.foldl_cons, ih]
    by_cases hlt : i < n
    · rw [if_pos hlt, if_pos (Nat.lt_succ_of_lt hlt)]
    · rw [if_neg hlt, getLsbD_shiftIn _ _ (Nat.lt_of_le_of_lt (Nat.sub_le i n) hi)]
      by_cases heq : i = n
      · rw [if_pos (by omega), if_pos (by omega), heq]
      · rw [if_neg (by omega), if_neg (by omega), Nat.sub_sub]

/-- The bits of a key that are sent. -/
def keyOf (data : BitVec 64) (n : Nat) : BitVec 64 := (data.setWidth n).setWidth 64

lemma word_keyBits (data : BitVec 64) (n : Nat) : word (keyBits data n) = keyOf data n := by
  apply BitVec.eq_of_getLsbD_eq
  intro i hi
  rw [word, getLsbD_foldl_keyBits data 0 n hi, keyOf, BitVec.getLsbD_setWidth,
    BitVec.getLsbD_setWidth, decide_eq_true hi, Bool.true_and]
  by_cases hlt : i < n
  · rw [if_pos hlt, decide_eq_true hlt, Bool.true_and]
  · rw [if_neg hlt, decide_eq_false hlt, Bool.false_and]
    exact BitVec.getLsbD_zero

/-! ### Round trips -/

lemma length_sendKey (data : BitVec 64) (n : Nat) : (c.sendKey data n).length = n * 2 := by
  induction n with
  | zero => rfl
  | succ n ih =>
    have hbit : (c.sendBit (data.getLsbD n)).length = 2 := by
      rw [sendBit]
      split_ifs <;> rfl
    rw [sendKey, List.length_append, ih, hbit, Nat.succ_mul, Nat.add_comm]

lemma toNat_setWidth_of_sends {n : BitVec 16} (h : c.sends n = true) :
    (n.setWidth 8).toNat = n.toNat := by
  have hle := c.upload_le n h
  have hmax := c.maxUpload_le
  rw [BitVec.toNat_setWidth, Nat.mod_eq_of_lt (by omega)]

lemma sent_deserialize (data : BitVec 64) {n : BitVec 16} (hsends : c.sends n = true)
    (times : Option Nat) :
    ∃ encoder, c.deserialize c.encoderAlloc data n times = some encoder ∧
      ∀ calls, times.getD 10 * (n.toNat * 2 + 2) ≤ calls →
        sent encoder calls = (List.replicate (times.getD 10)
          ((false, c.sendHeader n) :: (true, c.sendStart) :: c.sendKey data n.toNat)).flatten := by
  have hle := c.upload_le n hsends
  simp only [deserialize, getUpload, encoderAlloc, toNat_setWidth_of_sends hsends]
  rw [if_neg (by simp [hsends]), if_neg (Nat.not_lt.mpr hle)]
  refine ⟨_, rfl, fun calls hcalls => sent_eq_flatten _ rfl ?_ (Nat.succ_pos _) rfl hcalls⟩
  exact congrArg (· + 2) (length_sendKey data n.toNat)

end StaticCode

/-- A key that is reported is sent behind a header that is found. -/
lemma StaticProtocol.sendHeader_le (protocol : StaticProtocol) {data : BitVec 64} {n : BitVec 16}
    (hsends : protocol.code.sends n = true)
    (haccepts : protocol.code.accepts data (n.setWidth 8) = true) :
    durationDiff (protocol.code.sendHeader n) protocol.code.header + protocol.code.teDelta ≤
      protocol.code.headerDelta := by
  cases protocol
  case came =>
    have hwidth := StaticCode.toNat_setWidth_of_sends hsends
    have hcount := of_decide_eq_true haccepts
    have hn : n = 12 ∨ n = 18 ∨ n = 25 ∨ n = 24 := by
      simp only [BitVec.toNat_eq, hwidth] at hcount ⊢
      exact hcount
    rcases hn with rfl | rfl | rfl | rfl <;> decide
  all_goals
    simp only [code, subghzProtocolNiceFlo, subghzProtocolGateTx, subghzProtocolHoltek,
      subghzProtocolAnsonic, subghzProtocolDoitrand]
    decide

namespace StaticCode

/-- What is sent is received: a new encoder that is given a key with a length that is sent takes
it, and a decoder that is fed with what the encoder sends, every duration off by less than the
tolerance of a short one, reports nothing but this key, as often as it has been sent but for the
last time. A decoder that does not wait for a header loses no more than the first one besides, and
reports at most two other keys before. -/
theorem reports_sent (protocol : StaticProtocol) (data : BitVec 64) (n : BitVec 16)
    (times : Option Nat) (hsends : protocol.code.sends n = true)
    (haccepts : protocol.code.accepts (keyOf data n.toNat) (n.setWidth 8) = true) :
    ∃ encoder, protocol.code.deserialize protocol.code.encoderAlloc data n times = some encoder ∧
      ∀ calls decoder levels, times.getD 10 * (n.toNat * 2 + 2) ≤ calls →
        List.Forall₂ protocol.code.Jitter (sent encoder calls) levels →
        (decoder.parserStep = .reset → protocol.code.reports decoder levels =
          List.replicate (times.getD 10 - 1) (keyOf data n.toNat, n.setWidth 8)) ∧
        ∃ stale, stale.length ≤ 2 ∧ protocol.code.reports decoder levels =
          stale ++ List.replicate (times.getD 10 - 2) (keyOf data n.toNat, n.setWidth 8) := by
  obtain ⟨encoder, hencoder, hsent⟩ := sent_deserialize data hsends times
  refine ⟨encoder, hencoder, fun calls decoder levels hcalls hlevels => ?_⟩
  rw [hsent calls hcalls] at hlevels
  have hsignal := signal_of_jitter (protocol.sendHeader_le hsends haccepts) hlevels
  have hreport : protocol.code.report (keyBits data n.toNat) =
      some (keyOf data n.toNat, n.setWidth 8) := by
    have hcount : count (keyBits data n.toNat) = n.setWidth 8 := by
      rw [count, length_keyBits, BitVec.ofNat_toNat]
    rw [report, word_keyBits, hcount, if_pos haccepts]
  obtain ⟨⟨stale, hle, hstale⟩, hreset⟩ := reports_keys protocol decoder hsignal
  rw [List.dropLast_replicate, List.filterMap_replicate_of_some hreport] at hreset
  rw [List.tail_replicate, List.dropLast_replicate, List.filterMap_replicate_of_some hreport,
    Nat.sub_sub] at hstale
  exact ⟨hreset, stale, hle, hstale⟩

/-- A remote that sends the key `0xABC` of twelve bits. -/
theorem reports_sent_came : ∃ encoder,
    subghzProtocolCame.deserialize subghzProtocolCame.encoderAlloc 0xABC 12 (some 3) =
      some encoder ∧
    subghzProtocolCame.reports ⟨.reset, 0, 0, 0⟩ (sent encoder 78) =
      [(0xABC, 12), (0xABC, 12)] := by
  obtain ⟨encoder, hencoder, hreports⟩ :=
    reports_sent .came 0xABC 12 (some 3) (by decide) (by decide)
  refine ⟨encoder, hencoder, (hreports 78 ⟨.reset, 0, 0, 0⟩ _ (by decide) ?_).1 rfl⟩
  exact List.forall₂_same.mpr fun level _ => ⟨rfl, by simp [durationDiff, StaticProtocol.code,
    subghzProtocolCame]⟩

end StaticCode

end FlipperZero
