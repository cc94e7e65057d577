import FlipperZero.Foundation.Calls
import FlipperZero.Nfc.EmvPoller
import Mathlib.Data.Finite.Prod

/-!
# Whether the decoders come to an end

An item is left through its 8-bit end offset, which can wrap around. The decoder then comes back to
an item that it has decoded before, and never ends.
-/

namespace FlipperZero.Nfc

open Foundation Relation

/-! ### Checks -/

/-- The checks on the length of an item. -/
def emvChecksPass (tag : UInt16) (tlen : UInt8) : Bool :=
  match tag.toNat with
  | 0x9F4F => tlen < 50
  | 0x80   => tlen - 2 < 255
  | 0x82   => tlen == 2
  | 0x9F12 => tlen < 17
  | _      => true

def EmvOp.passes : EmvOp → Bool
  | .check ok => ok
  | _         => true

lemma runEmvOps_isSome (ops : List EmvOp) (app : EmvMemory) :
    (runEmvOps ops app).isSome = ops.all EmvOp.passes := by
  induction ops generalizing app with
  | nil => rfl
  | cons op ops ih =>
    rw [runEmvOps, List.all_cons]
    cases op with
    | check ok => cases ok <;> simp [EmvOp.run, EmvOp.passes, ih]
    | read src n => simp [EmvOp.run, EmvOp.passes, ih]
    | write dest off bytes =>
      simp only [EmvOp.run, EmvOp.passes, Bool.true_and]
      split <;> exact ih _

lemma emvTrack2Pan_passes (buff : EmvMemory) (p : UInt32) (xs : List Nat) :
    (emvTrack2Pan buff p xs).all EmvOp.passes := by
  induction xs with
  | nil => rfl
  | cons x xs ih =>
    rw [emvTrack2Pan]
    split_ifs
    · rfl
    · simpa [EmvOp.passes] using ih

lemma emvTrack2Equiv_passes (buff : EmvMemory) (p : UInt32) (xs : List Nat) (len : UInt8) :
    (emvTrack2Equiv buff p xs len).all EmvOp.passes := by
  induction xs generalizing len with
  | nil => rfl
  | cons x xs ih =>
    rw [emvTrack2Equiv]
    split_ifs
    · rfl
    · rfl
    · simpa [EmvOp.passes] using ih (len + 2)

lemma emvDecodeTlvTag_passes (buff : EmvMemory) (p : UInt32) (tag : UInt16) (tlen : UInt8)
    (app : EmvMemory) :
    (emvDecodeTlvTag buff p tag tlen app).all EmvOp.passes = emvChecksPass tag tlen := by
  unfold emvDecodeTlvTag emvChecksPass
  generalize tag.toNat = t
  split
  case h_14 =>
    split_ifs
    · rfl
    · split <;> rfl
  case h_21 => split_ifs <;> rfl
  case h_28 => split <;> simp_all
  all_goals
    simp [emvCopy, emvCopy16, EmvOp.passes, emvTrack2Pan_passes, emvTrack2Equiv_passes]

lemma runEmvOps_tlvTag (buff : EmvMemory) (p : UInt32) (tag : UInt16) (tlen : UInt8)
    (app : EmvMemory) :
    (runEmvOps (emvDecodeTlvTag buff p tag tlen app) app).isSome = emvChecksPass tag tlen := by
  rw [runEmvOps_isSome, emvDecodeTlvTag_passes]

/-! ### The items of an answer -/

/-- A place in an answer: where a value starts, its length, and the offset of an item in it. -/
abbrev EmvPlace := UInt32 × UInt8 × UInt8

/-- The item at a place: none behind the value, and none in a status word. -/
def emvItem (buff : EmvMemory) : EmvPlace → Option EmvHeader
  | (base, len, i) => if i < len then emvParseTag buff base len.toUInt16 i else none

/-- The value of the item is made of items. -/
def emvConstructed (buff : EmvMemory) : EmvPlace → Bool
  | (base, _, i) => buff (base + i.toUInt32) &&& 32 == 32

namespace EmvPlace

/-- The first item in the value. -/
def value (p : EmvPlace) (header : EmvHeader) : EmvPlace :=
  (p.1 + header.off.toUInt32, header.tlen, 0)

/-- The item behind the value. -/
def behind (p : EmvPlace) (header : EmvHeader) : EmvPlace :=
  (p.1, p.2.1, header.off + header.tlen)

end EmvPlace

/-- The decoder decodes the value of a constructed item and then the next item; a check that fails
stops it. -/
def emvNextPlaces (buff : EmvMemory) (p : EmvPlace) : Option (List EmvPlace) :=
  match emvItem buff p with
  | none        => some []
  | some header =>
    if emvConstructed buff p then some [p.value header, p.behind header]
    else if emvChecksPass header.tag header.tlen then some [p.behind header]
    else none

def emvCalls (buff : EmvMemory) : Calls EmvPlace := ⟨emvNextPlaces buff⟩

def EmvEnd.completed {α : Type} : EmvEnd α → Bool
  | .returned _ => true
  | .crashed    => false

lemma emvDecodeResponseTlv_eval (buff : EmvMemory) (n : Nat) (base : UInt32) (len i : UInt8)
    (success : Bool) (app : EmvMemory) :
    (emvDecodeResponseTlv buff n base len i success app).map EmvEnd.completed =
      (emvCalls buff).eval n (base, len, i) := by
  induction n generalizing base len i success app with
  | zero => rfl
  | succ n ih =>
    rw [emvDecodeResponseTlv]
    by_cases hi : i < len
    swap
    · have hsub : (emvCalls buff).sub (base, len, i) = some [] := by
        simp only [emvCalls, emvNextPlaces, emvItem, if_neg hi]
      rw [if_neg hi, Calls.eval_of_sub hsub]
      rfl
    rw [if_pos hi]
    cases hparse : emvParseTag buff base len.toUInt16 i with
    | none =>
      have hsub : (emvCalls buff).sub (base, len, i) = some [] := by
        simp only [emvCalls, emvNextPlaces, emvItem, if_pos hi, hparse]
      rw [Calls.eval_of_sub hsub]
      rfl
    | some header =>
      obtain ⟨tag, tlen, j⟩ := header
      have hitem : emvItem buff (base, len, i) = some ⟨tag, tlen, j⟩ := by
        rw [emvItem, if_pos hi, hparse]
      simp only
      by_cases hcons : (buff (base + i.toUInt32) &&& 32 == 32) = true
      · -- the value of a constructed item comes before the next item
        have hconstructed : emvConstructed buff (base, len, i) = true := hcons
        have hsub : (emvCalls buff).sub (base, len, i) =
            some [(base + j.toUInt32, tlen, 0), (base, len, j + tlen)] := by
          simp only [emvCalls, emvNextPlaces, hitem, if_pos hconstructed, EmvPlace.value,
            EmvPlace.behind]
        rw [if_pos hcons, Calls.eval_of_sub hsub, evalAll,
          ← ih (base + j.toUInt32) tlen 0 false app]
        cases emvDecodeResponseTlv buff n (base + j.toUInt32) tlen 0 false app with
        | none => rfl
        | some result =>
          cases result with
          | crashed => rfl
          | returned result =>
            simp only [Option.map_some, EmvEnd.completed, Option.bind_some, if_true, evalAll,
              ih base len (j + tlen) true result.2]
            cases (emvCalls buff).eval n (base, len, j + tlen) with
            | none => rfl
            | some done => cases done <;> rfl
      · have hprimitive : ¬ emvConstructed buff (base, len, i) = true := hcons
        have hsome := runEmvOps_tlvTag buff (base + j.toUInt32) tag tlen app
        rw [if_neg hcons]
        cases hops : runEmvOps (emvDecodeTlvTag buff (base + j.toUInt32) tag tlen app) app with
        | none =>
          rw [hops] at hsome
          have hsub : (emvCalls buff).sub (base, len, i) = none := by
            simp only [emvCalls, emvNextPlaces, hitem, if_neg hprimitive, ← hsome]
            rfl
          rw [Calls.eval_of_stop hsub]
          rfl
        | some app' =>
          rw [hops] at hsome
          have hsub : (emvCalls buff).sub (base, len, i) = some [(base, len, j + tlen)] := by
            simp only [emvCalls, emvNextPlaces, hitem, if_neg hprimitive, ← hsome]
            rfl
          rw [Calls.eval_of_tail hsub]
          exact ih base len (j + tlen) true app'

/-- The decoder comes to an end, also where a check stops the program. -/
def EndsAt {α : Type} (run : Nat → Option α) : Prop := ∃ n a, run n = some a

instance finiteUInt8 : Finite UInt8 := Finite.of_injective UInt8.toFin fun _ _ => UInt8.toFin_inj.mp
instance finiteUInt32 : Finite UInt32 :=
  Finite.of_injective UInt32.toFin fun _ _ => UInt32.toFin_inj.mp

/-! ### Headers and offsets -/

variable {buff : EmvMemory} {p q : EmvPlace}

/-- Where the header of an item leads: to the first item in its value, and behind it unless a check
on its length fails. -/
inductive EmvLeads (buff : EmvMemory) (p : EmvPlace) : EmvPlace → Prop
  | value {header : EmvHeader} (hitem : emvItem buff p = some header)
    (hconstructed : emvConstructed buff p = true) : EmvLeads buff p (p.value header)
  | behind {header : EmvHeader} (hitem : emvItem buff p = some header)
    (hpasses : emvConstructed buff p = true ∨ emvChecksPass header.tag header.tlen = true) :
    EmvLeads buff p (p.behind header)

def EmvFails (buff : EmvMemory) (p : EmvPlace) : Prop :=
  ∃ header ∈ emvItem buff p, emvConstructed buff p = false ∧
    emvChecksPass header.tag header.tlen = false

/-- A place leads to an item whose check fails. -/
def EmvLeadsToFailure (buff : EmvMemory) (p : EmvPlace) : Prop :=
  ∃ q, ReflTransGen (EmvLeads buff) p q ∧ EmvFails buff q

/-- Where the decoder goes from an item: it does not come behind one when a check fails in it. -/
inductive EmvGoes (buff : EmvMemory) (p : EmvPlace) : EmvPlace → Prop
  | value {header : EmvHeader} (hitem : emvItem buff p = some header)
    (hconstructed : emvConstructed buff p = true) : EmvGoes buff p (p.value header)
  | behind {header : EmvHeader} (hitem : emvItem buff p = some header)
    (hconstructed : emvConstructed buff p = true)
    (hvalue : ¬ EmvLeadsToFailure buff (p.value header)) : EmvGoes buff p (p.behind header)
  | next {header : EmvHeader} (hitem : emvItem buff p = some header)
    (hprimitive : emvConstructed buff p = false)
    (hpasses : emvChecksPass header.tag header.tlen = true) : EmvGoes buff p (p.behind header)

lemma sub_of_constructed {header : EmvHeader} (hitem : emvItem buff p = some header)
    (hconstructed : emvConstructed buff p = true) :
    (emvCalls buff).sub p = some [p.value header, p.behind header] := by
  simp only [emvCalls, emvNextPlaces, hitem, if_pos hconstructed]

lemma sub_of_primitive {header : EmvHeader} (hitem : emvItem buff p = some header)
    (hprimitive : ¬ emvConstructed buff p = true)
    (hpasses : emvChecksPass header.tag header.tlen = true) :
    (emvCalls buff).sub p = some [p.behind header] := by
  simp only [emvCalls, emvNextPlaces, hitem, if_neg hprimitive, if_pos hpasses]

lemma makes_iff_leads : (emvCalls buff).Makes p q ↔ EmvLeads buff p q := by
  constructor
  · rintro ⟨qs, hsub, hq⟩
    simp only [emvCalls, emvNextPlaces] at hsub
    split at hsub
    · obtain rfl := Option.some.inj hsub
      cases hq
    · next header hitem =>
      split_ifs at hsub with hconstructed hpasses
      · obtain rfl := Option.some.inj hsub
        rcases List.mem_pair.mp hq with rfl | rfl
        · exact .value hitem hconstructed
        · exact .behind hitem (.inl hconstructed)
      · obtain rfl := Option.some.inj hsub
        obtain rfl := List.mem_singleton.mp hq
        exact .behind hitem (.inr hpasses)
  · rintro (⟨hitem, hconstructed⟩ | ⟨hitem, hpasses⟩)
    · exact ⟨_, sub_of_constructed hitem hconstructed, List.mem_cons_self⟩
    · by_cases hconstructed : emvConstructed buff p = true
      · exact ⟨_, sub_of_constructed hitem hconstructed,
          List.mem_cons_of_mem _ List.mem_cons_self⟩
      · exact ⟨_, sub_of_primitive hitem hconstructed (hpasses.resolve_left hconstructed),
          List.mem_cons_self⟩

lemma sub_eq_none_iff_fails : (emvCalls buff).sub p = none ↔ EmvFails buff p := by
  simp only [emvCalls, emvNextPlaces, EmvFails, Option.mem_def]
  cases hitem : emvItem buff p with
  | none => simp
  | some header =>
    simp only [Option.some.injEq, exists_eq_left']
    split_ifs with hconstructed hpasses <;> simp_all

lemma stops_iff_leadsToFailure : (emvCalls buff).Stops p ↔ EmvLeadsToFailure buff p := by
  have hleads : (emvCalls buff).Makes = EmvLeads buff :=
    funext₂ fun _ _ => propext makes_iff_leads
  rw [Calls.Stops, EmvLeadsToFailure, hleads]
  simp only [sub_eq_none_iff_fails]

lemma reaches_iff_goes : (emvCalls buff).Reaches p q ↔ EmvGoes buff p q := by
  constructor
  · rintro ⟨front, rest, hsub, hfront⟩
    simp only [emvCalls, emvNextPlaces] at hsub
    split at hsub
    · simp at hsub
    · next header hitem =>
      split_ifs at hsub with hconstructed hpasses
      · cases front with
        | nil =>
          obtain ⟨rfl, -⟩ := List.cons.inj (Option.some.inj hsub)
          exact .value hitem hconstructed
        | cons r front =>
          obtain ⟨rfl, hrest⟩ := List.cons.inj (Option.some.inj hsub)
          obtain ⟨rfl, rfl, -⟩ : front = [] ∧ q = p.behind header ∧ rest = [] := by
            simpa [eq_comm] using List.append_eq_singleton_iff.mp hrest.symm
          exact .behind hitem hconstructed
            (stops_iff_leadsToFailure.not.mp (hfront _ List.mem_cons_self))
      · obtain ⟨-, rfl, -⟩ : front = [] ∧ q = p.behind header ∧ rest = [] := by
          simpa [eq_comm] using List.append_eq_singleton_iff.mp (Option.some.inj hsub).symm
        exact .next hitem (Bool.eq_false_iff.mpr hconstructed) hpasses
  · rintro (⟨hitem, hconstructed⟩ | ⟨hitem, hconstructed, hvalue⟩ | ⟨hitem, hprimitive, hpasses⟩)
    · exact ⟨[], _, sub_of_constructed hitem hconstructed, by simp⟩
    · refine ⟨[_], [], sub_of_constructed hitem hconstructed, fun r hr => ?_⟩
      obtain rfl := List.mem_singleton.mp hr
      exact stops_iff_leadsToFailure.not.mpr hvalue
    · exact ⟨[], [], sub_of_primitive hitem (Bool.eq_false_iff.mp hprimitive) hpasses, by simp⟩

/-- The 8-bit offset of the value of an item or of its end wraps around, or the address of the
value does. -/
def EmvWraps (buff : EmvMemory) (p : EmvPlace) : Prop :=
  ∃ header ∈ emvItem buff p, header.off ≤ p.2.2 ∨ 256 ≤ header.off.toNat + header.tlen.toNat ∨
    2 ^ 32 ≤ p.1.toNat + header.off.toNat

/-- No item whose offset wraps around leads the decoder back to itself. -/
def EmvNeverBack (buff : EmvMemory) (p : EmvPlace) : Prop :=
  ∀ q, ReflTransGen (EmvGoes buff) p q → EmvWraps buff q → ¬ TransGen (EmvGoes buff) q q

/-- Where no offset wraps around, the decoder moves on through the answer. -/
lemma goes_lt (hgoes : EmvGoes buff p q) (hwraps : ¬ EmvWraps buff p) :
    p.1.toNat + p.2.2.toNat < q.1.toNat + q.2.2.toNat := by
  have hoff (header : EmvHeader) (hitem : emvItem buff p = some header) :
      p.2.2.toNat < header.off.toNat ∧ header.off.toNat + header.tlen.toNat < 256 ∧
        p.1.toNat + header.off.toNat < 2 ^ 32 := by
    by_contra hfits
    refine hwraps ⟨header, hitem, ?_⟩
    rw [UInt8.le_iff_toNat_le]
    omega
  have hbehind (header : EmvHeader) (hitem : emvItem buff p = some header) :
      p.1.toNat + p.2.2.toNat < (p.behind header).1.toNat + (p.behind header).2.2.toNat := by
    obtain ⟨hlt, hend, -⟩ := hoff header hitem
    have hstart : (p.behind header).1.toNat = p.1.toNat := rfl
    have hnext : (p.behind header).2.2.toNat = (header.off.toNat + header.tlen.toNat) % 256 :=
      UInt8.toNat_add _ _
    omega
  cases hgoes with
  | @value header hitem hconstructed =>
    obtain ⟨hlt, -, haddr⟩ := hoff header hitem
    rw [EmvPlace.value, UInt32.toNat_add, UInt8.toNat_toUInt32]
    omega
  | behind hitem hconstructed hvalue => exact hbehind _ hitem
  | next hitem hprimitive hpasses    => exact hbehind _ hitem

lemma endsAt_iff_of_eval {α π : Type} {C : Calls π} {p : π} {run : Nat → Option (EmvEnd α)}
    (h : ∀ n, (run n).map EmvEnd.completed = C.eval n p) : EndsAt run ↔ C.Ends p := by
  constructor
  · rintro ⟨n, a, hn⟩
    exact ⟨n, a.completed, by rw [← h, hn]; rfl⟩
  · rintro ⟨n, b, hn⟩
    rw [← h] at hn
    obtain ⟨a, ha, -⟩ := Option.map_eq_some_iff.mp hn
    exact ⟨n, a, ha⟩

/-- `emv_decode_response_tlv` ends if and only if no item whose offset wraps around leads back to
itself. -/
lemma emvDecodeResponseTlv_ends_iff (buff app : EmvMemory) (len : UInt8) :
    EndsAt (fun n => emvDecodeResponseTlv buff n 0 len 0 false app) ↔
      EmvNeverBack buff (0, len, 0) := by
  have hgoes : (emvCalls buff).Reaches = EmvGoes buff :=
    funext₂ fun _ _ => propext reaches_iff_goes
  rw [endsAt_iff_of_eval fun n => emvDecodeResponseTlv_eval buff n 0 len 0 false app,
    Calls.ends_iff_reaches, hgoes]
  constructor
  · exact fun hacyclic q hreach _ => hacyclic q hreach
  · intro hback q hreach hcycle
    obtain ⟨r, hwraps, hto, hcycle'⟩ :=
      exists_of_cycle (fun place => place.1.toNat + place.2.2.toNat) (fun _ _ => goes_lt) hcycle
    exact hback r (hreach.trans hto) hwraps hcycle'

/-- Without a wrap-around the decoder ends. -/
theorem emvDecodeResponseTlv_ends_of_noWrap {len : UInt8} (app : EmvMemory)
    (h : ∀ q, ReflTransGen (EmvGoes buff) (0, len, 0) q → ¬ EmvWraps buff q) :
    EndsAt (fun n => emvDecodeResponseTlv buff n 0 len 0 false app) :=
  (emvDecodeResponseTlv_ends_iff buff app len).mpr fun q hreach hwraps =>
    absurd hwraps (h q hreach)

/-! ### The items of a PDOL -/

/-- A place in a PDOL: the offset of an item, and how much has been put into the answer to it. -/
abbrev PdolPlace := UInt8 × UInt8

def pdolItem (app : EmvMemory) : PdolPlace → Option EmvHeader
  | (i, _) =>
    if i < emvPdolSize app then emvParseTag app 675 (emvPdolSize app).toUInt16 i else none

def pdolNextPlaces (app : EmvMemory) (p : PdolPlace) : Option (List PdolPlace) :=
  match pdolItem app p with
  | none        => some []
  | some header =>
    if p.2.toNat + header.tlen.toNat < 255 then some [(header.off, p.2 + header.tlen)] else none

def pdolCalls (app : EmvMemory) : Calls PdolPlace := ⟨pdolNextPlaces app⟩

lemma pdolBytes_length (behind : UInt16 → Nat → UInt8) (tag : UInt16) (tlen : UInt8) :
    (pdolBytes behind tag tlen).length = tlen.toNat := by
  unfold pdolBytes
  split <;> simp

lemma emvPreparePdol_eval (behind : UInt16 → Nat → UInt8) (app : EmvMemory) (n : Nat) (i : UInt8)
    {dest : List UInt8} {size : UInt8} (hsize : dest.length = size.toNat) :
    (emvPreparePdol behind app n i dest).map EmvEnd.completed =
      (pdolCalls app).eval n (i, size) := by
  induction n generalizing i dest size with
  | zero => rfl
  | succ n ih =>
    rw [emvPreparePdol]
    by_cases hi : i < emvPdolSize app
    swap
    · have hsub : (pdolCalls app).sub (i, size) = some [] := by
        simp only [pdolCalls, pdolNextPlaces, pdolItem, if_neg hi]
      rw [if_neg hi, Calls.eval_of_sub hsub]
      rfl
    rw [if_pos hi]
    cases hparse : emvParseTag app 675 (emvPdolSize app).toUInt16 i with
    | none =>
      have hsub : (pdolCalls app).sub (i, size) = some [] := by
        simp only [pdolCalls, pdolNextPlaces, pdolItem, if_pos hi, hparse]
      rw [Calls.eval_of_sub hsub]
      rfl
    | some header =>
      obtain ⟨tag, tlen, j⟩ := header
      simp only [hsize]
      by_cases hfits : size.toNat + tlen.toNat < 255
      · have hnext : (dest ++ pdolBytes behind tag tlen).length = (size + tlen).toNat := by
          rw [List.length_append, pdolBytes_length, hsize, UInt8.toNat_add]
          omega
        have hsub : (pdolCalls app).sub (i, size) = some [(j, size + tlen)] := by
          simp only [pdolCalls, pdolNextPlaces, pdolItem, if_pos hi, hparse, if_pos hfits]
        rw [if_pos hfits, ih j hnext, Calls.eval_of_tail hsub]
      · have hsub : (pdolCalls app).sub (i, size) = none := by
          simp only [pdolCalls, pdolNextPlaces, pdolItem, if_pos hi, hparse, if_neg hfits]
        rw [if_neg hfits, Calls.eval_of_stop hsub]
        rfl

/-- From an item `emv_prepare_pdol` goes to the next one, as long as there is room for what it asks
for. -/
inductive PdolGoes (app : EmvMemory) (p : PdolPlace) : PdolPlace → Prop
  | next {header : EmvHeader} (hitem : pdolItem app p = some header)
    (hroom : p.2.toNat + header.tlen.toNat < 255) : PdolGoes app p (header.off, p.2 + header.tlen)

/-- The 8-bit offset behind an item wraps around. -/
def PdolWraps (app : EmvMemory) (p : PdolPlace) : Prop :=
  ∃ header ∈ pdolItem app p, header.off ≤ p.1

/-- No item whose offset wraps around leads back to itself with nothing more prepared. -/
def PdolNeverBack (app : EmvMemory) (p : PdolPlace) : Prop :=
  ∀ q, ReflTransGen (PdolGoes app) p q → PdolWraps app q → ¬ TransGen (PdolGoes app) q q

lemma reaches_iff_pdolGoes {app : EmvMemory} {p q : PdolPlace} :
    (pdolCalls app).Reaches p q ↔ PdolGoes app p q := by
  constructor
  · rintro ⟨front, rest, hsub, -⟩
    simp only [pdolCalls, pdolNextPlaces] at hsub
    split at hsub
    · simp at hsub
    · next header hitem =>
      split_ifs at hsub with hroom
      obtain ⟨-, rfl, -⟩ : front = [] ∧ q = (header.off, p.2 + header.tlen) ∧ rest = [] := by
        simpa [eq_comm] using List.append_eq_singleton_iff.mp (Option.some.inj hsub).symm
      exact .next hitem hroom
  · rintro ⟨hitem, hroom⟩
    refine ⟨[], [], ?_, by simp⟩
    simp only [pdolCalls, pdolNextPlaces, hitem, if_pos hroom, List.nil_append]

lemma emvPreparePdol_ends_iff (behind : UInt16 → Nat → UInt8) (app : EmvMemory) :
    EndsAt (fun n => emvPreparePdol behind app n 0 []) ↔ PdolNeverBack app (0, 0) := by
  have hgoes : (pdolCalls app).Reaches = PdolGoes app :=
    funext₂ fun _ _ => propext reaches_iff_pdolGoes
  have heval (n : Nat) : (emvPreparePdol behind app n 0 []).map EmvEnd.completed =
    (pdolCalls app).eval n (0, 0) := emvPreparePdol_eval behind app n 0 rfl
  rw [endsAt_iff_of_eval heval, Calls.ends_iff_reaches, hgoes]
  constructor
  · exact fun hacyclic q hreach _ => hacyclic q hreach
  · intro hback q hreach hcycle
    have hrises : ∀ p q, PdolGoes app p q → ¬ PdolWraps app p → p.1.toNat < q.1.toNat := by
      rintro p _ ⟨hitem, hroom⟩ hwraps
      exact Nat.lt_of_not_le fun hle =>
        hwraps ⟨_, hitem, UInt8.le_iff_toNat_le.mpr hle⟩
    obtain ⟨r, hwraps, hto, hcycle'⟩ := exists_of_cycle (fun place => place.1.toNat) hrises hcycle
    exact hback r (hreach.trans hto) hwraps hcycle'

/-! ### The length of the log format -/

/-- Nothing is written to the address. -/
def EmvOp.Avoids (a : UInt32) : EmvOp → Prop
  | .write dest off bytes => ∀ start ∈ dest.offset,
      a.toNat < start + off ∨ start + off + bytes.length ≤ a.toNat
  | _ => True

lemma writeBytes_outside {app : EmvMemory} {addr : Nat} {bytes : List UInt8} {a : UInt32}
    (h : a.toNat < addr ∨ addr + bytes.length ≤ a.toNat) : writeBytes app addr bytes a = app a := by
  rw [writeBytes]
  rcases h with h | h
  · simp [Nat.not_le_of_lt h]
  · rw [List.getElem?_eq_none (by omega)]
    rfl

lemma runEmvOps_avoids {a : UInt32} {ops : List EmvOp} {app app' : EmvMemory}
    (h : ∀ op ∈ ops, op.Avoids a) (hrun : runEmvOps ops app = some app') : app' a = app a := by
  induction ops generalizing app with
  | nil => rw [← Option.some.inj hrun]
  | cons op ops ih =>
    obtain ⟨app₁, hop, hrest⟩ := Option.bind_eq_some_iff.mp hrun
    rw [ih (fun op' hop' => h op' (List.mem_cons_of_mem _ hop')) hrest]
    have havoid := h op List.mem_cons_self
    cases op with
    | check ok =>
      rw [EmvOp.run] at hop
      split_ifs at hop
      rw [← Option.some.inj hop]
    | read src n => rw [← Option.some.inj hop]
    | write dest off bytes =>
      rw [EmvOp.run] at hop
      split at hop
      · rw [← Option.some.inj hop]
      · next start hstart =>
        rw [← Option.some.inj hop]
        exact writeBytes_outside (havoid start hstart)

lemma emvTrack2Pan_avoids {a : UInt32} (ha : a.toNat < 56) (buff : EmvMemory) (p : UInt32)
    (xs : List Nat) : ∀ op ∈ emvTrack2Pan buff p xs, op.Avoids a := by
  induction xs with
  | nil => simp [emvTrack2Pan]
  | cons x xs ih =>
    rw [emvTrack2Pan]
    refine List.forall_mem_cons.mpr ⟨trivial, ?_⟩
    split_ifs
    · simp [EmvOp.Avoids, EmvDest.offset]
      omega
    · exact ih

lemma emvTrack2Equiv_avoids (a : UInt32) (buff : EmvMemory) (p : UInt32) (xs : List Nat)
    (len : UInt8) : ∀ op ∈ emvTrack2Equiv buff p xs len, op.Avoids a := by
  induction xs generalizing len with
  | nil => simp [emvTrack2Equiv, EmvOp.Avoids, EmvDest.offset]
  | cons x xs ih =>
    rw [emvTrack2Equiv]
    refine List.forall_mem_cons.mpr ⟨trivial, List.forall_mem_cons.mpr ⟨?_, ?_⟩⟩
    · simp [EmvOp.Avoids, EmvDest.offset]
    split_ifs
    · simp [EmvOp.Avoids, EmvDest.offset]
    · simp [EmvOp.Avoids, EmvDest.offset]
    · refine List.forall_mem_cons.mpr ⟨?_, ih (len + 2)⟩
      simp [EmvOp.Avoids, EmvDest.offset]

/-- Only the log format is written in front of the transactions, and its length with it. -/
lemma emvDecodeTlvTag_avoids {a : UInt32} (hlow : 1 < a.toNat) (ha : a.toNat < 56)
    (buff : EmvMemory) (p : UInt32) {tag : UInt16} (htag : tag.toNat ≠ 0x9F4F) (tlen : UInt8)
    (app : EmvMemory) : ∀ op ∈ emvDecodeTlvTag buff p tag tlen app, op.Avoids a := by
  unfold emvDecodeTlvTag
  generalize tag.toNat = t at htag
  split
  case h_1 => exact absurd rfl htag
  case h_12 =>
    exact List.forall_mem_append.mpr
      ⟨emvTrack2Pan_avoids ha buff p _, emvTrack2Equiv_avoids a buff p _ 0⟩
  case h_13 =>
    exact List.forall_mem_append.mpr
      ⟨emvTrack2Pan_avoids ha buff p _, emvTrack2Equiv_avoids a buff p _ 0⟩
  case h_14 =>
    split_ifs
    · simp
    · refine List.forall_mem_append.mpr ⟨?_, ?_⟩
      · simp [emvCopy, EmvOp.Avoids, EmvDest.offset]
        omega
      · split
        · simp [EmvOp.Avoids, EmvDest.offset]
          omega
        · simp
  case h_21 => split_ifs <;> simp [emvCopy16, EmvOp.Avoids, EmvDest.offset] <;> omega
  all_goals simp [emvCopy, emvCopy16, EmvOp.Avoids, EmvDest.offset] <;> omega

lemma emvLogFmtLen_of_tlvTag {buff app app' : EmvMemory} {p : UInt32} {tag : UInt16}
    {tlen : UInt8} (hlen : emvLogFmtLen app < 50)
    (hrun : runEmvOps (emvDecodeTlvTag buff p tag tlen app) app = some app') :
    emvLogFmtLen app' < 50 := by
  by_cases htag : tag.toNat = 0x9F4F
  · -- the length is stored behind a check
    simp only [emvDecodeTlvTag, htag, emvCopy, List.cons_append, List.nil_append, runEmvOps,
      EmvOp.run, EmvDest.offset] at hrun
    split_ifs at hrun with hfits
    · simp only [Option.bind_some, Option.some.injEq] at hrun
      rw [← hrun, emvLogFmtLen]
      simpa [writeBytes, Option.filter] using hfits
    · simp at hrun
  · have hsame := runEmvOps_avoids (a := 52) (emvDecodeTlvTag_avoids (by decide) (by decide) buff p
      htag tlen app) hrun
    rw [emvLogFmtLen, hsame]
    exact hlen

/-- What every item keeps is kept by the decoder of an answer. -/
lemma emvDecodeResponseTlv_keeps {buff : EmvMemory} {I : EmvMemory → Prop}
    (hkeeps : ∀ p tag tlen app app', I app →
      runEmvOps (emvDecodeTlvTag buff p tag tlen app) app = some app' → I app')
    {n : Nat} {base : UInt32} {len i : UInt8} {success b : Bool} {app app' : EmvMemory}
    (h : I app)
    (hrun : emvDecodeResponseTlv buff n base len i success app = some (.returned (b, app'))) :
    I app' := by
  induction n generalizing base len i success b app app' with
  | zero => simp [emvDecodeResponseTlv] at hrun
  | succ n ih =>
    rw [emvDecodeResponseTlv] at hrun
    split at hrun
    · split at hrun
      · cases hrun
        exact h
      · split at hrun
        · split at hrun
          · cases hrun
          · cases hrun
          · next hnested => exact ih (ih h hnested) hrun
        · split at hrun
          · cases hrun
          · next happ => exact ih (hkeeps _ _ _ _ _ h happ) hrun
    · cases hrun
      exact h

lemma emvDecodeTlLoop_keeps {buff : EmvMemory} {I : EmvMemory → Prop}
    (hkeeps : ∀ p tag tlen app app', I app →
      runEmvOps (emvDecodeTlvTag buff p tag tlen app) app = some app' → I app')
    {n : Nat} {len : UInt16} {fmtLen i f : UInt8} {b : Bool} {app app' : EmvMemory} (h : I app)
    (hrun : emvDecodeTlLoop buff len fmtLen n i f app = some (.returned (b, app'))) : I app' := by
  induction n generalizing i f app with
  | zero => simp [emvDecodeTlLoop] at hrun
  | succ n ih =>
    rw [emvDecodeTlLoop] at hrun
    split at hrun
    · split at hrun
      · cases hrun
        exact h
      · split at hrun
        · cases hrun
        · next happ => exact ih (hkeeps _ _ _ _ _ h happ) hrun
    · cases hrun
      exact h

/-- What every item keeps is kept by the decoder of a log record. -/
lemma emvDecodeTl_keeps {buff : EmvMemory} {I : EmvMemory → Prop}
    (hkeeps : ∀ p tag tlen app app', I app →
      runEmvOps (emvDecodeTlvTag buff p tag tlen app) app = some app' → I app')
    {n : Nat} {len : UInt16} {b : Bool} {app app' : EmvMemory} (h : I app)
    (hrun : emvDecodeTl buff n len app = some (.returned (b, app'))) : I app' := by
  rw [emvDecodeTl] at hrun
  split at hrun
  · cases hrun
    exact h
  · exact emvDecodeTlLoop_keeps hkeeps h hrun

/-- The application data after answers of a card, of any bytes and in any order. -/
inductive EmvStored : EmvMemory → Prop
  | reset : EmvStored fun _ => 0
  | response {buff app app' : EmvMemory} {n : Nat} {len : UInt8} {b : Bool} (h : EmvStored app)
      (hrun : emvDecodeResponseTlv buff n 0 len 0 false app = some (.returned (b, app'))) :
      EmvStored app'
  | record {buff app app' : EmvMemory} {n : Nat} {len : UInt16} {b : Bool} (h : EmvStored app)
      (hrun : emvDecodeTl buff n len app = some (.returned (b, app'))) : EmvStored app'
  | savingTransList {app : EmvMemory} (h : EmvStored app) (saving : UInt8) :
      EmvStored (writeBytes app 54 [saving])
  | nextRecord {app : EmvMemory} (h : EmvStored app) :
      EmvStored (writeBytes app 53 [emvActiveTr app + 1])

lemma EmvStored.logFmtLen {app : EmvMemory} (h : EmvStored app) : emvLogFmtLen app < 50 := by
  induction h with
  | reset => decide
  | response _ hrun ih =>
    exact emvDecodeResponseTlv_keeps (I := fun app => emvLogFmtLen app < 50)
      (fun _ _ _ _ _ h hrun => emvLogFmtLen_of_tlvTag h hrun) ih hrun
  | record _ hrun ih =>
    exact emvDecodeTl_keeps (I := fun app => emvLogFmtLen app < 50)
      (fun _ _ _ _ _ h hrun => emvLogFmtLen_of_tlvTag h hrun) ih hrun
  | savingTransList _ saving ih =>
    rw [emvLogFmtLen, writeBytes_outside (.inl (show (52 : UInt32).toNat < 54 by decide))]
    exact ih
  | nextRecord _ ih =>
    rw [emvLogFmtLen, writeBytes_outside (.inl (show (52 : UInt32).toNat < 53 by decide))]
    exact ih

/-! ### The log format -/

/-- The offset behind a header is at most four bytes behind its start. -/
lemma emvParseTag_off {buff : EmvMemory} {base : UInt32} {len : UInt16} {off : UInt8}
    {header : EmvHeader} (hoff : off.toNat < 50) (h : emvParseTag buff base len off = some header) :
    off.toNat + 2 ≤ header.off.toNat ∧ header.off.toNat ≤ off.toNat + 4 := by
  have hnext : ∀ i : UInt8, i.toNat < 100 → (i + 1).toNat = i.toNat + 1 := by
    intro i hi
    rw [UInt8.toNat_add, UInt8.toNat_one]
    omega
  have hone := hnext off (by omega)
  have htwo := hnext (off + 1) (by omega)
  have hthree := hnext (off + 1 + 1) (by omega)
  have hfour := hnext (off + 1 + 1 + 1) (by omega)
  rw [emvParseTag] at h
  split at h
  · cases h
  · cases h
    simp only
    split_ifs <;> omega

lemma emvDecodeTlLoop_ends (buff : EmvMemory) (len : UInt16) {fmtLen : UInt8}
    (hfmt : fmtLen < 50) {n : Nat} {i f : UInt8} (app : EmvMemory) (hf : f.toNat ≤ 53)
    (hn : 53 < n + f.toNat) : ∃ a, emvDecodeTlLoop buff len fmtLen n i f app = some a := by
  induction n generalizing i f app with
  | zero => omega
  | succ n ih =>
    rw [emvDecodeTlLoop]
    split
    · next hin =>
      split
      · exact ⟨_, rfl⟩
      · next tag tlen g hparse =>
        have hlt : f < fmtLen := by
          simp only [Bool.and_eq_true, decide_eq_true_eq] at hin
          exact hin.1
        have hoff := emvParseTag_off
          (Nat.lt_trans (UInt8.lt_iff_toNat_lt.mp hlt) (UInt8.lt_iff_toNat_lt.mp hfmt)) hparse
        have hfmt' := UInt8.lt_iff_toNat_lt.mp hfmt
        have hlt' := UInt8.lt_iff_toNat_lt.mp hlt
        simp only [UInt8.reduceToNat] at hfmt' hoff
        split
        · exact ⟨_, rfl⟩
        · exact ih _ (by omega) (by omega)
    · exact ⟨_, rfl⟩

lemma emvDecodeTl_ends (buff : EmvMemory) (len : UInt16) {app : EmvMemory} (h : EmvStored app) :
    EndsAt (fun n => emvDecodeTl buff n len app) := by
  obtain ⟨a, ha⟩ := emvDecodeTlLoop_ends buff len h.logFmtLen (n := 60) (i := 0) (f := 0) app
    (by decide) (by decide)
  by_cases herror : emvResponseError buff 0 len
  · exact ⟨0, _, if_pos herror⟩
  · exact ⟨60, a, by simp only [emvDecodeTl, if_neg herror]; exact ha⟩

/-! ### All decoders -/

/-- The decoders of an answer, of a log record and of the PDOL end if and only if, in the answer and
in the PDOL, no item whose 8-bit offset wraps around leads back to itself. -/
theorem emv_decoders_end_iff (buff record : EmvMemory) (len : UInt8) (recordLen : UInt16)
    (behind : UInt16 → Nat → UInt8) {app : EmvMemory} (h : EmvStored app) :
    (EndsAt (fun n => emvDecodeResponseTlv buff n 0 len 0 false app) ∧
      EndsAt (fun n => emvDecodeTl record n recordLen app) ∧
      EndsAt (fun n => emvPreparePdol behind app n 0 [])) ↔
    EmvNeverBack buff (0, len, 0) ∧ PdolNeverBack app (0, 0) := by
  rw [emvDecodeResponseTlv_ends_iff, emvPreparePdol_ends_iff]
  exact ⟨fun ⟨hresponse, _, hpdol⟩ => ⟨hresponse, hpdol⟩,
    fun ⟨hresponse, hpdol⟩ => ⟨hresponse, emvDecodeTl_ends record _ h, hpdol⟩⟩

/-- An item of an unknown tag with the length 253 in three bytes: its end offset is 256. -/
def emvWrappingAnswer : EmvMemory := fun a =>
  if a = 0 then 0x01 else if a = 1 then 0x81 else if a = 2 then 0xFD else 0

lemma emvWrappingAnswer_loops (n : Nat) (success : Bool) (app : EmvMemory) :
    emvDecodeResponseTlv emvWrappingAnswer n 0 3 0 success app = none := by
  induction n generalizing success with
  | zero => rfl
  | succ n ih =>
    have hparse : emvParseTag emvWrappingAnswer 0 (3 : UInt8).toUInt16 0 =
        some ⟨0x01, 0xFD, 3⟩ := rfl
    rw [emvDecodeResponseTlv, hparse]
    exact ih true

/-- The three bytes are decoded again and again. -/
theorem emvDecodeResponseTlv_loops :
    ¬ (EndsAt (fun n => emvDecodeResponseTlv emvWrappingAnswer n 0 3 0 false fun _ => 0) ∧
      EndsAt (fun n => emvDecodeTl emvWrappingAnswer n 3 fun _ => 0) ∧
      EndsAt (fun n => emvPreparePdol (fun _ _ => 0) (fun _ => 0) n 0 [])) := by
  rintro ⟨⟨n, a, hn⟩, -, -⟩
  simp only [emvWrappingAnswer_loops, reduceCtorEq] at hn

theorem emv_decoders_end_iff_wrapping :
    (EndsAt (fun n => emvDecodeResponseTlv emvWrappingAnswer n 0 3 0 false fun _ => 0) ∧
      EndsAt (fun n => emvDecodeTl emvWrappingAnswer n 3 fun _ => 0) ∧
      EndsAt (fun n => emvPreparePdol (fun _ _ => 0) (fun _ => 0) n 0 [])) ↔
    EmvNeverBack emvWrappingAnswer (0, 3, 0) ∧ PdolNeverBack (fun _ => 0) (0, 0) :=
  emv_decoders_end_iff emvWrappingAnswer emvWrappingAnswer 3 3 (fun _ _ => 0) .reset

end FlipperZero.Nfc
