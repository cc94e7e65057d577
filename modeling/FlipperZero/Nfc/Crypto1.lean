import FlipperZero.Toolbox.BitBuffer

/-!
# Crypto1

The stream cipher of MIFARE Classic in `crypto1.c`: a register of 48 bits, its odd and its even
bits in a word each, and a filter that gives a bit of the key stream.
-/

namespace FlipperZero

open Foundation

structure Crypto1 where
  odd : BitVec 32
  even : BitVec 32
  deriving DecidableEq, Repr

def bitWord (b : Bool) : BitVec 32 := if b then 1 else 0

/-- Whether a word has an odd number of ones: `nfc_util_even_parity32` for a word of 32 bits. -/
def evenParity {w : Nat} (x : BitVec w) : Bool :=
  (List.range w).foldl (fun p i => p ^^ x.getLsbD i) false

/-- `nfc_util_odd_parity8`. -/
def oddParity8 (x : BitVec 8) : Bool := !evenParity x

def lfPolyOdd : BitVec 32 := 0x29CE5C

def lfPolyEven : BitVec 32 := 0x870804

def crypto1Reset : Crypto1 where
  odd := 0
  even := 0

def crypto1Init (key : BitVec 64) : Crypto1 :=
  (List.range 24).foldl (fun c k =>
    let i := 47 - 2 * k
    { odd := c.odd <<< 1 ||| bitWord (key.getLsbD ((i - 1) ^^^ 7))
      even := c.even <<< 1 ||| bitWord (key.getLsbD (i ^^^ 7)) }) crypto1Reset

def crypto1Filter (x : BitVec 32) : Bool :=
  let out : BitVec 32 :=
    ((0xf22c0 >>> (x &&& 0xf).toNat) &&& 16) |||
      ((0x6c9c0 >>> ((x >>> 4) &&& 0xf).toNat) &&& 8) |||
      ((0x3c8b0 >>> ((x >>> 8) &&& 0xf).toNat) &&& 4) |||
      ((0x1e458 >>> ((x >>> 12) &&& 0xf).toNat) &&& 2) |||
      ((0x0d938 >>> ((x >>> 16) &&& 0xf).toNat) &&& 1)
  (0xEC57E80A : BitVec 32).getLsbD out.toNat

def crypto1Bit (c : Crypto1) (bit isEncrypted : Bool) : Bool × Crypto1 :=
  let out := crypto1Filter c.odd
  let feed := bitWord (out && isEncrypted) ^^^ bitWord bit ^^^ (lfPolyOdd &&& c.odd) ^^^
    (lfPolyEven &&& c.even)
  (out, { odd := c.even <<< 1 ||| bitWord (evenParity feed), even := c.odd })

def crypto1Byte (c : Crypto1) (byte : BitVec 8) (isEncrypted : Bool) : BitVec 8 × Crypto1 :=
  (List.range 8).foldl (fun r i =>
    let (bit, c) := crypto1Bit r.2 (byte.getLsbD i) isEncrypted
    (r.1 ||| (if bit then 1 else 0) <<< i, c)) (0, c)

def crypto1Word (c : Crypto1) (word : BitVec 32) (isEncrypted : Bool) : BitVec 32 × Crypto1 :=
  (List.range 32).foldl (fun r i =>
    let (bit, c) := crypto1Bit r.2 (word.getLsbD (i ^^^ 24)) isEncrypted
    (r.1 ||| bitWord bit <<< (24 ^^^ i), c)) (0, c)

def lfsrRollbackBit (c : Crypto1) (bit fb : Bool) : Bool × Crypto1 :=
  let odd := c.even
  let even := c.odd &&& 0xffffff
  let ret := crypto1Filter odd
  let out := (even &&& 1#32) ^^^ (lfPolyEven &&& even >>> 1) ^^^ (lfPolyOdd &&& odd) ^^^
    bitWord bit ^^^ bitWord (ret && fb)
  (ret, { odd := odd, even := even >>> 1 ||| bitWord (evenParity out) <<< 23 })

def crypto1LfsrRollbackWord (c : Crypto1) (word : BitVec 32) (fb : Bool) : BitVec 32 × Crypto1 :=
  (List.range 32).reverse.foldl (fun r i =>
    let (bit, c) := lfsrRollbackBit r.2 (word.getLsbD (i ^^^ 24)) fb
    (r.1 ||| bitWord bit <<< (24 ^^^ i), c)) (0, c)

/-- `crypto1_decrypt_nt_enc`. The key is given as a number, which `bit_lib_bytes_to_num_be` makes
of its six bytes. -/
def crypto1DecryptNtEnc (cuid ntEnc : BitVec 32) (knownKey : BitVec 48) : BitVec 32 :=
  let c := (crypto1Word (crypto1Init (knownKey.setWidth 64)) (ntEnc ^^^ cuid) true).2
  ntEnc ^^^ (crypto1LfsrRollbackWord c (ntEnc ^^^ cuid) true).1

def swapEndian (x : BitVec 32) : BitVec 32 :=
  let x := ((x >>> 8) &&& 0xff00ff) ||| (x &&& 0xff00ff) <<< 8
  x >>> 16 ||| x <<< 16

/-- One round of `crypto1_prng_successor`. -/
def crypto1PrngStep (x : BitVec 32) : BitVec 32 :=
  x >>> 1 ||| (x >>> 16 ^^^ x >>> 18 ^^^ x >>> 19 ^^^ x >>> 21) <<< 31

def crypto1PrngSuccessor (x : BitVec 32) (n : Nat) : BitVec 32 :=
  swapEndian (crypto1PrngStep^[n] (swapEndian x))

/-- `crypto1_decrypt`. A frame of less than eight bits is taken for one of four. -/
def crypto1Decrypt (c : Crypto1) (buff out : BitBuffer) : Option (Crypto1 × BitBuffer) :=
  (out.setSize buff.getSize).bind fun out =>
    if buff.getSize < 8 then
      let r := (List.range 4).foldl (fun r i =>
        let (bit, c) := crypto1Bit r.2 false false
        (r.1 ||| (if bit ^^ (buff.data 0).getLsbD i then 1 else 0) <<< i, c)) ((0 : BitVec 8), c)
      (out.setByte 0 r.1).map fun out => (r.2, out)
    else
      (List.range (buff.getSize / 8)).foldlM (fun r i =>
        let (byte, c) := crypto1Byte r.1 0 false
        (r.2.setByte i (byte ^^^ buff.data i)).map fun out => (c, out)) (c, out)

/-- `crypto1_encrypt`. No key stream is the empty list. -/
def crypto1Encrypt (c : Crypto1) (keystream : List (BitVec 8)) (buff out : BitBuffer) :
    Option (Crypto1 × BitBuffer) :=
  (out.setSize buff.getSize).bind fun out =>
    if buff.getSize < 8 then
      let r := (List.range buff.getSize).foldl (fun r i =>
        let (bit, c) := crypto1Bit r.2 false false
        (r.1 ||| (if bit ^^ (buff.data 0).getLsbD i then 1 else 0) <<< i, c)) ((0 : BitVec 8), c)
      (out.setByte 0 r.1).map fun out => (r.2, out)
    else
      (List.range (buff.getSize / 8)).foldlM (fun r i =>
        let (byte, c) := crypto1Byte r.1 (keystream.getD i 0) false
        let parityBit := crypto1Filter c.odd ^^ oddParity8 (buff.data i)
        (r.2.setByteWithParity i (byte ^^^ buff.data i) parityBit).map fun out => (c, out)) (c, out)

/-! ### The register alone -/

/-- A fold that may fail has the part of its state that it computes without fail. -/
lemma foldlM_fst {α β γ : Type*} {f : γ × β → α → Option (γ × β)} {g : γ → α → γ}
    (hf : ∀ r a r', f r a = some r' → r'.1 = g r.1 a) {l : List α} {r r' : γ × β}
    (h : l.foldlM f r = some r') : r'.1 = l.foldl g r.1 := by
  induction l generalizing r with
  | nil =>
    obtain rfl : r = r' := Option.some.inj h
    rfl
  | cons a l ih =>
    rw [List.foldlM_cons] at h
    obtain ⟨r₁, hfirst, hrest⟩ := Option.bind_eq_some_iff.mp h
    rw [List.foldl_cons, ← hf r a r₁ hfirst]
    exact ih hrest

lemma crypto1Byte_snd (c : Crypto1) (byte : BitVec 8) (isEncrypted : Bool) :
    (crypto1Byte c byte isEncrypted).2 = (List.range 8).foldl (fun c i =>
      (crypto1Bit c (byte.getLsbD i) isEncrypted).2) c :=
  (List.foldl_hom Prod.snd fun _ _ => rfl).symm

lemma crypto1Word_snd (c : Crypto1) (word : BitVec 32) (isEncrypted : Bool) :
    (crypto1Word c word isEncrypted).2 = (List.range 32).foldl (fun c i =>
      (crypto1Bit c (word.getLsbD (i ^^^ 24)) isEncrypted).2) c :=
  (List.foldl_hom Prod.snd fun _ _ => rfl).symm

lemma crypto1Encrypt_fst {c c' : Crypto1} {keystream : List (BitVec 8)} {buff out out' : BitBuffer}
    (hsize : ¬ buff.getSize < 8) (h : crypto1Encrypt c keystream buff out = some (c', out')) :
    c' = (List.range (buff.getSize / 8)).foldl (fun c i =>
      (crypto1Byte c (keystream.getD i 0) false).2) c := by
  obtain ⟨out₁, -, h⟩ := Option.bind_eq_some_iff.mp h
  rw [if_neg hsize] at h
  refine foldlM_fst ?_ h
  intro r i r' hr
  obtain ⟨out₂, -, rfl⟩ := Option.map_eq_some_iff.mp hr
  rfl

end FlipperZero
