import GcToolKit.Cmd56.Packet

/-!
# Key derivation, CMAC and random bytes (cmd56/cmd56_sm.c)

Both sides of the protocol derive their session key from the random part the
cart announces and authenticate blocks with the same CMAC. Random bytes come
from an `Rng`, so that results can hold for every sequence of bytes drawn;
`randBytes` is the generator the repository ships.
-/

namespace GcToolKit.Cmd56

open ByteBuf GcToolKit.Crypto

/-! ## Key ids and constants -/

abbrev prototypeKeyId1 : UInt16 := 0x8001
abbrev prototypeKeyId2 : UInt16 := 0x8002
abbrev prototypeKeyId3 : UInt16 := 0x8003
abbrev retailKeyId : UInt16 := 0x1

def bigmacKey0x348 : Bytes 0x20 :=
  #v[0xC0, 0x26, 0x28, 0x14, 0x13, 0xFA, 0x46, 0x2C, 0xCD, 0xEE, 0xD4, 0xBD, 0x6D, 0x08, 0xC3, 0x7C,
    0xA6, 0xC9, 0x32, 0x2A, 0xBD, 0x4C, 0x40, 0xAD, 0xE7, 0x2A, 0x0F, 0x54, 0x4F, 0x40, 0x13, 0xAD]

def gcauthmgr0x8001Key : AesBlock :=
  #v[0xCB, 0x80, 0x8D, 0x14, 0x02, 0x62, 0x53, 0x17, 0x25, 0x24, 0xD8, 0xA1, 0xf5, 0x1D, 0x35, 0xC7]

def gcauthmgr0x8002Key : AesBlock :=
  #v[0x56, 0xB6, 0x7b, 0xE1, 0x00, 0x03, 0xB4, 0x3B, 0xB8, 0x24, 0xD7, 0x06, 0xEE, 0x93, 0x59, 0x9D]

def gcauthmgr0x8003Key : AesBlock :=
  #v[0xE8, 0xBD, 0xDA, 0xFb, 0xF4, 0xA3, 0xB9, 0x9B, 0x54, 0x56, 0x2C, 0x68, 0x21, 0xD8, 0x05, 0x1E]

def gcauthmgr0x1Key : AesBlock :=
  #v[0x72, 0x50, 0x6A, 0x4B, 0xA8, 0x36, 0xC8, 0x76, 0xC4, 0x48, 0x40, 0x70, 0x1F, 0x0E, 0xA1, 0x02]

def gcauthmgr0x1Iv : AesBlock :=
  #v[0x8b, 0x14, 0xc8, 0xa1, 0xe9, 0x6f, 0x30, 0xa7, 0xf1, 0x01, 0xa9, 0x6a, 0x30, 0x33, 0xc5, 0x5b]

/-! ## gcauthmgr_sm -/

variable (aes : BlockCipher)

/-- The seed the `switch` of `derive_session_key` selects. -/
def keySeed (keyId : UInt16) : Option AesBlock :=
  if keyId = prototypeKeyId1 then some gcauthmgr0x8001Key
  else if keyId = prototypeKeyId2 then some gcauthmgr0x8002Key
  else if keyId = prototypeKeyId3 then some gcauthmgr0x8003Key
  else if keyId = retailKeyId then some gcauthmgr0x1Key
  else none

theorem bigmacKey_le : 0 + 16 ≤ 0x20 := by decide

/-- `none` is the return value 0, which leaves `session_key_out` as it was. -/
def deriveSessionKey (cartRandom : Bytes 0x20) (keyId : UInt16) : Option AesBlock :=
  (keySeed keyId).map fun keyseed =>
    let sessionKeyOut := aesCmacBufferKey aes keyseed cartRandom 0x20
    if keyId = 0x1 then
      aesCbcDecryptBufferKey aes (slice bigmacKey0x348 0 16 bigmacKey_le) sessionKeyOut 0x10
        gcauthmgr0x1Iv
    else sessionKeyOut

def makeInt24 (b1 b2 b3 : UInt8) : UInt32 :=
  (b3.toUInt32 <<< 16) ||| (b2.toUInt32 <<< 8) ||| b1.toUInt32

/-- CMAC over a block of header and the first `size` bytes of `data`. Three
bytes of the header are used. -/
def doCmd56CmacHash {n : Nat} (ctx : AesCtx) (data : Bytes n) (header : UInt32) (size : Nat)
    (h : 0 + size ≤ n := by decide) (hmax : 0x10 + size ≤ 0x50 := by decide) : AesBlock :=
  let cmacInput : Bytes 0x50 :=
    splice (Vector.replicate 0x50 0) 0 (slice (u32Bytes header) 0 3)
  let cmacInput := splice cmacInput 0x10 (slice data 0 size h) hmax
  aesCmacBuffer aes ctx cmacInput (size + 0x10) (by unfold blocks; omega)

/-- The CMAC looks at the header and at the first `size` bytes only. -/
theorem doCmd56CmacHash_congr {n m : Nat} (ctx : AesCtx) (d : Bytes n) (e : Bytes m)
    (header : UInt32) (size : Nat) (hd : 0 + size ≤ n) (he : 0 + size ≤ m)
    (hmax : 0x10 + size ≤ 0x50) (heq : slice d 0 size hd = slice e 0 size he) :
    doCmd56CmacHash aes ctx d header size hd hmax =
      doCmd56CmacHash aes ctx e header size he hmax := by
  simp only [doCmd56CmacHash, heq]

/-- A CMAC written behind the bytes it covers still matches them. -/
theorem cmac_put (ctx : AesCtx) {n : Nat} (data : Bytes n) (header : UInt32) (size : Nat)
    (hd : 0 + size ≤ n) (hmax : 0x10 + size ≤ 0x50) (f : Field n 0x10) (hf : size ≤ f.off)
    (cmac : AesBlock) :
    doCmd56CmacHash aes ctx (f.put data cmac) header size hd hmax =
      doCmd56CmacHash aes ctx data header size hd hmax := by
  apply doCmd56CmacHash_congr
  exact slice_splice_disjoint _ _ _ _ _ _ _ (by omega)

/-! ## Random numbers -/

/-- A source of random bytes with state `ρ`: `randBytes size r` are the bytes
drawn in state `r` and the state after. -/
structure Rng (ρ : Type) where
  randBytes : (size : Nat) → ρ → Bytes size × ρ

/-- The initial `rand_state`, the characters of its string. -/
def randStateInit : AesBlock :=
  #v[0x54, 0x52, 0x41, 0x4E, 0x53, 0x20, 0x52, 0x49, 0x47, 0x48, 0x54, 0x53, 0x21, 0x21, 0x21, 0x21]

def randSeed (randState : AesBlock) (seed : List UInt8) : AesBlock :=
  let seedSize := if seed.length < 16 then seed.length else 16
  Vector.ofFn fun i =>
    if i.val < seedSize then randState.get i ^^^ seed.getD i.val 0 else randState.get i

/-- One cycle of the generator: the state is key, plaintext and IV at once. -/
def randCycle (randState : AesBlock) : AesBlock :=
  aesCbcEncryptBufferKey aes randState randState 16 randState

/-- The loop of `rand_bytes`: `k` cycles, copying out as much of each state as
there is room for. -/
def randBytesLoop : (k : Nat) → (size : Nat) → AesBlock → List UInt8 × AesBlock
  | 0, _, randState => ([], randState)
  | k + 1, size, randState =>
      let randState := randCycle aes randState
      let copySize := if size < 16 then size else 16
      let (rest, last) := randBytesLoop k (size - 16) randState
      (randState.toList.take copySize ++ rest, last)

theorem length_randBytesLoop (k size : Nat) (r : AesBlock) (h : size ≤ 16 * k) :
    (randBytesLoop aes k size r).1.length = size := by
  induction k generalizing size r with
  | zero =>
    have h0 : size = 0 := by omega
    simp [randBytesLoop, h0]
  | succ k ih =>
    have hrest := ih (size - 16) (randCycle aes r) (by omega)
    simp only [randBytesLoop, List.length_append, List.length_take, Vector.length_toList, hrest]
    split <;> omega

def randBytes (size : Nat) (r : AesBlock) : Bytes size × AesBlock :=
  let drawn := randBytesLoop aes (blocks size) size r
  (⟨drawn.1.toArray, by
    have hlen := length_randBytesLoop aes (blocks size) size r (by unfold blocks; omega)
    simpa using hlen⟩, drawn.2)

/-- The repository's generator. -/
def libRng : Rng AesBlock := ⟨randBytes aes⟩

/-- `or_w_80`: the first byte of every sixteen gets its top bit set. -/
def orW80 {n : Nat} (buf : Bytes n) : Bytes n :=
  Vector.ofFn fun i => if i.val % 0x10 = 0 then buf.get i ||| 0x80 else buf.get i

@[simp] theorem getElem_orW80 {n : Nat} (buf : Bytes n) (i : Nat) (hi : i < n) :
    (orW80 buf)[i] = if i % 0x10 = 0 then buf[i] ||| 0x80 else buf[i] := by
  simp [orW80, Vector.get]

theorem orW80_orW80 {n : Nat} (buf : Bytes n) : orW80 (orW80 buf) = orW80 buf := by
  apply Vector.ext
  intro i hi
  by_cases h : i % 0x10 = 0
  · simp [h, UInt8.or_assoc]
  · simp [h]

/-- The two parts make up the whole of the shared random. -/
theorem sharedRandom_covered (b b' : Bytes 0x20) (v c : AesBlock) :
    SharedRandom.cartPart.put (SharedRandom.vitaPart.put b v) c =
      SharedRandom.cartPart.put (SharedRandom.vitaPart.put b' v) c := by
  apply Vector.ext
  intro i hi
  simp only [Field.put, getElem_splice]
  by_cases h : 0x10 ≤ i
  · have hc : 0x10 ≤ i ∧ i < 0x10 + 0x10 := by omega
    simp [hc]
  · have hv : 0x0 ≤ i ∧ i < 0x0 + 0x10 := by omega
    simp [hv]

/-- The mask works on each sixteen bytes alone. -/
theorem orW80_put {n len : Nat} (f : Field n len) (b : Bytes n) (v : Bytes len)
    (h : f.off % 0x10 = 0) : orW80 (f.put b v) = f.put (orW80 b) (orW80 v) := by
  apply Vector.ext
  intro i hi
  simp only [Field.put, getElem_orW80, getElem_splice]
  by_cases hr : f.off ≤ i ∧ i < f.off + len
  · have hmod : (i - f.off) % 0x10 = i % 0x10 := by omega
    simp [hr, hmod]
  · simp [hr]

/-- What is compared of sixteen random bytes: all but the first. -/
abbrev afterFirst : Field 0x10 0xF := ⟨0x1, by decide⟩

/-- The mask leaves these alone. -/
theorem afterFirst_orW80 (buf : AesBlock) : afterFirst.get (orW80 buf) = afterFirst.get buf := by
  apply Vector.ext
  intro i hi
  have h : ¬ (1 + i) % 0x10 = 0 := by omega
  simp [Field.get, h]

end GcToolKit.Cmd56
