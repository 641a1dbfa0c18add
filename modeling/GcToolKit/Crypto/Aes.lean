import Mathlib.Data.Fintype.Basic
import Mathlib.Tactic.FinCases
import GcToolKit.Lib.ByteBuf

/-!
# The vendored AES-128 (crypto/aes.c)

The block transformations of the repository's tiny AES, function by function.
A state is the 16 byte block itself: `(*state)[i][j]` is byte `4 * i + j`, so
`i` runs over columns and `j` over rows.

`invCipher_cipher` is the one fact the rest of the development uses: with the
same round keys, `invCipher` undoes `cipher`. It is assembled from one lemma
for each round transformation.
-/

namespace GcToolKit.Crypto

open ByteBuf

/-- A buffer of `n` bytes. -/
abbrev Bytes (n : Nat) := Vector UInt8 n

/-- A 16 byte AES block. -/
abbrev AesBlock := Bytes 16

/-! ## Tables -/

set_option maxRecDepth 2048 in
def sbox : Bytes 256 :=
  #v[0x63, 0x7c, 0x77, 0x7b, 0xf2, 0x6b, 0x6f, 0xc5, 0x30, 0x01, 0x67, 0x2b, 0xfe, 0xd7, 0xab, 0x76,
    0xca, 0x82, 0xc9, 0x7d, 0xfa, 0x59, 0x47, 0xf0, 0xad, 0xd4, 0xa2, 0xaf, 0x9c, 0xa4, 0x72, 0xc0,
    0xb7, 0xfd, 0x93, 0x26, 0x36, 0x3f, 0xf7, 0xcc, 0x34, 0xa5, 0xe5, 0xf1, 0x71, 0xd8, 0x31, 0x15,
    0x04, 0xc7, 0x23, 0xc3, 0x18, 0x96, 0x05, 0x9a, 0x07, 0x12, 0x80, 0xe2, 0xeb, 0x27, 0xb2, 0x75,
    0x09, 0x83, 0x2c, 0x1a, 0x1b, 0x6e, 0x5a, 0xa0, 0x52, 0x3b, 0xd6, 0xb3, 0x29, 0xe3, 0x2f, 0x84,
    0x53, 0xd1, 0x00, 0xed, 0x20, 0xfc, 0xb1, 0x5b, 0x6a, 0xcb, 0xbe, 0x39, 0x4a, 0x4c, 0x58, 0xcf,
    0xd0, 0xef, 0xaa, 0xfb, 0x43, 0x4d, 0x33, 0x85, 0x45, 0xf9, 0x02, 0x7f, 0x50, 0x3c, 0x9f, 0xa8,
    0x51, 0xa3, 0x40, 0x8f, 0x92, 0x9d, 0x38, 0xf5, 0xbc, 0xb6, 0xda, 0x21, 0x10, 0xff, 0xf3, 0xd2,
    0xcd, 0x0c, 0x13, 0xec, 0x5f, 0x97, 0x44, 0x17, 0xc4, 0xa7, 0x7e, 0x3d, 0x64, 0x5d, 0x19, 0x73,
    0x60, 0x81, 0x4f, 0xdc, 0x22, 0x2a, 0x90, 0x88, 0x46, 0xee, 0xb8, 0x14, 0xde, 0x5e, 0x0b, 0xdb,
    0xe0, 0x32, 0x3a, 0x0a, 0x49, 0x06, 0x24, 0x5c, 0xc2, 0xd3, 0xac, 0x62, 0x91, 0x95, 0xe4, 0x79,
    0xe7, 0xc8, 0x37, 0x6d, 0x8d, 0xd5, 0x4e, 0xa9, 0x6c, 0x56, 0xf4, 0xea, 0x65, 0x7a, 0xae, 0x08,
    0xba, 0x78, 0x25, 0x2e, 0x1c, 0xa6, 0xb4, 0xc6, 0xe8, 0xdd, 0x74, 0x1f, 0x4b, 0xbd, 0x8b, 0x8a,
    0x70, 0x3e, 0xb5, 0x66, 0x48, 0x03, 0xf6, 0x0e, 0x61, 0x35, 0x57, 0xb9, 0x86, 0xc1, 0x1d, 0x9e,
    0xe1, 0xf8, 0x98, 0x11, 0x69, 0xd9, 0x8e, 0x94, 0x9b, 0x1e, 0x87, 0xe9, 0xce, 0x55, 0x28, 0xdf,
    0x8c, 0xa1, 0x89, 0x0d, 0xbf, 0xe6, 0x42, 0x68, 0x41, 0x99, 0x2d, 0x0f, 0xb0, 0x54, 0xbb, 0x16]

set_option maxRecDepth 2048 in
def rsbox : Bytes 256 :=
  #v[0x52, 0x09, 0x6a, 0xd5, 0x30, 0x36, 0xa5, 0x38, 0xbf, 0x40, 0xa3, 0x9e, 0x81, 0xf3, 0xd7, 0xfb,
    0x7c, 0xe3, 0x39, 0x82, 0x9b, 0x2f, 0xff, 0x87, 0x34, 0x8e, 0x43, 0x44, 0xc4, 0xde, 0xe9, 0xcb,
    0x54, 0x7b, 0x94, 0x32, 0xa6, 0xc2, 0x23, 0x3d, 0xee, 0x4c, 0x95, 0x0b, 0x42, 0xfa, 0xc3, 0x4e,
    0x08, 0x2e, 0xa1, 0x66, 0x28, 0xd9, 0x24, 0xb2, 0x76, 0x5b, 0xa2, 0x49, 0x6d, 0x8b, 0xd1, 0x25,
    0x72, 0xf8, 0xf6, 0x64, 0x86, 0x68, 0x98, 0x16, 0xd4, 0xa4, 0x5c, 0xcc, 0x5d, 0x65, 0xb6, 0x92,
    0x6c, 0x70, 0x48, 0x50, 0xfd, 0xed, 0xb9, 0xda, 0x5e, 0x15, 0x46, 0x57, 0xa7, 0x8d, 0x9d, 0x84,
    0x90, 0xd8, 0xab, 0x00, 0x8c, 0xbc, 0xd3, 0x0a, 0xf7, 0xe4, 0x58, 0x05, 0xb8, 0xb3, 0x45, 0x06,
    0xd0, 0x2c, 0x1e, 0x8f, 0xca, 0x3f, 0x0f, 0x02, 0xc1, 0xaf, 0xbd, 0x03, 0x01, 0x13, 0x8a, 0x6b,
    0x3a, 0x91, 0x11, 0x41, 0x4f, 0x67, 0xdc, 0xea, 0x97, 0xf2, 0xcf, 0xce, 0xf0, 0xb4, 0xe6, 0x73,
    0x96, 0xac, 0x74, 0x22, 0xe7, 0xad, 0x35, 0x85, 0xe2, 0xf9, 0x37, 0xe8, 0x1c, 0x75, 0xdf, 0x6e,
    0x47, 0xf1, 0x1a, 0x71, 0x1d, 0x29, 0xc5, 0x89, 0x6f, 0xb7, 0x62, 0x0e, 0xaa, 0x18, 0xbe, 0x1b,
    0xfc, 0x56, 0x3e, 0x4b, 0xc6, 0xd2, 0x79, 0x20, 0x9a, 0xdb, 0xc0, 0xfe, 0x78, 0xcd, 0x5a, 0xf4,
    0x1f, 0xdd, 0xa8, 0x33, 0x88, 0x07, 0xc7, 0x31, 0xb1, 0x12, 0x10, 0x59, 0x27, 0x80, 0xec, 0x5f,
    0x60, 0x51, 0x7f, 0xa9, 0x19, 0xb5, 0x4a, 0x0d, 0x2d, 0xe5, 0x7a, 0x9f, 0x93, 0xc9, 0x9c, 0xef,
    0xa0, 0xe0, 0x3b, 0x4d, 0xae, 0x2a, 0xf5, 0xb0, 0xc8, 0xeb, 0xbb, 0x3c, 0x83, 0x53, 0x99, 0x61,
    0x17, 0x2b, 0x04, 0x7e, 0xba, 0x77, 0xd6, 0x26, 0xe1, 0x69, 0x14, 0x63, 0x55, 0x21, 0x0c, 0x7d]

def rcon : Bytes 11 :=
  #v[0x8d, 0x01, 0x02, 0x04, 0x08, 0x10, 0x20, 0x40, 0x80, 0x1b, 0x36]

def getSBoxValue (num : UInt8) : UInt8 := sbox.get num.toFin

def getSBoxInvert (num : UInt8) : UInt8 := rsbox.get num.toFin

/-! ## Key schedule -/

/-- One iteration of the loop of `KeyExpansion`: word `i = t + 4` of the
schedule from words `i - 1` and `i - 4`. -/
def keyExpansionStep (roundKey : Bytes 176) (t : Fin 40) : Bytes 176 :=
  let k := (t.val + 3) * 4
  let temp : Bytes 4 := slice roundKey k 4 (by omega)
  let temp : Bytes 4 :=
    if (t.val + 4) % 4 = 0 then
      -- RotWord, SubWord, then the round constant on the first byte
      #v[getSBoxValue temp[1] ^^^ rcon[(t.val + 4) / 4], getSBoxValue temp[2],
        getSBoxValue temp[3], getSBoxValue temp[0]]
    else temp
  let prev : Bytes 4 := slice roundKey (t.val * 4) 4 (by omega)
  splice roundKey ((t.val + 4) * 4) (Vector.zipWith (· ^^^ ·) prev temp) (by omega)

def keyExpansion (key : AesBlock) : Bytes 176 :=
  (List.finRange 40).foldl keyExpansionStep (splice (Vector.replicate 176 0) 0 key)

/-! ## Round transformations -/

def addRoundKey (round : Fin 11) (state : AesBlock) (roundKey : Bytes 176) : AesBlock :=
  Vector.zipWith (· ^^^ ·) state (slice roundKey (round.val * 16) 16 (by omega))

def subBytes (state : AesBlock) : AesBlock := state.map getSBoxValue

/-- Row `j` is rotated by `j` columns to the left. -/
def shiftRows (s : AesBlock) : AesBlock :=
  #v[s[0], s[5], s[10], s[15], s[4], s[9], s[14], s[3],
    s[8], s[13], s[2], s[7], s[12], s[1], s[6], s[11]]

/-- Bit `i` of `x`, as a byte that is 0 or 1. -/
def bitOf (x i : UInt8) : UInt8 := (x >>> i) &&& 1

def xtime (x : UInt8) : UInt8 := (x <<< 1) ^^^ (bitOf x 7 * (0x1b : UInt8))

/-- The body of the `MixColumns` loop, on one column. -/
def mixColumn (s : Bytes 4) : Bytes 4 :=
  let tmp := s[0] ^^^ s[1] ^^^ s[2] ^^^ s[3]
  #v[s[0] ^^^ (xtime (s[0] ^^^ s[1]) ^^^ tmp), s[1] ^^^ (xtime (s[1] ^^^ s[2]) ^^^ tmp),
    s[2] ^^^ (xtime (s[2] ^^^ s[3]) ^^^ tmp), s[3] ^^^ (xtime (s[3] ^^^ s[0]) ^^^ tmp)]

/-- Apply `f` to each of the four columns. -/
def onColumns (f : Bytes 4 → Bytes 4) (s : AesBlock) : AesBlock :=
  let c0 := f #v[s[0], s[1], s[2], s[3]]
  let c1 := f #v[s[4], s[5], s[6], s[7]]
  let c2 := f #v[s[8], s[9], s[10], s[11]]
  let c3 := f #v[s[12], s[13], s[14], s[15]]
  #v[c0[0], c0[1], c0[2], c0[3], c1[0], c1[1], c1[2], c1[3],
    c2[0], c2[1], c2[2], c2[3], c3[0], c3[1], c3[2], c3[3]]

def mixColumns (state : AesBlock) : AesBlock := onColumns mixColumn state

/-- The `Multiply` macro: bit `i` of `y` selects the `i`-th power of `xtime`. -/
def multiply (x y : UInt8) : UInt8 :=
  (bitOf y 0 * x) ^^^ (bitOf y 1 * xtime x) ^^^ (bitOf y 2 * xtime (xtime x)) ^^^
    (bitOf y 3 * xtime (xtime (xtime x))) ^^^ (bitOf y 4 * xtime (xtime (xtime (xtime x))))

/-- The body of the `InvMixColumns` loop, on one column. -/
def invMixColumn (s : Bytes 4) : Bytes 4 :=
  let a := s[0]
  let b := s[1]
  let c := s[2]
  let d := s[3]
  #v[multiply a 0x0e ^^^ multiply b 0x0b ^^^ multiply c 0x0d ^^^ multiply d 0x09,
    multiply a 0x09 ^^^ multiply b 0x0e ^^^ multiply c 0x0b ^^^ multiply d 0x0d,
    multiply a 0x0d ^^^ multiply b 0x09 ^^^ multiply c 0x0e ^^^ multiply d 0x0b,
    multiply a 0x0b ^^^ multiply b 0x0d ^^^ multiply c 0x09 ^^^ multiply d 0x0e]

def invMixColumns (state : AesBlock) : AesBlock := onColumns invMixColumn state

def invSubBytes (state : AesBlock) : AesBlock := state.map getSBoxInvert

/-- Row `j` is rotated by `j` columns to the right. -/
def invShiftRows (s : AesBlock) : AesBlock :=
  #v[s[0], s[13], s[10], s[7], s[4], s[1], s[14], s[11],
    s[8], s[5], s[2], s[15], s[12], s[9], s[6], s[3]]

/-! ## The cipher and its inverse -/

/-- One of the identical rounds of `Cipher`. -/
def cipherRound (roundKey : Bytes 176) (state : AesBlock) (round : Fin 11) : AesBlock :=
  addRoundKey round (mixColumns (shiftRows (subBytes state))) roundKey

def cipher (roundKey : Bytes 176) (block : AesBlock) : AesBlock :=
  let state := addRoundKey 0 block roundKey
  let state := [1, 2, 3, 4, 5, 6, 7, 8, 9].foldl (cipherRound roundKey) state
  addRoundKey 10 (shiftRows (subBytes state)) roundKey

/-- One iteration of the loop of `InvCipher` that does not break. -/
def invCipherRound (roundKey : Bytes 176) (state : AesBlock) (round : Fin 11) : AesBlock :=
  invMixColumns (addRoundKey round (invSubBytes (invShiftRows state)) roundKey)

def invCipher (roundKey : Bytes 176) (block : AesBlock) : AesBlock :=
  let state := addRoundKey 10 block roundKey
  let state := [9, 8, 7, 6, 5, 4, 3, 2, 1].foldl (invCipherRound roundKey) state
  addRoundKey 0 (invSubBytes (invShiftRows state)) roundKey
/-! ## Substitution and permutation layers -/

/-- The two tables, checked against each other entry by entry. -/
theorem rsbox_sbox_table :
    sbox.toList.map (fun y => (rsbox.toList.getD y.toNat 0).toNat) = List.range 256 := by
  decide +kernel

theorem getSBoxInvert_getSBoxValue (x : UInt8) : getSBoxInvert (getSBoxValue x) = x := by
  have hlt : ∀ y : UInt8, y.toNat < 256 := fun y => y.toNat_lt
  have hentry := congrArg (fun l : List Nat => l[x.toNat]?) rsbox_sbox_table
  simp only [List.getElem?_map, List.getElem?_range (hlt x)] at hentry
  have hs : sbox.toList[x.toNat]? = some (getSBoxValue x) := by
    simp [getSBoxValue, Vector.get, hlt x]
  have hr : rsbox.toList[(getSBoxValue x).toNat]? =
      some (getSBoxInvert (getSBoxValue x)) := by
    simp [getSBoxInvert, Vector.get, hlt (getSBoxValue x)]
  rw [hs, Option.map_some, List.getD_eq_getElem?_getD, hr, Option.getD_some] at hentry
  exact UInt8.toNat_inj.mp (Option.some.inj hentry)

theorem invSubBytes_subBytes (s : AesBlock) : invSubBytes (subBytes s) = s := by
  apply Vector.ext
  intro i hi
  simp [invSubBytes, subBytes, getSBoxInvert_getSBoxValue]

/-- A block is the list of its sixteen bytes. -/
theorem block_eta (s : AesBlock) :
    #v[s[0], s[1], s[2], s[3], s[4], s[5], s[6], s[7],
      s[8], s[9], s[10], s[11], s[12], s[13], s[14], s[15]] = s := by
  apply Vector.ext
  intro i hi
  have h : ∀ j : Fin 16, (#v[s[0], s[1], s[2], s[3], s[4], s[5], s[6], s[7],
      s[8], s[9], s[10], s[11], s[12], s[13], s[14], s[15]] : AesBlock)[j] = s[j] := by
    intro j
    fin_cases j <;> rfl
  exact h ⟨i, hi⟩

theorem invShiftRows_shiftRows (s : AesBlock) : invShiftRows (shiftRows s) = s :=
  block_eta s

theorem xorBytes_cancel {n : Nat} (a b : Bytes n) :
    Vector.zipWith (· ^^^ ·) (Vector.zipWith (· ^^^ ·) a b) b = a := by
  apply Vector.ext
  intro i hi
  rw [Vector.getElem_zipWith, Vector.getElem_zipWith, UInt8.xor_assoc, UInt8.xor_self,
    UInt8.xor_zero]

theorem addRoundKey_addRoundKey (round : Fin 11) (s : AesBlock) (roundKey : Bytes 176) :
    addRoundKey round (addRoundKey round s roundKey) roundKey = s :=
  xorBytes_cancel _ _

/-! ## Column layer

`mixColumn` and `invMixColumn` are linear over `^^^`, so their composition is
the identity as soon as it is that on the columns with one nonzero byte. -/

theorem bitOf_cases (x i : UInt8) : bitOf x i = 0 ∨ bitOf x i = 1 := by
  have h : ∀ z : Fin 256, UInt8.ofFin z &&& 1 = 0 ∨ UInt8.ofFin z &&& 1 = 1 := by
    decide +kernel
  exact h (x >>> i).toFin

theorem bitOf_xor (x y i : UInt8) : bitOf (x ^^^ y) i = bitOf x i ^^^ bitOf y i := by
  unfold bitOf
  rw [UInt8.shiftRight_xor, ← UInt8.toBitVec_inj]
  ext k hk
  simp [Bool.and_xor_distrib_right]

theorem bitOf_mul_xor (k i x y : UInt8) :
    bitOf k i * (x ^^^ y) = (bitOf k i * x) ^^^ (bitOf k i * y) := by
  rcases bitOf_cases k i with h | h <;> simp [h]

theorem xtime_xor (x y : UInt8) : xtime (x ^^^ y) = xtime x ^^^ xtime y := by
  have hred : bitOf (x ^^^ y) 7 * (0x1b : UInt8) =
      (bitOf x 7 * (0x1b : UInt8)) ^^^ (bitOf y 7 * (0x1b : UInt8)) := by
    rw [bitOf_xor]
    rcases bitOf_cases x 7 with hx | hx <;> rcases bitOf_cases y 7 with hy | hy <;>
      simp [hx, hy]
  unfold xtime
  rw [UInt8.shiftLeft_xor, hred]
  ac_rfl

theorem multiply_xor (x y k : UInt8) : multiply (x ^^^ y) k = multiply x k ^^^ multiply y k := by
  simp only [multiply, xtime_xor, bitOf_mul_xor]
  ac_rfl

/-- The sum of two columns. -/
def xorColumn (u v : Bytes 4) : Bytes 4 := Vector.zipWith (· ^^^ ·) u v

theorem mixColumn_xor (u v : Bytes 4) :
    mixColumn (xorColumn u v) = xorColumn (mixColumn u) (mixColumn v) := by
  simp only [mixColumn, xorColumn, Vector.getElem_zipWith, xtime_xor]
  simp
  refine ⟨?_, ?_, ?_, ?_⟩ <;> ac_rfl

theorem invMixColumn_xor (u v : Bytes 4) :
    invMixColumn (xorColumn u v) = xorColumn (invMixColumn u) (invMixColumn v) := by
  simp only [invMixColumn, xorColumn, Vector.getElem_zipWith, multiply_xor]
  simp
  refine ⟨?_, ?_, ?_, ?_⟩ <;> ac_rfl

/-- The four factors of `invMixColumn`, as sums of powers of `xtime`. -/
theorem multiply_const (x : UInt8) :
    multiply x 0x0e = xtime x ^^^ xtime (xtime x) ^^^ xtime (xtime (xtime x)) ∧
    multiply x 0x0b = x ^^^ xtime x ^^^ xtime (xtime (xtime x)) ∧
    multiply x 0x0d = x ^^^ xtime (xtime x) ^^^ xtime (xtime (xtime x)) ∧
    multiply x 0x09 = x ^^^ xtime (xtime (xtime x)) := by
  have he : bitOf 0x0e 0 = 0 ∧ bitOf 0x0e 1 = 1 ∧ bitOf 0x0e 2 = 1 ∧ bitOf 0x0e 3 = 1 ∧
      bitOf 0x0e 4 = 0 := by decide
  have hb : bitOf 0x0b 0 = 1 ∧ bitOf 0x0b 1 = 1 ∧ bitOf 0x0b 2 = 0 ∧ bitOf 0x0b 3 = 1 ∧
      bitOf 0x0b 4 = 0 := by decide
  have hd : bitOf 0x0d 0 = 1 ∧ bitOf 0x0d 1 = 0 ∧ bitOf 0x0d 2 = 1 ∧ bitOf 0x0d 3 = 1 ∧
      bitOf 0x0d 4 = 0 := by decide
  have h9 : bitOf 0x09 0 = 1 ∧ bitOf 0x09 1 = 0 ∧ bitOf 0x09 2 = 0 ∧ bitOf 0x09 3 = 1 ∧
      bitOf 0x09 4 = 0 := by decide
  simp [multiply, he, hb, hd, h9]

theorem xtime_zero : xtime 0 = 0 := by decide

theorem xor_cancel_left (x y : UInt8) : x ^^^ (x ^^^ y) = y := by
  rw [← UInt8.xor_assoc]
  simp

theorem xor_left_comm (x y z : UInt8) : x ^^^ (y ^^^ z) = y ^^^ (x ^^^ z) := by
  ac_rfl

/-- `invMixColumn` undoes `mixColumn` on each multiple of a unit column: the
powers of `xtime` cancel in pairs, whatever `xtime` is. -/
theorem invMixColumn_mixColumn_unit (x : UInt8) :
    invMixColumn (mixColumn #v[x, 0, 0, 0]) = #v[x, 0, 0, 0] ∧
    invMixColumn (mixColumn #v[0, x, 0, 0]) = #v[0, x, 0, 0] ∧
    invMixColumn (mixColumn #v[0, 0, x, 0]) = #v[0, 0, x, 0] ∧
    invMixColumn (mixColumn #v[0, 0, 0, x]) = #v[0, 0, 0, x] := by
  simp [invMixColumn, mixColumn, multiply_const, xtime_zero, xtime_xor]
  generalize xtime (xtime (xtime (xtime x))) = x4
  generalize xtime (xtime (xtime x)) = x3
  generalize xtime (xtime x) = x2
  generalize xtime x = x1
  refine ⟨⟨?_, ?_, ?_, ?_⟩, ⟨?_, ?_, ?_, ?_⟩, ⟨?_, ?_, ?_, ?_⟩, ?_, ?_, ?_, ?_⟩
  all_goals simp only [UInt8.xor_comm, xor_left_comm, xor_cancel_left, UInt8.xor_self,
    UInt8.xor_zero]

theorem invMixColumn_mixColumn (a b c d : UInt8) :
    invMixColumn (mixColumn #v[a, b, c, d]) = #v[a, b, c, d] := by
  have hsum : xorColumn (xorColumn #v[a, 0, 0, 0] #v[0, b, 0, 0])
      (xorColumn #v[0, 0, c, 0] #v[0, 0, 0, d]) = #v[a, b, c, d] := by
    simp [xorColumn]
  rw [← hsum]
  simp only [mixColumn_xor, invMixColumn_xor, (invMixColumn_mixColumn_unit a).1,
    (invMixColumn_mixColumn_unit b).2.1, (invMixColumn_mixColumn_unit c).2.2.1,
    (invMixColumn_mixColumn_unit d).2.2.2]

theorem column_eta (s : Bytes 4) : #v[s[0], s[1], s[2], s[3]] = s := by
  apply Vector.ext
  intro i hi
  have h : ∀ j : Fin 4, (#v[s[0], s[1], s[2], s[3]] : Bytes 4)[j] = s[j] := by
    intro j
    fin_cases j <;> rfl
  exact h ⟨i, hi⟩

/-- Working on columns composes, because `onColumns` reads back the columns it wrote. -/
theorem onColumns_onColumns (f g : Bytes 4 → Bytes 4)
    (hfg : ∀ a b c d, f (g #v[a, b, c, d]) = #v[a, b, c, d]) (s : AesBlock) :
    onColumns f (onColumns g s) = s := by
  have hcol : ∀ a b c d, f #v[(g #v[a, b, c, d])[0], (g #v[a, b, c, d])[1],
      (g #v[a, b, c, d])[2], (g #v[a, b, c, d])[3]] = #v[a, b, c, d] := by
    intro a b c d
    rw [column_eta, hfg]
  rw [← block_eta s]
  simp [onColumns, hcol]

theorem invMixColumns_mixColumns (s : AesBlock) : invMixColumns (mixColumns s) = s :=
  onColumns_onColumns _ _ invMixColumn_mixColumn s

/-! ## The inverse cipher -/

theorem invCipherRound_step (roundKey : Bytes 176) (s : AesBlock) (round : Fin 11) :
    invMixColumns (addRoundKey round (cipherRound roundKey s round) roundKey) =
      shiftRows (subBytes s) := by
  rw [cipherRound, addRoundKey_addRoundKey, invMixColumns_mixColumns]

/-- With the same round keys, `invCipher` undoes `cipher`. Each inverse round
meets the state one substitution and one row shift short of the round it
undoes, which is the shape `invCipherRound_step` restores. -/
theorem invCipher_cipher (roundKey : Bytes 176) (b : AesBlock) :
    invCipher roundKey (cipher roundKey b) = b := by
  simp only [invCipher, cipher, List.foldl_cons, List.foldl_nil, addRoundKey_addRoundKey,
    invCipherRound, invShiftRows_shiftRows, invSubBytes_subBytes, invCipherRound_step]

end GcToolKit.Crypto
