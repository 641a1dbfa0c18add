import Mathlib.Algebra.Group.Nat.Defs
import GcToolKit.Lib.ForLoop
import GcToolKit.Crypto.Modes

/-!
# The cipher of crypto/aes.c is AES-128

The definition of the standard works on a square of bytes in four rows and four columns, and
on polynomials of bits: products are taken modulo one of degree eight, and a byte is
substituted by the inverse of its polynomial. The code has sixteen bytes in a row, tables for
the substitution and the constants, and a shift where the definition multiplies.

* `gfMul`, `stdSubByte`, `stdKeyWord`, `stdMixColumns`, `stdAes` — the definition;
* `sbox_standard`, `rcon_standard` — the tables are those that it names;
* `mixColumn_row` — one shift for each byte gives the products of a column;
* `keyExpansion_word` — the words of the schedule, from those before them;
* `cipher_standard` — a block is encrypted as it says, and the inverse gives it back.
-/

namespace GcToolKit.Crypto

open ByteBuf

/-! ## The definition -/

/-- The product of two polynomials. A number has a bit for each power that occurs. -/
def polyMul (a b : Nat) : Nat :=
  [0, 1, 2, 3, 4, 5, 6, 7].foldl (fun p i => p ^^^ b / 2 ^ i % 2 * (a * 2 ^ i)) 0

/-- The remainder of a polynomial of degree 14 at most, on division by
`x^8 + x^4 + x^3 + x + 1`. -/
def polyMod (p : Nat) : Nat :=
  [6, 5, 4, 3, 2, 1, 0].foldl (fun p i => p ^^^ p / 2 ^ (i + 8) % 2 * (0x11b * 2 ^ i)) p

/-- The product in the field of 256 elements. -/
def gfMul (a b : UInt8) : UInt8 := UInt8.ofNat (polyMod (polyMul a.toNat b.toNat))

def gfPow (a : UInt8) : Nat → UInt8
  | 0 => 1
  | k + 1 => gfMul a (gfPow a k)

/-- The power 254, from the powers of two below it: the inverse, and 0 for 0. -/
def gfInverse (a : UInt8) : UInt8 :=
  let a2 := gfMul a a
  let a4 := gfMul a2 a2
  let a8 := gfMul a4 a4
  let a16 := gfMul a8 a8
  let a32 := gfMul a16 a16
  let a64 := gfMul a32 a32
  let a128 := gfMul a64 a64
  gfMul a2 (gfMul a4 (gfMul a8 (gfMul a16 (gfMul a32 (gfMul a64 a128)))))

/-- Each bit is added to the four behind it, and a constant to the byte. -/
def stdAffine (b : BitVec 8) : BitVec 8 :=
  b ^^^ b.rotateLeft 1 ^^^ b.rotateLeft 2 ^^^ b.rotateLeft 3 ^^^ b.rotateLeft 4 ^^^ 0x63

def stdSubByte (a : UInt8) : UInt8 := .ofBitVec (stdAffine (gfInverse a).toBitVec)

/-- The words of the key schedule: those of the key, and others made of two earlier ones. -/
def stdKeyWord (key : AesBlock) (i : Nat) : Bytes 4 :=
  if h : i < 4 then #v[key[4 * i], key[4 * i + 1], key[4 * i + 2], key[4 * i + 3]]
  else
    let temp := stdKeyWord key (i - 1)
    let temp : Bytes 4 :=
      if i % 4 = 0 then
        #v[stdSubByte temp[1] ^^^ gfPow 2 (i / 4 - 1), stdSubByte temp[2], stdSubByte temp[3],
          stdSubByte temp[0]]
      else temp
    Vector.zipWith (· ^^^ ·) (stdKeyWord key (i - 4)) temp

/-- The square of bytes, by row and column. -/
abbrev StdState := Fin 4 → Fin 4 → UInt8

/-- A block fills the columns one after the other. -/
def stateOf (b : AesBlock) : StdState := fun r c => b[r.val + 4 * c.val]

def ofState (s : StdState) : AesBlock :=
  Vector.ofFn fun i => s ⟨i.val % 4, by omega⟩ ⟨i.val / 4, by omega⟩

def stdSubBytes (s : StdState) : StdState := fun r c => stdSubByte (s r c)

/-- A row is rotated by its number. -/
def stdShiftRows (s : StdState) : StdState := fun r c => s r (c + r)

/-- A column is multiplied by a polynomial whose coefficients are field elements. -/
def stdMixColumns (s : StdState) : StdState := fun r c =>
  gfMul 2 (s r c) ^^^ gfMul 3 (s (r + 1) c) ^^^ s (r + 2) c ^^^ s (r + 3) c

def stdAddRoundKey (key : AesBlock) (round : Nat) (s : StdState) : StdState := fun r c =>
  s r c ^^^ (stdKeyWord key (4 * round + c))[r]

def stdRoundOf (key : AesBlock) (s : StdState) (round : Nat) : StdState :=
  stdAddRoundKey key round (stdMixColumns (stdShiftRows (stdSubBytes s)))

def stdAes (key block : AesBlock) : AesBlock :=
  let s := stdAddRoundKey key 0 (stateOf block)
  let s := (List.range' 1 9).foldl (stdRoundOf key) s
  ofState (stdAddRoundKey key 10 (stdShiftRows (stdSubBytes s)))

/-! ## The tables -/

/-- The table, and what is computed as the inverse, byte by byte. -/
theorem sbox_table : ∀ z : Fin 256, sbox.get z = stdSubByte (.ofFin z) ∧
    (z ≠ 0 → gfMul (.ofFin z) (gfInverse (.ofFin z)) = 1) := by
  decide +kernel

theorem sbox_standard (a : UInt8) : getSBoxValue a = stdSubByte a := (sbox_table a.toFin).1

theorem gfMul_gfInverse (a : UInt8) (h : a ≠ 0) : gfMul a (gfInverse a) = 1 :=
  (sbox_table a.toFin).2 fun hz => h (UInt8.toFin_inj.mp hz)

theorem rcon_standard : ∀ j (hj : j < 11), 0 < j → rcon[j] = gfPow 2 (j - 1) := by
  decide +kernel

/-! ## The key schedule -/

theorem keyExpansionStep_new (roundKey : Bytes 176) (t : Fin 40) (hnew : (t.val + 4) * 4 + 4 ≤ 176)
    (hfirst : t.val * 4 + 4 ≤ 176) (hlast : (t.val + 3) * 4 + 4 ≤ 176) :
    slice (keyExpansionStep roundKey t) ((t.val + 4) * 4) 4 hnew =
      Vector.zipWith (· ^^^ ·) (slice roundKey (t.val * 4) 4 hfirst)
        (let temp : Bytes 4 := slice roundKey ((t.val + 3) * 4) 4 hlast
          if (t.val + 4) % 4 = 0 then
            #v[stdSubByte (temp.get 1) ^^^ gfPow 2 ((t.val + 4) / 4 - 1), stdSubByte (temp.get 2),
              stdSubByte (temp.get 3), stdSubByte (temp.get 0)]
          else temp) := by
  have hround : rcon[(t.val + 4) / 4] = gfPow 2 ((t.val + 4) / 4 - 1) :=
    rcon_standard _ (by omega) (by omega)
  unfold keyExpansionStep
  dsimp only
  rw [slice_splice_same]
  simp only [sbox_standard, hround]
  rfl

theorem keyExpansionStep_old (roundKey : Bytes 176) (t : Fin 40) {i : Nat} (hi : i < t.val + 4) :
    slice (keyExpansionStep roundKey t) (i * 4) 4 (by omega) =
      slice roundKey (i * 4) 4 (by omega) := by
  unfold keyExpansionStep
  dsimp only
  exact slice_splice_disjoint _ _ _ _ _ _ _ (by omega)

theorem stdKeyWord_made (key : AesBlock) {i : Nat} (h : 4 ≤ i) :
    stdKeyWord key i =
      Vector.zipWith (· ^^^ ·) (stdKeyWord key (i - 4))
        (let temp := stdKeyWord key (i - 1)
          if i % 4 = 0 then
            #v[stdSubByte temp[1] ^^^ gfPow 2 (i / 4 - 1), stdSubByte temp[2], stdSubByte temp[3],
              stdSubByte temp[0]]
          else temp) := by
  rw [stdKeyWord, dif_neg (Nat.not_lt.mpr h)]

/-- The words that are there in front of pass `t`. -/
def WordsUpTo (key : AesBlock) (t : Nat) (roundKey : Bytes 176) : Prop :=
  ∀ i (hi : i < 44), i < t + 4 → slice roundKey (i * 4) 4 (by omega) = stdKeyWord key i

theorem wordsUpTo_start (key : AesBlock) :
    WordsUpTo key 0 (splice (Vector.replicate 176 0) 0 key) := by
  intro i hi44 hi
  rw [stdKeyWord, dif_pos (by omega)]
  apply Vector.ext
  intro j hj
  have hin : 0 ≤ i * 4 + j ∧ i * 4 + j < 0 + 16 := by omega
  rw [getElem_slice, getElem_splice, dif_pos hin]
  have hplace : ∀ l (hl : l < 16), i * 4 + j - 0 = l → key[i * 4 + j - 0] = key[l] := by
    intro l hl heq
    subst heq
    rfl
  have hbytes : j = 0 ∨ j = 1 ∨ j = 2 ∨ j = 3 := by omega
  rcases hbytes with rfl | rfl | rfl | rfl
  · exact hplace _ _ (by omega)
  · exact hplace _ _ (by omega)
  · exact hplace _ _ (by omega)
  · exact hplace _ _ (by omega)

theorem wordsUpTo_step (key : AesBlock) (t : Fin 40) (roundKey : Bytes 176)
    (h : WordsUpTo key t roundKey) : WordsUpTo key (t + 1) (keyExpansionStep roundKey t) := by
  intro i hi44 hi
  by_cases hold : i < t.val + 4
  · rw [keyExpansionStep_old roundKey t hold]
    exact h i hi44 hold
  · -- the word that this pass makes
    have hnew : i = t.val + 4 := by omega
    subst hnew
    have hlast := h (t.val + 3) (by omega) (by omega)
    have hfirst := h t.val (by omega) (by omega)
    rw [keyExpansionStep_new _ _ (by omega) (by omega) (by omega), hlast, hfirst,
      stdKeyWord_made key (Nat.le_add_left 4 t)]
    rfl

theorem keyExpansion_word (key : AesBlock) {i : Nat} (hi : i < 44) :
    slice (keyExpansion key) (i * 4) 4 (by omega) = stdKeyWord key i := by
  have hall : WordsUpTo key 40 (keyExpansion key) :=
    ForLoop.foldl_finRange_induction (wordsUpTo_start key) (wordsUpTo_step key)
  exact hall i hi hi

/-! ## The rounds -/

theorem ofState_stateOf (b : AesBlock) : ofState (stateOf b) = b := by
  apply Vector.ext
  intro i hi
  have hplace : i % 4 + 4 * (i / 4) = i := by omega
  unfold ofState stateOf
  rw [Vector.getElem_ofFn]
  simp only [hplace]

theorem stateOf_subBytes (b : AesBlock) : stateOf (subBytes b) = stdSubBytes (stateOf b) := by
  funext r c
  unfold stateOf subBytes stdSubBytes
  rw [Vector.getElem_map, sbox_standard]

theorem stateOf_shiftRows (b : AesBlock) : stateOf (shiftRows b) = stdShiftRows (stateOf b) := by
  funext r c
  fin_cases r <;> fin_cases c <;> rfl

/-- One shift gives the products by two, and a sum those by three. -/
theorem gfMul_two_three (a : UInt8) : gfMul 2 a = xtime a ∧ gfMul 3 a = xtime a ^^^ a := by
  have hall : ∀ z : Fin 256, gfMul 2 (.ofFin z) = xtime (.ofFin z) ∧
      gfMul 3 (.ofFin z) = xtime (.ofFin z) ^^^ .ofFin z := by
    decide +kernel
  exact hall a.toFin

theorem mixColumn_row (a b c d : UInt8) :
    a ^^^ (xtime (a ^^^ b) ^^^ (a ^^^ b ^^^ c ^^^ d)) = gfMul 2 a ^^^ gfMul 3 b ^^^ c ^^^ d := by
  have htwice : a ^^^ (xtime a ^^^ xtime b ^^^ (a ^^^ b ^^^ c ^^^ d)) =
      (a ^^^ a) ^^^ (xtime a ^^^ (xtime b ^^^ b) ^^^ c ^^^ d) := by
    ac_rfl
  rw [(gfMul_two_three a).1, (gfMul_two_three b).2, xtime_xor, htwice, UInt8.xor_self,
    UInt8.zero_xor]

theorem xor_rotate (a b c d : UInt8) : a ^^^ b ^^^ c ^^^ d = b ^^^ c ^^^ d ^^^ a := by
  ac_rfl

theorem mixColumn_eq (a b c d : UInt8) :
    mixColumn #v[a, b, c, d] =
      #v[gfMul 2 a ^^^ gfMul 3 b ^^^ c ^^^ d, gfMul 2 b ^^^ gfMul 3 c ^^^ d ^^^ a,
        gfMul 2 c ^^^ gfMul 3 d ^^^ a ^^^ b, gfMul 2 d ^^^ gfMul 3 a ^^^ b ^^^ c] := by
  have h1 := mixColumn_row b c d a
  have h2 := mixColumn_row c d a b
  have h3 := mixColumn_row d a b c
  rw [← xor_rotate a b c d] at h1
  rw [← xor_rotate b c d a, ← xor_rotate a b c d] at h2
  rw [xor_rotate d a b c] at h3
  rw [← mixColumn_row a b c d, ← h1, ← h2, ← h3]
  rfl

theorem stateOf_mixColumns (b : AesBlock) :
    stateOf (mixColumns b) = stdMixColumns (stateOf b) := by
  funext r c
  unfold mixColumns onColumns
  simp only [mixColumn_eq]
  fin_cases r <;> fin_cases c <;> rfl

theorem stateOf_addRoundKey (key b : AesBlock) (round : Fin 11) :
    stateOf (addRoundKey round b (keyExpansion key)) = stdAddRoundKey key round (stateOf b) := by
  funext r c
  have hplace : round.val * 16 + (r.val + 4 * c.val) = (4 * round.val + c.val) * 4 + r.val := by
    omega
  unfold stateOf addRoundKey stdAddRoundKey
  rw [Vector.getElem_zipWith, ← keyExpansion_word key (by omega), getElem_slice]
  simp only [hplace]
  rw [Fin.getElem_fin, getElem_slice]

theorem stateOf_cipherRound (key b : AesBlock) (round : Fin 11) :
    stateOf (cipherRound (keyExpansion key) b round) = stdRoundOf key (stateOf b) round := by
  unfold cipherRound stdRoundOf
  rw [stateOf_addRoundKey, stateOf_mixColumns, stateOf_shiftRows, stateOf_subBytes]

theorem stateOf_rounds (key b : AesBlock) (rounds : List (Fin 11)) :
    stateOf (rounds.foldl (cipherRound (keyExpansion key)) b) =
      (rounds.map Fin.val).foldl (stdRoundOf key) (stateOf b) := by
  induction rounds generalizing b with
  | nil => rfl
  | cons round rounds ih =>
    rw [List.foldl_cons, ih, stateOf_cipherRound, List.map_cons, List.foldl_cons]

/-- The cipher of the code under the key schedule of the code is AES, and its inverse cipher
gives the block back. -/
theorem cipher_standard (key block : AesBlock) :
    cipher (keyExpansion key) block = stdAes key block ∧
      invCipher (keyExpansion key) (stdAes key block) = block := by
  have hcipher : cipher (keyExpansion key) block = stdAes key block := by
    unfold stdAes
    dsimp only
    rw [← ofState_stateOf (cipher (keyExpansion key) block)]
    congr 1
    unfold cipher
    dsimp only
    rw [stateOf_addRoundKey, stateOf_shiftRows, stateOf_subBytes, stateOf_rounds,
      stateOf_addRoundKey]
    rfl
  refine ⟨hcipher, ?_⟩
  rw [← hcipher]
  exact invCipher_cipher _ _

end GcToolKit.Crypto
