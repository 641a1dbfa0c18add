import GcToolKit.Lib.StreamHash
import GcToolKit.Crypto.Aes

/-!
# SHA-256 (app/sha256.c)

The application hashes a dump with its own SHA-256. Words are 32 bits and are
read from and written to bytes with the highest byte first.
-/

namespace GcToolKit.Crypto

/-! ## Words -/

/-- `ROTRIGHT` -/
def rotRight (a b : UInt32) : UInt32 := (a >>> b) ||| (a <<< (32 - b))

def ch (x y z : UInt32) : UInt32 := (x &&& y) ^^^ (~~~x &&& z)
def maj (x y z : UInt32) : UInt32 := (x &&& y) ^^^ (x &&& z) ^^^ (y &&& z)
def ep0 (x : UInt32) : UInt32 := rotRight x 2 ^^^ rotRight x 13 ^^^ rotRight x 22
def ep1 (x : UInt32) : UInt32 := rotRight x 6 ^^^ rotRight x 11 ^^^ rotRight x 25
def sig0 (x : UInt32) : UInt32 := rotRight x 7 ^^^ rotRight x 18 ^^^ (x >>> 3)
def sig1 (x : UInt32) : UInt32 := rotRight x 17 ^^^ rotRight x 19 ^^^ (x >>> 10)

def sha256K : Vector UInt32 64 := #v[
  0x428a2f98, 0x71374491, 0xb5c0fbcf, 0xe9b5dba5, 0x3956c25b, 0x59f111f1, 0x923f82a4, 0xab1c5ed5,
  0xd807aa98, 0x12835b01, 0x243185be, 0x550c7dc3, 0x72be5d74, 0x80deb1fe, 0x9bdc06a7, 0xc19bf174,
  0xe49b69c1, 0xefbe4786, 0x0fc19dc6, 0x240ca1cc, 0x2de92c6f, 0x4a7484aa, 0x5cb0a9dc, 0x76f988da,
  0x983e5152, 0xa831c66d, 0xb00327c8, 0xbf597fc7, 0xc6e00bf3, 0xd5a79147, 0x06ca6351, 0x14292967,
  0x27b70a85, 0x2e1b2138, 0x4d2c6dfc, 0x53380d13, 0x650a7354, 0x766a0abb, 0x81c2c92e, 0x92722c85,
  0xa2bfe8a1, 0xa81a664b, 0xc24b8b70, 0xc76c51a3, 0xd192e819, 0xd6990624, 0xf40e3585, 0x106aa070,
  0x19a4c116, 0x1e376c08, 0x2748774c, 0x34b0bcb5, 0x391c0cb3, 0x4ed8aa4a, 0x5b9cca4f, 0x682e6ff3,
  0x748f82ee, 0x78a5636f, 0x84c87814, 0x8cc70208, 0x90befffa, 0xa4506ceb, 0xbef9a3f7, 0xc67178f2]

/-! ## Context -/

/-- `datalen` never reaches 64 between two calls. -/
structure Sha256Ctx where
  data : Vector UInt8 64
  datalen : Fin 64
  bitlen : UInt64
  state : Vector UInt32 8

/-- The message schedule after `n` of its last 48 words. -/
def sha256Schedule (data : Vector UInt8 64) : Vector UInt32 64 :=
  let m : Vector UInt32 64 := Vector.ofFn fun i =>
    if h : i.val < 16 then
      (data[4 * i.val].toUInt32 <<< 24) ||| (data[4 * i.val + 1].toUInt32 <<< 16) |||
        (data[4 * i.val + 2].toUInt32 <<< 8) ||| data[4 * i.val + 3].toUInt32
    else 0
  (List.finRange 48).foldl
    (fun m i => m.set (i.val + 16)
      (sig1 m[i.val + 14] + m[i.val + 9] + sig0 m[i.val + 1] + m[i.val])) m

/-- One round on the words `a` to `h`. -/
def sha256Round (m : Vector UInt32 64) (v : Vector UInt32 8) (i : Fin 64) : Vector UInt32 8 :=
  let t1 := v[7] + ep1 v[4] + ch v[4] v[5] v[6] + sha256K[i] + m[i]
  let t2 := ep0 v[0] + maj v[0] v[1] v[2]
  #v[t1 + t2, v[0], v[1], v[2], v[3] + t1, v[4], v[5], v[6]]

def sha256Transform (ctx : Sha256Ctx) : Sha256Ctx :=
  let m := sha256Schedule ctx.data
  let v := (List.finRange 64).foldl (sha256Round m) ctx.state
  { ctx with state := Vector.zipWith (· + ·) ctx.state v }

def sha256Init : Sha256Ctx where
  data := Vector.replicate 64 0
  datalen := 0
  bitlen := 0
  state := #v[0x6a09e667, 0xbb67ae85, 0x3c6ef372, 0xa54ff53a, 0x510e527f, 0x9b05688c,
    0x1f83d9ab, 0x5be0cd19]

/-- One pass of the loop of `sha256_update`. -/
def sha256Absorb (ctx : Sha256Ctx) (b : UInt8) : Sha256Ctx :=
  let ctx := { ctx with data := ctx.data.set ctx.datalen b }
  if h : ctx.datalen.val + 1 < 64 then { ctx with datalen := ⟨ctx.datalen.val + 1, h⟩ }
  else
    let ctx := sha256Transform ctx
    { ctx with bitlen := ctx.bitlen + 512, datalen := 0 }

/-- The padding; a block too full for the length is transformed first. -/
def sha256Pad (ctx : Sha256Ctx) : Sha256Ctx :=
  let filled : Vector UInt8 64 := Vector.ofFn fun i =>
    if i < ctx.datalen then ctx.data[i] else if i = ctx.datalen then 0x80
    else if i.val < 56 ∨ ctx.datalen.val ≥ 56 then 0 else ctx.data[i]
  let ctx := { ctx with data := filled }
  if ctx.datalen.val < 56 then ctx
  else
    let ctx := sha256Transform ctx
    { ctx with data := Vector.ofFn fun i => if i.val < 56 then 0 else ctx.data[i] }

def sha256Final (ctx : Sha256Ctx) : Bytes 0x20 :=
  let ctx := sha256Pad ctx
  let bitlen := ctx.bitlen + ctx.datalen.val.toUInt64 * 8
  let data : Vector UInt8 64 := Vector.ofFn fun i =>
    if i.val < 56 then ctx.data[i]
    else (bitlen >>> (8 * (63 - i.val)).toUInt64).toUInt8
  let ctx := sha256Transform { ctx with data := data }
  Vector.ofFn fun i => (ctx.state[i.val / 4] >>> (24 - 8 * (i.val % 4)).toUInt32).toUInt8

/-- `sha256_init`, `sha256_update` and `sha256_final`. -/
def sha256 : StreamHash Sha256Ctx (Bytes 0x20) :=
  StreamHash.ofStep sha256Init sha256Absorb sha256Final

end GcToolKit.Crypto
