import GcToolKit.Net.Segmentation

/-!
# The names the receiver opens

A packet carries a name in a member of fixed size, and the receiver terminates
it there and takes the illegal bytes out. The member of a patch packet is much
shorter than that of a send packet.

* `legal_removeIllegalChars` — what is opened is no path, whatever the packet;
* `samePatchName_iff` — a patch reaches the file that was sent exactly for names
  of at most 0x4F bytes.
-/

namespace GcToolKit.Net

open ByteBuf

/-! ## Taking the illegal bytes out -/

theorem removeIllegalChar_legal (c : UInt8) : removeIllegalChar c ∉ illegalChars := by
  unfold removeIllegalChar
  split
  · next hpart =>
    -- the illegal bytes are ASCII
    intro hmem
    have hascii : illegalChars.all isAscii = true := rfl
    exact hpart (List.all_eq_true.mp hascii c hmem)
  · split
    · decide
    · next hlegal => exact hlegal

theorem length_removeIllegalChars (str : CString) :
    (removeIllegalChars str).bytes.length = str.bytes.length :=
  List.length_map _

theorem removeIllegalChars_legal (str : CString) :
    ∀ b ∈ (removeIllegalChars str).bytes, b ∉ illegalChars := by
  intro b hb
  rcases List.mem_map.mp hb with ⟨c, -, rfl⟩
  exact removeIllegalChar_legal c

/-! ## No packet opens a path -/

/-- No slash, no backslash, no colon. -/
def Legal (filename : CString) : Prop :=
  0x2F ∉ filename.bytes ∧ 0x5C ∉ filename.bytes ∧ 0x3A ∉ filename.bytes

theorem legal_removeIllegalChars (str : CString) : Legal (removeIllegalChars str) := by
  have hlegal := removeIllegalChars_legal str
  refine ⟨?_, ?_, ?_⟩
  · intro hslash
    exact hlegal _ hslash (by decide)
  · intro hbackslash
    exact hlegal _ hbackslash (by decide)
  · intro hcolon
    exact hlegal _ hcolon (by decide)

/-! ## The two packets of one file -/

variable (filename : CString)

/-- The file that is patched is the one that was sent, whatever its size and
the patch. -/
def SamePatchName : Prop :=
  ∀ fileSize offset data, patchFilename (patchFilePacket filename offset data) =
    sendFilename (sendFilePacket filename fileSize)

variable {filename}

/-- Taking bytes out keeps the length, so both packets cut the name at one place. -/
theorem SamePatchName.length_take (hsame : SamePatchName filename) :
    (filename.take (0x50 - 1)).bytes.length = (filename.take (0x206 - 1)).bytes.length := by
  have heq := congrArg (fun s : CString => s.bytes.length) (hsame 0 0 [])
  rw [patchFilename_patchFilePacket, sendFilename_sendFilePacket, length_removeIllegalChars,
    length_removeIllegalChars] at heq
  exact heq

/-- Of the names that fit into a send packet, those that fit into a patch
packet too. -/
theorem samePatchName_iff (hfit : filename.bytes.length ≤ 0x206 - 1) :
    SamePatchName filename ↔ filename.bytes.length ≤ 0x50 - 1 := by
  have hsend : (filename.take (0x206 - 1)) = filename :=
    CString.ext (List.take_of_length_le hfit)
  constructor
  · intro hsame
    have hlen := hsame.length_take
    rw [hsend] at hlen
    rw [← hlen]
    exact List.length_take_le _ _
  · intro hshort fileSize offset data
    have hpatch : (filename.take (0x50 - 1)) = filename :=
      CString.ext (List.take_of_length_le hshort)
    rw [patchFilename_patchFilePacket, sendFilename_sendFilePacket, hsend, hpatch]

/-- 74 times "a", then ":.psv": as long as the patch packet has room for. -/
def roomyName : CString :=
  CString.ofBytes (List.replicate 74 0x61 ++ [0x3A, 0x2E, 0x70, 0x73, 0x76])

theorem samePatchName_iff_roomyName : SamePatchName roomyName ∧ roomyName.bytes.length = 0x50 - 1 :=
  ⟨(samePatchName_iff (by decide)).mpr (by decide), by decide⟩

/-- 76 times "a", then ".psv". -/
def longName : CString :=
  CString.ofBytes (List.replicate 76 0x61 ++ [0x2E, 0x70, 0x73, 0x76])

/-- It is sent whole, and the patch goes to another file. -/
theorem not_samePatchName_longName :
    longName.bytes.length ≤ 0x206 - 1 ∧ ¬ SamePatchName longName := by
  refine ⟨by decide, ?_⟩
  intro hsame
  have hlen := hsame.length_take
  revert hlen
  decide

end GcToolKit.Net
