import GcToolKit.Net.FileNames

/-!
# What is read of a packet

`receive_packets` reads the members of the packet and, for a patch, as many
bytes from `patch_data` on as the packet says; the name, which it has changed by
then, comes behind the data. `packetReads` lists these ranges.

* `servePacket_eq_of_agree` — nothing else is read: what is done depends on
  these bytes only;
* `servedSafely_iff` — they lie inside the packet, and what is opened is a
  terminated name and no path, except for a patch that claims more than the
  0x202 bytes there are.
-/

namespace GcToolKit.Net

open ByteBuf LittleEndian

/-! ## The ranges -/

/-- A range of the memory the packet is at the front of. -/
structure Access where
  off : Nat
  len : Nat
deriving DecidableEq

namespace Access

def Inside (a : Access) : Prop := a.off + a.len ≤ packetSize

def ofField {len : Nat} (f : Field packetSize len) : Access := ⟨f.off, len⟩

/-- A name, with its terminator. -/
def ofName {len : Nat} (f : Field packetSize len) (filename : CString) : Access :=
  ⟨f.off, filename.bytes.length + 1⟩

theorem inside_ofField {len : Nat} (f : Field packetSize len) : (ofField f).Inside := f.bound

end Access

variable (pc : Pc)

/-- `fopen` and `fseek` succeed. -/
def PatchOpens (packet : Packet) (files : Files) : Prop :=
  (files (patchFilename packet)).isSome ∧ pc.canOpen (patchFilename packet) ∧
    (pc.fseek (getLe PatchFile.offset packet)).isSome

instance (packet : Packet) (files : Files) : Decidable (PatchOpens pc packet files) :=
  inferInstanceAs (Decidable (_ ∧ _ ∧ _))

/-- What is read, each range once. -/
def packetReads (packet : Packet) (files : Files) : List Access :=
  .ofField magicField ::
    if getLe magicField packet = sendFileMagic then
      [.ofName SendFile.filename (sendFilename packet), .ofField SendFile.totalSize]
    else if getLe magicField packet = patchFileMagic then
      [.ofName PatchFile.filename (patchFilename packet), .ofField PatchFile.patchSize,
        .ofField PatchFile.offset] ++
      if PatchOpens pc packet files then
        [⟨PatchFile.patchData.off, getLe PatchFile.patchSize packet⟩]
      else []
    else []

/-! ## Names in their members -/

theorem sendTerminator_lt : 0x205 < 0x206 := by decide

/-- The member `fopen` is given. -/
def openedName (packet : Packet) : Option (List UInt8) :=
  if getLe magicField packet = sendFileMagic then
    some (removeIllegalCharsIn
      ((SendFile.filename.get packet).set 0x205 0 sendTerminator_lt)).toList
  else if getLe magicField packet = patchFileMagic then
    some (removeIllegalCharsIn
      ((PatchFile.filename.get packet).set 0x4F 0 patchTerminator_lt)).toList
  else none

theorem zero_mem_set {n k : Nat} (b : Vector UInt8 n) (hk : k < n) : 0 ∈ (b.set k 0).toList := by
  rw [Vector.mem_toList_iff]
  exact Vector.mem_iff_getElem.mpr ⟨k, hk, Vector.getElem_set_self ..⟩

section InPlace

variable {n : Nat} {str : Vector UInt8 n}

variable (str) in
theorem get_removeIllegalCharsIn (i : Fin n) :
    (removeIllegalCharsIn str).get i =
      if i.val < (CString.ofBuffer str).bytes.length then removeIllegalChar (str.get i)
      else str.get i := by
  unfold removeIllegalCharsIn
  exact Vector.getElem_ofFn ..

variable (str) in
theorem toList_removeIllegalCharsIn :
    (removeIllegalCharsIn str).toList =
      (str.toList.take (CString.ofBuffer str).bytes.length).map removeIllegalChar ++
        str.toList.drop (CString.ofBuffer str).bytes.length := by
  have hsplit := List.take_append_drop (CString.ofBuffer str).bytes.length str.toList
  apply List.ext_getElem
  · have hlen := congrArg List.length hsplit
    rw [List.length_append] at hlen
    rw [List.length_append, List.length_map, hlen, Vector.length_toList, Vector.length_toList]
  · intro i hi hi'
    have hin : i < n := by
      rw [Vector.length_toList] at hi
      exact hi
    have hget := get_removeIllegalCharsIn str ⟨i, hin⟩
    rw [Vector.getElem_toList]
    refine hget.trans ?_
    by_cases hfront : i < (CString.ofBuffer str).bytes.length
    · rw [if_pos hfront, List.getElem_append_left (by
        rw [List.length_map, List.length_take, Vector.length_toList]
        omega), List.getElem_map, List.getElem_take]
      rfl
    · rw [if_neg hfront, List.getElem_append_right (by
        rw [List.length_map, List.length_take]
        omega), List.getElem_drop]
      simp only [List.length_map, List.length_take, Vector.length_toList, Vector.getElem_toList]
      change str[i] = _
      congr 1
      omega

/-- The terminator stays where it is. -/
theorem removeIllegalCharsIn_split (h : 0 ∈ str.toList) :
    ∃ rest, (removeIllegalCharsIn str).toList =
      (removeIllegalChars (CString.ofBuffer str)).bytes ++ 0 :: rest := by
  rcases CString.split_ofBytes h with ⟨rest, hsplit⟩
  refine ⟨rest, ?_⟩
  have htake : str.toList.take (CString.ofBuffer str).bytes.length =
      (CString.ofBuffer str).bytes :=
    (congrArg (List.take (CString.ofBuffer str).bytes.length) hsplit).trans
      (List.take_left' rfl)
  have hdrop : str.toList.drop (CString.ofBuffer str).bytes.length = 0 :: rest :=
    (congrArg (List.drop (CString.ofBuffer str).bytes.length) hsplit).trans
      (List.drop_left' rfl)
  rw [toList_removeIllegalCharsIn, htake, hdrop]
  rfl

/-- In place or not, it is the same name. -/
theorem ofBuffer_removeIllegalCharsIn (h : 0 ∈ str.toList) :
    CString.ofBuffer (removeIllegalCharsIn str) = removeIllegalChars (CString.ofBuffer str) := by
  rcases removeIllegalCharsIn_split h with ⟨rest, hsplit⟩
  unfold CString.ofBuffer at hsplit ⊢
  rw [hsplit]
  exact CString.ofBytes_append_zero _ _

theorem terminated_removeIllegalCharsIn (h : 0 ∈ str.toList) :
    0 ∈ (removeIllegalCharsIn str).toList ∧
      Legal (CString.ofBytes (removeIllegalCharsIn str).toList) := by
  constructor
  · rcases removeIllegalCharsIn_split h with ⟨rest, hsplit⟩
    rw [hsplit]
    exact List.mem_append_right _ List.mem_cons_self
  · have hname : CString.ofBytes (removeIllegalCharsIn str).toList =
        removeIllegalChars (CString.ofBuffer str) := ofBuffer_removeIllegalCharsIn h
    rw [hname]
    exact legal_removeIllegalChars _

end InPlace

/-- The name a member holds ends within the member. -/
theorem length_name_lt {n k : Nat} (b : Vector UInt8 n) (hk : k < n) :
    (removeIllegalChars (CString.ofBuffer (b.set k 0))).bytes.length < n := by
  have hlt := CString.length_ofBytes_lt (zero_mem_set b hk)
  rw [Vector.length_toList] at hlt
  rw [length_removeIllegalChars]
  exact hlt

theorem inside_sendFilename (packet : Packet) :
    (Access.ofName SendFile.filename (sendFilename packet)).Inside := by
  have hlt : (sendFilename packet).bytes.length < 0x206 := length_name_lt _ (by decide)
  exact Nat.le_trans (Nat.add_le_add_left hlt _) SendFile.filename.bound

theorem inside_patchFilename (packet : Packet) :
    (Access.ofName PatchFile.filename (patchFilename packet)).Inside := by
  have hlt : (patchFilename packet).bytes.length < 0x50 := length_name_lt _ (by decide)
  exact Nat.le_trans (Nat.add_le_add_left hlt _) PatchFile.filename.bound

/-! ## Nothing else is read -/

section Agree

variable {pc} {pc' : Pc} {packet packet' : Packet}

/-- The byte at a position, also behind the packet. -/
def byteAt (pc : Pc) (packet : Packet) (i : Nat) : UInt8 :=
  if h : i < packetSize then packet[i] else pc.stack (i - packetSize)

theorem byteAt_field {len i : Nat} (f : Field packetSize len) (hi : i < len) :
    byteAt pc packet (f.off + i) = (f.get packet)[i] := by
  have hin : f.off + i < packetSize := by
    have hbound := f.bound
    omega
  have hmember : (f.get packet)[i] = packet[f.off + i] := getElem_slice ..
  unfold byteAt
  rw [dif_pos hin, hmember]

/-- The two memories hold the same bytes there. -/
def Access.Agree (pc pc' : Pc) (packet packet' : Packet) (a : Access) : Prop :=
  ∀ i < a.len, byteAt pc packet (a.off + i) = byteAt pc' packet' (a.off + i)

theorem get_eq_of_agree {len : Nat} (f : Field packetSize len)
    (h : (Access.ofField f).Agree pc pc' packet packet') : f.get packet = f.get packet' := by
  ext i hi
  have hbyte := h i hi
  rw [Access.ofField, byteAt_field f hi, byteAt_field f hi] at hbyte
  rw [hbyte]

theorem getLe_eq_of_agree {len : Nat} (f : Field packetSize len)
    (h : (Access.ofField f).Agree pc pc' packet packet') : getLe f packet = getLe f packet' := by
  unfold getLe
  rw [get_eq_of_agree f h]

/-- A name depends on its bytes and the terminator. -/
theorem name_eq_of_agree {n k : Nat} (f : Field packetSize n) (hk : k < n)
    (h : (Access.ofName f (removeIllegalChars (CString.ofBuffer ((f.get packet).set k 0)))).Agree
      pc pc' packet packet') :
    CString.ofBuffer ((f.get packet').set k 0) = CString.ofBuffer ((f.get packet).set k 0) := by
  apply CString.ofBytes_eq_of_take (zero_mem_set _ hk)
  apply List.ext_getElem
  · rw [List.length_take, List.length_take, Vector.length_toList, Vector.length_toList]
  · intro i hi hi'
    rw [List.length_take, Vector.length_toList] at hi hi'
    rw [List.getElem_take, List.getElem_take, Vector.getElem_toList, Vector.getElem_toList,
      Vector.getElem_set, Vector.getElem_set]
    split
    · -- the terminator is put there in both
      rfl
    · have hin : i < n := by omega
      have hbyte := h i (by
        rw [Access.ofName, length_removeIllegalChars]
        exact Nat.lt_of_lt_of_le hi' (Nat.min_le_left _ _))
      rw [Access.ofName, byteAt_field f hin, byteAt_field f hin] at hbyte
      exact hbyte.symm

/-- Of the name in place a byte depends on the byte it was, and on where the name ends. -/
theorem byteAt_patchInPlace (pc : Pc) (packet : Packet) (i : Nat) :
    byteAt pc (patchInPlace packet) i =
      if 0x1C0 ≤ i ∧ i < 0x1C0 + 0x50 then
        let name := (PatchFile.filename.get packet).set 0x4F 0 patchTerminator_lt
        let b := if i = 0x1C0 + 0x4F then 0 else byteAt pc packet i
        if i - 0x1C0 < (CString.ofBuffer name).bytes.length then removeIllegalChar b else b
      else byteAt pc packet i := by
  have hoff : PatchFile.filename.off = 0x1C0 := rfl
  by_cases hin : 0x1C0 ≤ i ∧ i < 0x1C0 + 0x50
  · rw [if_pos hin]
    obtain ⟨j, rfl⟩ : ∃ j, i = PatchFile.filename.off + j := ⟨i - 0x1C0, by omega⟩
    have hj : j < 0x50 := by omega
    have hplace : PatchFile.filename.off + j - 0x1C0 = j := by omega
    have hlast : PatchFile.filename.off + j = 0x1C0 + 0x4F ↔ 0x4F = j := by omega
    have hbyte : ((PatchFile.filename.get packet).set 0x4F 0 patchTerminator_lt).get ⟨j, hj⟩ =
        if PatchFile.filename.off + j = 0x1C0 + 0x4F then 0
        else byteAt pc packet (PatchFile.filename.off + j) := by
      rw [byteAt_field PatchFile.filename hj]
      simp only [hlast]
      exact Vector.getElem_set ..
    rw [byteAt_field PatchFile.filename hj, hplace]
    unfold patchInPlace
    rw [Field.get_put_same]
    refine (get_removeIllegalCharsIn _ ⟨j, hj⟩).trans ?_
    rw [hbyte]
  · rw [if_neg hin]
    unfold byteAt
    split
    · next hi =>
      unfold patchInPlace
      rw [Field.getElem_put, dif_neg (by rw [hoff]; exact hin)]
    · rfl

theorem readPacket_eq_of_agree {off size : Nat}
    (hname : CString.ofBuffer ((PatchFile.filename.get packet').set 0x4F 0 patchTerminator_lt) =
      CString.ofBuffer ((PatchFile.filename.get packet).set 0x4F 0 patchTerminator_lt))
    (h : (Access.mk off size).Agree pc pc' packet packet') :
    readPacket pc (patchInPlace packet) off size =
      readPacket pc' (patchInPlace packet') off size := by
  unfold readPacket
  apply List.map_congr_left
  intro i hi
  have hbyte : byteAt pc packet (off + i) = byteAt pc' packet' (off + i) :=
    h i (List.mem_range.mp hi)
  change byteAt pc (patchInPlace packet) (off + i) = byteAt pc' (patchInPlace packet') (off + i)
  rw [byteAt_patchInPlace, byteAt_patchInPlace, hbyte]
  dsimp only
  rw [hname]

end Agree

variable {pc} {κ : Type} (socket : Socket κ)

/-- Two packets in two memories that agree on what is read of the first are
served alike. -/
theorem servePacket_eq_of_agree {pc' : Pc} {packet packet' : Packet} {files : Files}
    (hopen : pc'.canOpen = pc.canOpen) (hseek : pc'.fseek = pc.fseek)
    (hagree : ∀ a ∈ packetReads pc packet files, a.Agree pc pc' packet packet') (fuel : Nat)
    (conn : κ) : servePacket socket pc fuel packet files conn =
      servePacket socket pc' fuel packet' files conn := by
  have hmagic : getLe magicField packet = getLe magicField packet' :=
    getLe_eq_of_agree _ (hagree _ List.mem_cons_self)
  unfold packetReads at hagree
  unfold servePacket
  rw [← hmagic]
  split
  · next hsend =>
    rw [if_pos hsend] at hagree
    have hname : sendFilename packet' = sendFilename packet :=
      congrArg removeIllegalChars
        (name_eq_of_agree SendFile.filename (by decide) (hagree _ (by simp [sendFilename])))
    have htotal : getLe SendFile.totalSize packet = getLe SendFile.totalSize packet' :=
      getLe_eq_of_agree _ (hagree _ (by simp))
    unfold receiveSend
    rw [hname, htotal, hopen]
  · next hsend =>
    rw [if_neg hsend] at hagree
    split
    · next hpatch =>
      rw [if_pos hpatch] at hagree
      have hterminated := name_eq_of_agree PatchFile.filename patchTerminator_lt
        (hagree _ (by simp [patchFilename]))
      have hname : patchFilename packet' = patchFilename packet :=
        congrArg removeIllegalChars hterminated
      have hsize : getLe PatchFile.patchSize packet = getLe PatchFile.patchSize packet' :=
        getLe_eq_of_agree _ (hagree _ (by simp))
      have hoffset : getLe PatchFile.offset packet = getLe PatchFile.offset packet' :=
        getLe_eq_of_agree _ (hagree _ (by simp))
      -- the data are among what is read only where the file opens
      have hdata : PatchOpens pc packet files →
          readPacket pc (patchInPlace packet) PatchFile.patchData.off
              (getLe PatchFile.patchSize packet) =
            readPacket pc' (patchInPlace packet') PatchFile.patchData.off
              (getLe PatchFile.patchSize packet) := by
        intro hopens
        rw [if_pos hopens] at hagree
        exact readPacket_eq_of_agree hterminated (hagree _ (by simp))
      unfold receivePatch
      rw [hname, ← hsize, ← hoffset, hopen, hseek]
      dsimp only
      cases hfile : files (patchFilename packet) with
      | none => rfl
      | some content =>
        dsimp only
        by_cases hcan : pc.canOpen (patchFilename packet) = true
        · rw [if_pos hcan, if_pos hcan]
          cases hposition : pc.fseek (getLe PatchFile.offset packet) with
          | none => rfl
          | some position =>
            have hopens : PatchOpens pc packet files := by
              refine ⟨?_, hcan, ?_⟩
              · rw [hfile]
                rfl
              · rw [hposition]
                rfl
            dsimp only
            rw [hdata hopens]
        · rw [if_neg hcan, if_neg hcan]
    · rfl

/-! ## Safety -/

/-- No byte outside the packet is read, and what is opened is a terminated name
and no path. -/
structure ServedSafely (pc : Pc) (packet : Packet) (files : Files) : Prop where
  reads : ∀ a ∈ packetReads pc packet files, a.Inside
  names : ∀ str ∈ openedName packet, 0 ∈ str ∧ Legal (CString.ofBytes str)

theorem openedName_safe (packet : Packet) :
    ∀ str ∈ openedName packet, 0 ∈ str ∧ Legal (CString.ofBytes str) := by
  intro str hstr
  rw [Option.mem_def] at hstr
  unfold openedName at hstr
  split at hstr
  · rw [← Option.some.inj hstr]
    exact terminated_removeIllegalCharsIn (zero_mem_set _ (by decide))
  · split at hstr
    · rw [← Option.some.inj hstr]
      exact terminated_removeIllegalCharsIn (zero_mem_set _ (by decide))
    · cases hstr

/-- The range of the patch, from `patch_data` on. -/
theorem inside_patchData (size : Nat) :
    (Access.mk PatchFile.patchData.off size).Inside ↔ size ≤ 0x202 := by
  have hoff : PatchFile.patchData.off = 0xE := rfl
  unfold Access.Inside packetSize
  dsimp only
  rw [hoff]
  constructor <;> intro h <;> omega

theorem servedSafely_iff (pc : Pc) (packet : Packet) (files : Files) :
    ServedSafely pc packet files ↔
      ¬ (getLe magicField packet = patchFileMagic ∧ PatchOpens pc packet files ∧
        0x202 < getLe PatchFile.patchSize packet) := by
  constructor
  · rintro ⟨hreads, -⟩ ⟨hpatch, hopens, hsize⟩
    have hsend : getLe magicField packet ≠ sendFileMagic := by
      rw [hpatch]
      decide
    unfold packetReads at hreads
    rw [if_neg hsend, if_pos hpatch, if_pos hopens] at hreads
    -- the data go on behind the packet
    have hinside := (inside_patchData (getLe PatchFile.patchSize packet)).mp
      (hreads _ (by simp))
    omega
  · intro hsize
    refine ⟨?_, openedName_safe packet⟩
    intro a ha
    unfold packetReads at ha
    rcases List.mem_cons.mp ha with rfl | ha
    · exact Access.inside_ofField _
    · split at ha
      · simp only [List.mem_cons, List.not_mem_nil, or_false] at ha
        rcases ha with rfl | rfl
        · exact inside_sendFilename packet
        · exact Access.inside_ofField _
      · split at ha
        · next hpatch =>
          rcases List.mem_append.mp ha with ha | ha
          · -- the members in front of the data
            simp only [List.mem_cons, List.not_mem_nil, or_false] at ha
            rcases ha with rfl | rfl | rfl
            · exact inside_patchFilename packet
            · exact Access.inside_ofField _
            · exact Access.inside_ofField _
          · split at ha
            · next hopens =>
              rcases List.mem_singleton.mp ha with rfl
              apply (inside_patchData _).mpr
              by_contra hlarge
              exact hsize ⟨hpatch, hopens, Nat.lt_of_not_le hlarge⟩
            · cases ha
        · cases ha

/-- A patch of "a" that claims 0x203 bytes. -/
def largePatch : Packet :=
  putLe PatchFile.patchSize (patchFilePacket (CString.ofBytes [0x61]) 0 []) 0x203

/-- With "a" there, the byte behind the packet is read. -/
theorem not_servedSafely_largePatch :
    ¬ ServedSafely (Pc.ofLong 32 (by decide)) largePatch (fun _ => some []) := by
  have hmagic : getLe magicField largePatch = patchFileMagic := by
    unfold largePatch
    rw [getLe_putLe_apart _ _ _ _ (by decide), patchFilePacket_magic]
  have hoffset : getLe PatchFile.offset largePatch = 0 := by
    unfold largePatch
    rw [getLe_putLe_apart _ _ _ _ (by decide), patchFilePacket_offset]
    rfl
  have hsize : getLe PatchFile.patchSize largePatch = 0x203 := getLe_putLe _ _ (by decide)
  have hopens : PatchOpens (Pc.ofLong 32 (by decide)) largePatch (fun _ => some []) := by
    refine ⟨rfl, rfl, ?_⟩
    rw [hoffset]
    decide
  rintro ⟨hreads, -⟩
  unfold packetReads at hreads
  rw [hmagic, hsize, if_neg (by decide), if_pos rfl, if_pos hopens] at hreads
  have hinside := (inside_patchData 0x203).mp (hreads _ (by simp))
  revert hinside
  decide

end GcToolKit.Net
