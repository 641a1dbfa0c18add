import GcToolKit.App.PatchRace

/-!
# How the patch is lost (app/device.c, pc/main.c)

A call that comes too early loses the hash for good: nothing either thread does
later puts it into the file. Where there was no file of the name before, the runs
in time are therefore exactly the runs that leave the image with its hash.
-/

namespace GcToolKit.App

open ByteBuf ByteFile Run GcToolKit.Crypto GcToolKit.Net

variable {seg seg' : Segmentation} {pc : Pc} {u : PsvUpload}

/-! ## What the calls do to the file -/

section Moves

variable {thread thread' : Thread Conn} {files files' : Net.Files}

/-- Opening a file or writing to one does not remove another. -/
theorem isSome_update {name name' : CString} {content : List UInt8}
    (h : (files name).isSome) : (Function.update files name' (some content) name).isSome := by
  by_cases hname : name = name'
  · rw [hname, Function.update_self]
    rfl
  · rw [Function.update_of_ne hname]
    exact h

/-- The first thread leaves the files alone, or it has its file open. -/
theorem DumpMove.touches (h : DumpMove u thread thread' files files') :
    files' = files ∧ (Opened thread' ↔ Opened thread) ∨
      Opened thread' ∧ ∃ content, files' = Function.update files u.name (some content) := by
  cases h with
  | idle hfiles _ hopened => exact Or.inl ⟨hfiles, hopened⟩
  | creates _ hafter hfiles _ => exact Or.inr ⟨hafter, _, hfiles⟩
  | writes _ hafter _ _ _ hfiles _ => exact Or.inr ⟨hafter, _, hfiles⟩

/-- A first thread that goes wrong has not come to its file. -/
theorem dump_late (hok : DumpOk u thread) (hlate : ¬ DumpInTime seg pc u thread) :
    ¬ Opened thread ∧ ∀ files, threadStep seg.socket pc thread files = (.finished, files) := by
  cases thread with
  | accepted conn => exact ⟨id, fun _ => accepted_short (Nat.not_le.mp hlate)⟩
  | creating packet conn =>
    rcases hok with ⟨hpacket, -⟩
    have hname : sendFilename packet = u.name := by
      rw [hpacket]
      exact u.transfer.sendFilename_packet
    refine ⟨id, fun _ => threadStep_creating_fails ?_⟩
    rw [hname]
    exact hlate
  | opening packet | patching packet => exact absurd hok id
  | reading file conn | writing file r conn | finished => exact absurd trivial hlate

/-- The second thread is not about to write the image's file. -/
def Elsewhere (u : PsvUpload) (thread : Thread Conn) : Prop :=
  ∀ packet, thread = .patching packet → u.patchName ≠ u.name

/-- Then its next call leaves the file as it is. -/
theorem PatchMove.elsewhere (h : PatchMove seg' pc u thread thread' files files')
    (hother : Elsewhere u thread) : files' u.name = files u.name := by
  cases h with
  | reads hfiles _ _ _ _ | opens hfiles _ _ _ | givesUp hfiles _ _ => rw [hfiles]
  | lands hbefore _ hfiles =>
    rw [hfiles, Function.update_of_ne (Ne.symm (hother _ hbefore))]

theorem PatchMove.patchOk (h : PatchMove seg' pc u thread thread' files files') :
    PatchOk u thread' := by
  cases h with
  | reads _ _ _ hafter _ | opens _ _ hafter _ =>
    rw [hafter]
    rfl
  | givesUp _ hafter _ | lands _ hafter _ =>
    rw [hafter]
    trivial

/-- The second thread writes the image's file no more. -/
def Past (u : PsvUpload) : Thread Conn → Prop
  | .patching packet => packet = u.patchPacket ∧ u.patchName ≠ u.name
  | .finished => True
  | _ => False

theorem Past.patchOk (h : Past u thread) : PatchOk u thread := by
  cases thread with
  | patching packet => exact h.1
  | finished => exact trivial
  | accepted conn | creating packet conn | reading file conn | writing file r conn
  | opening packet => exact absurd h id

theorem Past.elsewhere (h : Past u thread) : Elsewhere u thread := by
  rintro packet rfl
  exact h.2

theorem Past.move (h : Past u thread) (hmove : PatchMove seg' pc u thread thread' files files') :
    Past u thread' := by
  cases hmove with
  | reads _ _ hbefore _ _ | opens _ hbefore _ _ =>
    rw [hbefore] at h
    exact absurd h id
  | givesUp _ hafter _ | lands _ hafter _ =>
    rw [hafter]
    trivial

end Moves

/-! ## No file before the threads come -/

/-- Before the first thread has opened the file there is none; the second writes to a
file that is there. -/
structure Fresh (u : PsvUpload) (s : Race) : Prop where
  closed : ¬ Opened s.dump → s.files u.name = none
  found : ∀ packet, s.patch = .patching packet → (s.files u.patchName).isSome

theorem Fresh.elsewhere {s : Race} (h : Fresh u s) (hclosed : ¬ Opened s.dump) :
    Elsewhere u s.patch := by
  intro packet hpatch hname
  have hfound := h.found packet hpatch
  rw [hname, h.closed hclosed] at hfound
  cases hfound

theorem Fresh.dump_step {s : Race} (h : Fresh u s) (hgood : Good u s)
    (htime : InTime seg seg' pc u s .dump) :
    Fresh u ((receiver seg seg' pc).step s .dump).1 := by
  obtain ⟨r, hstep⟩ : ∃ r, threadStep seg.socket pc s.dump s.files = r := ⟨_, rfl⟩
  have hmove : DumpMove u s.dump r.1 s.files r.2 := by
    rw [← hstep]
    exact (dump_move hgood.dump htime).2
  rw [step_dump hstep]
  rcases hmove.touches with ⟨hfiles, hopened⟩ | ⟨hopened, content, hfiles⟩
  · rw [hfiles]
    exact ⟨fun hclosed => h.closed (mt hopened.mpr hclosed), h.found⟩
  · rw [hfiles]
    exact ⟨fun hclosed => absurd hopened hclosed,
      fun packet hpatch => isSome_update (h.found packet hpatch)⟩

theorem Fresh.patch_step {s : Race} (h : Fresh u s) (hgood : Good u s) :
    Fresh u ((receiver seg seg' pc).step s .patch).1 := by
  obtain ⟨r, hstep⟩ : ∃ r, threadStep seg'.socket pc s.patch s.files = r := ⟨_, rfl⟩
  have hmove : PatchMove seg' pc u s.patch r.1 s.files r.2 := by
    rw [← hstep]
    exact patch_move hgood.patch
  rw [step_patch hstep]
  constructor
  · intro hclosed
    have hfile := hmove.elsewhere (h.elsewhere hclosed)
    exact hfile.trans (h.closed hclosed)
  · intro packet hpatch
    cases hmove with
    | reads _ _ _ hafter _ | givesUp _ hafter _ | lands _ hafter _ =>
      exact nomatch hafter.symm.trans hpatch
    | opens hfiles _ _ hopen =>
      dsimp only
      rw [hfiles]
      exact hopen.1

theorem Fresh.start {files : Net.Files} (hnew : files u.name = none) :
    Fresh u (Race.start u files) where
  closed := fun _ => hnew
  found := fun _ heq => nomatch heq

/-! ## The hash is lost -/

/-- The hash does not get into the file any more: there is no file and will be none, or
the placeholder is, or will be, where a byte of the hash belongs. -/
inductive Lost (u : PsvUpload) (s : Race) : Prop where
  | noFile (hdump : s.dump = .finished) (hfile : s.files u.name = none)
      (hpatch : PatchOk u s.patch) (hother : Elsewhere u s.patch)
  | placeholder (hdump : DumpOk u s.dump) (hpatch : Past u s.patch)
      (hclosed : ¬ Opened s.dump → s.files u.name = none)
      (j : Fin 0x20) (hj : u.hash.get j ≠ 0xFF)
      (hbyte : Opened s.dump → PsvHeader.allSectorsSha256Offset + j < landed u s.dump →
        ∃ bs, s.files u.name = some bs ∧ bs[PsvHeader.allSectorsSha256Offset + j]? = some 0xFF)

/-- A write of the first thread brings the placeholder, or leaves it where it is. -/
theorem placeholder_writes {files : Net.Files} {p : Nat} {data left : List UInt8} {j : Nat}
    (hj : j < 0x20) (hdata : u.image.drop p = data ++ left)
    (hbyte : PsvHeader.allSectorsSha256Offset + j < p →
      ∃ bs, files u.name = some bs ∧ bs[PsvHeader.allSectorsSha256Offset + j]? = some 0xFF)
    (hlt : PsvHeader.allSectorsSha256Offset + j < p + data.length) :
    (writeAt ((files u.name).getD []) p data)[PsvHeader.allSectorsSha256Offset + j]? =
      some 0xFF := by
  by_cases hbefore : PsvHeader.allSectorsSha256Offset + j < p
  · rcases hbyte hbefore with ⟨bs, hfile, hc⟩
    have hlen : PsvHeader.allSectorsSha256Offset + j < bs.length :=
      (List.getElem?_eq_some_iff.mp hc).1
    rw [hfile, Option.getD_some, getElem?_writeAt_before _ _ hbefore hlen]
    exact hc
  · have hle := Nat.not_lt.mp hbefore
    rw [getElem?_writeAt_inside _ _ hle hlt, ← getElem?_image_next hdata hle hlt]
    exact image_placeholder hj

/-- The first thread does not bring the hash back, in time or not. -/
theorem Lost.dump_step {s : Race} (h : Lost u s) :
    Lost u ((receiver seg seg' pc).step s .dump).1 := by
  obtain ⟨r, hstep⟩ : ∃ r, threadStep seg.socket pc s.dump s.files = r := ⟨_, rfl⟩
  rw [step_dump hstep]
  cases h with
  | noFile hdump hfile hpatch hother =>
    rw [hdump, threadStep_finished] at hstep
    rw [← hstep]
    exact .noFile rfl hfile hpatch hother
  | placeholder hdump hpatch hclosed j hj hbyte =>
    by_cases htime : DumpInTime seg pc u s.dump
    · have hmoves : DumpOk u r.1 ∧ DumpMove u s.dump r.1 s.files r.2 := by
        rw [← hstep]
        exact dump_move hdump htime
      rcases hmoves with ⟨hok, hmove⟩
      cases hmove with
      | idle hfiles hlanded hopened =>
        refine .placeholder hok hpatch ?_ j hj ?_
        · dsimp only
          rw [hfiles, hopened]
          exact hclosed
        · dsimp only
          rw [hfiles, hlanded, hopened]
          exact hbyte
      | creates hbefore hafter hfiles hlanded =>
        refine .placeholder hok hpatch (fun hno => absurd hafter hno) j hj ?_
        intro _ hlt
        dsimp only at hlt
        rw [hlanded] at hlt
        exact absurd hlt (Nat.not_lt_zero _)
      | writes hbefore hafter data left hdata hfiles hlanded =>
        refine .placeholder hok hpatch (fun hno => absurd hafter hno) j hj ?_
        intro _ hlt
        dsimp only at hlt ⊢
        rw [hlanded] at hlt
        rw [hfiles, Function.update_self]
        exact ⟨_, rfl, placeholder_writes j.isLt hdata (hbyte hbefore) hlt⟩
    · -- the thread ends without the file
      rcases dump_late hdump htime with ⟨hno, hends⟩
      rw [hends] at hstep
      rw [← hstep]
      exact .noFile rfl (hclosed hno) hpatch.patchOk hpatch.elsewhere

/-- Nor does the second. -/
theorem Lost.patch_step {s : Race} (h : Lost u s) :
    Lost u ((receiver seg seg' pc).step s .patch).1 := by
  obtain ⟨r, hstep⟩ : ∃ r, threadStep seg'.socket pc s.patch s.files = r := ⟨_, rfl⟩
  rw [step_patch hstep]
  cases h with
  | noFile hdump hfile hpatch hother =>
    have hmove : PatchMove seg' pc u s.patch r.1 s.files r.2 := by
      rw [← hstep]
      exact patch_move hpatch
    refine .noFile hdump ((hmove.elsewhere hother).trans hfile) hmove.patchOk ?_
    intro packet hafter' hname
    cases hmove with
    | reads _ _ _ hafter _ | givesUp _ hafter _ | lands _ hafter _ =>
      exact nomatch hafter.symm.trans hafter'
    | opens _ _ _ hopen =>
      -- it would have needed the file
      rw [hname, hfile] at hopen
      exact nomatch hopen.1
  | placeholder hdump hpatch hclosed j hj hbyte =>
    have hmove : PatchMove seg' pc u s.patch r.1 s.files r.2 := by
      rw [← hstep]
      exact patch_move hpatch.patchOk
    have hfile := hmove.elsewhere hpatch.elsewhere
    refine .placeholder hdump (hpatch.move hmove) ?_ j hj ?_
    · dsimp only
      rw [hfile]
      exact hclosed
    · dsimp only
      rw [hfile]
      exact hbyte

/-- A first thread that goes wrong loses the file. -/
theorem Good.lost_dump {s : Race} (h : Good u s) (hfresh : Fresh u s)
    (hlate : ¬ InTime seg seg' pc u s .dump) :
    Lost u ((receiver seg seg' pc).step s .dump).1 := by
  rcases dump_late h.dump hlate with ⟨hno, hends⟩
  rw [step_dump (hends s.files)]
  exact .noFile rfl (hfresh.closed hno) h.patch (hfresh.elsewhere hno)

/-- As long as the patch is to come, the placeholder is in the file. -/
theorem Good.placeholder {s : Race} (h : Good u s) (hpending : s.patch ≠ .finished)
    (j : Fin 0x20) (hopened : Opened s.dump)
    (hlt : PsvHeader.allSectorsSha256Offset + j < landed u s.dump) :
    ∃ bs, s.files u.name = some bs ∧ bs[PsvHeader.allSectorsSha256Offset + j]? = some 0xFF := by
  refine ⟨_, h.pending hpending hopened, ?_⟩
  rw [List.getElem?_take_of_lt hlt]
  exact image_placeholder j.isLt

/-- A second thread that goes wrong loses the patch. -/
theorem Good.lost_patch {s : Race} (h : Good u s) (hfresh : Fresh u s)
    (hlate : ¬ InTime seg seg' pc u s .patch) :
    Lost u ((receiver seg seg' pc).step s .patch).1 := by
  obtain ⟨r, hstep⟩ : ∃ r, threadStep seg'.socket pc s.patch s.files = r := ⟨_, rfl⟩
  have hok := h.patch
  have hbyte := h.placeholder
  rw [step_patch hstep]
  unfold InTime at hlate
  cases hpatch : s.patch with
  | accepted conn =>
    rw [hpatch] at hlate hstep hbyte
    rcases not_or.mp hlate with ⟨hblank, hshort⟩
    rcases not_forall.mp hblank with ⟨j, hj⟩
    rw [accepted_short (Nat.not_le.mp hshort)] at hstep
    rw [← hstep]
    exact .placeholder h.dump trivial hfresh.closed j hj (hbyte (fun heq => nomatch heq) j)
  | opening packet =>
    rw [hpatch] at hlate hstep hok hbyte
    obtain rfl : packet = u.patchPacket := hok
    rcases not_or.mp hlate with ⟨hblank, hmissing⟩
    rcases not_forall.mp hblank with ⟨j, hj⟩
    have hbyte := hbyte (fun heq => nomatch heq) j
    by_cases hopen : (s.files u.patchName).isSome ∧ pc.canOpen u.patchName
    · -- it is another file that is opened
      have hother : u.patchName ≠ u.name := by
        intro hname
        rw [hname] at hopen
        exact hmissing ⟨hname, hopen⟩
      rw [patch_opening hopen] at hstep
      rw [← hstep]
      exact .placeholder h.dump ⟨rfl, hother⟩ hfresh.closed j hj hbyte
    · rw [patch_opening_fails hopen] at hstep
      rw [← hstep]
      exact .placeholder h.dump trivial hfresh.closed j hj hbyte
  | patching packet =>
    have hother := hfresh.elsewhere
    rw [hpatch] at hlate hstep hok hother
    obtain rfl : packet = u.patchPacket := hok
    rcases not_forall.mp hlate with ⟨j, hearly⟩
    rcases not_or.mp hearly with ⟨hj, hearly⟩
    rw [patch_patching] at hstep
    rw [← hstep]
    refine .placeholder h.dump trivial ?_ j hj (fun _ hlt => absurd hlt hearly)
    intro hclosed
    dsimp only
    rw [Function.update_of_ne (Ne.symm (hother hclosed _ rfl))]
    exact hfresh.closed hclosed
  | finished =>
    rw [hpatch] at hlate
    exact absurd trivial hlate
  | creating packet conn | reading file conn | writing file r conn =>
    rw [hpatch] at hok
    exact absurd hok id

/-- A file without the hash. -/
theorem Lost.file {s : Race} (h : Lost u s) (hdump : s.dump = .finished) :
    s.files u.name ≠ some u.patchedImage := by
  intro hfile
  cases h with
  | noFile _ hnone _ _ =>
    rw [hnone] at hfile
    cases hfile
  | placeholder _ _ _ j hj hbyte =>
    have himage := u.length_image
    have hbound : PsvHeader.allSectorsSha256Offset + 0x20 ≤ 0x200 := by decide
    have hlanded : PsvHeader.allSectorsSha256Offset + j < landed u s.dump := by
      have hend : landed u s.dump = u.image.length := by rw [hdump]; rfl
      omega
    rcases hbyte (by rw [hdump]; trivial) hlanded with ⟨bs, hc, hff⟩
    rw [hfile] at hc
    obtain rfl : u.patchedImage = bs := Option.some.inj hc
    rw [patchedImage_hash] at hff
    exact hj (Option.some.inj hff)

/-! ## One thread behind the other -/

section Alone

variable (files : Net.Files)

theorem run_dump_alone (n : Nat) (s : Race) :
    ((receiver seg seg' pc).run s (List.replicate n .dump)).1 =
      { s with
        dump := (aloneFor seg.socket pc n s.dump s.files).1
        files := (aloneFor seg.socket pc n s.dump s.files).2 } := by
  induction n generalizing s with
  | zero => rfl
  | succ n ih =>
    rw [List.replicate_succ, Machine.run_cons, ih, step_dump rfl]
    rfl

theorem run_patch_alone (n : Nat) (s : Race) :
    ((receiver seg seg' pc).run s (List.replicate n .patch)).1 =
      { s with
        patch := (aloneFor seg'.socket pc n s.patch s.files).1
        files := (aloneFor seg'.socket pc n s.patch s.files).2 } := by
  induction n generalizing s with
  | zero => rfl
  | succ n ih =>
    rw [List.replicate_succ, Machine.run_cons, ih, step_patch rfl]
    rfl

/-- The first thread, with an image that comes in one read. -/
theorem dump_alone (hwhole : packetSize ≤ seg.cut 0) (hopen : pc.canOpen u.name = true)
    (hread : u.image.length ≤ min (seg.cut 1) workBufferSize) :
    aloneFor seg.socket pc 4 (.accepted u.transfer.conn) files =
      (.finished, Function.update files u.name (some u.image)) := by
  have hsocket : seg.socket ⟨u.image, 1⟩ workBufferSize = (.bytes u.image, ⟨[], 2⟩) := by
    unfold Segmentation.socket
    dsimp only
    rw [List.take_of_length_le hread, List.drop_eq_nil_of_le hread]
  have hlast : ¬ (Incoming.next ⟨u.name, u.image.length, 0, 0⟩ (.bytes u.image)).totalRead <
      u.image.length := by
    have hsize : u.image.length < 2 ^ 64 := u.transfer.size_lt
    unfold Incoming.next
    dsimp only [ReadResult.rd]
    omega
  have hwritten : written ⟨u.name, u.image.length, 0, 0⟩ (.bytes u.image)
      (Function.update files u.name (some [])) =
        Function.update files u.name (some u.image) := by
    unfold written
    dsimp only
    rw [Function.update_self, Function.update_idem]
    congr 2
    exact writeAt_end [] u.image
  rw [aloneFor_step (dump_accepted hwhole), aloneFor_step (dump_creating hopen),
    aloneFor_step (threadStep_reading hsocket), aloneFor_step (threadStep_writing_last hlast),
    hwritten]
  rfl

/-- The second thread, with the file there. -/
theorem patch_alone (hwhole : packetSize ≤ seg'.cut 0)
    (hopen : (files u.patchName).isSome ∧ pc.canOpen u.patchName) :
    aloneFor seg'.socket pc 3 (.accepted ⟨u.patchPacket.toList, 0⟩) files =
      (.finished, Function.update files u.patchName
        (some (writeAt ((files u.patchName).getD []) PsvHeader.allSectorsSha256Offset
          u.hash.toList))) := by
  rw [aloneFor_step (patch_accepted hwhole), aloneFor_step (patch_opening hopen),
    aloneFor_step patch_patching]
  rfl

/-- The second thread, with no file to patch. -/
theorem patch_alone_fails {files : Net.Files} (hwhole : packetSize ≤ seg'.cut 0)
    (hnone : files u.patchName = none) :
    aloneFor seg'.socket pc 2 (.accepted ⟨u.patchPacket.toList, 0⟩) files =
      (.finished, files) := by
  have hmissing : ¬ ((files u.patchName).isSome ∧ pc.canOpen u.patchName) := by
    rw [hnone]
    exact fun hopen => nomatch hopen.1
  rw [aloneFor_step (patch_accepted hwhole), aloneFor_step (patch_opening_fails hmissing)]
  rfl

/-- The image first. -/
theorem run_dump_first (hwhole : packetSize ≤ seg.cut 0) (hwhole' : packetSize ≤ seg'.cut 0)
    (hread : u.image.length ≤ min (seg.cut 1) workBufferSize) (hname : u.patchName = u.name)
    (hopen : pc.canOpen u.name = true) :
    ((receiver seg seg' pc).run (Race.start u files)
        (List.replicate 4 .dump ++ List.replicate 3 .patch)).1 =
      ⟨Function.update files u.name (some u.patchedImage), .finished, .finished⟩ := by
  have hdump := dump_alone files hwhole hopen hread
  have hthere : (Function.update files u.name (some u.image) u.patchName).isSome ∧
      pc.canOpen u.patchName := by
    rw [hname, Function.update_self]
    exact ⟨rfl, hopen⟩
  have hpatch := patch_alone _ hwhole' hthere
  rw [hname, Function.update_self, Function.update_idem, Option.getD_some,
    ← patchedImage_eq] at hpatch
  rw [Machine.run_append, run_dump_alone, run_patch_alone]
  unfold Race.start
  dsimp only
  rw [hdump]
  dsimp only
  rw [hpatch]

/-- The patch first: it finds no file. -/
theorem run_patch_first {files : Net.Files} (hwhole : packetSize ≤ seg.cut 0)
    (hwhole' : packetSize ≤ seg'.cut 0)
    (hread : u.image.length ≤ min (seg.cut 1) workBufferSize)
    (hopen : pc.canOpen u.name = true) (hnone : files u.patchName = none) :
    ((receiver seg seg' pc).run (Race.start u files)
        (List.replicate 2 .patch ++ List.replicate 4 .dump)).1 =
      ⟨Function.update files u.name (some u.image), .finished, .finished⟩ := by
  have hdump := dump_alone files hwhole hopen hread
  have hpatch : aloneFor seg'.socket pc 2 _ files = _ := patch_alone_fails hwhole' hnone
  rw [Machine.run_append, run_patch_alone, run_dump_alone]
  unfold Race.start
  dsimp only
  rw [hpatch]
  dsimp only
  rw [hdump]

end Alone

/-! ## The runs that leave the hash in the file -/

/-- A run that has left the image with its hash was in time throughout. -/
theorem inTime_of_patchArrives {files : Net.Files} {schedule : List Who}
    (hnew : files u.name = none)
    (hdump : ((receiver seg seg' pc).run (Race.start u files) schedule).1.dump = .finished)
    (hfile : ((receiver seg seg' pc).run (Race.start u files) schedule).1.files u.name =
      some u.patchedImage) :
    (receiver seg seg' pc).EveryStep (InTime seg seg' pc u) (Race.start u files) schedule := by
  have hkeeps : ∀ s who, InTime seg seg' pc u s who → Good u s ∧ Fresh u s →
      Good u ((receiver seg seg' pc).step s who).1 ∧
        Fresh u ((receiver seg seg' pc).step s who).1 := by
    rintro s who htime ⟨hgood, hfresh⟩
    cases who with
    | dump => exact ⟨hgood.dump_step htime, hfresh.dump_step hgood htime⟩
    | patch => exact ⟨hgood.patch_step htime, hfresh.patch_step hgood⟩
  have hbreaks : ∀ s who, ¬ InTime seg seg' pc u s who → Good u s ∧ Fresh u s →
      Lost u ((receiver seg seg' pc).step s who).1 := by
    rintro s who hlate ⟨hgood, hfresh⟩
    cases who with
    | dump => exact hgood.lost_dump hfresh hlate
    | patch => exact hgood.lost_patch hfresh hlate
  have hstays : ∀ s who, Lost u s → Lost u ((receiver seg seg' pc).step s who).1 := by
    intro s who hlost
    cases who with
    | dump => exact hlost.dump_step
    | patch => exact hlost.patch_step
  have hstart := And.intro (Good.start (u := u) files) (Fresh.start hnew)
  rcases Machine.everyStep_or hkeeps hbreaks hstays hstart schedule with ⟨htime, -⟩ | hlost
  · exact htime
  · exact absurd hfile (hlost.file hdump)

/-- The hash is in the file if every call comes in time, and only then if there was no
such file before. -/
theorem patchArrives_when_inTime (seg seg' : Segmentation) (pc : Pc) (u : PsvUpload)
    (files : Net.Files) (schedule : List Who) :
    ((receiver seg seg' pc).EveryStep (InTime seg seg' pc u) (Race.start u files) schedule →
      PatchArrives seg seg' pc u files schedule) ∧
    (files u.name = none →
      ((receiver seg seg' pc).run (Race.start u files) schedule).1.dump = .finished →
      ((receiver seg seg' pc).run (Race.start u files) schedule).1.patch = .finished →
      PatchArrives seg seg' pc u files schedule →
      (receiver seg seg' pc).EveryStep (InTime seg seg' pc u) (Race.start u files) schedule) :=
  ⟨patchArrives_of_inTime, fun hnew hdump hpatch harrives =>
    inTime_of_patchArrives hnew hdump (harrives hdump hpatch)⟩

/-- A receiver that can write everywhere. -/
def openPc : Pc := Pc.ofLong 64 (by decide)

theorem headerAlone_lt : 0x200 + ([] : List UInt8).length < 2 ^ 64 := by decide

/-- "g.psv", a header without sectors, and a hash of zeros. -/
def headerAlone : PsvUpload where
  filename := CString.ofBytes [0x67, 0x2E, 0x70, 0x73, 0x76]
  cartSecret := Vector.replicate 0x20 0
  packet20Sha1 := Vector.replicate 0x14 0
  deviceSize := 0
  sectors := []
  hash := Vector.replicate 0x20 0
  size_lt := headerAlone_lt

theorem length_headerAlone :
    headerAlone.image.length ≤ min (wholeReads.cut 1) workBufferSize := by
  rw [headerAlone.length_image]
  decide

/-- A patch that comes after the image is in time, and arrives. -/
theorem patchArrives_when_inTime_dumpFirst :
    (receiver wholeReads wholeReads openPc).EveryStep
        (InTime wholeReads wholeReads openPc headerAlone) (Race.start headerAlone fun _ => none)
        (List.replicate 4 .dump ++ List.replicate 3 .patch) ∧
      PatchArrives wholeReads wholeReads openPc headerAlone (fun _ => none)
        (List.replicate 4 .dump ++ List.replicate 3 .patch) := by
  have hrun : ((receiver wholeReads wholeReads openPc).run (Race.start headerAlone fun _ => none)
      (List.replicate 4 .dump ++ List.replicate 3 .patch)).1 = _ :=
    run_dump_first _ (by decide) (by decide) length_headerAlone rfl rfl
  have hboth := patchArrives_when_inTime wholeReads wholeReads openPc headerAlone (fun _ => none)
    (List.replicate 4 .dump ++ List.replicate 3 .patch)
  have harrives : PatchArrives wholeReads wholeReads openPc headerAlone (fun _ => none)
      (List.replicate 4 .dump ++ List.replicate 3 .patch) := by
    intro _ _
    rw [hrun]
    dsimp only
    rw [Function.update_self]
  have htime := hboth.2 rfl (by rw [hrun]) (by rw [hrun]) harrives
  exact ⟨htime, hboth.1 htime⟩

/-- One that comes before it is lost: the placeholder stays. -/
theorem not_patchArrives_patchFirst :
    ¬ PatchArrives wholeReads wholeReads openPc headerAlone (fun _ => none)
        (List.replicate 2 .patch ++ List.replicate 4 .dump) := by
  have hrun : ((receiver wholeReads wholeReads openPc).run (Race.start headerAlone fun _ => none)
      (List.replicate 2 .patch ++ List.replicate 4 .dump)).1 = _ :=
    run_patch_first (by decide) (by decide) length_headerAlone rfl rfl
  intro harrives
  have hfile := harrives (by rw [hrun]) (by rw [hrun])
  rw [hrun] at hfile
  dsimp only at hfile
  rw [Function.update_self] at hfile
  have himage := image_placeholder (u := headerAlone) (j := 0) (by decide)
  have hhash := patchedImage_hash (u := headerAlone) 0
  rw [Option.some.inj hfile] at himage
  exact absurd (himage.symm.trans hhash) (by decide)

end GcToolKit.App
