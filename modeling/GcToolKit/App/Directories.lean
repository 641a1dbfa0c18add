import GcToolKit.App.KeyDump
import GcToolKit.Lib.PathTree

/-!
# Making the directories of a file (app/io.c)

`make_directories` goes through a path and makes a directory for what stands before
each slash, `make_directories_excluding_last` does so for the path of a file. A
file can be created where its directory exists. The partition in front ends at its
colon. Both slashes end a name here; the operating system may know only one of them.

* `extractDirname_spec` — the name that `extract_dirname` leaves in the buffer;
* `makeDirectories_iff` — the directory is there afterwards exactly if the partition
  was there before;
* `directories_made` — so is the directory of a file, nothing but its directories is
  new, and nothing is lost.
-/

namespace GcToolKit.App.Directories

open PathTree

/-! ## Paths -/

/-- '/' or '\\' -/
def isSlash (b : UInt8) : Bool := b == 0x2F || b == 0x5C

/-- ':' -/
def isColon (b : UInt8) : Bool := b == 0x3A

/-- The index of the last slash, or 0. -/
def lastSlash (path : CString) : Nat :=
  (List.range path.bytes.length).foldl
    (fun last i => if isSlash (path.bytes.getD i 0) then i else last) 0

/-- `dirName` is the buffer before the call; the result is the index of the last
slash and the buffer after it. -/
def extractDirname (path : CString) (dirName : Vector UInt8 maxPathLength) :
    Nat × Vector UInt8 maxPathLength :=
  let dirName := CString.strncpy dirName path (maxPathLength - 1)
  let last := lastSlash path
  (last, dirName.setIfInBounds last 0)

/-! ## Directories -/

/-- The file system: what separates its names, and where it lets a directory be made. -/
structure DirectoryFs where
  separator : UInt8 → Bool
  separator_slash : ∀ b, separator b = true → isSlash b = true
  allowed : List UInt8 → Bool

variable (fs : DirectoryFs)

def fileExist (path : CString) (t : DirTree UInt8) : Bool := t path.bytes

def sceIoMkdir (path : CString) (t : DirTree UInt8) : DirTree UInt8 :=
  mkdir fs.separator isColon fs.allowed path.bytes t

/-- One pass of the loop in `make_directories`. -/
def makeDirectoriesPass (path : CString) (t : DirTree UInt8) (i : Nat) : DirTree UInt8 :=
  if isSlash (path.bytes.getD i 0) then
    let dirName := CString.ofBuffer (CString.strncpy (Vector.replicate maxPathLength 0) path i)
    if fileExist dirName t then t else sceIoMkdir fs dirName t
  else t

def makeDirectories (path : CString) (t : DirTree UInt8) : DirTree UInt8 :=
  if fileExist path t then t
  else
    sceIoMkdir fs path
      ((List.range path.bytes.length).foldl (makeDirectoriesPass fs path) t)

/-- `dirName` is what is on the stack. -/
def makeDirectoriesExcludingLast (filepath : CString) (dirName : Vector UInt8 maxPathLength)
    (t : DirTree UInt8) : DirTree UInt8 :=
  makeDirectories fs (CString.ofBuffer (extractDirname filepath dirName).2) t

/-! ## The name of the directory -/

theorem lastSlash_spec (path : CString) (n : Nat) :
    let last := (List.range n).foldl
      (fun last i => if isSlash (path.bytes.getD i 0) then i else last) 0
    (∀ i, i < n → isSlash (path.bytes.getD i 0) = true → i ≤ last) ∧
      (last = 0 ∨ last < n ∧ isSlash (path.bytes.getD last 0) = true) := by
  induction n with
  | zero => exact ⟨fun i hi => absurd hi (Nat.not_lt_zero i), Or.inl rfl⟩
  | succ n ih =>
    dsimp only at ih ⊢
    rw [List.range_succ, List.foldl_append, List.foldl_cons, List.foldl_nil]
    generalize (List.range n).foldl
      (fun last i => if isSlash (path.bytes.getD i 0) then i else last) 0 = last at ih ⊢
    rcases ih with ⟨hle, hlast⟩
    by_cases hslash : isSlash (path.bytes.getD n 0) = true
    · rw [if_pos hslash]
      exact ⟨fun i hi _ => Nat.le_of_lt_succ hi, Or.inr ⟨Nat.lt_succ_self n, hslash⟩⟩
    · rw [if_neg hslash]
      constructor
      · intro i hi hi'
        rcases Nat.lt_succ_iff_lt_or_eq.mp hi with hlt | rfl
        · exact hle i hlt hi'
        · exact absurd hi' hslash
      · rcases hlast with hzero | ⟨hlt, hslash'⟩
        · exact Or.inl hzero
        · exact Or.inr ⟨Nat.lt_succ_of_lt hlt, hslash'⟩

/-- The buffer holds what stands before the last slash. -/
theorem extractDirname_spec {path : CString} (hlen : path.bytes.length < maxPathLength)
    (dirName : Vector UInt8 maxPathLength) :
    CString.ofBuffer (extractDirname path dirName).2 = path.take (lastSlash path) := by
  have hlast : lastSlash path ≤ path.bytes.length := by
    rcases (lastSlash_spec path path.bytes.length).2 with hzero | ⟨hlt, -⟩
    · exact Nat.le_trans (Nat.le_of_eq hzero) (Nat.zero_le _)
    · exact Nat.le_of_lt hlt
  have hin : lastSlash path < maxPathLength := Nat.lt_of_le_of_lt hlast hlen
  unfold extractDirname CString.ofBuffer
  dsimp only
  generalize lastSlash path = last at hlast hin ⊢
  obtain ⟨buffer, hbuffer⟩ : ∃ buffer, buffer =
      ((CString.strncpy dirName path (maxPathLength - 1)).setIfInBounds last 0).toList :=
    ⟨_, rfl⟩
  have hlength : buffer.length = maxPathLength := by
    rw [hbuffer]
    exact Vector.length_toList
  -- the copy is that of the path up to the slash, where the end is put
  have hfront : buffer.take last = (path.take last).bytes := by
    refine List.ext_getElem (by rw [List.length_take]; simp [CString.take, hlength]; omega) ?_
    intro i hi hi'
    have hilast : i < last := by
      rw [List.length_take] at hi
      omega
    rw [List.getElem_take]
    simp only [hbuffer, Vector.getElem_toList, CString.take, List.getElem_take]
    rw [Vector.getElem_setIfInBounds_ne (by omega) (by omega)]
    unfold CString.strncpy
    rw [Vector.getElem_ofFn, if_pos (show i < maxPathLength - 1 by omega)]
    exact (List.getElem_eq_getD _).symm
  have hsplit : buffer = (path.take last).bytes ++ 0 :: buffer.drop (last + 1) := by
    have hlast : last < buffer.length := by omega
    have hget : buffer[last] = 0 := by
      simp only [hbuffer, Vector.getElem_toList]
      exact Vector.getElem_setIfInBounds_self ..
    conv_lhs => rw [← List.take_append_drop last buffer, hfront,
      List.drop_eq_getElem_cons hlast, hget]
  rw [← hbuffer, hsplit]
  exact CString.ofBytes_append_zero _ _

/-! ## One pass -/

section Pass

variable {fs} {path : CString} {t : DirTree UInt8} {i : Nat}

variable (fs path t) in
/-- A pass makes the directory before the slash, unless it is there. -/
theorem makeDirectoriesPass_cases (hi : i < maxPathLength) :
    makeDirectoriesPass fs path t i = t ∨
      isSlash (path.bytes.getD i 0) = true ∧ makeDirectoriesPass fs path t i =
        mkdir fs.separator isColon fs.allowed (path.bytes.take i) t := by
  unfold makeDirectoriesPass
  split
  · next hslash =>
    dsimp only
    rw [CString.ofBuffer_strncpy path hi]
    split
    · exact Or.inl rfl
    · exact Or.inr ⟨hslash, rfl⟩
  · exact Or.inl rfl

theorem makeDirectoriesPass_makes (hi : i < maxPathLength)
    (hslash : isSlash (path.bytes.getD i 0) = true) (hallowed : ∀ p, fs.allowed p = true)
    (h : t (path.bytes.take i) = true ∨ HasParent fs.separator isColon t (path.bytes.take i)) :
    makeDirectoriesPass fs path t i (path.bytes.take i) = true := by
  unfold makeDirectoriesPass
  rw [if_pos hslash, CString.ofBuffer_strncpy path hi]
  by_cases hexists : fileExist (path.take i) t = true
  · rw [if_pos hexists]
    exact hexists
  · rw [if_neg hexists]
    rcases h with hthere | hparent
    · exact absurd hthere hexists
    · exact mkdir_makes (hallowed _) hparent

end Pass

/-! ## The loop -/

/-- The loop up to an index. -/
def passes (path : CString) (n : Nat) (t : DirTree UInt8) : DirTree UInt8 :=
  (List.range n).foldl (makeDirectoriesPass fs path) t

theorem passes_succ (path : CString) (n : Nat) (t : DirTree UInt8) :
    passes fs path (n + 1) t = makeDirectoriesPass fs path (passes fs path n t) n := by
  unfold passes
  rw [List.range_succ, List.foldl_append, List.foldl_cons, List.foldl_nil]

/-- A directory that `make_directories` may make on the way. -/
def OnTheWay (path : CString) (p : List UInt8) : Prop :=
  ∃ i, i < path.bytes.length ∧ isSlash (path.bytes.getD i 0) = true ∧ p = path.bytes.take i

/-- From `t` to `t'` directories are made, but no roots, and only such. -/
structure Made (t t' : DirTree UInt8) (new : List UInt8 → Prop) : Prop where
  closed : Closed fs.separator isColon t → Closed fs.separator isColon t'
  keeps : ∀ p, t p = true → t' p = true
  new : ∀ p, t' p = true → t p = true ∨ new p
  root : ∀ p, t' (root fs.separator isColon p) = t (root fs.separator isColon p)

variable {fs}

theorem Made.refl (t : DirTree UInt8) (new : List UInt8 → Prop) : Made fs t t new :=
  ⟨id, fun _ h => h, fun _ h => Or.inl h, fun _ => rfl⟩

theorem Made.mkdir {t t' : DirTree UInt8} {new : List UInt8 → Prop} (h : Made fs t t' new)
    {p : List UInt8} (hp : new p) : Made fs t (mkdir fs.separator isColon fs.allowed p t') new where
  closed hclosed := closed_mkdir (h.closed hclosed) p
  keeps q hq := mkdir_keeps p (h.keeps q hq)
  new q hq := by
    rcases mkdir_new hq with hold | ⟨rfl, -⟩
    · exact h.new q hold
    · exact Or.inr hp
  root q := (mkdir_root p q).trans (h.root q)

variable (fs) in
theorem made_passes {path : CString} (hlen : path.bytes.length < maxPathLength) {n : Nat}
    (hn : n ≤ path.bytes.length) (t : DirTree UInt8) :
    Made fs t (passes fs path n t) (OnTheWay path) := by
  induction n with
  | zero => exact Made.refl t _
  | succ n ih =>
    have hbefore := ih (Nat.le_of_succ_le hn)
    rw [passes_succ]
    rcases makeDirectoriesPass_cases fs path (passes fs path n t)
      (show n < maxPathLength by omega) with hsame | ⟨hslash, hmade⟩
    · rw [hsame]
      exact hbefore
    · rw [hmade]
      exact hbefore.mkdir ⟨n, hn, hslash, rfl⟩

/-- The parent of a prefix is the root, or stands before a slash. -/
theorem cut_take {path : CString} {i j : Nat}
    (hcut : Cut fs.separator isColon (path.bytes.take i) j)
    (hroot : (root fs.separator isColon path.bytes).length < i) (hj : j < i) :
    path.bytes.take j = root fs.separator isColon path.bytes ∨
      (root fs.separator isColon path.bytes).length ≤ j ∧
        isSlash (path.bytes.getD j 0) = true := by
  have hsame : root fs.separator isColon (path.bytes.take i) =
      root fs.separator isColon path.bytes := root_take (Nat.le_of_lt hroot)
  rcases hcut.ends with hfront | ⟨b, hget, hsep⟩
  · left
    rw [hfront, hsame]
    exact (root_eq_take _).symm
  · right
    rw [List.getElem?_take_of_lt hj] at hget
    refine ⟨length_root_le hget hsep, ?_⟩
    rw [List.getD_eq_getElem?_getD, hget]
    exact fs.separator_slash b hsep

/-- From the root on, the directory before each slash is there. -/
theorem passes_makes {path : CString} (hlen : path.bytes.length < maxPathLength)
    (hallowed : ∀ p, fs.allowed p = true) {t : DirTree UInt8}
    (hroot : t (root fs.separator isColon path.bytes) = true) {n : Nat} (hn : n ≤ path.bytes.length)
    {i : Nat} (hi : i < n) (hbehind : (root fs.separator isColon path.bytes).length ≤ i)
    (hslash : isSlash (path.bytes.getD i 0) = true) :
    passes fs path n t (path.bytes.take i) = true := by
  induction n generalizing i with
  | zero => exact absurd hi (Nat.not_lt_zero i)
  | succ n ih =>
    have hmade := made_passes fs hlen (Nat.le_of_succ_le hn) t
    have hpass : ∀ q, passes fs path n t q = true →
        makeDirectoriesPass fs path (passes fs path n t) n q = true := by
      intro q hq
      rcases makeDirectoriesPass_cases fs path (passes fs path n t)
        (show n < maxPathLength by omega) with hsame | ⟨-, hmkdir⟩
      · rw [hsame]
        exact hq
      · rw [hmkdir]
        exact mkdir_keeps _ hq
    rw [passes_succ]
    rcases Nat.lt_or_eq_of_le (Nat.le_of_lt_succ hi) with hlt | rfl
    · exact hpass _ (ih (Nat.le_of_succ_le hn) hlt hbehind hslash)
    · refine makeDirectoriesPass_makes (by omega) hslash hallowed ?_
      rcases Nat.lt_or_eq_of_le hbehind with hlonger | heq
      · -- the parent is the root, or behind an earlier slash
        rcases parent?_take hlonger (Nat.le_of_succ_le hn) with ⟨j, hji, hcut, hparent⟩
        refine Or.inr ⟨_, hparent, ?_⟩
        rcases cut_take hcut hlonger hji with hfront | ⟨hj, hslash'⟩
        · rw [hfront]
          exact hmade.keeps _ hroot
        · exact ih (Nat.le_of_succ_le hn) hji hj hslash'
      · have hroot' : path.bytes.take i = root fs.separator isColon path.bytes := by
          rw [← heq, ← root_eq_take]
        left
        rw [hroot']
        exact hmade.keeps _ hroot

/-! ## make_directories -/

variable (fs) in
theorem made_makeDirectories {path : CString} (hlen : path.bytes.length < maxPathLength)
    (t : DirTree UInt8) :
    Made fs t (makeDirectories fs path t) (fun p => p = path.bytes ∨ OnTheWay path p) := by
  unfold makeDirectories
  split
  · exact Made.refl t _
  · have hpasses := made_passes fs hlen (Nat.le_refl _) t
    refine Made.mkdir ?_ (Or.inl rfl)
    exact ⟨hpasses.closed, hpasses.keeps,
      fun p hp => (hpasses.new p hp).imp id Or.inr, hpasses.root⟩

variable (fs) in
/-- Where directories may be made, the path is there afterwards exactly if its
partition was there before. -/
theorem makeDirectories_iff {path : CString} (hlen : path.bytes.length < maxPathLength)
    (hallowed : ∀ p, fs.allowed p = true) {t : DirTree UInt8}
    (hclosed : Closed fs.separator isColon t) :
    makeDirectories fs path t path.bytes = true ↔
      t (root fs.separator isColon path.bytes) = true := by
  have hmade := made_makeDirectories fs hlen t
  constructor
  · intro hpath
    rw [← hmade.root]
    exact root_of_closed (hmade.closed hclosed) hpath
  · intro hroot
    unfold makeDirectories
    by_cases hexists : fileExist path t = true
    · rw [if_pos hexists]
      exact hexists
    · rw [if_neg hexists]
      by_cases hsep : (root fs.separator isColon path.bytes).length < path.bytes.length
      · rcases parent?_take hsep (Nat.le_refl _) with ⟨j, hj, hcut, hparent⟩
        rw [List.take_length] at hparent
        refine mkdir_makes (hallowed _) ⟨_, hparent, ?_⟩
        rcases cut_take hcut hsep hj with hfront | ⟨hbehind, hslash⟩
        · rw [hfront]
          exact (made_passes fs hlen (Nat.le_refl _) t).keeps _ hroot
        · exact passes_makes hlen hallowed hroot (Nat.le_refl _) hj hbehind hslash
      · -- the path is its own root, and that is there
        have hself : root fs.separator isColon path.bytes = path.bytes := by
          rw [root_eq_take, List.take_of_length_le (Nat.le_of_not_lt hsep)]
        rw [hself] at hroot
        exact absurd hroot hexists

/-! ## make_directories_excluding_last -/

theorem bytes_take (path : CString) (i : Nat) : (path.take i).bytes = path.bytes.take i := rfl

/-- A directory on the way to the directory is one on the way to the file. -/
theorem onTheWay_take {path : CString} {i : Nat} {p : List UInt8} (h : OnTheWay (path.take i) p) :
    OnTheWay path p := by
  rcases h with ⟨j, hj, hslash, rfl⟩
  rw [bytes_take, List.length_take] at hj
  refine ⟨j, by omega, ?_, ?_⟩
  · rw [bytes_take, List.getD_eq_getElem?_getD, List.getElem?_take_of_lt (by omega)] at hslash
    rw [List.getD_eq_getElem?_getD]
    exact hslash
  · rw [bytes_take, List.take_take, Nat.min_eq_left (by omega)]

/-- After `make_directories_excluding_last`, where directories may be made: the
directory of the file is there exactly if its partition was there before; only
directories on the way to the file are new; what was there is there, and the tree
has no directory without its parent. -/
theorem directories_made {filepath : CString} (hlen : filepath.bytes.length < maxPathLength)
    (hallowed : ∀ p, fs.allowed p = true) {t : DirTree UInt8}
    (hclosed : Closed fs.separator isColon t)
    (hsep : ∃ b ∈ filepath.bytes, fs.separator b = true) (dirName : Vector UInt8 maxPathLength) :
    let t' := makeDirectoriesExcludingLast fs filepath dirName t
    (HasParent fs.separator isColon t' filepath.bytes ↔
        t (root fs.separator isColon filepath.bytes) = true) ∧
      (∀ p, t' p = true → t p = true ∨ OnTheWay filepath p) ∧
      (∀ p, t p = true → t' p = true) ∧ Closed fs.separator isColon t' := by
  have hspec := lastSlash_spec filepath filepath.bytes.length
  change (∀ i, i < _ → _ → i ≤ lastSlash filepath) ∧ (lastSlash filepath = 0 ∨ _) at hspec
  rcases hsep with ⟨b, hmem, hb⟩
  rcases List.getElem?_of_mem hmem with ⟨i, hi⟩
  have hbehind : (root fs.separator isColon filepath.bytes).length ≤ i := length_root_le hi hb
  rcases parent?_isSome (Nat.lt_of_le_of_lt hbehind (List.getElem?_eq_some_iff.mp hi).1) with
    ⟨q, hparent⟩
  rcases parent?_cut hparent with ⟨j, hcut, rfl⟩
  obtain ⟨c, hj, hc⟩ : ∃ c, filepath.bytes[j]? = some c ∧ fs.separator c = true := by
    rcases hcut.ends with hfront | hends
    · -- there is a separator, and it stands behind the root
      obtain rfl : i = j := by
        have hle := hcut.last i b hi hb
        omega
      exact ⟨b, hi, hb⟩
    · exact hends
  have hjlen := hcut.inside
  have hslash : isSlash (filepath.bytes.getD j 0) = true := by
    rw [List.getD_eq_getElem?_getD, hj]
    exact fs.separator_slash c hc
  have hle := hspec.1 j hjlen hslash
  have hroot := hcut.behind
  unfold makeDirectoriesExcludingLast
  rw [extractDirname_spec hlen]
  have hlast : lastSlash filepath < filepath.bytes.length ∧
      isSlash (filepath.bytes.getD (lastSlash filepath) 0) = true := by
    rcases hspec.2 with hzero | hslash'
    · rw [hzero] at hle ⊢
      obtain rfl : j = 0 := Nat.le_zero.mp hle
      exact ⟨hjlen, hslash⟩
    · exact hslash'
  generalize lastSlash filepath = last at hle hlast
  have hlen' : (filepath.take last).bytes.length < maxPathLength := by
    rw [bytes_take, List.length_take]
    omega
  have hmade := made_makeDirectories fs hlen' t
  have hdir := makeDirectories_iff fs hlen' hallowed hclosed
  have hclosed' := hmade.closed hclosed
  rw [bytes_take, root_take (Nat.le_trans hroot hle)] at hdir
  refine ⟨?_, ?_, hmade.keeps, hclosed'⟩
  · constructor
    · rintro ⟨q, hq, hthere⟩
      rw [hparent] at hq
      cases hq
      rw [← hmade.root, ← root_parent hparent]
      exact root_of_closed hclosed' hthere
    · intro hthere
      have hmadeDir := hdir.mpr hthere
      refine ⟨_, hparent, ?_⟩
      rcases Nat.lt_or_eq_of_le hle with hlt | rfl
      · -- the operating system's directory is above the one that is made
        have habove := closed_take hclosed' hmadeDir
          (show (filepath.bytes.take last)[j]? = some c by
            rw [List.getElem?_take_of_lt hlt]
            exact hj) hc
        rw [List.take_take, Nat.min_eq_left (Nat.le_of_lt hlt)] at habove
        exact habove
      · exact hmadeDir
  · intro p hp
    rcases hmade.new p hp with hold | rfl | hway
    · exact Or.inl hold
    · exact Or.inr ⟨last, hlast.1, hlast.2, bytes_take filepath last⟩
    · exact Or.inr (onTheWay_take hway)

/-- Names are separated by '/' alone, and directories may be made everywhere. -/
def slashFs : DirectoryFs where
  separator b := b == 0x2F
  separator_slash b h := by
    unfold isSlash
    rw [h]
    rfl
  allowed _ := true

/-- "ux0:" and nothing in it. -/
def emptyCard : DirTree UInt8 := fun p => p == [0x75, 0x78, 0x30, 0x3A]

theorem closed_emptyCard : Closed slashFs.separator isColon emptyCard := by
  intro p q hp hparent
  obtain rfl : p = [0x75, 0x78, 0x30, 0x3A] := by simpa [emptyCard] using hp
  have hnone : parent? slashFs.separator isColon [0x75, 0x78, 0x30, 0x3A] = none := by decide
  rw [hnone] at hparent
  cases hparent

/-- "ux0:bak/T/k" -/
def fileInFolder : CString :=
  CString.ofBytes [0x75, 0x78, 0x30, 0x3A, 0x62, 0x61, 0x6B, 0x2F, 0x54, 0x2F, 0x6B]

/-- Both folders are made on the empty card. -/
theorem directories_made_fileInFolder :
    let t' := makeDirectoriesExcludingLast slashFs fileInFolder (Vector.replicate _ 0xFF) emptyCard
    HasParent slashFs.separator isColon t' fileInFolder.bytes ∧
      (∀ p, t' p = true → emptyCard p = true ∨ OnTheWay fileInFolder p) ∧
      (∀ p, emptyCard p = true → t' p = true) ∧ Closed slashFs.separator isColon t' := by
  rcases @directories_made slashFs fileInFolder (by decide) (fun _ => rfl) emptyCard
    closed_emptyCard ⟨0x2F, by decide, rfl⟩ (Vector.replicate _ 0xFF) with ⟨hthere, hrest⟩
  exact ⟨hthere.mpr (by decide), hrest⟩

end GcToolKit.App.Directories
