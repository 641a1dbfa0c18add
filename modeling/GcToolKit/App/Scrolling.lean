import GcToolKit.App.Menus

/-!
# Scrolling a list of files (app/menu.c)

The window over a list of `n` files starts at most at `n % 19 - 1`. A list of 19, 38, ...
files is therefore drawn from the row before its first on, and of a list of more than 38
the end never comes into the window. In every frame the search for the last option begins
with the byte behind the array.

* `drawSelectFile_accesses_le` — that byte is the only one outside the array;
* `rowsInRange_iff` — the rows are entries of the list unless it is a multiple of 19 long;
* `everyEntryShown_iff` — lists below 38 can be scrolled through.
-/

namespace GcToolKit.App

open Scroll

/-! ## The bytes of `options` that are accessed -/

section Accesses

variable (options : Nat → UInt8)

/-- The bytes `CALC_FIRST_OPTION` tests. -/
def firstOptionReads : Nat → Nat → List Nat
  | 0, _ => []
  | n + 1, first =>
    first ::
      if options first ≠ 1 ∧ first < sizeofOptions then firstOptionReads n (first + 1) else []

/-- The bytes `CALC_LAST_OPTION` tests. -/
def lastOptionReads : Nat → List Nat
  | 0 => [0]
  | last + 1 => (last + 1) :: if options (last + 1) ≠ 1 then lastOptionReads last else []

/-- The bytes the loop for `SCE_CTRL_UP` tests. -/
def skipUpReads : Nat → List Nat
  | 0 => []
  | selected + 1 =>
    (selected + 1) :: if options (selected + 1) = 0 then skipUpReads selected else []

def pressUpReads (selected : Int) : List Nat :=
  if selected - 1 > 0 then skipUpReads options (selected - 1).toNat else []

/-- The bytes the loop for `SCE_CTRL_DOWN` tests. -/
def skipDownReads : Nat → Nat → List Nat
  | 0, _ => []
  | n + 1, selected =>
    if selected < sizeofOptions then
      selected :: if options selected = 0 then skipDownReads n (selected + 1) else []
    else []

def pressDownReads (selected : Int) : List Nat :=
  if 0 ≤ selected + 1 then skipDownReads options sizeofOptions (selected + 1).toNat else []

end Accesses

/-- What a frame accesses: the bytes it clears, those of its options, and those the
searches for the first and the last option test. -/
def frameAccesses (screen : Screen) : List Nat :=
  List.range sizeofOptions ++ List.range screen.option ++
    firstOptionReads screen.options (sizeofOptions + 1) 0 ++
    lastOptionReads screen.options sizeofOptions

def moveAccesses (screen : Screen) (selected : Int) : Move → List Nat
  | .up => pressUpReads screen.options selected
  | .down => pressDownReads screen.options selected
  | .other => []

section Menu

variable (draw : Draw)

def loopAccesses : List Key → MenuState → List Nat
  | [], st => frameAccesses (draw st.selected st.window st.options).2
  | .cancel :: _, st => frameAccesses (draw st.selected st.window st.options).2
  | .confirm :: _, st => frameAccesses (draw st.selected st.window st.options).2
  | .move move :: keys, st =>
    let (_, screen) := draw st.selected st.window st.options
    frameAccesses screen ++ moveAccesses screen st.selected move ++
      loopAccesses keys (pressMove draw st move)

/-- All accesses of a menu to the array. -/
def menuAccesses (options : Nat → UInt8) (keys : List Key) : List Nat :=
  frameAccesses (firstFrame draw options).2 ++ loopAccesses draw keys (startMenu draw options)

end Menu

/-! ## What scrolling should do -/

section Scrolling

variable (totalFiles : Nat) (options : Nat → UInt8)

/-- Every row of every frame is an entry of the list. -/
def RowsInRange : Prop :=
  ∀ keys, ∀ screen ∈ frames (drawSelectFile totalFiles) options keys, ∀ row ∈ screen.rows,
    0 ≤ row.entry ∧ row.entry < totalFiles

/-- No frame and no key leads outside the array. -/
def AccessesInRange : Prop :=
  ∀ keys, ∀ i ∈ menuAccesses (drawSelectFile totalFiles) options keys, i < sizeofOptions

/-- Every entry is drawn in yellow after some keys. -/
def EveryEntryShown : Prop :=
  ∀ k < totalFiles, ∃ moves : List Move,
    let st := moves.foldl (pressMove (drawSelectFile totalFiles))
      (startMenu (drawSelectFile totalFiles) options)
    ∃ row ∈ st.shown totalFiles, row.entry = k ∧ row.highlighted = true

def ScrollingCorrect : Prop :=
  RowsInRange totalFiles options ∧ AccessesInRange totalFiles options ∧
    EveryEntryShown totalFiles options

end Scrolling

/-! ## Accesses -/

section Bounds

variable (options : Nat → UInt8)

theorem firstOptionReads_le {n first : Nat} (hfirst : first ≤ sizeofOptions) :
    ∀ i ∈ firstOptionReads options n first, i ≤ sizeofOptions := by
  induction n generalizing first with
  | zero =>
    intro i hi
    cases hi
  | succ n ih =>
    intro i hi
    rw [firstOptionReads] at hi
    rcases List.mem_cons.mp hi with rfl | hi
    · exact hfirst
    · split at hi
      case isTrue hmore => exact ih hmore.2 i hi
      case isFalse => cases hi

theorem lastOptionReads_le {last : Nat} : ∀ i ∈ lastOptionReads options last, i ≤ last := by
  induction last with
  | zero =>
    intro i hi
    rw [List.mem_singleton.mp hi]
  | succ last ih =>
    intro i hi
    rw [lastOptionReads] at hi
    rcases List.mem_cons.mp hi with rfl | hi
    · exact Nat.le_refl _
    · split at hi
      · exact Nat.le_succ_of_le (ih i hi)
      · cases hi

theorem skipUpReads_le {selected : Nat} : ∀ i ∈ skipUpReads options selected, i ≤ selected := by
  induction selected with
  | zero =>
    intro i hi
    cases hi
  | succ selected ih =>
    intro i hi
    rw [skipUpReads] at hi
    rcases List.mem_cons.mp hi with rfl | hi
    · exact Nat.le_refl _
    · split at hi
      · exact Nat.le_succ_of_le (ih i hi)
      · cases hi

theorem skipDownReads_lt {n selected : Nat} :
    ∀ i ∈ skipDownReads options n selected, i < sizeofOptions := by
  induction n generalizing selected with
  | zero =>
    intro i hi
    cases hi
  | succ n ih =>
    intro i hi
    rw [skipDownReads] at hi
    split at hi
    case isTrue hsize =>
      rcases List.mem_cons.mp hi with rfl | hi
      · exact hsize
      · split at hi
        · exact ih i hi
        · cases hi
    case isFalse => cases hi

end Bounds

/-- A frame with few options accesses the array and the byte behind it. -/
theorem frameAccesses_le {screen : Screen} (hoption : screen.option ≤ sizeofOptions) :
    ∀ i ∈ frameAccesses screen, i ≤ sizeofOptions := by
  intro i hi
  unfold frameAccesses at hi
  rcases List.mem_append.mp hi with hi | hlast
  · rcases List.mem_append.mp hi with hi | hfirst
    · rcases List.mem_append.mp hi with hclear | hset
      · exact Nat.le_of_lt (List.mem_range.mp hclear)
      · have hlt := List.mem_range.mp hset
        omega
    · exact firstOptionReads_le screen.options (Nat.zero_le _) i hfirst
  · exact lastOptionReads_le screen.options i hlast

theorem moveAccesses_le {screen : Screen} {selected : Int} (hselected : selected ≤ sizeofOptions)
    (move : Move) : ∀ i ∈ moveAccesses screen selected move, i ≤ sizeofOptions := by
  intro i hi
  cases move with
  | up =>
    unfold moveAccesses pressUpReads at hi
    dsimp only at hi
    split at hi
    · have hle := skipUpReads_le screen.options i hi
      omega
    · cases hi
  | down =>
    unfold moveAccesses pressDownReads at hi
    dsimp only at hi
    split at hi
    · exact Nat.le_of_lt (skipDownReads_lt screen.options i hi)
    · cases hi
  | other => cases hi

theorem firstOptionFrom_le (options : Nat → UInt8) {n first : Nat} (hfirst : first ≤ sizeofOptions) :
    firstOptionFrom options n first ≤ sizeofOptions := by
  induction n generalizing first with
  | zero => exact hfirst
  | succ n ih =>
    rw [firstOptionFrom]
    split
    case isTrue hmore => exact ih hmore.2
    case isFalse => exact hfirst

theorem lastOptionFrom_le (options : Nat → UInt8) (last : Nat) :
    lastOptionFrom options last ≤ last := by
  induction last with
  | zero => exact Nat.le_refl 0
  | succ last ih =>
    rw [lastOptionFrom]
    split
    · exact Nat.le_succ_of_le ih
    · exact Nat.le_refl _

/-- `selected` stays at most at the byte behind the array. -/
theorem processMove_le (move : Move) (screen : Screen) (selected window : Int) :
    (processMove move screen selected window).1 ≤ sizeofOptions := by
  have hfirst : calcFirstOption screen.options ≤ sizeofOptions :=
    firstOptionFrom_le screen.options (Nat.zero_le _)
  have hlast : calcLastOption screen.options ≤ sizeofOptions :=
    lastOptionFrom_le screen.options sizeofOptions
  rw [processMove_selected]
  omega

section MenuBounds

variable {draw : Draw}
  (hdraw : ∀ selected window options, (draw selected window options).2.option ≤ sizeofOptions)

include hdraw

theorem loopAccesses_le (keys : List Key) {st : MenuState} (hselected : st.selected ≤ sizeofOptions) :
    ∀ i ∈ loopAccesses draw keys st, i ≤ sizeofOptions := by
  have hframe (st : MenuState) := frameAccesses_le (hdraw st.selected st.window st.options)
  induction keys generalizing st with
  | nil => exact hframe st
  | cons key keys ih =>
    cases key with
    | cancel => exact hframe st
    | confirm => exact hframe st
    | move move =>
      intro i hi
      rcases List.mem_append.mp hi with hi | hrest
      · rcases List.mem_append.mp hi with hscreen | hmove
        · exact hframe st i hscreen
        · exact moveAccesses_le hselected move i hmove
      · exact ih (processMove_le move _ _ _) i hrest

/-- A menu with few options accesses the array and the byte behind it. -/
theorem menuAccesses_le (options : Nat → UInt8) (keys : List Key) :
    ∀ i ∈ menuAccesses draw options keys, i ≤ sizeofOptions := by
  have hstart : (startMenu draw options).selected ≤ sizeofOptions :=
    Int.ofNat_le.mpr (firstOptionFrom_le _ (Nat.zero_le _))
  intro i hi
  rcases List.mem_append.mp hi with hfirst | hloop
  · exact frameAccesses_le (hdraw _ _ _) i hfirst
  · exact loopAccesses_le hdraw keys hstart i hloop

end MenuBounds

theorem drawSelectFile_option_le (totalFiles : Nat) (selected window : Int)
    (options : Nat → UInt8) :
    (drawSelectFile totalFiles selected window options).2.option ≤ windowSize + 1 := by
  unfold drawSelectFile
  dsimp only
  rw [drawRows_option]
  change 0 + rowCount _ _ _ ≤ _
  unfold rowCount
  omega

/-- So does the list of files. -/
theorem drawSelectFile_accesses_le (totalFiles : Nat) (options : Nat → UInt8) (keys : List Key) :
    ∀ i ∈ menuAccesses (drawSelectFile totalFiles) options keys, i ≤ sizeofOptions := by
  have hfew : windowSize + 1 ≤ sizeofOptions := by decide
  have hdraw (selected window : Int) (options : Nat → UInt8) :=
    Nat.le_trans (drawSelectFile_option_le totalFiles selected window options) hfew
  exact menuAccesses_le hdraw options keys

theorem lastOptionReads_self (options : Nat → UInt8) (last : Nat) :
    last ∈ lastOptionReads options last := by
  cases last with
  | zero => exact List.mem_cons_self
  | succ last => exact List.mem_cons_self

/-- The first frame already reads the byte behind the array. -/
theorem not_accessesInRange (totalFiles : Nat) (options : Nat → UInt8) :
    ¬ AccessesInRange totalFiles options := by
  intro h
  have hread : sizeofOptions ∈ menuAccesses (drawSelectFile totalFiles) options [] :=
    List.mem_append_left _ (List.mem_append_right _ (lastOptionReads_self _ _))
  exact Nat.lt_irrefl _ (h [] sizeofOptions hread)

/-! ## Rows -/

/-- The first list entry of the frame drawn in a state is `first`. -/
theorem mem_shown_iff {totalFiles : Nat} {st : MenuState} {row : Row} :
    row ∈ st.shown totalFiles ↔
      ∃ j < rowCount (windowSize + 1) totalFiles (resetWindow totalFiles st.window),
        row = ⟨resetWindow totalFiles st.window + j, decide ((j : Int) = st.selected)⟩ := by
  unfold MenuState.shown drawSelectFile
  dsimp only
  rw [drawRows_rows]
  have hnone : (defOpt st.options).rows = [] := rfl
  have hzero : (defOpt st.options).option = 0 := rfl
  rw [hnone, hzero]
  constructor
  · rintro (h | ⟨j, hj, rfl⟩)
    · cases h
    · exact ⟨j, hj, by rw [Nat.zero_add]⟩
  · rintro ⟨j, hj, rfl⟩
    exact Or.inr ⟨j, hj, by rw [Nat.zero_add]⟩

theorem startMenu_showing {totalFiles : Nat} (hfull : totalFiles % windowSize ≠ 0)
    {options : Nat → UInt8} (hbehind : options sizeofOptions ≠ 1) :
    Showing totalFiles 0 0 (startMenu (drawSelectFile totalFiles) options) := by
  obtain ⟨listing, rfl⟩ : ∃ listing : List CString, listing.length = totalFiles :=
    ⟨List.replicate totalFiles (CString.ofBytes []), List.length_replicate⟩
  exact menuStart_showing hfull hbehind

/-- In a list that is not a multiple of 19 long every frame starts at an entry. -/
theorem menuLoop_showing {totalFiles first row : Nat} {st : MenuState} (keys : List Key)
    (h : Showing totalFiles first row st) :
    ∀ before ∈ (menuLoop (drawSelectFile totalFiles) keys st).1,
      ∃ first row, Showing totalFiles first row before := by
  induction keys generalizing first row st with
  | nil =>
    intro before hmem
    rw [List.mem_singleton.mp hmem]
    exact ⟨first, row, h⟩
  | cons key keys ih =>
    intro before hmem
    cases key with
    | cancel =>
      rw [List.mem_singleton.mp hmem]
      exact ⟨first, row, h⟩
    | confirm =>
      rw [List.mem_singleton.mp hmem]
      exact ⟨first, row, h⟩
    | move move =>
      rcases List.mem_cons.mp hmem with rfl | hmem
      · exact ⟨first, row, h⟩
      · rcases h.press move with ⟨row', hpressed, -⟩
        exact ih hpressed before hmem

theorem lastEntry_lt {totalFiles : Nat} (hn : 0 < totalFiles) : lastEntry totalFiles < totalFiles := by
  unfold lastEntry windowSize
  split <;> omega

/-- No row is beyond the last entry the cursor gets to. -/
theorem Showing.entry_le {totalFiles first row : Nat} {st : MenuState}
    (h : Showing totalFiles first row st) {shown : Row} (hshown : shown ∈ st.shown totalFiles) :
    0 ≤ shown.entry ∧ shown.entry ≤ lastEntry totalFiles := by
  have hle := h.first_le
  rcases mem_shown_iff.mp hshown with ⟨j, hj, rfl⟩
  rw [h.window, rowCount_screenRows hle] at hj
  dsimp only
  rw [h.window]
  omega

/-- The rows are entries of the list exactly where it is no multiple of 19 long. -/
theorem rowsInRange_iff {totalFiles : Nat} (hn : 0 < totalFiles) {options : Nat → UInt8}
    (hbehind : options sizeofOptions ≠ 1) :
    RowsInRange totalFiles options ↔ totalFiles % windowSize ≠ 0 := by
  constructor
  · intro hrange hmultiple
    -- the first frame begins with the row before the first entry
    have htop : resetWindow totalFiles 0 = -1 := by
      unfold resetWindow
      rw [hmultiple, if_pos (by omega)]
      rfl
    have hrow : (⟨-1, true⟩ : Row) ∈
        (⟨0, 0, (defOpt options).options⟩ : MenuState).shown totalFiles := by
      rw [mem_shown_iff]
      dsimp only
      rw [htop]
      refine ⟨0, ?_, rfl⟩
      unfold rowCount windowSize
      omega
    have hentry := (hrange [] _ List.mem_cons_self _ hrow).1
    dsimp only at hentry
    omega
  · intro hfull keys screen hscreen row hrow
    have hshowing : ∃ st first index, Showing totalFiles first index st ∧
        row ∈ st.shown totalFiles := by
      rcases List.mem_cons.mp hscreen with rfl | hscreen
      · exact ⟨_, 0, 0, beforeLoop_showing hfull hbehind, hrow⟩
      · rcases List.mem_map.mp hscreen with ⟨st, hst, rfl⟩
        rcases menuLoop_showing keys (startMenu_showing hfull hbehind) st hst with
          ⟨first, index, h⟩
        exact ⟨st, first, index, h, hrow⟩
    rcases hshowing with ⟨st, first, index, h, hrow⟩
    have hlast := lastEntry_lt hn
    have hentry := h.entry_le hrow
    omega

/-! ## Entries -/

/-- The entry the cursor is at is the one in yellow. -/
theorem Showing.cursor_shown {totalFiles first row : Nat} {st : MenuState}
    (h : Showing totalFiles first row st) :
    ∃ shown ∈ st.shown totalFiles, shown.entry = (first + row : Nat) ∧ shown.highlighted = true := by
  have hrow := h.row_lt
  refine ⟨⟨first + row, true⟩, ?_, rfl, rfl⟩
  rw [mem_shown_iff, h.window, rowCount_screenRows h.first_le, h.selected]
  exact ⟨row, hrow, by rw [decide_eq_true rfl]⟩

/-- Down leads to every entry up to the last. -/
theorem Showing.replicate_down {totalFiles first row : Nat} {st : MenuState}
    (h : Showing totalFiles first row st) {k : Nat} (hk : first + row + k ≤ lastEntry totalFiles) :
    ∃ first' row', Showing totalFiles first' row'
        ((List.replicate k .down).foldl (pressMove (drawSelectFile totalFiles)) st) ∧
      first' + row' = first + row + k := by
  induction k generalizing first row st with
  | zero => exact ⟨first, row, h, rfl⟩
  | succ k ih =>
    rcases h.press .down with ⟨row', hpressed, hcursor⟩
    have hnext : moveCursor (lastEntry totalFiles) .down (first + row) = first + row + 1 := by
      unfold moveCursor
      dsimp only
      omega
    rw [hnext] at hpressed hcursor
    rcases ih hpressed (by omega) with ⟨first'', row'', hdown, heq⟩
    exact ⟨first'', row'', hdown, by omega⟩

theorem entry_shown {totalFiles : Nat} (hfull : totalFiles % windowSize ≠ 0) {options : Nat → UInt8}
    (hbehind : options sizeofOptions ≠ 1) {k : Nat} (hk : k ≤ lastEntry totalFiles) :
    ∃ moves : List Move,
      let st := moves.foldl (pressMove (drawSelectFile totalFiles))
        (startMenu (drawSelectFile totalFiles) options)
      ∃ row ∈ st.shown totalFiles, row.entry = k ∧ row.highlighted = true := by
  have hstart := startMenu_showing hfull hbehind
  rcases hstart.replicate_down (k := k) (by omega) with ⟨first, row, hdown, heq⟩
  refine ⟨List.replicate k .down, ?_⟩
  have hcursor : first + row = k := by omega
  rw [← hcursor]
  rw [← hcursor] at hdown
  exact hdown.cursor_shown

/-- A list of 19 names is drawn from the row before the first, with the row `row` selected. -/
structure FullAt (row : Nat) (st : MenuState) : Prop where
  selected : st.selected = row
  window : resetWindow windowSize st.window = -1
  behind : st.options sizeofOptions ≠ 1

theorem FullAt.press_down {row : Nat} {st : MenuState} (h : FullAt row st) (hrow : row < windowSize) :
    FullAt (row + 1) (pressMove (drawSelectFile windowSize) st .down) := by
  rcases drawSelectFile_rowCount windowSize st.selected st.window h.behind with ⟨-, hlisted⟩
  have hcount : rowCount (windowSize + 1) windowSize (-1) = windowSize + 1 := rfl
  have hfew : windowSize + 1 ≤ sizeofOptions := by decide
  have htop : resetWindow windowSize (-1) = -1 := rfl
  rw [h.window, hcount] at hlisted
  unfold pressMove
  dsimp only
  have hwindow : (drawSelectFile windowSize st.selected st.window st.options).1 = -1 := h.window
  rw [h.selected] at hlisted hwindow ⊢
  rw [processMove_down hlisted (by omega) hfew, if_pos (by omega), hwindow]
  exact ⟨rfl, htop, hlisted.behind⟩

theorem FullAt.replicate_down {row : Nat} {st : MenuState} (h : FullAt row st) {k : Nat}
    (hk : row + k ≤ windowSize) :
    FullAt (row + k) ((List.replicate k .down).foldl (pressMove (drawSelectFile windowSize)) st) := by
  induction k generalizing row st with
  | zero => exact h
  | succ k ih =>
    have hdown := ih (h.press_down (by omega)) (by omega)
    rw [Nat.add_right_comm, Nat.add_assoc] at hdown
    exact hdown

theorem FullAt.cursor_shown {k : Nat} {st : MenuState} (h : FullAt (k + 1) st)
    (hk : k < windowSize) :
    ∃ shown ∈ st.shown windowSize, shown.entry = (k : Nat) ∧ shown.highlighted = true := by
  have hcount : rowCount (windowSize + 1) windowSize (-1) = windowSize + 1 := rfl
  refine ⟨⟨k, true⟩, ?_, rfl, rfl⟩
  rw [mem_shown_iff, h.window, hcount, h.selected]
  refine ⟨k + 1, by omega, ?_⟩
  rw [decide_eq_true rfl]
  congr 1
  omega

theorem startMenu_fullAt {options : Nat → UInt8} (hbehind : options sizeofOptions ≠ 1) :
    FullAt 0 (startMenu (drawSelectFile windowSize) options) := by
  have hcleared : (defOpt options).options sizeofOptions ≠ 1 := by
    rw [defOpt_behind]
    exact hbehind
  have htop : resetWindow windowSize 0 = -1 := rfl
  have hstays : resetWindow windowSize (-1) = -1 := rfl
  have hcount : rowCount (windowSize + 1) windowSize (-1) = windowSize + 1 := rfl
  have hwindow : (drawSelectFile windowSize 0 0 (defOpt options).options).1 =
    resetWindow windowSize 0 := rfl
  rcases drawSelectFile_rowCount windowSize 0 0 hcleared with ⟨-, hlisted⟩
  rw [htop, hcount] at hlisted
  have hfirst := hlisted.rowsSet.calcFirstOption (by omega)
  unfold startMenu firstFrame
  dsimp only
  rw [hwindow, htop, hfirst]
  refine ⟨rfl, hstays, ?_⟩
  dsimp only
  exact hlisted.behind

/-- The window of a list of 19, 38, ... names never gets beyond its first screen. -/
theorem entry_lt_of_multiple {totalFiles : Nat} (hmultiple : totalFiles % windowSize = 0)
    {st : MenuState} {row : Row} (hrow : row ∈ st.shown totalFiles) : row.entry < windowSize := by
  rcases mem_shown_iff.mp hrow with ⟨j, hj, rfl⟩
  have htop : resetWindow totalFiles st.window ≤ -1 := by
    unfold resetWindow
    rw [hmultiple]
    split <;> omega
  unfold rowCount at hj
  dsimp only
  omega

/-- All entries can be scrolled to exactly where there are less than 38. -/
theorem everyEntryShown_iff {totalFiles : Nat} (hn : 0 < totalFiles) {options : Nat → UInt8}
    (hbehind : options sizeofOptions ≠ 1) :
    EveryEntryShown totalFiles options ↔ totalFiles < 2 * windowSize := by
  have hsize : windowSize = 19 := rfl
  constructor
  · intro hshown
    by_contra hmany
    rcases hshown (totalFiles - 1) (by omega) with ⟨moves, row, hrow, hentry, -⟩
    by_cases hmultiple : totalFiles % windowSize = 0
    · have hlt := entry_lt_of_multiple hmultiple hrow
      omega
    · rcases (startMenu_showing hmultiple hbehind).run moves with ⟨index, hshowing⟩
      have hle := (hshowing.entry_le hrow).2
      unfold lastEntry windowSize at *
      split at hle <;> omega
  · intro hfew k hk
    by_cases hmultiple : totalFiles % windowSize = 0
    · -- the only such list is that of 19
      have hfull : totalFiles = windowSize := by
        unfold windowSize at *
        omega
      subst hfull
      have hdown := (startMenu_fullAt hbehind).replicate_down (k := k + 1) (by omega)
      rw [Nat.zero_add] at hdown
      exact ⟨List.replicate (k + 1) .down, hdown.cursor_shown hk⟩
    · apply entry_shown hmultiple hbehind
      unfold lastEntry windowSize at *
      split <;> omega

/-! ## Scrolling -/

/-- For no list is scrolling correct. Its rows are in range unless the list is a multiple
of 19 long, and all of it can be seen where it is shorter than 38. -/
theorem not_scrollingCorrect {totalFiles : Nat} (hn : 0 < totalFiles) (options : Nat → UInt8) :
    ¬ ScrollingCorrect totalFiles options ∧
      (options sizeofOptions ≠ 1 →
        (RowsInRange totalFiles options ↔ totalFiles % windowSize ≠ 0) ∧
        (EveryEntryShown totalFiles options ↔ totalFiles < 2 * windowSize)) := by
  refine ⟨?_, ?_⟩
  · intro h
    exact not_accessesInRange totalFiles options h.2.1
  · intro hbehind
    exact ⟨rowsInRange_iff hn hbehind, everyEntryShown_iff hn hbehind⟩

/-- Of 40 names no frame shows a row that is none of them, and the last is never
reached. -/
theorem not_scrollingCorrect_forty :
    ¬ ScrollingCorrect 40 (fun _ => 0) ∧ RowsInRange 40 (fun _ => 0) ∧
      ¬ EveryEntryShown 40 (fun _ => 0) := by
  rcases not_scrollingCorrect (Nat.succ_pos 39) (fun _ => 0) with ⟨hwrong, hparts⟩
  rcases hparts (by decide) with ⟨hrows, hshown⟩
  exact ⟨hwrong, hrows.mpr (by decide), fun h => absurd (hshown.mp h) (by decide)⟩

/-- Of 38 names the frames show the row before the first, read the byte behind the
array, and never get to the last name. -/
theorem not_scrolling_twoScreens :
    ¬ ScrollingCorrect 38 (fun _ => 0) ∧ ¬ RowsInRange 38 (fun _ => 0) ∧
      ¬ EveryEntryShown 38 (fun _ => 0) := by
  have hn : 0 < 38 := Nat.succ_pos _
  refine ⟨fun h => not_accessesInRange _ _ h.2.1, ?_, ?_⟩
  · rw [rowsInRange_iff hn (by decide)]
    decide
  · rw [everyEntryShown_iff hn (by decide)]
    decide

end GcToolKit.App
