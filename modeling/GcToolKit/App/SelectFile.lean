import Mathlib.Logic.Function.Basic
import GcToolKit.Lib.CString
import GcToolKit.Lib.Scroll

/-!
# Choosing a file (app/menu.c)

`PROCESS_MENU` moves `selected` over the rows on the screen and, at their ends, `window`
over the list. `draw_select_file` highlights the row `selected`, which shows the entry
`window + selected`; `do_select_file` copies the entry `selected`. The two agree while
the list is at its top.

The window follows the entry that is highlighted, so a list of names and the keys tell
where it is in the end. A list of 19, 38, ... names is always drawn from the row before
the first on.
-/

namespace GcToolKit.App

open Scroll

/-! ## draw_select_file -/

/-- `sizeof(options)` -/
def sizeofOptions : Nat := 0x1028

/-- `WINDOW_SIZE` -/
def windowSize : Nat := 19

/-- A line on the screen: the entry whose name it shows, and whether in yellow. -/
structure Row where
  entry : Int
  highlighted : Bool

/-- The array `options` with the memory behind it, the options so far, and their lines. -/
structure Screen where
  options : Nat → UInt8
  option : Nat
  rows : List Row

/-- `DEFOPT` -/
def defOpt (options : Nat → UInt8) : Screen where
  options i := if i < sizeofOptions then 0 else options i
  option := 0
  rows := []

theorem defOpt_behind (options : Nat → UInt8) :
    (defOpt options).options sizeofOptions = options sizeofOptions := by
  unfold defOpt
  dsimp only
  rw [if_neg (Nat.lt_irrefl _)]

/-- `ADDOPT` with a condition that holds. -/
def addOpt (entry selected : Int) (screen : Screen) : Screen where
  options := Function.update screen.options screen.option 1
  option := screen.option + 1
  rows := screen.rows ++ [⟨entry, decide ((screen.option : Int) = selected)⟩]

/-- The loop of `draw_select_file`, at most so many times. -/
def drawRows (selected totalFiles : Int) : Nat → Int → Screen → Screen
  | 0, _, screen => screen
  | n + 1, i, screen =>
    if i ≥ totalFiles then screen
    else drawRows selected totalFiles n (i + 1) (addOpt i selected screen)

/-- The window is put back to `total_files % WINDOW_SIZE - 1` where it is beyond. -/
def resetWindow (totalFiles : Nat) (window : Int) : Int :=
  if window > ((totalFiles % windowSize : Nat) : Int) - 1 then
    ((totalFiles % windowSize : Nat) : Int) - 1
  else window

def drawSelectFile (totalFiles : Nat) (selected window : Int) (options : Nat → UInt8) :
    Int × Screen :=
  let window := resetWindow totalFiles window
  (window, drawRows selected totalFiles (windowSize + 1) window (defOpt options))

/-! ## PROCESS_MENU -/

section Menu

variable (options : Nat → UInt8)

/-- `CALC_FIRST_OPTION` from `first` on. -/
def firstOptionFrom : Nat → Nat → Nat
  | 0, first => first
  | n + 1, first =>
    if options first ≠ 1 ∧ first < sizeofOptions then firstOptionFrom n (first + 1) else first

def calcFirstOption : Nat := firstOptionFrom options (sizeofOptions + 1) 0

/-- `CALC_LAST_OPTION` from `last` down. -/
def lastOptionFrom : Nat → Nat
  | 0 => 0
  | last + 1 => if options (last + 1) ≠ 1 then lastOptionFrom last else last + 1

/-- The first test is of the byte behind the array. -/
def calcLastOption : Nat := lastOptionFrom options sizeofOptions

/-- The rounds of the loop for `SCE_CTRL_UP` behind the first. -/
def skipUp : Nat → Nat
  | 0 => 0
  | selected + 1 => if options (selected + 1) = 0 then skipUp selected else selected + 1

def pressUp (selected : Int) : Int :=
  if selected - 1 > 0 then skipUp options (selected - 1).toNat else selected - 1

/-- The rounds of the loop for `SCE_CTRL_DOWN` behind the first. -/
def skipDown : Nat → Nat → Nat
  | 0, selected => selected
  | n + 1, selected =>
    if selected < sizeofOptions ∧ options selected = 0 then skipDown n (selected + 1) else selected

/-- `selected` is compared as an unsigned number. -/
def pressDown (selected : Int) : Int :=
  if 0 ≤ selected + 1 then skipDown options sizeofOptions (selected + 1).toNat else selected + 1

end Menu

inductive Move where
  | up
  | down
  | other

inductive Key where
  | move (move : Move)
  | cancel
  | confirm

/-- The rest of a round after the key: `selected` and `window`. -/
def processMove (move : Move) (screen : Screen) (selected window : Int) : Int × Int :=
  let firstOption : Int := calcFirstOption screen.options
  let lastOption : Int := calcLastOption screen.options
  let selected := match move with
    | .up => pressUp screen.options selected
    | .down => pressDown screen.options selected
    | .other => selected
  let (selected, window) :=
    if selected > lastOption then
      (lastOption, if screen.option > windowSize then window + 1 else window)
    else (selected, window)
  if selected < firstOption then
    (firstOption, if window ≠ firstOption then window - 1 else window)
  else (selected, window)

/-- How a menu ends: the last frame with the value of `selected`. -/
inductive MenuEnd where
  | canceled
  | confirmed (rows : List Row) (selected : Int)

/-- The loop of `PROCESS_MENU` with `draw_select_file`, as far as there are keys. -/
def processMenu (totalFiles : Nat) : List Key → Int → Int → (Nat → UInt8) → Option MenuEnd
  | [], _, _, _ => none
  | key :: keys, selected, window, options =>
    let (window, screen) := drawSelectFile totalFiles selected window options
    match key with
    | .cancel => some .canceled
    | .confirm => some (.confirmed screen.rows selected)
    | .move move =>
      let (selected, window) := processMove move screen selected window
      processMenu totalFiles keys selected window screen.options

/-! ## do_select_file -/

def totalFilesLessThanEq0 : Int := -920

/-- The name in the array of names, as far as it is one. -/
def entryName (listing : List CString) (entry : Int) : Option CString :=
  if 0 ≤ entry then listing[entry.toNat]? else none

inductive FileChoice where
  | error (res : Int)
  | canceled
  | selected (shown : List Row) (index : Int) (output : Option CString)

/-- `options` is the memory from the array on. -/
def doSelectFile (listing : List CString) (options : Nat → UInt8) (keys : List Key) :
    Option FileChoice :=
  if listing.length ≤ 0 then some (.error totalFilesLessThanEq0)
  else
    let (window, screen) := drawSelectFile listing.length 0 0 (defOpt options).options
    (processMenu listing.length keys (calcFirstOption screen.options) window screen.options).map fun
    | .canceled => .canceled
    | .confirmed rows selected => .selected rows selected (entryName listing selected)

/-! ## What a frame shows -/

/-- The lines the loop draws from the entry `i` on. -/
def rowCount (n : Nat) (totalFiles i : Int) : Nat := min n (totalFiles - i).toNat

theorem drawRows_option (selected totalFiles : Int) (n : Nat) (i : Int) (screen : Screen) :
    (drawRows selected totalFiles n i screen).option =
      screen.option + rowCount n totalFiles i := by
  unfold rowCount
  induction n generalizing i screen with
  | zero =>
    rw [drawRows]
    omega
  | succ n ih =>
    rw [drawRows]
    split
    · omega
    · rw [ih]
      unfold addOpt
      dsimp only
      omega

theorem drawRows_options (selected totalFiles : Int) (n : Nat) (i : Int) (screen : Screen)
    (j : Nat) :
    (drawRows selected totalFiles n i screen).options j =
      if screen.option ≤ j ∧ j < screen.option + rowCount n totalFiles i then 1
      else screen.options j := by
  unfold rowCount
  induction n generalizing i screen with
  | zero =>
    rw [drawRows, if_neg (by omega)]
  | succ n ih =>
    rw [drawRows]
    by_cases hend : i ≥ totalFiles
    · rw [if_pos hend, if_neg (by omega)]
    · rw [if_neg hend, ih]
      unfold addOpt
      dsimp only
      by_cases hj : j = screen.option
      · subst hj
        rw [if_neg (by omega), Function.update_self, if_pos (by omega)]
      · rw [Function.update_of_ne hj]
        congr 1
        apply propext
        omega

theorem drawRows_rows (selected totalFiles : Int) (n : Nat) (i : Int) (screen : Screen)
    (row : Row) :
    row ∈ (drawRows selected totalFiles n i screen).rows ↔
      row ∈ screen.rows ∨ ∃ j < rowCount n totalFiles i,
        row = ⟨i + j, decide (((screen.option + j : Nat) : Int) = selected)⟩ := by
  unfold rowCount
  -- each round draws one row and leaves the rest to the counter one further
  induction n generalizing i screen with
  | zero =>
    rw [drawRows]
    constructor
    · intro h
      exact Or.inl h
    · rintro (h | ⟨j, hj, -⟩)
      · exact h
      · omega
  | succ n ih =>
    rw [drawRows]
    by_cases hend : i ≥ totalFiles
    · rw [if_pos hend]
      constructor
      · intro h
        exact Or.inl h
      · rintro (h | ⟨j, hj, -⟩)
        · exact h
        · omega
    · rw [if_neg hend, ih]
      unfold addOpt
      dsimp only
      constructor
      · rintro (h | ⟨j, hj, rfl⟩)
        · rcases List.mem_append.mp h with h | h
          · exact Or.inl h
          · rw [List.mem_singleton] at h
            refine Or.inr ⟨0, by omega, ?_⟩
            rw [h, Nat.add_zero, Int.natCast_zero, Int.add_zero]
        · refine Or.inr ⟨j + 1, by omega, ?_⟩
          rw [Nat.add_right_comm, Nat.add_assoc]
          congr 1
          omega
      · rintro (h | ⟨j, hj, rfl⟩)
        · exact Or.inl (List.mem_append_left _ h)
        · cases j with
          | zero =>
            left
            apply List.mem_append_right
            rw [List.mem_singleton, Nat.add_zero, Int.natCast_zero, Int.add_zero]
          | succ j =>
            refine Or.inr ⟨j, by omega, ?_⟩
            rw [Nat.add_right_comm, Nat.add_assoc]
            congr 1
            omega

/-- The row in yellow shows the entry `selected` only while the list is at its top. -/
theorem shown_selected_iff (totalFiles : Nat) (selected window : Int) (options : Nat → UInt8) :
    (∃ row ∈ (drawSelectFile totalFiles selected window options).2.rows,
      row.highlighted = true ∧ row.entry = selected) ↔
      resetWindow totalFiles window = 0 ∧ 0 ≤ selected ∧
        selected < rowCount (windowSize + 1) totalFiles 0 := by
  unfold drawSelectFile
  dsimp only
  constructor
  · rintro ⟨row, hrow, hyellow, hentry⟩
    rw [drawRows_rows] at hrow
    rcases hrow with hrow | ⟨j, hj, rfl⟩
    · cases hrow
    · have heq := of_decide_eq_true hyellow
      dsimp only [defOpt] at heq hentry
      have htop : resetWindow totalFiles window = 0 := by omega
      rw [htop] at hj
      exact ⟨htop, by omega, by omega⟩
  · rintro ⟨htop, hnonneg, hlt⟩
    refine ⟨⟨selected, true⟩, ?_, rfl, rfl⟩
    rw [drawRows_rows, htop]
    refine Or.inr ⟨selected.toNat, by omega, ?_⟩
    have hcast : ((selected.toNat : Nat) : Int) = selected := by omega
    have hyellow : (((defOpt options).option + selected.toNat : Nat) : Int) = selected := by
      change ((0 + selected.toNat : Nat) : Int) = selected
      omega
    rw [decide_eq_true hyellow, hcast, Int.zero_add]

/-! ## One key -/

/-- `count` options are there, and the byte behind the array is no option. -/
structure Listed (count : Nat) (options : Nat → UInt8) : Prop where
  set : ∀ j < count, options j = 1
  clear : ∀ j, count ≤ j → j < sizeofOptions → options j = 0
  behind : options sizeofOptions ≠ 1

/-- `count` options are there, whatever the byte behind the array is. -/
structure RowsSet (count : Nat) (options : Nat → UInt8) : Prop where
  set : ∀ j < count, options j = 1
  clear : ∀ j, count ≤ j → j < sizeofOptions → options j = 0

section RowsSet

variable {count : Nat} {options : Nat → UInt8} (h : RowsSet count options)

include h

theorem RowsSet.calcFirstOption (hcount : 0 < count) : calcFirstOption options = 0 := by
  unfold App.calcFirstOption
  rw [firstOptionFrom, if_neg]
  rw [h.set 0 hcount]
  exact fun hfirst => hfirst.1 rfl

theorem RowsSet.pressUp {selected : Nat} (hselected : selected < count) :
    pressUp options selected = selected - 1 := by
  unfold App.pressUp
  split
  · obtain ⟨k, hk⟩ : ∃ k, ((selected : Int) - 1).toNat = k + 1 :=
      ⟨selected - 2, by omega⟩
    have hset := h.set (k + 1) (by omega)
    rw [hk, skipUp, hset, if_neg (by decide)]
    omega
  · rfl

theorem RowsSet.skipDown {n selected : Nat} (hselected : count ≤ selected)
    (hle : selected ≤ sizeofOptions) (hn : sizeofOptions ≤ selected + n) :
    skipDown options n selected = sizeofOptions := by
  induction n generalizing selected with
  | zero =>
    rw [App.skipDown]
    omega
  | succ n ih =>
    rw [App.skipDown]
    by_cases hend : selected < sizeofOptions
    · rw [if_pos ⟨hend, h.clear selected hselected hend⟩]
      exact ih (by omega) (by omega) (by omega)
    · rw [if_neg (fun hmore => hend hmore.1)]
      omega

/-- Behind the last row there is nothing up to the end of the array. -/
theorem RowsSet.pressDown {selected : Nat} (hselected : selected < count)
    (hle : count ≤ sizeofOptions) :
    pressDown options selected =
      if selected + 1 < count then ((selected + 1 : Nat) : Int) else sizeofOptions := by
  have hnext : ((selected : Int) + 1).toNat = selected + 1 := by omega
  unfold App.pressDown
  rw [if_pos (by omega), hnext]
  by_cases hmore : selected + 1 < count
  · have hset := h.set (selected + 1) hmore
    have hsize : sizeofOptions = 0x1027 + 1 := rfl
    rw [if_pos hmore, hsize, App.skipDown, hset, if_neg]
    exact fun hzero => absurd hzero.2 (by decide)
  · rw [if_neg hmore, h.skipDown (by omega) (by omega) (by omega)]

end RowsSet

section Listed

variable {count : Nat} {options : Nat → UInt8} (h : Listed count options)

include h

theorem Listed.rowsSet : RowsSet count options := ⟨h.set, h.clear⟩

theorem Listed.ne_one {j : Nat} (hj : count ≤ j) (hj' : j ≤ sizeofOptions) : options j ≠ 1 := by
  by_cases hlast : j = sizeofOptions
  · rw [hlast]
    exact h.behind
  · rw [h.clear j hj (by omega)]
    decide

theorem Listed.lastOptionFrom {last : Nat} (hcount : 0 < count) (hlast : count ≤ last + 1)
    (hle : last ≤ sizeofOptions) : lastOptionFrom options last = count - 1 := by
  induction last with
  | zero =>
    rw [App.lastOptionFrom]
    omega
  | succ last ih =>
    rw [App.lastOptionFrom]
    by_cases heq : count = last + 2
    · rw [if_neg (not_not.mpr (h.set _ (by omega)))]
      omega
    · rw [if_pos (h.ne_one (by omega) hle)]
      exact ih (by omega) (by omega)

theorem Listed.calcLastOption (hcount : 0 < count) (hle : count ≤ sizeofOptions) :
    calcLastOption options = count - 1 :=
  h.lastOptionFrom hcount (by omega) (Nat.le_refl _)

end Listed

section Keys

variable {count row : Nat} {screen : Screen}

theorem processMove_up (h : Listed count screen.options) (hrow : row < count)
    (hle : count ≤ sizeofOptions) (window : Int) :
    processMove .up screen row window =
      if row = 0 then (0, if window ≠ 0 then window - 1 else window)
      else (((row - 1 : Nat) : Int), window) := by
  have hlast : ¬ (row : Int) - 1 > ((count - 1 : Nat) : Int) := by omega
  unfold processMove
  dsimp only
  rw [h.rowsSet.calcFirstOption (by omega), h.calcLastOption (by omega) hle,
    h.rowsSet.pressUp hrow, if_neg hlast]
  dsimp only
  by_cases hzero : row = 0
  · rw [if_pos (by omega), if_pos hzero]
    rfl
  · rw [if_neg (by omega), if_neg hzero]
    congr 1
    omega

theorem processMove_down (h : Listed count screen.options) (hrow : row < count)
    (hle : count ≤ sizeofOptions) (window : Int) :
    processMove .down screen row window =
      if row + 1 < count then (((row + 1 : Nat) : Int), window)
      else ((row : Int), if screen.option > windowSize then window + 1 else window) := by
  unfold processMove
  dsimp only
  rw [h.rowsSet.calcFirstOption (by omega), h.calcLastOption (by omega) hle,
    h.rowsSet.pressDown hrow hle]
  by_cases hmore : row + 1 < count
  · have hlast : ¬ ((row + 1 : Nat) : Int) > ((count - 1 : Nat) : Int) := by omega
    rw [if_pos hmore, if_neg hlast, if_pos hmore]
    dsimp only
    rw [if_neg (by omega)]
  · have hlast : (sizeofOptions : Int) > ((count - 1 : Nat) : Int) := by omega
    rw [if_neg hmore, if_pos hlast, if_neg hmore]
    dsimp only
    rw [if_neg (by omega)]
    congr 1
    omega

theorem processMove_other (h : Listed count screen.options) (hrow : row < count)
    (hle : count ≤ sizeofOptions) (window : Int) :
    processMove .other screen row window = ((row : Int), window) := by
  have hlast : ¬ (row : Int) > ((count - 1 : Nat) : Int) := by omega
  unfold processMove
  dsimp only
  rw [h.rowsSet.calcFirstOption (by omega), h.calcLastOption (by omega) hle, if_neg hlast]
  dsimp only
  rw [if_neg (by omega)]

end Keys

/-! ## The cursor -/

/-- The last entry the cursor gets to in a list that is not a multiple of 19 long. -/
def lastEntry (totalFiles : Nat) : Nat :=
  if totalFiles < windowSize then totalFiles - 1 else totalFiles % windowSize + (windowSize - 1)

def moveCursor (last : Nat) : Move → Nat → Nat
  | .up, entry => entry - 1
  | .down, entry => min (entry + 1) last
  | .other, entry => entry

/-- The entries the cursor is at after each key. -/
def cursorPath (last : Nat) : Nat → List Move → List Nat
  | _, [] => []
  | entry, move :: moves =>
    moveCursor last move entry :: cursorPath last (moveCursor last move entry) moves

/-- The state of a menu between two frames. -/
structure MenuState where
  selected : Int
  window : Int
  options : Nat → UInt8

/-- A frame and a key that moves. -/
def MenuState.press (totalFiles : Nat) (st : MenuState) (move : Move) : MenuState :=
  let (window, screen) := drawSelectFile totalFiles st.selected st.window st.options
  let (selected, window) := processMove move screen st.selected window
  ⟨selected, window, screen.options⟩

/-- The rows of the frame that is drawn next. -/
def MenuState.shown (totalFiles : Nat) (st : MenuState) : List Row :=
  (drawSelectFile totalFiles st.selected st.window st.options).2.rows

theorem processMenu_confirm (totalFiles : Nat) (moves : List Move) (st : MenuState) :
    processMenu totalFiles (moves.map .move ++ [.confirm]) st.selected st.window st.options =
      some (.confirmed ((moves.foldl (MenuState.press totalFiles) st).shown totalFiles)
        (moves.foldl (MenuState.press totalFiles) st).selected) := by
  induction moves generalizing st with
  | nil => rfl
  | cons move moves ih => exact ih (st.press totalFiles move)

/-- The rows on the screen. -/
def screenRows (totalFiles : Nat) : Nat := min (windowSize + 1) totalFiles

/-- The window starts at the entry `first`, and the row `row` is selected. -/
structure Showing (totalFiles first row : Nat) (st : MenuState) : Prop where
  selected : st.selected = row
  row_lt : row < screenRows totalFiles
  window : resetWindow totalFiles st.window = first
  first_le : first + (screenRows totalFiles - 1) ≤ lastEntry totalFiles
  behind : st.options sizeofOptions ≠ 1

theorem rowCount_screenRows {totalFiles first : Nat}
    (hfirst : first + (screenRows totalFiles - 1) ≤ lastEntry totalFiles) :
    rowCount (windowSize + 1) totalFiles first = screenRows totalFiles := by
  unfold rowCount screenRows lastEntry windowSize at *
  split at hfirst <;> omega

/-- The options of a frame are its rows; the byte behind the array is left alone. -/
theorem drawSelectFile_rowsSet (totalFiles : Nat) (selected window : Int)
    (options : Nat → UInt8) :
    (drawSelectFile totalFiles selected window options).2.option =
        rowCount (windowSize + 1) totalFiles (resetWindow totalFiles window) ∧
      RowsSet (rowCount (windowSize + 1) totalFiles (resetWindow totalFiles window))
        (drawSelectFile totalFiles selected window options).2.options ∧
      (drawSelectFile totalFiles selected window options).2.options sizeofOptions =
        options sizeofOptions := by
  have hfew : rowCount (windowSize + 1) totalFiles (resetWindow totalFiles window) <
      sizeofOptions := by
    unfold rowCount windowSize sizeofOptions
    omega
  unfold drawSelectFile
  dsimp only
  -- the rows drawn are options, those behind them are not, and the last byte is untouched
  refine ⟨?_, ⟨?_, ?_⟩, ?_⟩
  · rw [drawRows_option]
    exact Nat.zero_add _
  · intro j hj
    rw [drawRows_options, if_pos]
    exact ⟨Nat.zero_le j, by rw [show (defOpt options).option = 0 from rfl]; omega⟩
  · intro j hj hj'
    rw [drawRows_options, if_neg]
    · unfold defOpt
      dsimp only
      rw [if_pos hj']
    · rw [show (defOpt options).option = 0 from rfl]
      omega
  · rw [drawRows_options, if_neg]
    · exact defOpt_behind options
    · rw [show (defOpt options).option = 0 from rfl]
      omega

theorem drawSelectFile_rowCount (totalFiles : Nat) (selected window : Int) {options : Nat → UInt8}
    (hbehind : options sizeofOptions ≠ 1) :
    (drawSelectFile totalFiles selected window options).2.option =
        rowCount (windowSize + 1) totalFiles (resetWindow totalFiles window) ∧
      Listed (rowCount (windowSize + 1) totalFiles (resetWindow totalFiles window))
        (drawSelectFile totalFiles selected window options).2.options := by
  rcases drawSelectFile_rowsSet totalFiles selected window options with ⟨hoption, hrows, hlast⟩
  refine ⟨hoption, hrows.set, hrows.clear, ?_⟩
  rw [hlast]
  exact hbehind

/-- A frame lists the rows that are on the screen. -/
theorem drawSelectFile_listed {totalFiles first row : Nat} {st : MenuState}
    (h : Showing totalFiles first row st) :
    (drawSelectFile totalFiles st.selected st.window st.options).1 = first ∧
      (drawSelectFile totalFiles st.selected st.window st.options).2.option =
        screenRows totalFiles ∧
      Listed (screenRows totalFiles)
        (drawSelectFile totalFiles st.selected st.window st.options).2.options := by
  have hframe := drawSelectFile_rowCount totalFiles st.selected st.window h.behind
  rw [h.window, rowCount_screenRows h.first_le] at hframe
  exact ⟨h.window, hframe⟩

theorem resetWindow_of_le {totalFiles : Nat} {window w : Int} {first : Nat}
    (h : resetWindow totalFiles window = first) (hle : w ≤ first) :
    resetWindow totalFiles w = w := by
  unfold resetWindow at *
  split at h <;> rw [if_neg (by omega)]

/-- A key moves the cursor, and the window follows. -/
theorem Showing.press {totalFiles first row : Nat} {st : MenuState}
    (h : Showing totalFiles first row st) (move : Move) :
    ∃ row', Showing totalFiles
        (follow windowSize first (moveCursor (lastEntry totalFiles) move (first + row))) row'
        (st.press totalFiles move) ∧
      follow windowSize first (moveCursor (lastEntry totalFiles) move (first + row)) + row' =
        moveCursor (lastEntry totalFiles) move (first + row) := by
  rcases drawSelectFile_listed h with ⟨hfirst, hcount, hlisted⟩
  have hfew : screenRows totalFiles ≤ sizeofOptions := by
    unfold screenRows windowSize sizeofOptions
    omega
  have hview : screenRows totalFiles ≤ windowSize + 1 := Nat.min_le_left _ _
  have hrow := h.row_lt
  have hle := h.first_le
  have hwindow := h.window
  unfold MenuState.press
  dsimp only
  rw [hfirst, h.selected]
  rw [h.selected] at hcount hlisted
  generalize (drawSelectFile totalFiles row st.window st.options).2 = screen at hcount hlisted ⊢
  cases move with
  | up =>
    rw [processMove_up hlisted hrow hfew]
    unfold moveCursor
    dsimp only
    by_cases hzero : row = 0
    · rw [if_pos hzero, follow_up (by omega)]
      refine ⟨0, ⟨rfl, by omega, ?_, by omega, hlisted.behind⟩, by omega⟩
      dsimp only
      split
      · rw [resetWindow_of_le hwindow (by omega)]
        omega
      · rw [resetWindow_of_le hwindow (Int.le_refl _)]
        omega
    · rw [if_neg hzero, follow_of_mem (by omega) (by omega)]
      refine ⟨row - 1, ⟨rfl, by omega, ?_, hle, hlisted.behind⟩, by omega⟩
      exact resetWindow_of_le hwindow (Int.le_refl _)
  | down =>
    rw [processMove_down hlisted hrow hfew, hcount]
    unfold moveCursor
    dsimp only
    by_cases hmore : row + 1 < screenRows totalFiles
    · rw [if_pos hmore, follow_of_mem (by omega) (by omega)]
      refine ⟨row + 1, ⟨rfl, hmore, ?_, hle, hlisted.behind⟩, by omega⟩
      exact resetWindow_of_le hwindow (Int.le_refl _)
    · rw [if_neg hmore]
      by_cases hmany : screenRows totalFiles > windowSize
      · -- one entry further down, if the list has it
        rw [if_pos hmany]
        have hlast : lastEntry totalFiles = totalFiles % windowSize + (windowSize - 1) := by
          unfold screenRows at hmany
          unfold lastEntry
          rw [if_neg (by omega)]
        have hmod := Nat.mod_lt totalFiles (show 0 < windowSize by decide)
        by_cases hend : first + windowSize < lastEntry totalFiles
        · rw [Nat.min_eq_left (by omega), follow_down (by omega)]
          refine ⟨row, ⟨rfl, hrow, ?_, by omega, hlisted.behind⟩, by omega⟩
          unfold resetWindow
          dsimp only
          rw [if_neg (by omega)]
          omega
        · rw [Nat.min_eq_right (by omega), follow_of_mem (by omega) (by omega)]
          refine ⟨row, ⟨rfl, hrow, ?_, hle, hlisted.behind⟩, by omega⟩
          unfold resetWindow
          dsimp only
          rw [if_pos (by omega)]
          omega
      · -- the list is all on the screen
        rw [if_neg hmany]
        have hlast : lastEntry totalFiles = screenRows totalFiles - 1 := by
          unfold screenRows windowSize at hmany
          unfold lastEntry screenRows windowSize
          split <;> omega
        rw [Nat.min_eq_right (by omega), follow_of_mem (by omega) (by omega)]
        refine ⟨row, ⟨rfl, hrow, ?_, hle, hlisted.behind⟩, by omega⟩
        exact resetWindow_of_le hwindow (Int.le_refl _)
  | other =>
    rw [processMove_other hlisted hrow hfew]
    unfold moveCursor
    dsimp only
    rw [follow_of_mem (by omega) (by omega)]
    refine ⟨row, ⟨rfl, hrow, ?_, hle, hlisted.behind⟩, rfl⟩
    exact resetWindow_of_le hwindow (Int.le_refl _)

/-- After all keys the window is where it got following the cursor. -/
theorem Showing.run {totalFiles first row : Nat} {st : MenuState} (moves : List Move)
    (h : Showing totalFiles first row st) :
    ∃ row', Showing totalFiles
      ((cursorPath (lastEntry totalFiles) (first + row) moves).foldl (follow windowSize) first) row'
      (moves.foldl (MenuState.press totalFiles) st) := by
  induction moves generalizing first row st with
  | nil => exact ⟨row, h⟩
  | cons move moves ih =>
    rcases h.press move with ⟨row', hpressed, hcursor⟩
    have hrest := ih hpressed
    rw [hcursor] at hrest
    exact hrest

/-! ## The name that is copied -/

/-- What `options` is before the first frame of the loop. -/
def startOptions (listing : List CString) (options : Nat → UInt8) : Nat → UInt8 :=
  (drawSelectFile listing.length 0 0 (defOpt options).options).2.options

/-- The state with which the loop of `PROCESS_MENU` begins. -/
def menuStart (listing : List CString) (options : Nat → UInt8) : MenuState where
  selected := calcFirstOption (startOptions listing options)
  window := (drawSelectFile listing.length 0 0 (defOpt options).options).1
  options := startOptions listing options

/-- After the keys and confirm a name is copied, and it is that of the entry in yellow. -/
def ShownIsCopied (listing : List CString) (options : Nat → UInt8) (moves : List Move) : Prop :=
  ∃ shown index output,
    doSelectFile listing options (moves.map .move ++ [.confirm]) =
      some (.selected shown index output) ∧
    ∃ row ∈ shown, row.highlighted = true ∧ row.entry = index ∧
      output = entryName listing row.entry

/-- The cursor has been at the first name since it was last beyond the first screen. -/
def CursorHome (totalFiles : Nat) (moves : List Move) : Prop :=
  Home windowSize (cursorPath (lastEntry totalFiles) 0 moves)

/-- The frame before the loop is drawn from the top. -/
theorem beforeLoop_showing {totalFiles : Nat} (hfull : totalFiles % windowSize ≠ 0)
    {options : Nat → UInt8} (hbehind : options sizeofOptions ≠ 1) :
    Showing totalFiles 0 0 ⟨0, 0, (defOpt options).options⟩ := by
  -- an empty listing is one of the excluded lengths
  have hsome : 0 < totalFiles := by
    by_contra hnone
    have hzero : totalFiles = 0 := by omega
    rw [hzero] at hfull
    exact hfull rfl
  have hrow : 0 < screenRows totalFiles := by
    unfold screenRows windowSize
    omega
  have hfits : 0 + (screenRows totalFiles - 1) ≤ lastEntry totalFiles := by
    unfold screenRows lastEntry windowSize at *
    split <;> omega
  have htop : resetWindow totalFiles 0 = ((0 : Nat) : Int) := by
    unfold resetWindow windowSize at *
    rw [if_neg (by omega)]
    rfl
  have hcleared : (defOpt options).options sizeofOptions ≠ 1 := by
    rw [defOpt_behind]
    exact hbehind
  exact ⟨rfl, hrow, htop, hfits, hcleared⟩

/-- The loop begins at the top with the first name. -/
theorem menuStart_showing {listing : List CString} (hfull : listing.length % windowSize ≠ 0)
    {options : Nat → UInt8} (hbehind : options sizeofOptions ≠ 1) :
    Showing listing.length 0 0 (menuStart listing options) := by
  have hbefore := beforeLoop_showing hfull hbehind
  rcases drawSelectFile_listed hbefore with ⟨hfirst, -, hlisted⟩
  refine ⟨?_, hbefore.row_lt, ?_, hbefore.first_le, hlisted.behind⟩
  · exact congrArg Int.ofNat (hlisted.rowsSet.calcFirstOption hbefore.row_lt)
  · unfold menuStart
    dsimp only at hfirst ⊢
    rw [hfirst]
    exact hbefore.window

theorem shownIsCopied_top_iff {listing : List CString} (hfiles : listing ≠ [])
    (options : Nat → UInt8) (moves : List Move) :
    ShownIsCopied listing options moves ↔
      let st := moves.foldl (MenuState.press listing.length) (menuStart listing options)
      resetWindow listing.length st.window = 0 ∧ 0 ≤ st.selected ∧
        st.selected < rowCount (windowSize + 1) listing.length 0 := by
  have hsome : ¬ listing.length ≤ 0 := by
    intro hle
    exact hfiles (List.length_eq_zero_iff.mp (Nat.le_zero.mp hle))
  have hchoice : doSelectFile listing options (moves.map .move ++ [.confirm]) =
      let st := moves.foldl (MenuState.press listing.length) (menuStart listing options)
      some (.selected (st.shown listing.length) st.selected (entryName listing st.selected)) := by
    have hmenu := processMenu_confirm listing.length moves (menuStart listing options)
    unfold doSelectFile
    rw [if_neg hsome]
    exact congrArg (Option.map _) hmenu
  unfold ShownIsCopied
  rw [hchoice]
  dsimp only
  rw [← shown_selected_iff listing.length _ _
    (moves.foldl (MenuState.press listing.length) (menuStart listing options)).options]
  constructor
  · rintro ⟨shown, index, output, heq, row, hrow, hyellow, hentry, -⟩
    cases heq
    exact ⟨row, hrow, hyellow, hentry⟩
  · rintro ⟨row, hrow, hyellow, hentry⟩
    refine ⟨_, _, _, rfl, row, hrow, hyellow, hentry, ?_⟩
    rw [hentry]

theorem shownIsCopied_home_iff {listing : List CString} (hfull : listing.length % windowSize ≠ 0)
    {options : Nat → UInt8} (hbehind : options sizeofOptions ≠ 1) (moves : List Move) :
    ShownIsCopied listing options moves ↔ CursorHome listing.length moves := by
  have hfiles : listing ≠ [] := by
    rintro rfl
    exact hfull rfl
  have hhome := foldl_follow_eq_zero_iff windowSize
    (cursorPath (lastEntry listing.length) 0 moves)
  have hcount := rowCount_screenRows (menuStart_showing hfull hbehind).first_le
  rcases (menuStart_showing hfull hbehind).run moves with ⟨row, hshowing⟩
  have hrow := hshowing.row_lt
  rw [Int.natCast_zero] at hcount
  rw [shownIsCopied_top_iff hfiles]
  dsimp only
  rw [hshowing.window, hshowing.selected, hcount]
  unfold CursorHome
  rw [← hhome]
  constructor
  · rintro ⟨htop, -⟩
    exact Int.ofNat.inj htop
  · intro htop
    exact ⟨congrArg Int.ofNat htop, by omega, by omega⟩

/-- A list of 19, 38, ... names never is at its top. -/
theorem not_shownIsCopied_multiple {listing : List CString} (hfiles : listing ≠ [])
    (hmultiple : listing.length % windowSize = 0) (options : Nat → UInt8) (moves : List Move) :
    ¬ ShownIsCopied listing options moves := by
  rw [shownIsCopied_top_iff hfiles]
  rintro ⟨htop, -⟩
  unfold resetWindow at htop
  split at htop <;> omega

/-- The name that is copied is the one in yellow exactly where the number of names is no
multiple of 19 and the cursor has come home since it left the first screen. -/
theorem shownIsCopied_iff {listing : List CString} (hfiles : listing ≠ []) {options : Nat → UInt8}
    (hbehind : options sizeofOptions ≠ 1) (moves : List Move) :
    ShownIsCopied listing options moves ↔
      listing.length % windowSize ≠ 0 ∧ CursorHome listing.length moves := by
  by_cases hfull : listing.length % windowSize = 0
  · refine iff_of_false (not_shownIsCopied_multiple hfiles hfull options moves) ?_
    exact fun h => h.1 hfull
  · rw [shownIsCopied_home_iff hfull hbehind]
    constructor
    · intro h
      exact ⟨hfull, h⟩
    · exact fun h => h.2

/-- "a", "b", ... -/
def letterNames (n : Nat) : List CString :=
  (List.range n).map fun i => CString.ofBytes [UInt8.ofNat (0x61 + i)]

theorem shownIsCopied_iff_twoNames :
    ShownIsCopied (letterNames 2) (fun _ => 0) [.down] ↔
      (letterNames 2).length % windowSize ≠ 0 ∧ CursorHome (letterNames 2).length [.down] :=
  shownIsCopied_iff (by decide) (by decide) [.down]

/-- With 21 names, "u" is in yellow at the end, and "t" is copied. -/
theorem not_shownIsCopied_scrolled :
    ¬ ShownIsCopied (letterNames 21) (fun _ => 0) (List.replicate 20 .down) := by
  rw [shownIsCopied_home_iff (by decide) (by decide)]
  intro hhome
  have hafter := hhome (List.range' 1 19) 20 [] (by decide) (by decide)
  cases hafter

end GcToolKit.App
