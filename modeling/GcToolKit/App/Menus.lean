import Mathlib.Data.List.GetD
import GcToolKit.App.SelectFile

/-!
# Choosing an option (app/menu.c)

Every menu is `PROCESS_MENU` with a function that draws it. The function sets a byte of
`options` for each of its options, 1 where the option is enabled; the keys move `selected`
over these bytes. A frame with a gap stops the search on a byte that is not set, or
outside the array, and the tests for the first and the last option repair that.

* `processMove_enabled` — a key leads from an enabled option to an enabled option;
* `menuLoop_enabled` — so do all keys, when every frame sets the same bytes;
* `drawOptions_sets` — the menus that are lists of conditions do;
* `doGcOptions_enabled` — no section is chosen that the cart does not have.
-/

namespace GcToolKit.App

/-! ## PROCESS_MENU -/

/-- A function that draws a menu, of `selected`, `window` and the array `options`. -/
abbrev Draw := Int → Int → (Nat → UInt8) → Int × Screen

inductive MenuChoice where
  | canceled
  | selected (index : Int)

section ProcessMenu

variable (draw : Draw)

/-- A frame and a key that moves. -/
def pressMove (st : MenuState) (move : Move) : MenuState :=
  let (window, screen) := draw st.selected st.window st.options
  let (selected, window) := processMove move screen st.selected window
  ⟨selected, window, screen.options⟩

/-- The loop as far as there are keys: the states before each key, and how it ends. -/
def menuLoop : List Key → MenuState → List MenuState × Option MenuChoice
  | [], st => ([st], none)
  | .cancel :: _, st => ([st], some .canceled)
  | .confirm :: _, st => ([st], some (.selected st.selected))
  | .move move :: keys, st =>
    let (states, choice) := menuLoop keys (pressMove draw st move)
    (st :: states, choice)

/-- The frame before the loop, which only finds the first option. -/
def firstFrame (options : Nat → UInt8) : Int × Screen := draw 0 0 (defOpt options).options

def startMenu (options : Nat → UInt8) : MenuState :=
  let (window, screen) := firstFrame draw options
  ⟨calcFirstOption screen.options, window, screen.options⟩

/-- `options` is the memory from the array on. -/
def processMenuWith (options : Nat → UInt8) (keys : List Key) :
    List MenuState × Option MenuChoice :=
  menuLoop draw keys (startMenu draw options)

/-- The frames of a menu. -/
def frames (options : Nat → UInt8) (keys : List Key) : List Screen :=
  (firstFrame draw options).2 ::
    (processMenuWith draw options keys).1.map fun st => (draw st.selected st.window st.options).2

end ProcessMenu

/-! ## The menus of conditions -/

/-- `ADDOPT` -/
def addOptIf (cond : Bool) (selected : Int) (screen : Screen) : Screen :=
  if cond then addOpt screen.option selected screen
  else
    { screen with
      options := Function.update screen.options screen.option 0
      option := screen.option + 1 }

/-- A menu with these options; it leaves the window. -/
def drawOptions (conds : List Bool) : Draw := fun selected window options =>
  (window, conds.foldl (fun screen cond => addOptIf cond selected screen) (defOpt options))

def drawSelectBackupFormat : Draw := drawOptions [true, true, true, true, true]

def drawGcOptions (hasGrw0 hasMediaid : Bool) : Draw :=
  drawOptions
    [true, true, hasMediaid, hasMediaid, hasMediaid, hasGrw0, hasGrw0, hasGrw0, true]

def drawSelectInputLocation (haveUx0 haveXmc haveUsb haveHost0 : Bool) : Draw :=
  drawOptions [haveUx0, haveXmc, haveUsb, haveHost0, true]

def drawSelectOutputLocation (haveUx0 haveXmc haveUsb haveHost0 saveNetwork : Bool) : Draw :=
  drawOptions [haveUx0, haveXmc, haveUsb, haveHost0, saveNetwork, true, true]

def drawNetworkSettings : Draw := drawOptions [true, true, true]

def drawFormatConfirmMenu : Draw := drawOptions [true, true, true]

/-! ## Masks -/

/-- Which options a menu has; it has at least one. -/
structure Mask where
  enabled : Nat → Bool
  exists_enabled : ∃ i < sizeofOptions, enabled i = true

/-- An option of the mask. -/
def Mask.EnabledAt (mask : Mask) (selected : Int) : Prop :=
  ∃ i < sizeofOptions, selected = (i : Int) ∧ mask.enabled i = true

/-- The array holds the mask. -/
def Mask.SetIn (mask : Mask) (options : Nat → UInt8) : Prop :=
  ∀ i < sizeofOptions, options i = if mask.enabled i then 1 else 0

section Scans

variable {options : Nat → UInt8}

theorem firstOptionFrom_spec {i : Nat} (hsize : i < sizeofOptions) (hset : options i = 1)
    {n first : Nat} (hfirst : first ≤ i) (hn : i < first + n) :
    options (firstOptionFrom options n first) = 1 ∧ firstOptionFrom options n first ≤ i := by
  induction n generalizing first with
  | zero => omega
  | succ n ih =>
    rw [firstOptionFrom]
    by_cases hmore : options first ≠ 1 ∧ first < sizeofOptions
    · rw [if_pos hmore]
      -- the option `i` is further on
      have hne : first ≠ i := by
        rintro rfl
        exact hmore.1 hset
      exact ih (by omega) (by omega)
    · rw [if_neg hmore]
      have hone : options first = 1 := by
        by_contra hne
        exact hmore ⟨hne, by omega⟩
      exact ⟨hone, hfirst⟩

theorem lastOptionFrom_spec {i : Nat} (hset : options i = 1) {last : Nat} (hlast : i ≤ last) :
    options (lastOptionFrom options last) = 1 ∧ i ≤ lastOptionFrom options last ∧
      lastOptionFrom options last ≤ last := by
  induction last with
  | zero =>
    have hzero : i = 0 := by omega
    subst hzero
    exact ⟨hset, Nat.le_refl _, Nat.le_refl _⟩
  | succ last ih =>
    rw [lastOptionFrom]
    by_cases hmore : options (last + 1) ≠ 1
    · rw [if_pos hmore]
      have hne : i ≠ last + 1 := by
        rintro rfl
        exact hmore hset
      rcases ih (by omega) with ⟨hone, hle, hle'⟩
      exact ⟨hone, hle, by omega⟩
    · rw [if_neg hmore]
      exact ⟨not_not.mp hmore, hlast, Nat.le_refl _⟩

theorem skipUp_spec (options : Nat → UInt8) (selected : Nat) :
    skipUp options selected ≤ selected ∧
      (skipUp options selected = 0 ∨ options (skipUp options selected) ≠ 0) := by
  induction selected with
  | zero => exact ⟨Nat.le_refl _, Or.inl rfl⟩
  | succ selected ih =>
    rw [skipUp]
    by_cases hzero : options (selected + 1) = 0
    · rw [if_pos hzero]
      exact ⟨by omega, ih.2⟩
    · rw [if_neg hzero]
      exact ⟨Nat.le_refl _, Or.inr hzero⟩

theorem skipDown_spec (options : Nat → UInt8) {n selected : Nat}
    (hn : sizeofOptions ≤ selected + n) :
    selected ≤ skipDown options n selected ∧
      (sizeofOptions ≤ skipDown options n selected ∨
        options (skipDown options n selected) ≠ 0) := by
  induction n generalizing selected with
  | zero => exact ⟨Nat.le_refl _, Or.inl hn⟩
  | succ n ih =>
    rw [skipDown]
    by_cases hmore : selected < sizeofOptions ∧ options selected = 0
    · rw [if_pos hmore]
      have hrest : sizeofOptions ≤ selected + 1 + n := by omega
      rcases ih hrest with ⟨hle, hend⟩
      exact ⟨by omega, hend⟩
    · rw [if_neg hmore]
      refine ⟨Nat.le_refl _, ?_⟩
      by_cases hsize : selected < sizeofOptions
      · exact Or.inr fun hzero => hmore ⟨hsize, hzero⟩
      · exact Or.inl (by omega)

end Scans

section Enabled

variable {mask : Mask} {options : Nat → UInt8} (hset : mask.SetIn options)

include hset

theorem Mask.SetIn.eq_one_iff {i : Nat} (hi : i < sizeofOptions) :
    options i = 1 ↔ mask.enabled i = true := by
  rw [hset i hi]
  cases mask.enabled i <;> decide

theorem Mask.SetIn.enabled_of_ne_zero {i : Nat} (hi : i < sizeofOptions) (hne : options i ≠ 0) :
    mask.EnabledAt i := by
  refine ⟨i, hi, rfl, ?_⟩
  rw [hset i hi] at hne
  by_contra hdisabled
  rw [if_neg hdisabled] at hne
  exact hne rfl

/-- The first option is enabled, and none before it is. -/
theorem Mask.SetIn.calcFirstOption :
    mask.EnabledAt (calcFirstOption options) ∧
      ∀ selected, mask.EnabledAt selected → (calcFirstOption options : Int) ≤ selected := by
  have hspec {i : Nat} (hi : i < sizeofOptions) (henabled : mask.enabled i = true) :=
    firstOptionFrom_spec hi ((hset.eq_one_iff hi).mpr henabled) (n := sizeofOptions + 1)
      (Nat.zero_le i) (by omega)
  rcases mask.exists_enabled with ⟨i, hi, henabled⟩
  rcases hspec hi henabled with ⟨hone, hle⟩
  have hsize : App.calcFirstOption options < sizeofOptions := Nat.lt_of_le_of_lt hle hi
  refine ⟨⟨_, hsize, rfl, (hset.eq_one_iff hsize).mp hone⟩, ?_⟩
  rintro selected ⟨j, hj, rfl, hjenabled⟩
  exact Int.ofNat_le.mpr (hspec hj hjenabled).2

/-- The last option is enabled, and none behind it is: the byte it starts from is not 1. -/
theorem Mask.SetIn.calcLastOption (hbehind : options sizeofOptions ≠ 1) :
    mask.EnabledAt (calcLastOption options) ∧
      ∀ selected, mask.EnabledAt selected → selected ≤ (calcLastOption options : Int) := by
  have hspec {i : Nat} (hi : i < sizeofOptions) (henabled : mask.enabled i = true) :=
    lastOptionFrom_spec ((hset.eq_one_iff hi).mpr henabled) (Nat.le_of_lt hi)
  rcases mask.exists_enabled with ⟨i, hi, henabled⟩
  rcases hspec hi henabled with ⟨hone, -, hle⟩
  have hne : App.calcLastOption options ≠ sizeofOptions := by
    intro heq
    rw [← heq] at hbehind
    exact hbehind hone
  have hsize : App.calcLastOption options < sizeofOptions := Nat.lt_of_le_of_ne hle hne
  refine ⟨⟨_, hsize, rfl, (hset.eq_one_iff hsize).mp hone⟩, ?_⟩
  rintro selected ⟨j, hj, rfl, hjenabled⟩
  exact Int.ofNat_le.mpr (hspec hj hjenabled).2.1

/-- Up leads to an enabled option, or to the start of the array or before it. -/
theorem Mask.SetIn.pressUp {selected : Int} (hselected : mask.EnabledAt selected) :
    mask.EnabledAt (pressUp options selected) ∨ pressUp options selected ≤ 0 := by
  rcases hselected with ⟨i, hi, rfl, -⟩
  unfold App.pressUp
  by_cases hmore : (i : Int) - 1 > 0
  · rw [if_pos hmore]
    rcases skipUp_spec options ((i : Int) - 1).toNat with ⟨hle, hzero | hne⟩
    · right
      rw [hzero]
      exact Int.le_refl 0
    · exact Or.inl (hset.enabled_of_ne_zero (by omega) hne)
  · rw [if_neg hmore]
    exact Or.inr (Int.not_lt.mp hmore)

/-- Down leads to an enabled option, or behind the array. -/
theorem Mask.SetIn.pressDown {selected : Int} (hselected : mask.EnabledAt selected) :
    mask.EnabledAt (pressDown options selected) ∨
      (sizeofOptions : Int) ≤ pressDown options selected := by
  rcases hselected with ⟨i, hi, rfl, -⟩
  unfold App.pressDown
  rw [if_pos (by omega)]
  have hrounds : sizeofOptions ≤ ((i : Int) + 1).toNat + sizeofOptions := by omega
  rcases skipDown_spec options hrounds with ⟨-, hend | hne⟩
  · exact Or.inr (Int.ofNat_le.mpr hend)
  · by_cases hsize : skipDown options sizeofOptions ((i : Int) + 1).toNat < sizeofOptions
    · exact Or.inl (hset.enabled_of_ne_zero hsize hne)
    · exact Or.inr (by omega)

end Enabled

/-! ## One key, all keys -/

/-- Where the search a key starts stops. -/
def searched (options : Nat → UInt8) (selected : Int) : Move → Int
  | .up => pressUp options selected
  | .down => pressDown options selected
  | .other => selected

/-- After the search a round does what it does for a key that is no move. -/
theorem processMove_searched (move : Move) (screen : Screen) (selected window : Int) :
    processMove move screen selected window =
      processMove .other screen (searched screen.options selected move) window := by
  cases move <;> rfl

/-- The two tests put `selected` between the first and the last option. -/
theorem processMove_selected (move : Move) (screen : Screen) (selected window : Int) :
    (processMove move screen selected window).1 =
      max (calcFirstOption screen.options : Int)
        (min (searched screen.options selected move) (calcLastOption screen.options)) := by
  rw [processMove_searched]
  generalize searched screen.options selected move = moved
  unfold processMove
  dsimp only
  by_cases hlast : moved > (calcLastOption screen.options : Int)
  · rw [if_pos hlast]
    dsimp only
    by_cases hfirst : (calcLastOption screen.options : Int) < calcFirstOption screen.options
    · rw [if_pos hfirst]
      omega
    · rw [if_neg hfirst]
      omega
  · rw [if_neg hlast]
    dsimp only
    by_cases hfirst : moved < (calcFirstOption screen.options : Int)
    · rw [if_pos hfirst]
      omega
    · rw [if_neg hfirst]
      omega

/-- A key leads from an enabled option to an enabled option. -/
theorem processMove_enabled {mask : Mask} {screen : Screen} (hset : mask.SetIn screen.options)
    (hbehind : screen.options sizeofOptions ≠ 1) {selected : Int}
    (hselected : mask.EnabledAt selected) (move : Move) (window : Int) :
    mask.EnabledAt (processMove move screen selected window).1 := by
  rcases hset.calcFirstOption with ⟨hfirst, hfirst_le⟩
  rcases hset.calcLastOption hbehind with ⟨hlast, hle_last⟩
  have hordered := hfirst_le _ hlast
  have hlast_lt : (calcLastOption screen.options : Int) < sizeofOptions := by
    rcases hlast with ⟨i, hi, heq, -⟩
    omega
  -- where the search stops on no option, it is beyond the first or the last
  have hsearched : mask.EnabledAt (searched screen.options selected move) ∨
      searched screen.options selected move ≤ 0 ∨
        (sizeofOptions : Int) ≤ searched screen.options selected move := by
    cases move with
    | up =>
      rcases hset.pressUp hselected with henabled | hstart
      · exact Or.inl henabled
      · exact Or.inr (Or.inl hstart)
    | down =>
      rcases hset.pressDown hselected with henabled | hend
      · exact Or.inl henabled
      · exact Or.inr (Or.inr hend)
    | other => exact Or.inl hselected
  rw [processMove_selected]
  rcases hsearched with henabled | hstart | hend
  · rw [Int.min_eq_left (hle_last _ henabled), Int.max_eq_right (hfirst_le _ henabled)]
    exact henabled
  · rw [Int.max_eq_left (by omega)]
    exact hfirst
  · rw [Int.min_eq_right (by omega), Int.max_eq_right hordered]
    exact hlast

/-- In a menu that has set the mask so far, what holds of every frame from now on. -/
theorem menuLoop_enabled {draw : Draw} {mask : Mask} {keys : List Key} {st : MenuState}
    (hselected : mask.EnabledAt st.selected)
    (hset : ∀ before ∈ (menuLoop draw keys st).1,
      mask.SetIn (draw before.selected before.window before.options).2.options)
    (hbehind : ∀ before ∈ (menuLoop draw keys st).1,
      (draw before.selected before.window before.options).2.options sizeofOptions ≠ 1) :
    (∀ before ∈ (menuLoop draw keys st).1, mask.EnabledAt before.selected) ∧
      ∀ index, (menuLoop draw keys st).2 = some (.selected index) → mask.EnabledAt index := by
  induction keys generalizing st with
  | nil => exact ⟨List.forall_mem_singleton.mpr hselected, fun index hend => by cases hend⟩
  | cons key keys ih =>
    cases key with
    | cancel => exact ⟨List.forall_mem_singleton.mpr hselected, fun index hend => by cases hend⟩
    | confirm =>
      refine ⟨List.forall_mem_singleton.mpr hselected, ?_⟩
      intro index hend
      cases hend
      exact hselected
    | move move =>
      -- the next state is where an option is, for the frame that was drawn set the mask
      have hpressed : mask.EnabledAt (pressMove draw st move).selected :=
        processMove_enabled (hset st List.mem_cons_self) (hbehind st List.mem_cons_self)
          hselected move _
      rcases ih hpressed (fun before hmem => hset before (List.mem_cons_of_mem _ hmem))
        (fun before hmem => hbehind before (List.mem_cons_of_mem _ hmem)) with ⟨hstates, hchoice⟩
      refine ⟨?_, hchoice⟩
      intro before hmem
      rcases List.mem_cons.mp hmem with rfl | hmem
      · exact hselected
      · exact hstates before hmem

/-- The menu begins with the first option. -/
theorem startMenu_enabled {draw : Draw} {mask : Mask} {options : Nat → UInt8}
    (hset : mask.SetIn (firstFrame draw options).2.options) :
    mask.EnabledAt (startMenu draw options).selected := hset.calcFirstOption.1

/-- Confirm ends the menu. -/
theorem menuLoop_confirm (draw : Draw) (moves : List Move) (rest : List Key) (st : MenuState) :
    (menuLoop draw (moves.map .move ++ .confirm :: rest) st).2 =
      some (.selected (moves.foldl (pressMove draw) st).selected) := by
  induction moves generalizing st with
  | nil => rfl
  | cons move moves ih => exact ih (pressMove draw st move)

/-- Only confirm selects. -/
theorem keys_of_menuLoop_selected {draw : Draw} {keys : List Key} {st : MenuState} {index : Int}
    (h : (menuLoop draw keys st).2 = some (.selected index)) :
    ∃ (moves : List Move) (rest : List Key), keys = moves.map .move ++ .confirm :: rest := by
  induction keys generalizing st with
  | nil => cases h
  | cons key keys ih =>
    cases key with
    | cancel => cases h
    | confirm => exact ⟨[], keys, rfl⟩
    | move move =>
      rcases ih h with ⟨moves, rest, rfl⟩
      exact ⟨move :: moves, rest, rfl⟩

/-- With the same mask in every frame `selected` is on an enabled option after every key,
and confirm returns such an option. -/
theorem processMenuWith_enabled {draw : Draw} {mask : Mask} {options : Nat → UInt8}
    {keys : List Key} (hset : ∀ screen ∈ frames draw options keys, mask.SetIn screen.options)
    (hbehind : ∀ screen ∈ frames draw options keys, screen.options sizeofOptions ≠ 1) :
    (∀ st ∈ (processMenuWith draw options keys).1, mask.EnabledAt st.selected) ∧
      (∀ index, (processMenuWith draw options keys).2 = some (.selected index) →
        mask.EnabledAt index) ∧
      ∀ (moves : List Move) rest, keys = moves.map .move ++ .confirm :: rest →
        ∃ index, (processMenuWith draw options keys).2 = some (.selected index) := by
  have hstart := startMenu_enabled (hset _ List.mem_cons_self)
  have hframe {st : MenuState} (hst : st ∈ (processMenuWith draw options keys).1) :
      (draw st.selected st.window st.options).2 ∈ frames draw options keys :=
    List.mem_cons_of_mem _ (List.mem_map.mpr ⟨st, hst, rfl⟩)
  rcases menuLoop_enabled hstart (fun st hst => hset _ (hframe hst))
    (fun st hst => hbehind _ (hframe hst)) with ⟨hstates, hchoice⟩
  refine ⟨hstates, hchoice, ?_⟩
  rintro moves rest rfl
  exact ⟨_, menuLoop_confirm draw moves rest _⟩

/-! ## The menus of the program -/

theorem foldl_addOptIf_options (conds : List Bool) (selected : Int) (screen : Screen) (j : Nat) :
    (conds.foldl (fun screen cond => addOptIf cond selected screen) screen).options j =
      if screen.option ≤ j ∧ j < screen.option + conds.length then
        if conds.getD (j - screen.option) false then 1 else 0
      else screen.options j := by
  induction conds generalizing screen with
  | nil =>
    rw [List.foldl_nil, List.length_nil, if_neg (by omega)]
  | cons cond conds ih =>
    have hoption : (addOptIf cond selected screen).option = screen.option + 1 := by
      unfold addOptIf
      split <;> rfl
    have hoptions : (addOptIf cond selected screen).options =
        Function.update screen.options screen.option (if cond then 1 else 0) := by
      unfold addOptIf
      split <;> rfl
    rw [List.foldl_cons, ih, hoption, hoptions, List.length_cons]
    -- the first condition sets its own option, the rest those behind it
    by_cases hj : j = screen.option
    · subst hj
      have hhere : screen.option ≤ screen.option ∧
          screen.option < screen.option + (conds.length + 1) := by omega
      rw [if_neg (by omega), Function.update_self, if_pos hhere, Nat.sub_self,
        List.getD_cons_zero]
    · rw [Function.update_of_ne hj]
      by_cases hmore : screen.option + 1 ≤ j ∧ j < screen.option + 1 + conds.length
      · have hbehind : screen.option ≤ j ∧ j < screen.option + (conds.length + 1) := by omega
        have hnext : j - screen.option = j - (screen.option + 1) + 1 := by omega
        rw [if_pos hmore, if_pos hbehind, hnext, List.getD_cons_succ]
      · rw [if_neg hmore, if_neg (by omega)]

section Conditions

variable {conds : List Bool} {options : Nat → UInt8}

/-- A menu of conditions sets the same mask in every frame. -/
theorem drawOptions_sets {mask : Mask}
    (hmask : ∀ i < sizeofOptions, mask.enabled i = conds.getD i false) (selected window : Int)
    (options : Nat → UInt8) : mask.SetIn (drawOptions conds selected window options).2.options := by
  intro i hi
  unfold drawOptions
  dsimp only
  rw [foldl_addOptIf_options, hmask i hi]
  change (if 0 ≤ i ∧ i < 0 + conds.length then _ else if i < sizeofOptions then 0 else _) = _
  by_cases hmore : i < conds.length
  · rw [if_pos (by omega)]
    rfl
  · rw [if_neg (by omega), if_pos hi, List.getD_eq_default _ _ (by omega)]
    rfl

/-- It leaves the byte behind the array. -/
theorem drawOptions_behind (hlength : conds.length ≤ sizeofOptions) (selected window : Int)
    (hbehind : options sizeofOptions ≠ 1) :
    (drawOptions conds selected window options).2.options sizeofOptions ≠ 1 := by
  unfold drawOptions
  dsimp only
  rw [foldl_addOptIf_options]
  change (if 0 ≤ sizeofOptions ∧ sizeofOptions < 0 + conds.length then _
    else if sizeofOptions < sizeofOptions then 0 else _) ≠ _
  rw [if_neg (by omega), if_neg (Nat.lt_irrefl _)]
  exact hbehind

theorem menuLoop_drawOptions_behind (hlength : conds.length ≤ sizeofOptions) {keys : List Key}
    {st : MenuState} (hbehind : st.options sizeofOptions ≠ 1) {before : MenuState}
    (hmem : before ∈ (menuLoop (drawOptions conds) keys st).1) :
    before.options sizeofOptions ≠ 1 := by
  induction keys generalizing st with
  | nil =>
    rw [List.mem_singleton.mp hmem]
    exact hbehind
  | cons key keys ih =>
    cases key with
    | cancel =>
      rw [List.mem_singleton.mp hmem]
      exact hbehind
    | confirm =>
      rw [List.mem_singleton.mp hmem]
      exact hbehind
    | move move =>
      rcases List.mem_cons.mp hmem with rfl | hmem
      · exact hbehind
      · exact ih (drawOptions_behind hlength st.selected st.window hbehind) hmem

/-- So it does in all frames of a menu. -/
theorem frames_drawOptions {mask : Mask}
    (hmask : ∀ i < sizeofOptions, mask.enabled i = conds.getD i false)
    (hlength : conds.length ≤ sizeofOptions) (hbehind : options sizeofOptions ≠ 1)
    (keys : List Key) :
    ∀ screen ∈ frames (drawOptions conds) options keys,
      mask.SetIn screen.options ∧ screen.options sizeofOptions ≠ 1 := by
  have hcleared : (defOpt options).options sizeofOptions ≠ 1 := by
    rw [defOpt_behind]
    exact hbehind
  intro screen hscreen
  rcases List.mem_cons.mp hscreen with rfl | hscreen
  · exact ⟨drawOptions_sets hmask _ _ _, drawOptions_behind hlength _ _ hcleared⟩
  · rcases List.mem_map.mp hscreen with ⟨st, hst, rfl⟩
    have hstart := drawOptions_behind hlength 0 0 hcleared
    exact ⟨drawOptions_sets hmask _ _ _,
      drawOptions_behind hlength _ _ (menuLoop_drawOptions_behind hlength hstart hst)⟩

end Conditions

theorem sizeofOptions_pos : 0 < sizeofOptions := Nat.succ_pos _

/-- The options for a cart with these sections. -/
def gcMask (hasGrw0 hasMediaid : Bool) : Mask where
  enabled i :=
    [true, true, hasMediaid, hasMediaid, hasMediaid, hasGrw0, hasGrw0, hasGrw0, true].getD i false
  exists_enabled := ⟨0, sizeofOptions_pos, rfl⟩

/-- `device_exist` of the two sections tells which options there are. -/
def doGcOptions (hasGrw0 hasMediaid : Bool) (options : Nat → UInt8) (keys : List Key) :
    Option MenuChoice :=
  (processMenuWith (drawGcOptions hasGrw0 hasMediaid) options keys).2

theorem frames_drawGcOptions (hasGrw0 hasMediaid : Bool) {options : Nat → UInt8}
    (hbehind : options sizeofOptions ≠ 1) (keys : List Key) :
    ∀ screen ∈ frames (drawGcOptions hasGrw0 hasMediaid) options keys,
      (gcMask hasGrw0 hasMediaid).SetIn screen.options ∧ screen.options sizeofOptions ≠ 1 := by
  have hlength : [true, true, hasMediaid, hasMediaid, hasMediaid, hasGrw0, hasGrw0, hasGrw0,
      true].length ≤ sizeofOptions := by
    change 9 ≤ sizeofOptions
    decide
  exact frames_drawOptions (fun i _ => rfl) hlength hbehind keys

theorem processMenuWith_enabled_twice_down :
    (∀ st ∈ (processMenuWith (drawGcOptions true false) (fun _ => 0)
        [.move .down, .move .down, .confirm]).1, (gcMask true false).EnabledAt st.selected) ∧
      (∀ index, (processMenuWith (drawGcOptions true false) (fun _ => 0)
        [.move .down, .move .down, .confirm]).2 = some (.selected index) →
          (gcMask true false).EnabledAt index) ∧
      ∀ (moves : List Move) rest,
        [Key.move .down, .move .down, .confirm] = moves.map .move ++ .confirm :: rest →
          ∃ index, (processMenuWith (drawGcOptions true false) (fun _ => 0)
            [.move .down, .move .down, .confirm]).2 = some (.selected index) := by
  have hframes : ∀ screen ∈ frames (drawGcOptions true false) (fun _ => 0)
      [.move .down, .move .down, .confirm],
      (gcMask true false).SetIn screen.options ∧ screen.options sizeofOptions ≠ 1 :=
    frames_drawGcOptions true false (by decide) _
  exact processMenuWith_enabled (fun screen hscreen => (hframes screen hscreen).1)
    fun screen hscreen => (hframes screen hscreen).2

/-- No section is chosen that the cart does not have. -/
theorem doGcOptions_enabled {hasGrw0 hasMediaid : Bool} {options : Nat → UInt8}
    (hbehind : options sizeofOptions ≠ 1) {keys : List Key} {index : Int}
    (hchoice : doGcOptions hasGrw0 hasMediaid options keys = some (.selected index)) :
    0 ≤ index ∧ index ≤ 8 ∧ (2 ≤ index → index ≤ 4 → hasMediaid = true) ∧
      (5 ≤ index → index ≤ 7 → hasGrw0 = true) := by
  have hframes := frames_drawGcOptions hasGrw0 hasMediaid hbehind keys
  have hframe {st : MenuState}
      (hst : st ∈ (processMenuWith (drawGcOptions hasGrw0 hasMediaid) options keys).1) :=
    hframes _ (List.mem_cons_of_mem _ (List.mem_map.mpr ⟨st, hst, rfl⟩))
  have hstart := startMenu_enabled (hframes _ List.mem_cons_self).1
  rcases (menuLoop_enabled hstart (fun st hst => (hframe hst).1)
    (fun st hst => (hframe hst).2)).2 index hchoice with ⟨i, -, rfl, henabled⟩
  unfold gcMask at henabled
  match i, henabled with
  | 0, _ | 1, _ | 8, _ => omega
  | 2, henabled | 3, henabled | 4, henabled => exact ⟨by omega, by omega, fun _ _ => henabled, by omega⟩
  | 5, henabled | 6, henabled | 7, henabled => exact ⟨by omega, by omega, by omega, fun _ _ => henabled⟩
  | i + 9, henabled => cases henabled

/-! ## The list of files -/

/-- How a menu of files ends, without the last frame. -/
def MenuEnd.choice : MenuEnd → MenuChoice
  | .canceled => .canceled
  | .confirmed _ selected => .selected selected

/-- `processMenu` is the menu that is drawn with `draw_select_file`. -/
theorem processMenu_eq_menuLoop (totalFiles : Nat) (keys : List Key) (st : MenuState) :
    (processMenu totalFiles keys st.selected st.window st.options).map MenuEnd.choice =
      (menuLoop (drawSelectFile totalFiles) keys st).2 := by
  induction keys generalizing st with
  | nil => rfl
  | cons key keys ih =>
    cases key with
    | cancel => rfl
    | confirm => rfl
    | move move => exact ih (pressMove (drawSelectFile totalFiles) st move)

end GcToolKit.App
