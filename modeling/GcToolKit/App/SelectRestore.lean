import GcToolKit.App.FolderFiles
import GcToolKit.App.Menus
import GcToolKit.App.SetOutput

/-!
# Restoring a file (app/main.c, app/menu.c)

After `do_select_file` the test for `OP_CANCELED` has no statement of its own, so the next
test, for an error, is only made of `OP_CANCELED`. With any other error, as that of an
empty folder, `handle_select_file` goes on to restore, with a name that was never set.

* `searched_row` — what a key does to the row, with the byte behind `options` as one more
  row where it is 1;
* `menu_selected` — the index confirm returns, from the keys alone;
* `handleSelectFile_confirmed_iff` — where only a confirmed file is restored.
-/

namespace GcToolKit.App

/-! ## do_select_file -/

/-- `OP_CANCELED` -/
def opCanceled : Int := -9530

/-- The filter for files of the kind that is restored. -/
def fileFilter (extension : CString) (maxSize : UInt64) : SearchFilter where
  maxFilesize := maxSize
  fileOnly := true
  matchExtension := extension.take (maxPathLength - 1)

/-- The result for how the menu ended, and `output` afterwards. -/
def copyChoice (listing : Listing) (output : Vector UInt8 maxPathLength) :
    MenuChoice → Int × Vector UInt8 maxPathLength
  | .canceled => (opCanceled, output)
  | .selected selected =>
    (selected, CString.strncpy output (CString.ofBuffer (listing.outFilenames selected.toNat))
      maxPathLength)

/-- The result, and `output` afterwards. -/
def doSelectFileFrom (folder : Folder) (files : Nat → Vector UInt8 maxPathLength)
    (extension : CString) (maxSize : UInt64) (output : Vector UInt8 maxPathLength)
    (options : Nat → UInt8) (keys : List Key) : Option (Int × Vector UInt8 maxPathLength) :=
  let (res, listing) :=
    getFilesInFolder (some (fileFilter extension maxSize)) folder files sizeofOptions
  if res < 0 then some (res, output)
  else if listing.totalFolders ≤ 0 then some (totalFilesLessThanEq0, output)
  else
    (processMenuWith (drawSelectFile listing.totalFolders) options keys).2.map
      (copyChoice listing output)

/-- The result of `do_select_file` for a menu, and for a list of names. -/
def MenuChoice.result : MenuChoice → Int
  | .canceled => opCanceled
  | .selected index => index

def FileChoice.result : FileChoice → Int
  | .error res => res
  | .canceled => opCanceled
  | .selected _ index _ => index

/-- A list of names is the menu with so many files. -/
theorem doSelectFile_eq_processMenuWith {listing : List CString} (hfiles : listing ≠ [])
    (options : Nat → UInt8) (keys : List Key) :
    (doSelectFile listing options keys).map FileChoice.result =
      (processMenuWith (drawSelectFile listing.length) options keys).2.map MenuChoice.result := by
  have hsome := List.length_pos_iff.mpr hfiles
  have hmenu := processMenu_eq_menuLoop listing.length keys (menuStart listing options)
  have hstart : startMenu (drawSelectFile listing.length) options = menuStart listing options := rfl
  unfold processMenuWith
  rw [hstart, ← hmenu]
  unfold doSelectFile
  rw [if_neg (by omega), Option.map_map, Option.map_map]
  congr 1
  funext choice
  cases choice <;> rfl

/-! ## handle_select_file -/

inductive WriteWhat where
  | writeMediaid
  | writeGrw0
  | other

/-- ".mediaid" -/
def dotMediaid : CString := CString.ofBytes [0x2E, 0x6D, 0x65, 0x64, 0x69, 0x61, 0x69, 0x64]

/-- `block_device` and `extension`, where there is something to restore. -/
def WriteWhat.target : WriteWhat → Option (CString × CString)
  | .writeMediaid => some (blockDeviceOf .mediaId, dotMediaid)
  | .writeGrw0 => some (blockDeviceOf .grw0, dotImg)
  | .other => none

/-- "%s/%s" with room for `MAX_PATH - 2` characters. -/
def inputFile (folder file : CString) : CString :=
  (CString.ofBytes (folder.bytes ++ [0x2F] ++ file.bytes)).take (maxPathLength - 2)

/-- What `do_select_file` returned, the device and the file of `do_device_restore`, and
what the user is told of a failed selection. -/
structure Selection where
  selected : Option Int
  restored : Option (CString × CString)
  error : Option Int

/-- `maxSize` is the size of the device, and `file` what is on the stack. -/
def handleSelectFile (what : WriteWhat) (folderPath : CString) (folder : Folder)
    (files : Nat → Vector UInt8 maxPathLength) (maxSize : UInt64)
    (file : Vector UInt8 maxPathLength) (options : Nat → UInt8) (keys : List Key) :
    Option Selection :=
  match what.target with
  | none => some ⟨none, none, none⟩
  | some (blockDevice, extension) =>
    (doSelectFileFrom folder files extension maxSize file options keys).map
      fun (selected, file) =>
        if selected = opCanceled then
          if selected < 0 then ⟨some selected, none, some selected⟩
          else ⟨some selected, some (blockDevice, inputFile folderPath (CString.ofBuffer file)), none⟩
        else ⟨some selected, some (blockDevice, inputFile folderPath (CString.ofBuffer file)), none⟩

/-! ## The row that is selected -/

/-- The rows of a frame. -/
def menuRows (totalFiles : Nat) : Nat :=
  if totalFiles % windowSize = 0 then windowSize + 1 else min (windowSize + 1) totalFiles

/-- The last place of the cursor; the byte behind the array can be one more option. -/
def lastPlace (rows : Nat) (behind : UInt8) : Nat := if behind = 1 then rows else rows - 1

/-- `selected` for a place of the cursor. -/
def placeIndex (rows place : Nat) : Nat := if place < rows then place else sizeofOptions

section Row

variable {rows place : Nat} {options : Nat → UInt8} (h : RowsSet rows options)

include h

theorem RowsSet.calcLastOption (hrows : 0 < rows) (hle : rows ≤ sizeofOptions) :
    calcLastOption options = placeIndex rows (lastPlace rows (options sizeofOptions)) := by
  unfold placeIndex lastPlace
  by_cases hbehind : options sizeofOptions = 1
  · have hsize : sizeofOptions = 0x1027 + 1 := rfl
    rw [if_pos hbehind, if_neg (Nat.lt_irrefl _)]
    unfold App.calcLastOption
    rw [hsize, lastOptionFrom, if_neg]
    rw [hsize] at hbehind
    exact not_not.mpr hbehind
  · have hlisted : Listed rows options := ⟨h.set, h.clear, hbehind⟩
    rw [if_neg hbehind, if_pos (by omega), hlisted.calcLastOption hrows hle]

/-- Below the last row there is nothing either. -/
theorem RowsSet.skipUp (hrows : 0 < rows) {selected : Nat} (hselected : rows ≤ selected + 1)
    (hlt : selected < sizeofOptions) : skipUp options selected = rows - 1 := by
  induction selected with
  | zero =>
    rw [App.skipUp]
    omega
  | succ selected ih =>
    rw [App.skipUp]
    by_cases hlast : rows = selected + 2
    · have hset := h.set (selected + 1) (by omega)
      rw [hset, if_neg (by decide)]
      omega
    · rw [if_pos (h.clear _ (by omega) hlt)]
      exact ih (by omega) (by omega)

/-- Where the search for a key stops, between the first and the last option. -/
theorem searched_row (hrows : 0 < rows) (hle : rows < sizeofOptions)
    (hplace : place ≤ lastPlace rows (options sizeofOptions)) (move : Move) :
    max (calcFirstOption options : Int)
        (min (searched options (placeIndex rows place) move) (calcLastOption options)) =
      placeIndex rows (moveCursor (lastPlace rows (options sizeofOptions)) move place) := by
  rw [h.calcFirstOption hrows, h.calcLastOption hrows (Nat.le_of_lt hle)]
  have hlast : placeIndex rows (lastPlace rows (options sizeofOptions)) =
      if options sizeofOptions = 1 then sizeofOptions else rows - 1 := by
    unfold placeIndex lastPlace
    split <;> split <;> omega
  have hlast_le : lastPlace rows (options sizeofOptions) ≤ rows := by
    unfold lastPlace
    split <;> omega
  rw [hlast]
  by_cases hrow : place < rows
  · -- on a row
    have hindex : placeIndex rows place = place := if_pos hrow
    rw [hindex]
    cases move with
    | up =>
      have hup : placeIndex rows (moveCursor (lastPlace rows (options sizeofOptions)) .up place) =
          place - 1 := by
        unfold placeIndex moveCursor
        dsimp only
        rw [if_pos (by omega)]
      rw [hup]
      unfold searched
      dsimp only
      rw [h.pressUp hrow]
      split <;> omega
    | down =>
      unfold searched moveCursor
      dsimp only
      rw [h.pressDown hrow (Nat.le_of_lt hle)]
      unfold placeIndex lastPlace
      split <;> split <;> split <;> omega
    | other =>
      have hother : placeIndex rows
          (moveCursor (lastPlace rows (options sizeofOptions)) .other place) = place := hindex
      rw [hother]
      unfold searched
      dsimp only
      split <;> omega
  · -- on the byte behind the array, which is then an option
    have hbehind : options sizeofOptions = 1 := by
      by_contra hne
      unfold lastPlace at hplace
      rw [if_neg hne] at hplace
      omega
    have heq : place = rows := by omega
    have hindex : placeIndex rows place = sizeofOptions := if_neg hrow
    have hlastPlace : lastPlace rows (options sizeofOptions) = rows := if_pos hbehind
    rw [hindex, if_pos hbehind, hlastPlace, heq]
    cases move with
    | up =>
      have hup : placeIndex rows (moveCursor rows .up rows) = rows - 1 := if_pos (by
        unfold moveCursor
        dsimp only
        omega)
      have hstart : (((sizeofOptions : Nat) : Int) - 1).toNat = sizeofOptions - 1 := by omega
      rw [hup]
      unfold searched pressUp
      dsimp only
      rw [if_pos (by omega), hstart, h.skipUp hrows (by omega) (by omega)]
      omega
    | down =>
      have hdown : placeIndex rows (moveCursor rows .down rows) = sizeofOptions := if_neg (by
        unfold moveCursor
        dsimp only
        omega)
      have hnext : (((sizeofOptions : Nat) : Int) + 1).toNat = sizeofOptions + 1 := by omega
      have hsize : sizeofOptions = 0x1027 + 1 := rfl
      have hstays : skipDown options sizeofOptions (sizeofOptions + 1) = sizeofOptions + 1 := by
        rw [hsize, skipDown, if_neg (by omega)]
      rw [hdown]
      unfold searched pressDown
      dsimp only
      rw [if_pos (by omega), hnext, hstays]
      omega
    | other =>
      have hother : placeIndex rows (moveCursor rows .other rows) = sizeofOptions :=
        if_neg (Nat.lt_irrefl _)
      rw [hother]
      unfold searched
      dsimp only
      omega

end Row

/-! ## The rows of every frame -/

/-- Where a frame can start. -/
structure WindowAt (totalFiles : Nat) (window : Int) : Prop where
  multiple : totalFiles % windowSize = 0 → window ≤ -1
  nonneg : totalFiles % windowSize ≠ 0 → 0 ≤ window
  le : totalFiles % windowSize ≠ 0 → window ≤ ((totalFiles % windowSize : Nat) : Int) - 1
  short : totalFiles < windowSize → window ≤ 0

theorem WindowAt.rowCount {totalFiles : Nat} {window : Int} (h : WindowAt totalFiles window)
    (hn : 0 < totalFiles) : rowCount (windowSize + 1) totalFiles window = menuRows totalFiles := by
  have hmultiple := h.multiple
  have hnonneg := h.nonneg
  have hle := h.le
  have hshort := h.short
  unfold App.rowCount menuRows windowSize at *
  split <;> omega

/-- The window moves by one at most, and only at the ends of the rows. -/
theorem processMove_window (move : Move) {screen : Screen}
    (hfirst : calcFirstOption screen.options = 0) (selected window : Int) :
    let window' := (processMove move screen selected window).2
    window' = window ∨ window' = window + 1 ∧ screen.option > windowSize ∨
      window' = window - 1 ∧ window ≠ 0 := by
  rw [processMove_searched]
  generalize searched screen.options selected move = moved
  unfold processMove
  dsimp only
  rw [hfirst]
  by_cases hlast : moved > (calcLastOption screen.options : Int)
  · rw [if_pos hlast]
    dsimp only
    rw [if_neg (by omega)]
    dsimp only
    split <;> omega
  · rw [if_neg hlast]
    dsimp only
    split
    · dsimp only
      split <;> omega
    · exact Or.inl rfl

/-- So a frame after a key starts where it can. -/
theorem WindowAt.step {totalFiles : Nat} {window window' : Int} {option : Nat}
    (h : WindowAt totalFiles window) (hoption : option = menuRows totalFiles)
    (hstep : window' = window ∨ window' = window + 1 ∧ option > windowSize ∨
      window' = window - 1 ∧ window ≠ 0) :
    WindowAt totalFiles (resetWindow totalFiles window') := by
  have hmultiple := h.multiple
  have hnonneg := h.nonneg
  have hle := h.le
  have hshort := h.short
  unfold menuRows at hoption
  refine ⟨?_, ?_, ?_, ?_⟩
  · intro hzero
    unfold resetWindow
    split <;> omega
  · intro hpos
    have hwindow := hnonneg hpos
    unfold resetWindow
    split <;> omega
  · intro hpos
    unfold resetWindow
    split <;> omega
  · intro hfew
    unfold resetWindow windowSize at *
    split at hoption <;> split <;> omega

theorem menuRows_pos {totalFiles : Nat} (hn : 0 < totalFiles) : 0 < menuRows totalFiles := by
  unfold menuRows
  split <;> omega

theorem menuRows_lt (totalFiles : Nat) : menuRows totalFiles < sizeofOptions := by
  unfold menuRows windowSize sizeofOptions
  split <;> omega

/-- The cursor is at a place, and the next frame starts where it can. -/
structure PlaceAt (totalFiles : Nat) (behind : UInt8) (place : Nat) (st : MenuState) : Prop where
  selected : st.selected = placeIndex (menuRows totalFiles) place
  place_le : place ≤ lastPlace (menuRows totalFiles) behind
  window : WindowAt totalFiles (resetWindow totalFiles st.window)
  behind : st.options sizeofOptions = behind

theorem moveCursor_le {last place : Nat} (h : place ≤ last) (move : Move) :
    moveCursor last move place ≤ last := by
  unfold moveCursor
  cases move with
  | up => exact Nat.le_trans (Nat.sub_le _ _) h
  | down => exact Nat.min_le_right _ _
  | other => exact h

/-- The places the keys lead to from `place`. -/
def placeAfter (last place : Nat) (moves : List Move) : Nat :=
  moves.foldl (fun place move => moveCursor last move place) place

theorem PlaceAt.press {totalFiles place : Nat} {behind : UInt8} {st : MenuState}
    (h : PlaceAt totalFiles behind place st) (hn : 0 < totalFiles) (move : Move) :
    PlaceAt totalFiles behind (moveCursor (lastPlace (menuRows totalFiles) behind) move place)
      (pressMove (drawSelectFile totalFiles) st move) := by
  rcases drawSelectFile_rowsSet totalFiles st.selected st.window st.options with
    ⟨hoption, hrows, hlast⟩
  rw [h.window.rowCount hn] at hoption hrows
  rw [h.behind] at hlast
  have hpos := menuRows_pos hn
  have hplace := h.place_le
  rw [← hlast] at hplace
  have hselected := processMove_selected move
    (drawSelectFile totalFiles st.selected st.window st.options).2 st.selected
    (drawSelectFile totalFiles st.selected st.window st.options).1
  conv at hselected => enter [2, 2, 1, 2]; rw [h.selected]
  rw [searched_row hrows hpos (menuRows_lt _) hplace move, hlast] at hselected
  have hwindow := processMove_window move (hrows.calcFirstOption hpos) st.selected
    (drawSelectFile totalFiles st.selected st.window st.options).1
  exact ⟨hselected, moveCursor_le h.place_le move, h.window.step hoption hwindow, hlast⟩

theorem PlaceAt.run {totalFiles place : Nat} {behind : UInt8} {st : MenuState}
    (h : PlaceAt totalFiles behind place st) (hn : 0 < totalFiles) (moves : List Move) :
    PlaceAt totalFiles behind (placeAfter (lastPlace (menuRows totalFiles) behind) place moves)
      (moves.foldl (pressMove (drawSelectFile totalFiles)) st) := by
  induction moves generalizing place st with
  | nil => exact h
  | cons move moves ih => exact ih (h.press hn move)

theorem startMenu_placeAt {totalFiles : Nat} (hn : 0 < totalFiles) (options : Nat → UInt8) :
    PlaceAt totalFiles (options sizeofOptions) 0 (startMenu (drawSelectFile totalFiles) options) := by
  have hwindow : WindowAt totalFiles (resetWindow totalFiles 0) := by
    unfold resetWindow
    refine ⟨?_, ?_, ?_, ?_⟩
    · intro hzero
      split <;> omega
    · intro hpos
      split <;> omega
    · intro hpos
      split <;> omega
    · intro hfew
      split <;> omega
  rcases drawSelectFile_rowsSet totalFiles 0 0 (defOpt options).options with ⟨-, hrows, hlast⟩
  rw [hwindow.rowCount hn] at hrows
  have hpos := menuRows_pos hn
  refine ⟨?_, Nat.zero_le _, ?_, ?_⟩
  · unfold placeIndex
    rw [if_pos hpos]
    exact congrArg Int.ofNat (hrows.calcFirstOption hpos)
  · exact hwindow.step rfl (Or.inl rfl)
  · rw [defOpt_behind] at hlast
    exact hlast

/-- What confirm returns after some keys. -/
theorem menu_selected {totalFiles : Nat} (hn : 0 < totalFiles) (options : Nat → UInt8)
    (moves : List Move) (rest : List Key) :
    (processMenuWith (drawSelectFile totalFiles) options
      (moves.map .move ++ .confirm :: rest)).2 =
      some (.selected (placeIndex (menuRows totalFiles)
        (placeAfter (lastPlace (menuRows totalFiles) (options sizeofOptions)) 0 moves))) := by
  unfold processMenuWith
  rw [menuLoop_confirm, ((startMenu_placeAt hn options).run hn moves).selected]

/-! ## What is restored -/

/-- The entries of a folder that are listed. -/
def listedFiles (filter : SearchFilter) (folder : Folder) : List DirEnt :=
  (seenEntries sizeofOptions folder.dreads).filter (passesFilter filter)

/-- A restore is of a listed file, which the user confirmed. -/
def RestoresConfirmed (what : WriteWhat) (folderPath : CString) (folder : Folder)
    (maxSize : UInt64) (keys : List Key) (selection : Selection) : Prop :=
  ∀ blockDevice input, selection.restored = some (blockDevice, input) →
    ∃ extension, what.target = some (blockDevice, extension) ∧
      (∃ (moves : List Move) (rest : List Key), keys = moves.map .move ++ .confirm :: rest) ∧
      ∃ (index : Nat) (ent : DirEnt),
        (listedFiles (fileFilter extension maxSize) folder)[index]? = some ent ∧
        selection.selected = some (index : Int) ∧
        input.bytes = folderPath.bytes ++ [0x2F] ++ ent.name.bytes

/-- The file at the place the keys lead to is on the screen, and its path has room. -/
def LeadsToFile (folderPath : CString) (files : List DirEnt) (behind : UInt8)
    (moves : List Move) : Prop :=
  let rows := menuRows files.length
  let place := placeAfter (lastPlace rows behind) 0 moves
  place < rows ∧ ∃ ent, files[place]? = some ent ∧
    folderPath.bytes.length + 1 + ent.name.bytes.length ≤ maxPathLength - 2

/-- There is nothing to restore; or the folder cannot be opened, with an error that is taken
for `OP_CANCELED`; or it can be read, there is a file to choose, and where the user confirms,
the keys lead to one. -/
def ConfirmedOnly (what : WriteWhat) (folderPath : CString) (folder : Folder)
    (maxSize : UInt64) (behind : UInt8) (keys : List Key) : Prop :=
  match what.target with
  | none => True
  | some (_, extension) =>
    let files := listedFiles (fileFilter extension maxSize) folder
    if folder.dopen < 0 then folder.dopen = opCanceled
    else
      readFails sizeofOptions folder.dreads = false ∧ files ≠ [] ∧
        ∀ (moves : List Move) (rest : List Key), keys = moves.map .move ++ .confirm :: rest →
          LeadsToFile folderPath files behind moves

theorem inputFile_bytes_iff (folder file : CString) :
    (inputFile folder file).bytes = folder.bytes ++ [0x2F] ++ file.bytes ↔
      folder.bytes.length + 1 + file.bytes.length ≤ maxPathLength - 2 := by
  have hjoined : (CString.ofBytes (folder.bytes ++ [0x2F] ++ file.bytes)).bytes =
      folder.bytes ++ [0x2F] ++ file.bytes := by
    apply CString.bytes_ofBytes
    intro b hb
    rcases List.mem_append.mp hb with hb | hfile
    · rcases List.mem_append.mp hb with hfolder | hslash
      · exact folder.ne_zero b hfolder
      · rw [List.mem_singleton.mp hslash]
        decide
    · exact file.ne_zero b hfile
  have hlength : (folder.bytes ++ [0x2F] ++ file.bytes).length =
      folder.bytes.length + 1 + file.bytes.length := by
    rw [List.length_append, List.length_append, List.length_singleton]
  unfold inputFile CString.take
  dsimp only
  rw [hjoined, List.take_eq_self_iff, hlength]

section Folders

variable {folder : Folder} {extension : CString} {maxSize : UInt64}
  {files : Nat → Vector UInt8 maxPathLength} {output : Vector UInt8 maxPathLength}
  {options : Nat → UInt8} {keys : List Key}

/-- The list of a folder that can be read. -/
theorem getFilesInFolder_readable (files : Nat → Vector UInt8 maxPathLength)
    (hopens : ¬ folder.dopen < 0) {filter : SearchFilter}
    (hreads : readFails sizeofOptions folder.dreads = false) :
    ∃ res, 0 ≤ res ∧ getFilesInFolder (some filter) folder files sizeofOptions =
      (res, (listedFiles filter folder).foldl Listing.add (.cleared sizeofOptions files)) := by
  refine ⟨if folder.dclose > 0 then folder.dclose else 0, ?_, ?_⟩
  · split <;> omega
  · unfold getFilesInFolder
    rw [if_neg hopens, readFolder_listing, hreads]
    rfl

theorem listedFiles_length_le (filter : SearchFilter) (folder : Folder) :
    (listedFiles filter folder).length ≤ sizeofOptions :=
  Nat.le_trans (List.length_filter_le _ _) (seenEntries_length_le _ _)

/-- The name in a row is the one that is copied. -/
theorem copied_name {filter : SearchFilter} {place : Nat}
    {ent : DirEnt} (hent : (listedFiles filter folder)[place]? = some ent) :
    CString.ofBuffer (CString.strncpy output (CString.ofBuffer
      (((listedFiles filter folder).foldl Listing.add (.cleared sizeofOptions files)).outFilenames
        place)) maxPathLength) = ent.name := by
  rcases List.getElem?_eq_some_iff.mp hent with ⟨hlt, hget⟩
  have hle := listedFiles_length_le filter folder
  have hrow := foldl_add_of_lt (.cleared sizeofOptions files) hlt
  have hzero : (Listing.cleared sizeofOptions files).totalFolders + place = place :=
    Nat.zero_add place
  have hcleared : (Listing.cleared sizeofOptions files).outFilenames place =
      Vector.replicate maxPathLength 0 := if_pos (by omega)
  have hfits : ent.name.bytes.length < maxPathLength :=
    Nat.lt_of_lt_of_le ent.name_fits (by decide)
  rw [hzero, hcleared, hget] at hrow
  rw [hrow, ofBuffer_row, CString.ofBuffer_strncpy_all output hfits]

/-- The error of `sceIoDopen` is returned. -/
theorem doSelectFileFrom_closed (hopens : folder.dopen < 0) :
    doSelectFileFrom folder files extension maxSize output options keys =
      some (folder.dopen, output) := by
  unfold doSelectFileFrom getFilesInFolder
  rw [if_pos hopens]
  exact if_pos hopens

theorem doSelectFileFrom_unreadable (hopens : ¬ folder.dopen < 0)
    (hreads : readFails sizeofOptions folder.dreads = true) :
    doSelectFileFrom folder files extension maxSize output options keys = some (-1, output) := by
  unfold doSelectFileFrom getFilesInFolder
  rw [if_neg hopens, readFolder_listing, hreads]
  rfl

theorem doSelectFileFrom_empty (hopens : ¬ folder.dopen < 0)
    (hreads : readFails sizeofOptions folder.dreads = false)
    (hnone : listedFiles (fileFilter extension maxSize) folder = []) :
    doSelectFileFrom folder files extension maxSize output options keys =
      some (totalFilesLessThanEq0, output) := by
  rcases getFilesInFolder_readable files hopens hreads with ⟨res, hres, hlisting⟩
  unfold doSelectFileFrom
  rw [hlisting, hnone]
  dsimp only
  rw [if_neg (by omega)]
  rfl

theorem doSelectFileFrom_files (hopens : ¬ folder.dopen < 0)
    (hreads : readFails sizeofOptions folder.dreads = false)
    (hsome : listedFiles (fileFilter extension maxSize) folder ≠ []) :
    doSelectFileFrom folder files extension maxSize output options keys =
      (processMenuWith
        (drawSelectFile (listedFiles (fileFilter extension maxSize) folder).length)
        options keys).2.map
        (copyChoice ((listedFiles (fileFilter extension maxSize) folder).foldl Listing.add
          (.cleared sizeofOptions files)) output) := by
  rcases getFilesInFolder_readable files hopens hreads with ⟨res, hres, hlisting⟩
  have htotal := foldl_add_total (listedFiles (fileFilter extension maxSize) folder)
    (.cleared sizeofOptions files)
  have hzero : (Listing.cleared sizeofOptions files).totalFolders +
      (listedFiles (fileFilter extension maxSize) folder).length =
        (listedFiles (fileFilter extension maxSize) folder).length := Nat.zero_add _
  have hlength := List.length_pos_iff.mpr hsome
  rw [hzero] at htotal
  unfold doSelectFileFrom
  rw [hlisting]
  dsimp only
  rw [if_neg (by omega), htotal, if_neg (by omega)]

end Folders

section Handle

variable {what : WriteWhat} {folderPath : CString} {folder : Folder}
  {files : Nat → Vector UInt8 maxPathLength} {maxSize : UInt64}
  {file : Vector UInt8 maxPathLength} {options : Nat → UInt8} {keys : List Key}

/-- After an error that is not `OP_CANCELED` there is a restore. -/
theorem not_restoresConfirmed_error {blockDevice extension : CString} {res : Int}
    {output : Vector UInt8 maxPathLength} (htarget : what.target = some (blockDevice, extension))
    (hselect : doSelectFileFrom folder files extension maxSize file options keys =
      some (res, output))
    (hres : res < 0) (hcancel : res ≠ opCanceled) :
    ∃ selection, handleSelectFile what folderPath folder files maxSize file options keys =
      some selection ∧
      ¬ RestoresConfirmed what folderPath folder maxSize keys selection := by
  refine ⟨⟨some res, some (blockDevice, inputFile folderPath (CString.ofBuffer output)), none⟩,
    ?_, ?_⟩
  · unfold handleSelectFile
    rw [htarget]
    dsimp only
    rw [hselect, Option.map_some]
    dsimp only
    rw [if_neg hcancel]
  · intro h
    rcases h blockDevice _ rfl with ⟨extension', -, -, index, ent, -, hindex, -⟩
    have heq := Option.some.inj hindex
    omega

/-- After `OP_CANCELED` there is none. -/
theorem handleSelectFile_canceled {blockDevice extension : CString}
    {output : Vector UInt8 maxPathLength} (htarget : what.target = some (blockDevice, extension))
    (hselect : doSelectFileFrom folder files extension maxSize file options keys =
      some (opCanceled, output)) :
    handleSelectFile what folderPath folder files maxSize file options keys =
      some ⟨some opCanceled, none, some opCanceled⟩ := by
  unfold handleSelectFile
  rw [htarget]
  dsimp only
  rw [hselect, Option.map_some]
  rfl

theorem restoresConfirmed_none {selected error : Option Int} :
    RestoresConfirmed what folderPath folder maxSize keys ⟨selected, none, error⟩ := by
  rintro blockDevice input hrestored
  cases hrestored

/-- `OP_CANCELED` is the only error without a restore. -/
theorem restoresConfirmed_error_iff {blockDevice extension : CString} {res : Int}
    {output : Vector UInt8 maxPathLength} (htarget : what.target = some (blockDevice, extension))
    (hselect : doSelectFileFrom folder files extension maxSize file options keys =
      some (res, output)) (hres : res < 0) :
    (∀ selection, handleSelectFile what folderPath folder files maxSize file options keys =
        some selection → RestoresConfirmed what folderPath folder maxSize keys selection) ↔
      res = opCanceled := by
  constructor
  · intro h
    by_contra hcancel
    rcases not_restoresConfirmed_error htarget hselect hres hcancel with
      ⟨selection, hselection, hnot⟩
    exact hnot (h selection hselection)
  · rintro rfl selection hselection
    rw [handleSelectFile_canceled htarget hselect] at hselection
    cases hselection
    exact restoresConfirmed_none

/-- After confirm there is a restore. -/
theorem handleSelectFile_selected {blockDevice extension : CString} {index : Nat}
    {output : Vector UInt8 maxPathLength} (htarget : what.target = some (blockDevice, extension))
    (hselect : doSelectFileFrom folder files extension maxSize file options keys =
      some ((index : Int), output)) :
    handleSelectFile what folderPath folder files maxSize file options keys =
      some ⟨some (index : Int),
        some (blockDevice, inputFile folderPath (CString.ofBuffer output)), none⟩ := by
  have hcancel : (index : Int) ≠ opCanceled := by
    unfold opCanceled
    omega
  unfold handleSelectFile
  rw [htarget]
  dsimp only
  rw [hselect, Option.map_some]
  dsimp only
  rw [if_neg hcancel]

/-- What is restored after confirm is the file the keys led to, if they led to one. -/
theorem restoresConfirmed_selected_iff {blockDevice extension : CString} {moves : List Move}
    {rest : List Key} (htarget : what.target = some (blockDevice, extension))
    (hkeys : keys = moves.map .move ++ .confirm :: rest) (behind : UInt8) :
    let listed := listedFiles (fileFilter extension maxSize) folder
    let place := placeIndex (menuRows listed.length)
      (placeAfter (lastPlace (menuRows listed.length) behind) 0 moves)
    RestoresConfirmed what folderPath folder maxSize keys
        ⟨some (place : Int), some (blockDevice, inputFile folderPath (CString.ofBuffer
          (CString.strncpy file (CString.ofBuffer ((listed.foldl Listing.add
            (.cleared sizeofOptions files)).outFilenames place)) maxPathLength))), none⟩ ↔
      LeadsToFile folderPath listed behind moves := by
  dsimp only
  unfold LeadsToFile
  dsimp only
  have hlength := listedFiles_length_le (fileFilter extension maxSize) folder
  by_cases hrow : placeAfter (lastPlace (menuRows (listedFiles (fileFilter extension maxSize)
      folder).length) behind) 0 moves <
      menuRows (listedFiles (fileFilter extension maxSize) folder).length
  · have hplace : placeIndex (menuRows (listedFiles (fileFilter extension maxSize) folder).length)
        (placeAfter (lastPlace (menuRows (listedFiles (fileFilter extension maxSize)
          folder).length) behind) 0 moves) =
        placeAfter (lastPlace (menuRows (listedFiles (fileFilter extension maxSize)
          folder).length) behind) 0 moves := if_pos hrow
    rw [hplace]
    constructor
    · intro h
      rcases h blockDevice _ rfl with ⟨extension', htarget', -, index, ent, hent, hindex, hinput⟩
      rw [htarget] at htarget'
      cases htarget'
      have heq := Int.ofNat.inj (Option.some.inj hindex)
      rw [← heq] at hent
      refine ⟨hrow, ent, hent, ?_⟩
      rw [copied_name hent] at hinput
      exact (inputFile_bytes_iff _ _).mp hinput
    · rintro ⟨-, ent, hent, hroom⟩ blockDevice' input hrestored
      cases hrestored
      refine ⟨extension, htarget, ⟨moves, rest, hkeys⟩, _, ent, hent, rfl, ?_⟩
      rw [copied_name hent]
      exact (inputFile_bytes_iff _ _).mpr hroom
  · -- the byte behind the array was an option, and its index is that of no file
    have hplace : placeIndex (menuRows (listedFiles (fileFilter extension maxSize) folder).length)
        (placeAfter (lastPlace (menuRows (listedFiles (fileFilter extension maxSize)
          folder).length) behind) 0 moves) = sizeofOptions := if_neg hrow
    rw [hplace]
    constructor
    · intro h
      rcases h blockDevice _ rfl with ⟨extension', htarget', -, index, ent, hent, hindex, -⟩
      rw [htarget] at htarget'
      cases htarget'
      have heq := Int.ofNat.inj (Option.some.inj hindex)
      rw [← heq] at hent
      have hlt := (List.getElem?_eq_some_iff.mp hent).1
      omega
    · rintro ⟨hlt, -⟩
      exact absurd hlt hrow

/-- The same for a folder with files, whatever the keys are. -/
theorem restoresConfirmed_files_iff {blockDevice extension : CString}
    (htarget : what.target = some (blockDevice, extension)) (hopens : ¬ folder.dopen < 0)
    (hreads : readFails sizeofOptions folder.dreads = false)
    (hsome : listedFiles (fileFilter extension maxSize) folder ≠ []) :
    (∀ selection, handleSelectFile what folderPath folder files maxSize file options keys =
        some selection → RestoresConfirmed what folderPath folder maxSize keys selection) ↔
      ∀ (moves : List Move) (rest : List Key), keys = moves.map .move ++ .confirm :: rest →
        LeadsToFile folderPath (listedFiles (fileFilter extension maxSize) folder)
          (options sizeofOptions) moves := by
  have hlength := List.length_pos_iff.mpr hsome
  constructor
  · intro h moves rest hkeys
    have hmenu := menu_selected hlength options moves rest
    have hselect : doSelectFileFrom folder files extension maxSize file options keys = _ :=
      doSelectFileFrom_files hopens hreads hsome
    rw [hkeys, hmenu, ← hkeys] at hselect
    exact (restoresConfirmed_selected_iff htarget hkeys (options sizeofOptions)).mp
      (h _ (handleSelectFile_selected htarget hselect))
  · intro h selection hselection
    have hselect : doSelectFileFrom folder files extension maxSize file options keys = _ :=
      doSelectFileFrom_files hopens hreads hsome
    cases hchoice : (processMenuWith
        (drawSelectFile (listedFiles (fileFilter extension maxSize) folder).length)
        options keys).2 with
    | none =>
      -- the menu still waits for a key
      rw [hchoice] at hselect
      unfold handleSelectFile at hselection
      rw [htarget] at hselection
      dsimp only at hselection
      rw [hselect] at hselection
      cases hselection
    | some choice =>
      cases choice with
      | canceled =>
        rw [hchoice] at hselect
        exact (restoresConfirmed_error_iff htarget hselect (by decide)).mpr rfl selection hselection
      | selected index =>
        -- the keys end in confirm, so the choice is the place they lead to
        rcases keys_of_menuLoop_selected hchoice with ⟨moves, rest, hkeys⟩
        have hmenu := menu_selected hlength options moves rest
        rw [hkeys, hmenu, ← hkeys] at hselect
        rw [handleSelectFile_selected htarget hselect] at hselection
        cases hselection
        exact (restoresConfirmed_selected_iff htarget hkeys (options sizeofOptions)).mpr
          (h moves rest hkeys)

/-- Only a confirmed file is restored exactly where the folder can be read, there is a
file to choose, and the keys lead to one whose path has room. -/
theorem handleSelectFile_confirmed_iff (what : WriteWhat) (folderPath : CString) (folder : Folder)
    (files : Nat → Vector UInt8 maxPathLength) (maxSize : UInt64)
    (file : Vector UInt8 maxPathLength) (options : Nat → UInt8) (keys : List Key) :
    (∀ selection, handleSelectFile what folderPath folder files maxSize file options keys =
        some selection → RestoresConfirmed what folderPath folder maxSize keys selection) ↔
      ConfirmedOnly what folderPath folder maxSize (options sizeofOptions) keys := by
  unfold ConfirmedOnly
  cases htarget : what.target with
  | none =>
    refine iff_of_true ?_ trivial
    intro selection hselection
    unfold handleSelectFile at hselection
    rw [htarget] at hselection
    cases hselection
    exact restoresConfirmed_none
  | some target =>
    rcases target with ⟨blockDevice, extension⟩
    dsimp only
    by_cases hopens : folder.dopen < 0
    · have hselect : doSelectFileFrom folder files extension maxSize file options keys =
          some (folder.dopen, file) := doSelectFileFrom_closed hopens
      rw [if_pos hopens]
      exact restoresConfirmed_error_iff htarget hselect hopens
    · rw [if_neg hopens]
      by_cases hreads : readFails sizeofOptions folder.dreads = false
      · by_cases hsome : listedFiles (fileFilter extension maxSize) folder = []
        · -- there is nothing to choose, which is no `OP_CANCELED`
          have hselect : doSelectFileFrom folder files extension maxSize file options keys =
              some (totalFilesLessThanEq0, file) := doSelectFileFrom_empty hopens hreads hsome
          rw [restoresConfirmed_error_iff htarget hselect (by decide)]
          exact iff_of_false (by decide) fun h => h.2.1 hsome
        · rw [restoresConfirmed_files_iff htarget hopens hreads hsome]
          exact ⟨fun h => ⟨hreads, hsome, h⟩, fun h => h.2.2⟩
      · -- the list is given up with -1
        have hselect : doSelectFileFrom folder files extension maxSize file options keys =
            some (-1, file) :=
          doSelectFileFrom_unreadable hopens (Bool.eq_true_of_not_eq_false hreads)
        rw [restoresConfirmed_error_iff htarget hselect (by decide)]
        exact iff_of_false (by decide) fun h => hreads h.1

end Handle

/-- With no file in "ux0:bak" the partition is restored from whatever was on the stack. -/
theorem not_restoresConfirmed_emptyFolder :
    ∃ selection,
      handleSelectFile .writeGrw0
        (CString.ofBytes [0x75, 0x78, 0x30, 0x3A, 0x62, 0x61, 0x6B]) (folderOf [])
        (fun _ => Vector.replicate _ 0) 4096 (Vector.replicate _ 0x41) (fun _ => 0) [.confirm] =
          some selection ∧
      ¬ RestoresConfirmed .writeGrw0
        (CString.ofBytes [0x75, 0x78, 0x30, 0x3A, 0x62, 0x61, 0x6B]) (folderOf []) 4096 [.confirm]
        selection :=
  not_restoresConfirmed_error rfl
    (doSelectFileFrom_empty (Int.not_lt.mpr (Int.natCast_nonneg 3)) rfl rfl) (by decide) (by decide)

end GcToolKit.App
