import StickerSetBox.Data

/-!
# The sticker grid

Five stickers a row (`kStickersPanelPerRow`): element `index` sits in column
`index % 5` of row `index / 5`, offset by `st::stickersPadding` and spaced by
`st::stickersSize`. `paintEvent` repaints the rows of its dirty rectangle,
`visibleTopBottomUpdated` pauses the animations of rows scrolled out of view,
and `startOverAnimation` and `stickerFromGlobalPos` use the same cells; in a
right-to-left layout `stickerFromGlobalPos` first mirrors the point across the
widget's `width()`. `gotSet` sizes the widget to `rowsCount` rows under the top
padding, with the bottom padding below them. `paintEvent` takes its rows from
the dirty rectangle without the top padding, which the hit test and the pausing
subtract, so the painted rows and the paused rows disagree under a padding.
Coordinates are unbounded integers and `int / int` is `Int.tdiv`, as in C++.
An `int` index compared with `size()` is converted to unsigned, so a negative
index counts as out of range.
-/

namespace StickerSetBox

set_option autoImplicit false

def kStickersPanelPerRow : Nat := 5

/-- What the grid reads besides the box's fields: the style constants
`st::stickersPadding.left()` and `.top()` and `st::stickersSize`, defined in the
style files, and the widget's `width()` and the layout direction `rtl()`, which
the hit test and `paintSticker` mirror by. They are a parameter, fixed over a
run; the layout takes of them a top padding that is not negative and rows of
positive height. -/
structure Style where
  paddingLeft : Int
  paddingTop : Int
  width : Int
  height : Int
  widgetWidth : Int
  rtl : Bool
  paddingTop_nonneg : 0 ≤ paddingTop
  height_pos : 0 < height

structure PaintCall where
  index : Int
  position : Int × Int
  deriving DecidableEq, Repr

namespace Inner

/-- The cell of `index`, as `startOverAnimation` computes its corner. -/
def cellOrigin (st : Style) (index : Int) : Int × Int :=
  let row := index.tdiv kStickersPanelPerRow
  let column := index.tmod kStickersPanelPerRow
  (st.paddingLeft + column * st.width, st.paddingTop + row * st.height)

/-- `startOverAnimation`: the rectangle `(left, top, width, height)` it has
repainted, for the index of an element. -/
def startOverAnimation (st : Style) (count : Nat) (index : Int) :
    Option ((Int × Int) × Int × Int) :=
  if index < 0 ∨ count ≤ index then none
  else some (cellOrigin st index, st.width, st.height)

/-- `stickerFromGlobalPos` at a point already mapped into the widget: the index
under `(x, y)`, or `-1`. In a right-to-left layout `x` is first mirrored across
`width()`. -/
def stickerFromGlobalPos (st : Style) (count : Nat) (x y : Int) : Int :=
  let x := if st.rtl then st.widgetWidth - x else x
  let row := if y ≥ st.paddingTop then (y - st.paddingTop).tdiv st.height else -1
  let col := if x ≥ st.paddingLeft then (x - st.paddingLeft).tdiv st.width else -1
  if row ≥ 0 ∧ col ≥ 0 ∧ col < kStickersPanelPerRow then
    let result := row * kStickersPanelPerRow + col
    if result < count then result else -1
  else -1

/-- The columns loop of `paintEvent` for `row`: it breaks at the first index
out of range. The source compares the `int32` index with `_elements.size()`
as unsigned, so a negative index breaks too. -/
def paintColumns (st : Style) (count : Nat) (row : Int) : List Nat → List PaintCall
  | [] => []
  | column :: rest =>
      let index := row * kStickersPanelPerRow + column
      if index < 0 ∨ count ≤ index then []
      else ⟨index, (st.paddingLeft + column * st.width, st.paddingTop + row * st.height)⟩ ::
        paintColumns st count row rest

def paintRows (st : Style) (count : Nat) : Int → Nat → List PaintCall
  | _, 0 => []
  | row, rows + 1 =>
      paintColumns st count row (List.range kStickersPanelPerRow) ++
        paintRows st count (row + 1) rows

/-- `paintEvent` for a dirty rectangle spanning `rectTop` to `rectBottom`: the
`paintSticker` calls it makes. The source's `from` and `to` are `fromRow`
and `toRow`; its unused `rows` is left out. -/
def paintEvent (st : Style) (count : Nat) (rectTop rectBottom : Int) : List PaintCall :=
  if count = 0 then []
  else
    let fromRow := rectTop.tdiv st.height
    let toRow := rectBottom.tdiv st.height + 1
    paintRows st count fromRow (toRow - fromRow).toNat

def rowsCount (count : Nat) : Int :=
  (count : Int).tdiv kStickersPanelPerRow +
    if (count : Int).tmod kStickersPanelPerRow ≠ 0 then 1 else 0

/-- The columns loop of `pauseInRows` for `row`: the indices of the elements
with an animation, up to the first index out of range (a negative one
included, as in `paintColumns`). -/
def pauseColumns (elements : List Element) (row : Int) : List Nat → List Int
  | [] => []
  | column :: rest =>
      let index := row * kStickersPanelPerRow + column
      if index < 0 ∨ elements.length ≤ index then []
      else
        match (elements[index.toNat]?).bind (·.animated) with
        | some _ => index :: pauseColumns elements row rest
        | none => pauseColumns elements row rest

def pauseRows (elements : List Element) : Int → Nat → List Int
  | _, 0 => []
  | row, rows + 1 =>
      pauseColumns elements row (List.range kStickersPanelPerRow) ++
        pauseRows elements (row + 1) rows

/-- The `pauseInRows` lambda: `none` when `Expects(fromRow <= tillRow)` fails,
else the indices of the elements it pauses. -/
def pauseInRows (elements : List Element) (fromRow tillRow : Int) : Option (List Int) :=
  if fromRow ≤ tillRow then some (pauseRows elements fromRow (tillRow - fromRow).toNat)
  else none

/-- The `pauseInRows(fromRow, tillRow)` calls of `visibleTopBottomUpdated`, in order. -/
def pauseCalls (st : Style) (count : Nat) (visibleTop visibleBottom : Int) : List (Int × Int) :=
  let rowsCount := rowsCount count
  let rowsTop := st.paddingTop
  let singleHeight := st.height
  let rowsBottom := rowsTop + rowsCount * singleHeight
  (if visibleTop ≥ rowsTop + singleHeight ∧ visibleTop < rowsBottom then
      [(0, min ((visibleTop - rowsTop).tdiv singleHeight) rowsCount)]
    else []) ++
  (if visibleBottom > rowsTop ∧ visibleBottom + singleHeight ≤ rowsBottom then
      let pauseRows := min ((rowsBottom - visibleBottom).tdiv singleHeight) rowsCount
      [(rowsCount - pauseRows, rowsCount)]
    else [])

def runPauses (elements : List Element) : List (Int × Int) → Option (List Int)
  | [] => some []
  | (fromRow, tillRow) :: rest =>
      (pauseInRows elements fromRow tillRow).bind fun paused =>
        (runPauses elements rest).map (paused ++ ·)

/-- `visibleTopBottomUpdated`: the indices of the elements it pauses, or
`none` when an `Expects` fails. -/
def visibleTopBottomUpdated (st : Style) (elements : List Element)
    (visibleTop visibleBottom : Int) : Option (List Int) :=
  runPauses elements (pauseCalls st elements.length visibleTop visibleBottom)

@[simp]
theorem kStickersPanelPerRow_eq : kStickersPanelPerRow = 5 := rfl

@[simp]
theorem kStickersPanelPerRow_cast : (kStickersPanelPerRow : Int) = 5 := rfl

theorem cellOrigin_of_row_column (st : Style) {row : Int} (column : Nat) (row_nonneg : 0 ≤ row)
    (small : column < 5) :
    cellOrigin st (row * 5 + column) =
      (st.paddingLeft + column * st.width, st.paddingTop + row * st.height) := by
  have quotient : (row * 5 + column).tdiv 5 = row := by
    rw [Int.tdiv_eq_ediv (by omega) (by omega)]
    omega
  have remainder : (row * 5 + column).tmod 5 = column := by
    rw [Int.tmod_eq_emod (by omega) (by omega)]
    omega
  simp [cellOrigin, quotient, remainder]

theorem cellOrigin_of_nonneg (st : Style) {index : Int} (nonneg : 0 ≤ index) :
    cellOrigin st index =
      (st.paddingLeft + index % 5 * st.width, st.paddingTop + index / 5 * st.height) := by
  simp [cellOrigin, Int.tdiv_eq_ediv nonneg, Int.tmod_eq_emod nonneg]

theorem tdiv_eq_iff_mem_row {start point size q : Int} (after : start ≤ point) (sizePos : 0 < size) :
    (point - start).tdiv size = q ↔ start + q * size ≤ point ∧ point < start + q * size + size := by
  rw [Int.tdiv_eq_ediv (by omega) sizePos.le]
  have lower := @Int.le_ediv_iff_mul_le q (point - start) size sizePos
  have upper := @Int.ediv_lt_iff_lt_mul (point - start) (q + 1) size sizePos
  rw [Int.add_mul, Int.one_mul] at upper
  omega

theorem le_tdiv_iff_mul_le {length size q : Int} (nonneg : 0 ≤ length) (sizePos : 0 < size) :
    q ≤ length.tdiv size ↔ q * size ≤ length := by
  rw [Int.tdiv_eq_ediv nonneg sizePos.le]
  exact Int.le_ediv_iff_mul_le sizePos

section HitTest

variable (count : Nat) {index : Int}

theorem cellIndex_eq_iff (nonneg : 0 ≤ index) (below : index < count) {row column : Int}
    (rowNonneg : 0 ≤ row) (columnNonneg : 0 ≤ column) :
    (if row ≥ 0 ∧ column ≥ 0 ∧ column < 5 then
      if row * 5 + column < count then row * 5 + column else -1 else -1) = index ↔
    row = index / 5 ∧ column = index % 5 := by
  split_ifs <;> omega

theorem cellIndex_ne_of_outside (nonneg : 0 ≤ index) {row column : Int}
    (outside : row < 0 ∨ column < 0) :
    (if row ≥ 0 ∧ column ≥ 0 ∧ column < 5 then
      if row * 5 + column < count then row * 5 + column else -1 else -1) ≠ index := by
  rw [if_neg (by omega)]
  omega

/-- Hit-testing inverts the layout: with columns of positive width, the point
`(x, y)` is over element `index` exactly when it lies in the element's cell,
the one `startOverAnimation` repaints and `paintEvent` paints at, after the
mirroring of a right-to-left layout. -/
theorem stickerFromGlobalPos_eq_iff (st : Style) (widthPos : 0 < st.width) (nonneg : 0 ≤ index)
    (below : index < count) (x y : Int) :
    stickerFromGlobalPos st count x y = index ↔
      (cellOrigin st index).1 ≤ (if st.rtl then st.widgetWidth - x else x) ∧
        (if st.rtl then st.widgetWidth - x else x) < (cellOrigin st index).1 + st.width ∧
        (cellOrigin st index).2 ≤ y ∧ y < (cellOrigin st index).2 + st.height := by
  have height := st.height_pos
  have rowTop : 0 ≤ index / 5 * st.height := Int.mul_nonneg (by omega) height.le
  have columnLeft : 0 ≤ index % 5 * st.width := Int.mul_nonneg (by omega) widthPos.le
  unfold stickerFromGlobalPos
  generalize (if st.rtl then st.widgetWidth - x else x) = x
  rw [cellOrigin_of_nonneg st nonneg]
  simp only [kStickersPanelPerRow_cast]
  by_cases top : y ≥ st.paddingTop
  · by_cases left : x ≥ st.paddingLeft
    · rw [if_pos top, if_pos left, cellIndex_eq_iff count nonneg below
        (Int.tdiv_nonneg (by omega) height.le) (Int.tdiv_nonneg (by omega) widthPos.le),
        tdiv_eq_iff_mem_row top height, tdiv_eq_iff_mem_row left widthPos]
      exact ⟨fun ⟨rows, columns⟩ => ⟨columns.1, columns.2, rows.1, rows.2⟩,
        fun ⟨left, right, top, bottom⟩ => ⟨⟨top, bottom⟩, left, right⟩⟩
    · rw [if_neg left]
      exact iff_of_false (cellIndex_ne_of_outside count nonneg (.inr (by omega))) (by omega)
  · rw [if_neg top]
    exact iff_of_false (cellIndex_ne_of_outside count nonneg (.inl (by omega))) (by omega)

end HitTest

section Paint

variable (st : Style) (count : Nat)

theorem mem_paintColumns (row : Int) (call : PaintCall) :
    ∀ start n, start + n ≤ 5 →
      (call ∈ paintColumns st count row (List.range' start n) ↔
        ∃ column : Nat, start ≤ column ∧ column < start + n ∧
          0 ≤ row * 5 + column ∧ row * 5 + column < count ∧
          call = ⟨row * 5 + column,
            (st.paddingLeft + column * st.width, st.paddingTop + row * st.height)⟩) := by
  intro start n
  induction n generalizing start with
  | zero =>
      intro _
      simp only [List.range'_zero, paintColumns, List.not_mem_nil, false_iff, not_exists, not_and]
      intro column _ _
      omega
  | succ n ih =>
      intro bound
      simp only [List.range'_succ, paintColumns, kStickersPanelPerRow_eq]
      split
      · next outside =>
          simp only [List.not_mem_nil, false_iff, not_exists, not_and]
          intro column _ _ _ _
          omega
      · next inside =>
          rw [List.mem_cons, ih (start + 1) (by omega)]
          constructor
          · rintro (rfl | ⟨column, _, _, _, _, rfl⟩)
            · exact ⟨start, by omega, by omega, by omega, by omega, rfl⟩
            · exact ⟨column, by omega, by omega, by omega, by omega, rfl⟩
          · rintro ⟨column, _, _, _, _, rfl⟩
            by_cases first : column = start
            · exact .inl (by subst first; rfl)
            · exact .inr ⟨column, by omega, by omega, by omega, by omega, rfl⟩

theorem mem_paintRows (call : PaintCall) :
    ∀ row rows, call ∈ paintRows st count row rows ↔
      ∃ r, row ≤ r ∧ r < row + rows ∧
        call ∈ paintColumns st count r (List.range kStickersPanelPerRow) := by
  intro row rows
  induction rows generalizing row with
  | zero =>
      simp only [paintRows, List.not_mem_nil, false_iff, not_exists, not_and]
      intro r _ _
      omega
  | succ rows ih =>
      rw [paintRows, List.mem_append, ih]
      constructor
      · rintro (painted | ⟨r, _, _, painted⟩)
        · exact ⟨row, by omega, by omega, painted⟩
        · exact ⟨r, by omega, by omega, painted⟩
      · rintro ⟨r, _, _, painted⟩
        by_cases first : r = row
        · exact .inl (first ▸ painted)
        · exact .inr ⟨r, by omega, by omega, painted⟩

theorem mem_paintEvent (rectTop rectBottom : Int) (call : PaintCall) :
    call ∈ paintEvent st count rectTop rectBottom ↔
      ∃ index : Int, 0 ≤ index ∧ index < count ∧
        rectTop.tdiv st.height ≤ index / 5 ∧ index / 5 ≤ rectBottom.tdiv st.height ∧
        call = ⟨index, cellOrigin st index⟩ := by
  unfold paintEvent
  split
  · simp only [List.not_mem_nil, false_iff, not_exists, not_and]
    intro index _ _
    omega
  · simp only [mem_paintRows, List.range_eq_range', kStickersPanelPerRow_eq,
      mem_paintColumns st count _ call 0 5 (le_refl _)]
    constructor
    · rintro ⟨row, lower, upper, column, -, small, nonneg, below, rfl⟩
      have row_nonneg : 0 ≤ row := by omega
      refine ⟨row * 5 + column, nonneg, below, by omega, by omega, ?_⟩
      rw [cellOrigin_of_row_column st column row_nonneg (by omega)]
    · rintro ⟨index, nonneg, below, lower, upper, rfl⟩
      have same : index / 5 * 5 + ((index % 5).toNat : Int) = index := by omega
      have origin := @cellOrigin_of_row_column st (index / 5) (index % 5).toNat
        (by omega) (by omega)
      rw [same] at origin
      refine ⟨index / 5, lower, by omega, (index % 5).toNat, by omega, by omega, by omega,
        by omega, ?_⟩
      rw [same, origin]

/-- The row of element `index` meets the dirty rectangle's pixel rows
`rectTop` to `rectBottom`. -/
def touches (st : Style) (index rectTop rectBottom : Int) : Prop :=
  st.paddingTop + index / 5 * st.height ≤ rectBottom ∧
    rectTop < st.paddingTop + (index / 5 + 1) * st.height

instance (index rectTop rectBottom : Int) : Decidable (touches st index rectTop rectBottom) :=
  inferInstanceAs (Decidable (_ ∧ _))

theorem paintEvent_paints_touched (rectTop rectBottom index : Int) (nonneg : 0 ≤ index)
    (inRange : index < count) (touched : touches st index rectTop rectBottom)
    (fromTop : rectTop.tdiv st.height ≤ index / 5) :
    ⟨index, cellOrigin st index⟩ ∈ paintEvent st count rectTop rectBottom := by
  have rowNonneg : 0 ≤ index / 5 * st.height := Int.mul_nonneg (by omega) st.height_pos.le
  have rowAbove : index / 5 * st.height ≤ rectBottom := by
    have := st.paddingTop_nonneg
    have := touched.1
    omega
  have toBottom : index / 5 ≤ rectBottom.tdiv st.height :=
    (le_tdiv_iff_mul_le (by omega) st.height_pos).2 rowAbove
  exact (mem_paintEvent st count _ _ _).2 ⟨index, nonneg, inRange, fromTop, toBottom, rfl⟩

/-- Without a top padding the rows agree, and every touched element is painted. -/
theorem paintEvent_paints_touched_unpadded (flush : st.paddingTop = 0)
    (rectTop rectBottom index : Int) (top_nonneg : 0 ≤ rectTop) (nonneg : 0 ≤ index)
    (inRange : index < count) (touched : touches st index rectTop rectBottom) :
    ⟨index, cellOrigin st index⟩ ∈ paintEvent st count rectTop rectBottom := by
  have below : rectTop < (index / 5 + 1) * st.height := by
    have := touched.2
    omega
  have fromTop : rectTop.tdiv st.height ≤ index / 5 := by
    rw [Int.tdiv_eq_ediv top_nonneg st.height_pos.le]
    have := (Int.ediv_lt_iff_lt_mul st.height_pos).2 below
    omega
  exact paintEvent_paints_touched st count rectTop rectBottom index nonneg inRange touched fromTop

def Style.unpadded : Style := ⟨8, 0, 64, 64, 336, false, by decide, by decide⟩

theorem paintEvent_paints_last_pixel_row_unpadded :
    Style.unpadded.paddingTop = 0 ∧ touches Style.unpadded 0 63 63 ∧
      ⟨0, cellOrigin Style.unpadded 0⟩ ∈ paintEvent Style.unpadded 1 63 63 :=
  have touched : touches Style.unpadded 0 63 63 := by decide
  ⟨rfl, touched, paintEvent_paints_touched_unpadded Style.unpadded 1 rfl 63 63 0 (by decide)
    (by decide) (by decide) touched⟩

def Style.sample : Style := ⟨8, 8, 64, 64, 336, false, by decide, by decide⟩

/-- With a top padding, the last pixel row of the first sticker row touches
element `0`, but `paintEvent` starts one row lower and does not paint it. -/
theorem paintEvent_misses_first_row (padded : 0 < st.paddingTop) :
    touches st 0 (st.paddingTop + st.height - 1) (st.paddingTop + st.height - 1) ∧
      ∀ call ∈ paintEvent st count (st.paddingTop + st.height - 1) (st.paddingTop + st.height - 1),
        call.index ≠ 0 := by
  have height := st.height_pos
  refine ⟨?_, fun call painted => ?_⟩
  · simp only [touches, Int.zero_ediv, Int.zero_mul, Int.zero_add, Int.one_mul, Int.add_zero]
    omega
  obtain ⟨index, -, -, lower, -, rfl⟩ := (mem_paintEvent st count _ _ call).1 painted
  have firstRow : 1 ≤ (st.paddingTop + st.height - 1).tdiv st.height :=
    (le_tdiv_iff_mul_le (by omega) height).2 (by omega)
  show index ≠ 0
  omega

theorem paintEvent_misses_first_row_of_sample :
    0 < Style.sample.paddingTop ∧ touches Style.sample 0 71 71 ∧
      ∀ call ∈ paintEvent Style.sample 1 71 71, call.index ≠ 0 :=
  ⟨by decide, paintEvent_misses_first_row Style.sample 1 (by decide)⟩

/-- The repaint `startOverAnimation` asks for, `rtlupdate(left, top, width,
height)` over the element's cell, makes `paintEvent` draw that element exactly
when the top padding is less than a row's height; otherwise its rows start
below the cell. -/
theorem startOverAnimation_repaints_iff {index : Int} {rect : (Int × Int) × Int × Int}
    (started : startOverAnimation st count index = some rect) :
    ⟨index, rect.1⟩ ∈ paintEvent st count rect.1.2 (rect.1.2 + rect.2.2 - 1) ↔
      st.paddingTop < st.height := by
  unfold startOverAnimation at started
  split at started
  · cases started
  · next inRange =>
      cases started
      have nonneg : 0 ≤ index := by omega
      have height := st.height_pos
      have padding := st.paddingTop_nonneg
      have rowNonneg : 0 ≤ index / 5 * st.height := Int.mul_nonneg (by omega) height.le
      rw [cellOrigin_of_nonneg st nonneg, mem_paintEvent]
      dsimp only
      have toBottom : index / 5 ≤ (st.paddingTop + index / 5 * st.height + st.height - 1).tdiv st.height :=
        (le_tdiv_iff_mul_le (by omega) height).2 (by omega)
      have fromTop : (st.paddingTop + index / 5 * st.height).tdiv st.height ≤ index / 5 ↔
          st.paddingTop < st.height := by
        rw [Int.tdiv_eq_ediv (by omega) height.le, Int.add_mul_ediv_right _ _ height.ne']
        have small := @Int.ediv_lt_iff_lt_mul st.paddingTop 1 st.height height
        rw [Int.one_mul] at small
        omega
      constructor
      · rintro ⟨other, -, -, otherFromTop, -, same⟩
        obtain ⟨rfl, -⟩ := PaintCall.mk.inj same
        exact fromTop.1 otherFromTop
      · exact fun shallow => ⟨index, nonneg, by omega, fromTop.2 shallow, toBottom,
          by rw [cellOrigin_of_nonneg st nonneg]⟩

theorem startOverAnimation_repaints_first :
    startOverAnimation Style.sample 1 0 = some ((8, 8), 64, 64) ∧
      ((⟨0, (8, 8)⟩ : PaintCall) ∈ paintEvent Style.sample 1 8 71 ↔
        Style.sample.paddingTop < Style.sample.height) := by
  have started : startOverAnimation Style.sample 1 0 = some ((8, 8), 64, 64) := rfl
  exact ⟨started, startOverAnimation_repaints_iff Style.sample 1 started⟩

end Paint

/-- One sticker, and a dirty rectangle on the last pixel row of its cell: the
sticker is touched and nothing is painted. -/
theorem paintEvent_skips_touched_first_row :
    touches Style.sample 0 71 71 ∧ paintEvent Style.sample 1 71 71 = [] := by
  decide

section Pause

variable (elements : List Element)

theorem rowsCount_eq (count : Nat) : rowsCount count = ((count : Int) + 4) / 5 := by
  have quotient : (count : Int).tdiv 5 = count / 5 := Int.tdiv_eq_ediv (by omega) (by omega)
  have remainder : (count : Int).tmod 5 = count % 5 := Int.tmod_eq_emod (by omega) (by omega)
  simp only [rowsCount, kStickersPanelPerRow_cast, quotient, remainder]
  split <;> omega

theorem mem_pauseColumns {row index : Int} :
    ∀ {columns : List Nat}, index ∈ pauseColumns elements row columns →
      ∃ column ∈ columns, index = row * 5 + column ∧ 0 ≤ index ∧ index < elements.length := by
  intro columns
  induction columns with
  | nil => simp [pauseColumns]
  | cons column rest ih =>
      intro paused
      simp only [pauseColumns, kStickersPanelPerRow_eq] at paused
      split at paused
      · simp at paused
      · next inside =>
          have here : index = row * 5 + column → ∃ c ∈ column :: rest,
              index = row * 5 + c ∧ 0 ≤ index ∧ index < elements.length :=
            fun same => ⟨column, List.mem_cons_self _ _, same, by omega, by omega⟩
          have later : index ∈ pauseColumns elements row rest → ∃ c ∈ column :: rest,
              index = row * 5 + c ∧ 0 ≤ index ∧ index < elements.length := fun inRest =>
            let ⟨c, member, rest'⟩ := ih inRest
            ⟨c, List.mem_cons_of_mem _ member, rest'⟩
          split at paused
          · rcases List.mem_cons.1 paused with same | inRest
            exacts [here same, later inRest]
          · exact later paused

theorem mem_pauseRows {index : Int} :
    ∀ {row : Int} {rows : Nat}, index ∈ pauseRows elements row rows →
      ∃ r, row ≤ r ∧ r < row + rows ∧
        index ∈ pauseColumns elements r (List.range kStickersPanelPerRow) := by
  intro row rows
  induction rows generalizing row with
  | zero => simp [pauseRows]
  | succ rows ih =>
      intro paused
      rcases List.mem_append.1 paused with here | later
      · exact ⟨row, by omega, by omega, here⟩
      · obtain ⟨r, lower, upper, inRow⟩ := ih later
        exact ⟨r, by omega, by omega, inRow⟩

theorem pauseInRows_sound {fromRow tillRow : Int} {paused : List Int}
    (ran : pauseInRows elements fromRow tillRow = some paused) :
    ∀ index ∈ paused, 0 ≤ index ∧ index < elements.length ∧
      fromRow ≤ index / 5 ∧ index / 5 < tillRow := by
  intro index member
  unfold pauseInRows at ran
  split at ran
  · cases ran
    obtain ⟨row, lower, upper, inRow⟩ := mem_pauseRows elements member
    obtain ⟨column, inRange, rfl, nonneg, below⟩ := mem_pauseColumns elements inRow
    have small : column < 5 := by simpa using inRange
    exact ⟨nonneg, below, by omega, by omega⟩
  · cases ran

theorem runPauses_sound :
    ∀ {calls : List (Int × Int)}, (∀ call ∈ calls, call.1 ≤ call.2) →
      ∃ paused, runPauses elements calls = some paused ∧
        ∀ index ∈ paused, ∃ call ∈ calls, 0 ≤ index ∧ index < elements.length ∧
          call.1 ≤ index / 5 ∧ index / 5 < call.2 := by
  intro calls
  induction calls with
  | nil => exact fun _ => ⟨[], rfl, by simp⟩
  | cons call rest ih =>
      intro expected
      obtain ⟨more, ranRest, restSound⟩ := ih fun c member => expected c (List.mem_cons_of_mem _ member)
      have ran : pauseInRows elements call.1 call.2 =
          some (pauseRows elements call.1 (call.2 - call.1).toNat) := by
        simp [pauseInRows, expected call (List.mem_cons_self _ _)]
      refine ⟨pauseRows elements call.1 (call.2 - call.1).toNat ++ more,
        by simp only [runPauses, ran, Option.some_bind, ranRest, Option.map_some'], ?_⟩
      intro index member
      rcases List.mem_append.1 member with here | later
      · exact ⟨call, List.mem_cons_self _ _, pauseInRows_sound elements ran index here⟩
      · obtain ⟨c, inRest, sound⟩ := restSound index later
        exact ⟨c, List.mem_cons_of_mem _ inRest, sound⟩

theorem pauseCalls_sound (st : Style) (count : Nat) (visibleTop visibleBottom : Int) :
    ∀ call ∈ pauseCalls st count visibleTop visibleBottom,
      0 ≤ call.1 ∧ call.1 ≤ call.2 ∧ call.2 ≤ rowsCount count ∧
      ∀ row, call.1 ≤ row → row < call.2 →
        st.paddingTop + (row + 1) * st.height ≤ visibleTop ∨
          visibleBottom ≤ st.paddingTop + row * st.height := by
  have height := st.height_pos
  have rowsNonneg : 0 ≤ rowsCount count := by rw [rowsCount_eq]; omega
  intro call member
  simp only [pauseCalls, List.mem_append] at member
  rcases member with above | below
  · split at above
    · next shown =>
        obtain rfl := List.mem_singleton.1 above
        have spare : 0 ≤ visibleTop - st.paddingTop := by omega
        have quotient : 1 ≤ (visibleTop - st.paddingTop).tdiv st.height :=
          (le_tdiv_iff_mul_le spare height).2 (by omega)
        refine ⟨by omega, by omega, by omega, fun row _ upper => .inl ?_⟩
        have fits := (le_tdiv_iff_mul_le spare height).1
          (Int.add_one_le_of_lt (lt_of_lt_of_le upper (min_le_left _ _)))
        omega
    · simp at above
  · split at below
    · next shown =>
        obtain rfl := List.mem_singleton.1 below
        have spare : 0 ≤ st.paddingTop + rowsCount count * st.height - visibleBottom := by omega
        have quotient : 1 ≤ (st.paddingTop + rowsCount count * st.height - visibleBottom).tdiv
            st.height := (le_tdiv_iff_mul_le spare height).2 (by omega)
        refine ⟨by omega, by omega, le_refl _, fun row lower _ => .inr ?_⟩
        have fits := (le_tdiv_iff_mul_le spare height).1 (min_le_left _ (rowsCount count))
        have scaled := Int.mul_le_mul_of_nonneg_right lower height.le
        rw [Int.sub_mul] at scaled
        omega
    · simp at below

/-- `visibleTopBottomUpdated` never fails an expectation, and it pauses only
elements whose row is wholly above `visibleTop` or wholly at or below
`visibleBottom`. -/
theorem visibleTopBottomUpdated_pauses_hidden_rows (st : Style) (visibleTop visibleBottom : Int) :
    (∀ call ∈ pauseCalls st elements.length visibleTop visibleBottom,
      0 ≤ call.1 ∧ call.1 ≤ call.2 ∧ call.2 ≤ rowsCount elements.length) ∧
    ∃ paused, visibleTopBottomUpdated st elements visibleTop visibleBottom = some paused ∧
      ∀ index ∈ paused, 0 ≤ index ∧ index < elements.length ∧
        (st.paddingTop + (index / 5 + 1) * st.height ≤ visibleTop ∨
          visibleBottom ≤ st.paddingTop + index / 5 * st.height) := by
  have sound := pauseCalls_sound st elements.length visibleTop visibleBottom
  obtain ⟨paused, ran, pausedSound⟩ :=
    runPauses_sound elements fun call member => (sound call member).2.1
  refine ⟨fun call member => ⟨(sound call member).1, (sound call member).2.1,
    (sound call member).2.2.1⟩, paused, ran, fun index member => ?_⟩
  obtain ⟨call, inCalls, nonneg, below, lower, upper⟩ := pausedSound index member
  exact ⟨nonneg, below, (sound call inCalls).2.2.2 _ lower upper⟩

theorem first_mem_pauseColumns {row : Int} {animation : Nat}
    (animated : (elements[(row * 5).toNat]?).bind (·.animated) = some animation)
    (nonneg : 0 ≤ row) (inRange : row * 5 < elements.length) :
    row * 5 ∈ pauseColumns elements row (List.range kStickersPanelPerRow) := by
  have index : row * (kStickersPanelPerRow : Int) + ((0 : Nat) : Int) = row * 5 := by simp
  have inside : ¬(row * 5 < 0 ∨ (elements.length : Int) ≤ row * 5) := by omega
  rw [show List.range kStickersPanelPerRow = 0 :: List.range' 1 4 from rfl, pauseColumns]
  simp only [index, inside, animated, if_false]
  exact List.mem_cons_self _ _

theorem mem_pauseRows_of {index r : Int}
    (inRow : index ∈ pauseColumns elements r (List.range kStickersPanelPerRow)) :
    ∀ {row : Int} {rows : Nat}, row ≤ r → r < row + rows → index ∈ pauseRows elements row rows := by
  intro row rows
  induction rows generalizing row with
  | zero => intro _ _; omega
  | succ rows ih =>
      intro lower upper
      by_cases here : r = row
      · subst here
        exact List.mem_append_left _ inRow
      · exact List.mem_append_right _ (ih (by omega) (by omega))

theorem pauseRows_subset_runPauses :
    ∀ {calls : List (Int × Int)} {paused : List Int}, runPauses elements calls = some paused →
      ∀ call ∈ calls, call.1 ≤ call.2 →
        ∀ index ∈ pauseRows elements call.1 (call.2 - call.1).toNat, index ∈ paused := by
  intro calls
  induction calls with
  | nil => intro _ _ call member; cases member
  | cons first rest ih =>
      intro paused ran call member expected index inRows
      obtain ⟨here, ranHere, ranRest⟩ := Option.bind_eq_some.1 ran
      obtain ⟨more, ranMore, rfl⟩ := Option.map_eq_some'.1 ranRest
      rcases List.mem_cons.1 member with rfl | later
      · simp only [pauseInRows, expected, if_true, Option.some.injEq] at ranHere
        exact List.mem_append_left _ (ranHere ▸ inRows)
      · exact List.mem_append_right _ (ih ranMore call later expected index inRows)

end Pause

theorem row_end_le_rowsBottom (st : Style) {count : Nat} {index : Int} (below : index < count) :
    index / 5 * st.height + st.height ≤ rowsCount count * st.height := by
  have rows := rowsCount_eq count
  have scaled := Int.mul_le_mul_of_nonneg_right (show index / 5 + 1 ≤ rowsCount count by omega)
    st.height_pos.le
  rwa [Int.add_mul, Int.one_mul] at scaled

theorem mem_paintEvent_whole (st : Style) (count : Nat) {paddingBottom : Int}
    (bottomNonneg : 0 ≤ paddingBottom) (call : PaintCall) :
    call ∈ paintEvent st count 0 (st.paddingTop + rowsCount count * st.height + paddingBottom - 1) ↔
      ∃ index : Int, 0 ≤ index ∧ index < count ∧ call = ⟨index, cellOrigin st index⟩ := by
  rw [mem_paintEvent]
  constructor
  · rintro ⟨index, nonneg, below, -, -, rfl⟩
    exact ⟨index, nonneg, below, rfl⟩
  · rintro ⟨index, nonneg, below, rfl⟩
    have ends := row_end_le_rowsBottom st below
    have rowNonneg : 0 ≤ index / 5 * st.height := Int.mul_nonneg (by omega) st.height_pos.le
    have top := st.paddingTop_nonneg
    have height := st.height_pos
    refine ⟨index, nonneg, below, by rw [Int.zero_tdiv]; omega, ?_, rfl⟩
    exact (le_tdiv_iff_mul_le (by omega) height).2 (by omega)

theorem cellOrigin_within (st : Style) (widthNonneg : 0 ≤ st.width) {count : Nat} {index : Int}
    (nonneg : 0 ≤ index) (below : index < count) (paddingBottom : Int) (bottomNonneg : 0 ≤ paddingBottom) :
    (cellOrigin st index).1 + st.width ≤ st.paddingLeft + kStickersPanelPerRow * st.width ∧
      (cellOrigin st index).2 + st.height ≤
        st.paddingTop + rowsCount count * st.height + paddingBottom := by
  have ends := row_end_le_rowsBottom st below
  have columns := Int.mul_le_mul_of_nonneg_right (show index % 5 + 1 ≤ 5 by omega) widthNonneg
  rw [Int.add_mul, Int.one_mul] at columns
  rw [cellOrigin_of_nonneg st nonneg, kStickersPanelPerRow_cast]
  constructor <;> dsimp only <;> omega

/-- With a top padding shorter than a row, when the visible bottom lies within
the padding's height past a row boundary, that row lies wholly below the
visible area, and `visibleTopBottomUpdated` pauses its first sticker when it is
animated. Yet `paintEvent`, which takes its rows without the padding, passes
that sticker to `paintSticker`, which unpauses it, for every dirty rectangle
that reaches the visible bottom. -/
theorem paintEvent_draws_paused_row (st : Style) (elements : List Element)
    (shallow : st.paddingTop < st.height) {visibleTop visibleBottom rectTop row : Int}
    (rowNonneg : 0 ≤ row) (bottomInRow : row * st.height < visibleBottom)
    (hidden : visibleBottom ≤ st.paddingTop + row * st.height)
    (belowPadding : st.paddingTop < visibleBottom)
    (room : visibleBottom + st.height ≤ st.paddingTop + rowsCount elements.length * st.height)
    (rectNonneg : 0 ≤ rectTop) (rectInside : rectTop < visibleBottom) {animation : Nat}
    (animated : (elements[(row * 5).toNat]?).bind (·.animated) = some animation) :
    ⟨row * 5, cellOrigin st (row * 5)⟩ ∈ paintEvent st elements.length rectTop (visibleBottom - 1) ∧
      ∃ paused, visibleTopBottomUpdated st elements visibleTop visibleBottom = some paused ∧
        row * 5 ∈ paused := by
  have height := st.height_pos
  have inRange : row * 5 < elements.length := by
    by_contra outside
    rw [List.getElem?_eq_none (by omega)] at animated
    cases animated
  have rows := rowsCount_eq elements.length
  have fromTop : rectTop.tdiv st.height ≤ row := by
    rw [Int.tdiv_eq_ediv rectNonneg height.le]
    have below := (@Int.ediv_lt_iff_lt_mul rectTop (row + 1) st.height height).2
      (by rw [Int.add_mul, Int.one_mul]; omega)
    omega
  have toBottom : row ≤ (visibleBottom - 1).tdiv st.height :=
    (le_tdiv_iff_mul_le (by omega) height).2 (by omega)
  refine ⟨(mem_paintEvent st _ _ _ _).2 ⟨row * 5, by omega, inRange, by omega, by omega, rfl⟩, ?_⟩
  have sound := pauseCalls_sound st elements.length visibleTop visibleBottom
  obtain ⟨paused, ran, -⟩ := runPauses_sound elements fun call member => (sound call member).2.1
  refine ⟨paused, ran, ?_⟩
  have quotient : rowsCount elements.length - row ≤
      (st.paddingTop + rowsCount elements.length * st.height - visibleBottom).tdiv st.height :=
    (le_tdiv_iff_mul_le (by omega) height).2 (by rw [Int.sub_mul]; omega)
  have member : (rowsCount elements.length -
        min ((st.paddingTop + rowsCount elements.length * st.height - visibleBottom).tdiv st.height)
          (rowsCount elements.length), rowsCount elements.length) ∈
      pauseCalls st elements.length visibleTop visibleBottom := by
    simp only [pauseCalls, List.mem_append]
    exact .inr (by rw [if_pos ⟨belowPadding, room⟩]; exact List.mem_singleton_self _)
  exact pauseRows_subset_runPauses elements ran _ member (by omega) _
    (mem_pauseRows_of elements (first_mem_pauseColumns elements animated rowNonneg inRange)
      (by omega) (by omega))

def animatedEleventh : List Element :=
  (List.range 15).map fun i => { document := i.toUInt64, animated := if i = 10 then some 1 else none }

theorem paintEvent_draws_paused_row_of_sample :
    (⟨10, cellOrigin Style.sample 10⟩ : PaintCall) ∈ paintEvent Style.sample 15 0 129 ∧
      ∃ paused, visibleTopBottomUpdated Style.sample animatedEleventh 0 130 = some paused ∧
        10 ∈ paused := by
  have animated : (animatedEleventh[((2 : Int) * 5).toNat]?).bind (·.animated) = some 1 := rfl
  exact @paintEvent_draws_paused_row Style.sample animatedEleventh (by decide) 0 130 0 2 (by decide)
    (by decide) (by decide) (by decide) (by decide) (le_refl 0) (by decide) 1 animated

end Inner

end StickerSetBox
