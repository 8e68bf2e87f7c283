import StickerSetBox.Layout

/-!
# Pointer handling and the buttons

The mouse handlers of `StickerSetBox::Inner`. A press on a sticker starts
`_previewTimer`; when it fires, `showPreview` shows the sticker under the
cursor and keeps its index in `_previewShown`, which `mouseMoveEvent` then
moves from sticker to sticker. A release hides a preview that is shown, and
otherwise, while the timer runs, sends the sticker under the release point.
The hover highlight is `_selected`, kept by `updateSelected` and
`setSelected`. Points are already mapped into the widget, as for
`stickerFromGlobalPos`; `QCursor::pos()` is an argument, named `cursor`.

Every `_pack[index]` the handlers read is guarded by `index >= 0 && index <
_pack.size()`; here the read is `packAt`, which takes that check as an
argument, so the handlers cannot be written without it.

At the end, the outer box's buttons (`StickerSetBox::updateButtons`) and the
queries of `Inner` they read.
-/

namespace StickerSetBox

set_option autoImplicit false

abbrev Point := Int × Int

/-- What a pointer handler asks of the widget and of the application, in order. -/
inductive PointerEffect
  /-- `startOverAnimation(index, from, to)`: the rectangle it repaints, fading
  the highlight in (from `0.` to `1.`) when `shown`, and out otherwise. -/
  | overAnimation (rect : (Int × Int) × Int × Int) (shown : Bool)
  /-- `setCursor`: the pointing hand when `pointer`, else the default arrow. -/
  | setCursor (pointer : Bool)
  /-- `showMediaPreview(Data::FileOriginStickerSet(_setId, _setAccess), document)`. -/
  | showMediaPreview (setId : SetId) (setAccess : UInt64) (document : DocumentId)
  /-- The postponed `App::main()->onSendSticker(sticker)`. -/
  | sendSticker (document : DocumentId)
  deriving DecidableEq, Repr

inductive PointerInput
  | mousePress (point : Point)
  | mouseMove (point cursor : Point)
  | mouseRelease (point : Point)
  | leave
  /-- `_previewTimer` fires, with the cursor at `cursor`: the timer made by the
  constructor calls `showPreview()`. -/
  | previewTimeout (cursor : Point)

def PointerInput.isPress : PointerInput → Bool
  | .mousePress _ => true
  | _ => false

namespace Inner

def isMasksSet (L : FlagLayout) (box : Inner) : Bool := test box.setFlags L.fMasks

def InPack (box : Inner) (index : Int) : Prop := 0 ≤ index ∧ index < box.pack.length

instance (box : Inner) (index : Int) : Decidable (box.InPack index) :=
  inferInstanceAs (Decidable (_ ∧ _))

def packAt (box : Inner) (index : Int) (inPack : box.InPack index) : DocumentId :=
  box.pack.get ⟨index.toNat, by unfold InPack at inPack; omega⟩

/-- `setSelected(selected)`: on a change, the old highlight fades out, the new
one fades in, and the cursor follows. -/
def setSelected (st : Style) (selected : Int) (box : Inner) : Inner × List PointerEffect :=
  if box.selected ≠ selected then
    ({ box with selected },
      (startOverAnimation st box.elements.length box.selected).toList.map (.overAnimation · false) ++
        (startOverAnimation st box.elements.length selected).toList.map (.overAnimation · true) ++
        [.setCursor (decide (0 ≤ selected))])
  else (box, [])

/-- `updateSelected()`: the sticker under the cursor, never one of a masks set. -/
def updateSelected (st : Style) (L : FlagLayout) (cursor : Point) (box : Inner) :
    Inner × List PointerEffect :=
  let selected := stickerFromGlobalPos st box.pack.length cursor.1 cursor.2
  setSelected st (if isMasksSet L box then -1 else selected) box

/-- `mousePressEvent`: a press on a sticker starts the preview timer. -/
def mousePressEvent (st : Style) (point : Point) (box : Inner) : Inner :=
  let index := stickerFromGlobalPos st box.pack.length point.1 point.2
  if box.InPack index then { box with previewTimer := true } else box

/-- `showPreview()`, which the preview timer calls: the sticker under the
cursor is previewed. -/
def showPreview (st : Style) (cursor : Point) (box : Inner) : Inner × List PointerEffect :=
  let index := stickerFromGlobalPos st box.pack.length cursor.1 cursor.2
  if inPack : box.InPack index then
    ({ box with previewShown := index },
      [.showMediaPreview box.setId box.setAccess (box.packAt index inPack)])
  else (box, [])

/-- The second half of `mouseMoveEvent`: a preview that is shown moves to the
sticker under the pointer. -/
def movePreview (st : Style) (point : Point) (box : Inner) : Inner × List PointerEffect :=
  if 0 ≤ box.previewShown then
    let index := stickerFromGlobalPos st box.pack.length point.1 point.2
    if moved : box.InPack index ∧ index ≠ box.previewShown then
      ({ box with previewShown := index },
        [.showMediaPreview box.setId box.setAccess (box.packAt index moved.1)])
    else (box, [])
  else (box, [])

/-- `mouseMoveEvent`: `updateSelected()`, then the preview follows the pointer. -/
def mouseMoveEvent (st : Style) (L : FlagLayout) (point cursor : Point) (box : Inner) :
    Inner × List PointerEffect :=
  let updated := updateSelected st L cursor box
  let moved := movePreview st point updated.1
  (moved.1, updated.2 ++ moved.2)

def leaveEventHook (st : Style) (box : Inner) : Inner × List PointerEffect :=
  setSelected st (-1) box

/-- `mouseReleaseEvent`: a shown preview is hidden; otherwise, while the timer
runs, it is stopped and the sticker under the pointer is sent, unless the set
is a masks set. -/
def mouseReleaseEvent (st : Style) (L : FlagLayout) (point : Point) (box : Inner) :
    Inner × List PointerEffect :=
  if 0 ≤ box.previewShown then ({ box with previewShown := -1 }, [])
  else if box.previewTimer then
    let index := stickerFromGlobalPos st box.pack.length point.1 point.2
    if send : box.InPack index ∧ isMasksSet L box = false then
      ({ box with previewTimer := false }, [.sendSticker (box.packAt index send.1)])
    else ({ box with previewTimer := false }, [])
  else (box, [])

/-- The box's handler for a pointer input. The timer fires only while it runs,
and firing stops it. -/
def handlePointer (st : Style) (L : FlagLayout) (box : Inner) :
    PointerInput → Option (Inner × List PointerEffect)
  | .mousePress point => some (mousePressEvent st point box, [])
  | .mouseMove point cursor => some (mouseMoveEvent st L point cursor box)
  | .mouseRelease point => some (mouseReleaseEvent st L point box)
  | .leave => some (leaveEventHook st box)
  | .previewTimeout cursor =>
      if box.previewTimer then some (showPreview st cursor { box with previewTimer := false })
      else none

def withPointer (box : Inner) (selected : Int) (previewTimer : Bool) (previewShown : Int) : Inner :=
  { box with selected, previewTimer, previewShown }

def dropPointer (box : Inner) : Inner := box.withPointer (-1) false (-1)

def ValidIndex (box : Inner) (index : Int) : Prop := index = -1 ∨ box.InPack index

/-- What the pointer handlers keep: the highlighted and the previewed index are
`-1` or stickers of the pack, a masks set has no highlight, and every sticker
has its element. -/
structure PointerSafe (L : FlagLayout) (box : Inner) : Prop where
  elements_length : box.elements.length = box.pack.length
  selected_valid : box.ValidIndex box.selected
  previewShown_valid : box.ValidIndex box.previewShown
  masks_unselected : box.isMasksSet L = true → box.selected = -1

end Inner

/-- An effect names only what the box holds: a highlight animates the cell of
an element, a previewed or sent sticker is one of the pack, a preview has the
set's own origin, and a masks set sends nothing. -/
def PointerEffect.Sound (st : Style) (L : FlagLayout) (box : Inner) : PointerEffect → Prop
  | .overAnimation rect _ => ∃ index : Int, 0 ≤ index ∧ index < box.elements.length ∧
      rect = (Inner.cellOrigin st index, st.width, st.height)
  | .setCursor _ => True
  | .showMediaPreview setId setAccess document =>
      setId = box.setId ∧ setAccess = box.setAccess ∧ document ∈ box.pack
  | .sendSticker document => document ∈ box.pack ∧ box.isMasksSet L = false

def sentStickers (effects : List PointerEffect) : List DocumentId :=
  effects.filterMap fun
    | .sendSticker document => some document
    | _ => none

@[simp]
theorem sentStickers_nil : sentStickers [] = [] := rfl

@[simp]
theorem sentStickers_append (first second : List PointerEffect) :
    sentStickers (first ++ second) = sentStickers first ++ sentStickers second :=
  List.filterMap_append ..

namespace Inner

theorem packAt_mem (box : Inner) (index : Int) (inPack : box.InPack index) :
    box.packAt index inPack ∈ box.pack :=
  List.get_mem _ _ _

theorem stickerFromGlobalPos_valid (st : Style) (box : Inner) (x y : Int) :
    box.ValidIndex (stickerFromGlobalPos st box.pack.length x y) := by
  unfold stickerFromGlobalPos ValidIndex InPack
  dsimp only
  generalize (if st.rtl then st.widgetWidth - x else x) = x
  generalize (if y ≥ st.paddingTop then (y - st.paddingTop).tdiv st.height else -1) = row
  generalize (if x ≥ st.paddingLeft then (x - st.paddingLeft).tdiv st.width else -1) = column
  simp only [kStickersPanelPerRow_cast]
  split
  · split
    · exact .inr ⟨by omega, by omega⟩
    · exact .inl rfl
  · exact .inl rfl

theorem startOverAnimation_sound {st : Style} {count : Nat} {index : Int}
    {rect : (Int × Int) × Int × Int} (animated : startOverAnimation st count index = some rect) :
    0 ≤ index ∧ index < count ∧ rect = (cellOrigin st index, st.width, st.height) := by
  unfold startOverAnimation at animated
  split at animated
  · cases animated
  · next inRange =>
      cases animated
      exact ⟨by omega, by omega, rfl⟩

section Fields

variable (st : Style) (L : FlagLayout) (box : Inner)

@[simp]
theorem withPointer_pack (selected : Int) (previewTimer : Bool) (previewShown : Int) :
    (box.withPointer selected previewTimer previewShown).pack = box.pack := rfl

@[simp]
theorem withPointer_selected (selected : Int) (previewTimer : Bool) (previewShown : Int) :
    (box.withPointer selected previewTimer previewShown).selected = selected := rfl

@[simp]
theorem withPointer_previewTimer (selected : Int) (previewTimer : Bool) (previewShown : Int) :
    (box.withPointer selected previewTimer previewShown).previewTimer = previewTimer := rfl

@[simp]
theorem withPointer_previewShown (selected : Int) (previewTimer : Bool) (previewShown : Int) :
    (box.withPointer selected previewTimer previewShown).previewShown = previewShown := rfl

@[simp]
theorem dropPointer_withPointer (selected : Int) (previewTimer : Bool) (previewShown : Int) :
    (box.withPointer selected previewTimer previewShown).dropPointer = box.dropPointer := rfl

theorem sound_withPointer (selected : Int) (previewTimer : Bool) (previewShown : Int)
    (effect : PointerEffect) :
    effect.Sound st L (box.withPointer selected previewTimer previewShown) ↔
      effect.Sound st L box := by
  cases effect <;> rfl

theorem PointerSafe.withPointer {box : Inner} (safe : box.PointerSafe L) {selected : Int}
    (previewTimer : Bool) {previewShown : Int} (selected_valid : box.ValidIndex selected)
    (previewShown_valid : box.ValidIndex previewShown)
    (masks_unselected : box.isMasksSet L = true → selected = -1) :
    (box.withPointer selected previewTimer previewShown).PointerSafe L :=
  ⟨safe.elements_length, selected_valid, previewShown_valid, masks_unselected⟩

theorem ValidIndex.eq_of_pack_eq_nil {index : Int} (valid : box.ValidIndex index)
    (empty : box.pack = []) : index = -1 := by
  rcases valid with same | ⟨nonneg, below⟩
  · exact same
  · simp only [empty, List.length_nil] at below
    omega

end Fields

section Handlers

variable (st : Style) (L : FlagLayout) (box : Inner)

theorem setSelected_box (selected : Int) :
    (setSelected st selected box).1 = box.withPointer selected box.previewTimer box.previewShown := by
  unfold setSelected
  split
  · rfl
  · next same =>
      cases box
      simpa [withPointer] using not_not.1 same

theorem setSelected_sound (selected : Int) :
    ∀ effect ∈ (setSelected st selected box).2, effect.Sound st L box := by
  unfold setSelected
  split
  · simp only [List.mem_append, List.mem_map, Option.mem_toList, List.mem_singleton]
    rintro _ ((⟨rect, animated, rfl⟩ | ⟨rect, animated, rfl⟩) | rfl)
    · exact ⟨_, startOverAnimation_sound animated⟩
    · exact ⟨_, startOverAnimation_sound animated⟩
    · trivial
  · simp

theorem sentStickers_setSelected (selected : Int) :
    sentStickers (setSelected st selected box).2 = [] := by
  unfold setSelected sentStickers
  split <;> simp [List.filterMap_map]

theorem mousePressEvent_eq (point : Point) :
    mousePressEvent st point box = box.withPointer box.selected
      (decide (box.InPack (stickerFromGlobalPos st box.pack.length point.1 point.2)) || box.previewTimer)
      box.previewShown := by
  unfold mousePressEvent
  dsimp only
  split
  · next pressed => simp [pressed, withPointer]
  · next outside => simp [outside, withPointer]

theorem updateSelected_box (cursor : Point) :
    (updateSelected st L cursor box).1 = box.withPointer
      (if isMasksSet L box then -1 else stickerFromGlobalPos st box.pack.length cursor.1 cursor.2)
      box.previewTimer box.previewShown :=
  setSelected_box st box _

theorem pointerSafe_updateSelected (safe : box.PointerSafe L) (cursor : Point) :
    (updateSelected st L cursor box).1.PointerSafe L := by
  rw [updateSelected_box]
  refine safe.withPointer L _ ?_ safe.previewShown_valid fun masks => if_pos masks
  split
  · exact .inl rfl
  · exact stickerFromGlobalPos_valid ..

theorem showPreview_box (cursor : Point) :
    ∃ previewShown, (showPreview st cursor box).1 =
      box.withPointer box.selected box.previewTimer previewShown := by
  unfold showPreview
  dsimp only
  split
  · exact ⟨_, rfl⟩
  · exact ⟨_, rfl⟩

theorem showPreview_sound (cursor : Point) :
    ∀ effect ∈ (showPreview st cursor box).2, effect.Sound st L box := by
  unfold showPreview
  dsimp only
  split
  · simp only [List.mem_singleton, forall_eq]
    exact ⟨rfl, rfl, packAt_mem ..⟩
  · simp

theorem sentStickers_showPreview (cursor : Point) : sentStickers (showPreview st cursor box).2 = [] := by
  unfold showPreview
  dsimp only
  split <;> rfl

theorem pointerSafe_showPreview (safe : box.PointerSafe L) (cursor : Point) :
    (showPreview st cursor box).1.PointerSafe L := by
  unfold showPreview
  dsimp only
  split
  · next inPack =>
      exact safe.withPointer L box.previewTimer safe.selected_valid (.inr inPack)
        safe.masks_unselected
  · exact safe

theorem movePreview_eq (point : Point) :
    movePreview st point box =
      if 0 ≤ box.previewShown ∧
          stickerFromGlobalPos st box.pack.length point.1 point.2 ≠ box.previewShown
      then showPreview st point box else (box, []) := by
  unfold movePreview showPreview
  by_cases shown : 0 ≤ box.previewShown
  · by_cases same : stickerFromGlobalPos st box.pack.length point.1 point.2 = box.previewShown
    · simp [shown, same]
    · simp only [shown, same, if_true, ne_eq, not_false_eq_true, and_true, true_and]
  · simp [shown]

theorem movePreview_box (point : Point) :
    ∃ previewShown, (movePreview st point box).1 =
      box.withPointer box.selected box.previewTimer previewShown := by
  rw [movePreview_eq]
  split
  · exact showPreview_box st box point
  · exact ⟨_, rfl⟩

theorem movePreview_sound (point : Point) :
    ∀ effect ∈ (movePreview st point box).2, effect.Sound st L box := by
  rw [movePreview_eq]
  split
  · exact showPreview_sound st L box point
  · simp

theorem sentStickers_movePreview (point : Point) : sentStickers (movePreview st point box).2 = [] := by
  rw [movePreview_eq]
  split
  · exact sentStickers_showPreview ..
  · rfl

theorem pointerSafe_movePreview (safe : box.PointerSafe L) (point : Point) :
    (movePreview st point box).1.PointerSafe L := by
  rw [movePreview_eq]
  split
  · exact pointerSafe_showPreview st L box safe point
  · exact safe

theorem mouseMoveEvent_box (point cursor : Point) :
    ∃ previewShown, (mouseMoveEvent st L point cursor box).1 = box.withPointer
      (if isMasksSet L box then -1 else stickerFromGlobalPos st box.pack.length cursor.1 cursor.2)
      box.previewTimer previewShown := by
  obtain ⟨previewShown, moved⟩ := movePreview_box st (updateSelected st L cursor box).1 point
  refine ⟨previewShown, ?_⟩
  simp only [mouseMoveEvent]
  rw [moved, updateSelected_box]
  rfl

theorem mouseMoveEvent_sound (point cursor : Point) :
    ∀ effect ∈ (mouseMoveEvent st L point cursor box).2, effect.Sound st L box := by
  simp only [mouseMoveEvent, List.mem_append]
  rintro effect (made | made)
  · exact setSelected_sound st L box _ effect made
  · have sound := movePreview_sound st L _ point effect made
    rw [updateSelected_box, sound_withPointer] at sound
    exact sound

theorem sentStickers_mouseMoveEvent (point cursor : Point) :
    sentStickers (mouseMoveEvent st L point cursor box).2 = [] := by
  simp only [mouseMoveEvent, sentStickers_append, updateSelected, sentStickers_setSelected,
    sentStickers_movePreview, List.append_nil]

theorem pointerSafe_mouseMoveEvent (safe : box.PointerSafe L) (point cursor : Point) :
    (mouseMoveEvent st L point cursor box).1.PointerSafe L :=
  pointerSafe_movePreview st L _ (pointerSafe_updateSelected st L box safe cursor) point

theorem mouseReleaseEvent_box (point : Point) :
    (mouseReleaseEvent st L point box).1 =
      if 0 ≤ box.previewShown then box.withPointer box.selected box.previewTimer (-1)
      else box.withPointer box.selected false box.previewShown := by
  unfold mouseReleaseEvent
  dsimp only
  split
  · rfl
  · split
    · split <;> rfl
    · next stopped =>
        cases box
        simp_all [withPointer]

theorem mouseReleaseEvent_sends (point : Point) :
    sentStickers (mouseReleaseEvent st L point box).2 =
      if 0 ≤ box.previewShown then []
      else if box.previewTimer then
        if send : box.InPack (stickerFromGlobalPos st box.pack.length point.1 point.2) ∧
            isMasksSet L box = false then [box.packAt _ send.1]
        else []
      else [] := by
  unfold mouseReleaseEvent
  dsimp only
  split
  · rfl
  · split
    · split <;> rfl
    · rfl

theorem mouseReleaseEvent_sound (point : Point) :
    ∀ effect ∈ (mouseReleaseEvent st L point box).2, effect.Sound st L box := by
  unfold mouseReleaseEvent
  dsimp only
  split
  · simp
  · split
    · split
      · next send =>
          simp only [List.mem_singleton, forall_eq]
          exact ⟨packAt_mem .., send.2⟩
      · simp
    · simp

variable {input : PointerInput} {result : Inner × List PointerEffect}

/-- A pointer input changes nothing but the pointer fields. -/
theorem handlePointer_frame (handled : handlePointer st L box input = some result) :
    ∃ selected previewTimer previewShown,
      result.1 = box.withPointer selected previewTimer previewShown := by
  cases input <;> simp only [handlePointer, Option.some.injEq] at handled
  case mousePress point =>
    subst handled
    exact ⟨_, _, _, mousePressEvent_eq st box point⟩
  case mouseMove point cursor =>
    subst handled
    obtain ⟨previewShown, moved⟩ := mouseMoveEvent_box st L box point cursor
    exact ⟨_, _, _, moved⟩
  case mouseRelease point =>
    subst handled
    rw [mouseReleaseEvent_box]
    split <;> exact ⟨_, _, _, rfl⟩
  case leave =>
    subst handled
    exact ⟨_, _, _, setSelected_box ..⟩
  case previewTimeout cursor =>
    split at handled
    · cases handled
      obtain ⟨previewShown, shown⟩ := showPreview_box st { box with previewTimer := false } cursor
      exact ⟨_, _, _, shown⟩
    · cases handled

theorem pointerSafe_handlePointer (safe : box.PointerSafe L)
    (handled : handlePointer st L box input = some result) : result.1.PointerSafe L := by
  have unchanged (previewTimer : Bool) :=
    safe.withPointer L previewTimer safe.selected_valid safe.previewShown_valid safe.masks_unselected
  cases input <;> simp only [handlePointer, Option.some.injEq] at handled
  case mousePress point =>
    subst handled
    rw [mousePressEvent_eq]
    exact unchanged _
  case mouseMove point cursor =>
    subst handled
    exact pointerSafe_mouseMoveEvent st L box safe point cursor
  case mouseRelease point =>
    subst handled
    rw [mouseReleaseEvent_box]
    split
    · exact safe.withPointer L _ safe.selected_valid (.inl rfl) safe.masks_unselected
    · exact unchanged false
  case leave =>
    subst handled
    rw [leaveEventHook, setSelected_box]
    exact safe.withPointer L _ (.inl rfl) safe.previewShown_valid fun _ => rfl
  case previewTimeout cursor =>
    split at handled
    · cases handled
      exact pointerSafe_showPreview st L _ (unchanged false) cursor
    · cases handled

theorem handlePointer_sound (handled : handlePointer st L box input = some result) :
    ∀ effect ∈ result.2, effect.Sound st L box := by
  cases input <;> simp only [handlePointer, Option.some.injEq] at handled
  case mousePress point =>
    subst handled
    simp
  case mouseMove point cursor =>
    subst handled
    exact mouseMoveEvent_sound st L box point cursor
  case mouseRelease point =>
    subst handled
    exact mouseReleaseEvent_sound st L box point
  case leave =>
    subst handled
    exact setSelected_sound st L box _
  case previewTimeout cursor =>
    split at handled
    · cases handled
      intro effect made
      exact (sound_withPointer st L box box.selected false box.previewShown effect).1
        (showPreview_sound st L _ cursor effect made)
    · cases handled

theorem handlePointer_sends (handled : handlePointer st L box input = some result) :
    (sentStickers result.2).length + result.1.previewTimer.toNat ≤
      input.isPress.toNat + box.previewTimer.toNat := by
  cases input with
  | mousePress point =>
      cases Option.some.inj handled
      rw [mousePressEvent_eq]
      cases box.previewTimer <;> simp [PointerInput.isPress, Bool.toNat_le]
  | mouseMove point cursor =>
      cases Option.some.inj handled
      obtain ⟨previewShown, moved⟩ := mouseMoveEvent_box st L box point cursor
      simp [moved, sentStickers_mouseMoveEvent]
  | mouseRelease point =>
      cases Option.some.inj handled
      rw [mouseReleaseEvent_sends, mouseReleaseEvent_box]
      split
      · simp
      · split
        · next running => split <;> simp [running, PointerInput.isPress]
        · simp
  | leave =>
      cases Option.some.inj handled
      rw [leaveEventHook, sentStickers_setSelected, setSelected_box]
      simp
  | previewTimeout cursor =>
      simp only [handlePointer] at handled
      split at handled
      · next running =>
          cases Option.some.inj handled
          obtain ⟨previewShown, shown⟩ := showPreview_box st { box with previewTimer := false } cursor
          simp [shown, sentStickers_showPreview, running]
      · cases handled

end Handlers

/-- `loaded()`: the set arrived and has stickers. The field `loaded` is
`_loaded`. -/
def isLoaded (box : Inner) : Bool := box.loaded && !box.pack.isEmpty

/-- `notInstalled()`: the loaded set is missing from the registry, or its entry
is not installed or is archived, and it has stickers. -/
def notInstalled (L : FlagLayout) (sets : Sets) (box : Inner) : Bool :=
  if !box.loaded then false
  else
    match sets.lookup box.setId with
    | some it =>
        if !test it.flags L.fInstalledDate || test it.flags L.fArchived then !box.pack.isEmpty
        else false
    | none => !box.pack.isEmpty

/-- `official()`: the loaded set has no short name. -/
def official (box : Inner) : Bool := box.loaded && box.setShortName.isEmpty

def shortName (box : Inner) : String := box.setShortName

inductive Title
  | lngContactsLoading
  | lngAttachFailed
  | text (title : String)
  deriving DecidableEq, Repr

def title (box : Inner) : Title :=
  if !box.loaded then .lngContactsLoading
  else if box.pack.isEmpty then .lngAttachFailed
  else .text box.setTitle

end Inner

/-- A button of the box, by its label: `lng_stickers_add_pack` calls
`addStickers`, `lng_stickers_share_pack` calls `shareStickers`, and
`lng_cancel` and `lng_about_done` close the box. -/
inductive Button
  | lngStickersAddPack
  | lngCancel
  | lngAboutDone
  | lngStickersSharePack
  deriving DecidableEq, Repr

/-- `StickerSetBox::updateButtons`, over the registry the session holds. -/
def updateButtons (L : FlagLayout) (sets : Sets) (inner : Inner) : List Button :=
  if inner.isLoaded then
    if inner.notInstalled L sets then [.lngStickersAddPack, .lngCancel]
    else if inner.official then [.lngAboutDone]
    else [.lngStickersSharePack, .lngCancel]
  else [.lngCancel]

section Buttons

variable (L : FlagLayout) (sets : Sets) (inner : Inner)

/-- The registry holds the set installed and not archived. -/
def Installed : Prop :=
  ∃ it, sets.lookup inner.setId = some it ∧ test it.flags L.fInstalledDate = true ∧
    test it.flags L.fArchived = false

theorem notInstalled_iff :
    inner.notInstalled L sets = true ↔
      inner.loaded = true ∧ inner.pack ≠ [] ∧ ¬Installed L sets inner := by
  unfold Inner.notInstalled Installed
  cases loaded : inner.loaded
  · simp
  · simp only [Bool.not_true, Bool.false_eq_true, if_false]
    split
    · next it found =>
        by_cases installed : test it.flags L.fInstalledDate <;>
          by_cases archived : test it.flags L.fArchived <;>
          simp [found, installed, archived, List.isEmpty_iff]
    · next missing => simp [missing, List.isEmpty_iff]

/-- The box offers to add the set exactly when the set has arrived with
stickers and the registry does not hold it installed and unarchived; every
set of buttons can close the box. -/
theorem updateButtons_spec :
    (.lngStickersAddPack ∈ updateButtons L sets inner ↔
      inner.loaded = true ∧ inner.pack ≠ [] ∧ ¬Installed L sets inner) ∧
    (.lngCancel ∈ updateButtons L sets inner ∨ .lngAboutDone ∈ updateButtons L sets inner) := by
  rw [← notInstalled_iff]
  unfold updateButtons
  have loadedOf : inner.notInstalled L sets = true → inner.isLoaded = true := by
    rw [notInstalled_iff]
    rintro ⟨loaded, stickers, -⟩
    simp [Inner.isLoaded, loaded, List.isEmpty_iff, stickers]
  by_cases loaded : inner.isLoaded <;> by_cases offered : inner.notInstalled L sets <;>
    by_cases official : inner.official <;> simp_all

end Buttons

end StickerSetBox
