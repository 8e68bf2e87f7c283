import StickerSetBox.Widget

/-!
# What the box draws and what a click sends

`paintEvent` hands `paintSticker` an index and the corner of its cell, and
`paintSticker` draws `_elements[index].document` there; `stickerFromGlobalPos`
maps a point back to the index of the cell it lies in, and a release sends
`_pack[index]`. In every state of the widget the elements hold the pack's
documents in order, since only `gotSet` writes either and it pushes each sticker
to both. So, in a left-to-right layout and whatever dirty rectangle is
repainted, a click inside a drawn cell sends the very document drawn in it.
In a right-to-left layout the hit test mirrors the point by `width() - x`, and
`paintSticker` mirrors a static image but draws a ready Lottie frame unmirrored:
a click on the leftmost pixel column of a mirrored cell, or on a ready frame
away from its own mirror, selects another sticker. `gotSet` also resizes the
widget to the pack's rows, and a repaint of the whole widget at that size draws
exactly the pack.
-/

namespace StickerSetBox

set_option autoImplicit false

namespace Inner

/-- The document `paintSticker(p, index, position)` draws: `_elements[index].document`. -/
def paintedDocument (box : Inner) (index : Int) : Option DocumentId :=
  (box.elements[index.toNat]?).map (·.document)

/-- Whether the element at `index` has an animation that the Lottie player's
`ready()` reports ready, so that `paintSticker` draws its frame. -/
def frameReady (box : Inner) (ready : Nat → Bool) (index : Int) : Bool :=
  match (box.elements[index.toNat]?).bind (·.animated) with
  | some animated => ready animated
  | none => false

/-- The left edge of the cell in which `paintSticker(p, index, position)` centres
the sticker's image. In a right-to-left layout the hover rectangle and a static
image (`drawPixmapLeft`) are mirrored across `width()`, while a ready Lottie
frame (`drawImage`) is drawn at `position` as given. -/
def imageLeft (st : Style) (box : Inner) (ready : Nat → Bool) (call : PaintCall) : Int :=
  if st.rtl && !box.frameReady ready call.index then st.widgetWidth - call.position.1 - st.width
  else call.position.1

/-- The elements hold the pack's documents, in order. -/
def ElementsMirror (box : Inner) : Prop := box.elements.map (·.document) = box.pack

theorem gotSet_elementsMirror (E : Environment) (response : MTPDmessagesStickerSet)
    (session : Session) (box : Inner) : (gotSet E response session box).box.ElementsMirror := by
  rw [ElementsMirror, gotSet_elements, List.map_map]
  exact List.map_id _

theorem paintedDocument_of_mirror {box : Inner} (mirror : box.ElementsMirror) {index : Int}
    (inPack : box.InPack index) : box.paintedDocument index = some (box.packAt index inPack) := by
  unfold paintedDocument packAt
  rw [← List.getElem?_map, mirror, List.get_eq_getElem, List.getElem?_eq_getElem]

theorem paintEvent_hit (st : Style) (widthPos : 0 < st.width) (ltr : st.rtl = false) {box : Inner}
    (mirror : box.ElementsMirror) {rectTop rectBottom : Int} {call : PaintCall}
    (painted : call ∈ paintEvent st box.elements.length rectTop rectBottom) {x y : Int}
    (inside : call.position.1 ≤ x ∧ x < call.position.1 + st.width ∧
      call.position.2 ≤ y ∧ y < call.position.2 + st.height) :
    ∃ inPack : box.InPack call.index,
      box.paintedDocument call.index = some (box.packAt call.index inPack) ∧
        stickerFromGlobalPos st box.pack.length x y = call.index := by
  obtain ⟨index, nonneg, below, -, -, rfl⟩ := (mem_paintEvent st _ _ _ _).1 painted
  have sameLength : box.elements.length = box.pack.length := by
    rw [← mirror, List.length_map]
  have inPack : box.InPack index := ⟨nonneg, by omega⟩
  refine ⟨inPack, paintedDocument_of_mirror mirror inPack,
    (stickerFromGlobalPos_eq_iff _ st widthPos nonneg inPack.2 x y).2 ?_⟩
  simpa only [ltr, Bool.false_eq_true, if_false] using inside

/-- In a right-to-left layout the hit test mirrors a point across `width()`, as
`paintSticker` mirrors a static image, but a ready Lottie frame is drawn where
a left-to-right layout draws it. So a click inside the cell where a sticker's
image is drawn selects that sticker for a static image at every point but the
cell's leftmost pixel column, which the mirror `width() - x` puts one past the
cell, and for a ready frame only where the point's mirror falls in the cell. -/
theorem rtl_click_on_image (st : Style) (rtl : st.rtl = true) (widthPos : 0 < st.width)
    {box : Inner} (mirror : box.ElementsMirror) {rectTop rectBottom : Int} {call : PaintCall}
    (painted : call ∈ paintEvent st box.elements.length rectTop rectBottom) (ready : Nat → Bool)
    {x y : Int} (inside : box.imageLeft st ready call ≤ x ∧ x < box.imageLeft st ready call + st.width ∧
      call.position.2 ≤ y ∧ y < call.position.2 + st.height) :
    stickerFromGlobalPos st box.pack.length x y = call.index ↔
      if box.frameReady ready call.index then
        call.position.1 ≤ st.widgetWidth - x ∧ st.widgetWidth - x < call.position.1 + st.width
      else x ≠ box.imageLeft st ready call := by
  obtain ⟨index, nonneg, below, -, -, rfl⟩ := (mem_paintEvent st _ _ _ _).1 painted
  have sameLength : box.elements.length = box.pack.length := by
    rw [← mirror, List.length_map]
  rw [stickerFromGlobalPos_eq_iff _ st widthPos nonneg (sameLength ▸ below), if_pos rtl]
  dsimp only at inside ⊢
  unfold imageLeft at inside ⊢
  split
  · next frame =>
      simp only [frame, rtl, Bool.not_true, Bool.and_false, Bool.false_eq_true, if_false] at inside
      omega
  · next still =>
      simp only [still, rtl, Bool.not_false, Bool.and_self, if_true] at inside ⊢
      omega

def Style.sampleRtl : Style := { Style.sample with rtl := true }

def fiveWithFrame : Inner :=
  { input := .id 7 0, pack := [1, 2, 3, 4, 5]
    elements := [{ document := 1, animated := some 0 }, { document := 2 }, { document := 3 },
      { document := 4 }, { document := 5 }] }

theorem rtl_click_on_image_of_frame :
    Style.sampleRtl.rtl = true ∧ fiveWithFrame.ElementsMirror ∧
      (⟨0, (8, 8)⟩ : PaintCall) ∈ paintEvent Style.sampleRtl fiveWithFrame.elements.length 0 71 ∧
      fiveWithFrame.frameReady (fun _ => true) 0 = true ∧
      stickerFromGlobalPos Style.sampleRtl fiveWithFrame.pack.length 40 40 ≠ 0 ∧
      stickerFromGlobalPos Style.sampleRtl fiveWithFrame.pack.length 40 40 = 4 := by
  have mirror : fiveWithFrame.ElementsMirror := rfl
  have painted : (⟨0, (8, 8)⟩ : PaintCall) ∈
      paintEvent Style.sampleRtl fiveWithFrame.elements.length 0 71 := by
    decide
  have inside : fiveWithFrame.imageLeft Style.sampleRtl (fun _ => true) ⟨0, (8, 8)⟩ ≤ 40 ∧
      40 < fiveWithFrame.imageLeft Style.sampleRtl (fun _ => true) ⟨0, (8, 8)⟩ + Style.sampleRtl.width ∧
      (8 : Int) ≤ 40 ∧ (40 : Int) < 8 + Style.sampleRtl.height := by
    decide
  have hit := rtl_click_on_image Style.sampleRtl rfl (by decide) mirror painted (fun _ => true) inside
  exact ⟨rfl, mirror, painted, rfl, fun selected => absurd (hit.1 selected) (by decide), by decide⟩

/-- The size `(width, height)` the `resize` closing `gotSet` gives the widget
when the pack is not empty. Its `rows` is the expression `rowsCount` computes,
of `_pack.size()`; `paddingBottom` is `st::stickersPadding.bottom()`, which
only this call reads. -/
def gotSetResize (st : Style) (paddingBottom : Int) (box : Inner) : Int × Int :=
  (st.paddingLeft + kStickersPanelPerRow * st.width,
    st.paddingTop + rowsCount box.pack.length * st.height + paddingBottom)

end Inner

namespace World

section View

variable {E : Environment} {st : Style} {world : World}

theorem elementsMirror_step {next : World} {event : Event} (mirror : world.box.ElementsMirror)
    (stepped : step E world event = some next) : next.box.ElementsMirror := by
  rcases step_pointer stepped with ⟨response, -, -, -, fetched⟩ | ⟨elements, pack, -⟩
  · rw [fetched]
    exact Inner.gotSet_elementsMirror ..
  · rw [Inner.ElementsMirror, elements, pack]
    exact mirror

theorem elementsMirror_of_reachable (reachable : Reachable E world) : world.box.ElementsMirror := by
  induction reachable with
  | init input session => cases input <;> rfl
  | step _ _ stepped mirror => exact elementsMirror_step mirror stepped

/-- What a click sends is what is drawn where it lands, in a left-to-right
layout: in every state of the widget with no preview shown, a press on a
sticker and a release inside the cell where `paintSticker` draws a sticker, for
any dirty rectangle and whichever animations are ready, send the document
drawn there, unless the set is a masks set. -/
theorem click_sends_drawn (widthPos : 0 < st.width) (ltr : st.rtl = false)
    (reachable : WidgetReachable E st world) {point release : Point}
    (hidden : world.box.previewShown < 0)
    (pressed : world.box.InPack (Inner.stickerFromGlobalPos st world.box.pack.length point.1 point.2))
    {rectTop rectBottom : Int} {call : PaintCall}
    (painted : call ∈ Inner.paintEvent st world.box.elements.length rectTop rectBottom)
    (ready : Nat → Bool)
    (inside : world.box.imageLeft st ready call ≤ release.1 ∧
      release.1 < world.box.imageLeft st ready call + st.width ∧
      call.position.2 ≤ release.2 ∧ release.2 < call.position.2 + st.height) :
    (handleAll E st world [.pointer (.mousePress point), .pointer (.mouseRelease release)]).map
        (fun last => sentStickers last.2) =
      some (if world.box.isMasksSet E.layout = false then
        (world.box.paintedDocument call.index).toList else []) := by
  have dropped := elementsMirror_of_reachable (reachable_dropPointer reachable)
  have mirror : world.box.ElementsMirror := dropped
  have atPosition : world.box.imageLeft st ready call = call.position.1 := by
    simp [Inner.imageLeft, ltr]
  rw [atPosition] at inside
  obtain ⟨inPack, drawn, hit⟩ := Inner.paintEvent_hit st widthPos ltr mirror painted inside
  rw [click_sends hidden pressed, drawn]
  simp only [hit]
  by_cases masks : world.box.isMasksSet E.layout = false
  · simp [inPack, masks]
  · simp [masks]

theorem click_sends_drawn_of_seven :
    Inner.Style.sample.rtl = false ∧ WidgetReachable .sample Inner.Style.sample loadedSeven ∧
      loadedSeven.box.previewShown < 0 ∧
      loadedSeven.box.InPack
        (Inner.stickerFromGlobalPos Inner.Style.sample loadedSeven.box.pack.length 40 40) ∧
      (⟨0, (8, 8)⟩ : PaintCall) ∈
        Inner.paintEvent Inner.Style.sample loadedSeven.box.elements.length 0 100 ∧
      (handleAll .sample Inner.Style.sample loadedSeven [.pointer (.mousePress (40, 40)),
        .pointer (.mouseRelease (40, 40))]).map (fun last => sentStickers last.2) = some [1] := by
  have reachable := loadedSeven_reachable
  have painted : (⟨0, (8, 8)⟩ : PaintCall) ∈
      Inner.paintEvent Inner.Style.sample loadedSeven.box.elements.length 0 100 := by
    decide
  refine ⟨rfl, reachable, by decide, by decide, painted, ?_⟩
  rw [click_sends_drawn (by decide) rfl reachable (by decide) (by decide) painted (fun _ => false)
    (by decide)]
  rfl

/-- `gotSet` sizes the widget from the pack and `paintEvent` walks the
elements, yet in every state of the widget a repaint of the whole widget, at
the size `gotSet` gave it, draws exactly the pack: each sticker at its own
index, in its own cell, which lies within the widget. -/
theorem repaint_draws_pack (widthNonneg : 0 ≤ st.width) {paddingBottom : Int}
    (bottomNonneg : 0 ≤ paddingBottom) (reachable : WidgetReachable E st world) (call : PaintCall) :
    call ∈ Inner.paintEvent st world.box.elements.length 0
        ((world.box.gotSetResize st paddingBottom).2 - 1) ↔
      ∃ inPack : world.box.InPack call.index, call.position = Inner.cellOrigin st call.index ∧
        world.box.paintedDocument call.index = some (world.box.packAt call.index inPack) ∧
        call.position.1 + st.width ≤ (world.box.gotSetResize st paddingBottom).1 ∧
        call.position.2 + st.height ≤ (world.box.gotSetResize st paddingBottom).2 := by
  have dropped := elementsMirror_of_reachable (reachable_dropPointer reachable)
  have mirror : world.box.ElementsMirror := dropped
  have sameLength : world.box.elements.length = world.box.pack.length := by
    rw [← mirror, List.length_map]
  rw [Inner.gotSetResize, sameLength, Inner.mem_paintEvent_whole st _ bottomNonneg]
  constructor
  · rintro ⟨index, nonneg, below, rfl⟩
    have inPack : world.box.InPack index := ⟨nonneg, below⟩
    exact ⟨inPack, rfl, Inner.paintedDocument_of_mirror mirror inPack,
      Inner.cellOrigin_within st widthNonneg nonneg below paddingBottom bottomNonneg⟩
  · rintro ⟨inPack, placed, -⟩
    exact ⟨call.index, inPack.1, inPack.2, by rw [← placed]⟩

theorem repaint_draws_pack_of_seven :
    WidgetReachable .sample Inner.Style.sample loadedSeven ∧
      (⟨0, (8, 8)⟩ : PaintCall) ∈ Inner.paintEvent Inner.Style.sample
        loadedSeven.box.elements.length 0 ((loadedSeven.box.gotSetResize Inner.Style.sample 8).2 - 1) ∧
      loadedSeven.box.paintedDocument 0 = some 1 ∧
      8 + Inner.Style.sample.width ≤ (loadedSeven.box.gotSetResize Inner.Style.sample 8).1 := by
  have reachable := loadedSeven_reachable
  have painted : (⟨0, (8, 8)⟩ : PaintCall) ∈ Inner.paintEvent Inner.Style.sample
      loadedSeven.box.elements.length 0 ((loadedSeven.box.gotSetResize Inner.Style.sample 8).2 - 1) := by
    decide
  obtain ⟨inPack, -, drawn, fits, -⟩ :=
    (repaint_draws_pack (by decide) (by decide) reachable _).1 painted
  exact ⟨reachable, painted, drawn.trans rfl, fits⟩

end View

end World

end StickerSetBox
