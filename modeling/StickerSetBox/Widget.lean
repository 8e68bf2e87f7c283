import StickerSetBox.Box
import StickerSetBox.Pointer

/-!
# The widget over its life

The box of `Box` with its pointer: the session's events and the user's
presses, moves, releases and leaves, and the preview timer firing, in any
order. A session event is the `World` step; a fetch that filled the pack then
ends with `updateSelected()` at the cursor, the one widget call of `gotSet`
the session model leaves out.

Forgetting the pointer fields (`_selected`, `_previewTimer`, `_previewShown`)
maps every run of the widget onto a run of the `World`, so what holds of every
reachable `World` holds of the widget. Over the pointer, every run keeps the
highlighted and the previewed index on a sticker of the pack or at `-1`, every
effect names only what the box holds, and each sticker sent uses up a press.
-/

namespace StickerSetBox

set_option autoImplicit false

/-- What can happen to the widget: a session event, handled with the cursor at
`cursor` (`QCursor::pos()`), or a pointer input. -/
inductive Input
  | session (event : Event) (cursor : Point)
  | pointer (input : PointerInput)

def Input.event : Input → Option Event
  | .session event _ => some event
  | .pointer _ => none

def Input.isPress : Input → Bool
  | .session _ _ => false
  | .pointer input => input.isPress

namespace Inner

section Session

variable (E : Environment) (response : MTPDmessagesStickerSet) (session : Session) (box : Inner)

theorem gotSet_pointer :
    (gotSet E response session box).box.elements.length =
        (gotSet E response session box).box.pack.length ∧
      (gotSet E response session box).box.selected = -1 ∧
      (gotSet E response session box).box.previewTimer = box.previewTimer ∧
      (gotSet E response session box).box.previewShown = box.previewShown := by
  dsimp only [gotSet]
  unfold storeSet
  split <;> split <;> simp [fetched]

theorem fetched_dropPointer (parsed : DocumentStore × Pack) :
    fetched E response parsed box.dropPointer = (fetched E response parsed box).dropPointer := rfl

theorem storeSet_dropPointer (sets : Sets) :
    storeSet E box.dropPointer sets = ((storeSet E box sets).1.dropPointer, (storeSet E box sets).2) := by
  dsimp only [storeSet, dropPointer, withPointer]
  cases sets.lookup box.setId <;> rfl

theorem gotSet_dropPointer :
    gotSet E response session box.dropPointer =
      { gotSet E response session box with box := (gotSet E response session box).box.dropPointer } := by
  dsimp only [gotSet]
  rw [fetched_dropPointer, storeSet_dropPointer]
  dsimp only [dropPointer, withPointer]
  split <;> rfl

theorem installDone_dropPointer (now : TimeId) (result : MTPStickerSetInstallResult) :
    installDone E now result session box.dropPointer =
      { installDone E now result session box with
        box := (installDone E now result session box).box.dropPointer } := rfl

theorem install_dropPointer (request : RequestId) :
    install E request box.dropPointer =
      ((install E request box).1.dropPointer, (install E request box).2) := by
  unfold install
  dsimp only [dropPointer, withPointer]
  split
  · rfl
  · split <;> rfl

end Session

end Inner

namespace World

def dropPointer (world : World) : World := { world with box := world.box.dropPointer }

/-- The end of `gotSet` that the session step leaves out: once the pack is
filled, `updateSelected()` at the cursor. -/
def gotSetSelected (st : Style) (L : FlagLayout) (cursor : Point) (world : World) :
    World × List PointerEffect :=
  if world.box.pack.isEmpty then (world, [])
  else
    let updated := Inner.updateSelected st L cursor world.box
    ({ world with box := updated.1 }, updated.2)

/-- One input, when it can happen: a session event as `step` delivers it, and a
pointer input as the box handles it. -/
def handle (E : Environment) (st : Style) (world : World) :
    Input → Option (World × List PointerEffect)
  | .session event cursor =>
      (step E world event).map fun next =>
        match event with
        | .gotSet _ => gotSetSelected st E.layout cursor next
        | _ => (next, [])
  | .pointer input =>
      (Inner.handlePointer st E.layout world.box input).map fun handled =>
        ({ world with box := handled.1 }, handled.2)

/-- Inputs handled one after another, with their effects in order; `none` once
one cannot happen. -/
def handleAll (E : Environment) (st : Style) : World → List Input → Option (World × List PointerEffect)
  | world, [] => some (world, [])
  | world, input :: rest =>
      (handle E st world input).bind fun handled =>
        (handleAll E st handled.1 rest).map fun last => (last.1, handled.2 ++ last.2)

inductive WidgetReachable (E : Environment) (st : Style) : World → Prop
  | init (input : MTPInputStickerSet) (session : Session) : WidgetReachable E st (init input session)
  | handle {world : World} {handled : World × List PointerEffect} (input : Input) :
      WidgetReachable E st world → handle E st world input = some handled →
        WidgetReachable E st handled.1

theorem gotSetSelected_frame (st : Style) (L : FlagLayout) (cursor : Point) (next : World) :
    ∃ selected, (gotSetSelected st L cursor next).1 =
      { next with box := next.box.withPointer selected next.box.previewTimer next.box.previewShown } ∧
      ((gotSetSelected st L cursor next).2 = [] ∨
        (gotSetSelected st L cursor next).2 = (Inner.setSelected st selected next.box).2) := by
  unfold gotSetSelected
  split
  · exact ⟨next.box.selected, rfl, .inl rfl⟩
  · refine ⟨if Inner.isMasksSet L next.box then -1
      else Inner.stickerFromGlobalPos st next.box.pack.length cursor.1 cursor.2, ?_, .inr rfl⟩
    dsimp only
    rw [Inner.updateSelected_box]

section Widget

variable {E : Environment} {st : Style} {world : World}

theorem handle_session {event : Event} {cursor : Point} {handled : World × List PointerEffect}
    (accepted : handle E st world (.session event cursor) = some handled) :
    ∃ next, step E world event = some next ∧
      (handled = (next, []) ∨ handled = gotSetSelected st E.layout cursor next) := by
  obtain ⟨next, stepped, rfl⟩ := Option.map_eq_some'.1 accepted
  refine ⟨next, stepped, ?_⟩
  cases event
  case gotSet => exact .inr rfl
  all_goals exact .inl rfl

theorem step_dropPointer {next : World} {event : Event} (stepped : step E world event = some next) :
    step E world.dropPointer event = some next.dropPointer := by
  have shape := transition_of_step stepped
  cases event with
  | gotSet response =>
      obtain ⟨pending, rfl⟩ := shape
      simp only [step, dropPointer, pending, if_true, Inner.gotSet_dropPointer]
  | getSetFailed =>
      obtain ⟨pending, rfl⟩ := shape
      simp only [step, dropPointer, pending, if_true]
      rfl
  | install request =>
      obtain ⟨positive, rfl⟩ := shape
      simp only [step, dropPointer, positive, if_true, Inner.install_dropPointer]
  | installDone request now result =>
      obtain ⟨inFlight, rfl⟩ := shape
      simp only [step, dropPointer, inFlight, if_true, Inner.installDone_dropPointer]
  | installFailed request =>
      obtain ⟨inFlight, rfl⟩ := shape
      simp only [step, dropPointer, inFlight, if_true]
  | updateFlags id flags =>
      subst shape
      rfl

/-- A session input is a session step up to the pointer fields; a pointer input
changes nothing else. -/
theorem handle_dropPointer {input : Input} {handled : World × List PointerEffect}
    (accepted : handle E st world input = some handled) :
    run E world.dropPointer input.event.toList = some handled.1.dropPointer := by
  cases input with
  | session event cursor =>
      obtain ⟨next, stepped, rfl | rfl⟩ := handle_session accepted
      · simp only [Input.event, Option.toList_some, run, runSteps_cons, runSteps_nil,
          step_dropPointer stepped, Option.some_bind]
      · obtain ⟨selected, selectedWorld, -⟩ := gotSetSelected_frame st E.layout cursor next
        simp only [Input.event, Option.toList_some, run, runSteps_cons, runSteps_nil,
          step_dropPointer stepped, Option.some_bind, selectedWorld]
        rfl
  | pointer input =>
      obtain ⟨result, handledBox, rfl⟩ := Option.map_eq_some'.1 accepted
      obtain ⟨selected, previewTimer, previewShown, framed⟩ :=
        Inner.handlePointer_frame st E.layout world.box handledBox
      simp only [Input.event, Option.toList_none, run, runSteps_nil, dropPointer, framed,
        Inner.dropPointer_withPointer]

theorem init_dropPointer (input : MTPInputStickerSet) (session : Session) :
    (init input session).dropPointer = init input session := by
  cases input <;> rfl

/-- Every state of the widget is, up to the pointer fields, a state the
session model reaches. -/
theorem reachable_dropPointer (reachable : WidgetReachable E st world) :
    Reachable E world.dropPointer := by
  induction reachable with
  | init input session =>
      rw [init_dropPointer]
      exact .init input session
  | handle input _ handled reachable => exact reachable_run reachable (handle_dropPointer handled)

/-- Every run of the widget is, up to the pointer fields, the run of the
session model over its session events in the same order: pointer inputs and
the closing `updateSelected()` of a fetch change nothing else. -/
theorem handleAll_refines_run :
    ∀ (inputs : List Input) {world : World} {last : World × List PointerEffect},
      handleAll E st world inputs = some last →
        run E world.dropPointer (inputs.filterMap Input.event) = some last.1.dropPointer := by
  intro inputs
  induction inputs with
  | nil =>
      intro world last ran
      cases ran
      rfl
  | cons input rest ih =>
      intro world last ran
      obtain ⟨handled, accepted, ranRest⟩ := Option.bind_eq_some.1 ran
      obtain ⟨tail, ranTail, rfl⟩ := Option.map_eq_some'.1 ranRest
      have split : (input :: rest).filterMap Input.event =
          input.event.toList ++ rest.filterMap Input.event := by
        rcases event : input.event with _ | event <;> simp [List.filterMap_cons, event]
      rw [split, run, runSteps_append, ← run, handle_dropPointer accepted, Option.some_bind]
      have ranRun := ih ranTail
      exact ranRun

theorem handleAll_refines_run_of_click :
    ∃ last, handleAll .sample Inner.Style.sample (init (.id 7 0) .empty)
        [.session (.gotSet fetchedSeven) (0, 0), .pointer (.mousePress (40, 40)),
          .pointer (.mouseRelease (40, 40)), .session (.install 1) (40, 40)] = some last ∧
      run .sample (init (.id 7 0) .empty).dropPointer [.gotSet fetchedSeven, .install 1] =
        some last.1.dropPointer := by
  obtain ⟨last, ran⟩ : ∃ last, handleAll .sample Inner.Style.sample (init (.id 7 0) .empty)
      [.session (.gotSet fetchedSeven) (0, 0), .pointer (.mousePress (40, 40)),
        .pointer (.mouseRelease (40, 40)), .session (.install 1) (40, 40)] = some last := ⟨_, rfl⟩
  exact ⟨last, ran, handleAll_refines_run _ ran⟩

/-- What every run keeps: the box's pointer invariant, and an empty pack while
the fetch is in flight. -/
structure PointerSafe (L : FlagLayout) (world : World) : Prop where
  box : world.box.PointerSafe L
  pending_empty : world.getSetPending = true → world.box.pack = []

theorem step_pointer {next : World} {event : Event} (stepped : step E world event = some next) :
    (∃ response, event = .gotSet response ∧ world.getSetPending = true ∧
      next.getSetPending = false ∧ next.box = (Inner.gotSet E response world.session world.box).box) ∨
    (next.box.elements = world.box.elements ∧ next.box.pack = world.box.pack ∧
      next.box.selected = world.box.selected ∧ next.box.previewTimer = world.box.previewTimer ∧
      next.box.previewShown = world.box.previewShown ∧
      next.box.isMasksSet E.layout = world.box.isMasksSet E.layout ∧
      (next.getSetPending = true → world.getSetPending = true)) := by
  have shape := transition_of_step stepped
  cases event with
  | gotSet response =>
      obtain ⟨pending, rfl⟩ := shape
      exact .inl ⟨response, rfl, pending, rfl, rfl⟩
  | getSetFailed =>
      obtain ⟨-, rfl⟩ := shape
      exact .inr ⟨rfl, rfl, rfl, rfl, rfl, rfl, fun pending => nomatch pending⟩
  | install request =>
      obtain ⟨-, rfl⟩ := shape
      unfold Inner.install
      split
      · exact .inr ⟨rfl, rfl, rfl, rfl, rfl, rfl, id⟩
      · split <;> exact .inr ⟨rfl, rfl, rfl, rfl, rfl, rfl, id⟩
  | installDone request now result =>
      obtain ⟨-, rfl⟩ := shape
      exact .inr ⟨rfl, rfl, rfl, rfl, rfl, Inner.installedFlags_masks .., id⟩
  | installFailed request =>
      obtain ⟨-, rfl⟩ := shape
      exact .inr ⟨rfl, rfl, rfl, rfl, rfl, rfl, id⟩
  | updateFlags setId flags =>
      subst shape
      exact .inr ⟨rfl, rfl, rfl, rfl, rfl, rfl, id⟩

theorem pointerSafe_step {next : World} {event : Event} (safe : world.PointerSafe E.layout)
    (stepped : step E world event = some next) : next.PointerSafe E.layout := by
  rcases step_pointer stepped with ⟨response, -, pending, done, fetchedBox⟩ |
    ⟨elements, pack, selected, -, previewShown, masks, pending⟩
  · obtain ⟨elements, cleared, -, previewShown⟩ :=
      Inner.gotSet_pointer E response world.session world.box
    have hidden := safe.box.previewShown_valid.eq_of_pack_eq_nil _ (safe.pending_empty pending)
    refine ⟨⟨?_, ?_, ?_, ?_⟩, fun stillPending => by simp [done] at stillPending⟩ <;>
      rw [fetchedBox]
    · exact elements
    · exact .inl cleared
    · exact .inl (previewShown.trans hidden)
    · exact fun _ => cleared
  · refine ⟨⟨?_, ?_, ?_, ?_⟩, fun stillPending => pack.trans (safe.pending_empty (pending stillPending))⟩
    · rw [elements, pack]
      exact safe.box.elements_length
    · unfold Inner.ValidIndex Inner.InPack
      rw [selected, pack]
      exact safe.box.selected_valid
    · unfold Inner.ValidIndex Inner.InPack
      rw [previewShown, pack]
      exact safe.box.previewShown_valid
    · rw [masks, selected]
      exact safe.box.masks_unselected

theorem pointerSafe_handle {input : Input} {handled : World × List PointerEffect}
    (safe : world.PointerSafe E.layout) (accepted : handle E st world input = some handled) :
    handled.1.PointerSafe E.layout := by
  cases input with
  | session event cursor =>
      obtain ⟨next, stepped, rfl | rfl⟩ := handle_session accepted
      · exact pointerSafe_step safe stepped
      · have stepSafe := pointerSafe_step safe stepped
        unfold gotSetSelected
        split
        · exact stepSafe
        · next filled =>
            refine ⟨Inner.pointerSafe_updateSelected st E.layout next.box stepSafe.box cursor, ?_⟩
            intro pending
            simp [stepSafe.pending_empty pending] at filled
  | pointer input =>
      obtain ⟨result, handledBox, rfl⟩ := Option.map_eq_some'.1 accepted
      obtain ⟨selected, previewTimer, previewShown, framed⟩ :=
        Inner.handlePointer_frame st E.layout world.box handledBox
      refine ⟨Inner.pointerSafe_handlePointer st E.layout world.box safe.box handledBox, ?_⟩
      intro pending
      simp only [framed, Inner.withPointer_pack]
      exact safe.pending_empty pending

/-- In every state of the widget the highlighted and the previewed index are
`-1` or stickers of the pack, so every `_pack[_previewShown]` the handlers read
is in range; a masks set is never highlighted; every sticker has its element. -/
theorem pointerSafe_of_widgetReachable (reachable : WidgetReachable E st world) :
    world.PointerSafe E.layout := by
  induction reachable with
  | init input session =>
      cases input <;> exact ⟨⟨rfl, .inl rfl, .inl rfl, fun _ => rfl⟩, fun _ => rfl⟩
  | handle input _ handled safe => exact pointerSafe_handle safe handled

def loadedSeven : World :=
  ((handle .sample Inner.Style.sample (init (.id 7 0) .empty)
    (.session (.gotSet fetchedSeven) (0, 0))).map (·.1)).getD (init (.id 7 0) .empty)

theorem loadedSeven_reachable : WidgetReachable .sample Inner.Style.sample loadedSeven :=
  .handle (.session (.gotSet fetchedSeven) (0, 0)) (.init (.id 7 0) .empty) rfl

theorem pointerSafe_of_seven :
    WidgetReachable .sample Inner.Style.sample loadedSeven ∧
      loadedSeven.PointerSafe Environment.sample.layout :=
  ⟨loadedSeven_reachable, pointerSafe_of_widgetReachable loadedSeven_reachable⟩

/-- Every effect of every input names only what the box then holds. -/
theorem handle_sound {input : Input} {handled : World × List PointerEffect}
    (accepted : handle E st world input = some handled) :
    ∀ effect ∈ handled.2, effect.Sound st E.layout handled.1.box := by
  cases input with
  | session event cursor =>
      obtain ⟨next, -, rfl | rfl⟩ := handle_session accepted
      · exact fun _ made => nomatch made
      · obtain ⟨selected, selectedWorld, none | updated⟩ := gotSetSelected_frame st E.layout cursor next
        · rw [none]
          exact fun _ made => nomatch made
        · intro effect made
          rw [updated] at made
          rw [selectedWorld, Inner.sound_withPointer]
          exact Inner.setSelected_sound st E.layout next.box _ effect made
  | pointer input =>
      obtain ⟨result, handledBox, rfl⟩ := Option.map_eq_some'.1 accepted
      obtain ⟨selected, previewTimer, previewShown, framed⟩ :=
        Inner.handlePointer_frame st E.layout world.box handledBox
      intro effect made
      simp only [framed, Inner.sound_withPointer]
      exact Inner.handlePointer_sound st E.layout world.box handledBox effect made

theorem handle_sound_of_fetch :
    ∃ handled, handle .sample Inner.Style.sample (init (.id 7 0) .empty)
        (.session (.gotSet fetchedSeven) (40, 40)) = some handled ∧
      handled.2 ≠ [] ∧ ∀ effect ∈ handled.2,
        effect.Sound Inner.Style.sample Environment.sample.layout handled.1.box := by
  obtain ⟨handled, accepted⟩ : ∃ handled, handle .sample Inner.Style.sample (init (.id 7 0) .empty)
      (.session (.gotSet fetchedSeven) (40, 40)) = some handled := ⟨_, rfl⟩
  refine ⟨handled, accepted, ?_, handle_sound accepted⟩
  rw [← Option.some.inj accepted]
  exact List.cons_ne_nil _ _

theorem handle_sends {input : Input} {handled : World × List PointerEffect}
    (accepted : handle E st world input = some handled) :
    (sentStickers handled.2).length + handled.1.box.previewTimer.toNat ≤
      input.isPress.toNat + world.box.previewTimer.toNat := by
  cases input with
  | session event cursor =>
      obtain ⟨next, stepped, selected⟩ := handle_session accepted
      have timer : next.box.previewTimer = world.box.previewTimer := by
        rcases step_pointer stepped with ⟨response, -, -, -, fetchedBox⟩ | ⟨-, -, -, timer, -⟩
        · rw [fetchedBox]
          exact (Inner.gotSet_pointer E response world.session world.box).2.2.1
        · exact timer
      rcases selected with rfl | rfl
      · simp [timer, Input.isPress]
      · obtain ⟨selected, selectedWorld, none | updated⟩ := gotSetSelected_frame st E.layout cursor next
        · simp [selectedWorld, none, timer, Inner.withPointer, Input.isPress]
        · simp [selectedWorld, updated, Inner.sentStickers_setSelected, timer, Inner.withPointer,
            Input.isPress]
  | pointer input =>
      obtain ⟨result, handledBox, rfl⟩ := Option.map_eq_some'.1 accepted
      exact Inner.handlePointer_sends st E.layout world.box handledBox

/-- Along any run, the stickers sent, plus one if the timer is left running,
are at most the presses, plus one if the timer ran at the start: a click sends
at most one sticker, and a long press that showed a preview sends none. -/
theorem handleAll_sends :
    ∀ {inputs : List Input} {last : World × List PointerEffect},
      handleAll E st world inputs = some last →
        (sentStickers last.2).length + last.1.box.previewTimer.toNat ≤
          inputs.countP Input.isPress + world.box.previewTimer.toNat := by
  intro inputs
  induction inputs generalizing world with
  | nil =>
      intro last ran
      cases ran
      simp
  | cons input rest ih =>
      intro last ran
      obtain ⟨handled, accepted, ranRest⟩ := Option.bind_eq_some.1 ran
      obtain ⟨tail, ranTail, rfl⟩ := Option.map_eq_some'.1 ranRest
      have first := handle_sends accepted
      have later := ih ranTail
      have press : (if input.isPress = true then 1 else 0) = input.isPress.toNat := by
        cases input.isPress <;> rfl
      simp only [sentStickers_append, List.length_append, List.countP_cons, press]
      omega

/-- From the constructor on, no run sends more stickers than the user pressed. -/
theorem sentStickers_le_presses (input : MTPInputStickerSet) (session : Session)
    {inputs : List Input} {last : World × List PointerEffect}
    (ran : handleAll E st (init input session) inputs = some last) :
    (sentStickers last.2).length ≤ inputs.countP Input.isPress := by
  have bound := handleAll_sends ran
  have idle : (init input session).box.previewTimer = false := by cases input <;> rfl
  simp only [idle, Bool.toNat_false, Nat.add_zero] at bound
  omega

theorem sentStickers_le_presses_of_click :
    ∃ last, handleAll .sample Inner.Style.sample (init (.id 7 0) .empty)
        [.session (.gotSet fetchedSeven) (0, 0), .pointer (.mousePress (40, 40)),
          .pointer (.mouseRelease (40, 40))] = some last ∧
      (sentStickers last.2).length ≤ 1 := by
  obtain ⟨last, ran⟩ : ∃ last, handleAll .sample Inner.Style.sample (init (.id 7 0) .empty)
      [.session (.gotSet fetchedSeven) (0, 0), .pointer (.mousePress (40, 40)),
        .pointer (.mouseRelease (40, 40))] = some last := ⟨_, rfl⟩
  exact ⟨last, ran, sentStickers_le_presses (.id 7 0) .empty ran⟩

theorem click_sends {point release : Point} (hidden : world.box.previewShown < 0)
    (pressed : world.box.InPack (Inner.stickerFromGlobalPos st world.box.pack.length point.1 point.2)) :
    (handleAll E st world [.pointer (.mousePress point), .pointer (.mouseRelease release)]).map
        (fun last => sentStickers last.2) =
      some (if send : world.box.InPack
            (Inner.stickerFromGlobalPos st world.box.pack.length release.1 release.2) ∧
          world.box.isMasksSet E.layout = false
        then [world.box.packAt _ send.1] else []) := by
  simp only [handleAll, handle, Inner.handlePointer, Option.map_some', Option.some_bind,
    sentStickers_append, sentStickers_nil, List.nil_append, List.append_nil]
  rw [Inner.mouseReleaseEvent_sends, Inner.mousePressEvent_eq]
  simp only [Inner.withPointer, pressed, decide_True, Bool.true_or, if_true, not_le.2 hidden, if_false]
  rfl

/-- A long press, where the timer fires before the release, sends nothing and
leaves no preview: the release hides the preview the timer showed, or finds the
timer stopped. -/
theorem long_press_sends_nothing {point cursor release : Point}
    (pressed : world.box.InPack (Inner.stickerFromGlobalPos st world.box.pack.length point.1 point.2)) :
    ∃ last, handleAll E st world [.pointer (.mousePress point), .pointer (.previewTimeout cursor),
        .pointer (.mouseRelease release)] = some last ∧
      sentStickers last.2 = [] ∧ last.1.box.previewShown < 0 := by
  have running : (Inner.mousePressEvent st point world.box).previewTimer = true := by
    simp [Inner.mousePressEvent_eq, Inner.withPointer, pressed]
  obtain ⟨shown, preview⟩ := Inner.showPreview_box st
    { Inner.mousePressEvent st point world.box with previewTimer := false } cursor
  simp only [handleAll, handle, Inner.handlePointer, running, if_true, Option.map_some',
    Option.some_bind, Option.some.injEq, exists_eq_left', sentStickers_append, sentStickers_nil,
    Inner.sentStickers_showPreview, List.nil_append, List.append_nil]
  rw [Inner.mouseReleaseEvent_sends, Inner.mouseReleaseEvent_box, preview]
  by_cases visible : 0 ≤ shown
  · simp only [Inner.withPointer_previewShown, visible, if_true]
    exact ⟨trivial, by omega⟩
  · simp only [Inner.withPointer_previewShown, Inner.withPointer_previewTimer, visible, if_false,
      Bool.false_eq_true]
    exact ⟨trivial, by omega⟩

theorem long_press_sends_nothing_of_seven :
    loadedSeven.box.InPack
        (Inner.stickerFromGlobalPos Inner.Style.sample loadedSeven.box.pack.length 40 40) ∧
      ∃ last, handleAll .sample Inner.Style.sample loadedSeven [.pointer (.mousePress (40, 40)),
          .pointer (.previewTimeout (40, 40)), .pointer (.mouseRelease (40, 40))] = some last ∧
        sentStickers last.2 = [] ∧ last.1.box.previewShown < 0 :=
  ⟨by decide, long_press_sends_nothing (by decide)⟩

theorem installDone_installed (now : TimeId) (result : MTPStickerSetInstallResult) (session : Session)
    (box : Inner) (notCustom : box.setId ≠ E.customSetId) :
    Installed E.layout (Inner.installDone E now result session box).session.registry.sets
      (Inner.installDone E now result session box).box := by
  obtain ⟨it, stored, flags, -⟩ := Inner.installDone_lookup_self E now result session box notCustom
  exact ⟨it, stored, by rw [flags, Inner.installedFlags_installed],
    by rw [flags, Inner.installedFlags_not_archived]⟩

/-- Once an install completes, the box no longer offers to add the set, for any
set but the custom bucket. -/
theorem installDone_hides_add {next : World} {request : RequestId} {now : TimeId}
    {result : MTPStickerSetInstallResult}
    (stepped : step E world (.installDone request now result) = some next)
    (notCustom : world.box.setId ≠ E.customSetId) :
    .lngStickersAddPack ∉ updateButtons E.layout next.session.registry.sets next.box := by
  obtain ⟨-, rfl⟩ := transition_of_step stepped
  rw [(updateButtons_spec ..).1]
  rintro ⟨-, -, notHeld⟩
  exact notHeld (installDone_installed now result world.session world.box notCustom)

def installingSeven : World :=
  (run .sample (init (.id 7 0) .empty) [.gotSet fetchedSeven, .install 1]).getD (init (.id 7 0) .empty)

theorem installDone_hides_add_of_seven :
    ∃ next, step .sample installingSeven (.installDone 1 0 .success) = some next ∧
      installingSeven.box.setId ≠ Environment.sample.customSetId ∧
      .lngStickersAddPack ∉ updateButtons Environment.sample.layout next.session.registry.sets next.box := by
  obtain ⟨next, stepped⟩ : ∃ next, step .sample installingSeven (.installDone 1 0 .success) = some next :=
    ⟨_, rfl⟩
  exact ⟨next, stepped, by decide, installDone_hides_add stepped (by decide)⟩

end Widget

end World

end StickerSetBox
