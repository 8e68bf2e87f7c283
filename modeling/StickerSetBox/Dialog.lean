import StickerSetBox.Outer
import StickerSetBox.Widget

/-!
# The dialog

The outer box over the widget: the inner box handles every input (a session
event, delivered with the cursor where it is, or a pointer input), the outer
box hears the inner box's signals, and the session may fire `stickersUpdated`
at any time. An input that carries an event the outer box does not offer (an
install with no "Add" on screen) is refused.

Forgetting the pointer fields maps each dialog input onto at most one step of
the outer box over the session model: a pointer input changes nothing the
outer box reads. So every run of the dialog is, up to the pointer fields, a run
of `Screen` over its session events, and what `Outer` proves of the title, the
buttons and the closing holds under any pointer activity.
-/

namespace StickerSetBox

set_option autoImplicit false

inductive DialogEvent
  | input (input : Input)
  | stickersUpdated

/-- The event of the outer box over the session model that a dialog event is;
a pointer input is none. -/
def DialogEvent.toScreen : DialogEvent → Option ScreenEvent
  | .input (.session event _) => some (.session event)
  | .input (.pointer _) => none
  | .stickersUpdated => some .stickersUpdated

def Input.effects (E : Environment) (world : World) : Input → List Effect
  | .session event _ => World.effects E world event
  | .pointer _ => []

namespace Screen

/-- One dialog event: the widget handles an input the outer box offers, and the
outer box reacts to the inner box's effects, in order; `stickersUpdated` is as
over the session. -/
def handle (E : Environment) (st : Style) (screen : Screen) : DialogEvent → Option Screen
  | .input input =>
      if input.event.all screen.outer.offers then
        (World.handle E st screen.world input).map fun handled =>
          ⟨handled.1, (input.effects E screen.world).foldl
            (Outer.react E handled.1.session.registry.sets handled.1.box) screen.outer⟩
      else none
  | .stickersUpdated => step E screen .stickersUpdated

theorem handle_input {E : Environment} {st : Style} {screen next : Screen} {input : Input}
    (accepted : handle E st screen (.input input) = some next) :
    input.event.all screen.outer.offers = true ∧ ∃ handled, World.handle E st screen.world input =
      some handled ∧ next = ⟨handled.1, (input.effects E screen.world).foldl
        (Outer.react E handled.1.session.registry.sets handled.1.box) screen.outer⟩ := by
  simp only [handle] at accepted
  split at accepted
  · obtain ⟨handled, worldHandled, rfl⟩ := Option.map_eq_some'.1 accepted
    exact ⟨‹_›, handled, worldHandled, rfl⟩
  · cases accepted

def handleAll (E : Environment) (st : Style) : Screen → List DialogEvent → Option Screen :=
  runSteps (handle E st)

inductive DialogReachable (E : Environment) (st : Style) : Screen → Prop
  | init (input : MTPInputStickerSet) (session : Session) : DialogReachable E st (init E input session)
  | handle {screen next : Screen} (event : DialogEvent) :
      DialogReachable E st screen → handle E st screen event = some next → DialogReachable E st next

def dropPointer (screen : Screen) : Screen := ⟨screen.world.dropPointer, screen.outer⟩

theorem dialogReachable_handleAll {E : Environment} {st : Style} {screen last : Screen}
    (reachable : DialogReachable E st screen) {events : List DialogEvent}
    (ran : handleAll E st screen events = some last) : DialogReachable E st last :=
  runSteps_closed (handle E st) (fun event reachable handled => reachable.handle event handled)
    reachable ran

end Screen

section Refinement

variable {E : Environment} {st : Style}

theorem react_dropPointer (sets : Sets) (box : Inner) :
    Outer.react E sets box.dropPointer = Outer.react E sets box := by
  funext outer effect
  cases effect <;> rfl

theorem effects_dropPointer (world : World) (event : Event) :
    World.effects E world.dropPointer event = World.effects E world event := by
  cases event with
  | gotSet response =>
      simp only [World.effects, World.dropPointer, Inner.gotSet_dropPointer]
  | install request =>
      simp only [World.effects, World.dropPointer, Inner.install_dropPointer]
  | getSetFailed | installDone _ _ _ | installFailed _ | updateFlags _ _ => rfl

/-- A dialog event is, up to the pointer fields, the step of the outer box over
the session model it stands for, or nothing at all for a pointer input. -/
theorem handle_dropPointer {screen next : Screen} {event : DialogEvent}
    (accepted : Screen.handle E st screen event = some next) :
    Screen.run E screen.dropPointer event.toScreen.toList = some next.dropPointer := by
  cases event with
  | stickersUpdated =>
      cases accepted
      rfl
  | input input =>
      obtain ⟨offered, handled, worldHandled, rfl⟩ := Screen.handle_input accepted
      cases input with
      | session event cursor =>
          have offeredEvent : screen.outer.offers event = true := offered
          obtain ⟨next, stepped, same⟩ := World.handle_session worldHandled
          have dropped : handled.1.dropPointer = next.dropPointer := by
            rcases same with rfl | rfl
            · rfl
            · obtain ⟨selected, selectedWorld, -⟩ := World.gotSetSelected_frame st E.layout cursor next
              rw [selectedWorld]
              rfl
          simp only [DialogEvent.toScreen, Option.toList_some, Screen.run, runSteps_cons,
            runSteps_nil, Screen.step, Screen.dropPointer, offeredEvent, if_true,
            World.step_dropPointer stepped, Option.map_some', Option.some_bind, effects_dropPointer,
            Input.effects]
          rw [← dropped, World.dropPointer, react_dropPointer]
      | pointer input =>
          have same := Option.some.inj (World.handle_dropPointer worldHandled)
          simp only [DialogEvent.toScreen, Option.toList_none, Screen.run, runSteps_nil, Input.effects,
            List.foldl_nil, Screen.dropPointer, ← same]

theorem handle_session_eq_step {screen : Screen} {event : Event} {cursor : Point}
    (notFetch : ∀ response, event ≠ .gotSet response) :
    Screen.handle E st screen (.input (.session event cursor)) = Screen.step E screen (.session event) := by
  cases event
  case gotSet response => exact absurd rfl (notFetch response)
  all_goals simp only [Screen.handle, World.handle, Screen.step, Input.effects, Input.event,
    Option.all_some, Option.map_map]; rfl

theorem handleAll_dropPointer :
    ∀ (events : List DialogEvent) {screen last : Screen},
      Screen.handleAll E st screen events = some last →
        Screen.run E screen.dropPointer (events.filterMap DialogEvent.toScreen) =
          some last.dropPointer := by
  intro events
  induction events with
  | nil =>
      intro screen last ran
      cases ran
      rfl
  | cons event rest ih =>
      intro screen last ran
      obtain ⟨next, handled, ranRest⟩ := Option.bind_eq_some.1 ran
      have split : (event :: rest).filterMap DialogEvent.toScreen =
          event.toScreen.toList ++ rest.filterMap DialogEvent.toScreen := by
        rcases toScreen : event.toScreen with _ | screenEvent <;> simp [List.filterMap_cons, toScreen]
      rw [split, Screen.run, runSteps_append, ← Screen.run, handle_dropPointer handled, Option.some_bind]
      exact ih ranRest

theorem init_screen_dropPointer (E : Environment) (input : MTPInputStickerSet) (session : Session) :
    (Screen.init E input session).dropPointer = Screen.init E input session := by
  cases input <;> rfl

theorem dialogReachable_dropPointer {screen : Screen}
    (reachable : Screen.DialogReachable E st screen) : Screen.Reachable E screen.dropPointer := by
  induction reachable with
  | init input session =>
      rw [init_screen_dropPointer]
      exact .init input session
  | handle event _ accepted reachable =>
      have stepped := handle_dropPointer accepted
      cases toScreen : event.toScreen with
      | none =>
          rw [toScreen, Option.toList_none, Screen.run] at stepped
          exact Option.some.inj stepped ▸ reachable
      | some screenEvent =>
          rw [toScreen, Option.toList_some, Screen.run] at stepped
          obtain ⟨next, step, ran⟩ := Option.bind_eq_some.1 stepped
          cases ran
          exact reachable.step screenEvent step

end Refinement

section Dialog

variable {E : Environment} {st : Style}

def installingDialog : Screen :=
  (Screen.handleAll .sample Inner.Style.sample (Screen.init .sample (.id 7 0) .empty)
    [.input (.session (.gotSet fetchedSeven) (0, 0)), .input (.session (.install 1) (0, 0))]).getD
    (Screen.init .sample (.id 7 0) .empty)

theorem installingDialog_reachable :
    Screen.DialogReachable .sample Inner.Style.sample installingDialog := by
  have ran : Screen.handleAll .sample Inner.Style.sample (Screen.init .sample (.id 7 0) .empty)
      [.input (.session (.gotSet fetchedSeven) (0, 0)), .input (.session (.install 1) (0, 0))] =
        some installingDialog := rfl
  exact Screen.dialogReachable_handleAll (.init _ _) ran

def installedDialog : Screen :=
  (Screen.handle .sample Inner.Style.sample installingDialog
    (.input (.session (.installDone 1 0 .success) (0, 0)))).getD installingDialog

theorem installedDialog_reachable :
    Screen.DialogReachable .sample Inner.Style.sample installedDialog :=
  .handle (.input (.session (.installDone 1 0 .success) (0, 0))) installingDialog_reachable rfl

/-- Under any pointer activity, the dialog says "loading" while the box holds no
stickers, and shows the set's title once it does: never "attach failed". -/
theorem dialog_titleShown {screen : Screen} (reachable : Screen.DialogReachable E st screen) :
    TitleShown screen :=
  let shown := titleShown_of_reachable (dialogReachable_dropPointer reachable)
  ⟨shown.loading_or_set, shown.pending_loading⟩

theorem dialog_titleShown_of_seven :
    Screen.DialogReachable .sample Inner.Style.sample installedDialog ∧ TitleShown installedDialog :=
  ⟨installedDialog_reachable, dialog_titleShown installedDialog_reachable⟩

/-- Every answered install request closes the dialog and reports the set,
wherever the pointer is. -/
theorem dialog_installDone_closes {screen next : Screen} {request : RequestId} {now : TimeId}
    {result : MTPStickerSetInstallResult} {cursor : Point}
    (accepted : Screen.handle E st screen (.input (.session (.installDone request now result) cursor)) =
      some next) :
    next.outer.closed = true ∧ screen.world.box.setId ∈ next.outer.reported := by
  have stepped := handle_dropPointer accepted
  simp only [DialogEvent.toScreen, Option.toList_some, Screen.run, runSteps_cons, runSteps_nil,
    Option.bind_eq_some, Option.some.injEq, exists_eq_right] at stepped
  have closes := installDone_closes stepped
  exact closes

theorem dialog_installDone_closes_of_seven :
    Screen.handle .sample Inner.Style.sample installingDialog
        (.input (.session (.installDone 1 0 .success) (0, 0))) = some installedDialog ∧
      installedDialog.outer.closed = true ∧
      installingDialog.world.box.setId ∈ installedDialog.outer.reported :=
  have accepted : Screen.handle .sample Inner.Style.sample installingDialog
      (.input (.session (.installDone 1 0 .success) (0, 0))) = some installedDialog := rfl
  ⟨accepted, dialog_installDone_closes accepted⟩

/-- Under any pointer activity, the dialog calls `api().stickerSetInstalled` at
most once, and not while its install request is in flight. -/
theorem dialog_reported_at_most_once {screen : Screen}
    (reachable : Screen.DialogReachable E st screen) :
    screen.outer.reported.length ≤ 1 ∧ (screen.outer.reported ≠ [] → screen.world.inFlight = []) := by
  have once := reported_at_most_once (dialogReachable_dropPointer reachable)
  exact once

theorem dialog_reported_at_most_once_of_seven :
    Screen.DialogReachable .sample Inner.Style.sample installedDialog ∧
      installedDialog.outer.reported = [7] ∧ installedDialog.outer.reported.length ≤ 1 ∧
      (installedDialog.outer.reported ≠ [] → installedDialog.world.inFlight = []) :=
  ⟨installedDialog_reachable, rfl, dialog_reported_at_most_once installedDialog_reachable⟩

/-- On every dialog a run reaches from the box's construction in which each flag
update from elsewhere is announced by `stickersUpdated` before the next session
event, pointer inputs aside, the open dialog offers "Add" exactly when the set
has arrived with stickers and the registry does not hold it installed and
unarchived. -/
theorem dialog_add_offered_iff {input : MTPInputStickerSet} {session : Session}
    {events : List DialogEvent} {last : Screen}
    (announced : ScreenEvent.Announced (events.filterMap DialogEvent.toScreen))
    (ran : Screen.handleAll E st (Screen.init E input session) events = some last)
    (stillOpen : last.outer.closed = false) :
    .lngStickersAddPack ∈ last.outer.buttons ↔
      last.world.box.loaded = true ∧ last.world.box.pack ≠ [] ∧
        ¬Installed E.layout last.world.session.registry.sets last.world.box := by
  have simulated := handleAll_dropPointer events ran
  rw [init_screen_dropPointer] at simulated
  have offered := add_offered_iff announced simulated stillOpen
  exact offered

theorem dialog_add_offered_iff_of_seven :
    ScreenEvent.Announced ([.input (.session (.gotSet fetchedSeven) (0, 0)),
        .input (.session (.install 1) (0, 0))].filterMap DialogEvent.toScreen) ∧
      Screen.handleAll .sample Inner.Style.sample (Screen.init .sample (.id 7 0) .empty)
        [.input (.session (.gotSet fetchedSeven) (0, 0)), .input (.session (.install 1) (0, 0))] =
          some installingDialog ∧
      installingDialog.outer.closed = false ∧
      (.lngStickersAddPack ∈ installingDialog.outer.buttons ↔
        installingDialog.world.box.loaded = true ∧ installingDialog.world.box.pack ≠ [] ∧
          ¬Installed Environment.sample.layout installingDialog.world.session.registry.sets
            installingDialog.world.box) := by
  have announced : ScreenEvent.Announced ([.input (.session (.gotSet fetchedSeven) (0, 0)),
      .input (.session (.install 1) (0, 0))].filterMap DialogEvent.toScreen) :=
    by simp [ScreenEvent.Announced, DialogEvent.toScreen, ScreenEvent.isFlagUpdate]
  have ran : Screen.handleAll .sample Inner.Style.sample (Screen.init .sample (.id 7 0) .empty)
      [.input (.session (.gotSet fetchedSeven) (0, 0)), .input (.session (.install 1) (0, 0))] =
        some installingDialog := rfl
  have stillOpen : installingDialog.outer.closed = false := rfl
  exact ⟨announced, ran, stillOpen, dialog_add_offered_iff announced ran stillOpen⟩

/-- Once the fetch is over and has left the box without stickers, because it
failed or found none, the dialog says "loading" and offers only "Cancel" for the
rest of its life, whatever the user and the session do next. -/
theorem dialog_stays_loading {screen last : Screen} (reachable : Screen.DialogReachable E st screen)
    (ended : screen.world.getSetPending = false) (empty : screen.world.box.pack = [])
    {events : List DialogEvent} (ran : Screen.handleAll E st screen events = some last) :
    last.outer.title = .lngContactsLoading ∧ last.outer.buttons = [.lngCancel] := by
  have simulated := handleAll_dropPointer events ran
  have lastReachable := Screen.reachable_run (dialogReachable_dropPointer reachable) simulated
  have endedDropped : screen.dropPointer.world.getSetPending = false := ended
  have stillEmpty : last.dropPointer.world.box.pack = [] :=
    (keepsSet_run _ endedDropped simulated).1.pack.trans empty
  have title := title_loading_of_pack_nil lastReachable stillEmpty
  exact ⟨title, (buttonsShown_of_reachable lastReachable).cancel_of_empty stillEmpty⟩

def failedDialog : Screen :=
  (Screen.handle .sample Inner.Style.sample (Screen.init .sample (.id 7 0) .empty)
    (.input (.session .getSetFailed (0, 0)))).getD (Screen.init .sample (.id 7 0) .empty)

def afterFailure : List DialogEvent :=
  [.input (.pointer (.mousePress (40, 40))), .input (.pointer (.mouseRelease (40, 40))),
    .input (.session (.updateFlags 7 0) (0, 0)), .stickersUpdated]

theorem dialog_stays_loading_after_failure :
    Screen.DialogReachable .sample Inner.Style.sample failedDialog ∧
      failedDialog.world.getSetPending = false ∧ failedDialog.world.box.pack = [] ∧
      (Screen.handleAll .sample Inner.Style.sample failedDialog afterFailure).map
        (fun last => (last.outer.title, last.outer.buttons)) = some (.lngContactsLoading, [.lngCancel]) := by
  have reachable : Screen.DialogReachable .sample Inner.Style.sample failedDialog :=
    .handle (.input (.session .getSetFailed (0, 0))) (.init (.id 7 0) .empty) rfl
  obtain ⟨last, ran⟩ : ∃ last, Screen.handleAll .sample Inner.Style.sample failedDialog afterFailure =
      some last := ⟨_, rfl⟩
  obtain ⟨title, buttons⟩ := dialog_stays_loading reachable rfl rfl ran
  refine ⟨reachable, rfl, rfl, ?_⟩
  rw [ran, Option.map_some', title, buttons]

/-- Under any pointer activity, the buttons on the dialog agree with the set,
though they are refreshed only when the box or the session signals: "Share"
copies a link that names the set, and "Done" is shown only for an official set. -/
theorem dialog_buttons_name_set {screen : Screen} (reachable : Screen.DialogReachable E st screen) :
    (.lngStickersSharePack ∈ screen.outer.buttons →
        Outer.shareStickers screen.world.box ≠ "addstickers/") ∧
      (.lngAboutDone ∈ screen.outer.buttons → screen.world.box.official = true) := by
  have shown := buttonsShown_of_reachable (dialogReachable_dropPointer reachable)
  exact ⟨fun share => @shareStickers_named screen.world.box (shown.share_named share),
    shown.done_official⟩

theorem dialog_buttons_name_set_of_seven :
    Screen.DialogReachable .sample Inner.Style.sample installedDialog ∧
      .lngStickersSharePack ∈ installedDialog.outer.buttons ∧
      Outer.shareStickers installedDialog.world.box ≠ "addstickers/" := by
  have share : .lngStickersSharePack ∈ installedDialog.outer.buttons := by decide
  exact ⟨installedDialog_reachable, share, (dialog_buttons_name_set installedDialog_reachable).1 share⟩

/-- In every dialog whose fetch is in flight, after any pointer activity, the
fetch's answer gets through and decides what the dialog shows: with a sticker,
the set's title and the buttons `updateButtons` computes; without one,
"loading" and only "Cancel". -/
theorem dialog_fetch_answered {screen : Screen} (reachable : Screen.DialogReachable E st screen)
    (pending : screen.world.getSetPending = true) (response : MTPDmessagesStickerSet) (cursor : Point) :
    ∃ next, Screen.handle E st screen (.input (.session (.gotSet response) cursor)) = some next ∧
      next.world.getSetPending = false ∧
      next.world.box.pack = (response.documents.filter (·.sticker)).map (·.id) ∧
      (next.world.box.pack ≠ [] → next.outer.title = .text (E.getSetTitle response.set) ∧
        next.outer.buttons = updateButtons E.layout next.world.session.registry.sets next.world.box) ∧
      (next.world.box.pack = [] →
        next.outer.title = .lngContactsLoading ∧ next.outer.buttons = [.lngCancel]) := by
  obtain ⟨next, accepted⟩ := Option.isSome_iff_exists.1
    (by simp [Screen.handle, Input.event, Outer.offers, World.handle, World.step, pending] :
      (Screen.handle E st screen (.input (.session (.gotSet response) cursor))).isSome)
  have stepped := handle_dropPointer accepted
  simp only [DialogEvent.toScreen, Option.toList_some, Screen.run, runSteps_cons, runSteps_nil,
    Option.bind_eq_some, Option.some.injEq, exists_eq_right] at stepped
  obtain ⟨done, pack, -, filled, quiet⟩ := gotSet_screen_step stepped
  have screenReachable := dialogReachable_dropPointer reachable
  refine ⟨next, accepted, done, pack, filled, fun empty => ?_⟩
  have same : next.outer = { screen.outer with closed := screen.outer.closed || E.noticeClosesBox } :=
    quiet empty
  have loading := (titleShown_of_reachable screenReachable).pending_loading pending
  have cancel := (buttonsShown_of_reachable screenReachable).cancel_of_empty
    (fetching_of_reachable screenReachable pending)
  rw [same]
  exact ⟨loading, cancel⟩

theorem dialog_fetch_answered_of_seven :
    Screen.DialogReachable .sample Inner.Style.sample (Screen.init .sample (.id 7 0) .empty) ∧
      (Screen.init .sample (.id 7 0) .empty).world.getSetPending = true ∧
      ∃ next, Screen.handle .sample Inner.Style.sample (Screen.init .sample (.id 7 0) .empty)
          (.input (.session (.gotSet fetchedSeven) (0, 0))) = some next ∧
        next.world.box.pack = [1] ∧ next.outer.title = .text "" := by
  have reachable : Screen.DialogReachable .sample Inner.Style.sample
      (Screen.init .sample (.id 7 0) .empty) := .init _ _
  obtain ⟨next, accepted, -, pack, filled, -⟩ :=
    dialog_fetch_answered reachable rfl fetchedSeven (0, 0)
  have one : next.world.box.pack = [1] := pack
  exact ⟨reachable, rfl, next, accepted, one, (filled (by simp [one])).1⟩

/-- From any open dialog showing "Add" whose set is not a masks set and whose
box has sent no install request, a click on "Add" and the answer to the request
it sends, whatever the answer and wherever the pointer is, close the dialog and
report the set; unless the set is the custom bucket, the registry then holds it
installed and not archived. -/
theorem dialog_install_completes {screen : Screen} (stillOpen : screen.outer.closed = false)
    (offered : .lngStickersAddPack ∈ screen.outer.buttons)
    (notMasks : screen.world.box.isMasksSet E.layout = false)
    (fresh : screen.world.box.installRequest = 0) {request : RequestId} (positive : 0 < request)
    (now : TimeId) (result : MTPStickerSetInstallResult) (cursor answered : Point) :
    ∃ last, Screen.handleAll E st screen [.input (.session (.install request) cursor),
        .input (.session (.installDone request now result) answered)] = some last ∧
      last.outer.closed = true ∧ screen.world.box.setId ∈ last.outer.reported ∧
      (screen.world.box.setId ≠ E.customSetId →
        Installed E.layout last.world.session.registry.sets last.world.box) := by
  obtain ⟨clicked, click, inFlight, sameSet⟩ :=
    install_screen_step positive stillOpen offered notMasks fresh
  obtain ⟨last, answer⟩ := @installDone_screen_accepted E clicked request now result inFlight
  have notFetchInstall : ∀ response, Event.install request ≠ .gotSet response := fun _ => nofun
  have notFetchAnswer : ∀ response, Event.installDone request now result ≠ .gotSet response :=
    fun _ => nofun
  have ran : Screen.handleAll E st screen [.input (.session (.install request) cursor),
      .input (.session (.installDone request now result) answered)] = some last := by
    simp only [Screen.handleAll, runSteps_cons, runSteps_nil, handle_session_eq_step notFetchInstall,
      click, handle_session_eq_step notFetchAnswer, answer, Option.some_bind]
  obtain ⟨closed, reported⟩ := installDone_closes answer
  obtain ⟨world, worldStepped, rfl⟩ := Option.map_eq_some'.1 answer
  obtain ⟨-, rfl⟩ := World.transition_of_step worldStepped
  exact ⟨_, ran, closed, sameSet ▸ reported, fun notCustom =>
    World.installDone_installed now result clicked.world.session clicked.world.box (sameSet ▸ notCustom)⟩

def loadedDialog : Screen :=
  (Screen.handle .sample Inner.Style.sample (Screen.init .sample (.id 7 0) .empty)
    (.input (.session (.gotSet fetchedSeven) (0, 0)))).getD (Screen.init .sample (.id 7 0) .empty)

theorem dialog_install_completes_of_seven :
    loadedDialog.outer.closed = false ∧ .lngStickersAddPack ∈ loadedDialog.outer.buttons ∧
      loadedDialog.world.box.isMasksSet Environment.sample.layout = false ∧
      loadedDialog.world.box.installRequest = 0 ∧
      ∃ last, Screen.handleAll .sample Inner.Style.sample loadedDialog
          [.input (.session (.install 1) (40, 40)), .input (.session (.installDone 1 0 .success) (0, 0))] =
            some last ∧
        last.outer.closed = true ∧ loadedDialog.world.box.setId ∈ last.outer.reported ∧
        (loadedDialog.world.box.setId ≠ Environment.sample.customSetId →
          Installed Environment.sample.layout last.world.session.registry.sets last.world.box) := by
  have stillOpen : loadedDialog.outer.closed = false := rfl
  have offered : .lngStickersAddPack ∈ loadedDialog.outer.buttons := by decide
  have notMasks : loadedDialog.world.box.isMasksSet Environment.sample.layout = false := rfl
  have fresh : loadedDialog.world.box.installRequest = 0 := rfl
  exact ⟨stillOpen, offered, notMasks, fresh, dialog_install_completes stillOpen offered notMasks fresh
    (by decide) 0 .success (40, 40) (0, 0)⟩

end Dialog

end StickerSetBox
