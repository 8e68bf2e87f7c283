import StickerSetBox.Dialog

/-!
# The dialog's lifecycle

What the dialog is for, said apart from the code: it fetches a sticker set, then
shows it or has found nothing, and it closes once the set is installed. `Phase`
is that machine and `Phase.Step` its moves: stay, close, or leave the fetch.
`Screen.phase` reads the phase off a dialog's state.

Every dialog event, whether a session event, a pointer input or
`stickersUpdated`, and from any state at all, is a move of the lifecycle. So over
every run the phase only moves forward: a set on screen never goes back to
"loading", a fetch that found nothing is never followed by a set, and a closed
dialog stays closed. And in every dialog the box can show, what is on screen is
the phase's view: "loading" and only "Cancel" until the set is shown, then the
set's title.
-/

namespace StickerSetBox

set_option autoImplicit false

/-- The phases of the dialog's life. -/
inductive Phase
  | fetching
  | notFound
  | shown
  | closed
  deriving DecidableEq, Repr

namespace Phase

/-- The lifecycle's moves: stay, close, or leave the fetch. -/
def Step (phase next : Phase) : Prop := next = phase ∨ next = .closed ∨ phase = .fetching

instance (phase next : Phase) : Decidable (Step phase next) :=
  inferInstanceAs (Decidable (_ ∨ _ ∨ _))

theorem Step.trans {phase middle next : Phase} (first : Step phase middle)
    (second : Step middle next) : Step phase next := by
  rcases first with rfl | rfl | fetching
  · exact second
  · rcases second with rfl | rfl | impossible
    · exact .inr (.inl rfl)
    · exact .inr (.inl rfl)
    · cases impossible
  · exact .inr (.inr fetching)

end Phase

/-- The phase of a dialog: closed once `closeBox` ran, fetching while the
request is in flight, then shown or not found as the box holds stickers. -/
def Screen.phase (screen : Screen) : Phase :=
  if screen.outer.closed then .closed
  else if screen.world.getSetPending then .fetching
  else if screen.world.box.pack.isEmpty then .notFound
  else .shown

theorem Screen.phase_dropPointer (screen : Screen) : screen.dropPointer.phase = screen.phase := rfl

section Moves

variable {E : Environment} {st : Style}

theorem foldl_react_closed (E : Environment) (sets : Sets) (inner : Inner) :
    ∀ (effects : List Effect) (outer : Outer), outer.closed = true →
      (effects.foldl (Outer.react E sets inner) outer).closed = true := by
  intro effects
  induction effects with
  | nil => exact fun _ closed => closed
  | cons effect rest ih =>
      intro outer closed
      apply ih
      cases effect <;> first | exact closed | rfl | exact congrArg (· || E.noticeClosesBox) closed

theorem closed_screen_step {screen next : Screen} {event : ScreenEvent}
    (closed : screen.outer.closed = true) (stepped : Screen.step E screen event = some next) :
    next.outer.closed = true := by
  cases event with
  | stickersUpdated =>
      cases stepped
      exact closed
  | session event =>
      obtain ⟨-, world, -, rfl⟩ := Screen.step_session stepped
      exact foldl_react_closed _ _ _ _ _ closed

theorem phase_screen_step {screen next : Screen} {event : ScreenEvent}
    (stepped : Screen.step E screen event = some next) : Phase.Step screen.phase next.phase := by
  by_cases closed : screen.outer.closed = true
  · have stillClosed := closed_screen_step closed stepped
    exact .inl (by simp [Screen.phase, closed, stillClosed])
  by_cases pending : screen.world.getSetPending = true
  · exact .inr (.inr (by simp [Screen.phase, closed, pending]))
  obtain ⟨kept, done⟩ := keepsSet_screen_step (by simpa using pending) stepped
  by_cases nowClosed : next.outer.closed = true
  · exact .inr (.inl (by simp [Screen.phase, nowClosed]))
  · exact .inl (by simp [Screen.phase, closed, pending, nowClosed, done, kept.pack])

theorem phase_handle {screen next : Screen} {event : DialogEvent}
    (accepted : Screen.handle E st screen event = some next) : Phase.Step screen.phase next.phase := by
  have stepped := handle_dropPointer accepted
  rw [← Screen.phase_dropPointer screen, ← Screen.phase_dropPointer next]
  cases toScreen : event.toScreen with
  | none =>
      rw [toScreen, Option.toList_none, Screen.run] at stepped
      exact .inl (congrArg Screen.phase (Option.some.inj stepped)).symm
  | some screenEvent =>
      rw [toScreen, Option.toList_some, Screen.run] at stepped
      obtain ⟨middle, step, ran⟩ := Option.bind_eq_some.1 stepped
      cases ran
      exact phase_screen_step step

/-- Over every run of the dialog, from any state, the phase only moves forward:
a set on screen never goes back to "loading", a fetch that found nothing is
never followed by a set, and a closed dialog stays closed. -/
theorem dialog_phase_run :
    ∀ (events : List DialogEvent) {screen last : Screen},
      Screen.handleAll E st screen events = some last → Phase.Step screen.phase last.phase :=
  fun _ screen _ ran => @runSteps_closed _ _ (Screen.handle E st)
    (fun next => Phase.Step screen.phase next.phase)
    (fun _ moved accepted => moved.trans (phase_handle accepted)) _ _ _ (.inl rfl) ran

theorem dialog_phase_run_of_seven :
    Screen.handleAll .sample Inner.Style.sample (Screen.init .sample (.id 7 0) .empty)
        [.input (.session (.gotSet fetchedSeven) (0, 0)), .input (.session (.install 1) (0, 0)),
          .input (.session (.installDone 1 0 .success) (0, 0))] = some installedDialog ∧
      Phase.Step (Screen.init .sample (.id 7 0) .empty).phase installedDialog.phase ∧
      (Screen.init .sample (.id 7 0) .empty).phase = .fetching ∧ installedDialog.phase = .closed := by
  have ran : Screen.handleAll .sample Inner.Style.sample (Screen.init .sample (.id 7 0) .empty)
      [.input (.session (.gotSet fetchedSeven) (0, 0)), .input (.session (.install 1) (0, 0)),
        .input (.session (.installDone 1 0 .success) (0, 0))] = some installedDialog := rfl
  exact ⟨ran, dialog_phase_run _ ran, rfl, rfl⟩

end Moves

section Views

variable {E : Environment} {st : Style}

def TitleSet (screen : Screen) : Prop :=
  screen.world.box.pack ≠ [] → screen.outer.title = .text screen.world.box.setTitle

theorem titleSet_step {screen next : Screen} {event : ScreenEvent} (titled : TitleSet screen)
    (stepped : Screen.step E screen event = some next) : TitleSet next := by
  cases event with
  | stickersUpdated =>
      cases stepped
      exact titled
  | session event =>
      have screenStepped := stepped
      obtain ⟨-, world, worldStepped, rfl⟩ := Screen.step_session stepped
      rcases step_keeps_set worldStepped with ⟨response, rfl, -⟩ | ⟨kept, -⟩
      · obtain ⟨-, -, title, filled, -⟩ := gotSet_screen_step screenStepped
        intro nonEmpty
        rw [(filled nonEmpty).1, title]
      · rcases foldl_react_title E world.session.registry.sets world.box
            (World.effects E screen.world event) screen.outer with same | ⟨refresh, set⟩
        · intro nonEmpty
          rw [same, kept.title]
          exact titled (kept.pack ▸ nonEmpty)
        · obtain ⟨-, text, -⟩ := mem_effects_updateControls worldStepped refresh
          exact fun _ => set.trans text

theorem titleSet_of_reachable {screen : Screen} (reachable : Screen.Reachable E screen) :
    TitleSet screen := by
  induction reachable with
  | init input session =>
      have empty : (Inner.init input).pack = [] := by cases input <;> rfl
      exact fun nonEmpty => absurd empty nonEmpty
  | step _ _ stepped titled => exact titleSet_step titled stepped

theorem pack_nil_of_phase {screen : Screen} (fetching : Fetching screen.world)
    (early : screen.phase = .fetching ∨ screen.phase = .notFound) : screen.world.box.pack = [] := by
  unfold Screen.phase at early
  split_ifs at early with closed pending empty <;> simp at early
  · exact fetching pending
  · exact List.isEmpty_iff.1 empty

theorem pack_ne_nil_of_shown {screen : Screen} (shown : screen.phase = .shown) :
    screen.world.box.pack ≠ [] := by
  unfold Screen.phase at shown
  split_ifs at shown with closed pending empty
  exact fun nil => empty (List.isEmpty_iff.2 nil)

/-- In every dialog the box can show, under any pointer activity, what is on
screen is its phase's view: "loading" and only "Cancel" while fetching or once
nothing was found, and the set's title once it is shown. -/
theorem dialog_shows_phase {screen : Screen} (reachable : Screen.DialogReachable E st screen) :
    ((screen.phase = .fetching ∨ screen.phase = .notFound) →
        screen.outer.title = .lngContactsLoading ∧ screen.outer.buttons = [.lngCancel]) ∧
      (screen.phase = .shown → screen.outer.title = .text screen.world.box.setTitle) := by
  have screenReachable := dialogReachable_dropPointer reachable
  have droppedFetching := fetching_of_reachable screenReachable
  have droppedTitled := titleSet_of_reachable screenReachable
  have fetching : Fetching screen.world := droppedFetching
  have titled : TitleSet screen := droppedTitled
  refine ⟨fun early => ?_, fun shown => titled (pack_ne_nil_of_shown shown)⟩
  have empty := pack_nil_of_phase fetching early
  have loading := title_loading_of_pack_nil screenReachable empty
  exact ⟨loading, (buttonsShown_of_reachable screenReachable).cancel_of_empty empty⟩

theorem dialog_shows_phase_of_seven :
    Screen.DialogReachable .sample Inner.Style.sample installingDialog ∧
      installingDialog.phase = .shown ∧
      installingDialog.outer.title = .text installingDialog.world.box.setTitle :=
  ⟨installingDialog_reachable, rfl, (dialog_shows_phase installingDialog_reachable).2 rfl⟩

end Views

end StickerSetBox
