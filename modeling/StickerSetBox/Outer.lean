import Mathlib.Data.String.Basic
import StickerSetBox.Box
import StickerSetBox.Pointer

/-!
# The outer box

`StickerSetBox` itself. `prepare` sets the title to "loading", shows the inner
box's title and buttons, and subscribes to three signals: the inner box's
`updateControls` refreshes the title and the buttons, the session's
`stickersUpdated` refreshes the buttons, and `setInstalled` reports the set to
the API and closes the box.

The inner box fires `updateControls` only when a fetch filled the pack. So the
title stays "loading" while the box has no stickers, whether the fetch is in
flight, failed or found none, and is the set's own title from then on: the
`lng_attach_failed` branch of `title()` never reaches the screen.

The buttons are refreshed by the same signal and by `stickersUpdated`. As long
as every other writer of the registry announces its change with
`stickersUpdated`, the buttons on screen are, until the box closes, those
`updateButtons` computes from the state at that time; a flag update left
unannounced can leave them stale.

Every answered install request closes the box, and since the box sends one
install request at most, it reports an installed set to the API at most once.
A click on "Add" reaches the inner box's `install` only while the box is open
and shows the button. The not-found notices are shown without
`LayerOption::KeepOther`; whether the layer then closes the box is the
environment's `noticeClosesBox`, and every result holds either way.
-/

namespace StickerSetBox

set_option autoImplicit false

/-- What the outer box shows and has done: its title and buttons, whether it
was closed, and the sets it reported to `api().stickerSetInstalled`. -/
structure Outer where
  title : Inner.Title
  buttons : List Button
  closed : Bool := false
  reported : List SetId := []

namespace Outer

def updateTitleAndButtons (L : FlagLayout) (sets : Sets) (inner : Inner) (outer : Outer) : Outer :=
  { outer with title := inner.title, buttons := updateButtons L sets inner }

/-- `prepare`: the title starts as "loading", then `updateTitleAndButtons`. -/
def prepare (L : FlagLayout) (sets : Sets) (inner : Inner) : Outer :=
  updateTitleAndButtons L sets inner { title := .lngContactsLoading, buttons := [] }

/-- `shareStickers`: the internal link it copies to the clipboard, before
`createInternalLinkFull` puts the domain in front. -/
def shareStickers (inner : Inner) : String := "addstickers/" ++ inner.shortName

/-- The subscriptions of `prepare`, on one effect of the inner box, with the
inner box and the registry as the handler left them; a not-found notice, shown
without `LayerOption::KeepOther`, closes the box when the layer replaces it. -/
def react (E : Environment) (sets : Sets) (inner : Inner) (outer : Outer) : Effect → Outer
  | .updateControls => updateTitleAndButtons E.layout sets inner outer
  | .notifyStickersUpdated => { outer with buttons := updateButtons E.layout sets inner }
  | .setInstalled setId => { outer with reported := outer.reported ++ [setId], closed := true }
  | .showNotFound => { outer with closed := outer.closed || E.noticeClosesBox }
  | _ => outer

/-- A click on "Add" reaches `addStickers`, hence `install`, only while the box
is open and shows the button; every other event reaches the box. -/
def offers (outer : Outer) : Event → Bool
  | .install _ => !outer.closed && decide (.lngStickersAddPack ∈ outer.buttons)
  | _ => true

end Outer

/-- The inner box's effects for a session event, as its handler emits them; a
failed fetch or install shows "not found". -/
def World.effects (E : Environment) (world : World) : Event → List Effect
  | .gotSet response => (Inner.gotSet E response world.session world.box).effects
  | .getSetFailed => [.showNotFound]
  | .install request => (Inner.install E request world.box).2
  | .installDone _ now result => (Inner.installDone E now result world.session world.box).effects
  | .installFailed _ => [.showNotFound]
  | .updateFlags _ _ => []

structure Screen where
  world : World
  outer : Outer

/-- What reaches the screen: a session event, or `stickersUpdated` fired by
another part of the session. -/
inductive ScreenEvent
  | session (event : Event)
  | stickersUpdated

def ScreenEvent.isFlagUpdate : ScreenEvent → Bool
  | .session (.updateFlags _ _) => true
  | _ => false

/-- Every flag update is followed at once by `stickersUpdated`, as when its
writer calls `notifyStickersUpdated`. -/
def ScreenEvent.Announced : List ScreenEvent → Prop
  | [] => True
  | event :: rest => (event.isFlagUpdate = true → rest.head? = some .stickersUpdated) ∧ Announced rest

namespace Screen

/-- `StickerSetBox::prepare`, right after the inner box's constructor. -/
def init (E : Environment) (input : MTPInputStickerSet) (session : Session) : Screen :=
  ⟨World.init input session, Outer.prepare E.layout session.registry.sets (Inner.init input)⟩

/-- One event: the session step, and the outer box's reactions to the inner
box's effects, in order. -/
def step (E : Environment) (screen : Screen) : ScreenEvent → Option Screen
  | .session event =>
      if screen.outer.offers event then
        (World.step E screen.world event).map fun next =>
          ⟨next, (World.effects E screen.world event).foldl
            (Outer.react E next.session.registry.sets next.box) screen.outer⟩
      else none
  | .stickersUpdated =>
      some { screen with outer := { screen.outer with
        buttons := updateButtons E.layout screen.world.session.registry.sets screen.world.box } }

def run (E : Environment) : Screen → List ScreenEvent → Option Screen := runSteps (step E)

theorem step_session {E : Environment} {screen next : Screen} {event : Event}
    (stepped : step E screen (.session event) = some next) :
    screen.outer.offers event = true ∧ ∃ world, World.step E screen.world event = some world ∧
      next = ⟨world, (World.effects E screen.world event).foldl
        (Outer.react E world.session.registry.sets world.box) screen.outer⟩ := by
  simp only [step] at stepped
  split at stepped
  · obtain ⟨world, worldStepped, rfl⟩ := Option.map_eq_some'.1 stepped
    exact ⟨‹_›, world, worldStepped, rfl⟩
  · cases stepped

inductive Reachable (E : Environment) : Screen → Prop
  | init (input : MTPInputStickerSet) (session : Session) : Reachable E (init E input session)
  | step {screen next : Screen} (event : ScreenEvent) :
      Reachable E screen → step E screen event = some next → Reachable E next

theorem world_reachable {E : Environment} {screen : Screen} (reachable : Reachable E screen) :
    World.Reachable E screen.world := by
  induction reachable with
  | init input session => exact .init input session
  | step event _ stepped reachable =>
      cases event with
      | session event =>
          obtain ⟨-, next, worldStepped, rfl⟩ := step_session stepped
          exact reachable.step event worldStepped
      | stickersUpdated =>
          cases stepped
          exact reachable

theorem reachable_run {E : Environment} {screen last : Screen} (reachable : Reachable E screen)
    {events : List ScreenEvent} (ran : run E screen events = some last) : Reachable E last :=
  runSteps_closed (step E) (fun event reachable stepped => reachable.step event stepped) reachable ran

end Screen

section Heard

variable {E : Environment}

theorem gotSet_ends (E : Environment) (response : MTPDmessagesStickerSet) (session : Session)
    (box : Inner) :
    ((Inner.gotSet E response session box).box.pack = [] ∧
        (Inner.gotSet E response session box).effects = [.showNotFound]) ∨
      ((Inner.gotSet E response session box).box.pack ≠ [] ∧
        (Inner.gotSet E response session box).box.loaded = true ∧
        (Inner.gotSet E response session box).effects = [.updateControls]) := by
  dsimp only [Inner.gotSet]
  split
  · next empty => exact .inl ⟨List.isEmpty_iff.1 empty, rfl⟩
  · next filled => exact .inr ⟨fun empty => filled (List.isEmpty_iff.2 empty), rfl, rfl⟩

theorem title_of_filled {box : Inner} (loaded : box.loaded = true) (filled : box.pack ≠ []) :
    box.title = .text box.setTitle := by
  simp [Inner.title, loaded, List.isEmpty_iff, filled]

theorem updateButtons_of_empty (L : FlagLayout) (sets : Sets) {box : Inner}
    (empty : box.pack = []) : updateButtons L sets box = [.lngCancel] := by
  simp [updateButtons, Inner.isLoaded, empty]

def Effect.Unheard : Effect → Prop
  | .updateControls | .notifyStickersUpdated | .setInstalled _ | .showNotFound => False
  | _ => True

theorem foldl_react_unheard (E : Environment) (sets : Sets) (inner : Inner) :
    ∀ (effects : List Effect) (outer : Outer), (∀ effect ∈ effects, effect.Unheard) →
      effects.foldl (Outer.react E sets inner) outer = outer := by
  intro effects
  induction effects with
  | nil => exact fun _ _ => rfl
  | cons effect rest ih =>
      intro outer unheard
      have unchanged : Outer.react E sets inner outer effect = outer := by
        have heard := unheard effect (List.mem_cons_self _ _)
        cases effect <;> first | rfl | exact (heard : False).elim
      rw [List.foldl_cons, unchanged]
      exact ih outer fun other member => unheard other (List.mem_cons_of_mem _ member)

theorem install_unheard (request : RequestId) (box : Inner) :
    ∀ effect ∈ (Inner.install E request box).2, effect.Unheard := by
  unfold Inner.install
  split
  · simp [Effect.Unheard]
  · split <;> simp [Effect.Unheard]

theorem foldl_react_title (E : Environment) (sets : Sets) (inner : Inner) :
    ∀ (effects : List Effect) (outer : Outer),
      (effects.foldl (Outer.react E sets inner) outer).title = outer.title ∨
        (.updateControls ∈ effects ∧
          (effects.foldl (Outer.react E sets inner) outer).title = inner.title) := by
  intro effects
  induction effects with
  | nil => exact fun _ => .inl rfl
  | cons effect rest ih =>
      intro outer
      rcases ih (Outer.react E sets inner outer effect) with same | ⟨refresh, set⟩
      · cases effect
        case updateControls => exact .inr ⟨List.mem_cons_self _ _, same⟩
        all_goals exact .inl same
      · exact .inr ⟨List.mem_cons_of_mem _ refresh, set⟩

theorem foldl_react_setInstalled (E : Environment) (sets : Sets) (inner : Inner)
    (effects : List Effect) (setId : SetId) (outer : Outer) :
    ((effects ++ [Effect.setInstalled setId]).foldl (Outer.react E sets inner) outer).closed = true ∧
      setId ∈ ((effects ++ [Effect.setInstalled setId]).foldl (Outer.react E sets inner) outer).reported := by
  simp [List.foldl_append, Outer.react]

end Heard

section Title

variable {E : Environment}

theorem mem_effects_updateControls {world next : World} {event : Event}
    (stepped : World.step E world event = some next)
    (refresh : .updateControls ∈ World.effects E world event) :
    next.getSetPending = false ∧ next.box.title = .text next.box.setTitle ∧
      next.box.pack ≠ [] := by
  have shape := World.transition_of_step stepped
  cases event with
  | gotSet response =>
      obtain ⟨-, rfl⟩ := shape
      rcases gotSet_ends E response world.session world.box with ⟨-, quiet⟩ | ⟨filled, loaded, -⟩
      · simp [World.effects, quiet] at refresh
      · exact ⟨rfl, title_of_filled loaded filled, filled⟩
  | install request => exact (install_unheard request world.box _ refresh).elim
  | installDone request now result =>
      simp only [World.effects, Inner.installDone_effects, Inner.dispatch] at refresh
      split at refresh <;> simp at refresh
  | getSetFailed | installFailed _ | updateFlags _ _ => simp [World.effects] at refresh

/-- What the title on screen says: "loading", or the set's own title once the
box holds stickers; "loading" while the fetch is in flight. -/
structure TitleShown (screen : Screen) : Prop where
  loading_or_set : screen.outer.title = .lngContactsLoading ∨
    (screen.outer.title = .text screen.world.box.setTitle ∧ screen.world.box.pack ≠ [])
  pending_loading : screen.world.getSetPending = true → screen.outer.title = .lngContactsLoading

/-- What a step keeps of the set the box shows: its title, short name and
stickers, and its being loaded. -/
structure KeepsSet (world next : World) : Prop where
  title : next.box.setTitle = world.box.setTitle
  shortName : next.box.setShortName = world.box.setShortName
  pack : next.box.pack = world.box.pack
  loaded : world.box.loaded = true → next.box.loaded = true

theorem KeepsSet.trans {world middle next : World} (first : KeepsSet world middle)
    (second : KeepsSet middle next) : KeepsSet world next :=
  ⟨second.title.trans first.title, second.shortName.trans first.shortName,
    second.pack.trans first.pack, second.loaded ∘ first.loaded⟩

/-- Every session step but the fetch's answer keeps the set the box shows and
never starts a fetch. -/
theorem step_keeps_set {world next : World} {event : Event}
    (stepped : World.step E world event = some next) :
    (∃ response, event = .gotSet response ∧ world.getSetPending = true) ∨
      (KeepsSet world next ∧ (next.getSetPending = true → world.getSetPending = true)) := by
  have shape := World.transition_of_step stepped
  cases event with
  | gotSet response =>
      obtain ⟨pending, -⟩ := shape
      exact .inl ⟨response, rfl, pending⟩
  | getSetFailed =>
      obtain ⟨-, rfl⟩ := shape
      exact .inr ⟨⟨rfl, rfl, rfl, fun _ => rfl⟩, fun stillPending => nomatch stillPending⟩
  | install request =>
      obtain ⟨-, rfl⟩ := shape
      obtain ⟨_, installed⟩ := Inner.install_box E request world.box
      rw [installed]
      exact .inr ⟨⟨rfl, rfl, rfl, id⟩, id⟩
  | installDone _ _ _ | installFailed _ =>
      obtain ⟨-, rfl⟩ := shape
      exact .inr ⟨⟨rfl, rfl, rfl, id⟩, id⟩
  | updateFlags setId flags =>
      subst shape
      exact .inr ⟨⟨rfl, rfl, rfl, id⟩, id⟩

theorem titleShown_step {screen next : Screen} {event : ScreenEvent} (shown : TitleShown screen)
    (stepped : Screen.step E screen event = some next) : TitleShown next := by
  cases event with
  | stickersUpdated =>
      cases stepped
      exact ⟨shown.loading_or_set, shown.pending_loading⟩
  | session event =>
      obtain ⟨-, world, worldStepped, rfl⟩ := Screen.step_session stepped
      rcases foldl_react_title E world.session.registry.sets world.box
          (World.effects E screen.world event) screen.outer with same | ⟨refresh, set⟩
      · have pendingBefore := shown.pending_loading
        rcases step_keeps_set worldStepped with ⟨response, -, pending⟩ | ⟨kept, noFetch⟩
        · exact ⟨.inl (same.trans (pendingBefore pending)), fun _ => same.trans (pendingBefore pending)⟩
        · refine ⟨?_, fun stillPending => same.trans (pendingBefore (noFetch stillPending))⟩
          rw [same, kept.title, kept.pack]
          exact shown.loading_or_set
      · obtain ⟨done, text, filled⟩ := mem_effects_updateControls worldStepped refresh
        exact ⟨.inr ⟨set.trans text, filled⟩, fun stillPending => by simp [done] at stillPending⟩

theorem titleShown_init (E : Environment) (input : MTPInputStickerSet) (session : Session) :
    TitleShown (Screen.init E input session) := by
  have loading : (Inner.init input).title = .lngContactsLoading := by cases input <;> rfl
  exact ⟨.inl loading, fun _ => loading⟩

theorem titleShown_of_reachable {screen : Screen} (reachable : Screen.Reachable E screen) :
    TitleShown screen := by
  induction reachable with
  | init input session => exact titleShown_init E input session
  | step _ _ stepped shown => exact titleShown_step shown stepped

theorem title_loading_of_pack_nil {screen : Screen} (reachable : Screen.Reachable E screen)
    (empty : screen.world.box.pack = []) : screen.outer.title = .lngContactsLoading := by
  rcases (titleShown_of_reachable reachable).loading_or_set with loading | ⟨-, filled⟩
  · exact loading
  · exact absurd empty filled

end Title

section Closing

variable {E : Environment}

theorem installDone_closes {screen next : Screen} {request : RequestId} {now : TimeId}
    {result : MTPStickerSetInstallResult}
    (stepped : Screen.step E screen (.session (.installDone request now result)) = some next) :
    next.outer.closed = true ∧ screen.world.box.setId ∈ next.outer.reported := by
  obtain ⟨-, world, -, rfl⟩ := Screen.step_session stepped
  simp only [World.effects, Inner.installDone_effects, Inner.dispatch]
  exact foldl_react_setInstalled _ _ _ _ _ _

def Effect.installedSet : Effect → Option SetId
  | .setInstalled setId => some setId
  | _ => none

theorem installedSet_of_unheard {effect : Effect} (unheard : effect.Unheard) :
    effect.installedSet = none := by
  cases effect <;> first | rfl | exact (unheard : False).elim

theorem foldl_react_reported (E : Environment) (sets : Sets) (inner : Inner) :
    ∀ (effects : List Effect) (outer : Outer),
      (effects.foldl (Outer.react E sets inner) outer).reported =
        outer.reported ++ effects.filterMap Effect.installedSet := by
  intro effects
  induction effects with
  | nil => exact fun _ => (List.append_nil _).symm
  | cons effect rest ih =>
      intro outer
      rw [List.foldl_cons, ih]
      cases effect <;> simp [Outer.react, Outer.updateTitleAndButtons, Effect.installedSet]

theorem dispatch_installedSet (result : MTPStickerSetInstallResult) (wasArchived : Bool)
    (setId : SetId) :
    (Inner.dispatch result wasArchived setId).filterMap Effect.installedSet = [setId] := by
  unfold Inner.dispatch
  split
  · simp [Effect.installedSet]
  · cases wasArchived <;> simp [Effect.installedSet]

/-- What every run keeps: each set reported answers a request the box sent,
and a request still in flight has not been answered. -/
def ReportsCounted (screen : Screen) : Prop :=
  screen.outer.reported.length + screen.world.inFlight.length ≤ screen.world.sent.length

theorem reportsCounted_step {screen next : Screen} {event : ScreenEvent}
    (counted : ReportsCounted screen) (stepped : Screen.step E screen event = some next) :
    ReportsCounted next := by
  cases event with
  | stickersUpdated =>
      cases stepped
      exact counted
  | session event =>
      obtain ⟨-, world, worldStepped, rfl⟩ := Screen.step_session stepped
      unfold ReportsCounted at counted ⊢
      rw [foldl_react_reported]
      have shape := World.transition_of_step worldStepped
      cases event with
      | gotSet response =>
          obtain ⟨-, rfl⟩ := shape
          rcases gotSet_ends E response screen.world.session screen.world.box with
            ⟨-, quiet⟩ | ⟨-, -, refresh⟩
          · simpa [World.effects, quiet, Effect.installedSet] using counted
          · simpa [World.effects, refresh, Effect.installedSet] using counted
      | getSetFailed =>
          obtain ⟨-, rfl⟩ := shape
          simpa [World.effects, Effect.installedSet] using counted
      | install request =>
          obtain ⟨-, rfl⟩ := shape
          have silent : (World.effects E screen.world (.install request)).filterMap
              Effect.installedSet = [] :=
            List.filterMap_eq_nil_iff.2 fun effect member =>
              installedSet_of_unheard (install_unheard request screen.world.box effect member)
          simp only [silent, List.append_nil, List.length_append]
          omega
      | installDone request now result =>
          obtain ⟨member, rfl⟩ := shape
          have inFlight := List.length_pos_of_mem member
          rw [World.effects, Inner.installDone_effects, dispatch_installedSet]
          simp only [List.length_append, List.length_singleton, List.length_erase_of_mem member]
          omega
      | installFailed request =>
          obtain ⟨member, rfl⟩ := shape
          simp only [World.effects, List.filterMap_cons, Effect.installedSet, List.filterMap_nil,
            List.append_nil, List.length_erase_of_mem member]
          omega
      | updateFlags setId flags =>
          subst shape
          simpa [World.effects] using counted

theorem reportsCounted_of_reachable {screen : Screen} (reachable : Screen.Reachable E screen) :
    ReportsCounted screen := by
  induction reachable with
  | init input session => exact Nat.le_refl 0
  | step _ _ stepped counted => exact reportsCounted_step counted stepped

theorem reported_at_most_once {screen : Screen} (reachable : Screen.Reachable E screen) :
    screen.outer.reported.length ≤ 1 ∧
      (screen.outer.reported ≠ [] → screen.world.inFlight = []) := by
  have counted := reportsCounted_of_reachable reachable
  have latch := World.requestLatch_of_reachable (Screen.world_reachable reachable)
  have sentOne : screen.world.sent.length ≤ 1 := by
    rw [latch.sent_eq]
    split <;> simp
  unfold ReportsCounted at counted
  refine ⟨by omega, fun reported => List.eq_nil_of_length_eq_zero ?_⟩
  have := List.length_pos.2 reported
  omega

end Closing

section Buttons

variable {E : Environment}

def Fetching (world : World) : Prop := world.getSetPending = true → world.box.pack = []

theorem fetching_step {world next : World} {event : Event} (fetching : Fetching world)
    (stepped : World.step E world event = some next) : Fetching next := by
  intro pending
  rcases step_keeps_set stepped with ⟨response, rfl, -⟩ | ⟨kept, noFetch⟩
  · obtain ⟨-, rfl⟩ := World.transition_of_step stepped
    cases pending
  · exact kept.pack.trans (fetching (noFetch pending))

theorem fetching_screen_step {screen next : Screen} {event : ScreenEvent}
    (fetching : Fetching screen.world) (stepped : Screen.step E screen event = some next) :
    Fetching next.world := by
  cases event with
  | session event =>
      obtain ⟨-, world, worldStepped, rfl⟩ := Screen.step_session stepped
      exact fetching_step fetching worldStepped
  | stickersUpdated =>
      cases stepped
      exact fetching

/-- The buttons on screen are those `updateButtons` computes from the box and
the registry as they are now, unless the box has closed. -/
def ButtonsCurrent (E : Environment) (screen : Screen) : Prop :=
  screen.outer.closed = true ∨
    screen.outer.buttons = updateButtons E.layout screen.world.session.registry.sets screen.world.box

theorem buttonsCurrent_session {screen next : Screen} {event : Event}
    (fetching : Fetching screen.world) (current : ButtonsCurrent E screen)
    (notFlags : (ScreenEvent.session event).isFlagUpdate = false)
    (stepped : Screen.step E screen (.session event) = some next) : ButtonsCurrent E next := by
  obtain ⟨-, world, worldStepped, rfl⟩ := Screen.step_session stepped
  have shape := World.transition_of_step worldStepped
  have staysClosed (notice : Bool) (closed : screen.outer.closed = true) :
      (screen.outer.closed || notice) = true := by
    rw [closed, Bool.true_or]
  cases event with
  | gotSet response =>
      obtain ⟨pending, rfl⟩ := shape
      rcases gotSet_ends E response screen.world.session screen.world.box with
        ⟨empty, quiet⟩ | ⟨-, -, refresh⟩
      · unfold ButtonsCurrent
        simp only [World.effects, quiet, List.foldl, Outer.react]
        exact current.imp (staysClosed _) fun shown => shown.trans
          ((updateButtons_of_empty _ _ (fetching pending)).trans (updateButtons_of_empty _ _ empty).symm)
      · exact .inr (by simp only [World.effects, refresh, List.foldl, Outer.react,
          Outer.updateTitleAndButtons])
  | getSetFailed =>
      obtain ⟨pending, rfl⟩ := shape
      have empty := fetching pending
      have stillEmpty : ({ screen.world.box with loaded := true } : Inner).pack = [] := empty
      unfold ButtonsCurrent
      simp only [World.effects, List.foldl, Outer.react]
      exact current.imp (staysClosed _) fun shown => shown.trans
        ((updateButtons_of_empty _ _ empty).trans (updateButtons_of_empty _ _ stillEmpty).symm)
  | install request =>
      obtain ⟨-, rfl⟩ := shape
      obtain ⟨_, installed⟩ := Inner.install_box E request screen.world.box
      unfold ButtonsCurrent
      rw [World.effects, foldl_react_unheard _ _ _ _ _ (install_unheard request screen.world.box),
        installed]
      exact current
  | installDone request now result => exact .inl (installDone_closes stepped).1
  | installFailed request =>
      obtain ⟨-, rfl⟩ := shape
      unfold ButtonsCurrent
      simp only [World.effects, List.foldl, Outer.react]
      exact current.imp (staysClosed _) id
  | updateFlags setId flags => cases notFlags

/-- As long as every flag update from elsewhere is announced by
`stickersUpdated`, the buttons on screen are, after each event and up to the
box's closing, those `updateButtons` computes from the state at that time. -/
theorem buttonsCurrent_run :
    ∀ (events : List ScreenEvent) {screen last : Screen}, Fetching screen.world →
      (ButtonsCurrent E screen ∨ events.head? = some .stickersUpdated) →
      ScreenEvent.Announced events → Screen.run E screen events = some last →
      ButtonsCurrent E last := by
  intro events
  induction events with
  | nil =>
      intro screen last _ current _ ran
      cases ran
      exact current.resolve_right (by simp)
  | cons event rest ih =>
      intro screen last fetching current announced ran
      obtain ⟨next, stepped, ranRest⟩ := Option.bind_eq_some.1 ran
      refine ih (fetching_screen_step fetching stepped) ?_ announced.2 ranRest
      cases flag : event.isFlagUpdate
      · cases event with
        | stickersUpdated =>
            cases stepped
            exact .inl (.inr rfl)
        | session event =>
            have before := current.resolve_right (by simp)
            exact .inl (buttonsCurrent_session fetching before flag stepped)
      · exact .inr (announced.1 flag)

theorem add_offered_iff {input : MTPInputStickerSet} {session : Session}
    {events : List ScreenEvent} {last : Screen} (announced : ScreenEvent.Announced events)
    (ran : Screen.run E (Screen.init E input session) events = some last)
    (stillOpen : last.outer.closed = false) :
    .lngStickersAddPack ∈ last.outer.buttons ↔
      last.world.box.loaded = true ∧ last.world.box.pack ≠ [] ∧
        ¬Installed E.layout last.world.session.registry.sets last.world.box := by
  have fetching : Fetching (Screen.init E input session).world := by
    intro _
    cases input <;> rfl
  have current := buttonsCurrent_run events fetching (.inl (.inr rfl)) announced ran
  rw [current.resolve_left (by simp [stillOpen])]
  exact (updateButtons_spec ..).1

end Buttons

section Shown

variable {E : Environment}

theorem fetching_of_reachable {screen : Screen} (reachable : Screen.Reachable E screen) :
    Fetching screen.world := by
  induction reachable with
  | init input session =>
      intro _
      cases input <;> rfl
  | step _ _ stepped fetching => exact fetching_screen_step fetching stepped

theorem keepsSet_screen_step {screen next : Screen} {event : ScreenEvent}
    (ended : screen.world.getSetPending = false) (stepped : Screen.step E screen event = some next) :
    KeepsSet screen.world next.world ∧ next.world.getSetPending = false := by
  cases event with
  | stickersUpdated =>
      cases stepped
      exact ⟨⟨rfl, rfl, rfl, id⟩, ended⟩
  | session event =>
      obtain ⟨-, world, worldStepped, rfl⟩ := Screen.step_session stepped
      rcases step_keeps_set worldStepped with ⟨response, -, pending⟩ | ⟨kept, noFetch⟩
      · rw [ended] at pending
        cases pending
      · exact ⟨kept, Bool.eq_false_iff.2 fun pending => by simpa [ended] using noFetch pending⟩

theorem keepsSet_run :
    ∀ (events : List ScreenEvent) {screen last : Screen}, screen.world.getSetPending = false →
      Screen.run E screen events = some last →
        KeepsSet screen.world last.world ∧ last.world.getSetPending = false :=
  fun _ screen _ ended ran => @runSteps_closed _ _ (Screen.step E)
    (fun next => KeepsSet screen.world next.world ∧ next.world.getSetPending = false)
    (fun _ ⟨kept, stillEnded⟩ stepped =>
      (keepsSet_screen_step stillEnded stepped).imp_left kept.trans)
    _ _ _ ⟨⟨rfl, rfl, rfl, id⟩, ended⟩ ran

theorem updateButtons_named (L : FlagLayout) (sets : Sets) (inner : Inner) :
    (.lngStickersSharePack ∈ updateButtons L sets inner → inner.setShortName ≠ "") ∧
      (.lngAboutDone ∈ updateButtons L sets inner → inner.official = true) := by
  unfold updateButtons
  split
  · next loadedPack =>
      split
      · simp
      · split
        · next official => simp [official]
        · next notOfficial =>
            refine ⟨fun _ unnamed => notOfficial ?_, by simp⟩
            simp only [Inner.isLoaded, Bool.and_eq_true] at loadedPack
            rw [Inner.official, loadedPack.1, unnamed]
            rfl
  · simp

/-- What the buttons on screen say of the set: "Cancel" alone while the box
holds no stickers, "Share" only for a set with a short name to link to, and
"Done" only for an official set. -/
structure ButtonsShown (screen : Screen) : Prop where
  cancel_of_empty : screen.world.box.pack = [] → screen.outer.buttons = [.lngCancel]
  share_named : .lngStickersSharePack ∈ screen.outer.buttons → screen.world.box.setShortName ≠ ""
  done_official : .lngAboutDone ∈ screen.outer.buttons → screen.world.box.official = true

theorem buttonsShown_of_refresh {screen : Screen}
    (refreshed : screen.outer.buttons = updateButtons E.layout screen.world.session.registry.sets
      screen.world.box) : ButtonsShown screen := by
  have named := updateButtons_named E.layout screen.world.session.registry.sets screen.world.box
  exact ⟨fun empty => refreshed.trans (updateButtons_of_empty _ _ empty),
    fun share => named.1 (refreshed ▸ share), fun done => named.2 (refreshed ▸ done)⟩

theorem buttonsShown_of_cancel {screen : Screen} (cancel : screen.outer.buttons = [.lngCancel]) :
    ButtonsShown screen :=
  ⟨fun _ => cancel, fun share => by simp [cancel] at share, fun done => by simp [cancel] at done⟩

theorem ButtonsShown.of_keepsSet {screen next : Screen} (shown : ButtonsShown screen)
    (kept : KeepsSet screen.world next.world) (same : next.outer.buttons = screen.outer.buttons) :
    ButtonsShown next := by
  refine ⟨fun empty => same.trans (shown.cancel_of_empty (kept.pack.symm.trans empty)),
    fun share => ?_, fun done => ?_⟩
  · rw [kept.shortName]
    exact shown.share_named (same ▸ share)
  · have official := shown.done_official (same ▸ done)
    simp only [Inner.official, Bool.and_eq_true] at official ⊢
    exact ⟨kept.loaded official.1, kept.shortName ▸ official.2⟩

theorem foldl_react_buttons (E : Environment) (sets : Sets) (inner : Inner) :
    ∀ (effects : List Effect) (outer : Outer),
      (effects.foldl (Outer.react E sets inner) outer).buttons = outer.buttons ∨
        (effects.foldl (Outer.react E sets inner) outer).buttons = updateButtons E.layout sets inner := by
  intro effects
  induction effects with
  | nil => exact fun _ => .inl rfl
  | cons effect rest ih =>
      intro outer
      rcases ih (Outer.react E sets inner outer effect) with same | refreshed
      · cases effect
        case updateControls | notifyStickersUpdated => exact .inr same
        all_goals exact .inl same
      · exact .inr refreshed

theorem buttonsShown_step {screen next : Screen} {event : ScreenEvent}
    (fetching : Fetching screen.world) (shown : ButtonsShown screen)
    (stepped : Screen.step E screen event = some next) : ButtonsShown next := by
  cases event with
  | stickersUpdated =>
      cases stepped
      exact buttonsShown_of_refresh rfl
  | session event =>
      obtain ⟨-, world, worldStepped, rfl⟩ := Screen.step_session stepped
      rcases foldl_react_buttons E world.session.registry.sets world.box
          (World.effects E screen.world event) screen.outer with same | refreshed
      · rcases step_keeps_set worldStepped with ⟨response, -, pending⟩ | ⟨kept, -⟩
        · exact buttonsShown_of_cancel (same.trans (shown.cancel_of_empty (fetching pending)))
        · exact shown.of_keepsSet kept same
      · exact buttonsShown_of_refresh refreshed

theorem buttonsShown_of_reachable {screen : Screen} (reachable : Screen.Reachable E screen) :
    ButtonsShown screen := by
  induction reachable with
  | init input session => exact buttonsShown_of_refresh rfl
  | step _ reachable stepped shown =>
      exact buttonsShown_step (fetching_of_reachable reachable) shown stepped

theorem shareStickers_named {inner : Inner} (named : inner.setShortName ≠ "") :
    Outer.shareStickers inner ≠ "addstickers/" := by
  intro same
  apply named
  have data := congrArg String.data same
  rw [Outer.shareStickers, String.data_append] at data
  exact String.ext (List.append_right_eq_self.1 data)

end Shown

section Answers

variable {E : Environment}

theorem gotSet_screen_step {screen next : Screen} {response : MTPDmessagesStickerSet}
    (stepped : Screen.step E screen (.session (.gotSet response)) = some next) :
    next.world.getSetPending = false ∧
      next.world.box.pack = (response.documents.filter (·.sticker)).map (·.id) ∧
      next.world.box.setTitle = E.getSetTitle response.set ∧
      (next.world.box.pack ≠ [] → next.outer.title = .text (E.getSetTitle response.set) ∧
        next.outer.buttons = updateButtons E.layout next.world.session.registry.sets next.world.box) ∧
      (next.world.box.pack = [] →
        next.outer = { screen.outer with closed := screen.outer.closed || E.noticeClosesBox }) := by
  obtain ⟨-, world, worldStepped, rfl⟩ := Screen.step_session stepped
  obtain ⟨-, rfl⟩ := World.transition_of_step worldStepped
  refine ⟨rfl, Inner.gotSet_pack .., Inner.gotSet_setTitle .., ?_⟩
  rcases gotSet_ends E response screen.world.session screen.world.box with
    ⟨empty, quiet⟩ | ⟨filled, loaded, refresh⟩
  · refine ⟨fun filled => absurd empty filled, fun _ => ?_⟩
    simp only [World.effects, quiet, List.foldl, Outer.react]
  · refine ⟨fun _ => ?_, fun empty => absurd empty filled⟩
    simp only [World.effects, refresh, List.foldl, Outer.react, Outer.updateTitleAndButtons,
      title_of_filled loaded filled, Inner.gotSet_setTitle, and_self]

theorem install_screen_step {screen : Screen} {request : RequestId} (positive : 0 < request)
    (stillOpen : screen.outer.closed = false) (offered : .lngStickersAddPack ∈ screen.outer.buttons)
    (notMasks : screen.world.box.isMasksSet E.layout = false)
    (fresh : screen.world.box.installRequest = 0) :
    ∃ clicked, Screen.step E screen (.session (.install request)) = some clicked ∧
      request ∈ clicked.world.inFlight ∧ clicked.world.box.setId = screen.world.box.setId := by
  have masks : test screen.world.box.setFlags E.layout.fMasks = false := notMasks
  have sends : Inner.install E request screen.world.box =
      ({ screen.world.box with installRequest := request },
        [.sendInstall request screen.world.box.input]) := by
    simp [Inner.install, masks, fresh]
  refine ⟨⟨{ screen.world with
      box := { screen.world.box with installRequest := request }
      inFlight := request :: screen.world.inFlight
      sent := request :: screen.world.sent }, screen.outer⟩, ?_, List.mem_cons_self _ _, rfl⟩
  simp only [Screen.step, Outer.offers, stillOpen, offered, World.step, positive, if_true,
    World.effects, sends, Option.map_some', Bool.not_false, decide_True, Bool.and_self]
  rfl

theorem installDone_screen_accepted {screen : Screen} {request : RequestId} (now : TimeId)
    (result : MTPStickerSetInstallResult) (inFlight : request ∈ screen.world.inFlight) :
    ∃ next, Screen.step E screen (.session (.installDone request now result)) = some next :=
  Option.isSome_iff_exists.1 (by simp [Screen.step, Outer.offers, World.step, inFlight])

end Answers

end StickerSetBox
