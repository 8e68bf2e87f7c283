import StickerSetBox.GotSet
import StickerSetBox.InstallDone

/-!
# The box over its life

`StickerSetBox::Inner::install`, and the box's handlers in every order the
session can deliver them: the fetch started by the constructor completes or
fails once, the user asks to install at any time, each install request of the
box completes or fails once, and other parts of the session (the
`updateStickers` request the constructor starts, other boxes) rewrite an
entry's flags between any two of them. The sender hands out a positive id
with each request, as `mtpRequestId`s are. `Transition` says once what each
event does; over whole runs the install request is a latch and the registry
keeps its referential integrity. `runSteps` runs any of the project's machines,
this one, the outer box over it and the dialog, with what a step keeps lifted
to a whole run once.
-/

namespace StickerSetBox

set_option autoImplicit false

/-- A machine's steps one after another, `none` once one is refused: the
session, the outer box over it and the dialog all run this way. -/
def runSteps {σ ε : Type} (step : σ → ε → Option σ) : σ → List ε → Option σ
  | state, [] => some state
  | state, event :: rest => (step state event).bind fun next => runSteps step next rest

section Runs

variable {σ ε : Type} (step : σ → ε → Option σ)

@[simp]
theorem runSteps_nil (state : σ) : runSteps step state [] = some state := rfl

@[simp]
theorem runSteps_cons (state : σ) (event : ε) (rest : List ε) :
    runSteps step state (event :: rest) =
      (step state event).bind fun next => runSteps step next rest := rfl

theorem runSteps_append (first second : List ε) (state : σ) :
    runSteps step state (first ++ second) =
      (runSteps step state first).bind fun next => runSteps step next second := by
  induction first generalizing state with
  | nil => rfl
  | cons event rest ih => simp only [List.cons_append, runSteps_cons, Option.bind_assoc, ih]

/-- What every step of a run keeps holds at the run's end; a step need only
keep it for the events the run holds. -/
theorem runSteps_closed_of_mem {keeps : σ → Prop} :
    ∀ {events : List ε} {state last : σ},
      (∀ event ∈ events, ∀ {state next : σ}, keeps state → step state event = some next →
        keeps next) →
      keeps state → runSteps step state events = some last → keeps last
  | [], _, _, _, kept, ran => Option.some.inj ran ▸ kept
  | event :: _, _, _, preserved, kept, ran => by
      obtain ⟨next, stepped, ranRest⟩ := Option.bind_eq_some.1 ran
      exact runSteps_closed_of_mem (fun other member => preserved other (.tail _ member))
        (preserved event (.head _) kept stepped) ranRest

theorem runSteps_closed {keeps : σ → Prop}
    (preserved : ∀ {state next : σ} (event : ε), keeps state → step state event = some next →
      keeps next) :
    ∀ {events : List ε} {state last : σ}, keeps state → runSteps step state events = some last →
      keeps last :=
  fun kept ran => runSteps_closed_of_mem step (fun event _ => preserved event) kept ran

end Runs

namespace Inner

/-- `StickerSetBox::Inner::install`: a masks set is refused with a notice, a
call while `_installRequest` is set is dropped, and otherwise the box sends
`messages.installStickerSet(_input, false)` and keeps the id `request` the
sender returns. -/
def install (E : Environment) (request : RequestId) (box : Inner) : Inner × List Effect :=
  if test box.setFlags E.layout.fMasks then (box, [.showMasksPack])
  else if box.installRequest ≠ 0 then (box, [])
  else ({ box with installRequest := request }, [.sendInstall request box.input])

theorem install_box (E : Environment) (request : RequestId) (box : Inner) :
    ∃ installRequest, (install E request box).1 = { box with installRequest } := by
  unfold install
  split
  · exact ⟨box.installRequest, rfl⟩
  · split
    · exact ⟨box.installRequest, rfl⟩
    · exact ⟨request, rfl⟩

/-- `StickerSetBox::Inner::Inner`: the input's id and access hash, or its short
name, are taken; every other field has its initial value. -/
def init (input : MTPInputStickerSet) : Inner :=
  match input with
  | .id id accessHash => { input, setId := id, setAccess := accessHash }
  | .shortName name => { input, setShortName := name }
  | .empty | .animatedEmoji => { input }

theorem gotSet_installRequest (E : Environment) (response : MTPDmessagesStickerSet)
    (session : Session) (box : Inner) :
    (gotSet E response session box).box.installRequest = box.installRequest := by
  dsimp only [gotSet]
  unfold storeSet
  split <;> split <;> rfl

end Inner

def sentRequests (effects : List Effect) : List RequestId :=
  effects.filterMap fun
    | .sendInstall request _ => some request
    | _ => none

/-- The box and what it shares with the rest of the session: the session's
data, whether the fetch is still in flight, the install requests of the box
still in flight, and every install request it sent, newest first. -/
structure World where
  box : Inner
  session : Session
  getSetPending : Bool
  inFlight : List RequestId
  sent : List RequestId

/-- What can happen to the box, in any order. `updateFlags` is another part of
the session rewriting the flags of an entry it holds. -/
inductive Event
  | gotSet (response : MTPDmessagesStickerSet)
  | getSetFailed
  | install (request : RequestId)
  | installDone (request : RequestId) (now : TimeId) (result : MTPStickerSetInstallResult)
  | installFailed (request : RequestId)
  | updateFlags (id : SetId) (flags : Flags)

namespace World

def init (input : MTPInputStickerSet) (session : Session) : World where
  box := Inner.init input
  session := session
  getSetPending := true
  inFlight := []
  sent := []

def updateFlags (id : SetId) (flags : Flags) (session : Session) : Session :=
  match session.registry.sets.lookup id with
  | some it => { session with registry := { session.registry with
      sets := session.registry.sets.insert id { it with flags } } }
  | none => session

/-- One event, when the session can deliver it: a completion only for a request
in flight, and a request id from the sender only when positive. -/
def step (E : Environment) (world : World) : Event → Option World
  | .gotSet response =>
      if world.getSetPending then
        let outcome := Inner.gotSet E response world.session world.box
        some { world with box := outcome.box, session := outcome.session, getSetPending := false }
      else none
  | .getSetFailed =>
      if world.getSetPending then
        some { world with box := { world.box with loaded := true }, getSetPending := false }
      else none
  | .install request =>
      if 0 < request then
        let called := Inner.install E request world.box
        some { world with
          box := called.1
          inFlight := sentRequests called.2 ++ world.inFlight
          sent := sentRequests called.2 ++ world.sent }
      else none
  | .installDone request now result =>
      if request ∈ world.inFlight then
        let outcome := Inner.installDone E now result world.session world.box
        some { world with
          box := outcome.box
          session := outcome.session
          inFlight := world.inFlight.erase request }
      else none
  | .installFailed request =>
      if request ∈ world.inFlight then some { world with inFlight := world.inFlight.erase request }
      else none
  | .updateFlags id flags => some { world with session := updateFlags id flags world.session }

def run (E : Environment) : World → List Event → Option World := runSteps (step E)

inductive Reachable (E : Environment) : World → Prop
  | init (input : MTPInputStickerSet) (session : Session) : Reachable E (init input session)
  | step {world next : World} (event : Event) :
      Reachable E world → step E world event = some next → Reachable E next

theorem reachable_run {E : Environment} {world last : World} (reachable : Reachable E world)
    {events : List Event} (ran : run E world events = some last) : Reachable E last :=
  runSteps_closed (step E) (fun event reachable stepped => reachable.step event stepped) reachable ran

/-- What a step that happens does, event by event: the guard it passed and the
world it leaves. -/
def Transition (E : Environment) (world next : World) : Event → Prop
  | .gotSet response => world.getSetPending = true ∧
      next = { world with
        box := (Inner.gotSet E response world.session world.box).box
        session := (Inner.gotSet E response world.session world.box).session
        getSetPending := false }
  | .getSetFailed => world.getSetPending = true ∧
      next = { world with box := { world.box with loaded := true }, getSetPending := false }
  | .install request => 0 < request ∧
      next = { world with
        box := (Inner.install E request world.box).1
        inFlight := sentRequests (Inner.install E request world.box).2 ++ world.inFlight
        sent := sentRequests (Inner.install E request world.box).2 ++ world.sent }
  | .installDone request now result => request ∈ world.inFlight ∧
      next = { world with
        box := (Inner.installDone E now result world.session world.box).box
        session := (Inner.installDone E now result world.session world.box).session
        inFlight := world.inFlight.erase request }
  | .installFailed request => request ∈ world.inFlight ∧
      next = { world with inFlight := world.inFlight.erase request }
  | .updateFlags id flags => next = { world with session := updateFlags id flags world.session }

theorem transition_of_step {E : Environment} {world next : World} {event : Event}
    (stepped : step E world event = some next) : Transition E world next event := by
  cases event <;> simp only [step] at stepped
  case updateFlags => exact (Option.some.inj stepped).symm
  all_goals
    split at stepped
    · exact ⟨‹_›, (Option.some.inj stepped).symm⟩
    · cases stepped

section Requests

variable {E : Environment} {world next : World}

theorem step_requests {event : Event} (stepped : step E world event = some next) :
    (next.box.installRequest = world.box.installRequest ∧ next.sent = world.sent ∧
      next.inFlight.Sublist world.inFlight) ∨
    (∃ request, event = .install request ∧ 0 < request ∧
      test world.box.setFlags E.layout.fMasks = false ∧ world.box.installRequest = 0 ∧
      next.box.installRequest = request ∧ next.sent = request :: world.sent ∧
      next.inFlight = request :: world.inFlight) := by
  have shape := transition_of_step stepped
  cases event with
  | gotSet response =>
      obtain ⟨-, rfl⟩ := shape
      exact .inl ⟨Inner.gotSet_installRequest .., rfl, List.Sublist.refl _⟩
  | getSetFailed =>
      obtain ⟨-, rfl⟩ := shape
      exact .inl ⟨rfl, rfl, List.Sublist.refl _⟩
  | install request =>
      obtain ⟨positive, rfl⟩ := shape
      unfold Inner.install
      split
      · exact .inl ⟨rfl, by simp [sentRequests], by simp [sentRequests]⟩
      · next notMasks =>
          split
          · exact .inl ⟨rfl, by simp [sentRequests], by simp [sentRequests]⟩
          · next idle =>
              exact .inr ⟨request, rfl, positive, by simpa using notMasks,
                by simpa using idle, rfl, rfl, rfl⟩
  | installDone request now result =>
      obtain ⟨-, rfl⟩ := shape
      exact .inl ⟨rfl, rfl, List.erase_sublist _ _⟩
  | installFailed request =>
      obtain ⟨-, rfl⟩ := shape
      exact .inl ⟨rfl, rfl, List.erase_sublist _ _⟩
  | updateFlags id flags =>
      subst shape
      exact .inl ⟨rfl, rfl, List.Sublist.refl _⟩

/-- What every run keeps: `_installRequest` names the one install request the
box ever sent, or is zero when it sent none, and only that one can be in flight. -/
structure RequestLatch (world : World) : Prop where
  sent_eq : world.sent = if world.box.installRequest = 0 then [] else [world.box.installRequest]
  inFlight_sublist : world.inFlight.Sublist world.sent

theorem requestLatch_step {event : Event} (latch : RequestLatch world)
    (stepped : step E world event = some next) : RequestLatch next := by
  rcases step_requests stepped with ⟨same, sent, inFlight⟩ | ⟨request, -, positive, -, idle, set,
    sent, inFlight⟩
  · exact ⟨by rw [sent, same, latch.sent_eq], inFlight.trans (sent ▸ latch.inFlight_sublist)⟩
  · have noneSent := latch.sent_eq
    rw [if_pos idle] at noneSent
    have noneInFlight := List.eq_nil_of_sublist_nil (noneSent ▸ latch.inFlight_sublist)
    refine ⟨?_, ?_⟩
    · rw [sent, set, noneSent, if_neg (Nat.pos_iff_ne_zero.1 positive)]
    · rw [inFlight, sent, noneInFlight, noneSent]

theorem requestLatch_of_reachable (reachable : Reachable E world) : RequestLatch world := by
  induction reachable with
  | init input session => exact ⟨by simp [init, Inner.init]; split <;> rfl, by simp [init]⟩
  | step event _ stepped latch => exact requestLatch_step latch stepped

/-- The install request is a latch: `_installRequest` is non-zero exactly when
the box has sent its one request, whether or not that request completed; an
install call on a non-masks set sends only when none was ever sent. -/
theorem install_request_latch (reachable : Reachable E world) :
    (world.box.installRequest ≠ 0 ↔ world.sent ≠ []) ∧ world.sent.length ≤ 1 ∧
      world.inFlight.length ≤ 1 ∧
      ∀ request, 0 < request → ∃ next, step E world (.install request) = some next ∧
        next.sent = if test world.box.setFlags E.layout.fMasks = false ∧ world.sent = []
          then [request] else world.sent := by
  have latch := requestLatch_of_reachable reachable
  have single : world.sent.length ≤ 1 := by rw [latch.sent_eq]; split <;> simp
  refine ⟨by rw [latch.sent_eq]; split <;> simp [*], single,
    latch.inFlight_sublist.length_le.trans single, fun request positive => ?_⟩
  simp only [step, if_pos positive, Option.some.injEq, exists_eq_left', Inner.install]
  by_cases masks : test world.box.setFlags E.layout.fMasks
  · simp [masks, sentRequests]
  · by_cases idle : world.box.installRequest = 0
    · have noneSent : world.sent = [] := by rw [latch.sent_eq, if_pos idle]
      simp [masks, idle, noneSent, sentRequests]
    · have someSent : world.sent ≠ [] := by rw [latch.sent_eq, if_neg idle]; simp
      simp [masks, idle, someSent, sentRequests]

theorem install_request_latch_after_failure :
    ∃ world, run .sample (init (.id 7 0) .empty) [.install 1, .installFailed 1] = some world ∧
      Reachable .sample world ∧ world.sent = [1] ∧
      (world.box.installRequest ≠ 0 ↔ world.sent ≠ []) ∧ world.sent.length ≤ 1 ∧
      world.inFlight.length ≤ 1 ∧
      ∀ request, 0 < request → ∃ next, step .sample world (.install request) = some next ∧
        next.sent = if test world.box.setFlags Environment.sample.layout.fMasks = false ∧
          world.sent = [] then [request] else world.sent := by
  obtain ⟨world, ran⟩ : ∃ world,
      run .sample (init (.id 7 0) .empty) [.install 1, .installFailed 1] = some world := ⟨_, rfl⟩
  have reachable := reachable_run (.init _ _) ran
  have sent : world.sent = [1] := by
    rw [Option.some.inj ran.symm]
    rfl
  exact ⟨world, ran, reachable, sent, install_request_latch reachable⟩

/-- After a failed install `_installRequest` still holds the completed
request's id, with nothing in flight, and the next install call is dropped. -/
theorem install_request_kept_after_failure :
    let failed := run .sample (.init (.id 7 0) .empty) [.install 1, .installFailed 1]
    failed.map (fun world => (world.box.installRequest, world.inFlight)) = some (1, []) ∧
      (failed.bind fun world => step .sample world (.install 2)).map (·.sent) = some [1] := by
  decide

end Requests

section Integrity

variable {E : Environment}

theorem updateFlags_wellFormed (customSetId id : SetId) (flags : Flags) {session : Session}
    (wf : session.registry.WellFormed customSetId) :
    (updateFlags id flags session).registry.WellFormed customSetId := by
  unfold updateFlags
  split
  · next it held =>
      have keys (x : SetId) (member : x ∈ session.registry.sets) :
          x ∈ session.registry.sets.insert id { it with flags } :=
        (AList.mem_insert _).2 (.inr member)
      refine ⟨fun x member => keys x (wf.order_keys x member),
        fun x member => keys x (wf.archived_keys x member), wf.custom_not_ordered,
        wf.custom_not_archived, fun bucket found => ?_⟩
      by_cases same : customSetId = id
      · subst same
        rw [AList.lookup_insert] at found
        cases found
        exact wf.custom_nonempty it held
      · rw [AList.lookup_insert_ne same] at found
        exact wf.custom_nonempty bucket found
  · exact wf

theorem wellFormed_step {world next : World} {event : Event}
    (wf : world.session.registry.WellFormed E.customSetId)
    (notCustom : world.box.setId ≠ E.customSetId)
    (fetchedNotCustom : ∀ response, event = .gotSet response → response.set.id ≠ E.customSetId)
    (stepped : step E world event = some next) :
    next.session.registry.WellFormed E.customSetId ∧ next.box.setId ≠ E.customSetId := by
  have shape := transition_of_step stepped
  cases event with
  | gotSet response =>
      obtain ⟨-, rfl⟩ := shape
      have fetchOk := fetchedNotCustom response rfl
      refine ⟨Inner.gotSet_wellFormed E response world.session world.box (.inl fetchOk) wf, ?_⟩
      rw [Inner.gotSet_setId]
      exact fetchOk
  | getSetFailed =>
      obtain ⟨-, rfl⟩ := shape
      exact ⟨wf, notCustom⟩
  | install request =>
      obtain ⟨-, rfl⟩ := shape
      refine ⟨wf, ?_⟩
      unfold Inner.install
      split
      · exact notCustom
      · split <;> exact notCustom
  | installDone request now result =>
      obtain ⟨-, rfl⟩ := shape
      exact ⟨Inner.installDone_wellFormed E now result world.session world.box notCustom wf,
        notCustom⟩
  | installFailed request =>
      obtain ⟨-, rfl⟩ := shape
      exact ⟨wf, notCustom⟩
  | updateFlags id flags =>
      subst shape
      exact ⟨updateFlags_wellFormed _ id flags wf, notCustom⟩

/-- Along every run that fetches no set under the custom bucket's id, the
registry keeps its referential integrity, whatever other writers do to the
entries' flags in between. -/
theorem wellFormed_run :
    ∀ {events : List Event} {world last : World},
      world.session.registry.WellFormed E.customSetId → world.box.setId ≠ E.customSetId →
      (∀ response, .gotSet response ∈ events → response.set.id ≠ E.customSetId) →
      run E world events = some last → last.session.registry.WellFormed E.customSetId :=
  fun wf notCustom fetchedNotCustom ran =>
    (@runSteps_closed_of_mem _ _ (step E)
      (fun world => world.session.registry.WellFormed E.customSetId ∧ world.box.setId ≠ E.customSetId)
      _ _ _
      (fun _ member _ _ kept stepped => wellFormed_step kept.1 kept.2
        (fun response same => fetchedNotCustom response (same ▸ member)) stepped)
      ⟨wf, notCustom⟩ ran).1

theorem wellFormed_run_of_install :
    Session.empty.registry.WellFormed Environment.sample.customSetId ∧
      (init (.id 7 0) .empty).box.setId ≠ Environment.sample.customSetId ∧
      ∃ last, run .sample (init (.id 7 0) .empty)
          [.install 1, .updateFlags 7 0, .installDone 1 0 .success] = some last ∧
        last.session.registry.WellFormed Environment.sample.customSetId := by
  have wf : Session.empty.registry.WellFormed Environment.sample.customSetId :=
    ⟨by simp [Session.empty], by simp [Session.empty], by simp [Session.empty],
      by simp [Session.empty], by simp [Session.empty]⟩
  have notCustom : (init (.id 7 0) .empty).box.setId ≠ Environment.sample.customSetId := by decide
  obtain ⟨last, ran⟩ : ∃ last, run .sample (init (.id 7 0) .empty)
      [.install 1, .updateFlags 7 0, .installDone 1 0 .success] = some last := ⟨_, rfl⟩
  exact ⟨wf, notCustom, last, ran, wellFormed_run wf notCustom (by simp) ran⟩

end Integrity

end World

def cachedSeven : Session := ⟨⟨(∅ : Sets).insert 7 (.sample 7 []), [], []⟩, ∅⟩

def fetchedSeven : MTPDmessagesStickerSet where
  set := { flags := 0, installedDate := none, id := 7, accessHash := 0, title := ""
           shortName := "seven", thumb := none, count := 1, hash := 0 }
  packs := []
  documents := [{ id := 1, sticker := true }]

/-- Fetch and install keep the registry's referential integrity, but for a fetch
answering for the custom bucket without a sticker and an install of the custom
bucket's id. -/
theorem handlers_keep_registry_wellFormed (E : Environment) (session : Session)
    (wf : session.registry.WellFormed E.customSetId) :
    (∀ response box,
      (response.set.id ≠ E.customSetId ∨ ∃ item ∈ response.documents, item.sticker = true) →
      (Inner.gotSet E response session box).session.registry.WellFormed E.customSetId) ∧
    (∀ now result box, box.setId ≠ E.customSetId →
      (Inner.installDone E now result session box).session.registry.WellFormed E.customSetId) :=
  ⟨fun response box fetchOk => Inner.gotSet_wellFormed E response session box fetchOk wf,
    fun now result box notCustom => Inner.installDone_wellFormed E now result session box notCustom wf⟩

def listedWithBucket : Session :=
  ⟨⟨(((∅ : Sets).insert 5 (.sample 5 [3])).insert 6 (.sample 6 [4])).insert
      Environment.sample.customSetId (.sample Environment.sample.customSetId [1, 2]),
    [5], [6]⟩, ∅⟩

def bucketAnswer : MTPDmessagesStickerSet where
  set := { flags := 0, installedDate := none, id := Environment.sample.customSetId, accessHash := 0,
           title := "", shortName := "", thumb := none, count := 1, hash := 0 }
  packs := []
  documents := [{ id := 9, sticker := true }]

theorem handlers_keep_registry_wellFormed_of_listed :
    listedWithBucket.registry.WellFormed Environment.sample.customSetId ∧
      (listedWithBucket.registry.sets.lookup Environment.sample.customSetId).map (·.stickers) =
        some [1, 2] ∧
      (Inner.gotSet .sample bucketAnswer listedWithBucket
        (Inner.init (.id Environment.sample.customSetId 0))).session.registry.WellFormed
          Environment.sample.customSetId ∧
      (Inner.installDone .sample 0 .success listedWithBucket
        { input := .id 7 0, setId := 7, pack := [1] }).session.registry.WellFormed
          Environment.sample.customSetId ∧
      (Inner.installDone .sample 0 .success listedWithBucket
        { input := .id 8 0, setId := 8, pack := [2, 1] }).session.registry.WellFormed
          Environment.sample.customSetId := by
  have wf : listedWithBucket.registry.WellFormed Environment.sample.customSetId := by
    refine ⟨by decide, by decide, by decide, by decide, fun bucket held => ?_⟩
    simp only [listedWithBucket, AList.lookup_insert, Option.some.injEq] at held
    simp [← held, StickerSet.sample]
  have kept := handlers_keep_registry_wellFormed .sample listedWithBucket wf
  exact ⟨wf, rfl, kept.1 _ _ (.inr ⟨_, List.mem_singleton_self _, rfl⟩),
    kept.2 _ _ _ (by decide), kept.2 _ _ _ (by decide)⟩

def customOnly : Session :=
  ⟨⟨(∅ : Sets).insert Environment.sample.customSetId (.sample Environment.sample.customSetId [1]),
    [], []⟩, ∅⟩

def emptyBucketAnswer : MTPDmessagesStickerSet := { bucketAnswer with documents := [] }

/-- Installing a set under the custom bucket's id lists the id in the install
order and erases its entry, and a fetch answered for that id without a sticker
empties the bucket. -/
theorem custom_id_breaks_integrity :
    customOnly.registry.WellFormed Environment.sample.customSetId ∧
      ¬(Inner.installDone .sample 0 .success customOnly
        { input := .id Environment.sample.customSetId 0, setId := Environment.sample.customSetId
          pack := [1] }).session.registry.WellFormed Environment.sample.customSetId ∧
      ¬(Inner.gotSet .sample emptyBucketAnswer customOnly
        (Inner.init (.id Environment.sample.customSetId 0))).session.registry.WellFormed
          Environment.sample.customSetId := by
  refine ⟨⟨by simp [customOnly], by simp [customOnly], by simp [customOnly], by simp [customOnly],
    fun bucket held => ?_⟩, fun wf => wf.custom_not_ordered (by decide), fun wf => ?_⟩
  · simp only [customOnly, AList.lookup_insert, Option.some.injEq] at held
    simp [← held, StickerSet.sample]
  · exact wf.custom_nonempty _ (AList.lookup_insert _) rfl

/-- Marking the set unread between the fetch and the install's completion is
undone by the install. -/
theorem install_undoes_unread_mark :
    ((World.run .sample (.init (.id 7 0) cachedSeven)
        [.gotSet fetchedSeven, .updateFlags 7 (FlagLayout.flag FlagLayout.scheme.unread)]).bind
        fun world => world.session.registry.sets.lookup 7).map
        (fun it => test it.flags (FlagLayout.flag FlagLayout.scheme.unread)) = some true ∧
      ((World.run .sample (.init (.id 7 0) cachedSeven)
        [.gotSet fetchedSeven, .updateFlags 7 (FlagLayout.flag FlagLayout.scheme.unread),
          .install 1, .installDone 1 0 .success]).bind
        fun world => world.session.registry.sets.lookup 7).map
        (fun it => test it.flags (FlagLayout.flag FlagLayout.scheme.unread)) = some false := by
  decide

end StickerSetBox
