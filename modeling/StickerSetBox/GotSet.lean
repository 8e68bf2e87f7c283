import StickerSetBox.Data

/-!
# `StickerSetBox::Inner::gotSet`

The fetch handler in source order: the box's pack, emoji map and elements are
rebuilt from the response, the set's fields are copied into the box, an entry
the registry already holds for the set takes the fetched data with its client
bits kept, and only then is an empty pack reported as "not found". Widget
calls (`setCursor`, `resize`) are left out; the closing `updateSelected()`
is the widget's part of the fetch, in `Widget`.
-/

namespace StickerSetBox.Inner

set_option autoImplicit false

/-- Modelled from the spec: `Data::Session::processDocument`, "Ingest(wireDocument)
-> DocumentRef"; the store keeps the document under its id. -/
def processDocument (documents : DocumentStore) (item : MTPDocument) : DocumentStore :=
  documents.insert item.id item

/-- Modelled from the spec: `Data::Session::document(id)` with the source's
`doc->sticker()` test, "Resolve(documentId) -> DocumentRef | absent". -/
def hasSticker (documents : DocumentStore) (id : DocumentId) : Bool :=
  match documents.lookup id with
  | some document => document.sticker
  | none => false

/-- The first loop of `gotSet`: every document goes through `processDocument`,
and those with sticker metadata are pushed to `_pack`. -/
def processDocuments : DocumentStore → Pack → List MTPDocument → DocumentStore × Pack
  | documents, pack, [] => (documents, pack)
  | documents, pack, item :: rest =>
      let documents := processDocument documents item
      processDocuments documents
        (if hasSticker documents item.id then pack ++ [item.id] else pack) rest

/-- One `MTPDstickerPack` of the second loop: when its emoticon is a known
emoji, the pack's documents that resolve to stickers go under its original. -/
def addEmojiPack (E : Environment) (documents : DocumentStore) (emoji : ByEmojiMap)
    (pack : MTPDstickerPack) : ByEmojiMap :=
  match E.findEmoji pack.emoticon with
  | some found => emoji.insert (E.original found) (pack.documents.filter (hasSticker documents))
  | none => emoji

/-- The `if (it != sets.cend())` block: an entry already held gives its client
bits to `_setFlags` and takes the fetched flags, date, pack, emoji and thumbnail. -/
def storeSet (E : Environment) (box : Inner) (sets : Sets) : Inner × Sets :=
  match sets.lookup box.setId with
  | some it =>
      let box := { box with setFlags := box.setFlags ||| (it.flags &&& E.layout.clientFlags) }
      (box, sets.insert box.setId { it with
        flags := box.setFlags
        installDate := box.setInstallDate
        stickers := box.pack
        emoji := box.emoji
        thumbnail := box.setThumbnail })
  | none => (box, sets)

def parseEmoji (E : Environment) (documents : DocumentStore) (packs : List MTPDstickerPack) :
    ByEmojiMap :=
  packs.foldl (addEmojiPack E documents) ∅

/-- The box as the two loops and the `data.vset().match` copy leave it, before
the registry block; `parsed` is the document store and pack of the first loop. -/
def fetched (E : Environment) (response : MTPDmessagesStickerSet)
    (parsed : DocumentStore × Pack) (box : Inner) : Inner :=
  let set := response.set
  { box with
    pack := parsed.2
    emoji := parseEmoji E parsed.1 response.packs
    elements := parsed.2.map fun document => { document }
    selected := -1
    setTitle := E.getSetTitle set
    setShortName := set.shortName
    setId := set.id
    setAccess := set.accessHash
    setCount := set.count
    setHash := set.hash
    setFlags := set.flags
    setInstallDate := set.installedDate.getD 0
    setThumbnail := set.thumb }

def gotSet (E : Environment) (response : MTPDmessagesStickerSet) (session : Session)
    (box : Inner) : Outcome :=
  let parsed := processDocuments session.documents [] response.documents
  let stored := storeSet E (fetched E response parsed box) session.registry.sets
  let session := { registry := { session.registry with sets := stored.2 }, documents := parsed.1 }
  if stored.1.pack.isEmpty then ⟨stored.1, session, [.showNotFound]⟩
  else ⟨{ stored.1 with loaded := true }, session, [.updateControls]⟩

theorem processDocuments_pack (documents : DocumentStore) (pack : Pack)
    (items : List MTPDocument) :
    (processDocuments documents pack items).2 =
      pack ++ (items.filter (·.sticker)).map (·.id) := by
  induction items generalizing documents pack with
  | nil => simp [processDocuments]
  | cons item rest ih =>
      have fresh : hasSticker (processDocument documents item) item.id = item.sticker := by
        simp [hasSticker, processDocument]
      by_cases sticker : item.sticker <;> simp [processDocuments, ih, fresh, sticker]

theorem processDocuments_pack_eq_nil (documents : DocumentStore) (items : List MTPDocument) :
    (processDocuments documents [] items).2 = [] ↔ ∀ item ∈ items, item.sticker = false := by
  simp [processDocuments_pack, List.filter_eq_nil_iff]

section Emoji

variable (E : Environment) (documents : DocumentStore)

theorem lookup_addEmojiPack (emoji : ByEmojiMap) (pack : MTPDstickerPack) (key : EmojiPtr) :
    (addEmojiPack E documents emoji pack).lookup key =
      if (E.findEmoji pack.emoticon).map E.original = some key then
        some (pack.documents.filter (hasSticker documents))
      else emoji.lookup key := by
  unfold addEmojiPack
  cases E.findEmoji pack.emoticon with
  | none => simp
  | some found =>
      by_cases same : E.original found = key
      · simp [same, AList.lookup_insert]
      · simp only [Option.map_some', Option.some.injEq, same, if_false]
        exact AList.lookup_insert_ne (Ne.symm same)

theorem lookup_foldl_addEmojiPack (key : EmojiPtr) :
    ∀ (packs : List MTPDstickerPack) (emoji : ByEmojiMap),
      (packs.foldl (addEmojiPack E documents) emoji).lookup key =
        ((packs.reverse.find? fun pack => (E.findEmoji pack.emoticon).map E.original = some key).map
          fun pack => pack.documents.filter (hasSticker documents)).or (emoji.lookup key) := by
  intro packs
  induction packs with
  | nil => exact fun _ => rfl
  | cons pack rest ih =>
      intro emoji
      rw [List.foldl_cons, ih, lookup_addEmojiPack, List.reverse_cons, List.find?_append,
        Option.map_or', Option.or_assoc, List.find?_singleton]
      congr 1
      by_cases found : (E.findEmoji pack.emoticon).map E.original = some key
      · simp only [found, decide_True, if_true, Option.map_some', Option.or_some]
      · simp only [found, decide_False, Bool.false_eq_true, if_false, Option.map_none', Option.none_or]

theorem lookup_parseEmoji (packs : List MTPDstickerPack) (key : EmojiPtr) :
    (parseEmoji E documents packs).lookup key =
      (packs.reverse.find? fun pack => (E.findEmoji pack.emoticon).map E.original = some key).map
        fun pack => pack.documents.filter (hasSticker documents) := by
  rw [parseEmoji, lookup_foldl_addEmojiPack, AList.lookup_empty, Option.or_none]

end Emoji

section StoreSet

variable (E : Environment) (box : Inner) (sets : Sets)

theorem storeSet_lookup_ne {id : SetId} (other : id ≠ box.setId) :
    (storeSet E box sets).2.lookup id = sets.lookup id := by
  unfold storeSet
  split <;> simp [AList.lookup_insert_ne other]

theorem storeSet_mem (id : SetId) : id ∈ (storeSet E box sets).2 ↔ id ∈ sets := by
  unfold storeSet
  split
  · next it held =>
    rw [AList.mem_insert]
    constructor
    · rintro (rfl | member)
      · exact AList.lookup_isSome.1 (by simp [held])
      · exact member
    · exact Or.inr
  · rfl

theorem storeSet_lookup_self :
    (storeSet E box sets).2.lookup box.setId =
      (sets.lookup box.setId).map fun it => { it with
        flags := box.setFlags ||| (it.flags &&& E.layout.clientFlags)
        installDate := box.setInstallDate
        stickers := box.pack
        emoji := box.emoji
        thumbnail := box.setThumbnail } := by
  unfold storeSet
  split <;> simp [*]

theorem storeSet_elements : (storeSet E box sets).1.elements = box.elements := by
  unfold storeSet
  split <;> rfl

theorem storeSet_setTitle : (storeSet E box sets).1.setTitle = box.setTitle := by
  unfold storeSet
  split <;> rfl

theorem storeSet_box_fields :
    (storeSet E box sets).1.setId = box.setId ∧ (storeSet E box sets).1.pack = box.pack ∧
      (storeSet E box sets).1.emoji = box.emoji := by
  unfold storeSet
  split <;> simp

end StoreSet

section GotSet

variable (E : Environment) (response : MTPDmessagesStickerSet) (session : Session) (box : Inner)

@[simp]
theorem fetched_setId (parsed : DocumentStore × Pack) :
    (fetched E response parsed box).setId = response.set.id := rfl

@[simp]
theorem fetched_pack (parsed : DocumentStore × Pack) :
    (fetched E response parsed box).pack = parsed.2 := rfl

@[simp]
theorem fetched_elements (parsed : DocumentStore × Pack) :
    (fetched E response parsed box).elements = parsed.2.map fun document => { document } := rfl

@[simp]
theorem fetched_setFlags (parsed : DocumentStore × Pack) :
    (fetched E response parsed box).setFlags = response.set.flags := rfl

@[simp]
theorem fetched_emoji (parsed : DocumentStore × Pack) :
    (fetched E response parsed box).emoji = parseEmoji E parsed.1 response.packs := rfl

@[simp]
theorem fetched_setInstallDate (parsed : DocumentStore × Pack) :
    (fetched E response parsed box).setInstallDate = response.set.installedDate.getD 0 := rfl

@[simp]
theorem fetched_setThumbnail (parsed : DocumentStore × Pack) :
    (fetched E response parsed box).setThumbnail = response.set.thumb := rfl

theorem gotSet_registry :
    (gotSet E response session box).session.registry =
      { session.registry with
        sets := (storeSet E (fetched E response
          (processDocuments session.documents [] response.documents) box)
          session.registry.sets).2 } := by
  dsimp only [gotSet]
  split <;> rfl

theorem gotSet_setId : (gotSet E response session box).box.setId = response.set.id := by
  have fields := storeSet_box_fields E (fetched E response
    (processDocuments session.documents [] response.documents) box) session.registry.sets
  dsimp only [gotSet]
  split <;> simpa using fields.1

theorem gotSet_pack :
    (gotSet E response session box).box.pack = (response.documents.filter (·.sticker)).map (·.id) := by
  have fields := storeSet_box_fields E (fetched E response
    (processDocuments session.documents [] response.documents) box) session.registry.sets
  dsimp only [gotSet]
  split <;> simp only [fields, fetched_pack, processDocuments_pack, List.nil_append]

theorem gotSet_setTitle :
    (gotSet E response session box).box.setTitle = E.getSetTitle response.set := by
  have title := storeSet_setTitle E (fetched E response
    (processDocuments session.documents [] response.documents) box) session.registry.sets
  dsimp only [gotSet]
  split <;> exact title

theorem gotSet_elements :
    (gotSet E response session box).box.elements =
      (gotSet E response session box).box.pack.map fun document => { document } := by
  have fields := storeSet_box_fields E (fetched E response
    (processDocuments session.documents [] response.documents) box) session.registry.sets
  have elements := storeSet_elements E (fetched E response
    (processDocuments session.documents [] response.documents) box) session.registry.sets
  dsimp only [gotSet]
  split <;> simp only [fields, elements, fetched_pack, fetched_elements]

/-- What the two loops of `gotSet` leave, on either of its paths: the pack is
the response's documents with sticker metadata, in order; each element holds
the pack's document at its place, with no animation yet; and the emoji map
holds, under each emoji, the stickers of the last pack whose emoticon is that
emoji, less the documents the updated store does not know as stickers. -/
theorem gotSet_parses :
    (gotSet E response session box).box.pack =
        (response.documents.filter (·.sticker)).map (·.id) ∧
      (gotSet E response session box).box.elements =
        (gotSet E response session box).box.pack.map (fun document => { document }) ∧
      ∀ key, (gotSet E response session box).box.emoji.lookup key =
        (response.packs.reverse.find? fun pack =>
            (E.findEmoji pack.emoticon).map E.original = some key).map
          fun pack => pack.documents.filter (hasSticker (gotSet E response session box).session.documents) := by
  have fields := storeSet_box_fields E (fetched E response
    (processDocuments session.documents [] response.documents) box) session.registry.sets
  refine ⟨gotSet_pack E response session box, gotSet_elements E response session box, ?_⟩
  dsimp only [gotSet]
  split <;> simp only [fields, fetched_emoji, lookup_parseEmoji, implies_true]

/-- The fetch never clears a client bit of an entry: it only ORs them into the
server's flags. -/
theorem gotSet_keeps_client_bits {id : SetId} {it : StickerSet}
    (held : session.registry.sets.lookup id = some it) :
    ∃ stored, (gotSet E response session box).session.registry.sets.lookup id = some stored ∧
      ∀ i, (it.flags &&& E.layout.clientFlags).getLsbD i = true → stored.flags.getLsbD i = true := by
  simp only [gotSet_registry]
  by_cases same : id = response.set.id
  · subst same
    have stored := storeSet_lookup_self E (fetched E response
      (processDocuments session.documents [] response.documents) box) session.registry.sets
    simp only [fetched_setId, fetched_setFlags, held, Option.map_some'] at stored
    refine ⟨_, stored, fun i client => ?_⟩
    simp [client]
  · refine ⟨it, by rw [storeSet_lookup_ne _ _ _ (by simpa using same), held], fun i client => ?_⟩
    simp only [BitVec.getLsbD_and, Bool.and_eq_true] at client
    exact client.1

def cachedUnread : Session :=
  ⟨⟨(∅ : Sets).insert 7 { StickerSet.sample 7 [] with flags := FlagLayout.flag FlagLayout.scheme.unread },
    [7], []⟩, ∅⟩

def answerClear : MTPDmessagesStickerSet where
  set := { flags := 0, installedDate := none, id := 7, accessHash := 0, title := ""
           shortName := "seven", thumb := none, count := 0, hash := 0 }
  packs := []
  documents := []

theorem gotSet_keeps_unread_mark :
    cachedUnread.registry.sets.lookup 7 =
        some { StickerSet.sample 7 [] with flags := FlagLayout.flag FlagLayout.scheme.unread } ∧
      ∃ stored, (gotSet .sample answerClear cachedUnread { input := .id 7 0 }).session.registry.sets.lookup 7 =
          some stored ∧
        ∀ i, (FlagLayout.flag FlagLayout.scheme.unread &&& Environment.sample.layout.clientFlags).getLsbD i = true →
          stored.flags.getLsbD i = true := by
  have held : cachedUnread.registry.sets.lookup 7 =
      some { StickerSet.sample 7 [] with flags := FlagLayout.flag FlagLayout.scheme.unread } :=
    AList.lookup_insert _
  have kept := gotSet_keeps_client_bits .sample answerClear cachedUnread { input := .id 7 0 } held
  exact ⟨held, kept⟩

/-- The not-found path: `gotSet` reports "not found", but the registry block
has already run, so an entry held for the set is overwritten as on the success
path, with the empty pack; the rest of the registry is as before. -/
theorem gotSet_not_found_path (noSticker : ∀ item ∈ response.documents, item.sticker = false) :
    (gotSet E response session box).effects = [.showNotFound] ∧
      (gotSet E response session box).session.registry.order = session.registry.order ∧
      (gotSet E response session box).session.registry.archivedOrder =
        session.registry.archivedOrder ∧
      (∀ id, id ∈ (gotSet E response session box).session.registry.sets ↔
        id ∈ session.registry.sets) ∧
      (∀ id, id ≠ response.set.id →
        (gotSet E response session box).session.registry.sets.lookup id =
          session.registry.sets.lookup id) ∧
      (gotSet E response session box).session.registry.sets.lookup response.set.id =
        (session.registry.sets.lookup response.set.id).map fun it => { it with
          flags := response.set.flags ||| (it.flags &&& E.layout.clientFlags)
          installDate := response.set.installedDate.getD 0
          stickers := []
          emoji := parseEmoji E (processDocuments session.documents [] response.documents).1
            response.packs
          thumbnail := response.set.thumb } := by
  have empty := (processDocuments_pack_eq_nil session.documents response.documents).2 noSticker
  have fields := storeSet_box_fields E (fetched E response
    (processDocuments session.documents [] response.documents) box) session.registry.sets
  have stored := storeSet_lookup_self E (fetched E response
    (processDocuments session.documents [] response.documents) box) session.registry.sets
  simp only [fetched_setId, fetched_pack, fetched_setFlags, fetched_emoji, fetched_setInstallDate,
    fetched_setThumbnail, empty] at fields stored
  refine ⟨?_, ?_, ?_, ?_, ?_, ?_⟩
  · simp [gotSet, fields.2.1]
  all_goals simp only [gotSet_registry]
  · exact fun id => storeSet_mem _ _ _ id
  · exact fun id other => storeSet_lookup_ne _ _ _ (by simpa using other)
  · exact stored

def cachedOneSticker : Session := ⟨⟨(∅ : Sets).insert 7 (.sample 7 [1]), [7], []⟩, ∅⟩

def answerWithoutStickers : MTPDmessagesStickerSet where
  set := { flags := 0, installedDate := none, id := 7, accessHash := 0, title := ""
           shortName := "seven", thumb := none, count := 1, hash := 0 }
  packs := []
  documents := [{ id := 2, sticker := false }]

theorem gotSet_not_found_path_reports :
    (∀ item ∈ answerWithoutStickers.documents, item.sticker = false) ∧
      (gotSet .sample answerWithoutStickers cachedOneSticker { input := .id 7 0 }).effects =
        [.showNotFound] :=
  ⟨by decide, (gotSet_not_found_path .sample answerWithoutStickers cachedOneSticker
    { input := .id 7 0 } (by decide)).1⟩

/-- The not-found answer empties the cached set's pack. -/
theorem gotSet_not_found_empties_cached_pack :
    (∀ item ∈ answerWithoutStickers.documents, item.sticker = false) ∧
      let after := gotSet .sample answerWithoutStickers cachedOneSticker { input := .id 7 0 }
      after.effects = [.showNotFound] ∧
        (cachedOneSticker.registry.sets.lookup 7).map (·.stickers) = some [1] ∧
        (after.session.registry.sets.lookup 7).map (·.stickers) = some [] := by
  decide

theorem gotSet_wellFormed
    (fetchOk : response.set.id ≠ E.customSetId ∨ ∃ item ∈ response.documents, item.sticker = true)
    (wf : session.registry.WellFormed E.customSetId) :
    (gotSet E response session box).session.registry.WellFormed E.customSetId := by
  have keys := storeSet_mem E (fetched E response
    (processDocuments session.documents [] response.documents) box) session.registry.sets
  have stored := storeSet_lookup_self E (fetched E response
    (processDocuments session.documents [] response.documents) box) session.registry.sets
  rw [gotSet_registry]
  refine ⟨fun id member => (keys id).2 (wf.order_keys id member),
    fun id member => (keys id).2 (wf.archived_keys id member), wf.custom_not_ordered,
    wf.custom_not_archived, fun bucket held => ?_⟩
  by_cases custom : response.set.id = E.customSetId
  · obtain ⟨item, member, sticker⟩ := fetchOk.resolve_left (not_not.2 custom)
    rw [fetched_setId, custom] at stored
    rw [stored] at held
    obtain ⟨it, -, rfl⟩ := Option.map_eq_some'.1 held
    simp only [fetched_pack, processDocuments_pack, List.nil_append, ne_eq, List.map_eq_nil_iff,
      List.filter_eq_nil_iff, not_forall, Bool.not_eq_true, exists_prop]
    exact ⟨item, member, by simp [sticker]⟩
  · exact wf.custom_nonempty bucket (by
      rwa [storeSet_lookup_ne _ _ _ (by simpa using Ne.symm custom)] at held)

end GotSet

end StickerSetBox.Inner
