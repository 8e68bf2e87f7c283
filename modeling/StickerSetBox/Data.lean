import Mathlib.Data.List.AList

/-!
# Data model of the sticker set box

The session's sticker registry (`stickerSetsRef`, `stickerSetsOrderRef`,
`archivedStickerSetsOrderRef`), the document store that `gotSet` feeds, the
`messages.stickerSet` response, and the fields of `StickerSetBox::Inner` that
the fetch, the install and the layout read or write. `QMap`s are association
lists that carry the uniqueness of their keys. Pointers to `DocumentData` are
the documents' ids, since the session keeps one `DocumentData` per id.

The flag values, `Stickers::CustomSetId`, `Stickers::GetSetTitle` and the
emoji table are declared outside the source; they are fields of
`Environment`, and theorems hold for every environment.
-/

namespace StickerSetBox

set_option autoImplicit false

abbrev SetId := UInt64
abbrev DocumentId := UInt64
abbrev TimeId := Int
/-- `mtpRequestId`; zero is the source's "no request". -/
abbrev RequestId := Nat
/-- `MTPDstickerSet::Flags`, which also holds the client bits. -/
abbrev Flags := BitVec 32
abbrev EmojiPtr := Nat
abbrev PhotoSize := Nat
abbrev ImagePtr := Option PhotoSize

abbrev Pack := List DocumentId
abbrev ByEmojiMap := AList fun _ : EmojiPtr => Pack

/-- Bit positions of the `MTPDstickerSet::Flag` and `MTPDstickerSet_ClientFlag`
values the box reads or writes. The enums are generated outside the source, so
the layout is a parameter; `distinct` is what the enum declarations promise. -/
structure FlagLayout where
  installedDate : Fin 32
  archived : Fin 32
  masks : Fin 32
  featured : Fin 32
  notLoaded : Fin 32
  unread : Fin 32
  special : Fin 32
  distinct : [installedDate, archived, masks, featured, notLoaded, unread, special].Nodup

namespace FlagLayout

def flag (position : Fin 32) : Flags := BitVec.twoPow 32 position

variable (L : FlagLayout)

def fInstalledDate : Flags := flag L.installedDate
def fArchived : Flags := flag L.archived
def fMasks : Flags := flag L.masks

/-- The client bits `gotSet` carries over: featured, not_loaded, unread, special. -/
def clientFlags : Flags :=
  flag L.featured ||| flag L.notLoaded ||| flag L.unread ||| flag L.special

def scheme : FlagLayout where
  installedDate := 0
  archived := 1
  masks := 3
  featured := 29
  notLoaded := 30
  unread := 28
  special := 27
  distinct := by decide

@[simp]
theorem getLsbD_flag (position : Fin 32) (i : Nat) :
    (flag position).getLsbD i = decide (position.val = i) := by
  simp [flag, BitVec.getLsbD_twoPow, position.isLt]

@[simp]
theorem getLsbD_clientFlags (i : Nat) :
    L.clientFlags.getLsbD i =
      (decide (L.featured.val = i) || decide (L.notLoaded.val = i) ||
        decide (L.unread.val = i) || decide (L.special.val = i)) := by
  simp [clientFlags]

private theorem distinct_vals :
    L.installedDate.val ≠ L.archived.val ∧ L.masks.val ≠ L.archived.val ∧
      L.masks.val ≠ L.installedDate.val := by
  have distinct := List.Nodup.map (fun _ _ => Fin.ext) L.distinct
  simp only [List.map_cons, List.map_nil, List.nodup_cons, List.mem_cons,
    List.mem_singleton, List.not_mem_nil, not_or, or_false] at distinct
  obtain ⟨⟨ia, im, -⟩, ⟨am, -⟩, -⟩ := distinct
  exact ⟨ia, Ne.symm am, Ne.symm im⟩

theorem installedDate_ne_archived : L.installedDate.val ≠ L.archived.val :=
  (distinct_vals L).1

theorem masks_apart : L.masks.val ≠ L.archived.val ∧ L.masks.val ≠ L.installedDate.val :=
  (distinct_vals L).2

end FlagLayout

/-- The source's `(flags & mask)` read as a `bool`. -/
def test (flags mask : Flags) : Bool := flags &&& mask != 0

@[simp]
theorem test_flag (flags : Flags) (position : Fin 32) :
    test flags (FlagLayout.flag position) = flags.getLsbD position := by
  rw [test, FlagLayout.flag, BitVec.and_twoPow]
  by_cases bit : flags.getLsbD position
  · have nonzero : BitVec.twoPow 32 position ≠ 0#32 := fun zero => by
      simpa [position.isLt] using congrArg (BitVec.getLsbD · position) zero
    simp [bit, nonzero]
  · simp [bit]

/-- `MTPDstickerSet`: the fields `gotSet` reads. -/
structure MTPDstickerSet where
  flags : Flags
  installedDate : Option TimeId
  id : SetId
  accessHash : UInt64
  title : String
  shortName : String
  thumb : Option PhotoSize
  count : Int
  hash : Int
  deriving DecidableEq, Repr

/-- `MTPDocument` as `processDocument` sees it: its id, and whether it carries
the sticker attribute that gives the document its `sticker()` metadata. -/
structure MTPDocument where
  id : DocumentId
  sticker : Bool
  deriving DecidableEq, Repr

structure MTPDstickerPack where
  emoticon : String
  documents : List DocumentId
  deriving DecidableEq, Repr

/-- `MTPDmessages_stickerSet`, the answer to `messages.getStickerSet`. -/
structure MTPDmessagesStickerSet where
  set : MTPDstickerSet
  packs : List MTPDstickerPack
  documents : List MTPDocument
  deriving DecidableEq, Repr

inductive MTPStickerSetInstallResult
  | success
  | archive (sets : List MTPDstickerSet)
  deriving DecidableEq, Repr

inductive MTPInputStickerSet
  | id (id : SetId) (accessHash : UInt64)
  | shortName (name : String)
  | empty
  | animatedEmoji
  deriving DecidableEq, Repr

/-- `Stickers::Set`, with the fields the box reads or writes. -/
structure StickerSet where
  id : SetId
  access : UInt64
  title : String
  shortName : String
  count : Int
  hash : Int
  flags : Flags
  installDate : TimeId
  thumbnail : ImagePtr
  stickers : Pack := []
  emoji : ByEmojiMap := ∅
  deriving DecidableEq

abbrev Sets := AList fun _ : SetId => StickerSet

structure Registry where
  sets : Sets
  order : List SetId
  archivedOrder : List SetId
  deriving DecidableEq

/-- Modelled from the spec: the session's document store ("Document Store:
Resolve(documentId) -> DocumentRef | absent; Ingest(wireDocument) ->
DocumentRef"). It keeps the last wire document ingested under each id. -/
abbrev DocumentStore := AList fun _ : DocumentId => MTPDocument

structure Session where
  registry : Registry
  documents : DocumentStore

def Session.empty : Session := ⟨⟨∅, [], []⟩, ∅⟩

/-- What the box calls outside the source. `findEmoji` is `Ui::Emoji::Find`
and `original` is `EmojiPtr::original`; `noticeClosesBox` is whether `Ui::show`
of a box without `LayerOption::KeepOther`, as the not-found notices are shown,
closes the boxes already on screen. -/
structure Environment where
  layout : FlagLayout
  customSetId : SetId
  getSetTitle : MTPDstickerSet → String
  findEmoji : String → Option EmojiPtr
  original : EmojiPtr → EmojiPtr
  noticeClosesBox : Bool

def Environment.sample : Environment where
  layout := FlagLayout.scheme
  customSetId := 0xFFFFFFFFFFFFFFFF
  getSetTitle := MTPDstickerSet.title
  findEmoji := fun _ => none
  original := id
  noticeClosesBox := true

def StickerSet.sample (id : SetId) (stickers : Pack) : StickerSet where
  id := id
  access := 0
  title := ""
  shortName := ""
  count := stickers.length
  hash := 0
  flags := 0
  installDate := 0
  thumbnail := none
  stickers := stickers

/-- `StickerSetBox::Inner::Element`: a document and its Lottie animation. -/
structure Element where
  document : DocumentId
  animated : Option Nat := none
  deriving DecidableEq, Repr

/-- The fields of `StickerSetBox::Inner` the handlers read or write, with the
source's initial values. -/
structure Inner where
  input : MTPInputStickerSet
  elements : List Element := []
  pack : Pack := []
  emoji : ByEmojiMap := ∅
  loaded : Bool := false
  setId : SetId := 0
  setAccess : UInt64 := 0
  setTitle : String := ""
  setShortName : String := ""
  setCount : Int := 0
  setHash : Int := 0
  setFlags : Flags := 0
  setInstallDate : TimeId := 0
  setThumbnail : ImagePtr := none
  installRequest : RequestId := 0
  selected : Int := -1
  /-- Whether `_previewTimer` is running. -/
  previewTimer : Bool := false
  previewShown : Int := -1

/-- What a handler asks of the rest of the application: layers, signals,
requests, and the external `Stickers`, `Local` and session calls. -/
inductive Effect
  | showNotFound
  | showMasksPack
  | updateControls
  | sendInstall (request : RequestId) (input : MTPInputStickerSet)
  | applyArchivedResult (sets : List MTPDstickerSet)
  | writeArchivedStickers
  | writeInstalledStickers
  | notifyStickersUpdated
  | setInstalled (setId : SetId)
  deriving DecidableEq, Repr

structure Outcome where
  box : Inner
  session : Session
  effects : List Effect

/-- Referential integrity of the registry: every listed id is a key, the custom
bucket is never listed, and a custom bucket that is present holds a sticker. -/
structure Registry.WellFormed (customSetId : SetId) (registry : Registry) : Prop where
  order_keys : ∀ id ∈ registry.order, id ∈ registry.sets
  archived_keys : ∀ id ∈ registry.archivedOrder, id ∈ registry.sets
  custom_not_ordered : customSetId ∉ registry.order
  custom_not_archived : customSetId ∉ registry.archivedOrder
  custom_nonempty : ∀ bucket, registry.sets.lookup customSetId = some bucket → bucket.stickers ≠ []

/-- The installed and archived views of the registry agree: no set is in both
the install order and the archived order. -/
def Registry.InstalledApart (registry : Registry) : Prop :=
  ∀ id ∈ registry.order, id ∉ registry.archivedOrder

end StickerSetBox
