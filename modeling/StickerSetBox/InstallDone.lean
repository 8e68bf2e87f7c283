import StickerSetBox.QList
import StickerSetBox.Data

/-!
# `StickerSetBox::Inner::installDone`

The install completion in its five source blocks: the archived order loses
the set when the box's flag snapshot says it was archived, the box's flags
become installed and not archived, the registry entry is created or updated,
the set moves to the front of the install order, and the custom bucket loses
the pack's stickers. An archive-kind result is handed to
`Stickers::ApplyArchivedResult`, whose code is outside the source; it is an
effect here, like the `Local` writes.
-/

namespace StickerSetBox.Inner

open QList

set_option autoImplicit false

/-- `_setFlags &= ~f_archived; _setFlags |= f_installed_date;` -/
def installedFlags (L : FlagLayout) (flags : Flags) : Flags :=
  (flags &&& ~~~L.fArchived) ||| L.fInstalledDate

/-- The `if (wasArchived)` block. -/
def removeArchived (wasArchived : Bool) (archivedOrder : List SetId) (setId : SetId) :
    List SetId :=
  if wasArchived then removeFound archivedOrder setId else archivedOrder

/-- The `sets.find(_setId)` block: a new `Stickers::Set` from the box's fields,
or the held entry with the box's flags and date; either takes the pack and emoji. -/
def storeInstalled (box : Inner) (sets : Sets) : Sets :=
  let it : StickerSet :=
    match sets.lookup box.setId with
    | none =>
        { id := box.setId, access := box.setAccess, title := box.setTitle
          shortName := box.setShortName, count := box.setCount, hash := box.setHash
          flags := box.setFlags, installDate := box.setInstallDate
          thumbnail := box.setThumbnail }
    | some it => { it with flags := box.setFlags, installDate := box.setInstallDate }
  sets.insert box.setId { it with stickers := box.pack, emoji := box.emoji }

/-- The order block, with the source's `insertAtIndex` and `currentIndex`. -/
def updateOrder (order : List SetId) (setId : SetId) : List SetId :=
  let insertAtIndex : Int := 0
  let currentIndex := indexOf order setId
  if currentIndex ≠ insertAtIndex then
    insert (if currentIndex > 0 then removeAt order currentIndex else order) insertAtIndex setId
  else order

/-- The `custom` block: each sticker of the pack leaves the custom bucket once,
and a bucket left empty is erased. -/
def cleanCustom (customSetId : SetId) (pack : Pack) (sets : Sets) : Sets :=
  match sets.lookup customSetId with
  | some custom =>
      let stickers := pack.foldl removeFound custom.stickers
      let sets := sets.insert customSetId { custom with stickers }
      if stickers.isEmpty then sets.erase customSetId else sets
  | none => sets

/-- The last block: an archive result goes to `Stickers::ApplyArchivedResult`,
any other has the lists written and observers told; `_setInstalled` fires. -/
def dispatch (result : MTPStickerSetInstallResult) (wasArchived : Bool) (setId : SetId) :
    List Effect :=
  (match result with
    | .archive sets => [.applyArchivedResult sets]
    | .success =>
        (if wasArchived then [.writeArchivedStickers] else []) ++
          [.writeInstalledStickers, .notifyStickersUpdated]) ++
    [.setInstalled setId]

def installDone (E : Environment) (now : TimeId) (result : MTPStickerSetInstallResult)
    (session : Session) (box : Inner) : Outcome :=
  let registry := session.registry
  let wasArchived := test box.setFlags E.layout.fArchived
  let archivedOrder := removeArchived wasArchived registry.archivedOrder box.setId
  let box := { box with setInstallDate := now, setFlags := installedFlags E.layout box.setFlags }
  let sets := storeInstalled box registry.sets
  let order := updateOrder registry.order box.setId
  let sets := cleanCustom E.customSetId box.pack sets
  ⟨box, { session with registry := { sets, order, archivedOrder } },
    dispatch result wasArchived box.setId⟩

section Flags

variable (L : FlagLayout) (flags : Flags)

theorem getLsbD_installedFlags (i : Nat) :
    (installedFlags L flags).getLsbD i =
      (decide (L.installedDate.val = i) || (flags.getLsbD i && !decide (L.archived.val = i))) := by
  by_cases small : i < 32
  · simp [installedFlags, FlagLayout.fArchived, FlagLayout.fInstalledDate, small, Bool.or_comm]
  · simp [installedFlags, FlagLayout.fArchived, FlagLayout.fInstalledDate, small,
      BitVec.getLsbD_ge flags i (by omega)]

theorem installedFlags_installed : test (installedFlags L flags) L.fInstalledDate = true := by
  simp [FlagLayout.fInstalledDate, getLsbD_installedFlags]

theorem installedFlags_not_archived : test (installedFlags L flags) L.fArchived = false := by
  simp [FlagLayout.fArchived, getLsbD_installedFlags, L.installedDate_ne_archived]

theorem installedFlags_masks : test (installedFlags L flags) L.fMasks = test flags L.fMasks := by
  simp [FlagLayout.fMasks, getLsbD_installedFlags, L.masks_apart.1.symm, L.masks_apart.2.symm]

end Flags

theorem removeArchived_eq (wasArchived : Bool) (archivedOrder : List SetId) (setId : SetId) :
    removeArchived wasArchived archivedOrder setId =
      if wasArchived then archivedOrder.erase setId else archivedOrder := by
  simp [removeArchived, removeFound_eq_erase]

/-- The order block is move-to-front, whichever of its three branches runs. -/
theorem updateOrder_eq (order : List SetId) (setId : SetId) :
    updateOrder order setId = setId :: order.erase setId := by
  by_cases present : setId ∈ order
  · by_cases front : indexOf order setId = 0
    · obtain ⟨tail, rfl⟩ := indexOf_eq_zero front
      simp [updateOrder]
    · have later : indexOf order setId > 0 := by
        have := (indexOf_nonneg_iff order setId).2 present
        omega
      simp [updateOrder, front, later, removeAt_indexOf present]
  · simp [updateOrder, indexOf_of_not_mem present, List.erase_of_not_mem present]

section Sets

variable (box : Inner) (sets : Sets)

theorem storeInstalled_lookup_ne {id : SetId} (other : id ≠ box.setId) :
    (storeInstalled box sets).lookup id = sets.lookup id :=
  AList.lookup_insert_ne other

theorem mem_storeInstalled (id : SetId) :
    id ∈ storeInstalled box sets ↔ id = box.setId ∨ id ∈ sets :=
  AList.mem_insert _

theorem storeInstalled_lookup_self :
    ∃ it, (storeInstalled box sets).lookup box.setId = some it ∧ it.flags = box.setFlags ∧
      it.installDate = box.setInstallDate ∧ it.stickers = box.pack ∧ it.emoji = box.emoji := by
  unfold storeInstalled
  split <;> simp

variable (customSetId : SetId) (pack : Pack)

theorem cleanCustom_lookup_ne {id : SetId} (other : id ≠ customSetId) :
    (cleanCustom customSetId pack sets).lookup id = sets.lookup id := by
  unfold cleanCustom
  split
  · dsimp only
    split <;> simp [AList.lookup_erase_ne other, AList.lookup_insert_ne other]
  · rfl

theorem cleanCustom_lookup_self :
    (cleanCustom customSetId pack sets).lookup customSetId =
      (sets.lookup customSetId).bind fun custom =>
        if (custom.stickers.diff pack).isEmpty then none
        else some { custom with stickers := custom.stickers.diff pack } := by
  unfold cleanCustom
  split
  · next custom held =>
      simp only [foldl_removeFound_eq_diff, held, Option.some_bind]
      split <;> simp
  · simp [*]

theorem mem_cleanCustom_of_ne {id : SetId} (other : id ≠ customSetId) :
    id ∈ cleanCustom customSetId pack sets ↔ id ∈ sets := by
  rw [← AList.lookup_isSome, cleanCustom_lookup_ne sets customSetId pack other,
    AList.lookup_isSome]

end Sets

section InstallDone

variable (E : Environment) (now : TimeId) (result : MTPStickerSetInstallResult)
  (session : Session) (box : Inner)

theorem installDone_order :
    (installDone E now result session box).session.registry.order =
      box.setId :: session.registry.order.erase box.setId :=
  updateOrder_eq _ _

theorem installDone_archivedOrder :
    (installDone E now result session box).session.registry.archivedOrder =
      if test box.setFlags E.layout.fArchived then session.registry.archivedOrder.erase box.setId
      else session.registry.archivedOrder :=
  removeArchived_eq _ _ _

theorem installDone_sets :
    (installDone E now result session box).session.registry.sets =
      cleanCustom E.customSetId box.pack (storeInstalled
        { box with setInstallDate := now, setFlags := installedFlags E.layout box.setFlags }
        session.registry.sets) := rfl

theorem installDone_effects :
    (installDone E now result session box).effects =
      dispatch result (test box.setFlags E.layout.fArchived) box.setId := rfl

theorem mem_installDone_archivedOrder {id : SetId}
    (member : id ∈ (installDone E now result session box).session.registry.archivedOrder) :
    id ∈ session.registry.archivedOrder := by
  rw [installDone_archivedOrder] at member
  split at member
  · exact List.mem_of_mem_erase member
  · exact member

theorem mem_installDone_sets {id : SetId} (other : id ≠ E.customSetId) :
    id ∈ (installDone E now result session box).session.registry.sets ↔
      id = box.setId ∨ id ∈ session.registry.sets := by
  rw [installDone_sets, mem_cleanCustom_of_ne _ _ _ other, mem_storeInstalled]

theorem installDone_lookup_self (notCustom : box.setId ≠ E.customSetId) :
    ∃ it, (installDone E now result session box).session.registry.sets.lookup box.setId = some it ∧
      it.flags = installedFlags E.layout box.setFlags ∧ it.installDate = now ∧
      it.stickers = box.pack ∧ it.emoji = box.emoji := by
  obtain ⟨it, stored, fields⟩ := storeInstalled_lookup_self
    { box with setInstallDate := now, setFlags := installedFlags E.layout box.setFlags }
    session.registry.sets
  refine ⟨it, ?_, fields⟩
  rw [installDone_sets, cleanCustom_lookup_ne _ _ _ notCustom]
  exact stored

theorem installDone_wellFormed (notCustom : box.setId ≠ E.customSetId)
    (wf : session.registry.WellFormed E.customSetId) :
    (installDone E now result session box).session.registry.WellFormed E.customSetId := by
  have keyAfter : ∀ id, id ≠ E.customSetId → id ∈ session.registry.sets →
      id ∈ (installDone E now result session box).session.registry.sets :=
    fun id other held => (mem_installDone_sets E now result session box other).2 (Or.inr held)
  refine ⟨?_, ?_, ?_, ?_, ?_⟩
  · intro id ordered
    rw [installDone_order] at ordered
    rcases List.mem_cons.1 ordered with rfl | erased
    · exact (mem_installDone_sets E now result session _ notCustom).2 (Or.inl rfl)
    · have before := List.mem_of_mem_erase erased
      exact keyAfter id (fun same => wf.custom_not_ordered (same ▸ before))
        (wf.order_keys id before)
  · intro id archived
    have before := mem_installDone_archivedOrder E now result session box archived
    exact keyAfter id (fun same => wf.custom_not_archived (same ▸ before))
      (wf.archived_keys id before)
  · rw [installDone_order, List.mem_cons, not_or]
    exact ⟨Ne.symm notCustom, fun erased => wf.custom_not_ordered (List.mem_of_mem_erase erased)⟩
  · exact fun archived => wf.custom_not_archived
      (mem_installDone_archivedOrder E now result session box archived)
  · intro bucket held
    rw [installDone_sets, cleanCustom_lookup_self] at held
    obtain ⟨custom, -, kept⟩ := Option.bind_eq_some.1 held
    split at kept
    · cases kept
    · next nonempty =>
        cases kept
        simpa using nonempty

/-- The reordering is move-to-front on every order, duplicates allowed: it
keeps every other id, in the same relative order, and no duplicate appears. -/
theorem installDone_moves_set_to_front :
    (installDone E now result session box).session.registry.order =
        box.setId :: session.registry.order.erase box.setId ∧
      (session.registry.order.Nodup →
        (installDone E now result session box).session.registry.order.Nodup) ∧
      (∀ id, id ∈ (installDone E now result session box).session.registry.order ↔
        id = box.setId ∨ id ∈ session.registry.order) ∧
      (installDone E now result session box).session.registry.order.filter (· != box.setId) =
        session.registry.order.filter (· != box.setId) := by
  rw [installDone_order]
  refine ⟨rfl, fun nodup => List.nodup_cons.2 ⟨nodup.not_mem_erase, nodup.erase _⟩,
    fun id => ?_, ?_⟩
  · by_cases same : id = box.setId
    · simp [same]
    · simp [same, List.mem_erase_of_ne same]
  · have filtered : box.setId ∉ session.registry.order.filter (· != box.setId) := by simp
    simp [← List.erase_filter, List.erase_of_not_mem filtered]

/-- The custom bucket loses the pack as a multiset difference and goes when
that leaves it empty; no entry but the set's and the bucket's changes. -/
theorem installDone_custom_bucket (notCustom : box.setId ≠ E.customSetId) {bucket : StickerSet}
    (held : session.registry.sets.lookup E.customSetId = some bucket) :
    let sets := (installDone E now result session box).session.registry.sets
    let remaining := bucket.stickers.diff box.pack
    sets.lookup E.customSetId =
        (if remaining.isEmpty then none else some { bucket with stickers := remaining }) ∧
      (∀ id, id ≠ box.setId → id ≠ E.customSetId →
        sets.lookup id = session.registry.sets.lookup id) ∧
      (bucket.stickers.Nodup → ∀ kept, sets.lookup E.customSetId = some kept →
        ∀ sticker ∈ box.pack, sticker ∉ kept.stickers) := by
  dsimp only
  let installed := { box with setInstallDate := now, setFlags := installedFlags E.layout box.setFlags }
  have stored : (storeInstalled installed session.registry.sets).lookup E.customSetId =
      some bucket :=
    (storeInstalled_lookup_ne installed _ (Ne.symm notCustom)).trans held
  have bucketAfter := cleanCustom_lookup_self (storeInstalled installed session.registry.sets)
    E.customSetId box.pack
  rw [stored, Option.some_bind] at bucketAfter
  rw [installDone_sets]
  refine ⟨bucketAfter, fun id other notBucket => ?_, fun nodup kept found sticker inPack => ?_⟩
  · rw [cleanCustom_lookup_ne _ _ _ notBucket, storeInstalled_lookup_ne installed _ other]
  · rw [bucketAfter] at found
    split at found
    · cases found
    · cases found
      simp [nodup.mem_diff_iff, inPack]

/-- The archived order loses the set only when the box's flag snapshot says it
was archived, while the entry loses its archived bit in every case: when the
snapshot lacks the bit and the archived order lists the set, the set ends first
in the install order, still in the archived order, and unarchived in its entry. -/
theorem installDone_keeps_archived_listing (notCustom : box.setId ≠ E.customSetId)
    (stale : test box.setFlags E.layout.fArchived = false)
    (listed : box.setId ∈ session.registry.archivedOrder) :
    (installDone E now .success session box).session.registry.order.head? = some box.setId ∧
      box.setId ∈ (installDone E now .success session box).session.registry.archivedOrder ∧
      ¬(installDone E now .success session box).session.registry.InstalledApart ∧
      ∃ it, (installDone E now .success session box).session.registry.sets.lookup box.setId =
          some it ∧
        test it.flags E.layout.fInstalledDate = true ∧ test it.flags E.layout.fArchived = false := by
  have kept : box.setId ∈ (installDone E now .success session box).session.registry.archivedOrder := by
    rw [installDone_archivedOrder, if_neg (by simp [stale])]
    exact listed
  have ordered : box.setId ∈ (installDone E now .success session box).session.registry.order := by
    rw [installDone_order]
    exact List.mem_cons_self _ _
  obtain ⟨it, stored, flags, -⟩ := installDone_lookup_self E now .success session box notCustom
  exact ⟨by rw [installDone_order]; rfl, kept, fun apart => apart _ ordered kept, it, stored,
    flags ▸ installedFlags_installed _ _, flags ▸ installedFlags_not_archived _ _⟩

end InstallDone

def archivedSeven : Session where
  registry :=
    { sets := (∅ : Sets).insert 7
        ({ StickerSet.sample 7 [1] with flags := FlagLayout.flag FlagLayout.scheme.archived })
      order := []
      archivedOrder := [7] }
  documents := ∅

theorem installDone_keeps_archived_listing_of_seven :
    (archivedSeven.registry.sets.lookup 7).map
        (fun it => test it.flags Environment.sample.layout.fArchived) = some true ∧
      archivedSeven.registry.InstalledApart ∧
      (7 : SetId) ≠ Environment.sample.customSetId ∧
      test (0 : Flags) Environment.sample.layout.fArchived = false ∧
      (7 : SetId) ∈ archivedSeven.registry.archivedOrder ∧
      ¬(installDone .sample 0 .success archivedSeven
        { input := .id 7 0, setId := 7, pack := [1] }).session.registry.InstalledApart := by
  have apart : archivedSeven.registry.InstalledApart := fun _ member => by
    simp [archivedSeven] at member
  exact ⟨by decide, apart, by decide, by decide, by decide,
    (installDone_keeps_archived_listing .sample 0 archivedSeven
      { input := .id 7 0, setId := 7, pack := [1] } (by decide) (by decide) (by decide)).2.2.1⟩

def bucketOneTwo : Session :=
  ⟨⟨(∅ : Sets).insert Environment.sample.customSetId
    (.sample Environment.sample.customSetId [1, 2]), [], []⟩, ∅⟩

theorem installDone_custom_bucket_keeps_two :
    (7 : SetId) ≠ Environment.sample.customSetId ∧
      ((installDone .sample 0 .success bucketOneTwo
        { input := .id 7 0, setId := 7, pack := [1] }).session.registry.sets.lookup
          Environment.sample.customSetId).map (·.stickers) = some [2] := by
  refine ⟨by decide, ?_⟩
  rw [(installDone_custom_bucket .sample 0 .success bucketOneTwo
    { input := .id 7 0, setId := 7, pack := [1] } (by decide) rfl).1]
  rfl

end StickerSetBox.Inner
