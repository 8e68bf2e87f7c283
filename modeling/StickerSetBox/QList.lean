import Mathlib.Data.List.Basic

/-!
# The `QList` operations of the box

`indexOf`, `removeAt` and `insert` as Qt defines them on an `int` index, over
a Lean list. `indexOf` answers `-1` for a missing value, so the source's
`index >= 0` and `currentIndex > 0` tests are kept as written. The two blocks
of `installDone` that find a value and remove it are `removeFound`; its spec
lemma is that it erases the first occurrence.
-/

namespace StickerSetBox.QList

set_option autoImplicit false

variable {α : Type}

/-- `QList::removeAt`, for the non-negative indices the box passes. -/
def removeAt (list : List α) (index : Int) : List α :=
  list.eraseIdx index.toNat

/-- `QList::insert(i, value)`: `value` is placed before position `i`. -/
def insert (list : List α) (index : Int) (value : α) : List α :=
  list.insertIdx index.toNat value

@[simp]
theorem insert_zero (list : List α) (value : α) : insert list 0 value = value :: list := rfl

variable [DecidableEq α]

/-- `QList::indexOf`: the first index holding `value`, or `-1`. -/
def indexOf (list : List α) (value : α) : Int :=
  if value ∈ list then (list.indexOf value : Int) else -1

/-- The source's `index = list.indexOf(value); if (index >= 0) list.removeAt(index);`. -/
def removeFound (list : List α) (value : α) : List α :=
  let index := indexOf list value
  if index ≥ 0 then removeAt list index else list

theorem indexOf_of_not_mem {list : List α} {value : α} (absent : value ∉ list) :
    indexOf list value = -1 := by
  simp [indexOf, absent]

theorem indexOf_nonneg_iff (list : List α) (value : α) :
    0 ≤ indexOf list value ↔ value ∈ list := by
  unfold indexOf
  split
  · next present => exact iff_of_true (by omega) present
  · next absent => exact iff_of_false (by omega) absent

@[simp]
theorem indexOf_cons_self (value : α) (tail : List α) :
    indexOf (value :: tail) value = 0 := by
  simp [indexOf]

theorem indexOf_cons_ne {head value : α} (tail : List α) (different : head ≠ value) :
    indexOf (head :: tail) value = if value ∈ tail then indexOf tail value + 1 else -1 := by
  by_cases present : value ∈ tail
  · simp [indexOf, present, List.indexOf_cons_ne _ different]
  · simp [indexOf, present, Ne.symm different]

theorem indexOf_eq_zero {list : List α} {value : α} (zero : indexOf list value = 0) :
    ∃ tail, list = value :: tail := by
  cases list with
  | nil => simp [indexOf] at zero
  | cons head tail =>
      by_cases same : head = value
      · exact ⟨tail, by rw [same]⟩
      · rw [indexOf_cons_ne tail same] at zero
        split_ifs at zero with present
        · have := (indexOf_nonneg_iff tail value).2 present
          omega

theorem removeAt_indexOf {list : List α} {value : α} (present : value ∈ list) :
    removeAt list (indexOf list value) = list.erase value := by
  induction list with
  | nil => simp at present
  | cons head tail ih =>
      by_cases same : head = value
      · subst same
        simp [removeAt]
      · have inTail : value ∈ tail := by simpa [Ne.symm same] using present
        have found := (indexOf_nonneg_iff tail value).2 inTail
        rw [indexOf_cons_ne tail same, if_pos inTail,
          List.erase_cons_tail (by simpa using same)]
        simp only [removeAt] at ih ⊢
        rw [← ih inTail, show (indexOf tail value + 1).toNat = (indexOf tail value).toNat + 1
          by omega]
        rfl

theorem removeFound_eq_erase (list : List α) (value : α) :
    removeFound list value = list.erase value := by
  by_cases present : value ∈ list
  · simp [removeFound, (indexOf_nonneg_iff list value).2 present, removeAt_indexOf present]
  · simp [removeFound, indexOf_of_not_mem present, List.erase_of_not_mem present]

/-- The loop `for (x : pack) removeFound(list, x)` is the multiset difference. -/
theorem foldl_removeFound_eq_diff (list pack : List α) :
    pack.foldl removeFound list = list.diff pack := by
  induction pack generalizing list with
  | nil => rfl
  | cons sticker rest ih =>
      rw [List.foldl_cons, ih, removeFound_eq_erase, List.diff_cons]

end StickerSetBox.QList
