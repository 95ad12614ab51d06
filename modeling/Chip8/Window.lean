/-!
# Bounded windows

A window keeps the newest elements of a growing sequence, newest first, up to
a fixed capacity; a window of capacity zero keeps none.

`toList_push` says what recording one element does to the elements, and
`toList_foldl_push` what recording any number of them does: whatever was
evicted on the way, the newest are kept.
-/

namespace Chip8

/-- The newest elements of a sequence, newest first. -/
structure Window (α : Type) where
  capacity : Nat
  toList : List α
  length_le : toList.length ≤ capacity
deriving DecidableEq, Repr

namespace Window

variable {α : Type}

/--
A window without elements.  The capacity is only a bound: no room is set aside
for it, so that every capacity will do, however great.
-/
def empty (capacity : Nat) : Window α :=
  ⟨capacity, [], Nat.zero_le _⟩

/-- Record one element as the newest; a full window drops its oldest. -/
def push (window : Window α) (newest : α) : Window α :=
  if useless : window.capacity = 0 then
    window
  else if full : window.toList.length = window.capacity then
    { capacity := window.capacity
      toList := newest :: window.toList.dropLast
      length_le := by
        rw [List.length_cons, List.length_dropLast, full]
        omega }
  else
    { capacity := window.capacity
      toList := newest :: window.toList
      length_le := by
        have bound := window.length_le
        rw [List.length_cons]
        omega }

/-- Drop all elements and keep the capacity. -/
def clear (window : Window α) : Window α :=
  empty window.capacity

/-- How many elements there are. -/
def size (window : Window α) : Nat :=
  window.toList.length

/-- Whether there are no elements. -/
def isEmpty (window : Window α) : Bool :=
  window.toList.isEmpty

/-- The element recorded last. -/
def latest? (window : Window α) : Option α :=
  window.toList.head?

/-! ## The elements after each operation -/

@[ext]
theorem ext {left right : Window α}
    (capacities : left.capacity = right.capacity)
    (elements : left.toList = right.toList) : left = right := by
  cases left
  cases right
  simp_all

@[simp]
theorem toList_empty (capacity : Nat) :
    (empty capacity : Window α).toList = [] :=
  rfl

@[simp]
theorem toList_clear (window : Window α) : window.clear.toList = [] :=
  rfl

@[simp]
theorem capacity_empty (capacity : Nat) :
    (empty capacity : Window α).capacity = capacity :=
  rfl

@[simp]
theorem capacity_clear (window : Window α) :
    window.clear.capacity = window.capacity :=
  rfl

@[simp]
theorem capacity_push (window : Window α) (newest : α) :
    (window.push newest).capacity = window.capacity := by
  unfold push
  split
  · rfl
  · split <;> rfl

theorem take_cons_of_full {count : Nat} {elements : List α}
    (useful : count ≠ 0) (full : elements.length = count) (newest : α) :
    (newest :: elements).take count = newest :: elements.dropLast := by
  cases count with
  | zero => exact absurd rfl useful
  | succ rest =>
      rw [List.take_succ_cons, List.dropLast_eq_take, full,
        Nat.add_sub_cancel]

/--
The three ways of recording come to one: put the element in front and cut at
the capacity.
-/
@[simp]
theorem toList_push (window : Window α) (newest : α) :
    (window.push newest).toList =
      (newest :: window.toList).take window.capacity := by
  have bound := window.length_le
  unfold push
  split
  next useless =>
    have nothing : window.toList = [] :=
      List.eq_nil_of_length_eq_zero (by omega)
    simp [nothing, useless]
  next useful =>
    split
    next full => exact (take_cons_of_full useful full newest).symm
    next notFull =>
      refine (List.take_of_length_le ?_).symm
      rw [List.length_cons]
      omega

/-- Cutting the older elements first does not change what is kept. -/
theorem take_append_take (count : Nat) (newer older : List α) :
    (newer ++ older.take count).take count = (newer ++ older).take count := by
  rw [List.take_append, List.take_append, List.take_take,
    Nat.min_eq_left (Nat.sub_le _ _)]

@[simp]
theorem take_toList (window : Window α) :
    window.toList.take window.capacity = window.toList :=
  List.take_of_length_le window.length_le

@[simp]
theorem capacity_foldl_push (window : Window α) (elements : List α) :
    (elements.foldl push window).capacity = window.capacity := by
  induction elements generalizing window with
  | nil => rfl
  | cons element rest ih => rw [List.foldl_cons, ih, capacity_push]

/-- Recording elements one by one, the oldest first, keeps the newest. -/
theorem toList_foldl_push (window : Window α) (elements : List α) :
    (elements.foldl push window).toList =
      (elements.reverse ++ window.toList).take window.capacity := by
  induction elements generalizing window with
  | nil => exact (take_toList window).symm
  | cons element rest ih =>
      rw [List.foldl_cons, ih, capacity_push, toList_push,
        take_append_take, List.reverse_cons, List.append_assoc]
      rfl

end Window

end Chip8
