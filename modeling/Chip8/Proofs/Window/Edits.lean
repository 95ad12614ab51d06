import Chip8.Window
import Mathlib.Data.List.DropRight

/-!
# Windows after any edits

A window is compared with the unbounded list of the elements that were pushed
since it was last cleared.  `Shows` says that it holds the newest end of such
a list; an edit keeps this when the list is edited alike, and so it holds
after any edits of an empty window.

Windows of one capacity are therefore equal if their newest ends are, whatever
was pushed, evicted or cleared before.
-/

namespace Chip8.Window

variable {α : Type}

/-! ## Edits -/

/-- What can be done to a window. -/
inductive Edit (α : Type) where
  | push (element : α)
  | clear

namespace Edit

/-- The element that an edit records, if it records one. -/
def pushed? : Edit α → Option α
  | .push element => some element
  | .clear => none

/-- The elements pushed since the last clear, the oldest first. -/
def sinceClear (edits : List (Edit α)) : List α :=
  (edits.rtakeWhile (·.pushed?.isSome)).filterMap pushed?

theorem sinceClear_push (edits : List (Edit α)) (element : α) :
    sinceClear (edits ++ [.push element]) = sinceClear edits ++ [element] := by
  rw [sinceClear, List.rtakeWhile_concat_pos _ _ _ rfl, List.filterMap_append]
  rfl

theorem sinceClear_clear (edits : List (Edit α)) :
    sinceClear (edits ++ [.clear]) = [] := by
  rw [sinceClear, List.rtakeWhile_concat_neg _ _ _ Bool.false_ne_true,
    List.filterMap_nil]

end Edit

/-- Do one edit to a window. -/
def edit (window : Window α) : Edit α → Window α
  | .push element => window.push element
  | .clear => window.clear

/-- The window after some edits. -/
def editAll (window : Window α) (edits : List (Edit α)) : Window α :=
  edits.foldl edit window

@[simp]
theorem capacity_edit (window : Window α) (change : Edit α) :
    (window.edit change).capacity = window.capacity := by
  cases change with
  | push element => exact window.capacity_push element
  | clear => exact window.capacity_clear

@[simp]
theorem capacity_editAll (window : Window α) (edits : List (Edit α)) :
    (window.editAll edits).capacity = window.capacity := by
  induction edits generalizing window with
  | nil => rfl
  | cons change rest ih => exact (ih _).trans (window.capacity_edit change)

theorem editAll_concat (window : Window α) (edits : List (Edit α))
    (last : Edit α) :
    window.editAll (edits ++ [last]) = (window.editAll edits).edit last :=
  List.foldl_concat ..

/-! ## What a window shows -/

/-- A window holds the newest of some elements, which are given oldest first. -/
def Shows (window : Window α) (elements : List α) : Prop :=
  window.toList = elements.reverse.take window.capacity

namespace Shows

variable {window : Window α} {elements : List α}

/-- What is evicted by a push was the oldest element shown, if any. -/
theorem push (shows : window.Shows elements) (newest : α) :
    (window.push newest).Shows (elements ++ [newest]) := by
  have cut := take_append_take window.capacity [newest] elements.reverse
  rw [Shows, toList_push, capacity_push, shows, List.reverse_concat]
  exact cut

theorem length_eq (shows : window.Shows elements) :
    window.size = min window.capacity elements.length := by
  rw [size, shows, List.length_take, List.length_reverse]

theorem latest?_eq (shows : window.Shows elements) :
    window.latest? =
      if window.capacity = 0 then none else elements.getLast? := by
  rw [latest?, shows, List.head?_take, List.head?_reverse]

end Shows

/-- Every edit changes what is shown as it changes what was pushed. -/
theorem shows_editAll (capacity : Nat) (edits : List (Edit α)) :
    ((empty capacity).editAll edits).Shows (Edit.sinceClear edits) := by
  induction edits using List.reverseRecOn with
  | nil => exact List.take_nil.symm
  | append_singleton edits last ih =>
      rw [editAll_concat]
      cases last with
      | push element =>
          rw [Edit.sinceClear_push]
          exact ih.push element
      | clear =>
          rw [Edit.sinceClear_clear]
          exact List.take_nil.symm

/--
A window is the newest end of what was pushed since the last clear.  After any
edits its elements are the newest of those pushes, as many as its capacity
allows.  Its size and its latest element are told by the pushes, and its
capacity is the one it was made with.  So two windows of one capacity are
equal exactly if these newest ends are, whatever led to them.
-/
theorem newest_since_clear (capacity : Nat) (edits : List (Edit α)) :
    let window := (empty capacity).editAll edits
    let pushes := Edit.sinceClear edits
    window.toList = pushes.reverse.take capacity ∧
      window.size = min capacity pushes.length ∧
      window.latest? = (if capacity = 0 then none else pushes.getLast?) ∧
      window.capacity = capacity ∧
      ∀ others : List (Edit α),
        window = (empty capacity).editAll others ↔
          pushes.reverse.take capacity =
            (Edit.sinceClear others).reverse.take capacity := by
  intro window pushes
  have kept (edits : List (Edit α)) :
      ((empty capacity).editAll edits).capacity = capacity :=
    capacity_editAll _ edits
  have newest (edits : List (Edit α)) :
      ((empty capacity).editAll edits).toList =
        (Edit.sinceClear edits).reverse.take capacity :=
    (shows_editAll capacity edits).trans (by rw [kept])
  have shows := shows_editAll capacity edits
  have size := shows.length_eq
  have latest := shows.latest?_eq
  rw [kept] at size latest
  refine ⟨newest edits, size, latest, kept edits, ?_⟩
  intro others
  rw [← newest edits, ← newest others]
  constructor
  · exact congrArg toList
  · exact Window.ext ((kept edits).trans (kept others).symm)

/-- A full window, and one that was cleared on the way, can come to the same. -/
example :
    (empty 2).editAll [.push 1, .push 2, .push 3] =
      (empty 2).editAll [.push 2, .clear, .push 2, .push 3] := by
  decide

end Chip8.Window
