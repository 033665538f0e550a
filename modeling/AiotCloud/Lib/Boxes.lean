import Mathlib.Algebra.Order.Ring.Rat

/-!
# Boxes on a board

Upright boxes on a board with a number of columns and no lower edge. Items of any type are laid
out by giving each a box.

1. `le_bottom`: every box ends above the bottom of the list.
2. `Board.concat`: a box at the bottom is apart from all others.
3. `Board.map_of_apart`: items that get new boxes one by one.
-/

/-- The upper left corner, the width and the height. -/
structure Box (α : Type) where
  x : α
  y : α
  w : α
  h : α

namespace Box

variable {α ρ τ : Type} [Zero α] [Add α] [LinearOrder α]

/-- The boxes share no inner point. -/
def Apart (a b : Box α) : Prop :=
  a.x + a.w ≤ b.x ∨ b.x + b.w ≤ a.x ∨ a.y + a.h ≤ b.y ∨ b.y + b.h ≤ a.y

/-- The box lies on a board with `cols` columns. -/
structure Within (cols : α) (b : Box α) : Prop where
  left : 0 ≤ b.x
  right : b.x + b.w ≤ cols
  top : 0 ≤ b.y
  wide : 0 ≤ b.w
  high : 0 ≤ b.h

/-- The items, each with a box on the board, do not overlap. -/
structure Board (cols : α) (box : ρ → Box α) (items : List ρ) : Prop where
  within : ∀ item ∈ items, (box item).Within cols
  apart : items.Pairwise fun a b => (box a).Apart (box b)

/-- Below every item. -/
def bottom (box : ρ → Box α) (items : List ρ) : α :=
  items.foldl (fun low item => max low ((box item).y + (box item).h)) 0

variable {cols : α} {box : ρ → Box α} {items : List ρ}

omit [Zero α] in
theorem bottom_aux (start : α) :
    start ≤ items.foldl (fun low item => max low ((box item).y + (box item).h)) start ∧
      ∀ item ∈ items, (box item).y + (box item).h ≤
        items.foldl (fun low item => max low ((box item).y + (box item).h)) start := by
  induction items generalizing start with
  | nil => simp
  | cons first rest ih =>
    obtain ⟨low, ends⟩ := ih (max start ((box first).y + (box first).h))
    rw [List.foldl_cons]
    exact ⟨le_trans (le_max_left _ _) low,
      List.forall_mem_cons.mpr ⟨le_trans (le_max_right _ _) low, ends⟩⟩

theorem bottom_nonneg : 0 ≤ bottom box items := (bottom_aux 0).1

theorem le_bottom {item : ρ} (h : item ∈ items) :
    (box item).y + (box item).h ≤ bottom box items :=
  (bottom_aux 0).2 item h

namespace Board

theorem nil : Board cols box [] := ⟨by simp, List.Pairwise.nil⟩

theorem sublist {items' : List ρ} (board : Board cols box items) (h : items'.Sublist items) :
    Board cols box items' :=
  ⟨fun item hitem => board.within item (h.subset hitem), board.apart.sublist h⟩

theorem append_singleton {item : ρ} (board : Board cols box items)
    (within : (box item).Within cols) (apart : ∀ other ∈ items, (box other).Apart (box item)) :
    Board cols box (items ++ [item]) := by
  refine ⟨?_, List.pairwise_append.mpr ⟨board.apart, List.pairwise_singleton _ _, ?_⟩⟩
  · intro other hother
    rcases List.mem_append.mp hother with h | h
    · exact board.within other h
    · rwa [List.mem_singleton.mp h]
  · intro other hother last hlast
    rw [List.mem_singleton.mp hlast]
    exact apart other hother

/-- A new item goes below the others. -/
theorem concat {item : ρ} (board : Board cols box items) (within : (box item).Within cols)
    (low : (box item).y = bottom box items) : Board cols box (items ++ [item]) :=
  board.append_singleton within fun _ hother =>
    Or.inr (Or.inr (Or.inl (low ▸ le_bottom hother)))

/-- Every item gets a new box, distinct items boxes that are apart. -/
theorem map_of_apart {box' : τ → Box α} {f : ρ → τ} {differ : ρ → ρ → Prop}
    (distinct : items.Pairwise differ)
    (within : ∀ item ∈ items, (box' (f item)).Within cols)
    (apart : ∀ a ∈ items, ∀ b ∈ items, differ a b → (box' (f a)).Apart (box' (f b))) :
    Board cols box' (items.map f) := by
  refine ⟨?_, List.pairwise_map.mpr (distinct.imp_of_mem fun ha hb h => apart _ ha _ hb h)⟩
  intro item hitem
  obtain ⟨old, hold, rfl⟩ := List.mem_map.mp hitem
  exact within old hold

end Board

end Box
