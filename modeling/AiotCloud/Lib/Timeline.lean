import Mathlib.Data.List.Perm.Basic

/-!
# Windows of a timeline

A timeline is a list in the order of the times of its items. A window holds its newest items,
each once.

1. `keepLast_append`: a buffer that keeps its last items can be cut at any time.
2. `covers_append_iff`: newer items that are in both do not matter.
3. `Covers.drop`: a window that loses its oldest items.
4. `Covers.keepLast`: a window in a buffer that keeps its last items.
-/

namespace Timeline

variable {α κ : Type}

/-! ## Buffers -/

/-- The last `n` items. -/
def keepLast (n : Nat) (items : List α) : List α := items.drop (items.length - n)

@[simp] theorem length_keepLast (n : Nat) (items : List α) :
    (keepLast n items).length = min n items.length := by
  rw [keepLast, List.length_drop]
  omega

theorem keepLast_of_le {n : Nat} {items : List α} (h : items.length ≤ n) :
    keepLast n items = items := by
  rw [keepLast, Nat.sub_eq_zero_of_le h, List.drop_zero]

/-- Items that are left out early are left out anyway. -/
theorem keepLast_append (n : Nat) (items tail : List α) :
    keepLast n (keepLast n items ++ tail) = keepLast n (items ++ tail) := by
  have cut : keepLast n items ++ tail = (items ++ tail).drop (items.length - n) := by
    rw [List.drop_append_of_le_length (Nat.sub_le _ _)]
    rfl
  rw [cut, keepLast, keepLast, List.drop_drop, List.length_drop, List.length_append]
  congr 1
  omega

theorem keepLast_append_of_le {n : Nat} {tail : List α} (h : n ≤ tail.length) (items : List α) :
    keepLast n (items ++ tail) = keepLast n tail := by
  have front : items.length + tail.length - n = items.length + (tail.length - n) := by omega
  rw [keepLast, keepLast, List.length_append, front, ← List.drop_drop, List.drop_left]

/-! ## Windows -/

section Windows

variable [LE κ] {time : α → κ}

def Chronological (time : α → κ) (items : List α) : Prop := items.Pairwise (time · ≤ time ·)

/-- `part` and some items that are not newer make up `all`; there are none of these unless `size`
has reached the limit. -/
structure Covers (time : α → κ) (limit : Nat) (all part : List α) (size : Nat) : Prop where
  chronological : Chronological time part
  rest : ∃ dropped, (dropped ++ part).Perm all ∧
    (∀ d ∈ dropped, ∀ p ∈ part, time d ≤ time p) ∧ (dropped = [] ∨ limit ≤ size)

variable {limit size size' : Nat} {all part tail : List α}

theorem Covers.mem (h : Covers time limit all part size) {a : α} (ha : a ∈ part) : a ∈ all := by
  obtain ⟨dropped, perm, -⟩ := h.rest
  exact perm.mem_iff.mp (List.mem_append_right _ ha)

theorem Covers.congr (h : Covers time limit all part size) {all' : List α} (same : all.Perm all') :
    Covers time limit all' part size := by
  obtain ⟨dropped, perm, older, room⟩ := h.rest
  exact ⟨h.chronological, dropped, perm.trans same, older, room⟩

theorem covers_append_iff (newer : ∀ a ∈ all, ∀ b ∈ tail, time a ≤ time b)
    (sorted : Chronological time tail) :
    Covers time limit (all ++ tail) (part ++ tail) size ↔ Covers time limit all part size := by
  constructor
  · intro h
    obtain ⟨dropped, perm, older, room⟩ := h.rest
    refine ⟨(List.pairwise_append.mp h.chronological).1, dropped, ?_, ?_, room⟩
    · rw [← List.append_assoc] at perm
      exact (List.perm_append_right_iff tail).mp perm
    · exact fun d hd p hp => older d hd p (List.mem_append_left _ hp)
  · intro h
    obtain ⟨dropped, perm, older, room⟩ := h.rest
    refine ⟨List.pairwise_append.mpr ⟨h.chronological, sorted, fun a ha b hb =>
      newer a (h.mem ha) b hb⟩, dropped, ?_, ?_, room⟩
    · rw [← List.append_assoc]
      exact perm.append_right tail
    · intro d hd p hp
      rcases List.mem_append.mp hp with hp | hp
      · exact older d hd p hp
      · exact newer d (perm.mem_iff.mp (List.mem_append_left _ hd)) p hp

/-- The oldest items of a window may be left out once the limit is reached. -/
theorem Covers.drop {front : List α} (h : Covers time limit all (front ++ part) size)
    (room : front = [] ∧ size ≤ size' ∨ limit ≤ size') : Covers time limit all part size' := by
  obtain ⟨dropped, perm, older, full⟩ := h.rest
  obtain ⟨-, sorted, newer⟩ := List.pairwise_append.mp h.chronological
  refine ⟨sorted, dropped ++ front, by rwa [List.append_assoc], ?_, ?_⟩
  · intro d hd p hp
    rcases List.mem_append.mp hd with hd | hd
    · exact older d hd p (List.mem_append_right _ hp)
    · exact newer d hd p hp
  · rcases room with ⟨rfl, bigger⟩ | room
    · rw [List.append_nil]
      exact full.imp_right fun full => Nat.le_trans full bigger
    · exact .inr room

/-- A buffer that drops its oldest items at the limit keeps a window of some of its items. -/
theorem Covers.keepLast {n : Nat} {items : List α} {p : α → Bool}
    (h : Covers time limit all (items.filter p) size) (small : size ≤ items.length)
    (room : limit ≤ n) :
    Covers time limit all ((Timeline.keepLast n items).filter p)
      (Timeline.keepLast n items).length := by
  have split : items.filter p =
      (items.take (items.length - n)).filter p ++ (Timeline.keepLast n items).filter p := by
    rw [← List.filter_append, Timeline.keepLast, List.take_append_drop]
  rw [split] at h
  refine h.drop ?_
  rw [length_keepLast]
  rcases Nat.le_total n items.length with long | short
  · rw [Nat.min_eq_left long]
    exact .inr room
  · rw [Nat.min_eq_right short, Nat.sub_eq_zero_of_le short]
    exact .inl ⟨rfl, small⟩

theorem covers_self (sorted : Chronological time all) (size : Nat) :
    Covers time limit all all size := ⟨sorted, [], .refl _, nofun, .inl rfl⟩

theorem Chronological.filter {items : List α} (h : Chronological time items) (p : α → Bool) :
    Chronological time (items.filter p) := List.Pairwise.filter p h

end Windows

end Timeline
