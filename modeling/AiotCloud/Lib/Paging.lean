import Mathlib.Data.List.Nodup
import Mathlib.Data.List.Perm.Basic
import Mathlib.Data.List.Sort

/-!
# Pages of a sorted answer

Rows that are sorted by a total preorder and read page by page, where every page is cut out of
an answer of its own. Rows that tie come in any order, which may differ between the answers.

1. `pages_perm_iff`: the pages hold every row once, whatever the answers are, exactly if no two
   rows tie on the two sides of a page border.
2. `apartAtBorders_unordered`, `apartAtBorders_of_antisymm`: an order that ties all rows allows
   one page, and one that tells all rows apart any number.
-/

namespace Paging

variable {α : Type} {le : α → α → Bool} {rows order other : List α} {take : Nat}

/-- An answer: the rows in an order that `le` allows. -/
structure Arranged (le : α → α → Bool) (rows order : List α) : Prop where
  perm : order.Perm rows
  sorted : order.Pairwise fun a b => le a b = true

/-- Page `k`, counted from zero. -/
def page (take k : Nat) (order : List α) : List α := (order.drop (k * take)).take take

/-- How many pages `n` rows fill. -/
def pageCount (take n : Nat) : Nat := (n + take - 1) / take

/-- The pages, each from its own answer. -/
def pages (take n : Nat) (orders : Nat → List α) : List α :=
  (List.range n).flatMap fun k => page take k (orders k)

/-- The two rows at a page border do not tie. -/
def ApartAtBorders (le : α → α → Bool) (take : Nat) (rows : List α) : Prop :=
  ∀ before x y after, rows.mergeSort le = before ++ x :: y :: after →
    take ∣ before.length + 1 → le y x = false

/-! ## Prefixes -/

theorem arranged_mergeSort (trans : ∀ a b c, le a b → le b c → le a c)
    (total : ∀ a b, le a b || le b a) : Arranged le rows (rows.mergeSort le) :=
  ⟨List.mergeSort_perm rows le, List.pairwise_mergeSort trans total rows⟩

/-- A property that holds of all rows before one it holds of selects the first rows. -/
theorem filter_eq_take {p : α → Bool} (closed : ∀ a b, le a b → p b → p a) {l : List α}
    (sorted : l.Pairwise fun a b => le a b = true) : l.filter p = l.take (l.filter p).length := by
  induction l with
  | nil => rfl
  | cons a l ih =>
    obtain ⟨first, rest⟩ := List.pairwise_cons.mp sorted
    cases ha : p a with
    | true => rw [List.filter_cons_of_pos ha, List.length_cons, List.take_succ_cons, ← ih rest]
    | false =>
      have none : l.filter p = [] := by
        rw [List.filter_eq_nil_iff]
        intro b hb hpb
        rw [closed a b (first b hb) hpb] at ha
        cases ha
      simp [List.filter_cons_of_neg, ha, none]

/-- Two answers agree on the rows before a border that is no tie. -/
theorem take_perm (trans : ∀ a b c, le a b → le b c → le a c) (total : ∀ a b, le a b || le b a)
    {before after : List α} {x y : α} (border : order = before ++ x :: y :: after)
    (apart : le y x = false) (first : Arranged le rows order) (second : Arranged le rows other) :
    (order.take (before.length + 1)).Perm (other.take (before.length + 1)) := by
  let p : α → Bool := fun a => le a x
  have closed : ∀ a b, le a b → p b → p a := fun a b hab hb => trans a b x hab hb
  have whole : order = (before ++ [x]) ++ y :: after := by rw [border]; simp
  have cut : order.take (before.length + 1) = before ++ [x] := by
    rw [whole, List.take_left' (by simp)]
  have selected : order.filter p = before ++ [x] := by
    have sorted := first.sorted
    rw [whole, List.pairwise_append] at sorted
    have self : le x x = true := by simpa using total x x
    have low : (before ++ [x]).filter p = before ++ [x] := by
      rw [List.filter_eq_self]
      intro a ha
      rcases List.mem_append.mp ha with ha | ha
      · exact (List.pairwise_append.mp sorted.1).2.2 a ha x (List.mem_singleton_self x)
      · rw [List.mem_singleton.mp ha]
        exact self
    have high : (y :: after).filter p = [] := by
      rw [List.filter_eq_nil_iff]
      intro a ha hax
      rcases List.mem_cons.mp ha with rfl | ha
      · rw [show le a x = true from hax] at apart
        cases apart
      · have := (List.pairwise_cons.mp sorted.2.1).1 a ha
        rw [trans y a x this hax] at apart
        cases apart
    rw [whole, List.filter_append, low, high, List.append_nil]
  have perm : (order.filter p).Perm (other.filter p) :=
    (first.perm.trans second.perm.symm).filter p
  have length : (other.filter p).length = before.length + 1 := by
    rw [← perm.length_eq, selected]
    simp
  rw [cut, ← selected, ← length, ← filter_eq_take closed second.sorted]
  exact perm

theorem split_at {l : List α} {n : Nat} (h : n + 1 < l.length) :
    l = l.take n ++ l[n] :: l[n + 1] :: l.drop (n + 2) := by
  rw [← List.drop_eq_getElem_cons h, ← List.drop_eq_getElem_cons (Nat.lt_of_succ_lt h),
    List.take_append_drop]

/-- Where no tie is at a border, every answer has the same rows on the pages before it. -/
theorem cut_perm (trans : ∀ a b c, le a b → le b c → le a c) (total : ∀ a b, le a b || le b a)
    (apart : ApartAtBorders le take rows) (second : Arranged le rows other) (k : Nat) :
    ((rows.mergeSort le).take (k * take)).Perm (other.take (k * take)) := by
  have first : Arranged le rows (rows.mergeSort le) := arranged_mergeSort trans total
  rcases Nat.eq_zero_or_pos (k * take) with zero | positive
  · rw [zero, List.take_zero, List.take_zero]
  obtain ⟨n, hn⟩ : ∃ n, k * take = n + 1 := ⟨k * take - 1, by omega⟩
  rw [hn]
  rcases lt_or_ge (n + 1) (rows.mergeSort le).length with inside | outside
  · have border := split_at inside
    have length : ((rows.mergeSort le).take n).length = n := by
      rw [List.length_take]
      omega
    have := take_perm trans total border
      (apart _ _ _ _ border (by rw [length, ← hn]; exact Nat.dvd_mul_left take k)) first second
    rwa [length] at this
  · rw [List.take_of_length_le outside,
      List.take_of_length_le (by rwa [second.perm.length_eq, ← first.perm.length_eq])]
    exact first.perm.trans second.perm.symm

theorem pages_succ (n : Nat) (orders : Nat → List α) :
    pages take (n + 1) orders = pages take n orders ++ page take n (orders n) := by
  simp [pages, List.range_succ]

theorem take_page (n : Nat) (order : List α) :
    order.take (n * take) ++ page take n order = order.take ((n + 1) * take) := by
  rw [Nat.succ_mul, List.take_add]
  rfl

theorem length_le_pageCount (positive : 0 < take) (n : Nat) : n ≤ pageCount take n * take := by
  have := Nat.div_add_mod (n + take - 1) take
  have := Nat.mod_lt (n + take - 1) positive
  unfold pageCount
  rw [Nat.mul_comm]
  omega

/-- The pages up to the last one hold what one answer has up to there. -/
theorem pages_perm_take (trans : ∀ a b c, le a b → le b c → le a c)
    (total : ∀ a b, le a b || le b a) (apart : ApartAtBorders le take rows)
    {orders : Nat → List α} {n : Nat} (arranged : ∀ k < n, Arranged le rows (orders k)) :
    (pages take n orders).Perm ((rows.mergeSort le).take (n * take)) := by
  induction n with
  | zero => simp [pages]
  | succ n ih =>
    have prior := ih fun k hk => arranged k (Nat.lt_succ_of_lt hk)
    have last := arranged n (Nat.lt_succ_self n)
    have joined : (pages take (n + 1) orders).Perm
        ((orders n).take (n * take) ++ page take n (orders n)) := by
      rw [pages_succ]
      exact (prior.trans (cut_perm trans total apart last n)).append_right _
    rw [take_page] at joined
    exact joined.trans (cut_perm trans total apart last (n + 1)).symm

theorem mem_page {before after : List α} {x : α} {k : Nat} (low : k * take ≤ before.length)
    (high : before.length < k * take + take) : x ∈ page take k (before ++ x :: after) := by
  unfold page
  rw [List.drop_append_of_le_length low, List.take_append, List.mem_append]
  obtain ⟨m, hm⟩ : ∃ m, take - (before.drop (k * take)).length = m + 1 :=
    Nat.exists_eq_succ_of_ne_zero (by rw [List.length_drop]; omega)
  rw [hm]
  exact .inr List.mem_cons_self

/-- Two neighbours that tie may come in either order. -/
theorem arranged_swap {before after : List α} {x y : α} (tie : le y x = true)
    (h : Arranged le rows (before ++ x :: y :: after)) :
    Arranged le rows (before ++ y :: x :: after) := by
  refine ⟨((List.Perm.swap x y after).append_left before).trans h.perm, ?_⟩
  have sorted := h.sorted
  simp only [List.pairwise_append, List.pairwise_cons, List.mem_cons] at sorted ⊢
  obtain ⟨hbefore, ⟨hx, hy, hafter⟩, across⟩ := sorted
  refine ⟨hbefore, ⟨?_, fun a ha => hx a (.inr ha), hafter⟩, ?_⟩
  · rintro a (rfl | ha)
    · exact tie
    · exact hy a ha
  · rintro a ha b (rfl | rfl | hb)
    · exact across a ha b (.inr (.inl rfl))
    · exact across a ha b (.inl rfl)
    · exact across a ha b (.inr (.inr hb))

/-- A tie at a border lets one row be the last of a page and the first of the next. -/
theorem pages_not_nodup (positive : 0 < take) {before after : List α} {x y : α}
    (tie : le y x = true) (border : take ∣ before.length + 1)
    (h : Arranged le rows (before ++ x :: y :: after)) :
    ∃ orders : Nat → List α, (∀ k, Arranged le rows (orders k)) ∧
      ¬ (pages take (pageCount take rows.length) orders).Nodup := by
  obtain ⟨k, hk⟩ := border
  obtain ⟨k, rfl⟩ : ∃ j, k = j + 1 := Nat.exists_eq_succ_of_ne_zero (by rintro rfl; omega)
  have cut : before.length + 1 = k * take + take := by rw [hk, Nat.mul_comm, Nat.succ_mul]
  refine ⟨fun j => if j ≤ k then before ++ x :: y :: after else before ++ y :: x :: after, ?_, ?_⟩
  · intro j
    dsimp only
    split
    · exact h
    · exact arranged_swap tie h
  · intro nodup
    have length := h.perm.length_eq
    rw [List.length_append, List.length_cons, List.length_cons] at length
    have reached : k + 1 < pageCount take rows.length := by
      by_contra short
      have := length_le_pageCount positive rows.length
      have := Nat.mul_le_mul_right take (not_lt.mp short)
      rw [Nat.succ_mul] at this
      omega
    have last : x ∈ page take k (before ++ x :: y :: after) := mem_page (by omega) (by omega)
    have next : x ∈ page take (k + 1) ((before ++ [y]) ++ x :: after) :=
      mem_page (by simp [Nat.succ_mul]; omega) (by simp [Nat.succ_mul]; omega)
    rw [List.append_assoc] at next
    have disjoint := List.pairwise_iff_getElem.mp (List.nodup_flatMap.mp nodup).2 k (k + 1)
      (by rw [List.length_range]; omega) (by rw [List.length_range]; omega) (Nat.lt_succ_self k)
    simp only [List.getElem_range, Function.onFun, le_refl, Nat.not_succ_le_self, if_true,
      if_false] at disjoint
    exact disjoint last next

/-- Whatever the answers are, the pages hold every row once. -/
theorem pages_perm_iff (trans : ∀ a b c, le a b → le b c → le a c)
    (total : ∀ a b, le a b || le b a) (nodup : rows.Nodup) (positive : 0 < take) :
    (∀ orders : Nat → List α, (∀ k, Arranged le rows (orders k)) →
      (pages take (pageCount take rows.length) orders).Perm rows) ↔
      ApartAtBorders le take rows := by
  constructor
  · intro claim before x y after sorted border
    cases tie : le y x with
    | false => rfl
    | true =>
      have arranged : Arranged le rows (before ++ x :: y :: after) :=
        sorted ▸ arranged_mergeSort trans total
      obtain ⟨orders, allowed, twice⟩ := pages_not_nodup positive tie border arranged
      exact absurd ((claim orders allowed).nodup_iff.mpr nodup) twice
  · intro apart orders allowed
    have perm := pages_perm_take trans total apart
      fun k (_ : k < pageCount take rows.length) => allowed k
    rw [List.take_of_length_le] at perm
    · exact perm.trans (List.mergeSort_perm rows le)
    · rw [List.length_mergeSort]
      exact length_le_pageCount positive rows.length

/-- If all rows tie, only one page is safe. -/
theorem apartAtBorders_unordered (all : ∀ a b, le a b = true) (positive : 0 < take) :
    ApartAtBorders le take rows ↔ rows.length ≤ take := by
  constructor
  · intro apart
    by_contra more
    obtain ⟨n, rfl⟩ : ∃ n, take = n + 1 := Nat.exists_eq_succ_of_ne_zero positive.ne'
    have inside : n + 1 < (rows.mergeSort le).length := by
      rw [List.length_mergeSort]
      omega
    have length : ((rows.mergeSort le).take n).length = n := by
      rw [List.length_take]
      omega
    have tie := apart _ _ _ _ (split_at inside) ⟨1, by rw [length, Nat.mul_one]⟩
    rw [all] at tie
    cases tie
  · intro one before x y after sorted border
    have length := congrArg List.length sorted
    rw [List.length_mergeSort, List.length_append, List.length_cons, List.length_cons] at length
    have := Nat.le_of_dvd (Nat.succ_pos _) border
    omega

/-- If the order tells all rows apart, no border is a tie. -/
theorem apartAtBorders_of_antisymm (trans : ∀ a b c, le a b → le b c → le a c)
    (total : ∀ a b, le a b || le b a)
    (antisymm : ∀ a ∈ rows, ∀ b ∈ rows, le a b → le b a → a = b) (nodup : rows.Nodup) :
    ApartAtBorders le take rows := by
  intro before x y after sorted border
  cases tie : le y x with
  | false => rfl
  | true =>
    have arranged : Arranged le rows (before ++ x :: y :: after) :=
      sorted ▸ arranged_mergeSort trans total
    have mem {a : α} : a ∈ before ++ x :: y :: after → a ∈ rows := arranged.perm.mem_iff.mp
    have next := (List.pairwise_cons.mp (List.pairwise_append.mp arranged.sorted).2.1).1 y
      List.mem_cons_self
    have same : x = y := antisymm x (mem (by simp)) y (mem (by simp)) next tie
    have distinct := arranged.perm.nodup_iff.mpr nodup
    simp [same, List.nodup_append] at distinct

end Paging
