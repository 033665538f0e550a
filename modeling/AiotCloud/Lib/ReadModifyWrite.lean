import Mathlib.Data.List.DropRight
import Mathlib.Data.List.Induction
import Mathlib.Data.List.Nodup
import Mathlib.Logic.Function.Basic
import AiotCloud.Lib.Interleave
import AiotCloud.Lib.Run

/-!
# Read, modify, write

Any number of operations share one cell. An operation reads the cell, and when it
writes, it writes what it makes of its copy, whatever the cell holds by then. The cell
is therefore not what all the writes make of it, but what one chain of them does: the
last write, the write its operation had read, and so on (`lineage`).

1. `value_eq_foldl_lineage`: the cell is the lineage applied in order.
2. `lineage_sublist`: the lineage is a part of the writes, in their order.
3. `lineage_eq_writes_iff`: it is all of them exactly when no write falls between another
   one and its read.
4. `getLast?_lineage`: it ends with the last write.
5. `Simulates.view_run`: an interleaving of processes that read and write a part of
   their state so leaves in it what the cell holds.
6. `WritesOnce.written_run`: which processes have written, if each does once.
-/

namespace ReadModifyWrite

/-- A turn of an operation. -/
inductive Turn (ι : Type) where
  | read (i : ι)
  | write (i : ι)
deriving DecidableEq, Repr

/-- The value, and the copy each operation has read last. -/
structure Cell (ι σ : Type) where
  value : σ
  copies : ι → Option σ

variable {ι σ τ : Type} [DecidableEq ι]

/-- The operation `i` makes `f i copy` of its copy. A write without a read does nothing. -/
def step (f : ι → σ → σ) (c : Cell ι σ) : Turn ι → Cell ι σ
  | .read i => ⟨c.value, Function.update c.copies i (some c.value)⟩
  | .write i =>
    match c.copies i with
    | some copy => ⟨f i copy, c.copies⟩
    | none => c

/-- The cell before any turn. -/
def Cell.start (s : σ) : Cell ι σ := ⟨s, fun _ => none⟩

/-- The cell after the turns. -/
def run (f : ι → σ → σ) (s : σ) (turns : List (Turn ι)) : Cell ι σ :=
  Run.exec (step f) (.start s) turns

theorem run_concat (f : ι → σ → σ) (s : σ) (turns : List (Turn ι)) (t : Turn ι) :
    run f s (turns ++ [t]) = step f (run f s turns) t := Run.exec_append

/-- The operations that write, in the order of their writes. -/
def writes (turns : List (Turn ι)) : List ι :=
  turns.filterMap fun
    | .write i => some i
    | .read _ => none

omit [DecidableEq ι] in
theorem mem_writes {turns : List (Turn ι)} {i : ι} : i ∈ writes turns ↔ .write i ∈ turns := by
  unfold writes
  rw [List.mem_filterMap]
  constructor
  · rintro ⟨t, ht, hi⟩
    cases t with
    | read j => exact absurd hi (by simp)
    | write j =>
      obtain rfl := Option.some.inj hi
      exact ht
  · exact fun h => ⟨.write i, h, rfl⟩

omit [DecidableEq ι] in
@[simp] theorem writes_nil : writes ([] : List (Turn ι)) = [] := rfl

omit [DecidableEq ι] in
@[simp] theorem writes_concat_read (turns : List (Turn ι)) (i : ι) :
    writes (turns ++ [.read i]) = writes turns := by
  simp [writes]

omit [DecidableEq ι] in
@[simp] theorem writes_concat_write (turns : List (Turn ι)) (i : ι) :
    writes (turns ++ [.write i]) = writes turns ++ [i] := by
  simp [writes]

/-! ## The lineage -/

/-- The machine whose cell is the list of the operations in it. -/
def history (turns : List (Turn ι)) : Cell ι (List ι) :=
  run (fun i before => before ++ [i]) [] turns

theorem history_concat (turns : List (Turn ι)) (t : Turn ι) :
    history (turns ++ [t]) = step (fun i before => before ++ [i]) (history turns) t :=
  run_concat _ _ _ _

/-- The operations whose changes the cell holds, in order. -/
def lineage (turns : List (Turn ι)) : List ι := (history turns).value

/-- The cell with `h` applied to all it holds. -/
def Cell.map (h : σ → τ) (c : Cell ι σ) : Cell ι τ := ⟨h c.value, fun i => (c.copies i).map h⟩

theorem step_map {f : ι → σ → σ} {g : ι → τ → τ} {h : σ → τ} (hom : ∀ i s, g i (h s) = h (f i s))
    (c : Cell ι σ) (t : Turn ι) : step g (c.map h) t = (step f c t).map h := by
  cases t with
  | read i =>
    simp only [step, Cell.map, Cell.mk.injEq, true_and]
    funext j
    rcases eq_or_ne j i with rfl | hne
    · simp
    · simp [hne]
  | write i =>
    cases hcopy : c.copies i with
    | none => simp [step, Cell.map, hcopy]
    | some copy => simp [step, Cell.map, hcopy, hom]

/-- Every machine is an image of the list machine. -/
theorem run_eq_map_history (f : ι → σ → σ) (s : σ) (turns : List (Turn ι)) :
    run f s turns = (history turns).map (List.foldl (fun s i => f i s) s) := by
  induction turns using List.reverseRecOn with
  | nil => rfl
  | append_singleton turns t ih =>
    have hom : ∀ i before, f i (List.foldl (fun s i => f i s) s before) =
        List.foldl (fun s i => f i s) s (before ++ [i]) := by simp
    rw [run_concat, ih, history_concat]
    exact step_map hom _ t

/-- The cell is what the operations of the lineage make of the start, in order. -/
theorem value_eq_foldl_lineage (f : ι → σ → σ) (s : σ) (turns : List (Turn ι)) :
    (run f s turns).value = (lineage turns).foldl (fun s i => f i s) s := by
  rw [run_eq_map_history]
  rfl

/-- The turns since the last read of `i`. -/
def since (i : ι) (turns : List (Turn ι)) : List (Turn ι) := turns.rtakeWhile (· ≠ .read i)

/-- Every write has its read before it, and no other write comes between. -/
def Apart (turns : List (Turn ι)) : Prop :=
  ∀ before i, before ++ [.write i] <+: turns → .read i ∈ before ∧ writes (since i before) = []

theorem apart_concat_iff {turns : List (Turn ι)} {t : Turn ι} :
    Apart (turns ++ [t]) ↔
      Apart turns ∧ ∀ i, t = .write i → .read i ∈ turns ∧ writes (since i turns) = [] := by
  constructor
  · intro apart
    refine ⟨fun before i h => apart before i (h.trans (List.prefix_append _ _)), ?_⟩
    rintro i rfl
    exact apart turns i (List.prefix_refl _)
  · rintro ⟨apart, last⟩ before i h
    rcases List.prefix_concat_iff.mp h with heq | hpre
    · obtain ⟨rfl, ht⟩ := List.append_inj' heq rfl
      exact last i (List.singleton_inj.mp ht).symm
    · exact apart before i hpre

/-- What the copies of the list machine are, against the writes so far. -/
structure Copied (turns : List (Turn ι)) (c : Cell ι (List ι)) : Prop where
  value : c.value.Sublist (writes turns)
  unread : ∀ i, c.copies i = none ↔ .read i ∉ turns
  copy : ∀ i copy, c.copies i = some copy → copy.Sublist (writes turns)
  fresh : ∀ i copy, c.copies i = some copy → writes (since i turns) = [] → copy = c.value
  stale : ∀ i copy, c.copies i = some copy → writes (since i turns) ≠ [] →
    copy.length < (writes turns).length

theorem since_concat_of_ne {turns : List (Turn ι)} {t : Turn ι} {i : ι} (h : t ≠ .read i) :
    since i (turns ++ [t]) = since i turns ++ [t] :=
  List.rtakeWhile_concat_pos _ _ _ (by simpa using h)

theorem since_concat_read (turns : List (Turn ι)) (i : ι) : since i (turns ++ [.read i]) = [] :=
  List.rtakeWhile_concat_neg _ _ _ (by simp)

theorem copied_history (turns : List (Turn ι)) : Copied turns (history turns) := by
  induction turns using List.reverseRecOn with
  | nil =>
    have start : ∀ i, (history ([] : List (Turn ι))).copies i = none := fun _ => rfl
    refine ⟨List.Sublist.slnil, fun i => by simp [start], ?_, ?_, ?_⟩
    all_goals intro i copy h; simp [start] at h
  | append_singleton turns t ih =>
    rw [history_concat]
    cases t with
    | read j =>
      -- the reader's copy is the value; the others keep their copies
      have same : ∀ i copy, i ≠ j →
          Function.update (history turns).copies j (some (history turns).value) i = some copy →
          (history turns).copies i = some copy := by
        intro i copy hne h
        rwa [Function.update_of_ne hne] at h
      have later : ∀ {i}, i ≠ j →
          writes (since i (turns ++ [.read j])) = writes (since i turns) := by
        intro i hne
        rw [since_concat_of_ne (by simpa using hne.symm), writes_concat_read]
      refine ⟨by simpa [step] using ih.value, fun i => ?_, fun i copy h => ?_, fun i copy h => ?_,
        fun i copy h => ?_⟩
      · rcases eq_or_ne i j with rfl | hne
        · simp [step]
        · simp [step, hne, ih.unread i]
      · rw [writes_concat_read]
        rcases eq_or_ne i j with rfl | hne
        · have hcopy : (history turns).value = copy := by simpa [step] using h
          exact hcopy ▸ ih.value
        · exact ih.copy i copy (same i copy hne h)
      · rcases eq_or_ne i j with rfl | hne
        · have hcopy : (history turns).value = copy := by simpa [step] using h
          exact fun _ => hcopy.symm
        · intro hsince
          exact ih.fresh i copy (same i copy hne h) (later hne ▸ hsince)
      · rcases eq_or_ne i j with rfl | hne
        · intro hsince
          simp [since_concat_read] at hsince
        · intro hsince
          rw [writes_concat_read]
          exact ih.stale i copy (same i copy hne h) (later hne ▸ hsince)
    | write j =>
      -- every copy is now older than the last write
      have older : ∀ i copy, (history turns).copies i = some copy →
          copy.length < (writes (turns ++ [.write j])).length := by
        intro i copy h
        have hle := (ih.copy i copy h).length_le
        rw [writes_concat_write, List.length_append]
        exact Nat.lt_succ_of_le hle
      have written : ∀ i, writes (since i (turns ++ [.write j])) ≠ [] := by
        intro i
        rw [since_concat_of_ne (by simp), writes_concat_write]
        simp
      have kept : (step (fun i before => before ++ [i]) (history turns) (.write j)).copies =
          (history turns).copies := by
        simp only [step]
        split <;> rfl
      refine ⟨?_, fun i => ?_, fun i copy h => ?_, fun i copy _ hsince => ?_, fun i copy h _ => ?_⟩
      · rw [writes_concat_write]
        simp only [step]
        split
        · next copy hcopy => exact (ih.copy j copy hcopy).append (List.Sublist.refl [j])
        · exact ih.value.trans (List.sublist_append_left _ _)
      · rw [kept, ih.unread i]
        simp
      · rw [kept] at h
        rw [writes_concat_write]
        exact (ih.copy i copy h).trans (List.sublist_append_left _ _)
      · exact absurd hsince (written i)
      · rw [kept] at h
        exact older i copy h

/-- The copy of an operation is the value as long as nothing is written after its read. -/
theorem copy_eq_value {f : ι → σ → σ} {s : σ} {turns : List (Turn ι)} {i : ι} {copy : σ}
    (h : (run f s turns).copies i = some copy) (fresh : writes (since i turns) = []) :
    copy = (run f s turns).value := by
  rw [run_eq_map_history] at h ⊢
  obtain ⟨before, hbefore, rfl⟩ := Option.map_eq_some_iff.mp h
  rw [(copied_history turns).fresh i before hbefore fresh]
  rfl

theorem lineage_sublist (turns : List (Turn ι)) : (lineage turns).Sublist (writes turns) :=
  (copied_history turns).value

theorem lineage_concat_read (turns : List (Turn ι)) (i : ι) :
    lineage (turns ++ [.read i]) = lineage turns := by
  rw [lineage, history_concat]
  rfl

/-- No write is lost exactly when no write falls between another one and its read. -/
theorem lineage_eq_writes_iff (turns : List (Turn ι)) :
    lineage turns = writes turns ↔ Apart turns := by
  induction turns using List.reverseRecOn with
  | nil =>
    refine iff_of_true rfl fun before i h => ?_
    exact absurd (List.prefix_nil.mp h) (by simp)
  | append_singleton turns t ih =>
    rw [apart_concat_iff, ← ih]
    have copied := copied_history turns
    cases t with
    | read i => simp [lineage_concat_read]
    | write i =>
      rw [writes_concat_write, lineage, history_concat]
      cases hcopy : (history turns).copies i with
      | none =>
        -- nothing is written, so the lineage is too short
        have unread := (copied.unread i).mp hcopy
        refine iff_of_false (fun heq => ?_) fun h => absurd (h.2 i rfl).1 unread
        have hlen : (history turns).value.length = (writes turns ++ [i]).length := by
          rw [← heq]
          simp [step, hcopy]
        have hle := copied.value.length_le
        rw [hlen, List.length_append] at hle
        exact absurd hle (by simp)
      | some copy =>
        have read : .read i ∈ turns := by
          by_contra unread
          exact absurd ((copied.unread i).mpr unread) (by simp [hcopy])
        have hstep : (step (fun i before => before ++ [i]) (history turns) (.write i)).value =
            copy ++ [i] := by
          simp [step, hcopy]
        rw [hstep, List.append_cancel_right_eq]
        constructor
        · rintro rfl
          have fresh : writes (since i turns) = [] := by
            by_contra hstale
            exact absurd (copied.stale i _ hcopy hstale) (lt_irrefl _)
          refine ⟨(copied.fresh i _ hcopy fresh).symm, ?_⟩
          rintro j hj
          obtain rfl := Turn.write.inj hj
          exact ⟨read, fresh⟩
        · rintro ⟨heq, fresh⟩
          rw [copied.fresh i copy hcopy (fresh i rfl).2]
          exact heq

/-- Every write has a read before it. -/
def Begun (turns : List (Turn ι)) : Prop :=
  ∀ before i, before ++ [.write i] <+: turns → .read i ∈ before

omit [DecidableEq ι] in
theorem Begun.concat {turns : List (Turn ι)} (begun : Begun turns) {t : Turn ι}
    (last : ∀ i, t = .write i → .read i ∈ turns) : Begun (turns ++ [t]) := by
  intro before i h
  rcases List.prefix_concat_iff.mp h with heq | hpre
  · obtain ⟨rfl, ht⟩ := List.append_inj' heq rfl
    exact last i (List.singleton_inj.mp ht).symm
  · exact begun before i hpre

/-- An operation that holds a copy has read. -/
theorem read_of_copies {f : ι → σ → σ} {s : σ} {turns : List (Turn ι)} {i : ι} {copy : σ}
    (h : (run f s turns).copies i = some copy) : .read i ∈ turns := by
  by_contra unread
  rw [run_eq_map_history] at h
  have hnone := ((copied_history turns).unread i).mpr unread
  simp [Cell.map, hnone] at h

theorem getLast?_lineage {turns : List (Turn ι)} (begun : Begun turns) :
    (lineage turns).getLast? = (writes turns).getLast? := by
  induction turns using List.reverseRecOn with
  | nil => rfl
  | append_singleton turns t ih =>
    have earlier : Begun turns :=
      fun before i h => begun before i (h.trans (List.prefix_append _ _))
    cases t with
    | read i => rw [lineage_concat_read, writes_concat_read, ih earlier]
    | write i =>
      have read := begun turns i (List.prefix_refl _)
      rw [writes_concat_write, lineage, history_concat]
      cases hcopy : (history turns).copies i with
      | none => exact absurd read (((copied_history turns).unread i).mp hcopy)
      | some copy => simp [step, hcopy]

/-! ## Processes over the cell -/

section Simulates

open Interleave

variable {ℓ α : Type}

/-- The steps of a process read and write the part `view` of the shared state as `turn`
says. `Rel i p copy` relates a point `p` of the process to the copy it holds. -/
structure Simulates (act : σ → ℓ → σ) (turn : ι × ℓ → Option (Turn ι)) (view : σ → τ)
    (f : ι → τ → τ) (Rel : ι → Proc σ ℓ α → Option τ → Prop) : Prop where
  other : ∀ i l k copy s, Rel i (.step l k) copy → turn (i, l) = none →
    view (act s l) = view s ∧ Rel i (k s) copy
  read : ∀ i l k copy s j, Rel i (.step l k) copy → turn (i, l) = some (.read j) →
    j = i ∧ view (act s l) = view s ∧ Rel i (k s) (some (view s))
  write : ∀ i l k copy s j, Rel i (.step l k) copy → turn (i, l) = some (.write j) →
    j = i ∧ ∃ x, copy = some x ∧ view (act s l) = f i x ∧ Rel i (k s) copy

variable {act : σ → ℓ → σ} {turn : ι × ℓ → Option (Turn ι)} {view : σ → τ} {f : ι → τ → τ}
  {Rel : ι → Proc σ ℓ α → Option τ → Prop}

/-- The system is where the turns lead. -/
structure Tracks (view : σ → τ) (f : ι → τ → τ) (Rel : ι → Proc σ ℓ α → Option τ → Prop) (s : τ)
    (c : Sys ι σ ℓ α) (turns : List (Turn ι)) : Prop where
  value : view c.shared = (run f s turns).value
  procs : ∀ i, Rel i (c.procs i) ((run f s turns).copies i)
  begun : Begun turns

theorem Simulates.tracks_run (sim : Simulates act turn view f Rel) {c : Sys ι σ ℓ α}
    (init : ∀ i, Rel i (c.procs i) none) (sched : List ι) :
    Tracks view f Rel (view c.shared) (c.run act sched)
      ((c.trace act sched).filterMap turn) := by
  have start : Tracks view f Rel (view c.shared) c [] :=
    ⟨rfl, init, fun before i h => absurd (List.prefix_nil.mp h) (by simp)⟩
  suffices keeps : ∀ c' trace i l k, Tracks view f Rel (view c.shared) c' (trace.filterMap turn) →
      c'.procs i = .step l k →
      Tracks view f Rel (view c.shared) (c'.fire act i) ((trace ++ [(i, l)]).filterMap turn) from
    Sys.run_trace_invariant keeps start sched
  intro c' trace i l k tracks hproc
  have here := tracks.procs i
  rw [hproc] at here
  rw [Sys.fire_of_step act hproc, List.filterMap_append]
  cases hturn : turn (i, l) with
  | none =>
    obtain ⟨hview, hrel⟩ := sim.other i l k _ c'.shared here hturn
    have still : [(i, l)].filterMap turn = [] := by simp [hturn]
    rw [still, List.append_nil]
    refine ⟨hview.trans tracks.value, fun j => ?_, tracks.begun⟩
    rcases eq_or_ne j i with rfl | hne
    · simpa using hrel
    · simpa [hne] using tracks.procs j
  | some t =>
    have one : [(i, l)].filterMap turn = [t] := by simp [hturn]
    rw [one]
    cases t with
    | read j =>
      obtain ⟨rfl, hview, hrel⟩ := sim.read i l k _ c'.shared j here hturn
      refine ⟨?_, fun j' => ?_, tracks.begun.concat (by simp)⟩
      · rw [run_concat]
        exact hview.trans tracks.value
      · rw [run_concat]
        rcases eq_or_ne j' j with rfl | hne
        · simpa [step, ← tracks.value] using hrel
        · simpa [step, hne] using tracks.procs j'
    | write j =>
      obtain ⟨rfl, x, hcopy, hview, hrel⟩ := sim.write i l k _ c'.shared j here hturn
      refine ⟨?_, fun j' => ?_, tracks.begun.concat ?_⟩
      · rw [run_concat]
        simpa [step, hcopy] using hview
      · rw [run_concat]
        simp only [step, hcopy]
        rcases eq_or_ne j' j with rfl | hne
        · simpa [hcopy] using hrel
        · simpa [hne] using tracks.procs j'
      · rintro i' hi'
        obtain rfl := Turn.write.inj hi'
        exact read_of_copies hcopy

/-- What an interleaving leaves in the part of the state is what the lineage of its turns
makes of the start. -/
theorem Simulates.view_run (sim : Simulates act turn view f Rel) {c : Sys ι σ ℓ α}
    (init : ∀ i, Rel i (c.procs i) none) (sched : List ι) :
    view (c.run act sched).shared =
      (lineage ((c.trace act sched).filterMap turn)).foldl (fun s i => f i s)
        (view c.shared) :=
  (sim.tracks_run init sched).value.trans (value_eq_foldl_lineage f _ _)

end Simulates

/-! ## Processes that write once -/

section WritesOnce

open Interleave

variable {ℓ α : Type}

/-- A process is at a point of `Before` until it writes, and of `After` from then on. -/
structure WritesOnce (turn : ι × ℓ → Option (Turn ι)) (Before After : ι → Proc σ ℓ α → Prop) :
    Prop where
  own : ∀ i l j, turn (i, l) = some (.write j) → j = i
  before : ∀ i l k s, Before i (.step l k) → (∀ j, turn (i, l) ≠ some (.write j)) → Before i (k s)
  write : ∀ i l k s j, Before i (.step l k) → turn (i, l) = some (.write j) → After i (k s)
  after : ∀ i l k s, After i (.step l k) → (∀ j, turn (i, l) ≠ some (.write j)) ∧ After i (k s)

variable {act : σ → ℓ → σ} {turn : ι × ℓ → Option (Turn ι)} {Before After : ι → Proc σ ℓ α → Prop}

/-- Who has written and who has not. -/
structure Written (Before After : ι → Proc σ ℓ α → Prop) (c : Sys ι σ ℓ α) (written : List ι) :
    Prop where
  nodup : written.Nodup
  after : ∀ i ∈ written, After i (c.procs i)
  before : ∀ i, i ∉ written → Before i (c.procs i)

theorem WritesOnce.written_run (once : WritesOnce turn Before After) {c : Sys ι σ ℓ α}
    (init : ∀ i, Before i (c.procs i)) (sched : List ι) :
    Written Before After (c.run act sched)
      (writes ((c.trace act sched).filterMap turn)) := by
  have start : Written Before After c [] := ⟨List.nodup_nil, by simp, fun i _ => init i⟩
  suffices keeps : ∀ c' trace i l k, Written Before After c' (writes (trace.filterMap turn)) →
      c'.procs i = .step l k →
      Written Before After (c'.fire act i) (writes ((trace ++ [(i, l)]).filterMap turn)) from
    Sys.run_trace_invariant keeps start sched
  intro c' trace i l k h hproc
  have moved : (c'.fire act i).procs i = k c'.shared := by
    rw [Sys.fire_of_step act hproc]
    exact Function.update_self _ _ _
  have others : ∀ {j}, j ≠ i → (c'.fire act i).procs j = c'.procs j := Sys.fire_procs_of_ne
  by_cases hwrite : ∃ j, turn (i, l) = some (.write j)
  · obtain ⟨j, hj⟩ := hwrite
    obtain rfl := once.own i l j hj
    -- it has not written before
    have fresh : j ∉ writes (trace.filterMap turn) := by
      intro hmem
      have hafter := h.after j hmem
      rw [hproc] at hafter
      exact (once.after j l k c'.shared hafter).1 j hj
    have hbefore := h.before j fresh
    rw [hproc] at hbefore
    have hturns : (trace ++ [(j, l)]).filterMap turn = trace.filterMap turn ++ [.write j] := by
      simp [hj]
    rw [hturns, writes_concat_write]
    refine ⟨List.nodup_append.mpr ⟨h.nodup, List.nodup_singleton j, ?_⟩, fun i hi => ?_,
      fun i hi => ?_⟩
    · rintro x hx y hy rfl
      exact fresh (List.mem_singleton.mp hy ▸ hx)
    · rcases eq_or_ne i j with rfl | hne
      · rw [moved]
        exact once.write i l k c'.shared i hbefore hj
      · rw [others hne]
        exact h.after i (by simpa [hne] using hi)
    · have hne : i ≠ j := by
        rintro rfl
        simp at hi
      rw [others hne]
      exact h.before i fun hmem => hi (List.mem_append_left _ hmem)
  · have quiet : ∀ j, turn (i, l) ≠ some (.write j) := not_exists.mp hwrite
    have hturns : writes ((trace ++ [(i, l)]).filterMap turn) = writes (trace.filterMap turn) := by
      cases hturn : turn (i, l) with
      | none => simp [hturn]
      | some t =>
        cases t with
        | read j => simp [hturn]
        | write j => exact absurd hturn (quiet j)
    rw [hturns]
    refine ⟨h.nodup, fun j hj => ?_, fun j hj => ?_⟩
    · rcases eq_or_ne j i with rfl | hne
      · have hafter := h.after j hj
        rw [hproc] at hafter
        rw [moved]
        exact (once.after j l k c'.shared hafter).2
      · rw [others hne]
        exact h.after j hj
    · rcases eq_or_ne j i with rfl | hne
      · have hbefore := h.before j hj
        rw [hproc] at hbefore
        rw [moved]
        exact once.before j l k c'.shared hbefore quiet
      · rw [others hne]
        exact h.before j hj

end WritesOnce

end ReadModifyWrite
