import Mathlib.Data.List.Induction
import Mathlib.Logic.Function.Basic
import AiotCloud.Lib.Run

/-!
# Processes interleaved at their awaits

A process is a tree of atomic steps over a shared state: it runs alone between
two awaits and gives way at each one. A step has a label, and what it does to the
shared state (`act`) depends on the label only. A system runs any number of
processes under a schedule, the list of the processes whose turn it is; its trace
is the list of the steps taken.

* `Proc.exec`: the process alone, from start to end.
* `Sys.run`, `Sys.trace`: the system under a schedule.
* `Sys.shared_run`: the shared state is determined by the trace.
* `Sys.run_invariant`: the induction rule, in the shared state and the
  processes together.
* `Sys.run_trace_invariant`: the same with the trace so far.
* `lastOf`: the last step of a kind.
* `since`: the state at the first step of a kind, and the steps after it.
* `Sys.returned_of_step_iff`: a process returns what it returns after its next turn.
* `Proc.Only`, `Proc.Ends`: a process that takes no steps, and has no results, but some.
-/

namespace Interleave

/-- A process over the shared state `σ` with step labels `ℓ` and result `α`.
After `step label next` the process goes on as `next s`, where `s` is the state
before the step. -/
inductive Proc (σ ℓ α : Type) where
  | ret (a : α)
  | step (label : ℓ) (next : σ → Proc σ ℓ α)

namespace Proc

variable {σ ℓ α β : Type}

def bind : Proc σ ℓ α → (α → Proc σ ℓ β) → Proc σ ℓ β
  | ret a, f => f a
  | step l k, f => step l fun s => (k s).bind f

instance : Monad (Proc σ ℓ) where
  pure := ret
  bind := bind

/-- A step that returns a part of the shared state. -/
def read (label : ℓ) (f : σ → α) : Proc σ ℓ α := step label fun s => ret (f s)

/-- A step that returns nothing. -/
def write (label : ℓ) : Proc σ ℓ Unit := step label fun _ => ret ()

/-- The label of the next step. -/
def label : Proc σ ℓ α → Option ℓ
  | ret _ => none
  | step l _ => some l

/-- The process run from start to end with no other process in between. -/
def exec (act : σ → ℓ → σ) : Proc σ ℓ α → σ → σ × α
  | ret a, s => (s, a)
  | step l k, s => (k s).exec act (act s l)

/-- Every step the process can take is one of `ok`. -/
def Only (ok : ℓ → Prop) : Proc σ ℓ α → Prop
  | ret _ => True
  | step l k => ok l ∧ ∀ s, (k s).Only ok

/-- Every result of the process is one of `ok`. -/
def Ends (ok : α → Prop) : Proc σ ℓ α → Prop
  | ret a => ok a
  | step _ k => ∀ s, (k s).Ends ok

@[simp] theorem pure_eq (a : α) : (pure a : Proc σ ℓ α) = ret a := rfl

@[simp] theorem ret_bind (a : α) (f : α → Proc σ ℓ β) : (ret a >>= f) = f a := rfl

@[simp] theorem step_bind (l : ℓ) (k : σ → Proc σ ℓ α) (f : α → Proc σ ℓ β) :
    (step l k >>= f) = step l fun s => k s >>= f := rfl

@[simp] theorem read_bind (l : ℓ) (g : σ → α) (f : α → Proc σ ℓ β) :
    (read l g >>= f) = step l fun s => f (g s) := rfl

@[simp] theorem write_bind (l : ℓ) (f : Unit → Proc σ ℓ β) :
    (write l >>= f) = step l fun _ => f () := rfl

@[simp] theorem label_ret (a : α) : (ret a : Proc σ ℓ α).label = none := rfl

@[simp] theorem label_step (l : ℓ) (k : σ → Proc σ ℓ α) : (step l k).label = some l := rfl

@[simp] theorem exec_ret (act : σ → ℓ → σ) (a : α) (s : σ) : (ret a).exec act s = (s, a) := rfl

@[simp] theorem exec_step (act : σ → ℓ → σ) (l : ℓ) (k : σ → Proc σ ℓ α) (s : σ) :
    (step l k).exec act s = (k s).exec act (act s l) := rfl

/-- A process goes on from where its first part has ended. -/
theorem exec_bind (act : σ → ℓ → σ) (p : Proc σ ℓ α) (f : α → Proc σ ℓ β) (s : σ) :
    (p >>= f).exec act s = (f (p.exec act s).2).exec act (p.exec act s).1 := by
  induction p generalizing s with
  | ret a => rfl
  | step l k ih => exact ih s (act s l)

end Proc

/-- The shared state and the processes, each at its own point. -/
structure Sys (ι σ ℓ α : Type) where
  shared : σ
  procs : ι → Proc σ ℓ α

namespace Sys

variable {ι σ ℓ α : Type} [DecidableEq ι] {act : σ → ℓ → σ}

/-- Process `i` takes its next step; a finished process does nothing. -/
def fire (act : σ → ℓ → σ) (c : Sys ι σ ℓ α) (i : ι) : Sys ι σ ℓ α :=
  match c.procs i with
  | .ret _ => c
  | .step l k => ⟨act c.shared l, Function.update c.procs i (k c.shared)⟩

/-- The system under a schedule. -/
def run (act : σ → ℓ → σ) (c : Sys ι σ ℓ α) (sched : List ι) : Sys ι σ ℓ α :=
  Run.exec (fire act) c sched

/-- The steps taken under a schedule, and who took them. -/
def trace (act : σ → ℓ → σ) : Sys ι σ ℓ α → List ι → List (ι × ℓ)
  | _, [] => []
  | c, i :: sched => ((c.procs i).label.map (i, ·)).toList ++ trace act (c.fire act i) sched

/-- Process `i` has returned `a`. -/
def Returned (c : Sys ι σ ℓ α) (i : ι) (a : α) : Prop := c.procs i = .ret a

/-- Every process has returned. -/
def Finished (c : Sys ι σ ℓ α) : Prop := ∀ i, ∃ a, c.Returned i a

@[simp] theorem run_nil (c : Sys ι σ ℓ α) : c.run act [] = c := rfl

@[simp] theorem run_cons (c : Sys ι σ ℓ α) (i : ι) (sched : List ι) :
    c.run act (i :: sched) = (c.fire act i).run act sched := rfl

theorem run_append (c : Sys ι σ ℓ α) (sched sched' : List ι) :
    c.run act (sched ++ sched') = (c.run act sched).run act sched' := Run.exec_append

theorem fire_of_ret (act : σ → ℓ → σ) {c : Sys ι σ ℓ α} {i : ι} {a : α} (h : c.procs i = .ret a) :
    c.fire act i = c := by
  simp [fire, h]

theorem fire_of_step (act : σ → ℓ → σ) {c : Sys ι σ ℓ α} {i : ι} {l : ℓ} {k : σ → Proc σ ℓ α}
    (h : c.procs i = .step l k) :
    c.fire act i = ⟨act c.shared l, Function.update c.procs i (k c.shared)⟩ := by
  simp [fire, h]

/-- A step of one process leaves every other process where it is. -/
theorem fire_procs_of_ne {c : Sys ι σ ℓ α} {i j : ι} (h : j ≠ i) :
    (c.fire act i).procs j = c.procs j := by
  unfold fire
  split
  · rfl
  · exact Function.update_of_ne h _ _

/-- A step of one process leaves every other answer as it is. -/
theorem returned_fire_iff {c : Sys ι σ ℓ α} {i j : ι} {l : ℓ} {k : σ → Proc σ ℓ α} {a : α}
    (h : c.procs i = .step l k) :
    (c.fire act i).Returned j a ↔ (j = i ∧ k c.shared = .ret a) ∨ c.Returned j a := by
  rw [fire_of_step act h]
  rcases eq_or_ne j i with rfl | hj
  · simp [Returned, h]
  · simp [Returned, hj]

theorem trace_append (c : Sys ι σ ℓ α) (sched sched' : List ι) :
    c.trace act (sched ++ sched') = c.trace act sched ++ (c.run act sched).trace act sched' := by
  induction sched generalizing c with
  | nil => rfl
  | cons i sched ih => rw [List.cons_append, trace, ih, trace, run_cons, List.append_assoc]

/-- What is selected of the trace grows by at most one entry a turn, so each prefix of
it is what a prefix of the schedule selects. -/
theorem exists_prefix_filterMap {β : Type} (f : ι × ℓ → Option β) (c : Sys ι σ ℓ α) {sched : List ι}
    {xs : List β} (h : xs <+: (c.trace act sched).filterMap f) :
    ∃ pre, pre <+: sched ∧ (c.trace act pre).filterMap f = xs := by
  induction sched using List.reverseRecOn with
  | nil => exact ⟨[], List.prefix_refl _, (List.prefix_nil.mp h).symm⟩
  | append_singleton sched i ih =>
    have whole : xs = (c.trace act (sched ++ [i])).filterMap f →
        ∃ pre, pre <+: sched ++ [i] ∧ (c.trace act pre).filterMap f = xs :=
      fun heq => ⟨_, List.prefix_refl _, heq.symm⟩
    have earlier : xs <+: (c.trace act sched).filterMap f →
        ∃ pre, pre <+: sched ++ [i] ∧ (c.trace act pre).filterMap f = xs := by
      intro hxs
      obtain ⟨pre, hpre, heq⟩ := ih hxs
      exact ⟨pre, hpre.trans (List.prefix_append sched [i]), heq⟩
    have last : (c.trace act (sched ++ [i])).filterMap f = (c.trace act sched).filterMap f ∨
        ∃ x, (c.trace act (sched ++ [i])).filterMap f = (c.trace act sched).filterMap f ++ [x] := by
      rw [trace_append, List.filterMap_append]
      cases hlabel : ((c.run act sched).procs i).label with
      | none => exact Or.inl (by simp [trace, hlabel])
      | some l =>
        cases hf : f (i, l) with
        | none => exact Or.inl (by simp [trace, hlabel, hf])
        | some x => exact Or.inr ⟨x, by simp [trace, hlabel, hf]⟩
    rcases last with hsame | ⟨x, hmore⟩
    · exact earlier (hsame ▸ h)
    · rcases List.prefix_concat_iff.mp (hmore ▸ h) with hall | hpart
      · exact whole (hall.trans hmore.symm)
      · exact earlier hpart

/-- The shared state is what the steps of the trace make of it. -/
theorem shared_run (c : Sys ι σ ℓ α) (sched : List ι) :
    (c.run act sched).shared = Run.exec act c.shared ((c.trace act sched).map (·.2)) := by
  induction sched generalizing c with
  | nil => rfl
  | cons i sched ih =>
    rw [run_cons, ih, trace, List.map_append, Run.exec_append]
    cases h : c.procs i with
    | ret a => simp [fire_of_ret act h]
    | step l k => simp [fire_of_step act h]

/-- A process that returns has taken the step it stood at. -/
theorem mem_trace_of_returned {c : Sys ι σ ℓ α} {i : ι} {l : ℓ} {k : σ → Proc σ ℓ α}
    (h : c.procs i = .step l k) {sched : List ι} {a : α}
    (returned : (c.run act sched).Returned i a) : (i, l) ∈ c.trace act sched := by
  induction sched generalizing c with
  | nil => exact absurd (h.symm.trans returned) (by simp)
  | cons j sched ih =>
    rcases eq_or_ne i j with rfl | hij
    · exact List.mem_append_left _ (by simp [h])
    · refine List.mem_append_right _ (ih ?_ returned)
      rw [fire_procs_of_ne hij, h]

/-- When every process has returned, nothing moves. -/
theorem run_of_finished {c : Sys ι σ ℓ α} (finished : c.Finished) (sched : List ι) :
    c.run act sched = c := by
  induction sched with
  | nil => rfl
  | cons i sched ih =>
    obtain ⟨a, ha⟩ := finished i
    rw [run_cons, fire_of_ret act ha, ih]

/-- The induction rule of a run. -/
theorem run_invariant {inv : Sys ι σ ℓ α → Prop} (keeps : ∀ c i, inv c → inv (c.fire act i))
    {c : Sys ι σ ℓ α} (init : inv c) (sched : List ι) : inv (c.run act sched) :=
  Run.invariant keeps init sched

/-- The induction rule of a run together with its trace. -/
theorem run_trace_invariant {inv : Sys ι σ ℓ α → List (ι × ℓ) → Prop}
    (keeps : ∀ c trace i l k, inv c trace → c.procs i = .step l k →
      inv (c.fire act i) (trace ++ [(i, l)]))
    {c : Sys ι σ ℓ α} (init : inv c []) (sched : List ι) :
    inv (c.run act sched) (c.trace act sched) := by
  induction sched using List.reverseRecOn with
  | nil => exact init
  | append_singleton sched i ih =>
    rw [run_append, trace_append, run_cons, run_nil]
    cases h : (c.run act sched).procs i with
    | ret a => simpa [trace, h, fire_of_ret act h] using ih
    | step l k => simpa [trace, h] using keeps _ _ i l k ih h

/-! ### Turns of a process -/

/-- Without a turn, a process stands where it stood. -/
theorem procs_run_of_notMem {c : Sys ι σ ℓ α} {i : ι} {sched : List ι} (h : i ∉ sched) :
    (c.run act sched).procs i = c.procs i := by
  induction sched generalizing c with
  | nil => rfl
  | cons j sched ih =>
    rw [run_cons, ih (List.not_mem_of_not_mem_cons h)]
    exact fire_procs_of_ne (List.ne_of_not_mem_cons h)

/-- An answer stays. -/
theorem Returned.run {c : Sys ι σ ℓ α} {i : ι} {a : α} (h : c.Returned i a) (sched : List ι) :
    (c.run act sched).Returned i a := by
  have keeps : ∀ (c : Sys ι σ ℓ α) j, c.Returned i a → (c.fire act j).Returned i a := by
    intro c j returned
    rcases eq_or_ne i j with rfl | hij
    · rwa [fire_of_ret act returned]
    · exact (fire_procs_of_ne hij).trans returned
  exact run_invariant keeps h sched

theorem Returned.run_iff {c : Sys ι σ ℓ α} {i : ι} {a b : α} (h : c.Returned i b)
    (sched : List ι) : (c.run act sched).Returned i a ↔ b = a :=
  ⟨fun returned => Proc.ret.inj ((h.run sched).symm.trans returned), fun same => same ▸ h.run sched⟩

/-- Where the first turn of a process leads. -/
theorem procs_run_turn (act : σ → ℓ → σ) {c : Sys ι σ ℓ α} {i : ι} {l : ℓ}
    {k : σ → Proc σ ℓ α} (h : c.procs i = .step l k) {pre : List ι} (hpre : i ∉ pre) :
    (c.run act (pre ++ [i])).procs i = k (c.run act pre).shared := by
  have stands : (c.run act pre).procs i = .step l k := (procs_run_of_notMem hpre).trans h
  rw [run_append, run_cons, run_nil, fire_of_step act stands]
  exact Function.update_self i _ _

/-- A process that has a step to go returns what it returns after its next turn. -/
theorem returned_of_step_iff {c : Sys ι σ ℓ α} {i : ι} {l : ℓ} {k : σ → Proc σ ℓ α}
    (h : c.procs i = .step l k) {sched : List ι} {a : α} :
    (c.run act sched).Returned i a ↔ ∃ pre post, sched = pre ++ i :: post ∧ i ∉ pre ∧
      ((c.run act (pre ++ [i])).run act post).Returned i a := by
  have joined : ∀ pre post, (c.run act (pre ++ [i])).run act post =
      c.run act (pre ++ i :: post) := by
    intro pre post
    rw [← run_append, List.append_assoc, List.singleton_append]
  constructor
  · intro returned
    have hmem : i ∈ sched := by
      by_contra hnot
      exact absurd ((procs_run_of_notMem hnot).symm.trans returned) (by simp [h])
    obtain ⟨pre, post, rfl, hpre⟩ := List.eq_append_cons_of_mem hmem
    exact ⟨pre, post, rfl, hpre, (joined pre post).symm ▸ returned⟩
  · rintro ⟨pre, post, rfl, -, returned⟩
    exact joined pre post ▸ returned

/-- A process answers only with one of its results. -/
theorem ends_run {ok : α → Prop} {c : Sys ι σ ℓ α} {i : ι} (h : (c.procs i).Ends ok)
    {sched : List ι} {a : α} (returned : (c.run act sched).Returned i a) : ok a := by
  have keeps : ∀ (c : Sys ι σ ℓ α) j, (c.procs i).Ends ok → ((c.fire act j).procs i).Ends ok := by
    intro c j ends
    cases hj : c.procs j with
    | ret b => rwa [fire_of_ret act hj]
    | step l k =>
      rcases eq_or_ne i j with rfl | hij
      · rw [fire_of_step act hj]
        rw [hj] at ends
        simpa using ends c.shared
      · rwa [fire_procs_of_ne hij]
  have ends : ((c.run act sched).procs i).Ends ok := run_invariant keeps h sched
  rwa [returned] at ends

/-- Each step of a trace is the one its process stood at, where the turns before it led. -/
theorem exists_run_of_step {c : Sys ι σ ℓ α} {sched : List ι} {pre : List (ι × ℓ)} {i : ι} {l : ℓ}
    (h : pre ++ [(i, l)] <+: c.trace act sched) :
    ∃ sched' k, c.trace act sched' = pre ∧ (c.run act sched').procs i = .step l k := by
  induction sched using List.reverseRecOn with
  | nil => exact absurd (List.prefix_nil.mp h) (by simp)
  | append_singleton sched j ih =>
    rw [trace_append] at h
    cases hproc : (c.run act sched).procs j with
    | ret a =>
      have still : (c.run act sched).trace act [j] = [] := by simp [trace, hproc]
      rw [still, List.append_nil] at h
      exact ih h
    | step l' k =>
      have one : (c.run act sched).trace act [j] = [(j, l')] := by simp [trace, hproc]
      rw [one] at h
      rcases List.prefix_concat_iff.mp h with heq | hpre
      · obtain ⟨rfl, hlast⟩ := List.append_inj' heq rfl
        obtain ⟨rfl, rfl⟩ := Prod.mk.inj (List.singleton_inj.mp hlast)
        exact ⟨sched, k, rfl, hproc⟩
      · exact ih hpre

end Sys

/-! ## The last step of a kind -/

section LastOf

variable {ι ℓ β : Type} {f : ι × ℓ → Option β} {trace : List (ι × ℓ)} {x : ι × ℓ}

/-- The last of what `f` selects from the trace. -/
def lastOf (f : ι × ℓ → Option β) (trace : List (ι × ℓ)) : Option β :=
  (trace.filterMap f).getLast?

theorem lastOf_concat : lastOf f (trace ++ [x]) = (f x).or (lastOf f trace) := by
  cases h : f x with
  | none => simp [lastOf, h]
  | some b => simp [lastOf, h]

theorem lastOf_ne_none (f : ι × ℓ → Option β) {b : β} (hx : x ∈ trace) (h : f x = some b) :
    lastOf f trace ≠ none := by
  intro hnone
  have hmem : b ∈ trace.filterMap f := List.mem_filterMap.mpr ⟨x, hx, h⟩
  exact absurd (List.getLast?_eq_none_iff.mp hnone) (List.ne_nil_of_mem hmem)

end LastOf

/-! ## Since a step -/

section Since

variable {ι σ ℓ : Type} {act : σ → ℓ → σ} {p : ι × ℓ → Bool} {s s' : σ} {later : List (ι × ℓ)}

/-- The state at the first step that `p` selects, and the steps after it. -/
def since (act : σ → ℓ → σ) (p : ι × ℓ → Bool) : σ → List (ι × ℓ) → Option (σ × List (ι × ℓ))
  | _, [] => none
  | s, x :: trace => if p x then some (s, trace) else since act p (act s x.2) trace

theorem since_concat_of_some {trace : List (ι × ℓ)} (h : since act p s trace = some (s', later))
    (x : ι × ℓ) : since act p s (trace ++ [x]) = some (s', later ++ [x]) := by
  induction trace generalizing s with
  | nil => cases h
  | cons y trace ih =>
    rw [List.cons_append, since]
    unfold since at h
    split_ifs at h ⊢ with hy
    · obtain ⟨rfl, rfl⟩ := Prod.mk.inj (Option.some.inj h)
      rfl
    · exact ih h

theorem since_concat_of_none {trace : List (ι × ℓ)} (h : since act p s trace = none) (x : ι × ℓ) :
    since act p s (trace ++ [x]) =
      if p x then some (Run.exec act s (trace.map (·.2)), []) else none := by
  induction trace generalizing s with
  | nil => rfl
  | cons y trace ih =>
    rw [List.cons_append, since]
    unfold since at h
    split_ifs at h with hy
    rw [if_neg hy, ih h]
    rfl

/-- What was selected stays selected. -/
theorem since_append_of_some {trace : List (ι × ℓ)} (h : since act p s trace = some (s', later))
    (post : List (ι × ℓ)) : since act p s (trace ++ post) = some (s', later ++ post) := by
  induction post generalizing trace later with
  | nil => simpa using h
  | cons x post ih => simpa using ih (since_concat_of_some h x)

/-- The trace up to the selected step, that step, and the rest. -/
theorem split_of_since {trace : List (ι × ℓ)} (h : since act p s trace = some (s', later)) :
    ∃ pre x, trace = pre ++ x :: later ∧ p x = true ∧ s' = Run.exec act s (pre.map (·.2)) := by
  induction trace generalizing s with
  | nil => cases h
  | cons y trace ih =>
    unfold since at h
    split_ifs at h with hy
    · obtain ⟨rfl, rfl⟩ := Prod.mk.inj (Option.some.inj h)
      exact ⟨[], y, rfl, hy, rfl⟩
    · obtain ⟨pre, x, rfl, hx, hs⟩ := ih h
      exact ⟨y :: pre, x, rfl, hx, hs⟩

/-- The state goes on from the selected step. -/
theorem exec_of_since {trace : List (ι × ℓ)} (h : since act p s trace = some (s', later)) :
    ∃ x, p x = true ∧
      Run.exec act s (trace.map (·.2)) = Run.exec act s' (x.2 :: later.map (·.2)) := by
  obtain ⟨pre, x, rfl, hx, rfl⟩ := split_of_since h
  refine ⟨x, hx, ?_⟩
  rw [List.map_append, Run.exec_append, List.map_cons]

end Since

end Interleave
