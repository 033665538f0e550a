import AiotCloud.Lib.Interleave

/-!
# Rely and guarantee

A contract has an invariant of the shared state and a relation along which the state may move.
A process honors it if, relying on the others to do so, it does as well at each of its steps.
What it has read is used as what held then and what has moved since.

* `Honors.stable`: the others may go on before a process does.
* `honors_read_bind`, `honors_write_bind`, `Honors.bind`: the rules for the parts of a process.
* `Sys.honored_run`, `Sys.Honored.returned`: the processes keep the contract together, and what
  holds of a result holds for good.
* `Proc.lift`: a process over a part of the state.
-/

namespace Interleave

variable {ι σ τ ℓ ℓ' α β : Type}

structure Contract (σ : Type) where
  inv : σ → Prop
  moves : σ → σ → Prop
  refl : ∀ s, moves s s
  trans : ∀ {s s' s''}, moves s s' → moves s' s'' → moves s s''

namespace Contract

/-- The step may be taken in the state. -/
def Allows (R : Contract σ) (act : σ → ℓ → σ) (s : σ) (l : ℓ) : Prop :=
  R.inv (act s l) ∧ R.moves s (act s l)

/-- From the state on, the process takes only steps that are allowed, and its result meets
`post`. -/
def Honors (R : Contract σ) (act : σ → ℓ → σ) (post : σ → α → Prop) : Proc σ ℓ α → σ → Prop
  | .ret a, s => post s a
  | .step l k, s => ∀ s', R.moves s s' → R.inv s' →
      R.Allows act s' l ∧ Honors R act post (k s') (act s' l)

variable {R : Contract σ} {act : σ → ℓ → σ} {post : σ → α → Prop} {s s' : σ}

/-- What holds of a result goes on to hold. -/
def Stable (R : Contract σ) (post : σ → α → Prop) : Prop :=
  ∀ s s' a, R.moves s s' → post s a → post s' a

theorem Honors.stable (stable : R.Stable post) {p : Proc σ ℓ α} (honors : R.Honors act post p s)
    (moved : R.moves s s') : R.Honors act post p s' := by
  cases p with
  | ret a => exact stable s s' a moved honors
  | step l k => exact fun s'' moved' => honors s'' (R.trans moved moved')

theorem Honors.mono {post' : σ → α → Prop} (le : ∀ s a, post s a → post' s a) {p : Proc σ ℓ α}
    (honors : R.Honors act post p s) : R.Honors act post' p s := by
  induction p generalizing s with
  | ret a => exact le s a honors
  | step l k ih => exact fun s' moved inv =>
      ⟨(honors s' moved inv).1, ih s' (honors s' moved inv).2⟩

/-- A process whose first part ends so that the rest may go on. -/
theorem Honors.bind {mid : σ → β → Prop} {p : Proc σ ℓ β} {f : β → Proc σ ℓ α}
    (honors : R.Honors act mid p s) (next : ∀ s b, mid s b → R.Honors act post (f b) s) :
    R.Honors act post (p >>= f) s := by
  induction p generalizing s with
  | ret b => exact next s b honors
  | step l k ih => exact fun s' moved inv =>
      ⟨(honors s' moved inv).1, ih s' (honors s' moved inv).2⟩

/-- A step that writes nothing is allowed. -/
theorem allows_read {l : ℓ} (reads : ∀ s, act s l = s) (inv : R.inv s) : R.Allows act s l := by
  unfold Allows
  rw [reads s]
  exact ⟨inv, R.refl s⟩

theorem honors_read_bind {l : ℓ} (reads : ∀ s, act s l = s) {g : σ → β} {f : β → Proc σ ℓ α}
    (next : ∀ s', R.moves s s' → R.inv s' → R.Honors act post (f (g s')) s') :
    R.Honors act post (Proc.read l g >>= f) s := by
  intro s' moved inv
  refine ⟨allows_read reads inv, ?_⟩
  rw [reads s']
  exact next s' moved inv

theorem honors_write_bind {l : ℓ} {f : Unit → Proc σ ℓ α}
    (next : ∀ s', R.moves s s' → R.inv s' →
      R.Allows act s' l ∧ R.Honors act post (f ()) (act s' l)) :
    R.Honors act post (Proc.write l >>= f) s := next

end Contract

/-! ## A system -/

namespace Sys

variable [DecidableEq ι] {R : Contract σ} {act : σ → ℓ → σ} {post : ι → σ → α → Prop}
  {c : Sys ι σ ℓ α}

/-- The invariant holds, and every process honors the contract from here on. -/
structure Honored (R : Contract σ) (act : σ → ℓ → σ) (post : ι → σ → α → Prop)
    (c : Sys ι σ ℓ α) : Prop where
  inv : R.inv c.shared
  procs : ∀ i, R.Honors act (post i) (c.procs i) c.shared

theorem Honored.fire (stable : ∀ i, R.Stable (post i)) (honored : Honored R act post c) (i : ι) :
    Honored R act post (c.fire act i) := by
  cases hi : c.procs i with
  | ret a => rwa [fire_of_ret act hi]
  | step l k =>
    have now := honored.procs i
    rw [hi] at now
    obtain ⟨⟨inv, moved⟩, next⟩ := now c.shared (R.refl _) honored.inv
    rw [fire_of_step act hi]
    refine ⟨inv, fun j => ?_⟩
    rcases eq_or_ne j i with rfl | hj
    · simpa using next
    · simpa [hj] using (honored.procs j).stable (stable j) moved

theorem honored_run (stable : ∀ i, R.Stable (post i)) (honored : Honored R act post c)
    (sched : List ι) : Honored R act post (c.run act sched) :=
  run_invariant (fun _ i h => h.fire stable i) honored sched

omit [DecidableEq ι] in
/-- What a process has returned meets its condition now, however long ago it did. -/
theorem Honored.returned (honored : Honored R act post c) {i : ι} {a : α}
    (returned : c.Returned i a) : post i c.shared a := by
  have now := honored.procs i
  rwa [returned] at now

end Sys

/-! ## A part of the state -/

namespace Proc

variable (get : τ → σ) (inj : ℓ → ℓ')

/-- The process over a state of which its own is a part. -/
def lift : Proc σ ℓ α → Proc τ ℓ' α
  | .ret a => .ret a
  | .step l k => .step (inj l) fun t => (k (get t)).lift

@[simp] theorem lift_ret (a : α) : (ret a : Proc σ ℓ α).lift get inj = ret a := rfl

@[simp] theorem lift_bind (p : Proc σ ℓ α) (f : α → Proc σ ℓ β) :
    (p >>= f).lift get inj = p.lift get inj >>= fun a => (f a).lift get inj := by
  induction p with
  | ret a => rfl
  | step l k ih => exact congrArg (step (inj l)) (funext fun t => ih (get t))

@[simp] theorem lift_read (l : ℓ) (f : σ → α) :
    (read l f).lift get inj = read (inj l) (f <| get ·) := rfl

@[simp] theorem lift_write (l : ℓ) :
    (write l : Proc σ ℓ Unit).lift get inj = write (inj l) := rfl

end Proc

end Interleave
