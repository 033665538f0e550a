import AiotCloud.Lib.Interleave

/-!
# Noninterference

Some of the processes of a system belong to a party, which sees a part of the shared state. If
its processes go on in the same way wherever that part is the same, and no process of another
party changes it, then neither their results nor that part depend on what the others are.

* `Proc.Sees`: a process that goes on by the view alone.
* `Proc.Within`: the steps of a process under an invariant.
* `Proc.Stays`: both, with a rule for a step that returns a value.
* `Confined`: what the steps of the party and of the others may do.
* `Agree.run`: two systems that agree for the party agree after schedules with the same turns of
  the party.
-/

namespace Interleave

variable {ι σ τ ℓ α : Type}

/-- The process goes on in the same way from two states of the same view with `inv`. -/
def Proc.Sees (inv : σ → Prop) (view : σ → τ) : Proc σ ℓ α → Prop
  | .ret _ => True
  | .step _ k => (∀ s s', inv s → inv s' → view s = view s' → k s = k s') ∧
    ∀ s, inv s → (k s).Sees inv view

/-- From states with `inv`, every step the process takes is one of `ok`. -/
def Proc.Within (inv : σ → Prop) (ok : ℓ → Prop) : Proc σ ℓ α → Prop
  | .ret _ => True
  | .step l k => ok l ∧ ∀ s, inv s → (k s).Within inv ok

theorem Proc.Within.mono {inv : σ → Prop} {ok ok' : ℓ → Prop} (le : ∀ l, ok l → ok' l)
    {p : Proc σ ℓ α} (h : p.Within inv ok) : p.Within inv ok' := by
  induction p with
  | ret a => trivial
  | step l k ih => exact ⟨le l h.1, fun s hs => ih s (h.2 s hs)⟩

theorem Proc.Only.within {inv : σ → Prop} {ok : ℓ → Prop} {p : Proc σ ℓ α} (h : p.Only ok) :
    p.Within inv ok := by
  induction p with
  | ret a => trivial
  | step l k ih => exact ⟨h.1, fun s _ => ih s (h.2 s)⟩

/-- A process of a party that sees `view` and takes steps of `ok`. -/
structure Proc.Stays (inv : σ → Prop) (view : σ → τ) (ok : ℓ → Prop) (p : Proc σ ℓ α) : Prop where
  sees : p.Sees inv view
  within : p.Within inv ok

namespace Proc.Stays

variable {inv : σ → Prop} {view : σ → τ} {ok : ℓ → Prop}

theorem ret (a : α) : (Proc.ret a : Proc σ ℓ α).Stays inv view ok := ⟨trivial, trivial⟩

/-- What the step returns is up to the view. -/
theorem read {β : Type} {l : ℓ} {f : σ → β} {g : β → Proc σ ℓ α} (hl : ok l)
    (same : ∀ s s', inv s → inv s' → view s = view s' → f s = f s')
    (next : ∀ s, inv s → (g (f s)).Stays inv view ok) :
    (Proc.read l f >>= g).Stays inv view ok :=
  ⟨⟨fun s s' h h' hview => congrArg g (same s s' h h' hview), fun s h => (next s h).sees⟩,
    hl, fun s h => (next s h).within⟩

/-- A process that ends with the step. -/
theorem last {l : ℓ} {f : σ → α} (hl : ok l)
    (same : ∀ s s', inv s → inv s' → view s = view s' → f s = f s') :
    (Proc.read l f).Stays inv view ok :=
  read hl same fun s _ => ret (f s)

end Proc.Stays

/-- The steps `own` of a party keep two states of the same view alike, and the steps `other` do
not change the view, in states with `inv`. -/
structure Confined (act : σ → ℓ → σ) (view : σ → τ) (inv : σ → Prop) (own other : ℓ → Prop) :
    Prop where
  keeps : ∀ s l, own l ∨ other l → inv s → inv (act s l)
  own : ∀ s s' l, own l → inv s → inv s' → view s = view s' → view (act s l) = view (act s' l)
  other : ∀ s l, other l → inv s → view (act s l) = view s

namespace Sys

variable {view : σ → τ} {inv : σ → Prop} {own other : ℓ → Prop} {mine : ι → Prop}
  {act : σ → ℓ → σ} {b c d : Sys ι σ ℓ α}

/-- The processes are those of the party and of others. -/
structure Parties (view : σ → τ) (inv : σ → Prop) (own other : ℓ → Prop) (mine : ι → Prop)
    (c : Sys ι σ ℓ α) : Prop where
  shared : inv c.shared
  sees : ∀ i, mine i → (c.procs i).Sees inv view
  own : ∀ i, mine i → (c.procs i).Within inv own
  other : ∀ i, ¬ mine i → (c.procs i).Within inv other

/-- The two systems are the same for the party. -/
structure Agree (view : σ → τ) (mine : ι → Prop) (c d : Sys ι σ ℓ α) : Prop where
  view : view c.shared = view d.shared
  procs : ∀ i, mine i → c.procs i = d.procs i

theorem Agree.symm (h : Agree view mine c d) : Agree view mine d c :=
  ⟨h.view.symm, fun i hi => (h.procs i hi).symm⟩

theorem Agree.trans (h : Agree view mine b c) (h' : Agree view mine c d) :
    Agree view mine b d :=
  ⟨h.view.trans h'.view, fun i hi => (h.procs i hi).trans (h'.procs i hi)⟩

/-- The answers of the party are the same. -/
theorem Agree.returned_iff (h : Agree view mine c d) {i : ι} (hi : mine i) (a : α) :
    c.Returned i a ↔ d.Returned i a := by
  unfold Returned
  rw [h.procs i hi]

variable [DecidableEq ι]

/-- What every process keeps with what it reads holds after a turn of any of them. -/
theorem forall_procs_fire (P : ι → Proc σ ℓ α → Prop)
    (next : ∀ i l k, P i (.step l k) → P i (k c.shared)) (h : ∀ i, P i (c.procs i)) (i j : ι) :
    P j ((c.fire act i).procs j) := by
  rcases eq_or_ne j i with rfl | hne
  · cases hj : c.procs j with
    | ret a =>
      rw [fire_of_ret act hj]
      exact h j
    | step l k =>
      have now := h j
      rw [hj] at now
      rw [fire_of_step act hj]
      show P j (Function.update c.procs j (k c.shared) j)
      rw [Function.update_self]
      exact next j l k now
  · rw [fire_procs_of_ne hne]
    exact h j

theorem Parties.fire (parties : Parties view inv own other mine c)
    (confined : Confined act view inv own other) (i : ι) :
    Parties view inv own other mine (c.fire act i) where
  shared := by
    cases hi : c.procs i with
    | ret a =>
      rw [fire_of_ret act hi]
      exact parties.shared
    | step l k =>
      rw [fire_of_step act hi]
      refine confined.keeps _ l ?_ parties.shared
      by_cases h : mine i
      · exact Or.inl (hi ▸ parties.own i h : (Proc.step l k).Within inv own).1
      · exact Or.inr (hi ▸ parties.other i h : (Proc.step l k).Within inv other).1
  sees := forall_procs_fire (fun i p => mine i → p.Sees inv view)
    (fun _ _ _ h hi => (h hi).2 _ parties.shared) parties.sees i
  own := forall_procs_fire (fun i p => mine i → p.Within inv own)
    (fun _ _ _ h hi => (h hi).2 _ parties.shared) parties.own i
  other := forall_procs_fire (fun i p => ¬ mine i → p.Within inv other)
    (fun _ _ _ h hi => (h hi).2 _ parties.shared) parties.other i

theorem Parties.run (parties : Parties view inv own other mine c)
    (confined : Confined act view inv own other) (sched : List ι) :
    Parties view inv own other mine (c.run act sched) :=
  run_invariant (fun _ i h => h.fire confined i) parties sched

/-- A turn of another party. -/
theorem Agree.fire_other (parties : Parties view inv own other mine c)
    (confined : Confined act view inv own other) {i : ι} (hi : ¬ mine i) :
    Agree view mine (c.fire act i) c := by
  refine ⟨?_, fun j hj => fire_procs_of_ne fun same => hi (same ▸ hj)⟩
  cases h : c.procs i with
  | ret a => rw [fire_of_ret act h]
  | step l k =>
    have only := parties.other i hi
    rw [h] at only
    rw [fire_of_step act h]
    exact confined.other c.shared l only.1 parties.shared

/-- A turn of the party in both systems. -/
theorem Agree.fire_own (agree : Agree view mine c d)
    (hc : Parties view inv own other mine c) (hd : Parties view inv own other mine d)
    (confined : Confined act view inv own other) {i : ι} (hi : mine i) :
    Agree view mine (c.fire act i) (d.fire act i) := by
  have same := agree.procs i hi
  cases h : c.procs i with
  | ret a =>
    rw [fire_of_ret act h, fire_of_ret act (same.symm.trans h)]
    exact agree
  | step l k =>
    have only := hc.own i hi
    have sees := hc.sees i hi
    rw [h] at only sees
    rw [fire_of_step act h, fire_of_step act (same.symm.trans h)]
    refine ⟨confined.own _ _ l only.1 hc.shared hd.shared agree.view, fun j hj => ?_⟩
    rcases eq_or_ne j i with rfl | hne
    · simp only [Function.update_self]
      exact sees.1 _ _ hc.shared hd.shared agree.view
    · simp only [Function.update_of_ne hne]
      exact agree.procs j hj

/-- The turns of the others can be left out. -/
theorem Agree.run_filter [DecidablePred mine] (agree : Agree view mine c d)
    (hc : Parties view inv own other mine c) (hd : Parties view inv own other mine d)
    (confined : Confined act view inv own other) (sched : List ι) :
    Agree view mine (c.run act sched) (d.run act (sched.filter mine)) := by
  induction sched generalizing c d with
  | nil => exact agree
  | cons i sched ih =>
    by_cases hi : mine i
    · rw [List.filter_cons_of_pos (by simpa using hi)]
      exact ih (agree.fire_own hc hd confined hi) (hc.fire confined i) (hd.fire confined i)
    · rw [List.filter_cons_of_neg (by simpa using hi)]
      exact ih ((Agree.fire_other hc confined hi).trans agree) (hc.fire confined i) hd

/-- Two systems that agree for a party agree after schedules with the same turns of it. -/
theorem Agree.run [DecidablePred mine] (agree : Agree view mine c d)
    (hc : Parties view inv own other mine c) (hd : Parties view inv own other mine d)
    (confined : Confined act view inv own other) {sched sched' : List ι}
    (turns : sched.filter mine = sched'.filter mine) :
    Agree view mine (c.run act sched) (d.run act sched') := by
  have left := agree.run_filter hc hd confined sched
  have right := agree.symm.run_filter hd hc confined sched'
  have both : Agree view mine d d := agree.symm.trans agree
  have between := both.run_filter hd hd confined sched'
  rw [turns] at left
  exact left.trans between.symm

end Sys

end Interleave
