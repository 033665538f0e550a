import Mathlib.Logic.Function.Basic
import AiotCloud.Lib.Run
import AiotCloud.TemplateKeys

/-!
# The rows of one warning-gates panel

Every row saves on its own: it sends its threshold over the overrides fetched last, and
the server stores the map it is sent. A row is disabled while its own save is under way;
the other rows are not. Refetches are answered and delivered at any time.

`gate_saves_iff`: after every step the stored override of each field is the one saved last,
exactly when no save is stored that carries another field at a value it no longer has.
-/

namespace AiotCloud

/-- Where the save of a row stands. The row is disabled until the reply. -/
inductive RowState where
  | idle
  | sent (nextThreshold : JsonText) (map : KeyMap)
  | stored

structure PanelState where
  /-- `devices.warning_overrides`. -/
  stored : Option KeyMap
  /-- The `warningOverrides` the panel renders from. -/
  fetched : Option KeyMap
  rows : String → RowState
  /-- The answers of refetches on their way. -/
  served : List (Option KeyMap)
  /-- The saves the server has stored, in order. -/
  saved : List (String × JsonText)

/-- A panel that renders from what is stored. -/
def PanelState.opened (stored : Option KeyMap) : PanelState :=
  ⟨stored, stored, fun _ => .idle, [], []⟩

inductive PanelEvent where
  | save (key : String) (nextThreshold : JsonText)
  | store (key : String)
  | reply (key : String)
  | serve
  | deliver (i : Nat)

namespace PanelState

def step (s : PanelState) : PanelEvent → PanelState
  | .save key nextThreshold =>
    match s.rows key with
    | .idle =>
      let map := handleSave key nextThreshold (s.fetched.map .obj)
      { s with rows := Function.update s.rows key (.sent nextThreshold map) }
    | _ => s
  | .store key =>
    match s.rows key with
    | .sent nextThreshold map =>
      { s with
        stored := storeOverrides (some (some map)) s.stored
        rows := Function.update s.rows key .stored
        saved := s.saved ++ [(key, nextThreshold)] }
    | _ => s
  | .reply key =>
    match s.rows key with
    | .stored => { s with rows := Function.update s.rows key .idle }
    | _ => s
  | .serve => { s with served := s.served ++ [s.stored] }
  | .deliver i =>
    match s.served[i]? with
    | some map => { s with fetched := map, served := s.served.eraseIdx i }
    | none => s

/-- The stored override of a field. -/
def override (s : PanelState) (field : String) : Option JsonText := (s.stored.getD []).lookup field

end PanelState

/-- The threshold of the last save of a field. -/
def lastSaved (saved : List (String × JsonText)) (field : String) : Option JsonText :=
  (saved.filter fun p => p.1 = field).getLast?.map (·.2)

theorem lastSaved_concat (saved : List (String × JsonText)) (key field : String)
    (nextThreshold : JsonText) :
    lastSaved (saved ++ [(key, nextThreshold)]) field =
      if field = key then some nextThreshold else lastSaved saved field := by
  unfold lastSaved
  rcases eq_or_ne field key with rfl | hne
  · simp
  · simp [hne, hne.symm]

/-- Every field that was saved has the threshold of its last save, every other one the
override it had at the start. -/
def SavesStand (original : Option KeyMap) (s : PanelState) : Prop :=
  ∀ field, s.override field = (lastSaved s.saved field).or ((original.getD []).lookup field)

/-- The save stored by the step carries every other field as it is stored by then. -/
def CarriesStored (s : PanelState) : PanelEvent → Prop
  | .store key => ∀ nextThreshold map, s.rows key = .sent nextThreshold map →
      ∀ field, field ≠ key → map.lookup field = s.override field
  | _ => True

/-- Every request carries its own row's threshold. -/
def RequestsOwn (s : PanelState) : Prop :=
  ∀ key nextThreshold map, s.rows key = .sent nextThreshold map →
    map.lookup key = some nextThreshold

structure Standing (original : Option KeyMap) (s : PanelState) : Prop where
  own : RequestsOwn s
  stand : SavesStand original s

namespace PanelState

variable {s : PanelState} {original : Option KeyMap}

theorem requestsOwn_step (h : RequestsOwn s) (e : PanelEvent) : RequestsOwn (s.step e) := by
  have update : ∀ key row, (∀ nextThreshold map, row = .sent nextThreshold map →
      map.lookup key = some nextThreshold) → ∀ key' nextThreshold map,
      Function.update s.rows key row key' = .sent nextThreshold map →
        map.lookup key' = some nextThreshold := by
    intro key row hrow key' nextThreshold map hsent
    rcases eq_or_ne key' key with rfl | hne
    · rw [Function.update_self] at hsent
      exact hrow nextThreshold map hsent
    · rw [Function.update_of_ne hne] at hsent
      exact h key' nextThreshold map hsent
  cases e with
  | save key nextThreshold =>
    unfold step
    dsimp only
    split
    · refine update key _ ?_
      rintro nextThreshold' map ⟨⟩
      rw [handleSave, Fields.lookup_assign, if_pos rfl]
    · exact h
  | store key =>
    unfold step
    dsimp only
    split
    · exact update key .stored (by rintro _ _ ⟨⟩)
    · exact h
  | reply key =>
    unfold step
    dsimp only
    split
    · exact update key .idle (by rintro _ _ ⟨⟩)
    · exact h
  | serve => exact h
  | deliver i =>
    unfold step
    dsimp only
    split <;> exact h

/-- A step that stores nothing leaves what is stored and what was saved. -/
theorem step_cases (s : PanelState) (e : PanelEvent) :
    ((s.step e).stored = s.stored ∧ (s.step e).saved = s.saved ∧ CarriesStored s e) ∨
      ∃ key nextThreshold map, e = .store key ∧ s.rows key = .sent nextThreshold map ∧
        (s.step e).stored = some map ∧ (s.step e).saved = s.saved ++ [(key, nextThreshold)] := by
  cases e with
  | store key =>
    cases hrow : s.rows key with
    | sent nextThreshold map =>
      exact Or.inr ⟨key, nextThreshold, map, rfl, hrow, by simp [step, hrow, storeOverrides],
        by simp [step, hrow]⟩
    | idle =>
      exact Or.inl ⟨by simp [step, hrow], by simp [step, hrow], by simp [CarriesStored, hrow]⟩
    | stored =>
      exact Or.inl ⟨by simp [step, hrow], by simp [step, hrow], by simp [CarriesStored, hrow]⟩
  | save key nextThreshold =>
    exact Or.inl ⟨by unfold step; dsimp only; split <;> rfl,
      by unfold step; dsimp only; split <;> rfl, trivial⟩
  | reply key =>
    exact Or.inl ⟨by unfold step; dsimp only; split <;> rfl,
      by unfold step; dsimp only; split <;> rfl, trivial⟩
  | serve => exact Or.inl ⟨rfl, rfl, trivial⟩
  | deliver i =>
    exact Or.inl ⟨by unfold step; dsimp only; split <;> rfl,
      by unfold step; dsimp only; split <;> rfl, trivial⟩

/-- From a state where the saves stand, a step leaves them standing exactly if the save it
stores carries the other fields as they are stored. -/
theorem savesStand_step_iff (inv : Standing original s) (e : PanelEvent) :
    SavesStand original (s.step e) ↔ CarriesStored s e := by
  obtain ⟨own, stand⟩ := inv
  obtain ⟨stored, saved, carries⟩ | ⟨key, nextThreshold, map, rfl, hrow, stored, saved⟩ :=
    step_cases s e
  · refine iff_of_true (fun field => ?_) carries
    unfold override
    rw [stored, saved]
    exact stand field
  · constructor
    · intro stands nextThreshold' map' hrow' field hne
      obtain ⟨rfl, rfl⟩ : nextThreshold = nextThreshold' ∧ map = map' := by
        simpa using hrow.symm.trans hrow'
      have now := stands field
      unfold override at now
      rw [stored, saved, lastSaved_concat, if_neg hne] at now
      exact now.trans (stand field).symm
    · intro carries field
      unfold override
      rw [stored, saved, lastSaved_concat]
      rcases eq_or_ne field key with rfl | hne
      · rw [if_pos rfl]
        exact own field nextThreshold map hrow
      · rw [if_neg hne]
        exact (carries nextThreshold map hrow field hne).trans (stand field)

end PanelState

/-- In every state of the run the stored override of a saved field is the one of its last
save, and of every other field the original, exactly when each save carries all other fields
as they are stored at the moment it is stored. -/
theorem gate_saves_iff (original : Option KeyMap) (es : List PanelEvent) :
    (∀ pre, pre <+: es → SavesStand original (Run.exec PanelState.step (.opened original) pre)) ↔
      Run.Meets PanelState.step CarriesStored (.opened original) es := by
  have start : Standing original (.opened original) := by
    refine ⟨?_, fun field => rfl⟩
    rintro key nextThreshold map ⟨⟩
  have keeps : ∀ s e, Standing original s → CarriesStored s e → Standing original (s.step e) :=
    fun s e inv carries => ⟨PanelState.requestsOwn_step inv.own e,
      (PanelState.savesStand_step_iff inv e).mpr carries⟩
  exact Run.always_iff_meets (fun s inv => inv.stand) keeps
    (fun s e inv => (PanelState.savesStand_step_iff inv e).mp) start es

/-- Two rows saved one after the other with no refetch in between. -/
def twoRows : List PanelEvent :=
  [.save "temperature" (.obj [("enabled", .bool true)]), .store "temperature",
    .reply "temperature", .save "humidity" (.obj [("enabled", .bool false)]), .store "humidity",
    .reply "humidity"]

/-- The second save writes the map without the first. -/
theorem gate_saves_undone :
    ¬ SavesStand none (Run.exec PanelState.step (.opened none) twoRows) := by
  intro stand
  have lost := congrArg Option.isSome (stand "temperature")
  exact absurd lost (by decide)

end AiotCloud
