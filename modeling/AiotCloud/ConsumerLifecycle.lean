import AiotCloud.Lib.Keyed
import AiotCloud.Lib.Run

/-!
# The Kafka consumer's lifecycle

`onModuleInit`, `onModuleDestroy` and `connectAndSubscribe` of `KafkaConsumerService`. An
attempt awaits the calls of its consumer one after the other, and what it calls next goes to
the consumer that `this.consumer` then is. The answers of these calls, the timers, a crash and
the shutdown come in any order.

1. `Inv.step`: which events keep at most one connection or timer.
2. `consumer_lifecycle_iff`: along a run, however the calls in flight are answered.
-/

namespace AiotCloud

namespace KafkaConsumer

/-! ## Attempts -/

/-- Of a consumer: `connected` from the success of `connect` or `run`, until it disconnects or
crashes. -/
inductive Connection where
  | connecting
  | connected
  | stopped
deriving DecidableEq, Repr

/-- A `connect` in flight is not called off. -/
def Connection.disconnect : Connection → Connection
  | .connecting => .connecting
  | _ => .stopped

/-- What an attempt awaits, and from which consumer. -/
inductive Phase where
  | connecting
  | subscribing
  | starting (consumer : Option Nat)
  | disconnecting (consumer : Option Nat)
  | done
deriving DecidableEq, Repr

/-- A call of `connectAndSubscribe` and the consumer that it creates. -/
structure Attempt where
  id : Nat
  attempt : Nat
  phase : Phase := .connecting
  connection : Connection := .connecting
deriving DecidableEq, Repr

structure Timer where
  id : Nat
  attempt : Nat
  delayMs : Nat
deriving DecidableEq, Repr

inductive Shutdown where
  | notCalled
  | disconnecting (consumer : Option Nat)
  | completed
deriving DecidableEq, Repr

/-- The fields of the service, with the timers that are pending and the attempts, newest first. -/
structure Service where
  consumer : Option Nat := none
  retryTimer : Option Nat := none
  destroyed : Bool := false
  attempts : List Attempt := []
  timers : List Timer := []
  timersSet : Nat := 0
  shutdown : Shutdown := .notCalled
deriving DecidableEq, Repr

inductive Event where
  | answered (attempt : Nat) (success : Bool)
  | disconnected (attempt : Nat)
  | fires (timer : Nat)
  | crash (consumer : Nat)
  | onModuleDestroy
  | shutdownDisconnected
deriving DecidableEq, Repr

def retryDelaysMs : List Nat := [5000, 15000, 30000, 60000]

def retryDelayMs (attempt : Nat) : Nat :=
  retryDelaysMs.getD (min attempt (retryDelaysMs.length - 1)) 0

namespace Service

def find (s : Service) (id : Nat) : Option Attempt := Keyed.find Attempt.id id s.attempts

def modify (s : Service) (id : Option Nat) (f : Attempt → Attempt) : Service :=
  match id with
  | none => s
  | some id => { s with attempts := Keyed.modify Attempt.id id f s.attempts }

def disconnect (s : Service) (consumer : Option Nat) : Service :=
  s.modify consumer fun a => { a with connection := a.connection.disconnect }

def enter (s : Service) (id : Nat) (phase : Phase) : Service :=
  s.modify (some id) fun a => { a with phase := phase }

def setTimeout (s : Service) (attempt delayMs : Nat) : Service :=
  { s with
    timers := s.timers ++ [⟨s.timersSet, attempt, delayMs⟩]
    retryTimer := some s.timersSet
    timersSet := s.timersSet + 1 }

/-- `clearTimeout(this.retryTimer)`. -/
def clearTimeout (s : Service) : Service :=
  { s with timers := s.timers.filter fun timer => some timer.id ≠ s.retryTimer }

/-- Up to its first `await`. -/
def connectAndSubscribe (s : Service) (attempt : Nat) : Service :=
  { s with
    consumer := some s.attempts.length
    attempts := ⟨s.attempts.length, attempt, .connecting, .connecting⟩ :: s.attempts }

/-- After the answer of `connect`, `subscribe` or `run`, up to the next `await`. Only the end of
the `catch` block reads `this.destroyed`. -/
def answered (s : Service) (a : Attempt) (success : Bool) : Service :=
  match a.phase, success with
  | .connecting, true =>
    s.modify (some a.id) fun a => { a with connection := .connected, phase := .subscribing }
  | .connecting, false =>
    s.modify (some a.id) fun a =>
      { a with connection := .stopped, phase := .disconnecting s.consumer }
  | .subscribing, true => s.enter a.id (.starting s.consumer)
  | .starting consumer, true =>
    (s.modify consumer fun a => { a with connection := .connected }).enter a.id .done
  | .subscribing, false | .starting _, false => s.enter a.id (.disconnecting s.consumer)
  | .disconnecting _, _ | .done, _ => s

/-- The end of the `catch` block. -/
def disconnected (s : Service) (a : Attempt) : Service :=
  match a.phase with
  | .disconnecting consumer =>
    let s := (s.disconnect consumer).enter a.id .done
    -- unlike in the crash handler, a timer that is pending stays
    if s.destroyed then s else s.setTimeout (a.attempt + 1) (retryDelayMs a.attempt)
  | _ => s

/-- The handler of a crash that the client does not recover from. The client has disconnected
by then. -/
def crashed (s : Service) (a : Attempt) : Service :=
  if a.connection = .connected then
    let s := s.modify (some a.id) fun a => { a with connection := .stopped }
    if s.destroyed then s else s.clearTimeout.setTimeout 0 (retryDelayMs 0)
  else s

def fired (s : Service) (timer : Timer) : Service :=
  { s with timers := s.timers.filter (·.id ≠ timer.id) }.connectAndSubscribe timer.attempt

def step (s : Service) : Event → Service
  | .answered id success => (s.find id).elim s fun a => s.answered a success
  | .disconnected id => (s.find id).elim s s.disconnected
  | .fires id => (s.timers.find? (·.id = id)).elim s s.fired
  | .crash id => (s.find id).elim s s.crashed
  | .onModuleDestroy =>
    if s.shutdown = .notCalled then
      { s.clearTimeout with destroyed := true, shutdown := .disconnecting s.consumer }
    else s
  | .shutdownDisconnected =>
    match s.shutdown with
    | .disconnecting consumer => { s.disconnect consumer with shutdown := .completed }
    | _ => s

/-- Up to its first `await`. -/
def onModuleInit (kafkaEnabled : Bool) : Service :=
  if kafkaEnabled then ({} : Service).connectAndSubscribe 0 else {}

section Modify

variable {s : Service} {id : Option Nat} {f : Attempt → Attempt}

@[simp] theorem modify_timers : (s.modify id f).timers = s.timers := by cases id <;> rfl

@[simp] theorem modify_destroyed : (s.modify id f).destroyed = s.destroyed := by cases id <;> rfl

@[simp] theorem modify_shutdown : (s.modify id f).shutdown = s.shutdown := by cases id <;> rfl

@[simp] theorem modify_consumer : (s.modify id f).consumer = s.consumer := by cases id <;> rfl

theorem find_modify {id : Nat} {a : Attempt} (found : s.find id = some a)
    (same : ∀ a : Attempt, (f a).id = a.id) : (s.modify (some id) f).find id = some (f a) := by
  show Keyed.find Attempt.id id (Keyed.modify Attempt.id id f s.attempts) = _
  rw [Keyed.find_modify fun a _ => same a, if_pos rfl]
  exact congrArg _ found

end Modify

/-! ## Safety -/

/-- At most one connection or timer, and after the shutdown neither a timer nor a connection. -/
structure Safe (s : Service) : Prop where
  one : (s.attempts.filter (·.connection ≠ .stopped)).length + s.timers.length ≤ 1
  after : s.shutdown = .completed →
    s.timers = [] ∧ ∀ a ∈ s.attempts, a.connection ≠ .connected

end Service

/-- The end of a call in flight. -/
def Event.Answers : Event → Prop
  | .answered .. | .disconnected .. | .shutdownDisconnected => True
  | _ => False

/-- A consumer crashes only after its attempt is over, or after the shutdown was called; and the
shutdown is called while no attempt awaits `connect`, `subscribe` or `run`. -/
def Undisturbed (s : Service) : Event → Prop
  | .crash id => ∀ a ∈ s.attempts, a.id = id → a.connection = .connected →
      a.phase = .done ∨ s.destroyed = true
  | .onModuleDestroy => s.shutdown = .notCalled →
      ∀ a ∈ s.attempts, a.phase = .done ∨ ∃ consumer, a.phase = .disconnecting consumer
  | _ => True

/-! ## Invariant -/

/-- What the newest attempt awaits is an answer of its own consumer, and it waits for `connect`,
`subscribe` or `run` only before the shutdown is called. -/
def FitsPhase (s : Service) (last : Attempt) : Prop :=
  match last.phase with
  | .connecting => last.connection = .connecting ∧ s.destroyed = false
  | .subscribing => last.connection = .connected ∧ s.destroyed = false
  | .starting consumer =>
    consumer = some last.id ∧ last.connection = .connected ∧ s.destroyed = false
  | .disconnecting consumer => consumer = some last.id ∧ last.connection ≠ .connecting
  | .done => last.connection ≠ .connecting

def FitsShutdown (s : Service) (last : Attempt) : Prop :=
  match s.shutdown with
  | .notCalled => s.destroyed = false
  | .disconnecting consumer => consumer = some last.id ∧ s.destroyed = true
  | .completed => last.connection = .stopped ∧ s.destroyed = true

/-- All attempts but the newest are over, and their consumers stopped. A timer is pending only
if the newest is so too, and it is the one that `this.retryTimer` holds. -/
structure Newest (s : Service) (last : Attempt) (older : List Attempt) : Prop where
  attempts : s.attempts = last :: older
  id : last.id = older.length
  consumer : s.consumer = some last.id
  older : ∀ a ∈ older, a.phase = .done ∧ a.connection = .stopped ∧ a.id < older.length
  timer : s.timers = [] ∨ ∃ timer, s.timers = [timer] ∧ s.retryTimer = some timer.id ∧
    last.phase = .done ∧ last.connection = .stopped ∧ s.destroyed = false
  phase : FitsPhase s last
  shutdown : FitsShutdown s last

/-- Kafka is disabled, or the newest attempt is as above. -/
def Inv (s : Service) : Prop :=
  s.attempts = [] ∧ s.timers = [] ∨ ∃ last older, Newest s last older

namespace Newest

variable {s : Service} {last : Attempt} {older : List Attempt}

theorem modify_cons (h : Newest s last older) {a : Attempt} (id : a.id = last.id)
    (f : Attempt → Attempt) : Keyed.modify Attempt.id last.id f (a :: older) = f a :: older := by
  have rest : Keyed.modify Attempt.id last.id f older = older := by
    refine (List.map_congr_left fun a ha => ?_).trans (List.map_id _)
    have := (h.older a ha).2.2
    rw [← h.id] at this
    exact if_neg (Nat.ne_of_lt this)
  show (if a.id = last.id then f a else a) :: Keyed.modify _ _ _ older = _
  rw [rest, if_pos id]

theorem modify (h : Newest s last older) (f : Attempt → Attempt) :
    s.modify (some last.id) f = { s with attempts := f last :: older } := by
  show { s with attempts := Keyed.modify Attempt.id last.id f s.attempts } = _
  rw [h.attempts, h.modify_cons rfl]

theorem modify_modify (h : Newest s last older) {f : Attempt → Attempt}
    (id : (f last).id = last.id) (g : Attempt → Attempt) :
    (s.modify (some last.id) f).modify (some last.id) g =
      { s with attempts := g (f last) :: older } := by
  rw [h.modify]
  show { s with attempts := Keyed.modify Attempt.id last.id g (f last :: older) } = _
  rw [h.modify_cons id]

theorem cases_of_find (h : Newest s last older) {id : Nat} {a : Attempt}
    (found : s.find id = some a) : a = last ∨ a.phase = .done ∧ a.connection = .stopped := by
  have member := (Keyed.mem_of_find found).1
  rw [h.attempts] at member
  rcases List.mem_cons.mp member with rfl | member
  · exact .inl rfl
  · exact .inr ⟨(h.older a member).1, (h.older a member).2.1⟩

theorem timers_of_busy (h : Newest s last older) (busy : last.phase ≠ .done) : s.timers = [] :=
  h.timer.resolve_right fun ⟨_, _, _, idle, _⟩ => busy idle

theorem timers_of_connected (h : Newest s last older) (live : last.connection ≠ .stopped) :
    s.timers = [] :=
  h.timer.resolve_right fun ⟨_, _, _, _, stopped, _⟩ => live stopped

theorem timers_of_destroyed (h : Newest s last older) (destroyed : s.destroyed = true) :
    s.timers = [] :=
  h.timer.resolve_right fun ⟨_, _, _, _, _, alive⟩ => by
    rw [destroyed] at alive
    cases alive

theorem safe (h : Newest s last older) : s.Safe := by
  have rest : older.filter (·.connection ≠ .stopped) = [] := by
    rw [List.filter_eq_nil_iff]
    intro a ha
    simp [(h.older a ha).2.1]
  constructor
  · rw [h.attempts]
    by_cases live : last.connection = .stopped
    · rw [List.filter_cons_of_neg (by simp [live]), rest]
      rcases h.timer with none | ⟨timer, one, -⟩
      · simp [none]
      · simp [one]
    · rw [List.filter_cons_of_pos (by simp [live]), rest, h.timers_of_connected live]
      simp
  · intro completed
    have fits := h.shutdown
    simp only [FitsShutdown, completed] at fits
    refine ⟨h.timers_of_destroyed fits.2, ?_⟩
    rw [h.attempts]
    intro a ha
    rcases List.mem_cons.mp ha with rfl | ha
    · simp [fits.1]
    · simp [(h.older a ha).2.1]

/-! ### Steps -/

/-- The newest attempt goes on while no timer is pending. -/
theorem moves (h : Newest s last older) (untimed : s.timers = []) (phase : Phase)
    (connection : Connection)
    (fits : FitsPhase s { last with phase := phase, connection := connection })
    (shut : s.shutdown = .completed → connection = .stopped) :
    Newest { s with attempts := { last with phase := phase, connection := connection } :: older }
      { last with phase := phase, connection := connection } older where
  attempts := rfl
  id := h.id
  consumer := h.consumer
  older := h.older
  timer := .inl untimed
  phase := fits
  shutdown := by
    have old := h.shutdown
    unfold FitsShutdown at old ⊢
    cases hs : s.shutdown with
    | notCalled => simpa [hs] using old
    | disconnecting => simpa [hs] using old
    | completed =>
      simp only [hs] at old ⊢
      exact ⟨shut hs, old.2⟩

theorem not_completed (h : Newest s last older) (alive : s.destroyed = false) :
    s.shutdown ≠ .completed := by
  intro completed
  have fits := h.shutdown
  simp only [FitsShutdown, completed, alive, Bool.false_eq_true, and_false] at fits

/-- `subscribe` or `run` fails. -/
theorem failed (h : Newest s last older) (busy : last.phase ≠ .done)
    (connected : last.connection = .connected) (alive : s.destroyed = false) :
    ∃ last', Newest (s.enter last.id (.disconnecting s.consumer)) last' older := by
  unfold Service.enter
  rw [h.modify]
  exact ⟨_, h.moves (h.timers_of_busy busy) (.disconnecting s.consumer) last.connection
    ⟨h.consumer, by simp [connected]⟩ fun completed => absurd completed (h.not_completed alive)⟩

theorem answered (h : Newest s last older) (success : Bool) :
    ∃ last', Newest (s.answered last success) last' older := by
  have fits := h.phase
  unfold Service.answered
  cases hp : last.phase with
  | connecting =>
    simp only [FitsPhase, hp] at fits
    have untimed := h.timers_of_busy (by simp [hp])
    cases success with
    | true =>
      dsimp only
      rw [h.modify]
      exact ⟨_, h.moves untimed .subscribing .connected ⟨rfl, fits.2⟩
        fun completed => absurd completed (h.not_completed fits.2)⟩
    | false =>
      dsimp only
      rw [h.modify]
      exact ⟨_, h.moves untimed (.disconnecting s.consumer) .stopped ⟨h.consumer, by simp⟩
        fun _ => rfl⟩
  | subscribing =>
    simp only [FitsPhase, hp] at fits
    have untimed := h.timers_of_busy (by simp [hp])
    cases success with
    | true =>
      dsimp only [Service.enter]
      rw [h.modify]
      exact ⟨_, h.moves untimed (.starting s.consumer) last.connection ⟨h.consumer, fits⟩
        fun completed => absurd completed (h.not_completed fits.2)⟩
    | false => exact h.failed (by simp [hp]) fits.1 fits.2
  | starting consumer =>
    simp only [FitsPhase, hp] at fits
    obtain ⟨rfl, connected, alive⟩ := fits
    have untimed := h.timers_of_busy (by simp [hp])
    cases success with
    | true =>
      dsimp only [Service.enter]
      rw [h.modify_modify (by rfl)]
      exact ⟨_, h.moves untimed .done .connected (by simp [FitsPhase])
        fun completed => absurd completed (h.not_completed alive)⟩
    | false => exact h.failed (by simp [hp]) connected alive
  | disconnecting consumer => exact ⟨last, h⟩
  | done => exact ⟨last, h⟩

/-- A timer is set when the newest attempt is over and its consumer stopped. -/
theorem setTimeout (h : Newest s last older) (idle : last.phase = .done)
    (stopped : last.connection = .stopped) (alive : s.destroyed = false) (none : s.timers = [])
    (attempt delayMs : Nat) : Newest (s.setTimeout attempt delayMs) last older where
  attempts := h.attempts
  id := h.id
  consumer := h.consumer
  older := h.older
  timer := .inr ⟨⟨s.timersSet, attempt, delayMs⟩, by simp [Service.setTimeout, none], rfl, idle,
    stopped, alive⟩
  phase := h.phase
  shutdown := h.shutdown

theorem disconnected (h : Newest s last older) :
    ∃ last', Newest (s.disconnected last) last' older := by
  have fits := h.phase
  unfold Service.disconnected
  cases hp : last.phase with
  | disconnecting consumer =>
    simp only [FitsPhase, hp] at fits
    obtain ⟨rfl, settled⟩ := fits
    have untimed := h.timers_of_busy (by simp [hp])
    have stopped : last.connection.disconnect = .stopped := by
      cases hc : last.connection with
      | connecting => exact absurd hc settled
      | connected => rfl
      | stopped => rfl
    have ended : (s.disconnect (some last.id)).enter last.id .done =
        { s with attempts := { last with phase := .done, connection := .stopped } :: older } := by
      unfold Service.enter Service.disconnect
      rw [h.modify_modify (by rfl), stopped]
    have next := h.moves untimed .done .stopped (by simp [FitsPhase]) fun _ => rfl
    simp only [ended]
    split
    · exact ⟨_, next⟩
    · next alive =>
      exact ⟨_, next.setTimeout rfl rfl (by simpa using alive) untimed _ _⟩
  | connecting | subscribing | starting | done => exact ⟨last, h⟩

theorem clearTimeout (h : Newest s last older) :
    Newest s.clearTimeout last older ∧ s.clearTimeout.timers = [] := by
  have cleared : s.clearTimeout.timers = [] := by
    rcases h.timer with none | ⟨timer, one, held, -⟩
    · simp [Service.clearTimeout, none]
    · simp [Service.clearTimeout, one, held]
  exact ⟨⟨h.attempts, h.id, h.consumer, h.older, .inl cleared, h.phase, h.shutdown⟩, cleared⟩

/-- A crash of the newest consumer, after its attempt or after the shutdown was called. -/
theorem crashed (h : Newest s last older)
    (undisturbed : last.connection = .connected → last.phase = .done ∨ s.destroyed = true) :
    ∃ last', Newest (s.crashed last) last' older := by
  unfold Service.crashed
  split
  · next connected =>
    have stopped : s.modify (some last.id) (fun a => { a with connection := .stopped }) =
        { s with attempts := { last with connection := .stopped } :: older } := h.modify _
    have fits : FitsPhase s { last with connection := .stopped } := by
      have fits := h.phase
      unfold FitsPhase at fits ⊢
      cases hp : last.phase with
      | done => simp
      | disconnecting =>
        simp only [hp] at fits
        exact ⟨fits.1, by simp⟩
      | connecting | subscribing | starting =>
        have destroyed := (undisturbed connected).resolve_left (by simp [hp])
        simp [hp, destroyed] at fits
    have next := h.moves (h.timers_of_connected (by simp [connected])) last.phase .stopped fits
      fun _ => rfl
    simp only [stopped]
    split
    · exact ⟨_, next⟩
    · next alive =>
      have alive : s.destroyed = false := by simpa using alive
      have idle := (undisturbed connected).resolve_right (by simp [alive])
      obtain ⟨clear, none⟩ := next.clearTimeout
      exact ⟨_, clear.setTimeout idle rfl alive none _ _⟩
  · exact ⟨last, h⟩

/-- The only timer fires, and its attempt is the newest one from then on. -/
theorem fired (h : Newest s last older) {timer : Timer} (pending : timer ∈ s.timers) :
    ∃ last' older', Newest (s.fired timer) last' older' := by
  obtain ⟨other, one, -, idle, stopped, alive⟩ := h.timer.resolve_left (by
    rintro none
    simp [none] at pending)
  rw [one, List.mem_singleton] at pending
  subst pending
  have length : s.attempts.length = older.length + 1 := by simp [h.attempts]
  refine ⟨⟨s.attempts.length, timer.attempt, .connecting, .connecting⟩, last :: older,
    ⟨?_, length, rfl, ?_, .inl ?_, ⟨rfl, alive⟩, ?_⟩⟩
  · show _ :: s.attempts = _
    rw [h.attempts]
  · intro a ha
    rcases List.mem_cons.mp ha with rfl | ha
    · exact ⟨idle, stopped, by simp [h.id]⟩
    · obtain ⟨done, halted, before⟩ := h.older a ha
      exact ⟨done, halted, Nat.lt_succ_of_lt before⟩
  · show s.timers.filter (·.id ≠ timer.id) = []
    simp [one]
  · have fits := h.shutdown
    have notCalled : s.shutdown = .notCalled := by
      unfold FitsShutdown at fits
      cases hs : s.shutdown with
      | notCalled => rfl
      | disconnecting | completed => simp [hs, alive] at fits
    have called : (s.fired timer).shutdown = .notCalled := notCalled
    unfold FitsShutdown
    rw [called]
    exact alive

theorem onModuleDestroy (h : Newest s last older)
    (undisturbed : last.phase = .done ∨ ∃ consumer, last.phase = .disconnecting consumer) :
    Newest { s.clearTimeout with destroyed := true, shutdown := .disconnecting s.consumer }
      last older := by
  obtain ⟨clear, none⟩ := h.clearTimeout
  refine ⟨h.attempts, h.id, h.consumer, h.older, .inl none, ?_, ⟨h.consumer, rfl⟩⟩
  have fits := h.phase
  unfold FitsPhase at fits ⊢
  rcases undisturbed with idle | ⟨consumer, disconnecting⟩
  · simpa [idle] using fits
  · simpa [disconnecting] using fits

theorem shutdownDisconnected (h : Newest s last older) {consumer : Option Nat}
    (called : s.shutdown = .disconnecting consumer) :
    ∃ last', Newest { s.disconnect consumer with shutdown := .completed } last' older := by
  have shut := h.shutdown
  simp only [FitsShutdown, called] at shut
  obtain ⟨rfl, destroyed⟩ := shut
  have fits := h.phase
  have settled : last.connection.disconnect = .stopped ∧
      FitsPhase s { last with connection := .stopped } := by
    unfold FitsPhase at fits ⊢
    cases hp : last.phase with
    | connecting | subscribing | starting => simp [hp, destroyed] at fits
    | disconnecting | done =>
      simp only [hp] at fits ⊢
      cases hc : last.connection <;> simp_all [Connection.disconnect]
  have next := h.moves (h.timers_of_destroyed destroyed) last.phase .stopped settled.2 fun _ => rfl
  have after : s.disconnect (some last.id) =
      { s with attempts := { last with connection := .stopped } :: older } := by
    unfold Service.disconnect
    rw [h.modify, settled.1]
  rw [after]
  exact ⟨_, ⟨rfl, h.id, h.consumer, h.older, next.timer, next.phase, ⟨rfl, destroyed⟩⟩⟩

end Newest

variable {s : Service}

theorem Inv.safe (h : Inv s) : s.Safe := by
  rcases h with ⟨attempts, timers⟩ | ⟨last, older, h⟩
  · exact ⟨by simp [attempts, timers], fun _ => ⟨timers, by simp [attempts]⟩⟩
  · exact h.safe

theorem inv_onModuleInit (kafkaEnabled : Bool) : Inv (Service.onModuleInit kafkaEnabled) := by
  cases kafkaEnabled with
  | false => exact .inl ⟨rfl, rfl⟩
  | true =>
    exact .inr ⟨⟨0, 0, .connecting, .connecting⟩, [],
      ⟨rfl, rfl, rfl, by simp, .inl rfl, ⟨rfl, rfl⟩, rfl⟩⟩

/-- While Kafka is disabled there is nothing to answer, to fire or to crash. -/
theorem step_of_empty (attempts : s.attempts = []) (timers : s.timers = []) (e : Event) :
    (s.step e).attempts = [] ∧ (s.step e).timers = [] := by
  have nobody (id : Nat) : s.find id = none := by simp [Service.find, Keyed.find, attempts]
  cases e with
  | answered id success => simp [Service.step, nobody, attempts, timers]
  | disconnected id => simp [Service.step, nobody, attempts, timers]
  | fires id => simp [Service.step, attempts, timers]
  | crash id => simp [Service.step, nobody, attempts, timers]
  | onModuleDestroy =>
    unfold Service.step
    dsimp only
    split
    · exact ⟨attempts, by simp [Service.clearTimeout, timers]⟩
    · exact ⟨attempts, timers⟩
  | shutdownDisconnected =>
    unfold Service.step
    dsimp only
    split
    · next consumer called =>
      refine ⟨?_, Service.modify_timers.trans timers⟩
      cases consumer with
      | none => exact attempts
      | some id => simp [Service.disconnect, Service.modify, Keyed.modify, attempts]
    · exact ⟨attempts, timers⟩

/-- What happens to an attempt matters for the newest one only. -/
theorem Newest.inv_elim {last : Attempt} {older : List Attempt} (h : Newest s last older) {id : Nat}
    {f : Attempt → Service} (newest : last.id = id → ∃ last', Newest (f last) last' older)
    (others : ∀ a : Attempt, a.phase = .done → a.connection = .stopped → f a = s) :
    Inv ((s.find id).elim s f) := by
  cases found : s.find id with
  | none => exact .inr ⟨last, older, h⟩
  | some a =>
    show Inv (f a)
    rcases h.cases_of_find found with rfl | ⟨done, stopped⟩
    · obtain ⟨last', h'⟩ := newest (Keyed.mem_of_find found).2
      exact .inr ⟨last', older, h'⟩
    · rw [others a done stopped]
      exact .inr ⟨last, older, h⟩

theorem Inv.step (h : Inv s) (e : Event) (ok : Undisturbed s e) : Inv (s.step e) := by
  rcases h with ⟨attempts, timers⟩ | ⟨last, older, h⟩
  · exact .inl (step_of_empty attempts timers e)
  cases e with
  | answered id success =>
    exact h.inv_elim (fun _ => h.answered success) fun a done _ => by simp [Service.answered, done]
  | disconnected id =>
    exact h.inv_elim (fun _ => h.disconnected) fun a done _ => by simp [Service.disconnected, done]
  | fires id =>
    show Inv ((s.timers.find? (·.id = id)).elim s s.fired)
    cases found : s.timers.find? (·.id = id) with
    | none => exact .inr ⟨last, older, h⟩
    | some timer =>
      obtain ⟨last', older', h'⟩ := h.fired (List.mem_of_find?_eq_some found)
      exact .inr ⟨last', older', h'⟩
  | crash id =>
    have newest : last ∈ s.attempts := by simp [h.attempts]
    exact h.inv_elim (fun key => h.crashed (ok last newest key))
      fun a _ stopped => by simp [Service.crashed, stopped]
  | onModuleDestroy =>
    unfold Service.step
    dsimp only
    split
    · next notCalled =>
      exact .inr ⟨last, older, h.onModuleDestroy (ok notCalled last (by simp [h.attempts]))⟩
    · exact .inr ⟨last, older, h⟩
  | shutdownDisconnected =>
    unfold Service.step
    dsimp only
    split
    · next called =>
      obtain ⟨last', h'⟩ := h.shutdownDisconnected called
      exact .inr ⟨last', older, h'⟩
    · exact .inr ⟨last, older, h⟩

/-! ## Runs that go wrong -/

namespace Service

variable {a : Attempt}

/-- `run` succeeds on the consumer that it was called on. -/
theorem find_started (found : s.find a.id = some a) (starting : a.phase = .starting (some a.id)) :
    (s.step (.answered a.id true)).find a.id =
      some { a with connection := .connected, phase := .done } := by
  show ((s.find a.id).elim s fun a => s.answered a true).find a.id = _
  rw [found]
  simp only [Option.elim_some, answered, starting]
  have connected : (s.modify (some a.id) fun a => { a with connection := .connected }).find a.id =
      some { a with connection := .connected } := find_modify found fun _ => rfl
  exact find_modify connected fun _ => rfl

theorem find_subscribed (found : s.find a.id = some a) (subscribing : a.phase = .subscribing) :
    (s.step (.answered a.id true)).find a.id = some { a with phase := .starting s.consumer } := by
  show ((s.find a.id).elim s fun a => s.answered a true).find a.id = _
  rw [found]
  simp only [Option.elim_some, answered, subscribing]
  exact find_modify found fun _ => rfl

theorem find_connected (found : s.find a.id = some a) (connecting : a.phase = .connecting) :
    (s.step (.answered a.id true)).find a.id =
      some { a with connection := .connected, phase := .subscribing } := by
  show ((s.find a.id).elim s fun a => s.answered a true).find a.id = _
  rw [found]
  simp only [Option.elim_some, answered, connecting]
  exact find_modify found fun _ => rfl

/-- An answer changes attempts only. -/
theorem step_answered (s : Service) (id : Nat) (success : Bool) :
    ∃ attempts, s.step (.answered id success) = { s with attempts := attempts } := by
  have modified (s : Service) (id : Option Nat) (f : Attempt → Attempt) :
      ∃ attempts, s.modify id f = { s with attempts := attempts } := by
    cases id with
    | none => exact ⟨s.attempts, rfl⟩
    | some id => exact ⟨_, rfl⟩
  show ∃ attempts, ((s.find id).elim s fun a => s.answered a success) = _
  cases s.find id with
  | none => exact ⟨s.attempts, rfl⟩
  | some a =>
    show ∃ attempts, s.answered a success = _
    unfold answered enter
    split
    · exact modified ..
    · exact modified ..
    · exact modified ..
    · next _ _ consumer _ =>
      obtain ⟨attempts, connected⟩ :=
        modified s consumer fun a => { a with connection := .connected }
      rw [connected]
      exact modified ..
    · exact modified ..
    · exact modified ..
    · exact ⟨s.attempts, rfl⟩
    · exact ⟨s.attempts, rfl⟩

@[simp] theorem step_answered_shutdown {id : Nat} {success : Bool} :
    (s.step (.answered id success)).shutdown = s.shutdown := by
  obtain ⟨attempts, same⟩ := step_answered s id success
  rw [same]

@[simp] theorem step_answered_timers {id : Nat} {success : Bool} :
    (s.step (.answered id success)).timers = s.timers := by
  obtain ⟨attempts, same⟩ := step_answered s id success
  rw [same]

@[simp] theorem step_answered_destroyed {id : Nat} {success : Bool} :
    (s.step (.answered id success)).destroyed = s.destroyed := by
  obtain ⟨attempts, same⟩ := step_answered s id success
  rw [same]

/-- A consumer that is connected after the shutdown. -/
theorem not_safe_of_connected (completed : s.shutdown = .completed) {id : Nat}
    (found : s.find id = some a) (connected : a.connection = .connected) : ¬ s.Safe :=
  fun safe => (safe.after completed).2 a (Keyed.mem_of_find found).1 connected

/-- An attempt that is not over at the shutdown goes on to `run`. -/
theorem exists_connected_after (completed : s.shutdown = .completed)
    (found : s.find a.id = some a) (held : s.consumer = some a.id)
    (busy : a.phase = .connecting ∨ a.phase = .subscribing ∨ a.phase = .starting (some a.id)) :
    ∃ answers : List Event, (∀ e ∈ answers, e.Answers) ∧
      ¬ (Run.exec step s answers).Safe := by
  rcases busy with connecting | subscribing | starting
  · exact ⟨[.answered a.id true], by simp [Event.Answers],
      not_safe_of_connected (by simp [completed]) (find_connected found connecting) rfl⟩
  · have next := find_subscribed found subscribing
    have last := @find_started _ { a with phase := .starting s.consumer } next (by rw [held])
    exact ⟨[.answered a.id true, .answered a.id true], by simp [Event.Answers],
      not_safe_of_connected (by simp [completed]) last rfl⟩
  · exact ⟨[.answered a.id true], by simp [Event.Answers],
      not_safe_of_connected (by simp [completed]) (find_started found starting) rfl⟩

theorem find_failed (found : s.find a.id = some a)
    (busy : a.phase = .subscribing ∨ ∃ consumer, a.phase = .starting consumer) :
    (s.step (.answered a.id false)).find a.id =
      some { a with phase := .disconnecting s.consumer } := by
  show ((s.find a.id).elim s fun a => s.answered a false).find a.id = _
  rw [found]
  rcases busy with subscribing | ⟨consumer, starting⟩
  · simp only [Option.elim_some, answered, subscribing]
    exact find_modify found fun _ => rfl
  · simp only [Option.elim_some, answered, starting]
    exact find_modify found fun _ => rfl

/-- The `catch` block sets its timer besides the pending ones. -/
theorem length_timers_disconnected {id : Nat} (found : s.find id = some a)
    (alive : s.destroyed = false) {consumer : Option Nat}
    (failed : a.phase = .disconnecting consumer) :
    (s.step (.disconnected id)).timers.length = s.timers.length + 1 := by
  show ((s.find id).elim s s.disconnected).timers.length = _
  rw [found]
  simp [disconnected, failed, enter, disconnect, alive, setTimeout]

/-- An attempt that fails while a timer is pending. -/
theorem exists_second_timer (found : s.find a.id = some a) (alive : s.destroyed = false)
    (pending : s.timers ≠ [])
    (busy : a.phase = .subscribing ∨ (∃ consumer, a.phase = .starting consumer) ∨
      ∃ consumer, a.phase = .disconnecting consumer) :
    ∃ answers : List Event, (∀ e ∈ answers, e.Answers) ∧
      ¬ (Run.exec step s answers).Safe := by
  have first : 1 ≤ s.timers.length := List.length_pos_iff.mpr pending
  have fails (busy : a.phase = .subscribing ∨ ∃ consumer, a.phase = .starting consumer) :
      ¬ (Run.exec step s [.answered a.id false, .disconnected a.id]).Safe := by
    intro safe
    have second := length_timers_disconnected (find_failed found busy) (by simp [alive]) rfl
    have one := safe.one
    simp only [Run.exec_cons, Run.exec_nil, second, step_answered_timers] at one
    omega
  rcases busy with subscribing | starting | ⟨consumer, failed⟩
  · exact ⟨_, by simp [Event.Answers], fails (.inl subscribing)⟩
  · exact ⟨_, by simp [Event.Answers], fails (.inr starting)⟩
  · have second := length_timers_disconnected found alive failed
    refine ⟨[.disconnected a.id], by simp [Event.Answers], fun safe => ?_⟩
    have one := safe.one
    simp only [Run.exec_cons, Run.exec_nil, second] at one
    omega

end Service

namespace Newest

variable {last : Attempt} {older : List Attempt}

theorem find (h : Newest s last older) : s.find last.id = some last := by
  simp [Service.find, Keyed.find, h.attempts]

/-- A crash during an attempt leaves a timer besides the attempt, which may fail. -/
theorem crash_during (h : Newest s last older) (connected : last.connection = .connected)
    (busy : last.phase ≠ .done) (alive : s.destroyed = false) :
    ∃ answers : List Event, (∀ e ∈ answers, e.Answers) ∧
      ¬ (Run.exec Service.step (s.step (.crash last.id)) answers).Safe := by
  have crashed : s.step (.crash last.id) =
      (s.modify (some last.id) fun a => { a with connection := .stopped }).clearTimeout.setTimeout 0
        (retryDelayMs 0) := by
    show ((s.find last.id).elim s s.crashed) = _
    simp [h.find, Service.crashed, connected, alive]
  have found : (s.step (.crash last.id)).find last.id =
      some { last with connection := .stopped } := by
    rw [crashed]
    exact Service.find_modify h.find fun _ => rfl
  have stays : (s.step (.crash last.id)).destroyed = false := by
    rw [crashed]
    simpa [Service.setTimeout, Service.clearTimeout] using alive
  refine @Service.exists_second_timer _ { last with connection := .stopped } found stays
    (by simp [crashed, Service.setTimeout]) ?_
  -- an attempt that is not over awaits a call of its own consumer, which has connected
  have fits := h.phase
  unfold FitsPhase at fits
  cases hp : last.phase with
  | connecting =>
    simp only [hp, connected] at fits
    exact absurd fits.1 (by simp)
  | subscribing => exact .inl rfl
  | starting consumer => exact .inr (.inl ⟨consumer, rfl⟩)
  | disconnecting consumer => exact .inr (.inr ⟨consumer, rfl⟩)
  | done => exact absurd hp busy

/-- An attempt that waits for `connect`, `subscribe` or `run` at the shutdown may connect after
it. -/
theorem destroy_during (h : Newest s last older) (notCalled : s.shutdown = .notCalled)
    (busy : ¬ (last.phase = .done ∨ ∃ consumer, last.phase = .disconnecting consumer)) :
    ∃ answers : List Event, (∀ e ∈ answers, e.Answers) ∧
      ¬ (Run.exec Service.step (s.step .onModuleDestroy) answers).Safe := by
  have completed : (s.step .onModuleDestroy).step .shutdownDisconnected =
      { ({ s.clearTimeout with destroyed := true, shutdown := .disconnecting s.consumer } :
        Service).disconnect s.consumer with shutdown := .completed } := by
    simp [Service.step, notCalled]
  have found : ((s.step .onModuleDestroy).step .shutdownDisconnected).find last.id =
      some { last with connection := last.connection.disconnect } := by
    rw [completed, h.consumer]
    exact Service.find_modify h.find fun _ => rfl
  have held : ((s.step .onModuleDestroy).step .shutdownDisconnected).consumer = some last.id := by
    rw [completed]
    exact Service.modify_consumer.trans h.consumer
  obtain ⟨answers, answer, wrong⟩ := @Service.exists_connected_after _
    { last with connection := last.connection.disconnect } (by rw [completed]) found held (by
      have fits := h.phase
      unfold FitsPhase at fits
      cases hp : last.phase with
      | connecting => exact .inl rfl
      | subscribing => exact .inr (.inl rfl)
      | starting consumer =>
        simp only [hp] at fits
        exact .inr (.inr (congrArg _ fits.1))
      | disconnecting consumer => exact absurd (.inr ⟨consumer, hp⟩) busy
      | done => exact absurd (.inl hp) busy)
  refine ⟨.shutdownDisconnected :: answers, ?_, wrong⟩
  simpa [Event.Answers] using answer

end Newest

theorem Inv.undisturbed (h : Inv s) (e : Event)
    (safe : ∀ answers : List Event, (∀ e ∈ answers, e.Answers) →
      (Run.exec Service.step (s.step e) answers).Safe) : Undisturbed s e := by
  rcases h with ⟨attempts, -⟩ | ⟨last, older, h⟩
  · cases e <;> simp [Undisturbed, attempts]
  cases e with
  | crash id =>
    rintro a ha rfl connected
    by_contra during
    obtain ⟨busy, alive⟩ := not_or.mp during
    rw [h.attempts] at ha
    rcases List.mem_cons.mp ha with rfl | ha
    · obtain ⟨answers, answer, wrong⟩ := h.crash_during connected busy (by simpa using alive)
      exact wrong (safe answers answer)
    · exact busy (h.older a ha).1
  | onModuleDestroy =>
    intro notCalled a ha
    by_contra busy
    rw [h.attempts] at ha
    rcases List.mem_cons.mp ha with rfl | ha
    · obtain ⟨answers, answer, wrong⟩ := h.destroy_during notCalled busy
      exact wrong (safe answers answer)
    · exact busy (.inl (h.older a ha).1)
  | answered | disconnected | fires | shutdownDisconnected => trivial

/-- However the calls in flight are answered. -/
theorem Inv.safe_answered (h : Inv s) {answers : List Event} (answer : ∀ e ∈ answers, e.Answers) :
    (Run.exec Service.step s answers).Safe := by
  have keeps : ∀ s e, Inv s → e.Answers → Inv (s.step e) := by
    intro s e h answers
    refine h.step e ?_
    cases e with
    | answered | disconnected | shutdownDisconnected => trivial
    | fires | crash | onModuleDestroy => exact absurd answers id
  exact (Run.invariant_of_meets keeps h (Run.meets_const_iff.mpr answer)).safe

/-- At most one connection or timer at any time, and neither after the shutdown, however the
calls in flight are answered. -/
theorem consumer_lifecycle_iff (kafkaEnabled : Bool) (events : List Event) :
    (∀ pre, pre <+: events → ∀ answers : List Event, (∀ e ∈ answers, e.Answers) →
        (Run.exec Service.step (Service.onModuleInit kafkaEnabled) (pre ++ answers)).Safe) ↔
      Run.Meets Service.step Undisturbed (Service.onModuleInit kafkaEnabled) events := by
  have implies : ∀ s, Inv s → ∀ answers : List Event, (∀ e ∈ answers, e.Answers) →
      (Run.exec Service.step s answers).Safe := fun s h answers answer => h.safe_answered answer
  simp only [Run.exec_append]
  exact Run.always_iff_meets implies (fun s e h ok => h.step e ok)
    (fun s e h safe => h.undisturbed e safe) (inv_onModuleInit kafkaEnabled) events

/-- The shutdown comes while a retry connects, and the retry's consumer is connected after it. -/
theorem shutdown_during_retry :
    ¬ (Run.exec Service.step (Service.onModuleInit true)
      [.answered 0 false, .disconnected 0, .fires 0, .onModuleDestroy, .shutdownDisconnected,
        .answered 1 true]).Safe := by
  intro safe
  exact absurd (safe.after (by decide)) (by decide)

end KafkaConsumer

end AiotCloud
