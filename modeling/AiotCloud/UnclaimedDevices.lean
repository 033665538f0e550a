import AiotCloud.DeviceMessages
import AiotCloud.DeviceRegistry
import AiotCloud.Lib.Run

/-!
# Unclaimed devices

A message from a device id that nobody has registered is recorded in `unclaimed_devices`,
which has one row for an id. `registerDevice` removes the row in the transaction that
inserts the device. `recordUnclaimedDevice` looks the row up, and then updates or inserts
it.

A transaction reads what is committed and locks the rows it deletes: they are seen until it
commits, and a statement that needs one of them waits for that.

* `turned_fire`: what one turn does.
* `Kept.turned`: registered or unclaimed, while no sighting is inserted too late.
* `claim_exclusive_iff`: over whole runs.
-/

namespace AiotCloud

/-! ## The calls -/

structure UnclaimedDeviceEntity where
  id : Nat
  deviceId : String
  lastTopic : String
  lastPayload : Option String
  lastSeenAt : Date
  ignoredAt : Option Date := none
deriving DecidableEq, Repr

/-- The handler that has received the message. -/
inductive SightingSource where
  | telemetry
  | status
  | event (topic : Option String)
  | alert
deriving DecidableEq, Repr

def SightingSource.lastTopic : SightingSource → String
  | telemetry => "telemetry"
  | status => "status"
  | event topic => topic.getD kafkaDeviceEventsTopic
  | alert => "alert"

/-- A message, with its payload as text, or a dismissal. -/
inductive ClaimCall where
  | message (source : SightingSource) (lastPayload : Option String) (lastSeenAt : Date)
  | ignoreUnclaimedDevice (now : Date)
  | unignoreUnclaimedDevice
deriving DecidableEq, Repr

namespace ClaimCall

def isMessage : ClaimCall → Bool
  | message .. => true
  | ignoreUnclaimedDevice _ | unignoreUnclaimedDevice => false

/-- The row that a message inserts. -/
def created (id : Nat) (deviceId : String) : ClaimCall → Option UnclaimedDeviceEntity
  | message source lastPayload lastSeenAt =>
    some { id, deviceId, lastTopic := source.lastTopic, lastPayload, lastSeenAt }
  | ignoreUnclaimedDevice _ | unignoreUnclaimedDevice => none

/-- The columns that a call updates. -/
def update (row : UnclaimedDeviceEntity) : ClaimCall → UnclaimedDeviceEntity
  | message source lastPayload lastSeenAt =>
    { row with lastTopic := source.lastTopic, lastPayload, lastSeenAt }
  | ignoreUnclaimedDevice now => { row with ignoredAt := some now }
  | unignoreUnclaimedDevice => { row with ignoredAt := none }

/-- The `ignoredAt` that a dismissal sets. -/
def sets : ClaimCall → Option (Option Date)
  | message .. => none
  | ignoreUnclaimedDevice now => some (some now)
  | unignoreUnclaimedDevice => some none

@[simp] theorem update_id (call : ClaimCall) (row : UnclaimedDeviceEntity) :
    (call.update row).id = row.id := by
  cases call <;> rfl

theorem update_ignoredAt (call : ClaimCall) (row : UnclaimedDeviceEntity) :
    (call.update row).ignoredAt = call.sets.getD row.ignoredAt := by
  cases call <;> rfl

theorem created_of_isMessage {call : ClaimCall} (h : call.isMessage = true) (id : Nat)
    (deviceId : String) : ∃ row, call.created id deviceId = some row ∧ row.id = id ∧
      row.ignoredAt = none := by
  cases call with
  | message source lastPayload lastSeenAt => exact ⟨_, rfl, rfl, rfl⟩
  | ignoreUnclaimedDevice now => cases h
  | unignoreUnclaimedDevice => cases h

end ClaimCall

/-! ## The machine -/

/-- Where a call stands: what it has found so far, or how it has ended. -/
inductive CallPoint where
  | called
  | unregistered
  | absent
  | found (id : Nat)
  | done
  | failed
deriving DecidableEq, Repr

/-- Where the registration stands: the statement it has run last. -/
inductive RegistrationPoint where
  | called
  | checked (entity : DeviceEntity)
  | inserted (entity : DeviceEntity)
  | deleted (entity : DeviceEntity)
  | committed
  | refused

/-- The device that is being registered. -/
def RegistrationPoint.entity : RegistrationPoint → Option DeviceEntity
  | checked entity | inserted entity | deleted entity => some entity
  | called | committed | refused => none

/-- A registration, and the other calls for its device id. -/
structure ClaimSetting (n : Nat) where
  calls : Fin n → ClaimCall
  id : String
  now : Date
  userId : String
  factoryId : Option String
  dto : RegisterDeviceDto
  templates : List DeviceTemplateEntity

/-- What is committed for the device id, the row that the open transaction has deleted, the
next id that is generated, and the calls. -/
structure ClaimWorld (n : Nat) where
  device : Option DeviceEntity
  row : Option UnclaimedDeviceEntity
  doomed : Option Nat
  nextId : Nat
  points : Fin n → CallPoint
  registration : RegistrationPoint

namespace ClaimWorld

variable {n : Nat}

def moved (w : ClaimWorld n) (i : Fin n) (p : CallPoint) : ClaimWorld n :=
  { w with points := Function.update w.points i p }

/-- After a look-up of the row. -/
def lookup (w : ClaimWorld n) (i : Fin n) (missing : CallPoint) : ClaimWorld n :=
  w.moved i (match w.row with
    | none => missing
    | some row => .found row.id)

/-- The turn of a message or a dismissal. -/
def callTurn (s : ClaimSetting n) (w : ClaimWorld n) (i : Fin n) : ClaimWorld n :=
  match w.points i with
  | .called =>
    if (s.calls i).isMessage then w.moved i (if w.device.isSome then .done else .unregistered)
    else w.lookup i .done
  | .unregistered => w.lookup i .absent
  | .absent =>
    match w.row with
    | none =>
      { w.moved i .done with
        row := (s.calls i).created w.nextId s.dto.deviceId
        nextId := w.nextId + 1 }
    | some row => if w.doomed = some row.id then w else w.moved i .failed
  | .found id =>
    if w.doomed = some id then w
    else
      { w.moved i .done with
        row := w.row.map fun row => if row.id = id then (s.calls i).update row else row }
  | .done | .failed => w

/-- The turn of the registration. -/
def registrationTurn (s : ClaimSetting n) (w : ClaimWorld n) : ClaimWorld n :=
  match w.registration with
  | .called =>
    match (registerDevice s.id s.now s.userId s.factoryId s.dto s.templates w.device.toList).2 with
    | none => { w with registration := .refused }
    | some entity => { w with registration := .checked entity }
  | .checked entity => { w with registration := .inserted entity }
  | .inserted entity => { w with registration := .deleted entity, doomed := w.row.map (·.id) }
  | .deleted entity =>
    { w with
      registration := .committed
      device := some entity
      row := w.row.filter fun row => w.doomed ≠ some row.id
      doomed := none }
  | .committed | .refused => w

/-- A turn of a call, or of the registration. -/
def fire (s : ClaimSetting n) (w : ClaimWorld n) : Option (Fin n) → ClaimWorld n
  | some i => w.callTurn s i
  | none => w.registrationTurn s

/-- Every call has ended. -/
structure Finished (w : ClaimWorld n) : Prop where
  calls : ∀ i, w.points i = .done ∨ w.points i = .failed
  registration : w.registration = .committed ∨ w.registration = .refused

/-- The `ignoredAt` that is set by a turn. -/
def setsBy (s : ClaimSetting n) (w : ClaimWorld n) : Option (Fin n) → Option (Option Date)
  | some i =>
    match w.points i with
    | .found id => if w.doomed = some id then none else (s.calls i).sets
    | _ => none
  | none => none

/-- The `ignoredAt` of the last dismissal that sets one. -/
def lastSet (s : ClaimSetting n) : ClaimWorld n → List (Option (Fin n)) → Option (Option Date)
  | _, [] => none
  | w, t :: sched => (lastSet s (w.fire s t) sched).or (w.setsBy s t)

/-- No message ended in an error. A registered device has no row, and one that is not and has
sent a message has one, with the `ignoredAt` of the last dismissal. -/
structure Exclusive (s : ClaimSetting n) (ignoredAt : Option Date) (w : ClaimWorld n) : Prop where
  answered : ∀ i, w.points i ≠ .failed
  registered : w.device.isSome → w.row = none
  unclaimed : w.device = none → (∃ i, (s.calls i).isMessage = true) →
    ∃ row, w.row = some row ∧ row.ignoredAt = ignoredAt

/-- The registration has deleted the row. -/
def HasDeleted (w : ClaimWorld n) : Prop :=
  match w.registration with
  | .deleted _ | .committed => True
  | _ => False

/-- A message that is about to insert its sighting finds no row, and comes before the
registration deletes the row. -/
def Spares (w : ClaimWorld n) : Option (Fin n) → Prop
  | some i => w.points i = .absent → w.row = none ∧ ¬ w.HasDeleted
  | none => True

/-! ## One turn -/

/-- What a turn does. -/
inductive Turned (s : ClaimSetting n) (w : ClaimWorld n) :
    Option (Fin n) → ClaimWorld n → Prop
  | idle (t : Option (Fin n)) (silent : w.setsBy s t = none) : Turned s w t w
  | answered (i : Fin n) (stands : w.points i = .called)
      (claimed : (s.calls i).isMessage = true → w.device.isSome) :
      Turned s w (some i) (w.moved i .done)
  | unregistered (i : Fin n) (stands : w.points i = .called)
      (message : (s.calls i).isMessage = true) (device : w.device = none) :
      Turned s w (some i) (w.moved i .unregistered)
  | absent (i : Fin n) (stands : w.points i = .unregistered) (missing : w.row = none) :
      Turned s w (some i) (w.moved i .absent)
  | found (i : Fin n) (row : UnclaimedDeviceEntity)
      (stands : w.points i = .called ∨ w.points i = .unregistered) (found : w.row = some row) :
      Turned s w (some i) (w.moved i (.found row.id))
  | inserted (i : Fin n) (stands : w.points i = .absent) (missing : w.row = none) :
      Turned s w (some i)
        { w.moved i .done with
          row := (s.calls i).created w.nextId s.dto.deviceId
          nextId := w.nextId + 1 }
  | failed (i : Fin n) (row : UnclaimedDeviceEntity) (stands : w.points i = .absent)
      (taken : w.row = some row) (unlocked : w.doomed ≠ some row.id) :
      Turned s w (some i) (w.moved i .failed)
  | updated (i : Fin n) (id : Nat) (stands : w.points i = .found id)
      (unlocked : w.doomed ≠ some id) :
      Turned s w (some i)
        { w.moved i .done with
          row := w.row.map fun row => if row.id = id then (s.calls i).update row else row }
  | refused (stands : w.registration = .called) :
      Turned s w none { w with registration := .refused }
  | checked (entity : DeviceEntity) (stands : w.registration = .called)
      (own : entity.deviceId = s.dto.deviceId)
      (free : ∀ d, w.device = some d → d.deviceId ≠ s.dto.deviceId) :
      Turned s w none { w with registration := .checked entity }
  | saved (entity : DeviceEntity) (stands : w.registration = .checked entity) :
      Turned s w none { w with registration := .inserted entity }
  | deleted (entity : DeviceEntity) (stands : w.registration = .inserted entity) :
      Turned s w none { w with registration := .deleted entity, doomed := w.row.map (·.id) }
  | committed (entity : DeviceEntity) (stands : w.registration = .deleted entity) :
      Turned s w none
        { w with
          registration := .committed
          device := some entity
          row := w.row.filter fun row => w.doomed ≠ some row.id
          doomed := none }

variable {s : ClaimSetting n} {w w' : ClaimWorld n} {t : Option (Fin n)}

theorem turned_callTurn (s : ClaimSetting n) (w : ClaimWorld n) (i : Fin n) :
    Turned s w (some i) (w.callTurn s i) := by
  unfold callTurn lookup
  cases stands : w.points i with
  | called =>
    cases message : (s.calls i).isMessage with
    | true =>
      cases device : w.device with
      | none => exact .unregistered i stands message device
      | some d => exact .answered i stands fun _ => by simp [device]
    | false =>
      cases hrow : w.row with
      | none => exact .answered i stands fun claimed => absurd claimed (by simp [message])
      | some row => exact .found i row (Or.inl stands) hrow
  | unregistered =>
    cases hrow : w.row with
    | none => exact .absent i stands hrow
    | some row => exact .found i row (Or.inr stands) hrow
  | absent =>
    cases hrow : w.row with
    | none => exact .inserted i stands hrow
    | some row =>
      dsimp only
      split_ifs with locked
      · exact .idle _ (by simp [setsBy, stands])
      · exact .failed i row stands hrow locked
  | found id =>
    dsimp only
    split_ifs with locked
    · exact .idle _ (by simp [setsBy, stands, locked])
    · exact .updated i id stands locked
  | done => exact .idle _ (by simp [setsBy, stands])
  | failed => exact .idle _ (by simp [setsBy, stands])

theorem turned_registrationTurn (s : ClaimSetting n) (w : ClaimWorld n) :
    Turned s w none (w.registrationTurn s) := by
  unfold registrationTurn
  cases stands : w.registration with
  | called =>
    cases inserts : (registerDevice s.id s.now s.userId s.factoryId s.dto s.templates
        w.device.toList).2 with
    | none => exact .refused stands
    | some entity =>
      obtain ⟨rfl, free⟩ := registerDevice_inserts inserts
      exact .checked _ stands rfl fun d hd => free d (by simp [hd])
  | checked entity => exact .saved entity stands
  | inserted entity => exact .deleted entity stands
  | deleted entity => exact .committed entity stands
  | committed => exact .idle _ rfl
  | refused => exact .idle _ rfl

theorem turned_fire (s : ClaimSetting n) (w : ClaimWorld n) (t : Option (Fin n)) :
    Turned s w t (w.fire s t) := by
  cases t with
  | none => exact turned_registrationTurn s w
  | some i => exact turned_callTurn s w i

/-! ## What always holds -/

/-- Ids are generated once, only messages insert, and only the open transaction locks. -/
structure Sound (s : ClaimSetting n) (w : ClaimWorld n) : Prop where
  rowOld : ∀ row, w.row = some row → row.id < w.nextId
  doomedOld : ∀ id, w.doomed = some id → id < w.nextId
  messages : ∀ i, w.points i = .unregistered ∨ w.points i = .absent →
    (s.calls i).isMessage = true
  locked : w.doomed.isSome → ∃ entity, w.registration = .deleted entity
  own : ∀ d, w.device = some d → d.deviceId = s.dto.deviceId
  underway : ∀ entity, w.registration.entity = some entity →
    entity.deviceId = s.dto.deviceId ∧ w.device = none
  committed : w.registration = .committed → w.device.isSome

@[simp] theorem moved_points (w : ClaimWorld n) (i j : Fin n) (p : CallPoint) :
    (w.moved i p).points j = if j = i then p else w.points j :=
  Function.update_apply w.points i p j

/-- A call moves on, and a message stays a message. -/
theorem Sound.moved (sound : Sound s w) {i : Fin n} {p : CallPoint}
    (message : p = .unregistered ∨ p = .absent → (s.calls i).isMessage = true) :
    Sound s (w.moved i p) where
  rowOld := sound.rowOld
  doomedOld := sound.doomedOld
  messages j hj := by
    rw [moved_points] at hj
    split_ifs at hj with same
    · exact same ▸ message hj
    · exact sound.messages j hj
  locked := sound.locked
  own := sound.own
  underway := sound.underway
  committed := sound.committed

/-- Before the deletion nothing is locked. -/
theorem Sound.unlocked (sound : Sound s w) (h : ∀ entity, w.registration ≠ .deleted entity) :
    w.doomed = none := by
  by_contra locked
  obtain ⟨entity, deleted⟩ := sound.locked (Option.isSome_iff_ne_none.mpr locked)
  exact h entity deleted

/-- A registration goes on where the device is not there yet. -/
theorem Sound.device_eq_none (sound : Sound s w)
    (free : ∀ d, w.device = some d → d.deviceId ≠ s.dto.deviceId) : w.device = none := by
  cases hdevice : w.device with
  | none => rfl
  | some d => exact absurd (sound.own d hdevice) (free d hdevice)

theorem Sound.turned (sound : Sound s w) (turned : Turned s w t w') : Sound s w' := by
  cases turned with
  | idle => exact sound
  | answered i stands claimed => exact sound.moved (by simp)
  | unregistered i stands message device => exact sound.moved fun _ => message
  | absent i stands missing => exact sound.moved fun _ => sound.messages i (Or.inl stands)
  | found i row stands found => exact sound.moved (by simp)
  | inserted i stands missing =>
    have message := sound.messages i (Or.inr stands)
    have moved : Sound s (w.moved i .done) := sound.moved (by simp)
    exact
      { moved with
        rowOld := fun row hrow => by
          obtain ⟨created, hcreated, hid, -⟩ :=
            ClaimCall.created_of_isMessage message w.nextId s.dto.deviceId
          obtain rfl := Option.some.inj (hcreated.symm.trans hrow)
          exact hid ▸ Nat.lt_succ_self _
        doomedOld := fun id hid => Nat.lt_succ_of_lt (sound.doomedOld id hid) }
  | failed i row stands taken unlocked => exact sound.moved (by simp)
  | updated i id stands unlocked =>
    have moved : Sound s (w.moved i .done) := sound.moved (by simp)
    exact
      { moved with
        rowOld := fun row hrow => by
          obtain ⟨old, hold, rfl⟩ := Option.map_eq_some_iff.mp hrow
          have := sound.rowOld old hold
          split <;> simpa }
  | refused stands =>
    have unlocked := sound.unlocked (by simp [stands])
    exact
      { sound with
        locked := fun h => by simp [unlocked] at h
        underway := fun _ h => by cases h
        committed := fun h => by cases h }
  | checked entity stands own free =>
    have unlocked := sound.unlocked (by simp [stands])
    exact
      { sound with
        locked := fun h => by simp [unlocked] at h
        underway := fun entity' h => by
          obtain rfl := Option.some.inj h
          exact ⟨own, sound.device_eq_none free⟩
        committed := fun h => by cases h }
  | saved entity stands =>
    have unlocked := sound.unlocked (by simp [stands])
    exact
      { sound with
        locked := fun h => by simp [unlocked] at h
        underway := fun entity' h => sound.underway entity' (by rw [stands]; exact h)
        committed := fun h => by cases h }
  | deleted entity stands =>
    exact
      { sound with
        doomedOld := fun id hid => by
          obtain ⟨row, hrow, rfl⟩ := Option.map_eq_some_iff.mp hid
          exact sound.rowOld row hrow
        locked := fun _ => ⟨entity, rfl⟩
        underway := fun entity' h => sound.underway entity' (by rw [stands]; exact h)
        committed := fun h => by cases h }
  | committed entity stands =>
    exact
      { sound with
        rowOld := fun row hrow => sound.rowOld row (Option.filter_eq_some_iff.mp hrow).1
        doomedOld := fun id hid => by cases hid
        locked := fun h => by cases h
        own := fun d hd => by
          obtain rfl := Option.some.inj hd
          exact (sound.underway entity (by simp [stands, RegistrationPoint.entity])).1
        underway := fun _ h => by cases h
        committed := fun _ => rfl }

/-! ## While the sightings come in time -/

/-- Without a deletion: the row of each call that has found one is there, a message that is
through has left one, and its `ignoredAt` is the last one set. -/
structure Unclaimed (s : ClaimSetting n) (ignoredAt : Option Date) (w : ClaimWorld n) : Prop where
  found : ∀ i id, w.points i = .found id → ∃ row, w.row = some row ∧ row.id = id
  early : ∀ i, w.points i = .unregistered ∨ w.points i = .absent → w.device = none
  through : ∀ i, (s.calls i).isMessage = true → w.points i = .done →
    w.device.isSome ∨ w.row.isSome
  ignored : w.row.bind (·.ignoredAt) = ignoredAt

structure Kept (s : ClaimSetting n) (ignoredAt : Option Date) (w : ClaimWorld n) : Prop where
  sound : Sound s w
  answered : ∀ i, w.points i ≠ .failed
  parted : w.device.isSome → w.row = none
  doomed : ∀ entity, w.registration = .deleted entity → w.doomed = w.row.map (·.id)
  unclaimed : ¬ w.HasDeleted → Unclaimed s ignoredAt w

/-- Where a call moves on to, with the rows as they are. -/
structure MovesTo (s : ClaimSetting n) (w : ClaimWorld n) (i : Fin n) (p : CallPoint) : Prop where
  found : ∀ id, p = .found id → ∃ row, w.row = some row ∧ row.id = id
  early : p = .unregistered ∨ p = .absent → ¬ w.HasDeleted → w.device = none
  through : (s.calls i).isMessage = true → p = .done → w.device.isSome ∨ w.row.isSome
  message : p = .unregistered ∨ p = .absent → (s.calls i).isMessage = true
  answered : p ≠ .failed

variable {ignoredAt : Option Date}

theorem Unclaimed.moved (unclaimed : Unclaimed s ignoredAt w) {i : Fin n} {p : CallPoint}
    (moves : MovesTo s w i p) (notDeleted : ¬ w.HasDeleted) :
    Unclaimed s ignoredAt (w.moved i p) where
  found j id hj := by
    rw [moved_points] at hj
    split_ifs at hj with same
    · exact moves.found id hj
    · exact unclaimed.found j id hj
  early j hj := by
    rw [moved_points] at hj
    split_ifs at hj with same
    · exact moves.early hj notDeleted
    · exact unclaimed.early j hj
  through j message hj := by
    rw [moved_points] at hj
    split_ifs at hj with same
    · exact moves.through (same ▸ message) hj
    · exact unclaimed.through j message hj
  ignored := unclaimed.ignored

theorem Kept.moved (kept : Kept s ignoredAt w) {i : Fin n} {p : CallPoint}
    (moves : MovesTo s w i p) : Kept s ignoredAt (w.moved i p) where
  sound := kept.sound.moved moves.message
  answered j hj := by
    rw [moved_points] at hj
    split_ifs at hj with same
    · exact moves.answered hj
    · exact kept.answered j hj
  parted := kept.parted
  doomed := kept.doomed
  unclaimed notDeleted := (kept.unclaimed notDeleted).moved moves notDeleted

theorem setsBy_of_not_found {i : Fin n} (h : ∀ id, w.points i ≠ .found id) :
    w.setsBy s (some i) = none := by
  cases stands : w.points i with
  | found id => exact absurd stands (h id)
  | _ => simp [setsBy, stands]

/-- A call that has not found the row moves on. -/
theorem Kept.movesOn (kept : Kept s ignoredAt w) {i : Fin n} {p : CallPoint}
    (searching : ∀ id, w.points i ≠ .found id) (moves : MovesTo s w i p) :
    Kept s ((w.setsBy s (some i)).getD ignoredAt) (w.moved i p) := by
  rw [setsBy_of_not_found searching]
  exact kept.moved moves

theorem Kept.answered_done (kept : Kept s ignoredAt w) (i j : Fin n) :
    (w.moved i .done).points j ≠ .failed := by
  rw [moved_points]
  split_ifs
  · simp
  · exact kept.answered j

theorem Unclaimed.early_done (unclaimed : Unclaimed s ignoredAt w) {i j : Fin n}
    (h : (w.moved i .done).points j = .unregistered ∨ (w.moved i .done).points j = .absent) :
    w.device = none := by
  rw [moved_points] at h
  split_ifs at h
  · simp at h
  · exact unclaimed.early j h

/-- A sighting that comes in time is the row. -/
theorem Kept.inserted (kept : Kept s ignoredAt w) {i : Fin n} (stands : w.points i = .absent)
    (missing : w.row = none) (notDeleted : ¬ w.HasDeleted) :
    Kept s ignoredAt
      { w.moved i .done with
        row := (s.calls i).created w.nextId s.dto.deviceId
        nextId := w.nextId + 1 } := by
  have unclaimed := kept.unclaimed notDeleted
  have message := kept.sound.messages i (Or.inr stands)
  obtain ⟨created, hcreated, -, hignored⟩ :=
    ClaimCall.created_of_isMessage message w.nextId s.dto.deviceId
  refine ⟨kept.sound.turned (.inserted i stands missing), kept.answered_done i, fun device => ?_,
    fun entity deleted => ?_,
    fun _ => ⟨fun j id hj => ?_, fun j hj => unclaimed.early_done hj, fun j _ _ => ?_, ?_⟩⟩
  · have absent : w.device = none := unclaimed.early i (Or.inr stands)
    change w.device.isSome at device
    simp [absent] at device
  · change w.registration = .deleted entity at deleted
    exact absurd (by simp [HasDeleted, deleted]) notDeleted
  · change (w.moved i .done).points j = .found id at hj
    rw [moved_points] at hj
    split_ifs at hj
    obtain ⟨row, hrow, -⟩ := unclaimed.found j id hj
    exact absurd (missing.symm.trans hrow) (by simp)
  · exact Or.inr (by simp [hcreated])
  · have before := unclaimed.ignored
    rw [missing] at before
    simp [hcreated, hignored, ← before]

/-- An update finds its row, unless the registration has deleted it. -/
theorem Kept.updated (kept : Kept s ignoredAt w) {i : Fin n} {id : Nat}
    (stands : w.points i = .found id) (unlocked : w.doomed ≠ some id) :
    Kept s ((s.calls i).sets.getD ignoredAt)
      { w.moved i .done with
        row := w.row.map fun row => if row.id = id then (s.calls i).update row else row } := by
  have sameId : ∀ row, (if row.id = id then (s.calls i).update row else row).id = row.id := by
    intro row
    split <;> simp
  refine ⟨kept.sound.turned (.updated i id stands unlocked), kept.answered_done i,
    fun device => ?_, fun entity deleted => ?_, fun notDeleted => ?_⟩
  · simp [kept.parted device]
  · change w.doomed = _
    rw [kept.doomed entity deleted, Option.map_map]
    exact congrArg (Option.map · w.row) (funext fun row => (sameId row).symm)
  · have unclaimed := kept.unclaimed notDeleted
    obtain ⟨row, hrow, hid⟩ := unclaimed.found i id stands
    refine ⟨fun j id' hj => ?_, fun j hj => unclaimed.early_done hj, fun j _ _ => ?_, ?_⟩
    · change (w.moved i .done).points j = .found id' at hj
      rw [moved_points] at hj
      split_ifs at hj
      obtain ⟨row', hrow', hid'⟩ := unclaimed.found j id' hj
      exact ⟨_, by simp only [hrow', Option.map_some], (sameId row').trans hid'⟩
    · exact Or.inr (by simp [hrow])
    · have before := unclaimed.ignored
      rw [hrow] at before
      simp only [hrow, Option.map_some, if_pos hid, Option.bind_some]
      rw [ClaimCall.update_ignoredAt, ← before]
      rfl

/-- The registration goes on before its deletion. -/
theorem Kept.registration (kept : Kept s ignoredAt w) {r : RegistrationPoint}
    (notDeleted : ¬ w.HasDeleted) (early : ∀ entity, r ≠ .deleted entity)
    (sound : Sound s { w with registration := r }) :
    Kept s ignoredAt { w with registration := r } where
  sound := sound
  answered := kept.answered
  parted := kept.parted
  doomed entity deleted := absurd deleted (early entity)
  unclaimed _ :=
    have unclaimed := kept.unclaimed notDeleted
    ⟨unclaimed.found, unclaimed.early, unclaimed.through, unclaimed.ignored⟩

theorem Kept.turned (kept : Kept s ignoredAt w) (spares : w.Spares t) (turned : Turned s w t w') :
    Kept s ((w.setsBy s t).getD ignoredAt) w' := by
  have sound := kept.sound.turned turned
  cases turned with
  | idle t silent => simpa [silent] using kept
  | answered i stands claimed =>
    exact kept.movesOn (by simp [stands])
      ⟨by simp, by simp, fun message _ => Or.inl (claimed message), by simp, by simp⟩
  | unregistered i stands message device =>
    exact kept.movesOn (by simp [stands])
      ⟨by simp, fun _ _ => device, by simp, fun _ => message, by simp⟩
  | absent i stands missing =>
    exact kept.movesOn (by simp [stands])
      ⟨by simp, fun _ h => (kept.unclaimed h).early i (Or.inl stands), by simp,
        fun _ => kept.sound.messages i (Or.inl stands), by simp⟩
  | found i row stands found =>
    have searching : ∀ id, w.points i ≠ .found id := by
      rcases stands with stands | stands <;> simp [stands]
    exact kept.movesOn searching
      ⟨fun id h => ⟨row, found, CallPoint.found.inj h⟩, by simp, by simp, by simp, by simp⟩
  | inserted i stands missing =>
    rw [setsBy_of_not_found (by simp [stands])]
    exact kept.inserted stands missing (spares stands).2
  | failed i row stands taken unlocked =>
    -- the unique index refuses the sighting only where another one came first
    have missing := (spares stands).1
    rw [missing] at taken
    cases taken
  | updated i id stands unlocked =>
    have set : w.setsBy s (some i) = (s.calls i).sets := by simp [setsBy, stands, unlocked]
    rw [set]
    exact kept.updated stands unlocked
  | refused stands => exact kept.registration (by simp [HasDeleted, stands]) (by simp) sound
  | checked entity stands own free =>
    exact kept.registration (by simp [HasDeleted, stands]) (by simp) sound
  | saved entity stands => exact kept.registration (by simp [HasDeleted, stands]) (by simp) sound
  | deleted entity stands =>
    -- from here on nothing is said about the row: it goes with the commit
    exact ⟨sound, kept.answered, kept.parted, fun _ _ => rfl, fun h => absurd trivial h⟩
  | committed entity stands =>
    refine ⟨sound, kept.answered, fun _ => ?_, fun _ h => (by cases h), fun h => absurd trivial h⟩
    rw [kept.doomed entity stands]
    cases w.row <;> simp [Option.filter_some]

/-! ## After a sighting that comes too late -/

/-- A message has failed; or the row is deleted and there is another one, or is to be. -/
def Late (w : ClaimWorld n) : Prop :=
  (∃ i, w.points i = .failed) ∨
    (w.HasDeleted ∧
      ((∃ row, w.row = some row ∧ w.doomed ≠ some row.id) ∨ ∃ i, w.points i = .absent))

/-- A failure stays. -/
theorem failed_turned (turned : Turned s w t w') {i : Fin n} (failed : w.points i = .failed) :
    w'.points i = .failed := by
  cases turned with
  | idle | refused | checked | saved | deleted | committed => exact failed
  | answered j stands | unregistered j stands | absent j stands | inserted j stands
  | failed j row stands | updated j id stands =>
    have hne : i ≠ j := by
      rintro rfl
      cases failed.symm.trans stands
    show Function.update w.points j _ i = .failed
    rwa [Function.update_of_ne hne]
  | found j row stands =>
    have hne : i ≠ j := by
      rintro rfl
      rcases stands with stands | stands <;> cases failed.symm.trans stands
    show Function.update w.points j _ i = .failed
    rwa [Function.update_of_ne hne]

theorem hasDeleted_turned (turned : Turned s w t w') (deleted : w.HasDeleted) :
    w'.HasDeleted := by
  cases turned with
  | refused stands | checked entity stands | saved entity stands =>
    simp [HasDeleted, stands] at deleted
  | deleted | committed => trivial
  | _ => exact deleted

/-- After the deletion, a row that is not locked stays. -/
theorem row_turned (turned : Turned s w t w') (deleted : w.HasDeleted)
    {row : UnclaimedDeviceEntity} (hrow : w.row = some row) (unlocked : w.doomed ≠ some row.id) :
    ∃ row', w'.row = some row' ∧ w'.doomed ≠ some row'.id := by
  cases turned with
  | inserted i stands missing => exact absurd (missing.symm.trans hrow) (by simp)
  | updated i id stands unlocked' =>
    refine ⟨_, congrArg (Option.map _) hrow, ?_⟩
    show w.doomed ≠ some (if row.id = id then (s.calls i).update row else row).id
    split <;> simpa using unlocked
  | refused stands | checked entity stands | saved entity stands | deleted entity stands =>
    simp [HasDeleted, stands] at deleted
  | committed entity stands =>
    refine ⟨row, ?_, by simp⟩
    simp [hrow, Option.filter_some, unlocked]
  | _ => exact ⟨row, hrow, unlocked⟩

/-- After the deletion, a message that is about to insert inserts or fails. -/
theorem absent_turned (sound : Sound s w) (turned : Turned s w t w') {i : Fin n}
    (absent : w.points i = .absent) :
    w'.points i = .absent ∨ w'.points i = .failed ∨
      ∃ row, w'.row = some row ∧ w'.doomed ≠ some row.id := by
  -- the turn of another call leaves it where it is
  have other : ∀ {j : Fin n} {p : CallPoint}, i ≠ j → Function.update w.points j p i = .absent := by
    intro j p hne
    rwa [Function.update_of_ne hne]
  cases turned with
  | idle | refused | checked | saved | deleted | committed => exact Or.inl absent
  | answered j stands | unregistered j stands | absent j stands | updated j id stands =>
    refine Or.inl (other ?_)
    rintro rfl
    cases absent.symm.trans stands
  | found j row stands =>
    refine Or.inl (other ?_)
    rintro rfl
    rcases stands with stands | stands <;> cases absent.symm.trans stands
  | inserted j stands missing =>
    -- the new row has a new id, so it is not the one that goes with the commit
    obtain ⟨created, hcreated, hid, -⟩ := ClaimCall.created_of_isMessage
      (sound.messages j (Or.inr stands)) w.nextId s.dto.deviceId
    refine Or.inr (Or.inr ⟨created, hcreated, fun doomed => ?_⟩)
    have old := sound.doomedOld created.id doomed
    rw [hid] at old
    exact lt_irrefl _ old
  | failed j row stands =>
    rcases eq_or_ne i j with rfl | hne
    · exact Or.inr (Or.inl (Function.update_self _ _ _))
    · exact Or.inl (other hne)

theorem Late.turned (late : w.Late) (sound : Sound s w) (turned : Turned s w t w') : w'.Late := by
  rcases late with ⟨i, failed⟩ | ⟨deleted, ⟨row, hrow, unlocked⟩ | ⟨i, absent⟩⟩
  · exact Or.inl ⟨i, failed_turned turned failed⟩
  · exact Or.inr ⟨hasDeleted_turned turned deleted,
      Or.inl (row_turned turned deleted hrow unlocked)⟩
  · rcases absent_turned sound turned absent with absent | failed | row
    · exact Or.inr ⟨hasDeleted_turned turned deleted, Or.inr ⟨i, absent⟩⟩
    · exact Or.inl ⟨i, failed⟩
    · exact Or.inr ⟨hasDeleted_turned turned deleted, Or.inl row⟩

/-- A turn that spares nothing comes too late. -/
theorem late_of_not_spares (sound : Sound s w) (late : ¬ w.Spares t) : (w.fire s t).Late := by
  cases t with
  | none => exact absurd trivial late
  | some i =>
    obtain ⟨absent, hlate⟩ := Classical.not_imp.mp late
    by_cases deleted : w.HasDeleted
    · have already : w.Late := Or.inr ⟨deleted, Or.inr ⟨i, absent⟩⟩
      exact already.turned sound (turned_fire s w (some i))
    · obtain ⟨row, hrow⟩ := Option.ne_none_iff_exists'.mp fun missing => hlate ⟨missing, deleted⟩
      have unlocked : w.doomed = none :=
        sound.unlocked fun entity h => deleted (by simp [HasDeleted, h])
      refine Or.inl ⟨i, ?_⟩
      show (w.callTurn s i).points i = .failed
      simp [callTurn, absent, hrow, unlocked]

/-! ## Runs -/

theorem Late.run (late : w.Late) (sound : Sound s w) (sched : List (Option (Fin n))) :
    (Run.exec (fire s) w sched).Late := by
  have keeps : ∀ w t, Sound s w ∧ w.Late → Sound s (w.fire s t) ∧ (w.fire s t).Late :=
    fun w t ⟨sound, late⟩ =>
      ⟨sound.turned (turned_fire s w t), late.turned sound (turned_fire s w t)⟩
  exact (Run.invariant keeps ⟨sound, late⟩ sched).2

theorem Late.not_exclusive (late : w.Late) (finished : w.Finished) (sound : Sound s w) :
    ¬ Exclusive s ignoredAt w := by
  rintro ⟨answered, registered, -⟩
  rcases late with ⟨i, failed⟩ | ⟨deleted, ⟨row, hrow, -⟩ | ⟨i, absent⟩⟩
  · exact answered i failed
  · have committed : w.registration = .committed := by
      rcases finished.registration with committed | refused
      · exact committed
      · simp [HasDeleted, refused] at deleted
    exact absurd (hrow.symm.trans (registered (sound.committed committed))) (by simp)
  · rcases finished.calls i with done | failed
    · cases absent.symm.trans done
    · cases absent.symm.trans failed

theorem Kept.run (kept : Kept s ignoredAt w) {sched : List (Option (Fin n))}
    (spares : Run.Meets (fire s) Spares w sched) :
    Kept s ((w.lastSet s sched).getD ignoredAt) (Run.exec (fire s) w sched) := by
  induction sched generalizing w ignoredAt with
  | nil => exact kept
  | cons t sched ih =>
    have next := ih (kept.turned spares.1 (turned_fire s w t)) spares.2
    rw [lastSet, Option.getD_or]
    exact next

theorem Kept.exclusive (kept : Kept s ignoredAt w) (finished : w.Finished) :
    Exclusive s ignoredAt w := by
  refine ⟨kept.answered, kept.parted, fun device ⟨i, message⟩ => ?_⟩
  have notDeleted : ¬ w.HasDeleted := by
    rcases finished.registration with committed | refused
    · have := kept.sound.committed committed
      simp [device] at this
    · simp [HasDeleted, refused]
  have unclaimed := kept.unclaimed notDeleted
  have done : w.points i = .done := (finished.calls i).resolve_right (kept.answered i)
  have present := (unclaimed.through i message done).resolve_left (by simp [device])
  obtain ⟨row, hrow⟩ := Option.isSome_iff_exists.mp present
  have ignored := unclaimed.ignored
  rw [hrow] at ignored
  exact ⟨row, hrow, ignored⟩

theorem late_of_not_meets (sound : Sound s w) {sched : List (Option (Fin n))}
    (late : ¬ Run.Meets (fire s) Spares w sched) : (Run.exec (fire s) w sched).Late := by
  induction sched generalizing w with
  | nil => exact absurd trivial late
  | cons t sched ih =>
    have next := sound.turned (turned_fire s w t)
    by_cases first : w.Spares t
    · exact ih next fun rest => late ⟨first, rest⟩
    · exact (late_of_not_spares sound first).run next sched

/-- The registration is refused, or will be, for a device that has a row. -/
structure Both (w : ClaimWorld n) : Prop where
  device : w.device.isSome
  row : w.row.isSome
  refused : w.registration = .called ∨ w.registration = .refused

theorem Both.turned (both : w.Both) (sound : Sound s w) (turned : Turned s w t w') : w'.Both := by
  obtain ⟨device, row, refused⟩ := both
  cases turned with
  | inserted i stands missing => simp [missing] at row
  | updated i id stands unlocked => exact ⟨device, by simpa using row, refused⟩
  | refused stands => exact ⟨device, row, Or.inr rfl⟩
  | checked entity stands own free => simp [sound.device_eq_none free] at device
  | saved entity stands | deleted entity stands | committed entity stands =>
    rcases refused with refused | refused <;> cases stands.symm.trans refused
  | _ => exact ⟨device, row, refused⟩

theorem Both.run (both : w.Both) (sound : Sound s w) (sched : List (Option (Fin n))) :
    (Run.exec (fire s) w sched).Both := by
  have keeps : ∀ w t, Sound s w ∧ w.Both → Sound s (w.fire s t) ∧ (w.fire s t).Both :=
    fun w t ⟨sound, both⟩ =>
      ⟨sound.turned (turned_fire s w t), both.turned sound (turned_fire s w t)⟩
  exact (Run.invariant keeps ⟨sound, both⟩ sched).2

theorem Both.not_exclusive (both : w.Both) : ¬ Exclusive s ignoredAt w := by
  intro exclusive
  have row := both.row
  simp [exclusive.registered both.device] at row

end ClaimWorld

/-- What is stored for the device id before the calls. -/
structure ClaimTables (deviceId : String) where
  device : Option DeviceEntity
  row : Option UnclaimedDeviceEntity
  own : ∀ d, device = some d → d.deviceId = deviceId

open ClaimWorld

variable {n : Nat}

/-- No call has begun. -/
def ClaimTables.start {deviceId : String} (tables : ClaimTables deviceId) (n : Nat) :
    ClaimWorld n where
  device := tables.device
  row := tables.row
  doomed := none
  nextId := (tables.row.map (·.id + 1)).getD 0
  points _ := .called
  registration := .called

theorem sound_start (s : ClaimSetting n) (tables : ClaimTables s.dto.deviceId) :
    Sound s (tables.start n) where
  rowOld row hrow := by
    change tables.row = some row at hrow
    simp [ClaimTables.start, hrow]
  doomedOld id h := by cases h
  messages i h := by simp [ClaimTables.start] at h
  locked h := by cases h
  own := tables.own
  underway entity h := by cases h
  committed h := by cases h

theorem kept_start (s : ClaimSetting n) (tables : ClaimTables s.dto.deviceId)
    (parted : tables.device.isSome → tables.row = none) :
    Kept s (tables.row.bind (·.ignoredAt)) (tables.start n) where
  sound := sound_start s tables
  answered i h := by cases h
  parted := parted
  doomed _ h := by cases h
  unclaimed _ :=
    { found := fun i id h => by cases h
      early := fun i h => by simp [ClaimTables.start] at h
      through := fun i _ h => by cases h
      ignored := rfl }

/-- For any calls and a registration, from any rows, under any schedule that lets them end:
the device id is registered or unclaimed and no message fails exactly when it was not both
before and no sighting is inserted too late. -/
theorem claim_exclusive_iff (s : ClaimSetting n) (tables : ClaimTables s.dto.deviceId)
    {sched : List (Option (Fin n))}
    (finished : (Run.exec (fire s) (tables.start n) sched).Finished) :
    ClaimWorld.Exclusive s
        (((tables.start n).lastSet s sched).getD (tables.row.bind (·.ignoredAt)))
        (Run.exec (fire s) (tables.start n) sched) ↔
      (tables.device.isSome → tables.row = none) ∧
        Run.Meets (fire s) ClaimWorld.Spares (tables.start n) sched := by
  have start := sound_start s tables
  constructor
  · intro exclusive
    refine ⟨fun device => ?_, ?_⟩
    · by_contra row
      have both : (tables.start n).Both :=
        ⟨device, Option.isSome_iff_ne_none.mpr row, Or.inl rfl⟩
      exact (both.run start sched).not_exclusive exclusive
    · by_contra late
      have sound := Run.invariant (fun w t sound => sound.turned (turned_fire s w t)) start sched
      exact (late_of_not_meets start late).not_exclusive finished sound exclusive
  · rintro ⟨parted, spares⟩
    exact ((kept_start s tables parted).run spares).exclusive finished

/-- Two messages of a device that nobody has registered, and a registration without a
template. -/
def twoSightings : ClaimSetting 2 where
  calls i := .message .telemetry (some "{}") i
  id := "1"
  now := 0
  userId := "u1"
  factoryId := none
  dto := { deviceId := "d1", templateId := "t1", name := "Pump", isActive := none }
  templates := []

def noRows : ClaimTables "d1" where
  device := none
  row := none
  own _ h := by cases h

/-- Both look before the other inserts, and the second fails. -/
theorem second_sighting_fails :
    (Run.exec (fire twoSightings) (noRows.start 2)
        [none, some 0, some 1, some 0, some 1, some 0, some 1]).Finished ∧
      ¬ ClaimWorld.Exclusive twoSightings
        (((noRows.start 2).lastSet twoSightings
          [none, some 0, some 1, some 0, some 1, some 0, some 1]).getD
            (noRows.row.bind (·.ignoredAt)))
        (Run.exec (fire twoSightings) (noRows.start 2)
          [none, some 0, some 1, some 0, some 1, some 0, some 1]) := by
  refine ⟨⟨Fin.forall_fin_two.mpr ⟨Or.inl rfl, Or.inr rfl⟩, Or.inr rfl⟩, fun exclusive => ?_⟩
  exact exclusive.answered 1 rfl

theorem claim_exclusive_iff_twoSightings :
    ClaimWorld.Exclusive twoSightings
        (((noRows.start 2).lastSet twoSightings
          [none, some 0, some 0, some 0, some 1, some 1, some 1]).getD
            (noRows.row.bind (·.ignoredAt)))
        (Run.exec (fire twoSightings) (noRows.start 2)
          [none, some 0, some 0, some 0, some 1, some 1, some 1]) ↔
      (noRows.device.isSome → noRows.row = none) ∧
        Run.Meets (fire twoSightings) ClaimWorld.Spares (noRows.start 2)
          [none, some 0, some 0, some 0, some 1, some 1, some 1] := by
  have finished : (Run.exec (fire twoSightings) (noRows.start 2)
      [none, some 0, some 0, some 0, some 1, some 1, some 1]).Finished :=
    ⟨Fin.forall_fin_two.mpr ⟨Or.inl rfl, Or.inl rfl⟩, Or.inr rfl⟩
  exact claim_exclusive_iff twoSightings noRows finished

end AiotCloud
