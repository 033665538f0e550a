import Mathlib.Data.List.Basic
import AiotCloud.DeviceMessages
import AiotCloud.DeviceRegistry
import AiotCloud.Lib.Run

/-!
# The live feed

Sockets and SSE streams get the events of the devices they asked for. Access is checked
when a device is asked for, by its row id; events are sent by physical id, to a room or
through the map of the stream. Between the lookup of a request and its effect, and between
the lookup of a handler and its event, anything else can happen.

* `events_named`: a handler emits only for a row it found.
* `FeedWorld.Sound`: what holds in every state. An id that was ever found belongs to one
  physical id and stays in the scope of the one who asked, since rows are registered with
  fresh ids and never move.
-/

namespace AiotCloud

/-! ## What is asked for -/

/-- The claims of an access token. -/
structure SocketData where
  userId : String
  role : RoleType
  factoryId : Option String
deriving DecidableEq, Repr

/-- While the token is being verified the socket has no claims: the scope is then
`{ userId: undefined }`, which filters nothing. -/
def resolveScopeFromSocketData : Option SocketData → AccessScope
  | none => .unrestricted
  | some data => resolveAccessScope data.userId data.role data.factoryId

/-- `Pick<DeviceEntity, 'id' | 'deviceId'>`. -/
structure DeviceIds where
  id : String
  deviceId : String
deriving DecidableEq, Repr

def DeviceEntity.ids (device : DeviceEntity) : DeviceIds := ⟨device.id, device.deviceId⟩

def resolveOwnedDeviceByEntityId (devices : List DeviceEntity) (scope : AccessScope)
    (entityId : String) : Option DeviceIds :=
  (findInScope devices scope entityId).map (·.ids)

/-- The map from physical ids, as the list of its entries. -/
def resolveEntityIdByPhysicalDeviceId (devices : List DeviceEntity) (scope : AccessScope)
    (entityIds : List String) : List DeviceIds :=
  (devices.filter fun device => entityIds.contains device.id && scope.admits device).map (·.ids)

/-! ## Events -/

/-- The physical id. -/
def DeviceEvent.deviceId : DeviceEvent → String
  | .telemetry deviceId .. => deviceId
  | .status deviceId .. => deviceId
  | .channelState deviceId .. => deviceId
  | .actionResult deviceId .. => deviceId
  | .otaStatus deviceId .. => deviceId

/-- `{ ...event, deviceId }`. -/
def DeviceEvent.withDeviceId (deviceId : String) : DeviceEvent → DeviceEvent
  | .telemetry _ payload recordedAt => .telemetry deviceId payload recordedAt
  | .status _ now changedAt => .status deviceId now changedAt
  | .channelState _ channelStates changedAt => .channelState deviceId channelStates changedAt
  | .actionResult _ key value ok error changedAt =>
    .actionResult deviceId key value ok error changedAt
  | .otaStatus _ now version progress error changedAt =>
    .otaStatus deviceId now version progress error changedAt

@[simp] theorem DeviceEvent.deviceId_withDeviceId (deviceId : String) (event : DeviceEvent) :
    (event.withDeviceId deviceId).deviceId = deviceId := by
  cases event <;> rfl

/-- A handler emits only for a row it found, under the physical id it was given. -/
theorem events_named (now : Date) (deviceId : String) (payload : Json)
    (envelope : DeviceChannelEventPayload) (found : Option DeviceEntity) :
    (∀ event ∈ (recordTelemetry now deviceId payload found).events,
      event.deviceId = deviceId ∧ found.isSome) ∧
    (∀ event ∈ (handleDeviceStatusMessage now deviceId payload found).events,
      event.deviceId = deviceId ∧ found.isSome) ∧
    (∀ event ∈ (handleDeviceChannelEvent now deviceId envelope found).events,
      event.deviceId = deviceId ∧ found.isSome) := by
  cases found with
  | none => simp [recordTelemetry, handleDeviceStatusMessage, handleDeviceChannelEvent]
  | some device =>
    have online : ∀ event ∈ cameOnline device deviceId now, event.deviceId = deviceId := by
      unfold cameOnline
      split <;> simp [DeviceEvent.deviceId]
    refine ⟨fun event hevent => ⟨?_, rfl⟩, fun event hevent => ⟨?_, rfl⟩,
      fun event hevent => ⟨?_, rfl⟩⟩
    · rcases List.mem_cons.mp hevent with rfl | hevent
      · rfl
      · exact online event hevent
    · unfold handleDeviceStatusMessage at hevent
      dsimp only at hevent
      cases hstatus : parseStatusPayload payload with
      | none =>
        rw [hstatus] at hevent
        cases hevent
      | some status =>
        rw [hstatus] at hevent
        dsimp only at hevent
        split at hevent
        · obtain rfl := List.mem_singleton.mp hevent
          rfl
        · cases hevent
    · unfold handleDeviceChannelEvent at hevent
      dsimp only at hevent
      split at hevent
      · rcases List.mem_append.mp hevent with hevent | hevent
        · split at hevent
          · obtain rfl := List.mem_singleton.mp hevent
            rfl
          · cases hevent
        · exact online event hevent
      · split at hevent
        · rcases List.mem_append.mp hevent with hevent | hevent
          · rcases List.mem_cons.mp hevent with rfl | hevent
            · rfl
            · obtain rfl := List.mem_singleton.mp hevent
              rfl
          · exact online event hevent
        · cases hevent

/-! ## Sockets and streams -/

/-- A `subscribe:device` request after its lookup: the claims it had, and the row found. -/
structure Subscription where
  data : Option SocketData
  found : DeviceIds
deriving DecidableEq, Repr

/-- `token` is what the token verifies to, `data` what the gateway has verified. -/
structure Socket where
  token : Option SocketData
  data : Option SocketData := none
  connected : Bool := true
  rooms : List String := []
  subscribing : List Subscription := []
deriving DecidableEq, Repr

namespace Socket

/-- The scope of the claims of its token. -/
def scope (s : Socket) : Option AccessScope :=
  s.token.map fun claims => resolveScopeFromSocketData (some claims)

def InRoom (s : Socket) (deviceId : String) : Prop := s.connected = true ∧ deviceId ∈ s.rooms

instance (s : Socket) (deviceId : String) : Decidable (s.InRoom deviceId) :=
  inferInstanceAs (Decidable (_ ∧ _))

def disconnect (s : Socket) : Socket := { s with connected := false, rooms := [] }

/-- The end of `handleConnection`. -/
def verify (s : Socket) : Socket :=
  match s.token with
  | some claims => { s with data := some claims }
  | none => s.disconnect

/-- `handleSubscribeDevice` up to the answer of its lookup. -/
def subscribe (devices : List DeviceEntity) (entityId : String) (s : Socket) : Socket :=
  if s.connected then
    match resolveOwnedDeviceByEntityId devices (resolveScopeFromSocketData s.data) entityId with
    | some found => { s with subscribing := s.subscribing ++ [⟨s.data, found⟩] }
    | none => s
  else s

/-- The rest of it. A socket that has disconnected joins no room. -/
def join (k : Nat) (deviceId : String) (s : Socket) : Socket :=
  { s with
    subscribing := s.subscribing.eraseIdx k
    rooms := if s.connected then s.rooms ++ [deviceId] else s.rooms }

end Socket

inductive StreamState where
  | opening
  | live
  | closed
deriving DecidableEq, Repr

structure SseStream where
  scope : AccessScope
  entityIdByPhysicalDeviceId : List DeviceIds
  state : StreamState := .opening
deriving DecidableEq, Repr

namespace SseStream

def get (s : SseStream) (deviceId : String) : Option String :=
  (s.entityIdByPhysicalDeviceId.find? (·.deviceId = deviceId)).map (·.id)

/-- The entity id under which the stream sends the events of a physical id. -/
def sends (s : SseStream) (deviceId : String) : Option String :=
  if s.state = .live then s.get deviceId else none

/-- `switchMap`, unless the client has gone. -/
def start (s : SseStream) : SseStream :=
  if s.state = .opening then { s with state := .live } else s

def close (s : SseStream) : SseStream := { s with state := .closed }

theorem mem_of_get {s : SseStream} {deviceId id : String} (h : s.get deviceId = some id) :
    ⟨id, deviceId⟩ ∈ s.entityIdByPhysicalDeviceId := by
  obtain ⟨found, hfind, rfl⟩ := Option.map_eq_some_iff.mp h
  have same : found.deviceId = deviceId := by simpa using List.find?_some hfind
  obtain rfl := same
  exact List.mem_of_find?_eq_some hfind

theorem get_of_sends {s : SseStream} {deviceId id : String} (h : s.sends deviceId = some id) :
    s.get deviceId = some id := by
  unfold sends at h
  split_ifs at h
  exact h

end SseStream

/-- An event that is sent, with the scope of the one who gets it. -/
structure Delivery where
  scope : Option AccessScope
  event : DeviceEvent

/-- `handling` has the events whose handlers have found their row and have not emitted yet.
`issued` has every row id that was ever generated. -/
structure FeedWorld where
  devices : List DeviceEntity
  templates : List DeviceTemplateEntity
  issued : List String
  sockets : List Socket := []
  physicalToEntityId : Record String := ∅
  streams : List SseStream := []
  handling : List DeviceEvent := []

inductive FeedEvent where
  | connect (token : Option SocketData)
  | verify (n : Nat)
  | disconnect (n : Nat)
  | subscribeDevice (n : Nat) (entityId : String)
  | join (n k : Nat)
  | streamDeviceEvents (account : SocketData) (deviceIds : List String)
  | startStream (n : Nat)
  | closeStream (n : Nat)
  | registerDevice (id : String) (now : Date) (userId : String) (factoryId : Option String)
      (dto : RegisterDeviceDto)
  | deleteDevice (userId id : String)
  | receive (event : DeviceEvent)
  | emit (k : Nat)

namespace FeedWorld

/-- The forwarders of `AppGateway`, which differ in the kind of event only. -/
def forward (w : FeedWorld) (event : DeviceEvent) : List Delivery :=
  let deviceId := (w.physicalToEntityId.lookup event.deviceId).getD event.deviceId
  (w.sockets.filter fun s => s.InRoom event.deviceId).map fun s =>
    ⟨s.scope, event.withDeviceId deviceId⟩

/-- What is sent when the event is emitted. -/
def deliveries (w : FeedWorld) (event : DeviceEvent) : List Delivery :=
  w.forward event ++ w.streams.filterMap fun s =>
    (s.sends event.deviceId).map fun id => ⟨some s.scope, event.withDeviceId id⟩

def step (w : FeedWorld) : FeedEvent → FeedWorld
  | .connect token => { w with sockets := w.sockets ++ [{ token }] }
  | .verify n => { w with sockets := w.sockets.modify n Socket.verify }
  | .disconnect n => { w with sockets := w.sockets.modify n Socket.disconnect }
  | .subscribeDevice n entityId =>
    { w with sockets := w.sockets.modify n (Socket.subscribe w.devices entityId) }
  | .join n k =>
    match w.sockets[n]?.bind (·.subscribing[k]?) with
    | none => w
    | some ⟨_, found⟩ =>
      { w with
        physicalToEntityId := w.physicalToEntityId.insert found.deviceId found.id
        sockets := w.sockets.modify n (Socket.join k found.deviceId) }
  | .streamDeviceEvents account deviceIds =>
    let scope := resolveAccessScope account.userId account.role account.factoryId
    { w with
      streams := w.streams ++
        [{ scope, entityIdByPhysicalDeviceId :=
          resolveEntityIdByPhysicalDeviceId w.devices scope deviceIds }] }
  | .startStream n => { w with streams := w.streams.modify n SseStream.start }
  | .closeStream n => { w with streams := w.streams.modify n SseStream.close }
  | .registerDevice id now userId factoryId dto =>
    -- a generated id is none that any row ever had
    if w.issued.contains id then w
    else
      { w with
        devices := afterRegister id now userId factoryId dto w.templates w.devices
        issued := id :: w.issued }
  | .deleteDevice userId id => { w with devices := afterDelete userId id w.devices }
  | .receive event =>
    if (findByDeviceId w.devices event.deviceId).isSome then
      { w with handling := w.handling ++ [event] }
    else w
  | .emit k => { w with handling := w.handling.eraseIdx k }

/-- An event of the physical id can be emitted: a row is there to be found, or was found. -/
def Live (w : FeedWorld) (deviceId : String) : Prop :=
  (∃ row, findByDeviceId w.devices deviceId = some row) ∨
    ∃ event ∈ w.handling, event.deviceId = deviceId

/-- The scope admits the row registered under the physical id, and `id` is that of the row. -/
def Shown (devices : List DeviceEntity) (deviceId : String) (scope : Option AccessScope)
    (id : String) : Prop :=
  ∃ row, findByDeviceId devices deviceId = some row ∧
    (∃ admitting, scope = some admitting ∧ admitting.admits row = true) ∧ id = row.id

/-- Every event that can be emitted is sent only to those with access to the row registered
under its physical id, and names that row. -/
def Confined (w : FeedWorld) : Prop :=
  ∀ event, w.Live event.deviceId → ∀ d ∈ w.deliveries event,
    Shown w.devices event.deviceId d.scope d.event.deviceId

/-- Someone is sent the events of the physical id. -/
def Followed (w : FeedWorld) (deviceId : String) : Prop :=
  (∃ s ∈ w.sockets, s.InRoom deviceId) ∨ ∃ s ∈ w.streams, s.sends deviceId ≠ none

/-- The row of the id is registered under the physical id. -/
def StillThere (w : FeedWorld) (found : DeviceIds) : Prop :=
  ∃ row, findByDeviceId w.devices found.deviceId = some row ∧ row.id = found.id

/-- The step changes no row under those who follow it: nothing is registered under a physical
id that is followed, no followed device is deleted while an event of it is being handled,
and a subscription or a stream starts only on the row that its lookup found. Where a socket
asked before its token was verified, its token must give access to the row. -/
def Spares (w : FeedWorld) : FeedEvent → Prop
  | .registerDevice id now userId factoryId dto => w.issued.contains id = false →
      ∀ row, (registerDevice id now userId factoryId dto w.templates w.devices).2 = some row →
        ¬ w.Followed row.deviceId
  | .deleteDevice userId id => ∀ device, findOwnedDevice w.devices userId id = some device →
      (∃ event ∈ w.handling, event.deviceId = device.deviceId) → ¬ w.Followed device.deviceId
  | .join n k => ∀ s, w.sockets[n]? = some s → ∀ sub, s.subscribing[k]? = some sub →
      w.Live sub.found.deviceId →
        ((∃ other ∈ w.sockets, other.InRoom sub.found.deviceId) → w.StillThere sub.found) ∧
        (s.connected = true → w.StillThere sub.found ∧ (sub.data = none →
          ∃ scope row, s.scope = some scope ∧
            findByDeviceId w.devices sub.found.deviceId = some row ∧ scope.admits row = true))
  | .startStream n => ∀ s, w.streams[n]? = some s → s.state = .opening →
      ∀ deviceId id, s.get deviceId = some id → w.Live deviceId → w.StillThere ⟨id, deviceId⟩
  | _ => True

end FeedWorld

/-! ## Lists of sockets and streams -/

section Modify

variable {α : Type} {xs : List α} {n : Nat} {f : α → α} {x : α}

theorem mem_modify_cases (h : x ∈ xs.modify n f) : x ∈ xs ∨ ∃ y, xs[n]? = some y ∧ x = f y := by
  obtain ⟨k, hk⟩ := List.mem_iff_getElem?.mp h
  rw [List.getElem?_modify] at hk
  obtain ⟨y, hy, rfl⟩ := Option.map_eq_some_iff.mp hk
  split_ifs with heq
  · exact Or.inr ⟨y, heq ▸ hy, rfl⟩
  · exact Or.inl (List.mem_of_getElem? hy)

theorem mem_modify_self {y : α} (h : xs[n]? = some y) : f y ∈ xs.modify n f := by
  refine List.mem_of_getElem? (i := n) ?_
  rw [List.getElem?_modify_eq, h]
  rfl

theorem mem_modify_of_mem (h : x ∈ xs) : x ∈ xs.modify n f ∨ xs[n]? = some x := by
  obtain ⟨k, hk⟩ := List.mem_iff_getElem?.mp h
  rcases eq_or_ne n k with rfl | hne
  · exact Or.inr hk
  · refine Or.inl (List.mem_of_getElem? (i := k) ?_)
    rw [List.getElem?_modify_ne _ _ hne, hk]

theorem forall_mem_modify {P : α → Prop} (h : ∀ x ∈ xs, P x) (keeps : ∀ x, P x → P (f x)) :
    ∀ x ∈ xs.modify n f, P x := by
  intro x hx
  rcases mem_modify_cases hx with hx | ⟨y, hy, rfl⟩
  · exact h x hx
  · exact keeps y (h y (List.mem_of_getElem? hy))

end Modify

/-! ## Soundness -/

/-- The row of the id, if it is still there, is under this physical id and in the scope. -/
structure Granted (devices : List DeviceEntity) (issued : List String) (scope : AccessScope)
    (found : DeviceIds) : Prop where
  issued : found.id ∈ issued
  admits : ∀ row ∈ devices, row.id = found.id →
    row.deviceId = found.deviceId ∧ scope.admits row = true

structure Socket.Sound (devices : List DeviceEntity) (issued : List String)
    (physicalToEntityId : Record String) (s : Socket) : Prop where
  claims : ∀ claims, s.data = some claims → s.token = some claims
  rooms : ∀ deviceId ∈ s.rooms, ∃ id ∈ issued, physicalToEntityId.lookup deviceId = some id
  asked : ∀ sub ∈ s.subscribing, (∀ claims, sub.data = some claims → s.token = some claims) ∧
    Granted devices issued (resolveScopeFromSocketData sub.data) sub.found

structure FeedWorld.Sound (w : FeedWorld) : Prop where
  keys : Keys w.devices
  ids : ∀ device ∈ w.devices, device.id ∈ w.issued
  sockets : ∀ s ∈ w.sockets, s.Sound w.devices w.issued w.physicalToEntityId
  streams : ∀ s ∈ w.streams, ∀ found ∈ s.entityIdByPhysicalDeviceId,
    Granted w.devices w.issued s.scope found

section Sound

variable {devices devices' : List DeviceEntity} {issued issued' : List String}
  {physicalToEntityId : Record String} {scope : AccessScope} {found : DeviceIds} {s : Socket}
  {w : FeedWorld}

/-- A row is found in the scope of the lookup. -/
theorem granted_ids (keys : Keys devices) (ids : ∀ device ∈ devices, device.id ∈ issued)
    {device : DeviceEntity} (hdevice : device ∈ devices) (admitted : scope.admits device = true) :
    Granted devices issued scope device.ids := by
  refine ⟨ids device hdevice, fun row hrow same => ?_⟩
  obtain rfl := keys.ids.eq_of_key hrow hdevice same
  exact ⟨rfl, admitted⟩

/-- Deletions take rows away, and registrations add rows with fresh ids. -/
theorem Granted.of_rows (h : Granted devices issued scope found) (more : issued ⊆ issued')
    (rows : ∀ row ∈ devices', row ∈ devices ∨ row.id ∉ issued) :
    Granted devices' issued' scope found := by
  refine ⟨more h.issued, fun row hrow same => ?_⟩
  rcases rows row hrow with hrow | fresh
  · exact h.admits row hrow same
  · exact absurd (same ▸ h.issued) fresh

theorem Socket.Sound.of_rows (h : s.Sound devices issued physicalToEntityId)
    (more : issued ⊆ issued') (rows : ∀ row ∈ devices', row ∈ devices ∨ row.id ∉ issued) :
    s.Sound devices' issued' physicalToEntityId where
  claims := h.claims
  rooms deviceId hroom := by
    obtain ⟨id, hid, hlookup⟩ := h.rooms deviceId hroom
    exact ⟨id, more hid, hlookup⟩
  asked sub hsub := ⟨(h.asked sub hsub).1, (h.asked sub hsub).2.of_rows more rows⟩

theorem Socket.Sound.disconnect (h : s.Sound devices issued physicalToEntityId) :
    s.disconnect.Sound devices issued physicalToEntityId :=
  ⟨h.claims, fun _ hroom => absurd hroom List.not_mem_nil, h.asked⟩

theorem Socket.Sound.verify (h : s.Sound devices issued physicalToEntityId) :
    s.verify.Sound devices issued physicalToEntityId := by
  unfold Socket.verify
  split
  · next claims htoken => exact ⟨fun claims' hdata => htoken.trans hdata, h.rooms, h.asked⟩
  · exact h.disconnect

theorem Socket.Sound.subscribe (keys : Keys devices)
    (ids : ∀ device ∈ devices, device.id ∈ issued)
    (h : s.Sound devices issued physicalToEntityId) (entityId : String) :
    (s.subscribe devices entityId).Sound devices issued physicalToEntityId := by
  unfold Socket.subscribe
  split_ifs
  · cases hfind : resolveOwnedDeviceByEntityId devices (resolveScopeFromSocketData s.data)
      entityId with
    | none => exact h
    | some found =>
      refine ⟨h.claims, h.rooms, fun sub hsub => ?_⟩
      rcases List.mem_append.mp hsub with hsub | hsub
      · exact h.asked sub hsub
      · obtain rfl := List.mem_singleton.mp hsub
        obtain ⟨device, hdevice, rfl⟩ := Option.map_eq_some_iff.mp hfind
        obtain ⟨hmem, -, admitted⟩ := (findInScope_eq_some_iff keys).mp hdevice
        exact ⟨h.claims, granted_ids keys ids hmem admitted⟩
  · exact h

/-- The map keeps an entry for every room that is joined. -/
theorem Socket.Sound.insert (h : s.Sound devices issued physicalToEntityId)
    (granted : found.id ∈ issued) :
    s.Sound devices issued (physicalToEntityId.insert found.deviceId found.id) where
  claims := h.claims
  rooms deviceId hroom := by
    rcases eq_or_ne deviceId found.deviceId with rfl | hne
    · exact ⟨found.id, granted, Finmap.lookup_insert _⟩
    · rw [Finmap.lookup_insert_of_ne _ hne]
      exact h.rooms deviceId hroom
  asked := h.asked

theorem Socket.Sound.join (h : s.Sound devices issued physicalToEntityId) (k : Nat)
    {deviceId : String} (mapped : ∃ id ∈ issued, physicalToEntityId.lookup deviceId = some id) :
    (s.join k deviceId).Sound devices issued physicalToEntityId where
  claims := h.claims
  rooms room hroom := by
    unfold Socket.join at hroom
    dsimp only at hroom
    split_ifs at hroom
    · rcases List.mem_append.mp hroom with hroom | hroom
      · exact h.rooms room hroom
      · obtain rfl := List.mem_singleton.mp hroom
        exact mapped
    · exact h.rooms room hroom
  asked sub hsub := h.asked sub (List.mem_of_mem_eraseIdx hsub)

theorem FeedWorld.Sound.of_rows (h : w.Sound) (keys : Keys devices')
    (ids : ∀ device ∈ devices', device.id ∈ issued') (more : w.issued ⊆ issued')
    (rows : ∀ row ∈ devices', row ∈ w.devices ∨ row.id ∉ w.issued) :
    FeedWorld.Sound { w with devices := devices', issued := issued' } where
  keys := keys
  ids := ids
  sockets s hs := (h.sockets s hs).of_rows more rows
  streams s hs found hfound := (h.streams s hs found hfound).of_rows more rows

theorem afterDelete_subset (userId id : String) : afterDelete userId id devices ⊆ devices := by
  cases hfind : findOwnedDevice devices userId id with
  | none => rw [afterDelete_of_none hfind]; exact List.Subset.refl _
  | some device =>
    rw [afterDelete_of_some hfind]
    exact fun row hrow => (Keyed.mem_remove_iff.mp hrow).1

namespace FeedWorld

theorem Sound.join (h : w.Sound) (n k : Nat) : (w.step (.join n k)).Sound := by
  unfold step
  dsimp only
  cases hsub : w.sockets[n]?.bind (·.subscribing[k]?) with
  | none => exact h
  | some sub =>
    obtain ⟨s, hs, hk⟩ := Option.bind_eq_some_iff.mp hsub
    have granted := ((h.sockets s (List.mem_of_getElem? hs)).asked sub
      (List.mem_of_getElem? hk)).2
    refine ⟨h.keys, h.ids, ?_, h.streams⟩
    refine forall_mem_modify (fun s hs => (h.sockets s hs).insert granted.issued) fun s hs => ?_
    exact hs.join k ⟨sub.found.id, granted.issued, Finmap.lookup_insert _⟩

theorem Sound.register (h : w.Sound) (id : String) (now : Date) (userId : String)
    (factoryId : Option String) (dto : RegisterDeviceDto) :
    (w.step (.registerDevice id now userId factoryId dto)).Sound := by
  unfold step
  dsimp only
  split_ifs with taken
  · exact h
  · have fresh : id ∉ w.issued := by simpa using taken
    have rows : ∀ row ∈ afterRegister id now userId factoryId dto w.templates w.devices,
        row ∈ w.devices ∨ row.id = id := by
      intro row hrow
      rcases afterRegister_cases id now userId factoryId dto w.templates w.devices with same |
        ⟨created, rfl, -, -, inserted⟩
      · exact Or.inl (same ▸ hrow)
      · rw [inserted] at hrow
        rcases List.mem_append.mp hrow with hrow | hrow
        · exact Or.inl hrow
        · obtain rfl := List.mem_singleton.mp hrow
          exact Or.inr rfl
    refine h.of_rows (h.keys.afterRegister ..) (fun row hrow => ?_) (List.subset_cons_self ..)
      fun row hrow => ?_
    · rcases rows row hrow with hrow | rfl
      · exact List.mem_cons_of_mem _ (h.ids row hrow)
      · exact List.mem_cons_self
    · rcases rows row hrow with hrow | rfl
      · exact Or.inl hrow
      · exact Or.inr fresh

theorem Sound.step (h : w.Sound) (e : FeedEvent) : (w.step e).Sound := by
  cases e with
  | connect token =>
    refine ⟨h.keys, h.ids, fun s hs => ?_, h.streams⟩
    rcases List.mem_append.mp hs with hs | hs
    · exact h.sockets s hs
    · obtain rfl := List.mem_singleton.mp hs
      exact ⟨nofun, nofun, nofun⟩
  | verify n =>
    exact ⟨h.keys, h.ids, forall_mem_modify h.sockets fun s hs => hs.verify, h.streams⟩
  | disconnect n =>
    exact ⟨h.keys, h.ids, forall_mem_modify h.sockets fun s hs => hs.disconnect, h.streams⟩
  | subscribeDevice n entityId =>
    exact ⟨h.keys, h.ids,
      forall_mem_modify h.sockets fun s hs => hs.subscribe h.keys h.ids entityId, h.streams⟩
  | join n k => exact h.join n k
  | streamDeviceEvents account deviceIds =>
    refine ⟨h.keys, h.ids, h.sockets, fun s hs => ?_⟩
    rcases List.mem_append.mp hs with hs | hs
    · exact h.streams s hs
    · obtain rfl := List.mem_singleton.mp hs
      intro found hfound
      obtain ⟨device, hdevice, rfl⟩ := List.mem_map.mp hfound
      obtain ⟨hmem, selected⟩ := List.mem_filter.mp hdevice
      rw [Bool.and_eq_true] at selected
      exact granted_ids h.keys h.ids hmem selected.2
  | startStream n =>
    refine ⟨h.keys, h.ids, h.sockets, forall_mem_modify h.streams fun s hs => ?_⟩
    unfold SseStream.start
    split_ifs
    · exact hs
    · exact hs
  | closeStream n => exact ⟨h.keys, h.ids, h.sockets, forall_mem_modify h.streams fun s hs => hs⟩
  | registerDevice id now userId factoryId dto => exact h.register id now userId factoryId dto
  | deleteDevice userId id =>
    refine h.of_rows (h.keys.afterDelete ..) (fun row hrow => ?_) (List.Subset.refl _)
      fun row hrow => Or.inl (afterDelete_subset userId id hrow)
    exact h.ids row (afterDelete_subset userId id hrow)
  | receive event =>
    unfold FeedWorld.step
    dsimp only
    split_ifs
    · exact ⟨h.keys, h.ids, h.sockets, h.streams⟩
    · exact h
  | emit k => exact ⟨h.keys, h.ids, h.sockets, h.streams⟩

end FeedWorld

end Sound

end AiotCloud
