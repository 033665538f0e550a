import AiotCloud.FeedConfinement
import AiotCloud.Lib.Since

/-!
# The subscriptions of a dashboard

The dashboard opens a socket and asks for each of its devices once, from an effect that runs when
the devices or the state of the socket are others than when it last ran. What is asked while the
socket is away waits in it; what is on its way when the connection is lost is lost with it, and
the page notices that later. The gateway looks the device up and lets the socket into its room.

1. `followed_iff`: when a page is sent the events of a device, in terms of what happened to it.
2. `dashboard_followed`: if the effect runs between a loss and the next connection, a page at rest
   follows its whole dashboard; `dashboard_forgotten` is a run in which it does not.
-/

namespace AiotCloud

/-! ## The page and the gateway -/

/-- A `subscribe:device` request: on its way, with the scope of its socket, with the row that was
found, and acknowledged. -/
inductive RequestState where
  | sent
  | asked (scope : AccessScope)
  | looked (found : Option DeviceIds)
  | answered (ok : Bool)

/-- A connection of the page as the gateway has it, with the requests made on it. -/
structure SocketConnection where
  token : Option SocketData
  data : Option SocketData := none
  rooms : List String := []
  calls : List (String × RequestState) := []

/-- What a render hands to the effect. `key` is the identity of the array. -/
structure EffectDeps where
  key : Nat := 0
  deviceIds : List String := []
  connected : Bool := false
deriving DecidableEq

/-- `socket` has what the token of the socket verifies to, `online` is its `connected`, and
`buffered` what it was given to send before it is. `ran` is what the effect saw when it last ran. -/
structure FollowWorld where
  devices : List DeviceEntity
  state : EffectDeps := {}
  rendered : EffectDeps := {}
  ran : EffectDeps := {}
  subscribedRef : List String := []
  socket : Option (Option SocketData) := none
  online : Bool := false
  buffered : List String := []
  connection : Option SocketConnection := none

/-- `lose` is the loss of a connection before the page notices, `serve` what the gateway does next
about a request, and `acknowledge` its answer. -/
inductive FollowStep where
  | changeDevices (devices : List DeviceEntity)
  | showDashboard (deviceIds : List String)
  | render
  | runEffect
  | setAccessToken (token : Option (Option SocketData))
  | connect
  | disconnect
  | lose
  | verify
  | serve (k : Nat)
  | acknowledge (k : Nat)

namespace RequestState

/-- The next state of a request in `handleSubscribeDevice`. -/
def served (devices : List DeviceEntity) (data : Option SocketData) (entityId : String) :
    RequestState → RequestState
  | sent => asked (resolveScopeFromSocketData data)
  | asked scope => looked (resolveOwnedDeviceByEntityId devices scope entityId)
  | looked found => answered found.isSome
  | answered ok => answered ok

/-- The rooms that this joins. -/
def joins : RequestState → List String
  | looked (some found) => [found.deviceId]
  | _ => []

end RequestState

def SocketConnection.serve (devices : List DeviceEntity) (k : Nat) (c : SocketConnection) :
    SocketConnection :=
  match c.calls[k]? with
  | some (entityId, state) =>
    { c with
      rooms := c.rooms ++ state.joins
      calls := c.calls.set k (entityId, state.served devices c.data entityId) }
  | none => c

/-- The end of `handleConnection`. -/
def SocketConnection.verify (c : SocketConnection) : Option SocketConnection :=
  c.token.map fun claims => { c with data := some claims }

namespace FollowWorld

/-- `socket.emit`. -/
def emit (w : FollowWorld) (deviceId : String) : FollowWorld :=
  if w.online then
    { w with
      connection := w.connection.map fun c => { c with calls := c.calls ++ [(deviceId, .sent)] } }
  else { w with buffered := w.buffered ++ [deviceId] }

def subscribe (w : FollowWorld) (deviceId : String) : FollowWorld :=
  if deviceId ∈ w.subscribedRef then w
  else { w with subscribedRef := deviceId :: w.subscribedRef }.emit deviceId

def runEffect (w : FollowWorld) : FollowWorld :=
  if w.rendered = w.ran then w
  else
    let due := { w with ran := w.rendered }
    if w.socket.isSome ∧ w.rendered.connected then due.rendered.deviceIds.foldl subscribe due
    else due

/-- The acknowledgement of the `k`th request, if it is on its way. -/
def acknowledge (w : FollowWorld) (k : Nat) : FollowWorld :=
  match w.connection with
  | none => w
  | some c =>
    match c.calls[k]? with
    | some (deviceId, .answered ok) =>
      { w with
        connection := some { c with calls := c.calls.eraseIdx k }
        subscribedRef := if ok then w.subscribedRef else w.subscribedRef.filter (· ≠ deviceId) }
    | _ => w

def step (w : FollowWorld) : FollowStep → FollowWorld
  | .changeDevices devices => { w with devices := devices }
  | .showDashboard deviceIds =>
    { w with state := { w.state with key := w.state.key + 1, deviceIds := deviceIds } }
  | .render => { w with rendered := w.state }
  | .runEffect => w.runEffect
  | .setAccessToken token =>
    { w with
      state := { w.state with connected := false }
      subscribedRef := []
      socket := token
      online := false
      buffered := []
      connection := none }
  | .connect =>
    match w.online, w.socket with
    | false, some token =>
      { w with
        state := { w.state with connected := true }
        online := true
        buffered := []
        connection := some { token := token, calls := w.buffered.map fun id => (id, .sent) } }
    | _, _ => w
  | .disconnect =>
    if w.online then
      { w with
        state := { w.state with connected := false }
        subscribedRef := []
        online := false
        connection := none }
    else w
  | .lose => { w with connection := none }
  | .verify => { w with connection := w.connection.bind (·.verify) }
  | .serve k => { w with connection := w.connection.map (·.serve w.devices k) }
  | .acknowledge k => w.acknowledge k

/-- The page as it opens. -/
def opened (devices : List DeviceEntity) : FollowWorld := { devices := devices }

end FollowWorld

/-! ## A device that the account may see -/

/-- The lookups of the account find the device. -/
structure Offers (scope : AccessScope) (found : DeviceIds) (devices : List DeviceEntity) :
    Prop where
  keys : Keys devices
  lookup : resolveOwnedDeviceByEntityId devices scope found.id = some found

/-- The tokens of the page are those of the account, and the device stays. -/
def FollowStep.Suits (scope : AccessScope) (found : DeviceIds) : FollowStep → Prop
  | changeDevices devices => Offers scope found devices
  | setAccessToken token =>
    ∀ claims, token = some (some claims) → resolveScopeFromSocketData (some claims) = scope
  | _ => True

/-- The effect runs for a dashboard with the device. -/
structure Lists (deviceId : String) (w : FollowWorld) (s : FollowStep) : Prop where
  effect : s = .runEffect
  due : w.rendered ≠ w.ran
  socket : w.socket.isSome
  connected : w.rendered.connected = true
  listed : deviceId ∈ w.rendered.deviceIds

/-- The page notices the loss of the connection, opens another socket, or is refused the device. -/
def Forgets (deviceId : String) (w : FollowWorld) : FollowStep → Prop
  | .disconnect => w.online = true
  | .setAccessToken _ => True
  | .acknowledge k => ∃ c, w.connection = some c ∧ c.calls[k]? = some (deviceId, .answered false)
  | _ => False

/-- The page does not ask for the device again. -/
def Asked (deviceId : String) (w : FollowWorld) : Prop := deviceId ∈ w.subscribedRef

section Subscribed

variable {w : FollowWorld} {deviceId : String}

theorem subscribedRef_emit (id : String) : (w.emit id).subscribedRef = w.subscribedRef := by
  unfold FollowWorld.emit
  split_ifs <;> rfl

theorem mem_subscribedRef_subscribe {id : String} :
    deviceId ∈ (w.subscribe id).subscribedRef ↔ deviceId = id ∨ deviceId ∈ w.subscribedRef := by
  unfold FollowWorld.subscribe
  split_ifs with known
  · exact (or_iff_right_of_imp fun same => same ▸ known).symm
  · rw [subscribedRef_emit, List.mem_cons]

theorem mem_subscribedRef_foldl {ids : List String} :
    deviceId ∈ (ids.foldl FollowWorld.subscribe w).subscribedRef ↔
      deviceId ∈ ids ∨ deviceId ∈ w.subscribedRef := by
  induction ids generalizing w with
  | nil => simp
  | cons id ids ih =>
    rw [List.foldl_cons, ih, mem_subscribedRef_subscribe, List.mem_cons]
    tauto

theorem mem_subscribedRef_runEffect :
    deviceId ∈ w.runEffect.subscribedRef ↔
      Lists deviceId w .runEffect ∨ deviceId ∈ w.subscribedRef := by
  unfold FollowWorld.runEffect
  dsimp only
  split_ifs with same runs
  · exact (or_iff_right fun lists => lists.due same).symm
  · rw [mem_subscribedRef_foldl]
    exact or_congr_left
      ⟨fun listed => ⟨rfl, same, runs.1, runs.2, listed⟩, fun lists => lists.listed⟩
  · exact (or_iff_right fun lists => runs ⟨lists.socket, lists.connected⟩).symm

theorem mem_subscribedRef_acknowledge {k : Nat} :
    deviceId ∈ (w.acknowledge k).subscribedRef ↔
      deviceId ∈ w.subscribedRef ∧ ¬ Forgets deviceId w (.acknowledge k) := by
  unfold FollowWorld.acknowledge Forgets
  cases w.connection with
  | none => simp
  | some c =>
    dsimp only
    cases hcall : c.calls[k]? with
    | none => simp [hcall]
    | some call =>
      obtain ⟨id, state⟩ := call
      cases state with
      | answered ok =>
        cases ok with
        | true => simp [hcall]
        | false => simp [hcall, List.mem_filter, ne_comm]
      | sent | asked | looked => simp [hcall]

theorem asked_step_iff (deviceId : String) (w : FollowWorld) (s : FollowStep) :
    Asked deviceId (w.step s) ↔
      Lists deviceId w s ∨ Asked deviceId w ∧ ¬ Forgets deviceId w s := by
  have other (h : s ≠ .runEffect) : ¬ Lists deviceId w s := fun lists => h lists.effect
  unfold Asked
  cases s with
  | runEffect =>
    rw [FollowWorld.step, mem_subscribedRef_runEffect]
    simp [Forgets]
  | acknowledge k =>
    rw [FollowWorld.step, mem_subscribedRef_acknowledge]
    simp [other]
  | disconnect =>
    simp only [FollowWorld.step]
    split_ifs with online <;> simp [Forgets, other, online]
  | connect =>
    simp only [FollowWorld.step]
    split <;> simp [Forgets, other]
  | changeDevices | showDashboard | render | setAccessToken | lose | verify | serve =>
    simp [FollowWorld.step, Forgets, other]

end Subscribed

/-! ## What the page follows -/

/-- A scope that requests of the page are looked up in: that of the account or, until the token is
verified, of no one. -/
def ScopeFits (scope asked : AccessScope) : Prop := asked = scope ∨ asked = .unrestricted

section Offers

variable {scope : AccessScope} {found : DeviceIds} {devices : List DeviceEntity}

theorem Offers.lookup_of_fits (offers : Offers scope found devices) {asked : AccessScope}
    (fits : ScopeFits scope asked) :
    resolveOwnedDeviceByEntityId devices asked found.id = some found := by
  obtain rfl | rfl := fits
  · exact offers.lookup
  · obtain ⟨device, hfind, rfl⟩ := Option.map_eq_some_iff.mp offers.lookup
    obtain ⟨stored, hid, -⟩ := (findInScope_eq_some_iff offers.keys).mp hfind
    exact Option.map_eq_some_iff.mpr
      ⟨device, (findInScope_eq_some_iff offers.keys).mpr ⟨stored, hid, rfl⟩, rfl⟩

/-- No other request joins the room of the device. -/
theorem Offers.id_of_deviceId (offers : Offers scope found devices) {asked : AccessScope}
    {id : String} {other : DeviceIds}
    (lookup : resolveOwnedDeviceByEntityId devices asked id = some other)
    (same : other.deviceId = found.deviceId) : id = found.id := by
  obtain ⟨device, hfind, rfl⟩ := Option.map_eq_some_iff.mp offers.lookup
  obtain ⟨device', hfind', rfl⟩ := Option.map_eq_some_iff.mp lookup
  obtain ⟨stored, hid, -⟩ := (findInScope_eq_some_iff offers.keys).mp hfind
  obtain ⟨stored', hid', -⟩ := (findInScope_eq_some_iff offers.keys).mp hfind'
  have row : device' = device := offers.keys.deviceIds.eq_of_key stored' stored same
  rw [← hid', row, hid]

end Offers

/-- What holds of a request, as far as the device is concerned. -/
def RequestState.Sound (scope : AccessScope) (found : DeviceIds) (rooms : List String)
    (id : String) : RequestState → Prop
  | sent => True
  | asked scope' => ScopeFits scope scope'
  | looked answer =>
    (id = found.id → answer = some found) ∧
      ∀ other, answer = some other → other.deviceId = found.deviceId → id = found.id
  | answered ok => id = found.id → ok = true ∧ found.deviceId ∈ rooms

namespace SocketConnection

structure Sound (scope : AccessScope) (found : DeviceIds) (c : SocketConnection) : Prop where
  token : ∀ claims, c.token = some claims → resolveScopeFromSocketData (some claims) = scope
  data : ScopeFits scope (resolveScopeFromSocketData c.data)
  calls : ∀ call ∈ c.calls, call.2.Sound scope found c.rooms call.1

/-- The connection is in the room of the device, or a request for the device is open. -/
def Knows (found : DeviceIds) (c : SocketConnection) : Prop :=
  found.deviceId ∈ c.rooms ∨ found.id ∈ c.calls.map Prod.fst

section Connection

variable {scope : AccessScope} {found : DeviceIds} {devices : List DeviceEntity}
  {c c' : SocketConnection}

/-- A connection is made with the requests that waited for it. -/
theorem Sound.made {token : Option SocketData}
    (fits : ∀ claims, token = some claims → resolveScopeFromSocketData (some claims) = scope)
    (buffered : List String) :
    Sound scope found { token := token, calls := buffered.map fun id => (id, .sent) } where
  token := fits
  data := Or.inr rfl
  calls := by
    intro call hcall
    obtain ⟨id, -, rfl⟩ := List.mem_map.mp hcall
    trivial

theorem knows_made {token : Option SocketData} {buffered : List String} :
    Knows found { token := token, calls := buffered.map fun id => (id, .sent) } ↔
      found.id ∈ buffered := by
  simp [Knows]

theorem Sound.sent (sound : c.Sound scope found) (id : String) :
    Sound scope found { c with calls := c.calls ++ [(id, .sent)] } where
  token := sound.token
  data := sound.data
  calls := by
    intro call hcall
    rcases List.mem_append.mp hcall with hcall | hcall
    · exact sound.calls call hcall
    · obtain rfl := List.mem_singleton.mp hcall
      trivial

theorem knows_sent {id : String} :
    Knows found { c with calls := c.calls ++ [(id, .sent)] } ↔ found.id = id ∨ c.Knows found := by
  simp only [Knows, List.map_append, List.mem_append, List.map_cons, List.map_nil,
    List.mem_singleton]
  tauto

theorem Sound.verify (sound : c.Sound scope found) (h : c.verify = some c') :
    c'.Sound scope found := by
  obtain ⟨claims, htoken, rfl⟩ := Option.map_eq_some_iff.mp h
  exact ⟨sound.token, Or.inl (sound.token claims htoken), sound.calls⟩

theorem knows_verify (h : c.verify = some c') : c'.Knows found ↔ c.Knows found := by
  obtain ⟨claims, -, rfl⟩ := Option.map_eq_some_iff.mp h
  exact Iff.rfl

/-- What the gateway does next about a request. -/
theorem Sound.served (sound : c.Sound scope found) (offers : Offers scope found devices)
    {id : String} {state : RequestState} (hstate : state.Sound scope found c.rooms id) :
    (state.served devices c.data id).Sound scope found (c.rooms ++ state.joins) id := by
  cases state with
  | sent => exact sound.data
  | asked scope' =>
    refine ⟨?_, fun other lookup same => offers.id_of_deviceId lookup same⟩
    rintro rfl
    exact offers.lookup_of_fits hstate
  | looked answer =>
    intro hid
    rw [hstate.1 hid]
    exact ⟨rfl, List.mem_append_right _ (List.mem_singleton.mpr rfl)⟩
  | answered ok =>
    intro hid
    exact ⟨(hstate hid).1, List.mem_append_left _ (hstate hid).2⟩

theorem sound_mono {rooms rooms' : List String} (grows : rooms ⊆ rooms') {id : String}
    {state : RequestState} (hstate : state.Sound scope found rooms id) :
    state.Sound scope found rooms' id := by
  cases state with
  | answered ok => exact fun hid => ⟨(hstate hid).1, grows (hstate hid).2⟩
  | sent | asked | looked => exact hstate

theorem Sound.serve (sound : c.Sound scope found) (offers : Offers scope found devices) (k : Nat) :
    (c.serve devices k).Sound scope found := by
  unfold SocketConnection.serve
  cases hcall : c.calls[k]? with
  | none => exact sound
  | some call =>
    obtain ⟨id, state⟩ := call
    refine ⟨sound.token, sound.data, fun call hmem => ?_⟩
    rcases List.mem_or_eq_of_mem_set hmem with hmem | rfl
    · exact sound_mono (List.subset_append_left _ _) (sound.calls call hmem)
    · exact sound.served offers (sound.calls _ (List.mem_of_getElem? hcall))

/-- A request joins the room of the device only while it is open. -/
theorem Sound.knows_serve (sound : c.Sound scope found) (k : Nat) :
    (c.serve devices k).Knows found ↔ c.Knows found := by
  unfold SocketConnection.serve
  cases hcall : c.calls[k]? with
  | none => exact Iff.rfl
  | some call =>
    obtain ⟨id, state⟩ := call
    have stored : (id, state) ∈ c.calls := List.mem_of_getElem? hcall
    have ids : (c.calls.set k (id, state.served devices c.data id)).map Prod.fst =
        c.calls.map Prod.fst := by
      have listed : (c.calls.map Prod.fst)[k]? = some id := by rw [List.getElem?_map, hcall]; rfl
      obtain ⟨hk, hget⟩ := List.getElem?_eq_some_iff.mp listed
      rw [List.map_set, ← List.set_getElem_self hk, List.set_set, hget]
    have joined (h : found.deviceId ∈ state.joins) : found.id ∈ c.calls.map Prod.fst := by
      cases state with
      | looked answer =>
        cases answer with
        | none => cases h
        | some other =>
          have same : other.deviceId = found.deviceId := (List.mem_singleton.mp h).symm
          rw [← (sound.calls _ stored).2 other rfl same]
          exact List.mem_map_of_mem stored
      | sent | asked | answered => cases h
    simp only [Knows, ids, List.mem_append]
    tauto

theorem Sound.acknowledge (sound : c.Sound scope found) (k : Nat) :
    Sound scope found { c with calls := c.calls.eraseIdx k } :=
  ⟨sound.token, sound.data, fun call hcall => sound.calls call (List.mem_of_mem_eraseIdx hcall)⟩

/-- A request for the device is acknowledged once the connection is in its room. -/
theorem Sound.knows_acknowledge (sound : c.Sound scope found) {k : Nat} {id : String} {ok : Bool}
    (hcall : c.calls[k]? = some (id, .answered ok)) :
    Knows found { c with calls := c.calls.eraseIdx k } ↔ c.Knows found := by
  constructor
  · refine Or.imp_right fun listed => ?_
    obtain ⟨call, hmem, hid⟩ := List.mem_map.mp listed
    exact List.mem_map.mpr ⟨call, List.mem_of_mem_eraseIdx hmem, hid⟩
  · rintro (joined | listed)
    · exact Or.inl joined
    · by_cases hid : id = found.id
      · exact Or.inl (sound.calls _ (List.mem_of_getElem? hcall) hid).2
      · obtain ⟨call, hmem, hfound⟩ := List.mem_map.mp listed
        obtain ⟨n, hn⟩ := List.mem_iff_getElem?.mp hmem
        refine Or.inr (List.mem_map.mpr ⟨call, ?_, hfound⟩)
        refine List.mem_eraseIdx_iff_getElem?.mpr ⟨n, ?_, hn⟩
        rintro rfl
        rw [hn] at hcall
        obtain rfl := Option.some.inj hcall
        exact hid hfound

end Connection

end SocketConnection

namespace FollowWorld

/-- `subscribedRef` has the device exactly if the connection knows it, or the request waits. -/
structure Sound (scope : AccessScope) (found : DeviceIds) (w : FollowWorld) : Prop where
  offers : Offers scope found w.devices
  token : ∀ claims, w.socket = some (some claims) →
    resolveScopeFromSocketData (some claims) = scope
  connection : ∀ c, w.connection = some c → c.Sound scope found
  tracks : ∀ c, w.connection = some c → (found.id ∈ w.subscribedRef ↔ c.Knows found)
  online : w.connection.isSome → w.online = true
  waits : w.online = false → (found.id ∈ w.subscribedRef ↔ found.id ∈ w.buffered)
  flushed : w.online = true → w.buffered = []

section Sound

variable {scope : AccessScope} {found : DeviceIds} {w : FollowWorld}

/-- Before a socket connects, and after it has lost its connection. -/
theorem Sound.of_away (offers : Offers scope found w.devices)
    (token : ∀ claims, w.socket = some (some claims) →
      resolveScopeFromSocketData (some claims) = scope)
    (away : w.connection = none) (asked : w.subscribedRef = []) (flushed : w.buffered = []) :
    w.Sound scope found where
  offers := offers
  token := token
  connection c hc := nomatch away.symm.trans hc
  tracks c hc := nomatch away.symm.trans hc
  online h := by
    rw [away] at h
    cases h
  waits _ := by rw [asked, flushed]
  flushed _ := flushed

theorem Sound.opened {devices : List DeviceEntity} (offers : Offers scope found devices) :
    (opened devices).Sound scope found :=
  .of_away offers (fun _ h => nomatch h) rfl rfl rfl

/-- `subscribedRef.current.add`, with the `emit` that follows. -/
theorem Sound.emit (sound : w.Sound scope found) (id : String) :
    (emit { w with subscribedRef := id :: w.subscribedRef } id).Sound scope found := by
  unfold FollowWorld.emit
  dsimp only
  split_ifs with online
  · refine ⟨sound.offers, sound.token, ?_, ?_, fun _ => online, fun h => ?_, sound.flushed⟩
    · intro c' h
      obtain ⟨c, hc, rfl⟩ := Option.map_eq_some_iff.mp h
      exact (sound.connection c hc).sent id
    · intro c' h
      obtain ⟨c, hc, rfl⟩ := Option.map_eq_some_iff.mp h
      rw [SocketConnection.knows_sent, ← sound.tracks c hc]
      exact List.mem_cons
    · exact absurd (online.symm.trans h) (by decide)
  · have away : w.online = false := eq_false_of_ne_true online
    have apart : w.connection = none := by
      cases hc : w.connection with
      | none => rfl
      | some c => exact absurd (sound.online (by rw [hc]; rfl)) online
    refine ⟨sound.offers, sound.token, ?_, ?_, sound.online, fun _ => ?_, fun h => ?_⟩
    · exact fun c hc => nomatch apart.symm.trans hc
    · exact fun c hc => nomatch apart.symm.trans hc
    · have waits := sound.waits away
      simp only [List.mem_cons, List.mem_append, List.not_mem_nil, or_false, waits]
      exact or_comm
    · exact absurd h online

theorem Sound.subscribe (sound : w.Sound scope found) (id : String) :
    (w.subscribe id).Sound scope found := by
  unfold FollowWorld.subscribe
  split_ifs
  · exact sound
  · exact sound.emit id

theorem Sound.foldl_subscribe (sound : w.Sound scope found) (ids : List String) :
    (ids.foldl FollowWorld.subscribe w).Sound scope found := by
  induction ids generalizing w with
  | nil => exact sound
  | cons id ids ih => exact ih (sound.subscribe id)

/-- Nothing of it is about the state of React. -/
theorem Sound.rendered (sound : w.Sound scope found) (state rendered ran : EffectDeps) :
    Sound scope found { w with state := state, rendered := rendered, ran := ran } :=
  ⟨sound.offers, sound.token, sound.connection, sound.tracks, sound.online, sound.waits,
    sound.flushed⟩

theorem Sound.runEffect (sound : w.Sound scope found) : w.runEffect.Sound scope found := by
  have due := sound.rendered w.state w.rendered w.rendered
  unfold FollowWorld.runEffect
  split_ifs
  · exact sound
  · exact due.foldl_subscribe _
  · exact due

theorem Sound.acknowledge (sound : w.Sound scope found) (k : Nat) :
    (w.acknowledge k).Sound scope found := by
  unfold FollowWorld.acknowledge
  cases hc : w.connection with
  | none => exact sound
  | some c =>
    have conn := sound.connection c hc
    have online : w.online = true := sound.online (by rw [hc]; rfl)
    dsimp only
    split
    · rename_i id ok hcall
      have kept : found.id ∈ (if ok then w.subscribedRef else w.subscribedRef.filter (· ≠ id)) ↔
          found.id ∈ w.subscribedRef := by
        cases ok with
        | true => rfl
        | false =>
          have other : found.id ≠ id := by
            rintro rfl
            exact nomatch (conn.calls _ (List.mem_of_getElem? hcall) rfl).1
          simp [List.mem_filter, other]
      refine ⟨sound.offers, sound.token, fun c' hc' => ?_, fun c' hc' => ?_, fun _ => online,
        fun h => ?_, sound.flushed⟩
      · obtain rfl := Option.some.inj hc'
        exact conn.acknowledge k
      · obtain rfl := Option.some.inj hc'
        rw [conn.knows_acknowledge hcall, ← sound.tracks c hc]
        exact kept
      · exact absurd (online.symm.trans h) (by decide)
    · exact sound

/-- The connection changes into one that knows as much, or is gone. -/
theorem Sound.reconnected (sound : w.Sound scope found) {next : Option SocketConnection}
    (origin : ∀ c', next = some c' → ∃ c, w.connection = some c ∧ c'.Sound scope found ∧
      (c'.Knows found ↔ c.Knows found)) :
    Sound scope found { w with connection := next } where
  offers := sound.offers
  token := sound.token
  connection c' hc' := by
    obtain ⟨_, -, hsound, -⟩ := origin c' hc'
    exact hsound
  tracks c' hc' := by
    obtain ⟨c, hc, -, knows⟩ := origin c' hc'
    exact (sound.tracks c hc).trans knows.symm
  online h := by
    obtain ⟨c', hc'⟩ := Option.isSome_iff_exists.mp h
    obtain ⟨c, hc, -⟩ := origin c' hc'
    exact sound.online (by rw [hc]; rfl)
  waits := sound.waits
  flushed := sound.flushed

theorem Sound.step (sound : w.Sound scope found) {s : FollowStep} (suits : s.Suits scope found) :
    (w.step s).Sound scope found := by
  cases s with
  | changeDevices devices =>
    exact ⟨suits, sound.token, sound.connection, sound.tracks, sound.online, sound.waits,
      sound.flushed⟩
  | showDashboard | render => exact sound.rendered _ _ _
  | runEffect => exact sound.runEffect
  | acknowledge k => exact sound.acknowledge k
  | setAccessToken token =>
    exact .of_away sound.offers suits rfl rfl rfl
  | connect =>
    simp only [FollowWorld.step]
    split
    · rename_i token away socket
      refine ⟨sound.offers, sound.token, fun c hc => ?_, fun c hc => ?_, fun _ => rfl,
        (fun h => nomatch h), fun _ => rfl⟩
      · obtain rfl := Option.some.inj hc
        exact .made (fun claims htoken => sound.token claims (by rw [socket, htoken])) _
      · obtain rfl := Option.some.inj hc
        exact (sound.waits away).trans SocketConnection.knows_made.symm
    · exact sound
  | disconnect =>
    simp only [FollowWorld.step]
    split_ifs with online
    · exact .of_away sound.offers sound.token rfl rfl (sound.flushed online)
    · exact sound
  | lose => exact sound.reconnected fun _ h => nomatch h
  | verify =>
    refine sound.reconnected fun c' h => ?_
    obtain ⟨c, hc, hverify⟩ := Option.bind_eq_some_iff.mp h
    exact ⟨c, hc, (sound.connection c hc).verify hverify, SocketConnection.knows_verify hverify⟩
  | serve k =>
    refine sound.reconnected fun c' h => ?_
    obtain ⟨c, hc, rfl⟩ := Option.map_eq_some_iff.mp h
    have conn := sound.connection c hc
    exact ⟨c, hc, conn.serve sound.offers k, conn.knows_serve k⟩

end Sound

/-- The page is sent the events of the device. -/
def Follows (w : FollowWorld) (deviceId : String) : Prop :=
  ∃ c, w.connection = some c ∧ deviceId ∈ c.rooms

/-- There is a connection, and no request for the device is open on it. -/
def Settled (w : FollowWorld) (entityId : String) : Prop :=
  ∃ c, w.connection = some c ∧ entityId ∉ c.calls.map Prod.fst

theorem Sound.follows_iff {scope : AccessScope} {found : DeviceIds} {w : FollowWorld}
    (sound : w.Sound scope found) (settled : w.Settled found.id) :
    w.Follows found.deviceId ↔ Asked found.id w := by
  obtain ⟨c, hc, closed⟩ := settled
  rw [Asked, sound.tracks c hc]
  constructor
  · rintro ⟨c', hc', joined⟩
    obtain rfl := Option.some.inj (hc.symm.trans hc')
    exact Or.inl joined
  · rintro (joined | listed)
    · exact ⟨c, hc, joined⟩
    · exact absurd listed closed

end FollowWorld

/-- Once the effect has seen the loss of a connection, the socket may connect again. -/
def Noticed (w : FollowWorld) (s : FollowStep) : Prop :=
  s = .connect → w.online = false → w.ran.connected = false

namespace FollowWorld

/-- What the effect was told when it last ran on this connection, it has asked for. -/
structure CaughtUp (entityId : String) (w : FollowWorld) : Prop where
  connected : w.state.connected = w.online
  socket : w.online = true → w.socket.isSome
  asked : w.online = true → w.ran.connected = true → entityId ∈ w.ran.deviceIds →
    Asked entityId w

/-- What `CaughtUp` says of a state beside what is asked for. -/
def view (w : FollowWorld) : EffectDeps × EffectDeps × Bool × Bool :=
  (w.state, w.ran, w.socket.isSome, w.online)

section CaughtUp

variable {entityId : String} {w w' : FollowWorld}

theorem view_subscribe (w : FollowWorld) (id : String) : (w.subscribe id).view = w.view := by
  unfold FollowWorld.subscribe FollowWorld.emit
  split_ifs <;> rfl

theorem view_foldl (ids : List String) : (ids.foldl FollowWorld.subscribe w).view = w.view := by
  induction ids generalizing w with
  | nil => rfl
  | cons id ids ih => exact ih.trans (view_subscribe w id)

theorem view_runEffect : w.runEffect.view = { w with ran := w.rendered }.view := by
  unfold FollowWorld.runEffect
  split_ifs with same
  · simp only [view, same]
  · exact view_foldl _
  · rfl

theorem view_acknowledge (k : Nat) : (w.acknowledge k).view = w.view := by
  unfold FollowWorld.acknowledge
  split
  · rfl
  · split <;> rfl

theorem CaughtUp.of_away (state : w.state.connected = false) (away : w.online = false) :
    w.CaughtUp entityId where
  connected := state.trans away.symm
  socket online := nomatch away.symm.trans online
  asked online := nomatch away.symm.trans online

theorem CaughtUp.opened (devices : List DeviceEntity) : (opened devices).CaughtUp entityId :=
  .of_away rfl rfl

theorem CaughtUp.of_view (up : w.CaughtUp entityId) (same : w'.view = w.view)
    (kept : Asked entityId w → Asked entityId w') : w'.CaughtUp entityId := by
  obtain ⟨state, ran, socket, online⟩ :
      w'.state = w.state ∧ w'.ran = w.ran ∧ w'.socket.isSome = w.socket.isSome ∧
        w'.online = w.online := by
    simpa [view] using same
  constructor
  · rw [state, online]
    exact up.connected
  · rw [socket, online]
    exact up.socket
  · rw [online, ran]
    exact fun on told listed => kept (up.asked on told listed)

theorem CaughtUp.runEffect (up : w.CaughtUp entityId) : w.runEffect.CaughtUp entityId := by
  obtain ⟨state, ran, socket, online⟩ :
      w.runEffect.state = w.state ∧ w.runEffect.ran = w.rendered ∧
        w.runEffect.socket.isSome = w.socket.isSome ∧ w.runEffect.online = w.online := by
    simpa [view] using view_runEffect (w := w)
  constructor
  · rw [state, online]
    exact up.connected
  · rw [socket, online]
    exact up.socket
  · rw [online, ran]
    intro on told listed
    rw [Asked, mem_subscribedRef_runEffect]
    by_cases same : w.rendered = w.ran
    · rw [same] at told listed
      exact Or.inr (up.asked on told listed)
    · exact Or.inl ⟨rfl, same, up.socket on, told, listed⟩

theorem CaughtUp.step {scope : AccessScope} {found : DeviceIds} (up : w.CaughtUp found.id)
    (sound : w.Sound scope found) {s : FollowStep} (noticed : Noticed w s) :
    (w.step s).CaughtUp found.id := by
  cases s with
  | changeDevices | render | lose | verify | serve => exact up.of_view rfl fun asked => asked
  | showDashboard deviceIds => exact ⟨up.connected, up.socket, up.asked⟩
  | runEffect => exact up.runEffect
  | setAccessToken token => exact .of_away rfl rfl
  | acknowledge k =>
    refine up.of_view (view_acknowledge k) fun asked => ?_
    rw [asked_step_iff]
    refine Or.inr ⟨asked, fun forgets => ?_⟩
    obtain ⟨c, hc, refused⟩ := forgets
    have answered := (sound.connection c hc).calls _ (List.mem_of_getElem? refused)
    exact nomatch (answered rfl).1
  | connect =>
    simp only [FollowWorld.step]
    split
    · rename_i token away socket
      refine ⟨rfl, fun _ => by rw [socket]; rfl, fun _ told => ?_⟩
      exact absurd ((noticed rfl away).symm.trans told) (by decide)
    · exact up
  | disconnect =>
    simp only [FollowWorld.step]
    split_ifs
    · exact .of_away rfl rfl
    · exact up

end CaughtUp

/-- The effect has run for what the page shows. -/
def Current (w : FollowWorld) : Prop := w.ran = w.state

end FollowWorld

/-- While a connection is there, no request for the device is open on it and the effect has run
for what the page shows, the page is sent the events of every device of its dashboard that the
account may see, if the effect ran between each loss of a connection that the page noticed and the
connection after it. -/
theorem dashboard_followed {scope : AccessScope} {found : DeviceIds} {devices : List DeviceEntity}
    (offers : Offers scope found devices) {es : List FollowStep}
    (suits : ∀ s ∈ es, s.Suits scope found)
    (noticed : Run.Meets FollowWorld.step Noticed (.opened devices) es)
    (settled : (Run.exec FollowWorld.step (.opened devices) es).Settled found.id)
    (current : (Run.exec FollowWorld.step (.opened devices) es).Current)
    (listed : found.id ∈ (Run.exec FollowWorld.step (.opened devices) es).state.deviceIds) :
    (Run.exec FollowWorld.step (.opened devices) es).Follows found.deviceId := by
  have keeps : ∀ w s, FollowWorld.Sound scope found w ∧ w.CaughtUp found.id →
      s.Suits scope found ∧ Noticed w s →
      FollowWorld.Sound scope found (w.step s) ∧ (w.step s).CaughtUp found.id :=
    fun w s h ok => ⟨h.1.step ok.1, h.2.step h.1 ok.2⟩
  obtain ⟨sound, up⟩ := Run.invariant_of_meets keeps ⟨.opened offers, .opened devices⟩
    (Run.meets_and_iff.mpr ⟨Run.meets_const_iff.mpr suits, noticed⟩)
  obtain ⟨c, hc, closed⟩ := settled
  have online := sound.online (by rw [hc]; rfl)
  refine (sound.follows_iff ⟨c, hc, closed⟩).mpr (up.asked online ?_ ?_)
  · rw [current, up.connected]
    exact online
  · rw [current]
    exact listed

/-- The page of an account that opens a dashboard with its one device. -/
def pageOpened : List FollowStep :=
  [.showDashboard ["a"], .setAccessToken (some (some ⟨"u1", .user, none⟩)), .render, .runEffect,
    .connect, .verify, .render, .runEffect, .serve 0, .serve 0, .serve 0, .acknowledge 0]

theorem ownPump_offered : Offers (.user "u1") ⟨"a", "pump"⟩ [ownPump] := ⟨ownPump_keys, rfl⟩

theorem pageOpened_suits : ∀ s ∈ pageOpened, s.Suits (.user "u1") ⟨"a", "pump"⟩ := by
  simp [pageOpened, FollowStep.Suits, resolveScopeFromSocketData, resolveAccessScope]

theorem pageOpened_settled :
    (Run.exec FollowWorld.step (.opened [ownPump]) pageOpened).Settled "a" :=
  ⟨_, rfl, List.not_mem_nil⟩

theorem dashboard_followed_opened :
    (Run.exec FollowWorld.step (.opened [ownPump]) pageOpened).Follows "pump" :=
  dashboard_followed ownPump_offered pageOpened_suits
    (by simp [pageOpened, Run.Meets, Noticed]; exact fun _ => rfl) pageOpened_settled rfl
    (List.mem_singleton.mpr rfl)

/-- The connection is lost and made again before the page renders. -/
theorem dashboard_forgotten :
    let w := Run.exec FollowWorld.step (.opened [ownPump])
      (pageOpened ++ [.disconnect, .connect, .verify, .render, .runEffect])
    w.Settled "a" ∧ w.Current ∧ "a" ∈ w.state.deviceIds ∧ ¬ w.Follows "pump" := by
  refine ⟨⟨_, rfl, List.not_mem_nil⟩, rfl, List.mem_singleton.mpr rfl, ?_⟩
  rintro ⟨c, hc, joined⟩
  obtain rfl := Option.some.inj hc
  cases joined

end AiotCloud
