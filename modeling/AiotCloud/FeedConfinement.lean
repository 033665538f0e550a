import AiotCloud.LiveFeed

/-!
# Confinement of the live feed

A device can be deleted and its physical id registered again while sockets are in its
room and streams follow it.

`feed_confined_iff`: whoever can be sent an event has access to the row registered under
its physical id, and the event names that row, in every state of a run exactly when no
step changes the row under someone who follows it.
-/

namespace AiotCloud

/-! ## Who is sent an event -/

namespace FeedWorld

variable {w w' : FeedWorld}

theorem mem_forward_iff {event : DeviceEvent} {d : Delivery} :
    d ∈ w.forward event ↔ ∃ s ∈ w.sockets, s.InRoom event.deviceId ∧
      d = ⟨s.scope, event.withDeviceId
        ((w.physicalToEntityId.lookup event.deviceId).getD event.deviceId)⟩ := by
  simp [forward, and_assoc, eq_comm]

/-- Everyone who is sent the events of the physical id is shown its row: the sockets in its
room, and the live streams that have it. -/
structure ShownAt (w : FeedWorld) (deviceId : String) : Prop where
  sockets : ∀ s ∈ w.sockets, s.InRoom deviceId →
    Shown w.devices deviceId s.scope ((w.physicalToEntityId.lookup deviceId).getD deviceId)
  streams : ∀ s ∈ w.streams, ∀ id, s.sends deviceId = some id →
    Shown w.devices deviceId (some s.scope) id

theorem confined_iff : w.Confined ↔ ∀ deviceId, w.Live deviceId → w.ShownAt deviceId := by
  constructor
  · intro confined deviceId live
    have confined := confined (.status deviceId .online 0) live
    refine ⟨fun s hs room => ?_, fun s hs id sends => ?_⟩
    · have delivered := confined _ (List.mem_append_left _
        (mem_forward_iff.mpr ⟨s, hs, room, rfl⟩))
      exact delivered
    · have delivered := confined ⟨some s.scope, .status id .online 0⟩ (List.mem_append_right _
        (List.mem_filterMap.mpr ⟨s, hs, Option.map_eq_some_iff.mpr ⟨id, sends, rfl⟩⟩))
      exact delivered
  · intro shown event live d hd
    obtain ⟨sockets, streams⟩ := shown event.deviceId live
    rcases List.mem_append.mp hd with hd | hd
    · obtain ⟨s, hs, room, rfl⟩ := mem_forward_iff.mp hd
      rw [DeviceEvent.deviceId_withDeviceId]
      exact sockets s hs room
    · obtain ⟨s, hs, hsends⟩ := List.mem_filterMap.mp hd
      obtain ⟨id, sends, rfl⟩ := Option.map_eq_some_iff.mp hsends
      rw [DeviceEvent.deviceId_withDeviceId]
      exact streams s hs id sends

/-- A step that adds no one to a room and no live stream, and changes no row. -/
theorem Confined.of_less (h : w.Confined) (devices : w'.devices = w.devices)
    (mapped : w'.physicalToEntityId = w.physicalToEntityId)
    (handling : ∀ event ∈ w'.handling, w.Live event.deviceId)
    (sockets : ∀ s' ∈ w'.sockets, ∀ deviceId, s'.InRoom deviceId →
      ∃ s ∈ w.sockets, s.InRoom deviceId ∧ s.scope = s'.scope)
    (streams : ∀ s' ∈ w'.streams, ∀ deviceId id, s'.sends deviceId = some id →
      ∃ s ∈ w.streams, s.sends deviceId = some id ∧ s.scope = s'.scope) : w'.Confined := by
  rw [confined_iff] at h ⊢
  intro deviceId live
  have before : w.Live deviceId := by
    rcases live with row | ⟨event, hevent, rfl⟩
    · exact Or.inl (devices ▸ row)
    · exact handling event hevent
  obtain ⟨hsockets, hstreams⟩ := h deviceId before
  refine ⟨fun s' hs' room => ?_, fun s' hs' id sends => ?_⟩
  · obtain ⟨s, hs, hroom, hscope⟩ := sockets s' hs' deviceId room
    rw [devices, mapped, ← hscope]
    exact hsockets s hs hroom
  · obtain ⟨s, hs, hsends, hscope⟩ := streams s' hs' deviceId id sends
    rw [devices, ← hscope]
    exact hstreams s hs id hsends

theorem Live.of_handling {event : DeviceEvent} (h : event ∈ w.handling) : w.Live event.deviceId :=
  Or.inr ⟨event, h, rfl⟩

/-- A socket keeps its token and is in no more rooms. -/
theorem Confined.of_modify_socket (h : w.Confined) (n : Nat) {f : Socket → Socket}
    (token : ∀ s, (f s).token = s.token)
    (rooms : ∀ s deviceId, (f s).InRoom deviceId → s.InRoom deviceId) :
    FeedWorld.Confined { w with sockets := w.sockets.modify n f } := by
  refine h.of_less rfl rfl (fun event => Live.of_handling) (fun s' hs' deviceId room => ?_)
    fun s hs deviceId id sends => ⟨s, hs, sends, rfl⟩
  rcases mem_modify_cases hs' with hs | ⟨s, hs, rfl⟩
  · exact ⟨s', hs, room, rfl⟩
  · refine ⟨s, List.mem_of_getElem? hs, rooms s deviceId room, ?_⟩
    unfold Socket.scope
    rw [token]

/-! ### Steps that show nothing new -/

theorem Confined.connect (h : w.Confined) (token : Option SocketData) :
    (w.step (.connect token)).Confined := by
  refine h.of_less rfl rfl (fun event => Live.of_handling) (fun s hs deviceId room => ?_)
    fun s hs deviceId id sends => ⟨s, hs, sends, rfl⟩
  rcases List.mem_append.mp hs with hs | hs
  · exact ⟨s, hs, room, rfl⟩
  · obtain rfl := List.mem_singleton.mp hs
    exact absurd room.2 List.not_mem_nil

theorem Confined.verify (h : w.Confined) (n : Nat) : (w.step (.verify n)).Confined := by
  refine h.of_modify_socket n (fun s => ?_) fun s deviceId room => ?_
  · unfold Socket.verify
    split <;> rfl
  · unfold Socket.verify at room
    split at room
    · exact room
    · exact absurd room.2 List.not_mem_nil

theorem Confined.disconnect (h : w.Confined) (n : Nat) : (w.step (.disconnect n)).Confined :=
  h.of_modify_socket n (fun _ => rfl) fun _ _ room => absurd room.2 List.not_mem_nil

theorem Confined.subscribe (h : w.Confined) (n : Nat) (entityId : String) :
    (w.step (.subscribeDevice n entityId)).Confined := by
  have same : ∀ s : Socket, (s.subscribe w.devices entityId).token = s.token ∧
      (s.subscribe w.devices entityId).connected = s.connected ∧
      (s.subscribe w.devices entityId).rooms = s.rooms := by
    intro s
    unfold Socket.subscribe
    split
    · split <;> exact ⟨rfl, rfl, rfl⟩
    · exact ⟨rfl, rfl, rfl⟩
  refine h.of_modify_socket n (fun s => (same s).1) fun s deviceId room => ?_
  obtain ⟨-, connected, rooms⟩ := same s
  exact ⟨connected ▸ room.1, rooms ▸ room.2⟩

theorem Confined.openStream (h : w.Confined) (account : SocketData) (deviceIds : List String) :
    (w.step (.streamDeviceEvents account deviceIds)).Confined := by
  refine h.of_less rfl rfl (fun event => Live.of_handling)
    (fun s hs deviceId room => ⟨s, hs, room, rfl⟩) fun s hs deviceId id sends => ?_
  rcases List.mem_append.mp hs with hs | hs
  · exact ⟨s, hs, sends, rfl⟩
  · obtain rfl := List.mem_singleton.mp hs
    cases sends

theorem Confined.closeStream (h : w.Confined) (n : Nat) :
    (w.step (.closeStream n)).Confined := by
  refine h.of_less rfl rfl (fun event => Live.of_handling)
    (fun s hs deviceId room => ⟨s, hs, room, rfl⟩) fun s hs deviceId id sends => ?_
  rcases mem_modify_cases hs with hs | ⟨s, hs, rfl⟩
  · exact ⟨s, hs, sends, rfl⟩
  · cases sends

theorem Confined.receive (h : w.Confined) (event : DeviceEvent) :
    (w.step (.receive event)).Confined := by
  unfold step
  dsimp only
  split_ifs with found
  · refine h.of_less rfl rfl (fun event' hevent => ?_)
      (fun s hs _ room => ⟨s, hs, room, rfl⟩) fun s hs _ _ sends => ⟨s, hs, sends, rfl⟩
    rcases List.mem_append.mp hevent with hevent | hevent
    · exact Live.of_handling hevent
    · obtain rfl := List.mem_singleton.mp hevent
      exact Or.inl (Option.isSome_iff_exists.mp found)
  · exact h

theorem Confined.emit (h : w.Confined) (k : Nat) : (w.step (.emit k)).Confined :=
  h.of_less rfl rfl (fun _ hevent => Live.of_handling (List.mem_of_mem_eraseIdx hevent))
    (fun s hs _ room => ⟨s, hs, room, rfl⟩) fun s hs _ _ sends => ⟨s, hs, sends, rfl⟩

/-! ### Registrations and deletions -/

theorem Shown.of_find {devices devices' : List DeviceEntity} {deviceId id : String}
    {scope : Option AccessScope} (h : Shown devices deviceId scope id)
    (same : findByDeviceId devices' deviceId = findByDeviceId devices deviceId) :
    Shown devices' deviceId scope id := by
  unfold Shown
  rw [same]
  exact h

/-- Every id under which events are sent has been issued. -/
theorem Sound.issued_of_room (sound : w.Sound) {s : Socket} (hs : s ∈ w.sockets)
    {deviceId : String} (room : s.InRoom deviceId) :
    ((w.physicalToEntityId.lookup deviceId).getD deviceId) ∈ w.issued := by
  obtain ⟨id, hid, hlookup⟩ := (sound.sockets s hs).rooms deviceId room.2
  rw [hlookup]
  exact hid

theorem Sound.issued_of_stream (sound : w.Sound) {s : SseStream} (hs : s ∈ w.streams)
    {deviceId id : String} (sends : s.sends deviceId = some id) : id ∈ w.issued :=
  (sound.streams s hs _ (SseStream.mem_of_get (SseStream.get_of_sends sends))).issued

/-- A physical id whose row is as before. -/
theorem Confined.elsewhere (h : w.Confined) {devices' : List DeviceEntity} {issued' : List String}
    {deviceId : String}
    (same : findByDeviceId devices' deviceId = findByDeviceId w.devices deviceId)
    (live : Live { w with devices := devices', issued := issued' } deviceId) :
    ShownAt { w with devices := devices', issued := issued' } deviceId := by
  have before : w.Live deviceId := by
    rcases live with ⟨found, hfound⟩ | handled
    · exact Or.inl ⟨found, same.symm.trans hfound⟩
    · exact Or.inr handled
  obtain ⟨sockets, streams⟩ := confined_iff.mp h deviceId before
  exact ⟨fun s hs room => (sockets s hs room).of_find same,
    fun s hs id sends => (streams s hs id sends).of_find same⟩

/-- A physical id that nobody follows. -/
theorem shownAt_of_unfollowed {deviceId : String} (unfollowed : ¬ w.Followed deviceId) :
    w.ShownAt deviceId := by
  refine ⟨fun s hs room => ?_, fun s hs id sends => ?_⟩
  · exact absurd (Or.inl ⟨s, hs, room⟩) unfollowed
  · exact absurd (Or.inr ⟨s, hs, sends ▸ Option.some_ne_none id⟩) unfollowed

/-- The new row has an id that nobody is sent. -/
theorem confined_register_iff (sound : w.Sound) (h : w.Confined) (id : String) (now : Date)
    (userId : String) (factoryId : Option String) (dto : RegisterDeviceDto) :
    (w.step (.registerDevice id now userId factoryId dto)).Confined ↔
      w.Spares (.registerDevice id now userId factoryId dto) := by
  unfold step Spares
  dsimp only
  split_ifs with taken
  · exact iff_of_true h fun untaken => absurd (taken.symm.trans untaken) (by simp)
  have fresh : id ∉ w.issued := by simpa using taken
  have untaken : w.issued.contains id = false := by simpa using taken
  simp only [untaken, true_implies]
  cases hrow : (registerDevice id now userId factoryId dto w.templates w.devices).2 with
  | none =>
    rw [afterRegister_of_none hrow]
    refine iff_of_true ?_ (by simp)
    exact h.of_less rfl rfl (fun event => Live.of_handling)
      (fun s hs _ room => ⟨s, hs, room, rfl⟩) fun s hs _ _ sends => ⟨s, hs, sends, rfl⟩
  | some row =>
    obtain ⟨hcreated, free⟩ := registerDevice_inserts hrow
    have hid : row.id = id := by rw [hcreated]; rfl
    rw [afterRegister_of_some hrow fun device hdevice same =>
      fresh (same ▸ sound.ids device hdevice)]
    have new : findByDeviceId (w.devices ++ [row]) row.deviceId = some row := by
      rw [findByDeviceId, Keyed.find_concat, Keyed.find_eq_none_iff.mpr free, if_pos rfl]
      rfl
    have old : ∀ deviceId, deviceId ≠ row.deviceId →
        findByDeviceId (w.devices ++ [row]) deviceId = findByDeviceId w.devices deviceId := by
      intro deviceId hne
      rw [findByDeviceId, Keyed.find_concat, if_neg hne.symm, Option.or_none]
      rfl
    simp only [Option.some_inj, forall_eq']
    rw [confined_iff]
    constructor
    · intro shown followed
      obtain ⟨sockets, streams⟩ := shown row.deviceId (Or.inl ⟨row, new⟩)
      rcases followed with ⟨s, hs, room⟩ | ⟨s, hs, sends⟩
      · obtain ⟨found, hfound, -, named⟩ := sockets s hs room
        obtain rfl := Option.some.inj (new.symm.trans hfound)
        exact fresh (hid ▸ named ▸ sound.issued_of_room hs room)
      · obtain ⟨sent, hsent⟩ := Option.ne_none_iff_exists'.mp sends
        obtain ⟨found, hfound, -, named⟩ := streams s hs sent hsent
        obtain rfl := Option.some.inj (new.symm.trans hfound)
        exact fresh (hid ▸ named ▸ sound.issued_of_stream hs hsent)
    · intro unfollowed deviceId live
      rcases eq_or_ne deviceId row.deviceId with rfl | hne
      · exact shownAt_of_unfollowed unfollowed
      · exact h.elsewhere (old deviceId hne) live

/-- An event that is being handled has no row any more. -/
theorem confined_delete_iff (sound : w.Sound) (h : w.Confined) (userId id : String) :
    (w.step (.deleteDevice userId id)).Confined ↔ w.Spares (.deleteDevice userId id) := by
  unfold step Spares
  dsimp only
  cases hfind : findOwnedDevice w.devices userId id with
  | none =>
    rw [afterDelete_of_none hfind]
    exact iff_of_true h (by simp)
  | some device =>
    obtain ⟨hdevice, -, -⟩ := (findInScope_eq_some_iff sound.keys).mp hfind
    rw [afterDelete_of_some hfind]
    have gone := findByDeviceId_remove sound.keys hdevice
    simp only [Option.some_inj, forall_eq']
    rw [confined_iff]
    constructor
    · intro shown handled followed
      obtain ⟨sockets, streams⟩ := shown device.deviceId (Or.inr handled)
      have none := (gone device.deviceId).trans (if_pos rfl)
      rcases followed with ⟨s, hs, room⟩ | ⟨s, hs, sends⟩
      · obtain ⟨found, hfound, -⟩ := sockets s hs room
        exact absurd (none.symm.trans hfound) (by simp)
      · obtain ⟨sent, hsent⟩ := Option.ne_none_iff_exists'.mp sends
        obtain ⟨found, hfound, -⟩ := streams s hs sent hsent
        exact absurd (none.symm.trans hfound) (by simp)
    · intro unfollowed deviceId live
      rcases eq_or_ne deviceId device.deviceId with rfl | hne
      · have handled : ∃ event ∈ w.handling, event.deviceId = device.deviceId := by
          rcases live with ⟨found, hfound⟩ | handled
          · rw [gone, if_pos rfl] at hfound
            cases hfound
          · exact handled
        exact shownAt_of_unfollowed (unfollowed handled)
      · exact h.elsewhere ((gone deviceId).trans (if_neg hne)) live

/-! ### Subscriptions and streams that start -/

theorem inRoom_join_self {s : Socket} {k : Nat} {deviceId : String}
    (connected : s.connected = true) : (s.join k deviceId).InRoom deviceId := by
  refine ⟨connected, ?_⟩
  unfold Socket.join
  rw [if_pos connected]
  exact List.mem_append_right _ (List.mem_singleton.mpr rfl)

/-- A socket that joins a room is in no other room but those it was in. -/
theorem inRoom_of_join {s : Socket} {k : Nat} {deviceId joined : String} (hne : deviceId ≠ joined)
    (room : (s.join k joined).InRoom deviceId) : s.InRoom deviceId := by
  refine ⟨room.1, ?_⟩
  have after := room.2
  unfold Socket.join at after
  dsimp only at after
  split_ifs at after
  · rcases List.mem_append.mp after with old | new
    · exact old
    · exact absurd (List.mem_singleton.mp new) hne
  · exact after

theorem confined_join_iff (sound : w.Sound) (h : w.Confined) (n k : Nat) :
    (w.step (.join n k)).Confined ↔ w.Spares (.join n k) := by
  unfold step Spares
  dsimp only
  cases hsub : w.sockets[n]?.bind (·.subscribing[k]?) with
  | none =>
    refine iff_of_true h fun s hs sub hk => absurd hsub ?_
    rw [hs, Option.bind_some, hk]
    exact Option.some_ne_none sub
  | some sub =>
    obtain ⟨s, hs, hk⟩ := Option.bind_eq_some_iff.mp hsub
    obtain ⟨data, found⟩ := sub
    have asked := (sound.sockets s (List.mem_of_getElem? hs)).asked _ (List.mem_of_getElem? hk)
    have own : s.join k found.deviceId ∈ w.sockets.modify n (Socket.join k found.deviceId) :=
      mem_modify_self hs
    have mapped : (((w.physicalToEntityId.insert found.deviceId found.id).lookup
        found.deviceId).getD found.deviceId) = found.id := by
      rw [Finmap.lookup_insert]
      rfl
    simp only [hs, Option.some_inj, forall_eq', hk]
    rw [confined_iff]
    constructor
    · intro shown live
      obtain ⟨sockets, -⟩ := shown found.deviceId live
      rw [mapped] at sockets
      refine ⟨fun ⟨other, hother, room⟩ => ?_, fun connected => ?_⟩
      · have cases := mem_modify_of_mem (n := n) (f := Socket.join k found.deviceId) hother
        rcases cases with still | itself
        · obtain ⟨row, hrow, -, named⟩ := sockets other still room
          exact ⟨row, hrow, named.symm⟩
        · obtain rfl := Option.some.inj (hs.symm.trans itself)
          obtain ⟨row, hrow, -, named⟩ := sockets _ own (inRoom_join_self room.1)
          exact ⟨row, hrow, named.symm⟩
      · obtain ⟨row, hrow, ⟨admitting, hscope, admitted⟩, named⟩ :=
          sockets _ own (inRoom_join_self connected)
        exact ⟨⟨row, hrow, named.symm⟩, fun _ => ⟨admitting, row, hscope, hrow, admitted⟩⟩
    · intro spares deviceId live
      obtain ⟨hsockets, hstreams⟩ := confined_iff.mp h deviceId live
      refine ⟨fun x hx room => ?_, hstreams⟩
      rcases eq_or_ne deviceId found.deviceId with rfl | hne
      · obtain ⟨others, itself⟩ := spares live
        rw [mapped]
        rcases mem_modify_cases hx with hx | ⟨y, hy, rfl⟩
        · obtain ⟨row, hrow, hid⟩ := others ⟨x, hx, room⟩
          obtain ⟨row', hrow', admitted, -⟩ := hsockets x hx room
          obtain rfl := Option.some.inj (hrow.symm.trans hrow')
          exact ⟨row, hrow, admitted, hid.symm⟩
        · obtain rfl := Option.some.inj (hs.symm.trans hy)
          obtain ⟨⟨row, hrow, hid⟩, early⟩ := itself room.1
          refine ⟨row, hrow, ?_, hid.symm⟩
          cases hdata : data with
          | none =>
            obtain ⟨admitting, row', hscope, hrow', admitted⟩ := early hdata
            obtain rfl := Option.some.inj (hrow.symm.trans hrow')
            exact ⟨admitting, hscope, admitted⟩
          | some claims =>
            -- the lookup had the claims of the token
            have hmem := ((findByDeviceId_eq_some_iff sound.keys).mp hrow).1
            have admitted := (asked.2.admits row hmem hid).2
            rw [hdata] at admitted
            refine ⟨_, ?_, admitted⟩
            show s.token.map _ = _
            rw [asked.1 claims hdata]
            rfl
      · rw [Finmap.lookup_insert_of_ne _ hne]
        rcases mem_modify_cases hx with hx | ⟨y, hy, rfl⟩
        · exact hsockets x hx room
        · exact hsockets y (List.mem_of_getElem? hy) (inRoom_of_join hne room)

theorem confined_start_iff (sound : w.Sound) (h : w.Confined) (n : Nat) :
    (w.step (.startStream n)).Confined ↔ w.Spares (.startStream n) := by
  unfold step Spares
  rw [confined_iff]
  dsimp only
  constructor
  · intro shown s hs opening deviceId id hget live
    have sends : s.start.sends deviceId = some id := by
      unfold SseStream.start
      rw [if_pos opening]
      exact hget
    obtain ⟨row, hrow, -, named⟩ := (shown deviceId live).2 s.start (mem_modify_self hs) id sends
    exact ⟨row, hrow, named.symm⟩
  · intro spares deviceId live
    obtain ⟨hsockets, hstreams⟩ := confined_iff.mp h deviceId live
    refine ⟨hsockets, fun x hx id sends => ?_⟩
    rcases mem_modify_cases hx with hx | ⟨s, hs, rfl⟩
    · exact hstreams x hx id sends
    · have hmem := List.mem_of_getElem? hs
      unfold SseStream.start at sends ⊢
      split_ifs at sends ⊢ with opening
      · have hget : s.get deviceId = some id :=
          SseStream.get_of_sends (s := { s with state := .live }) sends
        obtain ⟨row, hrow, hid⟩ := spares s hs opening deviceId id hget live
        have hrow' := ((findByDeviceId_eq_some_iff sound.keys).mp hrow).1
        have granted := sound.streams s hmem _ (SseStream.mem_of_get hget)
        exact ⟨row, hrow, ⟨s.scope, rfl, (granted.admits row hrow' hid).2⟩, hid.symm⟩
      · exact hstreams s hmem id sends

theorem confined_step_iff (sound : w.Sound) (h : w.Confined) (e : FeedEvent) :
    (w.step e).Confined ↔ w.Spares e := by
  cases e with
  | connect token => exact iff_of_true (h.connect token) trivial
  | verify n => exact iff_of_true (h.verify n) trivial
  | disconnect n => exact iff_of_true (h.disconnect n) trivial
  | subscribeDevice n entityId => exact iff_of_true (h.subscribe n entityId) trivial
  | join n k => exact confined_join_iff sound h n k
  | streamDeviceEvents account deviceIds =>
    exact iff_of_true (h.openStream account deviceIds) trivial
  | startStream n => exact confined_start_iff sound h n
  | closeStream n => exact iff_of_true (h.closeStream n) trivial
  | registerDevice id now userId factoryId dto =>
    exact confined_register_iff sound h id now userId factoryId dto
  | deleteDevice userId id => exact confined_delete_iff sound h userId id
  | receive event => exact iff_of_true (h.receive event) trivial
  | emit k => exact iff_of_true (h.emit k) trivial

/-- No socket, no stream, and the ids issued so far. -/
def start (devices : List DeviceEntity) (templates : List DeviceTemplateEntity)
    (issued : List String) : FeedWorld :=
  { devices, templates, issued }

theorem start_sound {devices : List DeviceEntity} (keys : Keys devices)
    (templates : List DeviceTemplateEntity) {issued : List String}
    (ids : ∀ device ∈ devices, device.id ∈ issued) : (start devices templates issued).Sound :=
  ⟨keys, ids, fun _ hs => absurd hs List.not_mem_nil, fun _ hs => absurd hs List.not_mem_nil⟩

theorem start_confined (devices : List DeviceEntity) (templates : List DeviceTemplateEntity)
    (issued : List String) : (start devices templates issued).Confined := by
  rw [confined_iff]
  intro deviceId _
  exact ⟨fun _ hs => absurd hs List.not_mem_nil, fun _ hs => absurd hs List.not_mem_nil⟩

end FeedWorld

open FeedWorld in
/-- From any database, in every state of a run, whoever can be sent an event has access to
the row registered under its physical id and is sent the id of that row, exactly when no
step of the run changes the row under those who follow it. -/
theorem feed_confined_iff {devices : List DeviceEntity} (keys : Keys devices)
    (templates : List DeviceTemplateEntity) (issued : List String)
    (ids : ∀ device ∈ devices, device.id ∈ issued) (es : List FeedEvent) :
    (∀ pre, pre <+: es → (Run.exec step (start devices templates issued) pre).Confined) ↔
      Run.Meets step Spares (start devices templates issued) es := by
  have init : (start devices templates issued).Sound ∧
      (start devices templates issued).Confined :=
    ⟨start_sound keys templates ids, start_confined devices templates issued⟩
  have keeps : ∀ w e, FeedWorld.Sound w ∧ Confined w → Spares w e →
      FeedWorld.Sound (w.step e) ∧ Confined (w.step e) :=
    fun w e h spares => ⟨h.1.step e, (confined_step_iff h.1 h.2 e).mpr spares⟩
  exact Run.always_iff_meets (fun w h => h.2) keeps
    (fun w e h => (confined_step_iff h.1 h.2 e).mp) init es

/-! ### A device that changes hands -/

def ownPump : DeviceEntity :=
  { id := "a", deviceId := "pump", name := "Pump", templateId := "t", userId := "u1" }

def pumpTemplate : DeviceTemplateEntity := ⟨"t", "Pump", .relayNode, none, none, true⟩

/-- The first owner subscribes, deletes the device, and another user registers it. -/
def handedOver : List FeedEvent :=
  [.connect (some ⟨"u1", .user, none⟩), .verify 0, .subscribeDevice 0 "a", .join 0 0,
    .deleteDevice "u1" "a", .registerDevice "b" 0 "u2" none ⟨"pump", "t", "Pump", none⟩]

/-- The first owner still gets the events of the device, under the id of the deleted row. -/
theorem feed_not_confined :
    ¬ (Run.exec FeedWorld.step (FeedWorld.start [ownPump] [pumpTemplate] ["a"])
      handedOver).Confined := by
  intro confined
  have sent := confined (.status "pump" .online 0) (Or.inl ⟨_, rfl⟩)
    ⟨some (.user "u1"), .status "a" .online 0⟩ (List.mem_singleton.mpr rfl)
  obtain ⟨row, hrow, -, named⟩ := sent
  obtain rfl := Option.some.inj hrow
  exact absurd named (by decide)

theorem ownPump_keys : Keys [ownPump] := ⟨List.nodup_singleton _, List.nodup_singleton _⟩

/-- The first owner is sent an event, and leaves before the device changes hands. -/
def leftBefore : List FeedEvent :=
  [.connect (some ⟨"u1", .user, none⟩), .verify 0, .subscribeDevice 0 "a", .join 0 0,
    .receive (.status "pump" .online 0), .emit 0, .disconnect 0, .deleteDevice "u1" "a",
    .registerDevice "b" 0 "u2" none ⟨"pump", "t", "Pump", none⟩]

theorem leftBefore_spares :
    Run.Meets FeedWorld.step FeedWorld.Spares
      (FeedWorld.start [ownPump] [pumpTemplate] ["a"]) leftBefore := by
  refine ⟨trivial, trivial, trivial, ?_, trivial, trivial, trivial, ?_, ?_, trivial⟩
  · intro s hs sub hsub live
    obtain rfl := Option.some.inj hs
    obtain rfl := Option.some.inj hsub
    refine ⟨fun _ => ⟨ownPump, rfl, rfl⟩, fun _ => ⟨⟨ownPump, rfl, rfl⟩, fun unverified => ?_⟩⟩
    cases unverified
  · rintro device - ⟨event, hevent, -⟩
    cases hevent
  · rintro - row - (⟨s, hs, room⟩ | ⟨s, hs, -⟩)
    · obtain rfl := List.mem_singleton.mp hs
      exact absurd room.1 (by decide)
    · cases hs

theorem feed_confined_iff_left :
    (∀ pre, pre <+: leftBefore →
      (Run.exec FeedWorld.step (FeedWorld.start [ownPump] [pumpTemplate] ["a"]) pre).Confined) ∧
    (Run.exec FeedWorld.step (FeedWorld.start [ownPump] [pumpTemplate] ["a"])
      (leftBefore.take 5)).deliveries (.status "pump" .online 0) =
        [⟨some (.user "u1"), .status "a" .online 0⟩] :=
  ⟨(feed_confined_iff ownPump_keys [pumpTemplate] ["a"] (by simp [ownPump])
    leftBefore).mpr leftBefore_spares, rfl⟩

end AiotCloud
