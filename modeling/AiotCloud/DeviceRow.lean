import AiotCloud.Entities

/-!
# Writing the device row, and what is announced

The two ways the services write a loaded device back, and the domain events
they emit.

* `save entity` writes every column whose value in the copy differs from the
  row at that time. The copy holds all columns, so the row becomes the copy.
* `update(id, columns)` writes the named columns and no other.

`DevicePatch` has the columns that some `update` call names.
-/

namespace AiotCloud

/-- The columns of an `update` call; `none` where the call does not name it. -/
structure DevicePatch where
  lastSeenAt : Option Date := none
  status : Option DeviceStatus := none
  channelStates : Option (Record String) := none
  lifecycleStage : Option DeviceLifecycleStage := none
  lifecycleScore : Option Int := none
  lifecycleAssessedAt : Option Date := none

def DevicePatch.apply (p : DevicePatch) (d : DeviceEntity) : DeviceEntity :=
  { d with
    lastSeenAt := p.lastSeenAt <|> d.lastSeenAt
    status := p.status.getD d.status
    channelStates := p.channelStates <|> d.channelStates
    lifecycleStage := p.lifecycleStage.getD d.lifecycleStage
    lifecycleScore := p.lifecycleScore <|> d.lifecycleScore
    lifecycleAssessedAt := p.lifecycleAssessedAt <|> d.lifecycleAssessedAt }

/-- One write to the device row. -/
inductive Persist where
  | save (entity : DeviceEntity)
  | update (columns : DevicePatch)

/-- The row after the write. -/
def Persist.commit (row : DeviceEntity) : Persist → DeviceEntity
  | save entity => entity
  | update columns => columns.apply row

@[simp] theorem Persist.commit_save (row entity : DeviceEntity) :
    Persist.commit row (.save entity) = entity := rfl

@[simp] theorem Persist.commit_update (row : DeviceEntity) (columns : DevicePatch) :
    Persist.commit row (.update columns) = columns.apply row := rfl

/-! ## JSON from outside -/

/-- A parsed JSON value. -/
inductive Json where
  | null
  | bool (b : Bool)
  | number (n : Rat)
  | string (s : String)
  | array (items : List Json)
  | object (fields : List (String × Json))

/-! ## Domain events -/

/-- The events of `EventEmitter2` that the device services emit. -/
inductive DeviceEvent where
  | telemetry (deviceId : String) (payload : Json) (recordedAt : Date)
  | status (deviceId : String) (status : DeviceStatus) (changedAt : Date)
  | channelState (deviceId : String) (channelStates : Record String) (changedAt : Date)
  | actionResult (deviceId key : String) (value : Option String) (ok : Bool)
      (error : Option String) (changedAt : Date)
  | otaStatus (deviceId : String) (status : DeviceOtaStatus) (version : Option String)
      (progress : Option Int) (error : Option String) (changedAt : Date)

end AiotCloud
