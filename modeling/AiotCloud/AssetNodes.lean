import AiotCloud.DeviceRow

/-!
# Devices attached to an asset

The calls of `AssetService` that change the device row. The assessment they answer with
is not part of this file.
-/

namespace AiotCloud

/-- The columns of `assets` but those of the health assessment. -/
structure AssetEntity where
  id : String
  userId : String
  factoryId : Option String := none
  name : String := ""
  type : AssetType := .other
  description : Option String := none
  installedAt : Option Date := none
  expectedLifespanMonths : Option Int := none
deriving DecidableEq, Repr

/-- The row `attachNode` saves. -/
def attachedTo (asset : AssetEntity) (healthWeight : Option Rat) (device : DeviceEntity) :
    DeviceEntity :=
  { device with
    assetId := some asset.id
    healthWeight := healthWeight.getD device.healthWeight }

/-- `attachNode` after its two lookups. -/
def attachNode (healthWeight : Option Rat) :
    Option AssetEntity → Option DeviceEntity → Except Failure Persist
  | none, _ => .error (.notFound, "error.assetNotFound")
  | some _, none => .error (.notFound, "error.deviceNotFound")
  | some asset, some device => .ok (.save (attachedTo asset healthWeight device))

/-- `findOneBy({ id, userId, assetId })` on the row with the id. -/
def findNode (asset : AssetEntity) (device : DeviceEntity) : Option DeviceEntity :=
  if device.userId = asset.userId ∧ device.assetId = some asset.id then some device else none

/-- `updateNodeWeight` after its two lookups. -/
def updateNodeWeight (healthWeight : Rat) :
    Option AssetEntity → Option DeviceEntity → Except Failure Persist
  | none, _ => .error (.notFound, "error.assetNotFound")
  | some _, none => .error (.notFound, "error.deviceNotFound")
  | some _, some device => .ok (.save { device with healthWeight := healthWeight })

/-- `detachNode` after its two lookups. -/
def detachNode : Option AssetEntity → Option DeviceEntity → Except Failure Persist
  | none, _ => .error (.notFound, "error.assetNotFound")
  | some _, none => .error (.notFound, "error.deviceNotFound")
  | some _, some device => .ok (.save { device with assetId := none })

end AiotCloud
