import AiotCloud.Lib.Keyed
import AiotCloud.Lib.RelyGuarantee
import AiotCloud.Ota

/-!
# The firmware catalogue

A build is uploaded, or registered with a link to where it is hosted. An upload writes the file
first and the row afterwards; the row has the checksum and the size of the bytes. Rows are
edited, pulled and deleted while devices are sent updates and ask for their manifests.

1. `moves_writeFile`: a file that is served stays as it is.
2. `triggerUpdate_honors`, `getManifest_honors`: what a device is handed.
3. `builds_genuine`: whatever a device is handed of an uploaded build fits the file that is
   served, in every interleaving and from then on.
-/

namespace AiotCloud

open Interleave

/-! ## The catalogue -/

structure CreateFirmwareDto where
  templateId : String
  version : String
  fileUrl : String
  checksum : Option String := none
  sizeBytes : Option Int := none
  releaseNotes : Option String := none
deriving DecidableEq, Repr

/-- A field that is missing is left as it is; `releaseNotes` may be `null`. -/
structure UpdateFirmwareDto where
  releaseNotes : Option (Option String) := none
  isActive : Option Bool := none
deriving DecidableEq, Repr

/-- A file under `UPLOAD_ROOT`. -/
structure StoredFile where
  name : String
  buffer : List UInt8
deriving DecidableEq, Repr

structure FirmwareWorld where
  ota : OtaWorld
  /-- The ids of the device templates. -/
  templates : List String
  files : List StoredFile

inductive FirmwareStep where
  | query
  | writeFile (file : StoredFile)
  | insert (row : FirmwareEntity)
  | save (copy : FirmwareEntity)
  | remove (id : String)
  | ota (step : OtaStep)

namespace FirmwareWorld

def isStored (w : FirmwareWorld) (id : String) : Bool := w.ota.firmwares.any (·.id = id)

/-- The world with other rows in the catalogue. -/
def withRows (w : FirmwareWorld) (rows : List FirmwareEntity) : FirmwareWorld :=
  { w with ota.firmwares := rows }

/-- An `INSERT` with a key that is there fails. A `save` looks for the row first, and inserts the
copy when there is none. -/
def act (w : FirmwareWorld) : FirmwareStep → FirmwareWorld
  | .query => w
  | .writeFile file => { w with files := Keyed.remove StoredFile.name file.name w.files ++ [file] }
  | .insert row => if w.isStored row.id then w else w.withRows (w.ota.firmwares ++ [row])
  | .save copy =>
    w.withRows (if w.isStored copy.id then
      Keyed.modify FirmwareEntity.id copy.id (fun _ => copy) w.ota.firmwares
    else w.ota.firmwares ++ [copy])
  | .remove id => w.withRows (Keyed.remove FirmwareEntity.id id w.ota.firmwares)
  | .ota step => { w with ota := w.ota.act step }

end FirmwareWorld

inductive FirmwareAnswer where
  | firmware (response : ResponseCore FirmwareEntity)
  | firmwares (response : ResponseCore (List FirmwareEntity))
  | removed (response : ResponseCore Unit)
  | ota (result : OtaResult)
  | manifest (response : ResponseCore OtaManifestDto)

abbrev FirmwareProc := Proc FirmwareWorld FirmwareStep FirmwareAnswer

/-- `${publicUrl}/uploads/firmware/${fileName}`. -/
def uploadUrl (publicUrl fileName : String) : String :=
  publicUrl ++ "/uploads/firmware/" ++ fileName

/-- The static route of the uploads. -/
def served (publicUrl : String) (w : FirmwareWorld) (url : String) : Option (List UInt8) :=
  (w.files.find? fun file => uploadUrl publicUrl file.name = url).map (·.buffer)

def getFirmwaresProc (templateId : Option String) : FirmwareProc := do
  let entities ← Proc.read .query fun w =>
    (w.ota.firmwares.filter fun row =>
      (templateId.filter (· ≠ "")).all (· = row.templateId)).mergeSort
        fun row row' => row'.createdAt ≤ row.createdAt
  pure (.firmwares (.ok entities))

/-- The rest of a call, after `findOneBy({ id })`. -/
def firmwareFound (next : FirmwareEntity → FirmwareProc) (missing : FirmwareAnswer) :
    Option FirmwareEntity → FirmwareProc
  | none => pure missing
  | some entity => next entity

def firmwareMissing : FirmwareAnswer := .firmware (.fail .notFound "error.firmwareNotFound")

def getFirmwareProc (id : String) : FirmwareProc :=
  Proc.read .query (findFirmware ·.ota id) >>=
    firmwareFound (fun entity => pure (.firmware (.ok entity))) firmwareMissing

/-- The database generates the key and the time. -/
def registeredFirmware (id : String) (createdAt : Date) (dto : CreateFirmwareDto) :
    FirmwareEntity :=
  { id := id
    templateId := dto.templateId
    version := dto.version
    fileUrl := dto.fileUrl
    checksum := dto.checksum
    sizeBytes := dto.sizeBytes
    releaseNotes := dto.releaseNotes
    isActive := true
    createdAt := createdAt }

def createFirmwareProc (id : String) (createdAt : Date) (dto : CreateFirmwareDto) :
    FirmwareProc := do
  let template ← Proc.read .query fun w => w.templates.contains dto.templateId
  if template = false then
    pure (.firmware (.fail .notFound "error.deviceTemplateNotFound"))
  else
    Proc.write (.insert (registeredFirmware id createdAt dto))
    pure (.firmware (.ok (registeredFirmware id createdAt dto)))

/-- `Object.assign(entity, dto)`. -/
def assignFirmware (dto : UpdateFirmwareDto) (entity : FirmwareEntity) : FirmwareEntity :=
  { entity with
    releaseNotes := dto.releaseNotes.getD entity.releaseNotes
    isActive := dto.isActive.getD entity.isActive }

def updateFirmwareProc (id : String) (dto : UpdateFirmwareDto) : FirmwareProc :=
  Proc.read .query (findFirmware ·.ota id) >>=
    firmwareFound (fun entity => do
      Proc.write (.save (assignFirmware dto entity))
      pure (.firmware (.ok (assignFirmware dto entity)))) firmwareMissing

def deleteFirmwareProc (id : String) : FirmwareProc :=
  Proc.read .query (findFirmware ·.ota id) >>=
    firmwareFound (fun entity => do
      Proc.write (.remove entity.id)
      pure (.removed ⟨.success, none, "success"⟩))
    (.removed (.fail .notFound "error.firmwareNotFound"))

section Upload

/- The digest in hexadecimal. -/
variable (publicUrl : String) (sha256 : List UInt8 → String)

def uploadedFirmware (id : String) (createdAt : Date) (templateId version : String)
    (releaseNotes : Option String) (fileName : String) (buffer : List UInt8) : FirmwareEntity :=
  { id := id
    templateId := templateId
    version := version
    fileUrl := uploadUrl publicUrl fileName
    checksum := some (sha256 buffer)
    sizeBytes := some buffer.length
    releaseNotes := releaseNotes
    isActive := true
    createdAt := createdAt }

def uploadFirmwareProc (id : String) (createdAt : Date) (templateId version : String)
    (releaseNotes : Option String) (fileName : String) (buffer : List UInt8) :
    FirmwareProc := do
  let template ← Proc.read .query fun w => w.templates.contains templateId
  if template = false then
    pure (.firmware (.fail .notFound "error.deviceTemplateNotFound"))
  else if buffer.isEmpty then
    pure (.firmware (.fail .badRequest "error.firmwareFileRequired"))
  else
    let entity := uploadedFirmware publicUrl sha256 id createdAt templateId version releaseNotes
      fileName buffer
    Proc.write (.writeFile ⟨fileName, buffer⟩)
    Proc.write (.insert entity)
    pure (.firmware (.ok entity))

end Upload

/-! ## Devices -/

def manifestOf (device : DeviceEntity) (firmware : Option FirmwareEntity) : OtaManifestDto :=
  let offered := firmware.filter fun _ => updateAvailable device firmware
  { deviceId := device.deviceId
    currentVersion := device.firmwareVersion
    updateAvailable := updateAvailable device firmware
    latestVersion := firmware.map (·.version)
    fileUrl := offered.map (·.fileUrl)
    checksum := offered.bind (·.checksum)
    sizeBytes := offered.bind (·.sizeBytes)
    releaseNotes := offered.bind (·.releaseNotes) }

/-- The rest of `getManifest`, after the query for the device. -/
def manifestFound : Option DeviceEntity → Proc OtaWorld OtaStep (ResponseCore OtaManifestDto)
  | none => pure (.fail .notFound "error.deviceNotFound")
  | some device => do
    let firmware ← Proc.read .readFirmware
      (findLatestActiveForTemplate ·.firmwares device.templateId)
    pure (.ok (manifestOf device firmware))

def getManifestProc (deviceId : String) :
    Proc OtaWorld OtaStep (ResponseCore OtaManifestDto) :=
  Proc.read .readDevice (fun w => if w.device.deviceId = deviceId then some w.device else none) >>=
    manifestFound

/-- Alone, the call answers what it does in one query. -/
theorem exec_getManifestProc (w : OtaWorld) (deviceId : String) :
    ((getManifestProc deviceId).exec OtaWorld.act w).2 = getManifest w deviceId := by
  unfold getManifestProc getManifest
  rw [Proc.read_bind, Proc.exec_step]
  split_ifs with own <;> rfl

inductive FirmwareCall where
  | getFirmwares (templateId : Option String)
  | getFirmware (id : String)
  | createFirmware (id : String) (createdAt : Date) (dto : CreateFirmwareDto)
  | uploadFirmware (id : String) (createdAt : Date) (templateId version : String)
      (releaseNotes : Option String) (fileName : String) (buffer : List UInt8)
  | updateFirmware (id : String) (dto : UpdateFirmwareDto)
  | deleteFirmware (id : String)
  | triggerUpdate (env : ApiConfig) (call : TriggerCall)
  | handleOtaStatusReport (report : OtaReport)
  | getManifest (deviceId : String)

section Calls

variable (publicUrl : String) (sha256 : List UInt8 → String)

def FirmwareCall.proc : FirmwareCall → FirmwareProc
  | getFirmwares templateId => getFirmwaresProc templateId
  | getFirmware id => getFirmwareProc id
  | createFirmware id createdAt dto => createFirmwareProc id createdAt dto
  | uploadFirmware id createdAt templateId version releaseNotes fileName buffer =>
    uploadFirmwareProc publicUrl sha256 id createdAt templateId version releaseNotes fileName buffer
  | updateFirmware id dto => updateFirmwareProc id dto
  | deleteFirmware id => deleteFirmwareProc id
  | triggerUpdate env call => do
    let result ← (AiotCloud.triggerUpdate env call).lift FirmwareWorld.ota FirmwareStep.ota
    pure (.ota result)
  | handleOtaStatusReport report => do
    let result ← (AiotCloud.handleOtaStatusReport report).lift FirmwareWorld.ota FirmwareStep.ota
    pure (.ota result)
  | getManifest deviceId => do
    let response ← (getManifestProc deviceId).lift FirmwareWorld.ota FirmwareStep.ota
    pure (.manifest response)

/-- Calls that have not begun. -/
def firmwareCalls {ι : Type} (w : FirmwareWorld) (calls : ι → FirmwareCall) :
    Sys ι FirmwareWorld FirmwareStep FirmwareAnswer :=
  ⟨w, fun i => (calls i).proc publicUrl sha256⟩

end Calls

/-! ## What a device is handed -/

/-- What names a build to a device. -/
structure Offer where
  templateId : String
  version : String
  url : String
  checksum : Option String
  size : Option Int

def FirmwareEntity.offer (row : FirmwareEntity) : Offer :=
  ⟨row.templateId, row.version, row.fileUrl, row.checksum, row.sizeBytes⟩

/-- The instruction, for a device of the template. -/
def OtaInstruction.offer (templateId : String) (instruction : OtaInstruction) : Offer :=
  ⟨templateId, instruction.version, instruction.url, instruction.checksum, instruction.size⟩

/-- What is uploaded. -/
structure Build where
  templateId : String
  version : String
  buffer : List UInt8

section Genuine

variable (publicUrl : String) (sha256 : List UInt8 → String) (build : String → Build)

/-- The offer is of the build. -/
structure OfBuild (b : Build) (offer : Offer) : Prop where
  templateId : offer.templateId = b.templateId
  version : offer.version = b.version
  checksum : offer.checksum = some (sha256 b.buffer)
  size : offer.size = some b.buffer.length

/-- If the offer names an uploaded file, the file is served, and the offer is of its build. -/
def Genuine (w : FirmwareWorld) (offer : Offer) : Prop :=
  ∀ name, offer.url = uploadUrl publicUrl name →
    served publicUrl w offer.url = some (build name).buffer ∧ OfBuild sha256 (build name) offer

/-- The file names are generated, each for one upload, and other builds are hosted elsewhere. -/
def FirmwareCall.Issued : FirmwareCall → Prop
  | uploadFirmware _ _ templateId version _ fileName buffer =>
    build fileName = ⟨templateId, version, buffer⟩
  | createFirmware _ _ dto => ∀ name, dto.fileUrl ≠ uploadUrl publicUrl name
  | _ => True

/-- The files are those of the builds, and every row and every instruction is genuine. The
device is one of the template. -/
structure SoundCatalogue (templateId : String) (w : FirmwareWorld) : Prop where
  files : ∀ file ∈ w.files, file.buffer = (build file.name).buffer
  rows : ∀ row ∈ w.ota.firmwares, Genuine publicUrl sha256 build w row.offer
  device : w.ota.device.templateId = templateId
  published : ∀ instruction ∈ w.ota.published,
    Genuine publicUrl sha256 build w (instruction.offer templateId)

/-- What is served stays. -/
def FirmwareWorld.Moves (w w' : FirmwareWorld) : Prop :=
  ∀ url buffer, served publicUrl w url = some buffer → served publicUrl w' url = some buffer

/-- The worlds are sound, and what is served stays. -/
def firmwareContract (templateId : String) : Contract FirmwareWorld where
  inv := SoundCatalogue publicUrl sha256 build templateId
  moves := FirmwareWorld.Moves publicUrl
  refl _ _ _ h := h
  trans first rest url buffer h := rest url buffer (first url buffer h)

end Genuine

section Steps

variable {publicUrl : String} {sha256 : List UInt8 → String} {build : String → Build}
  {templateId : String} {w w' : FirmwareWorld}

theorem uploadUrl_inj {name name' : String} :
    uploadUrl publicUrl name = uploadUrl publicUrl name' ↔ name = name' :=
  String.append_right_inj _

theorem served_uploadUrl (name : String) :
    served publicUrl w (uploadUrl publicUrl name) =
      (Keyed.find StoredFile.name name w.files).map (·.buffer) := by
  simp only [served, Keyed.find, uploadUrl_inj]

theorem served_cases {url : String} {buffer : List UInt8}
    (h : served publicUrl w url = some buffer) :
    ∃ file ∈ w.files, url = uploadUrl publicUrl file.name ∧ file.buffer = buffer := by
  obtain ⟨file, found, same⟩ := Option.map_eq_some_iff.mp h
  refine ⟨file, List.mem_of_find?_eq_some found, ?_, same⟩
  simpa [eq_comm] using List.find?_some found

theorem Genuine.moved {offer : Offer} (genuine : Genuine publicUrl sha256 build w offer)
    (moved : w.Moves publicUrl w') : Genuine publicUrl sha256 build w' offer :=
  fun name named => ⟨moved _ _ (genuine name named).1, (genuine name named).2⟩

theorem moves_of_files (same : w'.files = w.files) : w.Moves publicUrl w' := by
  intro url buffer h
  unfold served
  rw [same]
  exact h

theorem find_writeFile (file : StoredFile) (name : String) :
    Keyed.find StoredFile.name name (w.act (.writeFile file)).files =
      if name = file.name then some file else Keyed.find StoredFile.name name w.files := by
  have removed : Keyed.find StoredFile.name name (Keyed.remove StoredFile.name file.name w.files) =
      if name = file.name then none else Keyed.find StoredFile.name name w.files := by
    unfold Keyed.find Keyed.remove
    rw [List.find?_filter]
    split_ifs with same
    · subst same
      simp
    · have kept : ∀ other : StoredFile,
          other.name ≠ file.name ∧ other.name = name ↔ other.name = name :=
        fun other => and_iff_right_of_imp fun h => h ▸ same
      simp only [decide_eq_true_eq, kept]
  show Keyed.find StoredFile.name name (_ ++ [file]) = _
  rw [Keyed.find_concat, removed]
  by_cases same : name = file.name
  · simp [same]
  · simp [same, Ne.symm same]

/-- A file that is written again is written as it was. -/
theorem moves_writeFile (files : ∀ file ∈ w.files, file.buffer = (build file.name).buffer)
    {file : StoredFile} (own : file.buffer = (build file.name).buffer) :
    w.Moves publicUrl (w.act (.writeFile file)) := by
  intro url buffer h
  obtain ⟨old, hold, rfl, rfl⟩ := served_cases h
  rw [served_uploadUrl] at h ⊢
  rw [find_writeFile]
  split_ifs with same
  · rw [Option.map_some, own, files old hold, same]
  · exact h

/-- The rows may change to genuine ones. -/
theorem SoundCatalogue.withRows (sound : SoundCatalogue publicUrl sha256 build templateId w)
    {rows : List FirmwareEntity}
    (genuine : ∀ row ∈ rows, Genuine publicUrl sha256 build w row.offer) :
    (firmwareContract publicUrl sha256 build templateId).inv (w.withRows rows) ∧
      w.Moves publicUrl (w.withRows rows) :=
  have moved : w.Moves publicUrl (w.withRows rows) := moves_of_files rfl
  ⟨{ files := sound.files
     rows := fun row hrow => (genuine row hrow).moved moved
     device := sound.device
     published := fun instruction h => (sound.published instruction h).moved moved }, moved⟩

/-- Steps that write neither files nor rows. -/
theorem SoundCatalogue.ota (sound : SoundCatalogue publicUrl sha256 build templateId w)
    {step : OtaStep}
    (rows : (w.ota.act step).firmwares = w.ota.firmwares)
    (device : (w.ota.act step).device.templateId = w.ota.device.templateId)
    (published : ∀ instruction ∈ (w.ota.act step).published, instruction ∈ w.ota.published ∨
      Genuine publicUrl sha256 build w (instruction.offer templateId)) :
    (firmwareContract publicUrl sha256 build templateId).Allows FirmwareWorld.act w
      (.ota step) := by
  have moved : w.Moves publicUrl (w.act (.ota step)) := moves_of_files rfl
  refine ⟨⟨sound.files, ?_, device.trans sound.device, ?_⟩, moved⟩
  · intro row hrow
    have old : row ∈ w.ota.firmwares := rows ▸ hrow
    exact (sound.rows row old).moved moved
  · intro instruction h
    rcases published instruction h with old | genuine
    · exact (sound.published instruction old).moved moved
    · exact genuine.moved moved

theorem allows_writeFile (sound : SoundCatalogue publicUrl sha256 build templateId w)
    {file : StoredFile}
    (own : file.buffer = (build file.name).buffer) :
    (firmwareContract publicUrl sha256 build templateId).Allows FirmwareWorld.act w
      (.writeFile file) := by
  have moved : w.Moves publicUrl (w.act (.writeFile file)) := moves_writeFile sound.files own
  refine ⟨⟨?_, fun row hrow => (sound.rows row hrow).moved moved, sound.device,
    fun instruction h => (sound.published instruction h).moved moved⟩, moved⟩
  intro other hother
  rcases List.mem_append.mp hother with old | new
  · exact sound.files other (Keyed.mem_remove_iff.mp old).1
  · rw [List.mem_singleton.mp new]
    exact own

theorem allows_insert (sound : SoundCatalogue publicUrl sha256 build templateId w)
    {row : FirmwareEntity}
    (genuine : Genuine publicUrl sha256 build w row.offer) :
    (firmwareContract publicUrl sha256 build templateId).Allows FirmwareWorld.act w
      (.insert row) := by
  simp only [Contract.Allows, FirmwareWorld.act]
  split_ifs with there
  · exact ⟨sound, (firmwareContract publicUrl sha256 build templateId).refl w⟩
  · refine sound.withRows fun other hother => ?_
    rcases List.mem_append.mp hother with old | new
    · exact sound.rows other old
    · rwa [List.mem_singleton.mp new]

theorem allows_save (sound : SoundCatalogue publicUrl sha256 build templateId w)
    {copy : FirmwareEntity}
    (genuine : Genuine publicUrl sha256 build w copy.offer) :
    (firmwareContract publicUrl sha256 build templateId).Allows FirmwareWorld.act w
      (.save copy) := by
  refine sound.withRows fun other hother => ?_
  split_ifs at hother with there
  · rcases Keyed.mem_modify_iff.mp hother with ⟨-, -, -, rfl⟩ | ⟨old, -⟩
    · exact genuine
    · exact sound.rows other old
  · rcases List.mem_append.mp hother with old | new
    · exact sound.rows other old
    · rwa [List.mem_singleton.mp new]

theorem allows_remove (sound : SoundCatalogue publicUrl sha256 build templateId w) (id : String) :
    (firmwareContract publicUrl sha256 build templateId).Allows FirmwareWorld.act w
      (.remove id) :=
  sound.withRows fun other hother => sound.rows other (Keyed.mem_remove_iff.mp hother).1

/-! ## Calls -/

variable (publicUrl sha256 build templateId)

/-- What a call answers of builds is genuine; the manifest is for a device of the template. -/
def AnswersGenuine (w : FirmwareWorld) : FirmwareAnswer → Prop
  | .firmware response =>
    ∀ row ∈ response.data, Genuine publicUrl sha256 build w row.offer
  | .firmwares response =>
    ∀ rows ∈ response.data, ∀ row ∈ rows, Genuine publicUrl sha256 build w row.offer
  | .manifest response =>
    ∀ manifest ∈ response.data, ∀ url ∈ manifest.fileUrl, ∀ version ∈ manifest.latestVersion,
      Genuine publicUrl sha256 build w
        ⟨templateId, version, url, manifest.checksum, manifest.sizeBytes⟩
  | _ => True

/-- The call keeps to the contract, and answers so. -/
abbrev FirmwareProc.Honors (p : FirmwareProc) (w : FirmwareWorld) : Prop :=
  (firmwareContract publicUrl sha256 build templateId).Honors FirmwareWorld.act
    (AnswersGenuine publicUrl sha256 build templateId) p w

variable {publicUrl sha256 build templateId}

theorem answered_stable :
    (firmwareContract publicUrl sha256 build templateId).Stable
      (AnswersGenuine publicUrl sha256 build templateId) := by
  intro w w' answer moved answered
  cases answer with
  | firmware response => exact fun row hrow => (answered row hrow).moved moved
  | firmwares response =>
    exact fun rows hrows row hrow => (answered rows hrows row hrow).moved moved
  | manifest response =>
    exact fun manifest hm url hurl version hversion =>
      (answered manifest hm url hurl version hversion).moved moved
  | removed response => trivial
  | ota result => trivial

theorem getFirmwares_honors (id : Option String) :
    FirmwareProc.Honors publicUrl sha256 build templateId (getFirmwaresProc id) w := by
  refine Contract.honors_read_bind (fun _ => rfl) fun w' _ sound => ?_
  intro rows hrows row hrow
  obtain rfl := Option.some.inj hrows
  exact sound.rows row (List.mem_filter.mp (List.mem_mergeSort.mp hrow)).1

/-- A call that goes on with a row that it has found. -/
theorem firmwareFound_honors {id : String} {next : FirmwareEntity → FirmwareProc}
    {missing : FirmwareAnswer}
    (none : ∀ w, AnswersGenuine publicUrl sha256 build templateId w missing)
    (some : ∀ w entity, Genuine publicUrl sha256 build w entity.offer →
      FirmwareProc.Honors publicUrl sha256 build templateId (next entity) w) :
    FirmwareProc.Honors publicUrl sha256 build templateId
      (Proc.read .query (findFirmware ·.ota id) >>= firmwareFound next missing) w := by
  refine Contract.honors_read_bind (fun _ => rfl) fun w' _ sound => ?_
  cases found : findFirmware w'.ota id with
  | none => exact none w'
  | some entity => exact some w' entity (sound.rows entity (List.mem_of_find?_eq_some found))

theorem missing_answered (w : FirmwareWorld) :
    AnswersGenuine publicUrl sha256 build templateId w firmwareMissing := by
  intro row hrow
  cases hrow

theorem getFirmware_honors (id : String) :
    FirmwareProc.Honors publicUrl sha256 build templateId (getFirmwareProc id) w :=
  firmwareFound_honors missing_answered fun _ _ genuine _ hrow => Option.some.inj hrow ▸ genuine

theorem updateFirmware_honors (id : String) (dto : UpdateFirmwareDto) :
    FirmwareProc.Honors publicUrl sha256 build templateId (updateFirmwareProc id dto) w := by
  refine firmwareFound_honors missing_answered fun w' entity genuine => ?_
  refine Contract.honors_write_bind fun s moved sound => ?_
  have now : Genuine publicUrl sha256 build s (assignFirmware dto entity).offer :=
    genuine.moved moved
  have allowed := allows_save sound now
  refine ⟨allowed, fun row hrow => ?_⟩
  rw [← Option.some.inj hrow]
  exact now.moved allowed.2

theorem deleteFirmware_honors (id : String) :
    FirmwareProc.Honors publicUrl sha256 build templateId (deleteFirmwareProc id) w :=
  firmwareFound_honors (fun _ => trivial) fun _ entity _ =>
    Contract.honors_write_bind fun _ _ sound => ⟨allows_remove sound entity.id, trivial⟩

theorem createFirmware_honors (id : String) (createdAt : Date) {dto : CreateFirmwareDto}
    (elsewhere : ∀ name, dto.fileUrl ≠ uploadUrl publicUrl name) :
    FirmwareProc.Honors publicUrl sha256 build templateId (createFirmwareProc id createdAt dto)
      w := by
  have genuine : ∀ w,
      Genuine publicUrl sha256 build w (registeredFirmware id createdAt dto).offer :=
    fun w name named => absurd named (elsewhere name)
  refine Contract.honors_read_bind (fun _ => rfl) fun w' _ _ => ?_
  split_ifs with absent
  · intro row hrow
    cases hrow
  · refine Contract.honors_write_bind fun s _ sound => ⟨allows_insert sound (genuine s), ?_⟩
    intro row hrow
    rw [← Option.some.inj hrow]
    exact genuine _

theorem uploaded_genuine (id : String) (createdAt : Date) {version : String}
    (releaseNotes : Option String) {fileName : String} {buffer : List UInt8} {template : String}
    (issued : build fileName = ⟨template, version, buffer⟩)
    (stored : served publicUrl w (uploadUrl publicUrl fileName) = some buffer) :
    Genuine publicUrl sha256 build w
      (uploadedFirmware publicUrl sha256 id createdAt template version releaseNotes fileName
        buffer).offer := by
  intro name named
  obtain rfl := uploadUrl_inj.mp named
  rw [issued]
  exact ⟨stored, rfl, rfl, rfl, rfl⟩

/-- The file is served before the row is there. -/
theorem uploadFirmware_honors (id : String) (createdAt : Date) {template version : String}
    (releaseNotes : Option String) {fileName : String} {buffer : List UInt8}
    (issued : build fileName = ⟨template, version, buffer⟩) :
    FirmwareProc.Honors publicUrl sha256 build templateId
      (uploadFirmwareProc publicUrl sha256 id createdAt template version releaseNotes fileName
        buffer) w := by
  refine Contract.honors_read_bind (fun _ => rfl) fun w' _ _ => ?_
  split_ifs with absent empty
  · intro row hrow
    cases hrow
  · intro row hrow
    cases hrow
  · refine Contract.honors_write_bind fun s _ sound => ?_
    have own : (StoredFile.mk fileName buffer).buffer = (build fileName).buffer := by rw [issued]
    refine ⟨allows_writeFile sound own, ?_⟩
    have stored : served publicUrl (s.act (.writeFile ⟨fileName, buffer⟩))
        (uploadUrl publicUrl fileName) = some buffer := by
      rw [served_uploadUrl, find_writeFile, if_pos rfl]
      rfl
    have genuine : Genuine publicUrl sha256 build _ _ :=
      uploaded_genuine id createdAt releaseNotes issued stored
    refine Contract.honors_write_bind fun s' moved sound' => ?_
    have allowed := allows_insert sound' (genuine.moved moved)
    refine ⟨allowed, fun row hrow => ?_⟩
    rw [← Option.some.inj hrow]
    exact (genuine.moved moved).moved allowed.2

/-! ### Devices -/

theorem checkUpdate_template {device : DeviceEntity} {firmware? : Option FirmwareEntity}
    {firmware : FirmwareEntity} (h : checkUpdate device firmware? = .ok firmware) :
    firmware? = some firmware ∧ firmware.templateId = device.templateId := by
  cases firmware? with
  | none => simp [checkUpdate] at h
  | some found =>
    have same : found.templateId = device.templateId := by
      by_contra mismatch
      simp [checkUpdate, mismatch] at h
    simp only [checkUpdate, same, ne_eq, not_true_eq_false, if_false] at h
    split at h
    · cases h
    · split at h
      · cases h
      · split at h
        · cases h
        · obtain rfl := Except.ok.inj h
          exact ⟨rfl, same⟩

theorem sendUpdate_offer {env : ApiConfig} {call : TriggerCall} {device : DeviceEntity}
    {firmware : FirmwareEntity} {instruction : OtaInstruction}
    (h : sendUpdate env call device firmware = .ok instruction) :
    instruction.offer firmware.templateId = firmware.offer := by
  unfold sendUpdate at h
  split at h <;> split_ifs at h <;> simp only [Except.ok.injEq] at h <;> subst h <;> rfl

/-- The instruction that goes out is that of the row which was read, for the device's template. -/
theorem planUpdate_offer {env : ApiConfig} {call : TriggerCall} {device : DeviceEntity}
    {firmware? : Option FirmwareEntity} {firmware : FirmwareEntity} {instruction : OtaInstruction}
    (h : planUpdate env call device firmware? = .ok (firmware, instruction)) :
    firmware? = some firmware ∧ instruction.offer device.templateId = firmware.offer := by
  obtain ⟨found, same⟩ := checkUpdate_template (planUpdate_eq_ok h)
  refine ⟨found, ?_⟩
  unfold planUpdate at h
  split at h
  · cases h
  · split at h
    · cases h
    · next hsend =>
      obtain ⟨rfl, rfl⟩ := Prod.mk.inj (Except.ok.inj h)
      rw [← same]
      exact sendUpdate_offer hsend

/-- A call of the OTA service within the contract. -/
abbrev OtaHonors {α : Type} (publicUrl : String) (sha256 : List UInt8 → String)
    (build : String → Build) (templateId : String) (post : FirmwareWorld → α → Prop)
    (p : Proc OtaWorld OtaStep α) (w : FirmwareWorld) : Prop :=
  (firmwareContract publicUrl sha256 build templateId).Honors FirmwareWorld.act post
    (p.lift FirmwareWorld.ota FirmwareStep.ota) w

/-- A step that saves a device of the template, or a history row. -/
theorem SoundCatalogue.otaSave (sound : SoundCatalogue publicUrl sha256 build templateId w)
    {step : OtaStep}
    (rows : (w.ota.act step).firmwares = w.ota.firmwares)
    (published : (w.ota.act step).published = w.ota.published)
    (device : (w.ota.act step).device.templateId = templateId) :
    (firmwareContract publicUrl sha256 build templateId).Allows FirmwareWorld.act w
      (.ota step) :=
  sound.ota rows (device.trans sound.device.symm) fun _ h => Or.inl (published ▸ h)

theorem bookUpdate_honors (call : TriggerCall) {device : DeviceEntity}
    (ofTemplate : device.templateId = templateId) (firmware : FirmwareEntity) :
    OtaHonors publicUrl sha256 build templateId (fun _ _ => True)
      (bookUpdate call device firmware) w := by
  simp only [OtaHonors, bookUpdate, Proc.lift_bind, Proc.lift_write]
  refine Contract.honors_write_bind fun s _ sound => ⟨sound.otaSave rfl rfl ofTemplate, ?_⟩
  exact Contract.honors_write_bind fun s' _ sound' =>
    ⟨sound'.otaSave rfl rfl sound'.device, trivial⟩

theorem triggerUpdate_honors (env : ApiConfig) (call : TriggerCall) :
    OtaHonors publicUrl sha256 build templateId (fun _ _ => True) (triggerUpdate env call) w := by
  simp only [OtaHonors, triggerUpdate, Proc.lift_bind, Proc.lift_read]
  refine Contract.honors_read_bind (fun _ => rfl) fun s _ sound => ?_
  cases found : findOwned s.ota call with
  | none => trivial
  | some device =>
    have ofTemplate : device.templateId = templateId := by
      unfold findOwned at found
      split_ifs at found
      rw [← Option.some.inj found]
      exact sound.device
    simp only [continueUpdate, Proc.lift_bind, Proc.lift_read]
    refine Contract.honors_read_bind (fun _ => rfl) fun s' _ sound' => ?_
    unfold finishUpdate
    split
    · trivial
    · next firmware instruction planned =>
      obtain ⟨hfirmware, same⟩ := planUpdate_offer planned
      have genuine : Genuine publicUrl sha256 build s' firmware.offer :=
        sound'.rows firmware (List.mem_of_find?_eq_some hfirmware)
      simp only [Proc.lift_bind, Proc.lift_write]
      refine Contract.honors_write_bind fun s'' moved sound'' => ⟨?_, ?_⟩
      · refine sound''.ota rfl rfl fun sent hsent => ?_
        rcases List.mem_append.mp hsent with old | new
        · exact Or.inl old
        · rw [List.mem_singleton.mp new, ← ofTemplate, same]
          exact Or.inr (genuine.moved moved)
      · exact bookUpdate_honors call ofTemplate firmware

theorem handleOtaStatusReport_honors (report : OtaReport) :
    OtaHonors publicUrl sha256 build templateId (fun _ _ => True)
      (handleOtaStatusReport report) w := by
  simp only [OtaHonors, handleOtaStatusReport, Proc.lift_bind, Proc.lift_read]
  refine Contract.honors_read_bind (fun _ => rfl) fun s _ sound => ?_
  unfold continueReport
  split
  · trivial
  · next device applied =>
    have ofTemplate : device.templateId = templateId := by
      obtain ⟨row, status, progress, found, -, -, rfl⟩ := applyReport_eq_ok_iff.mp applied
      unfold findReported at found
      split_ifs at found
      rw [← sound.device, ← Option.some.inj found]
      rfl
    simp only [Proc.lift_bind, Proc.lift_write]
    refine Contract.honors_write_bind fun s' _ sound' => ⟨sound'.otaSave rfl rfl ofTemplate, ?_⟩
    simp only [closeReport, Proc.lift_bind, Proc.lift_read]
    refine Contract.honors_read_bind (fun _ => rfl) fun s'' _ _ => ?_
    unfold finishReport
    split
    · split_ifs
      · simp only [Proc.lift_bind, Proc.lift_write]
        refine Contract.honors_write_bind fun last _ inv => ?_
        have sound : SoundCatalogue publicUrl sha256 build templateId last := inv
        exact ⟨sound.otaSave rfl rfl sound.device, trivial⟩
      · trivial
    · trivial

theorem mem_of_latest {firmwares : List FirmwareEntity} {row : FirmwareEntity}
    (latest : findLatestActiveForTemplate firmwares templateId = some row) :
    row ∈ firmwares ∧ row.templateId = templateId := by
  obtain ⟨hrow, selected⟩ := List.mem_filter.mp (List.argmax_mem latest)
  simp only [Bool.and_eq_true, beq_iff_eq] at selected
  exact ⟨hrow, selected.1⟩

theorem manifestOf_genuine {device : DeviceEntity} (ofTemplate : device.templateId = templateId)
    (sound : SoundCatalogue publicUrl sha256 build templateId w) {url version : String}
    (hurl : (manifestOf device
      (findLatestActiveForTemplate w.ota.firmwares device.templateId)).fileUrl = some url)
    (hversion : (manifestOf device
      (findLatestActiveForTemplate w.ota.firmwares device.templateId)).latestVersion =
        some version) :
    let manifest := manifestOf device
      (findLatestActiveForTemplate w.ota.firmwares device.templateId)
    Genuine publicUrl sha256 build w
      ⟨templateId, version, url, manifest.checksum, manifest.sizeBytes⟩ := by
  cases latest : findLatestActiveForTemplate w.ota.firmwares device.templateId with
  | none => simp [manifestOf, latest] at hversion
  | some row =>
    obtain ⟨hrow, same⟩ := mem_of_latest latest
    obtain ⟨found, offered, rfl⟩ := Option.map_eq_some_iff.mp hurl
    simp only [latest] at offered
    obtain rfl := Option.some.inj (Option.filter_eq_some_iff.mp offered).1
    obtain rfl : row.version = version := by simpa [manifestOf, latest] using hversion
    simp only [manifestOf, offered, Option.bind_some, ← ofTemplate, ← same]
    exact sound.rows row hrow

/-- A manifest offers a row that is there when the catalogue is read. -/
theorem getManifest_honors (deviceId : String) :
    OtaHonors publicUrl sha256 build templateId
      (fun w response => AnswersGenuine publicUrl sha256 build templateId w (.manifest response))
      (getManifestProc deviceId) w := by
  simp only [OtaHonors, getManifestProc, Proc.lift_bind, Proc.lift_read]
  refine Contract.honors_read_bind (fun _ => rfl) fun s _ sound => ?_
  split_ifs with own
  · simp only [manifestFound, Proc.lift_bind, Proc.lift_read]
    refine Contract.honors_read_bind (fun _ => rfl) fun s' _ sound' => ?_
    intro manifest hmanifest url hurl version hversion
    obtain rfl := Option.some.inj hmanifest
    exact manifestOf_genuine sound.device sound' hurl hversion
  · intro manifest hmanifest
    cases hmanifest

theorem call_honors (call : FirmwareCall) (issued : call.Issued publicUrl build) :
    FirmwareProc.Honors publicUrl sha256 build templateId (call.proc publicUrl sha256) w := by
  cases call with
  | getFirmwares id => exact getFirmwares_honors id
  | getFirmware id => exact getFirmware_honors id
  | createFirmware id createdAt dto => exact createFirmware_honors id createdAt issued
  | uploadFirmware id createdAt template version releaseNotes fileName buffer =>
    exact uploadFirmware_honors id createdAt releaseNotes issued
  | updateFirmware id dto => exact updateFirmware_honors id dto
  | deleteFirmware id => exact deleteFirmware_honors id
  | triggerUpdate env call => exact (triggerUpdate_honors env call).bind fun _ _ _ => trivial
  | handleOtaStatusReport report =>
    exact (handleOtaStatusReport_honors report).bind fun _ _ _ => trivial
  | getManifest deviceId => exact (getManifest_honors deviceId).bind fun _ _ answered => answered

end Steps

/-- In every interleaving of the calls, an instruction that was sent and a manifest that was
answered fit the file that is served, now and from now on: its bytes are those that were uploaded
as this version for the template of the device, with this checksum and this size. -/
theorem builds_genuine {ι : Type} [DecidableEq ι] {publicUrl : String}
    {sha256 : List UInt8 → String} {build : String → Build} {templateId : String}
    {w : FirmwareWorld} (sound : SoundCatalogue publicUrl sha256 build templateId w)
    {calls : ι → FirmwareCall} (issued : ∀ i, (calls i).Issued publicUrl build)
    (sched : List ι) :
    let c := (firmwareCalls publicUrl sha256 w calls).run FirmwareWorld.act sched
    SoundCatalogue publicUrl sha256 build templateId c.shared ∧
      ∀ i answer, c.Returned i answer →
        AnswersGenuine publicUrl sha256 build templateId c.shared answer := by
  have begun : Sys.Honored (firmwareContract publicUrl sha256 build templateId) FirmwareWorld.act
      (fun _ => AnswersGenuine publicUrl sha256 build templateId)
      (firmwareCalls publicUrl sha256 w calls) :=
    ⟨sound, fun i => call_honors (calls i) (issued i)⟩
  have honored := Sys.honored_run (fun _ => answered_stable) begun sched
  exact ⟨honored.inv, fun i answer returned => honored.returned returned⟩

/-! ### A build that is deleted while it is sent -/

def emptyCatalogue : FirmwareWorld where
  ota := { device := plainRelay, history := [], firmwares := [], published := [] }
  templates := [plainRelay.templateId]
  files := []

def relayBuild : Build := ⟨plainRelay.templateId, "1.1.0", [1, 2, 3]⟩

def relayUpdate : TriggerCall :=
  { userId := plainRelay.userId, id := plainRelay.id, dto := ⟨"f1"⟩, now := 20, producer := true
    kafka := .sent, mqtt := true }

/-- An upload, an update of the device to it, its deletion, and a manifest. -/
def relayCalls : Fin 4 → FirmwareCall
  | 0 => .uploadFirmware "f1" 10 relayBuild.templateId relayBuild.version none "b1.bin"
      relayBuild.buffer
  | 1 => .triggerUpdate defaultEnv relayUpdate
  | 2 => .deleteFirmware "f1"
  | 3 => .getManifest plainRelay.deviceId

theorem emptyCatalogue_sound (publicUrl : String) (sha256 : List UInt8 → String)
    (build : String → Build) :
    SoundCatalogue publicUrl sha256 build plainRelay.templateId emptyCatalogue :=
  ⟨by simp [emptyCatalogue], by simp [emptyCatalogue], rfl, by simp [emptyCatalogue]⟩

/-- The row is deleted between the query of the update and its instruction. -/
theorem builds_genuine_relay :
    let c := (firmwareCalls "https://iot" toString emptyCatalogue relayCalls).run
      FirmwareWorld.act [0, 0, 0, 1, 1, 2, 2, 1, 1, 1, 3, 3]
    SoundCatalogue "https://iot" toString (fun _ => relayBuild) plainRelay.templateId c.shared ∧
      ∀ i answer, c.Returned i answer →
        AnswersGenuine "https://iot" toString (fun _ => relayBuild) plainRelay.templateId c.shared
          answer :=
  builds_genuine (emptyCatalogue_sound _ _ _)
    (fun i => match i with
      | 0 => rfl
      | 1 | 2 | 3 => trivial) _

end AiotCloud
