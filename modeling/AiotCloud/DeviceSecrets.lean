import AiotCloud.DeviceRegistry
import AiotCloud.Lib.Interleave

/-!
# Device secrets

Routes that firmware calls are behind `DeviceSecretGuard`: the `x-device-secret` header has to
be a secret that was issued and not revoked, and the device in the path has to be registered.
The two are separate queries. Between them, and between the read and the save of a revocation,
any other call can take a step.

* `Sound`: what the table of secrets is, at every point, in terms of the calls that have
  answered.
* `admitted_iff`: when a request is let in.
* `revocation_final`: after a revocation has answered, its secret lets no later request in.
-/

namespace AiotCloud

open Interleave

/-! ## Rows -/

structure DeviceSecretEntity where
  id : String
  createdAt : Date
  label : Option String
  secretHash : String
  createdByUserId : String
  revokedAt : Option Date
deriving DecidableEq, Repr

structure DeviceSecretDto where
  id : String
  createdAt : Date
  label : Option String
  createdByUserId : String
  revokedAt : Option Date
deriving DecidableEq, Repr

def DeviceSecretEntity.toDto (entity : DeviceSecretEntity) : DeviceSecretDto :=
  { id := entity.id
    createdAt := entity.createdAt
    label := entity.label
    createdByUserId := entity.createdByUserId
    revokedAt := entity.revokedAt }

structure CreateDeviceSecretDto where
  label : Option String := none
deriving DecidableEq, Repr

structure SecretTables where
  secrets : List DeviceSecretEntity
  devices : List DeviceEntity

namespace SecretTables

/-- The primary key or the unique index on `secret_hash` refuses the row. -/
def Refuses (w : SecretTables) (row : DeviceSecretEntity) : Prop :=
  ∃ secret ∈ w.secrets, secret.id = row.id ∨ secret.secretHash = row.secretHash

instance (w : SecretTables) (row : DeviceSecretEntity) : Decidable (w.Refuses row) :=
  inferInstanceAs (Decidable (∃ secret ∈ w.secrets, _))

/-- `findOneBy({ id })`. -/
def findSecret (w : SecretTables) (id : String) : Option DeviceSecretEntity :=
  Keyed.find DeviceSecretEntity.id id w.secrets

/-- `findOneBy({ secretHash, revokedAt: IsNull() })` is not `null`. -/
def verify (w : SecretTables) (secretHash : String) : Bool :=
  w.secrets.any fun secret => secret.secretHash == secretHash && secret.revokedAt.isNone

end SecretTables

/-! ## Steps -/

/-- A registration or a deletion, each in a transaction. -/
inductive DeviceChange where
  | registerDevice (id : String) (now : Date) (userId : String) (factoryId : Option String)
      (dto : RegisterDeviceDto) (templates : List DeviceTemplateEntity)
  | deleteDevice (userId id : String)

def DeviceChange.after (devices : List DeviceEntity) : DeviceChange → List DeviceEntity
  | registerDevice id now userId factoryId dto templates =>
    afterRegister id now userId factoryId dto templates devices
  | deleteDevice userId id => afterDelete userId id devices

inductive SecretStep where
  | insert (row : DeviceSecretEntity)
  | readSecrets
  | saveRevoked (id : String) (now : Date)
  | readDevices
  | changeDevices (call : DeviceChange)

/-- `save` of a revoked entity writes the one column that differs. -/
def SecretStep.act (w : SecretTables) : SecretStep → SecretTables
  | insert row => if w.Refuses row then w else { w with secrets := w.secrets ++ [row] }
  | saveRevoked id now =>
    { w with
      secrets := Keyed.modify DeviceSecretEntity.id id
        (fun secret => { secret with revokedAt := some now }) w.secrets }
  | changeDevices call => { w with devices := call.after w.devices }
  | readSecrets | readDevices => w

/-! ## Calls -/

inductive SecretAnswer where
  | created (deviceSecret : DeviceSecretDto) (plaintext : String)
  | insertFailed
  | revoked (answer : ResponseCore DeviceSecretDto)
  | unauthorized
  | admitted (device : DeviceEntity)
  | changed

abbrev SecretProc := Proc SecretTables SecretStep SecretAnswer

abbrev SecretSys (ι : Type) := Sys ι SecretTables SecretStep SecretAnswer

/-- `id` and `createdAt` are generated by the database, `plaintext` by `randomBytes`. -/
structure SecretDraw where
  id : String
  createdAt : Date
  plaintext : String
deriving DecidableEq, Repr

inductive SecretCall where
  | create (draw : SecretDraw) (userId : String) (dto : CreateDeviceSecretDto)
  | revoke (id : String) (now : Date)
  | canActivate (deviceId : String) (secret : Option String)
  | changeDevices (call : DeviceChange)

/-- The row that `create` saves. -/
def createdSecret (hash : String → String) (draw : SecretDraw) (userId : String)
    (dto : CreateDeviceSecretDto) : DeviceSecretEntity :=
  { id := draw.id
    createdAt := draw.createdAt
    label := dto.label
    secretHash := hash draw.plaintext
    createdByUserId := userId
    revokedAt := none }

/-- `DeviceSecretService.create`. -/
def createSecret (hash : String → String) (draw : SecretDraw) (userId : String)
    (dto : CreateDeviceSecretDto) : SecretProc := do
  let row := createdSecret hash draw userId dto
  let refused ← Proc.read (.insert row) fun w : SecretTables => decide (w.Refuses row)
  pure (if refused then .insertFailed else .created row.toDto draw.plaintext)

/-- What `revoke` does with the row it found. -/
def revokeFound (secret : DeviceSecretEntity) (now : Date) : SecretProc :=
  if secret.revokedAt.isSome then pure (.revoked (.ok secret.toDto))
  else do
    Proc.write (.saveRevoked secret.id now)
    pure (.revoked (.ok { secret with revokedAt := some now }.toDto))

/-- `DeviceSecretService.revoke`. -/
def revokeSecret (id : String) (now : Date) : SecretProc := do
  match ← Proc.read .readSecrets (SecretTables.findSecret · id) with
  | none => pure (.revoked (.fail .notFound "error.deviceSecretNotFound"))
  | some secret => revokeFound secret now

/-- What the guard does once the secret is valid. -/
def admitDevice (deviceId : String) : SecretProc := do
  match ← Proc.read .readDevices fun w : SecretTables => findByDeviceId w.devices deviceId with
  | none => pure .unauthorized
  | some device => pure (.admitted device)

/-- `DeviceSecretGuard.canActivate`, on the path parameter and the header. -/
def canActivate (hash : String → String) (deviceId : String) (secret : Option String) :
    SecretProc :=
  match secret with
  | none => pure .unauthorized
  | some secret =>
    if deviceId = "" ∨ secret = "" then pure .unauthorized
    else do
      let isValidSecret ← Proc.read .readSecrets (SecretTables.verify · (hash secret))
      if isValidSecret then admitDevice deviceId else pure .unauthorized

def SecretCall.proc (hash : String → String) : SecretCall → SecretProc
  | create draw userId dto => createSecret hash draw userId dto
  | revoke id now => revokeSecret id now
  | canActivate deviceId secret => AiotCloud.canActivate hash deviceId secret
  | changeDevices call => do
    Proc.write (.changeDevices call)
    pure .changed

/-- Calls at their start, before any secret was issued. -/
def secretCalls {ι : Type} (hash : String → String) (calls : ι → SecretCall)
    (devices : List DeviceEntity) : SecretSys ι :=
  ⟨⟨[], devices⟩, fun i => (calls i).proc hash⟩

/-- Some call has answered so. -/
def Told {ι : Type} (c : SecretSys ι) (answer : SecretAnswer) : Prop := ∃ i, c.Returned i answer

/-- A secret of that digest was issued, and none has revoked it. -/
def LiveSecret {ι : Type} (hash : String → String) (c : SecretSys ι) (secretHash : String) :
    Prop :=
  ∃ issued plaintext, Told c (.created issued plaintext) ∧ hash plaintext = secretHash ∧
    ∀ revoked, Told c (.revoked (.ok revoked)) → revoked.id ≠ issued.id

/-! ## What a turn does -/

/-- The answer says that a secret was issued or is revoked. -/
def SecretAnswer.Tells : SecretAnswer → Prop
  | created .. => True
  | revoked answer => answer.data.isSome
  | _ => False

/-- Where a call can stand. -/
inductive SecretStage (hash : String → String) (secrets : List DeviceSecretEntity) :
    SecretProc → Prop
  | start (call : SecretCall) : SecretStage hash secrets (call.proc hash)
  | found {secret row : DeviceSecretEntity} (stored : row ∈ secrets) (same : row.id = secret.id)
      (now : Date) (unrevoked : secret.revokedAt = none) :
      SecretStage hash secrets (revokeFound secret now)
  | verified (deviceId : String) : SecretStage hash secrets (admitDevice deviceId)
  | answered (answer : SecretAnswer) : SecretStage hash secrets (.ret answer)

/-- What a turn of a call makes of the secrets, and where it leaves the call. -/
inductive SecretTurn (hash : String → String) (secrets : List DeviceSecretEntity) :
    List DeviceSecretEntity → SecretProc → Prop
  | quiet {p : SecretProc} (stage : SecretStage hash secrets p)
      (silent : ∀ answer, p = .ret answer → ¬ answer.Tells) : SecretTurn hash secrets secrets p
  | issue {row : DeviceSecretEntity} {plaintext : String}
      (fresh : ∀ secret ∈ secrets, secret.id ≠ row.id ∧ secret.secretHash ≠ row.secretHash)
      (digest : row.secretHash = hash plaintext) (unrevoked : row.revokedAt = none) :
      SecretTurn hash secrets (secrets ++ [row]) (.ret (.created row.toDto plaintext))
  | again {secret : DeviceSecretEntity} (stored : secret ∈ secrets)
      (revoked : secret.revokedAt ≠ none) :
      SecretTurn hash secrets secrets (.ret (.revoked (.ok secret.toDto)))
  | revoke {secret row : DeviceSecretEntity} (stored : row ∈ secrets) (same : row.id = secret.id)
      (now : Date) :
      SecretTurn hash secrets
        (Keyed.modify DeviceSecretEntity.id secret.id
          (fun secret => { secret with revokedAt := some now }) secrets)
        (.ret (.revoked (.ok { secret with revokedAt := some now }.toDto)))

namespace SecretStage

variable {hash : String → String} {w : SecretTables}

theorem revokeFound_turn {secret : DeviceSecretEntity} (stored : secret ∈ w.secrets) (now : Date) :
    SecretTurn hash w.secrets w.secrets (revokeFound secret now) := by
  cases hrevoked : secret.revokedAt with
  | none => exact .quiet (.found stored rfl now hrevoked) (by simp [revokeFound, hrevoked])
  | some date =>
    have again : SecretTurn hash w.secrets w.secrets _ := .again stored (by simp [hrevoked])
    simpa [revokeFound, hrevoked] using again

theorem turn {p : SecretProc} (stage : SecretStage hash w.secrets p) {l : SecretStep}
    {k : SecretTables → SecretProc} (h : p = .step l k) :
    SecretTurn hash w.secrets (l.act w).secrets (k w) := by
  cases stage with
  | answered answer => cases h
  | found stored same now unrevoked =>
    simp only [revokeFound, unrevoked, Option.isSome_none, Bool.false_eq_true, if_false] at h
    obtain ⟨rfl, rfl⟩ := Proc.step.inj h
    exact .revoke stored same now
  | verified deviceId =>
    obtain ⟨rfl, rfl⟩ := Proc.step.inj h
    dsimp only [SecretStep.act]
    cases hfind : findByDeviceId w.devices deviceId with
    | none => exact .quiet (.answered _) (by rintro _ ⟨⟩ ⟨⟩)
    | some device => exact .quiet (.answered _) (by rintro _ ⟨⟩ ⟨⟩)
  | start call =>
    cases call with
    | create draw userId dto =>
      obtain ⟨rfl, rfl⟩ := Proc.step.inj h
      by_cases refused : w.Refuses (createdSecret hash draw userId dto)
      · simp only [SecretStep.act, refused, decide_true, if_true]
        exact .quiet (.answered _) (by rintro _ ⟨⟩ ⟨⟩)
      · simp only [SecretStep.act, refused, decide_false, if_false]
        refine .issue (fun secret stored => ?_) rfl rfl
        exact not_or.mp fun taken => refused ⟨secret, stored, taken⟩
    | revoke id now =>
      obtain ⟨rfl, rfl⟩ := Proc.step.inj h
      dsimp only [SecretStep.act]
      cases hfind : w.findSecret id with
      | none => exact .quiet (.answered _) (by rintro _ ⟨⟩ ⟨⟩)
      | some secret => exact revokeFound_turn (Keyed.mem_of_find hfind).1 now
    | canActivate deviceId secret =>
      cases secret with
      | none => cases h
      | some secret =>
        simp only [SecretCall.proc, canActivate] at h
        split_ifs at h
        obtain ⟨rfl, rfl⟩ := Proc.step.inj h
        show SecretTurn hash w.secrets w.secrets
          (if w.verify (hash secret) = true then admitDevice deviceId else .ret .unauthorized)
        split_ifs
        · exact .quiet (.verified deviceId) (by rintro _ ⟨⟩)
        · exact .quiet (.answered _) (by rintro _ ⟨⟩ ⟨⟩)
    | changeDevices call =>
      obtain ⟨rfl, rfl⟩ := Proc.step.inj h
      exact .quiet (.answered _) (by rintro _ ⟨⟩ ⟨⟩)

end SecretStage

/-! ## The table of secrets -/

/-- What the secrets are, in terms of what the calls have told. -/
structure SecretsSound (hash : String → String) (secrets : List DeviceSecretEntity)
    (told : SecretAnswer → Prop) : Prop where
  ids : Keyed.Distinct DeviceSecretEntity.id secrets
  hashes : Keyed.Distinct DeviceSecretEntity.secretHash secrets
  issued : ∀ secret ∈ secrets, ∃ issued plaintext, told (.created issued plaintext) ∧
    issued.id = secret.id ∧ hash plaintext = secret.secretHash
  stored : ∀ issued plaintext, told (.created issued plaintext) →
    ∃ secret ∈ secrets, secret.id = issued.id ∧ secret.secretHash = hash plaintext
  revoked : ∀ secret ∈ secrets, secret.revokedAt ≠ none ↔
    ∃ revoked, told (.revoked (.ok revoked)) ∧ revoked.id = secret.id
  revokedStored : ∀ revoked, told (.revoked (.ok revoked)) →
    ∃ secret ∈ secrets, secret.id = revoked.id

section Sound

variable {hash : String → String} {secrets secrets' : List DeviceSecretEntity}
  {told : SecretAnswer → Prop} {p : SecretProc}

theorem SecretsSound.nil (silent : ∀ answer, told answer → ¬ answer.Tells) :
    SecretsSound hash [] told where
  ids := List.nodup_nil
  hashes := List.nodup_nil
  issued := by simp
  stored _ _ h := absurd trivial (silent _ h)
  revoked := by simp
  revokedStored _ h := absurd rfl (silent _ h)

/-- A call that tells nothing new. -/
theorem SecretsSound.told_congr {told' : SecretAnswer → Prop}
    (sound : SecretsSound hash secrets told)
    (same : ∀ answer, answer.Tells → (told' answer ↔ told answer)) :
    SecretsSound hash secrets told' where
  ids := sound.ids
  hashes := sound.hashes
  issued secret hsecret := by
    obtain ⟨issued, plaintext, h, facts⟩ := sound.issued secret hsecret
    exact ⟨issued, plaintext, (same (.created issued plaintext) trivial).mpr h, facts⟩
  stored issued plaintext h :=
    sound.stored issued plaintext ((same (.created issued plaintext) trivial).mp h)
  revoked secret hsecret := by
    rw [sound.revoked secret hsecret]
    exact exists_congr fun revoked => and_congr_left' (same (.revoked (.ok revoked)) rfl).symm
  revokedStored revoked h := sound.revokedStored revoked ((same (.revoked (.ok revoked)) rfl).mp h)

theorem SecretsSound.issue {row : DeviceSecretEntity} {plaintext : String}
    (sound : SecretsSound hash secrets told)
    (fresh : ∀ secret ∈ secrets, secret.id ≠ row.id ∧ secret.secretHash ≠ row.secretHash)
    (digest : row.secretHash = hash plaintext) (unrevoked : row.revokedAt = none) :
    SecretsSound hash (secrets ++ [row])
      (fun answer => answer = .created row.toDto plaintext ∨ told answer) where
  ids := sound.ids.concat fun secret h => (fresh secret h).1
  hashes := sound.hashes.concat fun secret h => (fresh secret h).2
  issued secret hsecret := by
    rcases List.mem_append.mp hsecret with old | new
    · obtain ⟨issued, text, h, facts⟩ := sound.issued secret old
      exact ⟨issued, text, Or.inr h, facts⟩
    · obtain rfl := List.mem_singleton.mp new
      exact ⟨_, plaintext, Or.inl rfl, rfl, digest.symm⟩
  stored issued text h := by
    rcases h with new | old
    · obtain ⟨rfl, rfl⟩ := SecretAnswer.created.inj new
      exact ⟨row, by simp, rfl, digest⟩
    · obtain ⟨secret, hsecret, facts⟩ := sound.stored issued text old
      exact ⟨secret, List.mem_append_left _ hsecret, facts⟩
  revoked secret hsecret := by
    rcases List.mem_append.mp hsecret with old | new
    · simpa using sound.revoked secret old
    · obtain rfl := List.mem_singleton.mp new
      refine iff_of_false (not_not.mpr unrevoked) ?_
      rintro ⟨revoked, h, same⟩
      have h : told (.revoked (.ok revoked)) := by simpa using h
      obtain ⟨other, hother, hid⟩ := sound.revokedStored revoked h
      exact (fresh other hother).1 (hid.trans same)
  revokedStored revoked h := by
    obtain ⟨secret, hsecret, hid⟩ := sound.revokedStored revoked (by simpa using h)
    exact ⟨secret, List.mem_append_left _ hsecret, hid⟩

/-- Rows change only in that the one a call has told of is revoked. -/
theorem SecretsSound.revoke {dto : DeviceSecretDto} (sound : SecretsSound hash secrets told)
    {f : DeviceSecretEntity → DeviceSecretEntity} (id : ∀ secret, (f secret).id = secret.id)
    (hashed : ∀ secret, (f secret).secretHash = secret.secretHash)
    (marked : ∀ secret ∈ secrets, (f secret).revokedAt ≠ none ↔
      dto.id = secret.id ∨ secret.revokedAt ≠ none)
    (stored : ∃ secret ∈ secrets, secret.id = dto.id) :
    SecretsSound hash (secrets.map f)
      (fun answer => answer = .revoked (.ok dto) ∨ told answer) where
  ids := sound.ids.map id
  hashes := sound.hashes.map hashed
  issued row hrow := by
    obtain ⟨secret, hsecret, rfl⟩ := List.mem_map.mp hrow
    simpa [id, hashed] using sound.issued secret hsecret
  stored issued plaintext h := by
    obtain ⟨secret, hsecret, facts⟩ := sound.stored issued plaintext (by simpa using h)
    exact ⟨f secret, List.mem_map_of_mem hsecret, by rwa [id, hashed]⟩
  revoked row hrow := by
    obtain ⟨secret, hsecret, rfl⟩ := List.mem_map.mp hrow
    rw [marked secret hsecret, sound.revoked secret hsecret, id]
    constructor
    · rintro (same | ⟨revoked, h, same⟩)
      · exact ⟨dto, Or.inl rfl, same⟩
      · exact ⟨revoked, Or.inr h, same⟩
    · rintro ⟨revoked, new | old, same⟩
      · obtain rfl : revoked = dto := by simpa [ResponseCore.ok] using new
        exact Or.inl same
      · exact Or.inr ⟨revoked, old, same⟩
  revokedStored revoked h := by
    have known : ∃ secret ∈ secrets, secret.id = revoked.id := by
      rcases h with new | old
      · obtain rfl : revoked = dto := by simpa [ResponseCore.ok] using new
        exact stored
      · exact sound.revokedStored revoked old
    obtain ⟨secret, hsecret, same⟩ := known
    exact ⟨f secret, List.mem_map_of_mem hsecret, (id secret).trans same⟩

/-- What a turn leaves is sound with what it tells. -/
theorem SecretsSound.turn (sound : SecretsSound hash secrets told)
    (turn : SecretTurn hash secrets secrets' p) :
    SecretsSound hash secrets' (fun answer => p = .ret answer ∨ told answer) := by
  cases turn with
  | quiet stage silent =>
    refine sound.told_congr fun answer tells => or_iff_right fun h => silent answer h tells
  | issue fresh digest unrevoked =>
    refine (sound.issue fresh digest unrevoked).told_congr fun answer _ => ?_
    simp [eq_comm]
  | @again secret stored revoked =>
    have marked : ∀ row ∈ secrets, row.revokedAt ≠ none ↔
        secret.toDto.id = row.id ∨ row.revokedAt ≠ none := by
      intro row hrow
      refine ⟨Or.inr, ?_⟩
      rintro (same | h)
      · rwa [← sound.ids.eq_of_key stored hrow same]
      · exact h
    have h := sound.revoke (fun row => rfl) (fun row => rfl) marked ⟨secret, stored, rfl⟩
    rw [show secrets.map (fun row => row) = secrets from List.map_id _] at h
    exact h.told_congr fun answer _ => by simp [eq_comm]
  | @revoke secret row stored same now =>
    have held : ∃ row ∈ secrets,
        row.id = ({ secret with revokedAt := some now } : DeviceSecretEntity).toDto.id :=
      ⟨row, stored, same⟩
    refine (sound.revoke ?_ ?_ ?_ held).told_congr fun answer _ => by simp [eq_comm]
    · intro row
      dsimp only
      split_ifs <;> rfl
    · intro row
      dsimp only
      split_ifs <;> rfl
    · intro row _
      show _ ↔ secret.id = row.id ∨ _
      split_ifs with h
      · simp [h]
      · simp [Ne.symm h]

end Sound

/-! ## Interleavings -/

theorem SecretStage.mono {hash : String → String} {secrets secrets' : List DeviceSecretEntity}
    {p : SecretProc} (stage : SecretStage hash secrets p)
    (kept : ∀ row ∈ secrets, ∃ row' ∈ secrets', row'.id = row.id) :
    SecretStage hash secrets' p := by
  cases stage with
  | start call => exact .start call
  | found stored same now unrevoked =>
    obtain ⟨row', stored', same'⟩ := kept _ stored
    exact .found stored' (same'.trans same) now unrevoked
  | verified deviceId => exact .verified deviceId
  | answered answer => exact .answered answer

namespace SecretTurn

variable {hash : String → String} {secrets secrets' : List DeviceSecretEntity} {p : SecretProc}

theorem stage (turn : SecretTurn hash secrets secrets' p) : SecretStage hash secrets' p := by
  cases turn with
  | quiet stage silent => exact stage
  | issue fresh digest unrevoked => exact .answered _
  | again stored revoked => exact .answered _
  | revoke stored same now => exact .answered _

theorem kept (turn : SecretTurn hash secrets secrets' p) :
    ∀ row ∈ secrets, ∃ row' ∈ secrets', row'.id = row.id := by
  intro row hrow
  cases turn with
  | quiet stage silent => exact ⟨row, hrow, rfl⟩
  | issue fresh digest unrevoked => exact ⟨row, List.mem_append_left _ hrow, rfl⟩
  | again stored revoked => exact ⟨row, hrow, rfl⟩
  | revoke stored same now =>
    refine ⟨_, List.mem_map_of_mem hrow, ?_⟩
    dsimp only
    split_ifs <;> rfl

end SecretTurn

section Interleaved

variable {ι : Type} [DecidableEq ι] {hash : String → String} {calls : ι → SecretCall}
  {devices : List DeviceEntity}

theorem told_fire_iff {c : SecretSys ι} {i : ι} {l : SecretStep} {k : SecretTables → SecretProc}
    (h : c.procs i = .step l k) (answer : SecretAnswer) :
    Told (c.fire SecretStep.act i) answer ↔ k c.shared = .ret answer ∨ Told c answer := by
  simp only [Told, Sys.returned_fire_iff h, exists_or]
  simp

/-- The secrets are what the calls have told, and each call stands where it can. -/
structure SecretsReached (hash : String → String) (c : SecretSys ι) : Prop where
  secrets : SecretsSound hash c.shared.secrets (Told c)
  stages : ∀ i, SecretStage hash c.shared.secrets (c.procs i)

theorem SecretsReached.fire {c : SecretSys ι} (reached : SecretsReached hash c) (i : ι) :
    SecretsReached hash (c.fire SecretStep.act i) := by
  cases h : c.procs i with
  | ret answer => rwa [Sys.fire_of_ret SecretStep.act h]
  | step l k =>
    have turn := (reached.stages i).turn h
    refine ⟨?_, fun j => ?_⟩
    · have shared : (c.fire SecretStep.act i).shared = l.act c.shared := by
        rw [Sys.fire_of_step SecretStep.act h]
      rw [shared]
      exact (reached.secrets.turn turn).told_congr fun answer _ => told_fire_iff h answer
    · rw [Sys.fire_of_step SecretStep.act h]
      rcases eq_or_ne j i with rfl | hj
      · simpa using turn.stage
      · simpa [hj] using (reached.stages j).mono turn.kept

theorem SecretCall.silent {call : SecretCall} {answer : SecretAnswer}
    (h : call.proc hash = .ret answer) : ¬ answer.Tells := by
  cases call with
  | create draw userId dto => cases h
  | revoke id now => cases h
  | changeDevices call => cases h
  | canActivate deviceId secret =>
    cases secret with
    | none => cases h; exact id
    | some secret =>
      simp only [SecretCall.proc, AiotCloud.canActivate] at h
      split_ifs at h with empty
      · cases h
        exact id
      · cases h

omit [DecidableEq ι] in
theorem SecretsReached.init : SecretsReached hash (secretCalls hash calls devices) where
  secrets := SecretsSound.nil fun _ ⟨_, h⟩ => SecretCall.silent h
  stages i := .start (calls i)

theorem SecretsReached.run (hash : String → String) (calls : ι → SecretCall)
    (devices : List DeviceEntity) (sched : List ι) :
    SecretsReached hash ((secretCalls hash calls devices).run SecretStep.act sched) :=
  Sys.run_invariant (fun _ i reached => reached.fire i) SecretsReached.init sched

omit [DecidableEq ι] in
/-- The guard's query finds the secrets that were issued and not revoked. -/
theorem SecretsReached.verify_iff {c : SecretSys ι} (reached : SecretsReached hash c)
    (secretHash : String) :
    c.shared.verify secretHash = true ↔ LiveSecret hash c secretHash := by
  have sound := reached.secrets
  simp only [SecretTables.verify, List.any_eq_true, Bool.and_eq_true, beq_iff_eq,
    Option.isNone_iff_eq_none]
  constructor
  · rintro ⟨secret, hsecret, rfl, unrevoked⟩
    obtain ⟨issued, plaintext, told, hid, digest⟩ := sound.issued secret hsecret
    refine ⟨issued, plaintext, told, digest, fun revoked hrevoked same => ?_⟩
    exact (sound.revoked secret hsecret).mpr ⟨revoked, hrevoked, same.trans hid⟩ unrevoked
  · rintro ⟨issued, plaintext, told, rfl, unrevoked⟩
    obtain ⟨secret, hsecret, hid, digest⟩ := sound.stored issued plaintext told
    refine ⟨secret, hsecret, digest, ?_⟩
    by_contra hrevoked
    obtain ⟨revoked, hrevoked, same⟩ := (sound.revoked secret hsecret).mp hrevoked
    exact unrevoked revoked hrevoked (same.trans hid)

/-! ## Requests -/

/-- Only the guard admits. -/
theorem not_admitted {call : SecretCall}
    (other : ∀ deviceId secret, call ≠ .canActivate deviceId secret) :
    (call.proc hash).Ends fun answer => ∀ device, answer ≠ .admitted device := by
  cases call with
  | create draw userId dto =>
    intro w
    show ∀ device, (if decide (w.Refuses (createdSecret hash draw userId dto)) = true then
      SecretAnswer.insertFailed else .created _ _) ≠ .admitted device
    split_ifs <;> simp
  | revoke id now =>
    intro w
    show Proc.Ends _ (match w.findSecret id with
      | none => Proc.ret (.revoked (.fail .notFound "error.deviceSecretNotFound"))
      | some secret => revokeFound secret now)
    cases w.findSecret id with
    | none => simp [Proc.Ends]
    | some secret =>
      cases h : secret.revokedAt <;> simp [revokeFound, h, Proc.Ends, Proc.write]
  | changeDevices call => simp [SecretCall.proc, Proc.Ends, Proc.write]
  | canActivate deviceId secret => exact absurd rfl (other deviceId secret)

omit [DecidableEq ι] in
/-- Where the guard stands after its first query. -/
theorem procs_verified (hash : String → String) (devices : List DeviceEntity) {i : ι}
    {deviceId secret : String}
    (h : calls i = .canActivate deviceId (some secret)) (given : ¬ (deviceId = "" ∨ secret = "")) :
    (secretCalls hash calls devices).procs i = .step .readSecrets fun w =>
      if w.verify (hash secret) then admitDevice deviceId else .ret .unauthorized := by
  show (calls i).proc hash = _
  rw [h]
  simp [SecretCall.proc, canActivate, given, Proc.read]

/-- What a valid secret leads to: the device has to be found. -/
theorem returned_admitDevice_iff {c : SecretSys ι} {i : ι} {deviceId : String}
    (h : c.procs i = admitDevice deviceId) {sched : List ι} {device : DeviceEntity} :
    (c.run SecretStep.act sched).Returned i (.admitted device) ↔
      ∃ mid post, sched = mid ++ i :: post ∧ i ∉ mid ∧
        findByDeviceId (c.run SecretStep.act mid).shared.devices deviceId = some device := by
  rw [Sys.returned_of_step_iff h]
  refine exists₂_congr fun mid post => and_congr_right fun _ => and_congr_right fun hmid => ?_
  have turn : (c.run SecretStep.act (mid ++ [i])).Returned i
      (match findByDeviceId (c.run SecretStep.act mid).shared.devices deviceId with
        | none => .unauthorized
        | some device => .admitted device) := by
    refine (Sys.procs_run_turn SecretStep.act h hmid).trans ?_
    show Proc.bind (.ret (findByDeviceId _ deviceId)) _ = _
    cases findByDeviceId (c.run SecretStep.act mid).shared.devices deviceId <;> rfl
  rw [turn.run_iff]
  cases findByDeviceId (c.run SecretStep.act mid).shared.devices deviceId <;> simp

/-- A request that is let in gives a secret, which is live at its first turn. -/
theorem first_turn_of_admitted (hash : String → String) (devices : List DeviceEntity)
    {sched : List ι} {i : ι} {device : DeviceEntity} {deviceId : String} {header : Option String}
    (hcall : calls i = .canActivate deviceId header)
    (returned : ((secretCalls hash calls devices).run SecretStep.act sched).Returned i
      (.admitted device)) :
    ∃ secret, header = some secret ∧ ¬ (deviceId = "" ∨ secret = "") ∧
      ∃ pre rest, sched = pre ++ i :: rest ∧ i ∉ pre ∧
        LiveSecret hash ((secretCalls hash calls devices).run SecretStep.act pre) (hash secret) ∧
        ((secretCalls hash calls devices).run SecretStep.act (pre ++ [i])).procs i =
          admitDevice deviceId ∧
        (((secretCalls hash calls devices).run SecretStep.act (pre ++ [i])).run SecretStep.act
          rest).Returned i (.admitted device) := by
  have proc : (secretCalls hash calls devices).procs i = canActivate hash deviceId header :=
    congrArg (SecretCall.proc hash) hcall
  have refused : (secretCalls hash calls devices).procs i ≠ .ret .unauthorized := by
    intro h
    have h : (secretCalls hash calls devices).Returned i .unauthorized := h
    exact absurd ((h.run_iff sched).mp returned) (by simp)
  cases header with
  | none => exact absurd proc refused
  | some secret =>
    have given : ¬ (deviceId = "" ∨ secret = "") := by
      intro empty
      rw [canActivate, if_pos empty] at proc
      exact refused proc
    have start := procs_verified hash devices hcall given
    obtain ⟨pre, rest, rfl, hpre, hrest⟩ := (Sys.returned_of_step_iff start).mp returned
    have turn := Sys.procs_run_turn SecretStep.act start hpre
    by_cases valid : ((secretCalls hash calls devices).run SecretStep.act pre).shared.verify
        (hash secret) = true
    · rw [if_pos valid] at turn
      exact ⟨secret, rfl, given, pre, rest, rfl, hpre,
        ((SecretsReached.run hash calls devices pre).verify_iff _).mp valid, turn, hrest⟩
    · rw [if_neg valid] at turn
      have turn : ((secretCalls hash calls devices).run SecretStep.act (pre ++ [i])).Returned i
        .unauthorized := turn
      exact absurd ((turn.run_iff rest).mp hrest) (by simp)

/-- A request is let in exactly when it names a device and gives a secret, the secret is live
when the guard asks for it, and the device is registered when the guard looks it up. The two
turns of the request are where its schedule splits. -/
theorem admitted_iff (hash : String → String) (calls : ι → SecretCall)
    (devices : List DeviceEntity) (sched : List ι) (i : ι) (device : DeviceEntity) :
    let at_ (sched : List ι) := (secretCalls hash calls devices).run SecretStep.act sched
    (at_ sched).Returned i (.admitted device) ↔
      ∃ deviceId secret, calls i = .canActivate deviceId (some secret) ∧
        deviceId ≠ "" ∧ secret ≠ "" ∧
        ∃ pre mid post, sched = pre ++ i :: (mid ++ i :: post) ∧ i ∉ pre ∧ i ∉ mid ∧
          LiveSecret hash (at_ pre) (hash secret) ∧
          findByDeviceId (at_ (pre ++ i :: mid)).shared.devices deviceId = some device := by
  intro at_
  have joined : ∀ pre mid, ((at_ (pre ++ [i])).run SecretStep.act mid) = at_ (pre ++ i :: mid) := by
    intro pre mid
    rw [← Sys.run_append, List.append_assoc, List.singleton_append]
  constructor
  · intro returned
    have guarded : ∃ deviceId secret, calls i = .canActivate deviceId secret := by
      by_contra other
      have ends : (((secretCalls hash calls devices).procs i).Ends
          fun answer => ∀ device, answer ≠ .admitted device) :=
        not_admitted fun deviceId secret h => other ⟨deviceId, secret, h⟩
      exact Sys.ends_run ends returned device rfl
    obtain ⟨deviceId, header, hcall⟩ := guarded
    obtain ⟨secret, rfl, given, pre, rest, rfl, hpre, live, turn, hrest⟩ :=
      first_turn_of_admitted hash devices hcall returned
    obtain ⟨mid, post, rfl, hmid, found⟩ := (returned_admitDevice_iff turn).mp hrest
    obtain ⟨hdevice, hsecret⟩ := not_or.mp given
    rw [joined] at found
    exact ⟨deviceId, secret, hcall, hdevice, hsecret, pre, mid, post, rfl, hpre, hmid, live, found⟩
  · rintro ⟨deviceId, secret, hcall, hdevice, hsecret, pre, mid, post, rfl, hpre, hmid, live, found⟩
    have start := procs_verified hash devices hcall
      (not_or.mpr ⟨hdevice, hsecret⟩)
    refine (Sys.returned_of_step_iff start).mpr ⟨pre, mid ++ i :: post, rfl, hpre, ?_⟩
    have turn := Sys.procs_run_turn SecretStep.act start hpre
    rw [if_pos (((SecretsReached.run hash calls devices pre).verify_iff _).mpr live)] at turn
    exact (returned_admitDevice_iff turn).mpr ⟨mid, post, rfl, hmid, by rwa [joined]⟩

omit [DecidableEq ι] in
/-- Two secrets of one digest are one secret. -/
theorem SecretsSound.issued_unique {c : SecretSys ι}
    (sound : SecretsSound hash c.shared.secrets (Told c)) {issued issued' : DeviceSecretDto}
    {plaintext plaintext' : String} (told : Told c (.created issued plaintext))
    (told' : Told c (.created issued' plaintext')) (digest : hash plaintext = hash plaintext') :
    issued.id = issued'.id := by
  obtain ⟨row, hrow, hid, hhash⟩ := sound.stored issued plaintext told
  obtain ⟨row', hrow', hid', hhash'⟩ := sound.stored issued' plaintext' told'
  have same : row = row' :=
    sound.hashes.eq_of_key hrow hrow' (hhash.trans (digest.trans hhash'.symm))
  rw [← hid, ← hid', same]

/-- A request that starts after its secret was revoked is refused, whatever else is going on. -/
theorem revocation_final (hash : String → String) (calls : ι → SecretCall)
    (devices : List DeviceEntity) {before : List ι} {issued revoked : DeviceSecretDto}
    {plaintext : String}
    (created : Told ((secretCalls hash calls devices).run SecretStep.act before)
      (.created issued plaintext))
    (closed : Told ((secretCalls hash calls devices).run SecretStep.act before)
      (.revoked (.ok revoked)))
    (same : revoked.id = issued.id) {i : ι} (late : i ∉ before) {deviceId secret : String}
    (call : calls i = .canActivate deviceId (some secret)) (digest : hash secret = hash plaintext)
    (after : List ι) :
    ¬ ∃ device, ((secretCalls hash calls devices).run SecretStep.act (before ++ after)).Returned i
      (.admitted device) := by
  rintro ⟨device, returned⟩
  obtain ⟨_, ⟨⟩, -, pre, rest, hsched, hpre, live, -⟩ :=
    first_turn_of_admitted hash devices call returned
  -- the request has had no turn in `before`
  have prefixed : ∃ between, pre = before ++ between := by
    rcases List.append_eq_append_iff.mp hsched with ⟨between, hpre, -⟩ | ⟨rest, hbefore, hrest⟩
    · exact ⟨between, hpre⟩
    · cases rest with
      | nil => exact ⟨[], by simpa using hbefore.symm⟩
      | cons j rest =>
        obtain ⟨rfl, -⟩ := List.cons.inj hrest
        exact absurd (hbefore ▸ by simp) late
  obtain ⟨between, rfl⟩ := prefixed
  have stays : ∀ answer, Told ((secretCalls hash calls devices).run SecretStep.act before) answer →
      Told ((secretCalls hash calls devices).run SecretStep.act (before ++ between)) answer := by
    rintro answer ⟨j, h⟩
    rw [Sys.run_append]
    exact ⟨j, h.run between⟩
  obtain ⟨issued', plaintext', created', digest', unrevoked⟩ := live
  have sound := (SecretsReached.run hash calls devices (before ++ between)).secrets
  refine unrevoked revoked (stays _ closed) (same.trans ?_)
  exact sound.issued_unique (stays _ created) created' (digest.symm.trans digest'.symm)

end Interleaved

/-- A secret is issued, revoked and presented. -/
def issuedRevokedPresented : Fin 3 → SecretCall
  | 0 => .create ⟨"s1", 0, "ab12"⟩ "admin" {}
  | 1 => .revoke "s1" 5
  | 2 => .canActivate "pump" (some "ab12")

/-- The device that presents it is registered. -/
def registeredPump : List DeviceEntity :=
  [{ id := "a", deviceId := "pump", name := "Pump", templateId := "t", userId := "u1" }]

theorem revocation_final_presented :
    ¬ ∃ device, ((secretCalls id issuedRevokedPresented registeredPump).run SecretStep.act
      ([0, 1, 1] ++ [2, 2])).Returned 2 (.admitted device) := by
  let issued : DeviceSecretDto := ⟨"s1", 0, none, "admin", none⟩
  let revoked : DeviceSecretDto := ⟨"s1", 0, none, "admin", some 5⟩
  have created : Told ((secretCalls id issuedRevokedPresented registeredPump).run SecretStep.act
      [0, 1, 1]) (.created issued "ab12") := ⟨0, rfl⟩
  have closed : Told ((secretCalls id issuedRevokedPresented registeredPump).run SecretStep.act
      [0, 1, 1]) (.revoked (.ok revoked)) := ⟨1, rfl⟩
  exact revocation_final id issuedRevokedPresented registeredPump created closed rfl (by decide)
    rfl rfl [2, 2]

end AiotCloud
