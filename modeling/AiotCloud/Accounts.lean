import AiotCloud.DeviceRegistry

/-!
# Accounts

The rows of `users`, each with its `user_settings` row, and the calls of `UserService`
that create and change them. The database generates ids and keeps usernames and emails
distinct; a row that breaks this is not saved, and the error rolls the call back.

* `leaves_after`: what a call does to the rows.
* `UserKeys.leaves`: the keys of the rows stay distinct.
-/

namespace AiotCloud

/-! ## Rows -/

structure UserSettingsEntity where
  isEmailVerified : Bool := false
  isActive : Bool := true
  isPhoneVerified : Bool := false
  emailVerificationToken : Option String := none
  emailVerificationTokenExpiresAt : Option Date := none
deriving DecidableEq, Repr

structure UserEntity where
  id : String
  firstName : Option String := none
  lastName : Option String := none
  role : RoleType := .user
  username : String
  email : Option String := none
  password : Option String := none
  phone : Option String := none
  avatar : Option String := none
  factoryId : Option String := none
  settings : Option UserSettingsEntity := none
deriving DecidableEq, Repr

/-- What a call answers; a column that is `null` or `undefined` is `none`. -/
structure UserDto where
  id : String
  firstName : Option String
  lastName : Option String
  username : Option String
  role : Option RoleType
  email : Option String
  avatar : Option String
  phone : Option String
  isActive : Bool
  isEmailVerified : Bool
  factoryId : Option String
deriving DecidableEq, Repr

def UserEntity.toDto (user : UserEntity) : UserDto :=
  { id := user.id
    firstName := user.firstName
    lastName := user.lastName
    username := some user.username
    role := some user.role
    email := user.email
    avatar := user.avatar
    phone := user.phone
    isActive := (user.settings.map (·.isActive)).getD true
    isEmailVerified := (user.settings.map (·.isEmailVerified)).getD false
    factoryId := user.factoryId }

/-- `settings?.isActive === false`. -/
def UserEntity.Deactivated (user : UserEntity) : Prop :=
  user.settings.map (·.isActive) = some false

instance (user : UserEntity) : Decidable user.Deactivated :=
  inferInstanceAs (Decidable (_ = _))

/-! ## Requests -/

structure UserRegisterDto where
  username : String
  firstName : String
  lastName : String
  email : String
  password : String
  phone : Option String := none
deriving DecidableEq, Repr

structure CreateUserDto where
  username : String
  password : String
  firstName : Option String := none
  lastName : Option String := none
  email : Option String := none
  phone : Option String := none
  role : Option RoleType := none
  factoryId : Option (Option String) := none
deriving DecidableEq, Repr

structure UpdateUserDto where
  username : Option String := none
  password : Option String := none
  firstName : Option String := none
  lastName : Option String := none
  email : Option String := none
  phone : Option String := none
  role : Option RoleType := none
  isActive : Option Bool := none
  factoryId : Option (Option String) := none
deriving DecidableEq, Repr

/-! ## Passwords -/

/-- The `bcrypt` package: `hashSync` under a salt it draws, and `compare`. -/
structure Bcrypt where
  hashSync : String → String → String
  compare : String → String → Bool

def validateHash (bcrypt : Bcrypt) (password : String) (hash : Option String) : Bool :=
  match hash with
  | none => false
  | some hash => password ≠ "" && hash ≠ "" && bcrypt.compare password hash

/-! ## Queries -/

/-- What a call gets from outside: the order in which the database returns rows, the id and
the token that are generated, the salt, the time, whether the mail goes out, and the text
of the error when a row breaks a unique index or the mail fails. -/
structure CallEnv where
  order : List UserEntity → List UserEntity
  perm : ∀ users, (order users).Perm users
  id : String
  token : String
  salt : String
  now : Date
  mailed : Bool
  failure : String

/-- The `where` clause of `findByUsernameOrEmail`: an empty name adds no condition. -/
def matchesNames (username email : Option String) (user : UserEntity) : Bool :=
  match email.filter (· ≠ ""), username.filter (· ≠ "") with
  | none, none => true
  | some email, none => user.email == some email
  | none, some username => user.username == username
  | some email, some username => user.email == some email || user.username == username

def findByUsernameOrEmail (env : CallEnv) (username email : Option String)
    (users : List UserEntity) : Option UserEntity :=
  (env.order users).find? (matchesNames username email)

/-- `findOne({ id })`. -/
def findUser (users : List UserEntity) (id : String) : Option UserEntity :=
  Keyed.find UserEntity.id id users

/-! ## Saves -/

/-- The unique indexes on `username` and `email` let both rows be. -/
def DistinctNames (user row : UserEntity) : Prop :=
  user.username ≠ row.username ∧ (row.email = none ∨ user.email ≠ row.email)

instance (user row : UserEntity) : Decidable (DistinctNames user row) :=
  inferInstanceAs (Decidable (_ ∧ _))

/-- A new row is let in. A generated id is none that a row has. -/
def Insertable (users : List UserEntity) (row : UserEntity) : Prop :=
  ∀ user ∈ users, user.id ≠ row.id ∧ DistinctNames user row

/-- A loaded row is let in. -/
def Savable (users : List UserEntity) (row : UserEntity) : Prop :=
  ∀ user ∈ users, user.id ≠ row.id → DistinctNames user row

instance (users : List UserEntity) (row : UserEntity) : Decidable (Insertable users row) :=
  inferInstanceAs (Decidable (∀ user ∈ users, _))

instance (users : List UserEntity) (row : UserEntity) : Decidable (Savable users row) :=
  inferInstanceAs (Decidable (∀ user ∈ users, _))

/-- `save` of a new row. -/
def insertUser (env : CallEnv) (row : UserEntity) (users : List UserEntity) :
    Except String (List UserEntity) :=
  if Insertable users row then .ok (users ++ [row]) else .error env.failure

/-- The rows with one of them written. -/
def writeUser (row : UserEntity) (users : List UserEntity) : List UserEntity :=
  Keyed.modify UserEntity.id row.id (fun _ => row) users

/-- `UserSubscriber.beforeInsert`. -/
def beforeInsert (bcrypt : Bcrypt) (env : CallEnv) (entity : UserEntity) : UserEntity :=
  { entity with
    password := entity.password.map fun password =>
      if password = "" then password else bcrypt.hashSync env.salt password }

/-! ## `UserService` -/

/-- The answer of a call, or the error that escapes it, and the rows it leaves. -/
abbrev CallResult (α : Type) := Except String (ResponseCore α) × List UserEntity

/-- `24 * 60 * 60 * 1000`. -/
def verificationTokenTtlMs : Int := 86400000

/-- The row of a self-registration, with its settings. -/
def registeredUser (bcrypt : Bcrypt) (env : CallEnv) (dto : UserRegisterDto) : UserEntity :=
  beforeInsert bcrypt env
    { id := env.id
      firstName := some dto.firstName
      lastName := some dto.lastName
      username := dto.username
      email := some dto.email
      password := some dto.password
      phone := dto.phone
      settings := some
        { emailVerificationToken := some env.token
          emailVerificationTokenExpiresAt := some (env.now + verificationTokenTtlMs) } }

/-- An error, and also a mail that cannot be sent, rolls the insert back. -/
def createUser (bcrypt : Bcrypt) (env : CallEnv) (dto : UserRegisterDto)
    (users : List UserEntity) : CallResult UserEntity :=
  match findByUsernameOrEmail env (some dto.username) (some dto.email) users with
  | some _ => (.ok (.fail .badRequest "error.userAlreadyExists"), users)
  | none =>
    let user := registeredUser bcrypt env dto
    match insertUser env user users with
    | .error message => (.error message, users)
    | .ok after =>
      if env.mailed then (.ok (.ok user), after) else (.error env.failure, users)

/-- The row that an operator creates, with its settings. -/
def vouchedUser (bcrypt : Bcrypt) (env : CallEnv) (dto : CreateUserDto) : UserEntity :=
  beforeInsert bcrypt env
    { id := env.id
      firstName := dto.firstName
      lastName := dto.lastName
      role := dto.role.getD .user
      username := dto.username
      email := dto.email
      password := some dto.password
      phone := dto.phone
      factoryId := dto.factoryId.getD none
      settings := some { isEmailVerified := true, isPhoneVerified := true } }

def createUserByAdmin (bcrypt : Bcrypt) (env : CallEnv) (dto : CreateUserDto)
    (users : List UserEntity) : CallResult UserDto :=
  match findByUsernameOrEmail env (some dto.username) dto.email users with
  | some _ => (.ok (.fail .badRequest "error.userAlreadyExists"), users)
  | none =>
    let user := vouchedUser bcrypt env dto
    match insertUser env user users with
    | .error message => (.error message, users)
    | .ok after => (.ok (.ok user.toDto), after)

/-! ### `updateUser` -/

/-- A loaded user after `Object.assign`. Every field of the request is an own property of it,
so each column that a request can set is as the request has it, `undefined` included. -/
structure AssignedUser where
  loaded : UserEntity
  username : Option String
  password : Option String
  firstName : Option String
  lastName : Option String
  email : Option String
  phone : Option String
  role : Option RoleType
  factoryId : Option (Option String)
  settings : Option UserSettingsEntity

namespace AssignedUser

/-- The row that `save` leaves: a column that is `undefined` is skipped. -/
def row (entity : AssignedUser) : UserEntity :=
  { entity.loaded with
    username := entity.username.getD entity.loaded.username
    password := entity.password <|> entity.loaded.password
    firstName := entity.firstName <|> entity.loaded.firstName
    lastName := entity.lastName <|> entity.loaded.lastName
    email := entity.email <|> entity.loaded.email
    phone := entity.phone <|> entity.loaded.phone
    role := entity.role.getD entity.loaded.role
    factoryId := entity.factoryId.getD entity.loaded.factoryId
    settings := entity.settings }

def toDto (entity : AssignedUser) : UserDto :=
  { id := entity.loaded.id
    firstName := entity.firstName
    lastName := entity.lastName
    username := entity.username
    role := entity.role
    email := entity.email
    avatar := entity.loaded.avatar
    phone := entity.phone
    isActive := (entity.settings.map (·.isActive)).getD true
    isEmailVerified := (entity.settings.map (·.isEmailVerified)).getD false
    factoryId := entity.factoryId.join }

end AssignedUser

/-- `Object.assign(user, userFields)`. -/
def assignUserFields (dto : UpdateUserDto) (user : UserEntity) : AssignedUser where
  loaded := user
  username := dto.username
  password := dto.password
  firstName := dto.firstName
  lastName := dto.lastName
  email := dto.email
  phone := dto.phone
  role := dto.role
  factoryId := dto.factoryId
  settings := user.settings

/-- `bcrypt` throws on `undefined`. -/
def generateHash (bcrypt : Bcrypt) (env : CallEnv) : Option String → Except String String
  | none => .error "data and salt arguments required"
  | some password => .ok (bcrypt.hashSync env.salt password)

/-- `UserSubscriber.beforeUpdate`. A password that is `undefined` differs from every stored
one, `null` included. -/
def beforeUpdate (bcrypt : Bcrypt) (env : CallEnv) (entity : AssignedUser) :
    Except String AssignedUser :=
  if entity.password.map some ≠ some entity.loaded.password then
    (generateHash bcrypt env entity.password).map fun hash =>
      { entity with password := some hash }
  else .ok entity

/-- What the subscriber makes of the entity. Where no column changes, there is no update and
the subscriber is not called. -/
def subscribed (bcrypt : Bcrypt) (env : CallEnv) (entity : AssignedUser) :
    Except String AssignedUser :=
  if entity.row = entity.loaded then .ok entity else beforeUpdate bcrypt env entity

/-- `save` of a loaded user. Columns that are as they were loaded are not written. -/
def saveUser (bcrypt : Bcrypt) (env : CallEnv) (entity : AssignedUser)
    (users : List UserEntity) : Except String (AssignedUser × List UserEntity) :=
  match subscribed bcrypt env entity with
  | .error message => .error message
  | .ok saved =>
    if saved.row = saved.loaded then .ok (saved, users)
    else if Savable users saved.row then .ok (saved, writeUser saved.row users)
    else .error env.failure

/-- `user.settings.isActive = isActive`, where both are there. -/
def assignIsActive (dto : UpdateUserDto) (entity : AssignedUser) : AssignedUser :=
  { entity with
    settings := entity.settings.map fun settings =>
      { settings with isActive := dto.isActive.getD settings.isActive } }

/-- The row that an update leaves. -/
def updatedUser (bcrypt : Bcrypt) (env : CallEnv) (dto : UpdateUserDto) (user : UserEntity) :
    Option UserEntity :=
  (subscribed bcrypt env (assignUserFields dto user)).toOption.map fun saved =>
    (assignIsActive dto saved).row

/-- The truthy name of another account is taken. -/
def namesTaken (env : CallEnv) (userId : String) (dto : UpdateUserDto)
    (users : List UserEntity) : Bool :=
  if (dto.username.filter (· ≠ "")).isSome || (dto.email.filter (· ≠ "")).isSome then
    match findByUsernameOrEmail env dto.username dto.email users with
    | some existing => existing.id ≠ userId
    | none => false
  else false

def updateUser (bcrypt : Bcrypt) (env : CallEnv) (userId : String) (dto : UpdateUserDto)
    (users : List UserEntity) : ResponseCore UserDto × List UserEntity :=
  match findUser users userId with
  | none => (.fail .notFound "error.userNotFound", users)
  | some user =>
    if namesTaken env userId dto users then
      (.fail .badRequest "error.userAlreadyExists", users)
    else
      match saveUser bcrypt env (assignUserFields dto user) users with
      | .error message =>
        (.fail .internalServerError
          (if message = "" then "error.internalServerError" else message), users)
      | .ok (saved, after) =>
        let settled := assignIsActive dto saved
        (.ok settled.toDto, writeUser settled.row after)

/-- The root account, with its settings. -/
def rootUser (bcrypt : Bcrypt) (env : CallEnv) (rootPassword : String) : UserEntity :=
  beforeInsert bcrypt env
    { id := env.id
      firstName := some "Root"
      lastName := some "User"
      role := .root
      username := "root"
      email := some "root@example.com"
      password := some rootPassword
      settings := some { isEmailVerified := true, isPhoneVerified := true } }

def initRootUser (bcrypt : Bcrypt) (env : CallEnv) (rootPassword : String)
    (users : List UserEntity) : Except String Unit × List UserEntity :=
  match findByUsernameOrEmail env (some "root") none users with
  | some _ => (.ok (), users)
  | none =>
    match insertUser env (rootUser bcrypt env rootPassword) users with
    | .error message => (.error message, users)
    | .ok after => (.ok (), after)

/-- `!emailVerificationToken || emailVerificationToken !== token || tokenExpired`. -/
def tokenRefused (env : CallEnv) (token : String) (settings : UserSettingsEntity) : Bool :=
  settings.emailVerificationToken.filter (· ≠ "") ≠ some token ||
    settings.emailVerificationTokenExpiresAt.all (· < env.now)

/-- The row after its settings are verified. -/
def verifiedUser (settings : UserSettingsEntity) (user : UserEntity) : UserEntity :=
  { user with
    settings := some
      { settings with
        isEmailVerified := true
        emailVerificationToken := none
        emailVerificationTokenExpiresAt := none } }

def verifyEmail (env : CallEnv) (email token : String) (users : List UserEntity) :
    ResponseCore Unit × List UserEntity :=
  match findByUsernameOrEmail env none (some email) users with
  | none => (.fail .notFound "error.userNotFound", users)
  | some user =>
    match user.settings with
    | none => (.fail .notFound "error.userNotFound", users)
    | some settings =>
      if settings.isEmailVerified then (⟨.success, none, "success.emailAlreadyVerified"⟩, users)
      else if tokenRefused env token settings then
        (.fail .badRequest "error.invalidOrExpiredToken", users)
      else (⟨.success, none, "success.emailVerified"⟩, writeUser (verifiedUser settings user) users)

/-! ## Calls -/

inductive AccountCall where
  | createUser (env : CallEnv) (dto : UserRegisterDto)
  | createUserByAdmin (env : CallEnv) (dto : CreateUserDto)
  | updateUser (env : CallEnv) (userId : String) (dto : UpdateUserDto)
  | initRootUser (env : CallEnv) (rootPassword : String)
  | verifyEmail (env : CallEnv) (email token : String)

namespace AccountCall

variable (bcrypt : Bcrypt)

/-- The rows after a call. -/
def after (users : List UserEntity) : AccountCall → List UserEntity
  | .createUser env dto => (AiotCloud.createUser bcrypt env dto users).2
  | .createUserByAdmin env dto => (AiotCloud.createUserByAdmin bcrypt env dto users).2
  | .updateUser env userId dto => (AiotCloud.updateUser bcrypt env userId dto users).2
  | .initRootUser env rootPassword => (AiotCloud.initRootUser bcrypt env rootPassword users).2
  | .verifyEmail env email token => (AiotCloud.verifyEmail env email token users).2

/-- The row that a call inserts or writes, if its lookups and the indexes let it. -/
def saved (users : List UserEntity) : AccountCall → Option UserEntity
  | .createUser env dto =>
    let row := registeredUser bcrypt env dto
    if (findByUsernameOrEmail env (some dto.username) (some dto.email) users = none ∧ env.mailed) ∧
      Insertable users row then some row else none
  | .createUserByAdmin env dto =>
    let row := vouchedUser bcrypt env dto
    if findByUsernameOrEmail env (some dto.username) dto.email users = none ∧
      Insertable users row then some row else none
  | .initRootUser env rootPassword =>
    let row := rootUser bcrypt env rootPassword
    if findByUsernameOrEmail env (some "root") none users = none ∧
      Insertable users row then some row else none
  | .updateUser env userId dto =>
    if namesTaken env userId dto users then none
    else ((findUser users userId).bind (updatedUser bcrypt env dto)).filter fun row =>
      Savable users row
  | .verifyEmail env email token =>
    (findByUsernameOrEmail env none (some email) users).bind fun user =>
      (user.settings.filter fun settings =>
        !settings.isEmailVerified && !tokenRefused env token settings).map (verifiedUser · user)

end AccountCall

/-! ## Keys -/

/-- The primary key and the unique indexes of `users`. -/
structure UserKeys (users : List UserEntity) : Prop where
  ids : Keyed.Distinct UserEntity.id users
  names : ∀ user ∈ users, ∀ other ∈ users, user.id ≠ other.id → DistinctNames user other

theorem UserKeys.nil : UserKeys [] := ⟨List.nodup_nil, by simp⟩

theorem findUser_eq_some_iff {users : List UserEntity} (keys : UserKeys users) {id : String}
    {user : UserEntity} : findUser users id = some user ↔ user ∈ users ∧ user.id = id :=
  keys.ids.find_eq_some_iff

theorem mem_of_findByUsernameOrEmail {env : CallEnv} {username email : Option String}
    {users : List UserEntity} {user : UserEntity}
    (h : findByUsernameOrEmail env username email users = some user) :
    user ∈ users ∧ matchesNames username email user = true :=
  ⟨(env.perm users).subset (List.mem_of_find?_eq_some h), List.find?_some h⟩

theorem findByUsernameOrEmail_eq_none_iff {env : CallEnv} {username email : Option String}
    {users : List UserEntity} : findByUsernameOrEmail env username email users = none ↔
      ∀ user ∈ users, matchesNames username email user = false := by
  simp [findByUsernameOrEmail, (env.perm users).mem_iff]

theorem DistinctNames.symm {user other : UserEntity} (h : DistinctNames user other) :
    DistinctNames other user := by
  refine ⟨h.1.symm, ?_⟩
  cases hemail : user.email with
  | none => exact Or.inl rfl
  | some email =>
    refine Or.inr fun same => ?_
    rcases h.2 with missing | hne
    · exact absurd (same.symm.trans missing) (by simp)
    · exact hne (hemail.trans same.symm)

theorem UserKeys.concat {users : List UserEntity} (keys : UserKeys users) {row : UserEntity}
    (insertable : Insertable users row) : UserKeys (users ++ [row]) := by
  refine ⟨keys.ids.concat fun user huser => (insertable user huser).1, ?_⟩
  intro user huser other hother hne
  rcases List.mem_append.mp huser with huser | huser <;>
    rcases List.mem_append.mp hother with hother | hother
  · exact keys.names user huser other hother hne
  · rw [List.mem_singleton.mp hother]
    exact (insertable user huser).2
  · rw [List.mem_singleton.mp huser]
    exact (insertable other hother).2.symm
  · obtain rfl := List.mem_singleton.mp huser
    exact absurd (List.mem_singleton.mp hother).symm (hne ∘ congrArg _)

theorem mem_writeUser_iff {users : List UserEntity} {row user : UserEntity}
    (exist : ∃ old ∈ users, old.id = row.id) :
    user ∈ writeUser row users ↔ user = row ∨ (user ∈ users ∧ user.id ≠ row.id) := by
  unfold writeUser
  rw [Keyed.mem_modify_iff]
  obtain ⟨old, hold, hid⟩ := exist
  exact or_congr_left ⟨fun ⟨_, _, _, same⟩ => same, fun same => ⟨old, hold, hid, same⟩⟩

theorem UserKeys.write {users : List UserEntity} (keys : UserKeys users) {row : UserEntity}
    (exist : ∃ old ∈ users, old.id = row.id) (savable : Savable users row) :
    UserKeys (writeUser row users) := by
  refine ⟨keys.ids.modify fun user _ hid => hid.symm, ?_⟩
  intro user huser other hother hne
  rw [mem_writeUser_iff exist] at huser hother
  rcases huser with rfl | ⟨huser, huserId⟩ <;> rcases hother with rfl | ⟨hother, hotherId⟩
  · exact absurd rfl hne
  · exact (savable other hother hotherId).symm
  · exact savable user huser huserId
  · exact keys.names user huser other hother hne

theorem writeUser_writeUser {row row' : UserEntity} (same : row'.id = row.id)
    (users : List UserEntity) : writeUser row' (writeUser row users) = writeUser row' users := by
  simp only [writeUser, Keyed.modify, List.map_map, same]
  refine List.map_congr_left fun user _ => ?_
  by_cases h : user.id = row.id <;> simp [h]

/-- The subscriber writes the password only: it hashes the one that is given, and fails where
none is and another column changes. -/
theorem subscribed_cases (bcrypt : Bcrypt) (env : CallEnv) (entity : AssignedUser) :
    (entity.row = entity.loaded ∧ subscribed bcrypt env entity = .ok entity) ∨
      entity.row ≠ entity.loaded ∧
        ((entity.password = none ∧
            subscribed bcrypt env entity = .error "data and salt arguments required") ∨
          ∃ password, entity.password = some password ∧
            subscribed bcrypt env entity = .ok
              (if entity.loaded.password = some password then entity
                else { entity with password := some (bcrypt.hashSync env.salt password) })) := by
  unfold subscribed beforeUpdate
  by_cases unchanged : entity.row = entity.loaded
  · exact .inl ⟨unchanged, if_pos unchanged⟩
  · refine .inr ⟨unchanged, ?_⟩
    rw [if_neg unchanged]
    cases hpassword : entity.password with
    | none => exact .inl ⟨rfl, by simp [generateHash, Except.map]⟩
    | some password =>
      refine .inr ⟨password, rfl, ?_⟩
      by_cases same : entity.loaded.password = some password
      · simp [same]
      · simp [same, Ne.symm same, generateHash, Except.map]

theorem subscribed_kept {bcrypt : Bcrypt} {env : CallEnv} {entity saved : AssignedUser}
    (h : subscribed bcrypt env entity = .ok saved) :
    saved = { entity with password := saved.password } := by
  obtain ⟨_, heq⟩ | ⟨_, ⟨_, heq⟩ | ⟨password, _, heq⟩⟩ := subscribed_cases bcrypt env entity <;>
    rw [h] at heq
  · obtain rfl := Except.ok.inj heq
    rfl
  · cases heq
  · obtain rfl := Except.ok.inj heq
    split_ifs <;> rfl

theorem updatedUser_eq_some {bcrypt : Bcrypt} {env : CallEnv} {dto : UpdateUserDto}
    {user row : UserEntity} (h : updatedUser bcrypt env dto user = some row) :
    ∃ saved, subscribed bcrypt env (assignUserFields dto user) = .ok saved ∧
      row = (assignIsActive dto saved).row := by
  unfold updatedUser at h
  cases hsaved : subscribed bcrypt env (assignUserFields dto user) with
  | error message => simp [hsaved, Except.toOption] at h
  | ok saved => exact ⟨saved, rfl, by simpa [hsaved, Except.toOption] using h.symm⟩

theorem updatedUser_id {bcrypt : Bcrypt} {env : CallEnv} {dto : UpdateUserDto}
    {user row : UserEntity} (h : updatedUser bcrypt env dto user = some row) :
    row.id = user.id := by
  obtain ⟨saved, hsaved, rfl⟩ := updatedUser_eq_some h
  rw [subscribed_kept hsaved]
  rfl

/-- What a call leaves, given the row it saves: the rows as they were, one row more, or one
row changed. -/
inductive Leaves (users : List UserEntity) : Option UserEntity → List UserEntity → Prop
  | same : Leaves users none users
  | inserted (row : UserEntity) (insertable : Insertable users row) :
      Leaves users (some row) (users ++ [row])
  | written (user row : UserEntity) (huser : user ∈ users) (id : row.id = user.id)
      (savable : Savable users row) : Leaves users (some row) (writeUser row users)

/-- A call that inserts, if `through`, and is rolled back if the indexes refuse the row. -/
theorem Leaves.of_insert {users after : List UserEntity} {row : UserEntity} {through : Prop}
    [Decidable through]
    (h : after = if through ∧ Insertable users row then users ++ [row] else users) :
    Leaves users (if through ∧ Insertable users row then some row else none) after := by
  rw [h]
  split_ifs with goes
  · exact .inserted row goes.2
  · exact .same

theorem leaves_createUser (bcrypt : Bcrypt) (env : CallEnv) (dto : UserRegisterDto)
    (users : List UserEntity) :
    Leaves users ((AccountCall.createUser env dto).saved bcrypt users)
      (createUser bcrypt env dto users).2 := by
  refine Leaves.of_insert ?_
  unfold createUser insertUser
  cases findByUsernameOrEmail env (some dto.username) (some dto.email) users with
  | some existing => simp
  | none =>
    by_cases insertable : Insertable users (registeredUser bcrypt env dto) <;>
      cases env.mailed <;> simp [insertable]

theorem leaves_createUserByAdmin (bcrypt : Bcrypt) (env : CallEnv) (dto : CreateUserDto)
    (users : List UserEntity) :
    Leaves users ((AccountCall.createUserByAdmin env dto).saved bcrypt users)
      (createUserByAdmin bcrypt env dto users).2 := by
  refine Leaves.of_insert ?_
  unfold createUserByAdmin insertUser
  cases findByUsernameOrEmail env (some dto.username) dto.email users with
  | some existing => simp
  | none =>
    by_cases insertable : Insertable users (vouchedUser bcrypt env dto) <;> simp [insertable]

theorem leaves_initRootUser (bcrypt : Bcrypt) (env : CallEnv) (rootPassword : String)
    (users : List UserEntity) :
    Leaves users ((AccountCall.initRootUser env rootPassword).saved bcrypt users)
      (initRootUser bcrypt env rootPassword users).2 := by
  refine Leaves.of_insert ?_
  unfold initRootUser insertUser
  cases findByUsernameOrEmail env (some "root") none users with
  | some existing => simp
  | none =>
    by_cases insertable : Insertable users (rootUser bcrypt env rootPassword) <;>
      simp [insertable]

/-- A loaded row is let in as it is. -/
theorem UserKeys.savable {users : List UserEntity} (keys : UserKeys users) {user : UserEntity}
    (huser : user ∈ users) : Savable users user :=
  fun other hother hne => keys.names other hother user huser hne

/-- What an update answers and leaves, once its lookups let it through. -/
theorem updateUser_eq (bcrypt : Bcrypt) (env : CallEnv) (dto : UpdateUserDto)
    {users : List UserEntity} (keys : UserKeys users) {user : UserEntity} (huser : user ∈ users)
    (free : namesTaken env user.id dto users = false) :
    updateUser bcrypt env user.id dto users =
      match subscribed bcrypt env (assignUserFields dto user) with
      | .error message =>
        (.fail .internalServerError
          (if message = "" then "error.internalServerError" else message), users)
      | .ok saved =>
        if Savable users saved.row then
          (.ok (assignIsActive dto saved).toDto, writeUser (assignIsActive dto saved).row users)
        else
          (.fail .internalServerError
            (if env.failure = "" then "error.internalServerError" else env.failure), users) := by
  have found : findUser users user.id = some user := (findUser_eq_some_iff keys).mpr ⟨huser, rfl⟩
  simp only [updateUser, found, free, Bool.false_eq_true, if_false, saveUser]
  cases hsaved : subscribed bcrypt env (assignUserFields dto user) with
  | error message => rfl
  | ok saved =>
    have loaded : saved.loaded = user := by rw [subscribed_kept hsaved]; rfl
    by_cases unchanged : saved.row = saved.loaded
    · have savable : Savable users saved.row := by
        rw [unchanged, loaded]
        exact keys.savable huser
      simp only [if_pos unchanged, if_pos savable]
    · have id : (assignIsActive dto saved).row.id = saved.row.id := rfl
      by_cases savable : Savable users saved.row
      · simp only [if_neg unchanged, if_pos savable, writeUser_writeUser id]
      · simp only [if_neg unchanged, if_neg savable]

theorem leaves_updateUser (bcrypt : Bcrypt) (env : CallEnv) (userId : String)
    (dto : UpdateUserDto) {users : List UserEntity} (keys : UserKeys users) :
    Leaves users ((AccountCall.updateUser env userId dto).saved bcrypt users)
      (updateUser bcrypt env userId dto users).2 := by
  simp only [AccountCall.saved]
  cases hfind : findUser users userId with
  | none => simpa [updateUser, hfind] using Leaves.same
  | some user =>
    obtain ⟨huser, rfl⟩ := (findUser_eq_some_iff keys).mp hfind
    cases htaken : namesTaken env user.id dto users with
    | true => simpa [updateUser, hfind, htaken] using Leaves.same
    | false =>
      rw [updateUser_eq bcrypt env dto keys huser htaken]
      cases hsaved : subscribed bcrypt env (assignUserFields dto user) with
      | error message => simpa [hsaved, updatedUser, Except.toOption] using Leaves.same
      | ok saved =>
        have row : updatedUser bcrypt env dto user = some (assignIsActive dto saved).row := by
          simp [updatedUser, hsaved, Except.toOption]
        -- The settings are no part of the indexes.
        have names : Savable users (assignIsActive dto saved).row ↔ Savable users saved.row :=
          Iff.rfl
        by_cases savable : Savable users saved.row
        · simpa [row, Option.filter_some, names, savable] using
            Leaves.written user _ huser (updatedUser_id row) (names.mpr savable)
        · simpa [row, Option.filter_some, names, savable] using Leaves.same

/-- The names of the row stay, so the indexes let it be. -/
theorem leaves_verifyEmail (bcrypt : Bcrypt) (env : CallEnv) (email token : String)
    {users : List UserEntity} (keys : UserKeys users) :
    Leaves users ((AccountCall.verifyEmail env email token).saved bcrypt users)
      (verifyEmail env email token users).2 := by
  simp only [AccountCall.saved, verifyEmail]
  cases hfind : findByUsernameOrEmail env none (some email) users with
  | none => exact .same
  | some user =>
    have huser := (mem_of_findByUsernameOrEmail hfind).1
    cases hsettings : user.settings with
    | none => simpa [hsettings] using Leaves.same
    | some settings =>
      cases hverified : settings.isEmailVerified with
      | true => simpa [hsettings, Option.filter_some, hverified] using Leaves.same
      | false =>
        cases hrefused : tokenRefused env token settings with
        | true => simpa [hsettings, Option.filter_some, hverified, hrefused] using Leaves.same
        | false =>
          have savable : Savable users (verifiedUser settings user) :=
            fun other hother hne => keys.names other hother user huser hne
          simpa [hsettings, Option.filter_some, hverified, hrefused] using
            Leaves.written user (verifiedUser settings user) huser rfl savable

theorem leaves_after (bcrypt : Bcrypt) {users : List UserEntity} (keys : UserKeys users)
    (call : AccountCall) : Leaves users (call.saved bcrypt users) (call.after bcrypt users) := by
  cases call with
  | createUser env dto => exact leaves_createUser bcrypt env dto users
  | createUserByAdmin env dto => exact leaves_createUserByAdmin bcrypt env dto users
  | updateUser env userId dto => exact leaves_updateUser bcrypt env userId dto keys
  | initRootUser env rootPassword => exact leaves_initRootUser bcrypt env rootPassword users
  | verifyEmail env email token => exact leaves_verifyEmail bcrypt env email token keys

theorem UserKeys.leaves {users after : List UserEntity} (keys : UserKeys users)
    {saved : Option UserEntity} (h : Leaves users saved after) : UserKeys after := by
  cases h with
  | same => exact keys
  | inserted row insertable => exact keys.concat insertable
  | written user row huser id savable => exact keys.write ⟨user, huser, id.symm⟩ savable

/-- No account goes. -/
theorem Leaves.stays {users after : List UserEntity} {saved : Option UserEntity}
    (h : Leaves users saved after) {user : UserEntity} (huser : user ∈ users) :
    ∃ later ∈ after, later.id = user.id := by
  cases h with
  | same => exact ⟨user, huser, rfl⟩
  | inserted row insertable => exact ⟨user, List.mem_append_left _ huser, rfl⟩
  | written old row hold id savable =>
    have exist : ∃ old ∈ users, old.id = row.id := ⟨old, hold, id.symm⟩
    rcases eq_or_ne user.id row.id with same | hne
    · exact ⟨row, (mem_writeUser_iff exist).mpr (Or.inl rfl), same.symm⟩
    · exact ⟨user, (mem_writeUser_iff exist).mpr (Or.inr ⟨huser, hne⟩), rfl⟩

/-- A row after the call is one from before or the one that is saved. -/
theorem Leaves.mem_or_saved {users after : List UserEntity} {saved : Option UserEntity}
    (h : Leaves users saved after) {user : UserEntity} (huser : user ∈ after) :
    user ∈ users ∨ saved = some user := by
  cases h with
  | same => exact Or.inl huser
  | inserted row insertable =>
    exact (List.mem_append.mp huser).imp_right fun new => by rw [List.mem_singleton.mp new]
  | written old row hold id savable =>
    rcases (mem_writeUser_iff ⟨old, hold, id.symm⟩).mp huser with rfl | ⟨huser, -⟩
    · exact Or.inr rfl
    · exact Or.inl huser

/-! ## Stand-ins -/

/-- The package as it is on the texts below: a hash accepts the text it was made from. -/
def plainBcrypt : Bcrypt := ⟨fun _ text => "$2b$" ++ text, fun text hash => hash == "$2b$" ++ text⟩

def someEnv (id : String) : CallEnv where
  order users := users
  perm _ := .refl _
  id := id
  token := "token"
  salt := ""
  now := 0
  mailed := true
  failure := ""

end AiotCloud
