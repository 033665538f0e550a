import AiotCloud.Accounts

/-!
# What an update of a user leaves alone

The fields that a request omits are `undefined` properties of the user that is saved. The
database skips them, but the subscriber that hashes passwords takes `undefined` for a new
password.

1. `namesTaken_of_free`, `savable_of_free`: names that no other account has stop no update.
2. `updatesAsAsked_iff_of_saved`: what remains to be asked of an update that goes through.
3. `update_user_iff`: when an update goes through and leaves the omitted fields alone.
-/

namespace AiotCloud

/-- No other account has the username or the email of the request. -/
def FreeNames (dto : UpdateUserDto) (users : List UserEntity) (user : UserEntity) : Prop :=
  ∀ other ∈ users, other.id ≠ user.id →
    (∀ username ∈ dto.username, other.username ≠ username) ∧
      ∀ email ∈ dto.email, other.email ≠ some email

instance (dto : UpdateUserDto) (users : List UserEntity) (user : UserEntity) :
    Decidable (FreeNames dto users user) :=
  inferInstanceAs (Decidable (∀ other ∈ users, _))

/-- The row has the stored value of each field that the request omits. -/
structure KeepsOmitted (dto : UpdateUserDto) (user row : UserEntity) : Prop where
  username : dto.username = none → row.username = user.username
  password : dto.password = none → row.password = user.password
  firstName : dto.firstName = none → row.firstName = user.firstName
  lastName : dto.lastName = none → row.lastName = user.lastName
  email : dto.email = none → row.email = user.email
  phone : dto.phone = none → row.phone = user.phone
  role : dto.role = none → row.role = user.role
  isActive : dto.isActive = none → row.settings = user.settings
  factoryId : dto.factoryId = none → row.factoryId = user.factoryId

section

variable (bcrypt : Bcrypt) (env : CallEnv) (dto : UpdateUserDto) (users : List UserEntity)
  (user : UserEntity)

/-- The update succeeds, keeps what is omitted, and hashes a password that is given. -/
structure UpdatesAsAsked : Prop where
  succeeds : ∃ answer, (updateUser bcrypt env user.id dto users).1 = .ok answer
  leaves : ∃ row, findUser (updateUser bcrypt env user.id dto users).2 user.id = some row ∧
    KeepsOmitted dto user row ∧
      ∀ password, dto.password = some password →
        row.password = some (bcrypt.hashSync env.salt password)

/-- Every field of the request that is a column of `users` has the value stored. -/
structure ChangesNoColumn : Prop where
  username : ∀ username, dto.username = some username → user.username = username
  password : ∀ password, dto.password = some password → user.password = some password
  firstName : ∀ firstName, dto.firstName = some firstName → user.firstName = some firstName
  lastName : ∀ lastName, dto.lastName = some lastName → user.lastName = some lastName
  email : ∀ email, dto.email = some email → user.email = some email
  phone : ∀ phone, dto.phone = some phone → user.phone = some phone
  role : ∀ role, dto.role = some role → user.role = role
  factoryId : ∀ factoryId, dto.factoryId = some factoryId → user.factoryId = factoryId

/-- A password is given that is not the text of the stored hash, unless it is its own hash, or
none is given and no column changes. -/
def PasswordFits : Prop :=
  match dto.password with
  | some password => user.password ≠ some password ∨ bcrypt.hashSync env.salt password = password
  | none => ChangesNoColumn dto user

end

variable {bcrypt : Bcrypt} {env : CallEnv} {dto : UpdateUserDto} {users : List UserEntity}
  {user : UserEntity}

/-! ## Names -/

theorem matchesNames_cases {username email : Option String} {user : UserEntity}
    (given : (username.filter (· ≠ "")).isSome = true ∨ (email.filter (· ≠ "")).isSome = true)
    (h : matchesNames username email user = true) :
    some user.username = username ∨ ∃ text, email = some text ∧ user.email = some text := by
  have named : ∀ {text name : String}, username.filter (· ≠ "") = some name → text = name →
      some text = username := by
    rintro text name hname rfl
    exact (Option.filter_eq_some_iff.mp hname).1.symm
  have mailed : ∀ {text : String}, email.filter (· ≠ "") = some text → email = some text :=
    fun htext => (Option.filter_eq_some_iff.mp htext).1
  unfold matchesNames at h
  cases hemail : email.filter (· ≠ "") with
  | none =>
    cases husername : username.filter (· ≠ "") with
    | none =>
      rw [hemail, husername] at given
      simp at given
    | some name =>
      simp only [hemail, husername] at h
      exact .inl (named husername (beq_iff_eq.mp h))
  | some text =>
    cases husername : username.filter (· ≠ "") with
    | none =>
      simp only [hemail, husername] at h
      exact .inr ⟨text, mailed hemail, beq_iff_eq.mp h⟩
    | some name =>
      simp only [hemail, husername, Bool.or_eq_true, beq_iff_eq] at h
      rcases h with h | h
      · exact .inr ⟨text, mailed hemail, h⟩
      · exact .inl (named husername h)

theorem namesTaken_of_free (free : FreeNames dto users user) :
    namesTaken env user.id dto users = false := by
  unfold namesTaken
  split_ifs with given
  · cases hfind : findByUsernameOrEmail env dto.username dto.email users with
    | none => rfl
    | some existing =>
      obtain ⟨hmem, hmatch⟩ := mem_of_findByUsernameOrEmail hfind
      by_contra taken
      have other : existing.id ≠ user.id := by simpa using taken
      obtain ⟨usernames, emails⟩ := free existing hmem other
      rw [Bool.or_eq_true] at given
      rcases matchesNames_cases given hmatch with same | ⟨email, hemail, same⟩
      · exact usernames _ same.symm rfl
      · exact emails email hemail same
  · rfl

theorem savable_of_free (keys : UserKeys users) (huser : user ∈ users)
    (free : FreeNames dto users user) :
    Savable users (assignUserFields dto user).row := by
  intro other hother hne
  obtain ⟨username, email⟩ := keys.names other hother user huser hne
  obtain ⟨usernames, emails⟩ := free other hother hne
  constructor
  · cases h : dto.username with
    | none => simpa [assignUserFields, AssignedUser.row, h] using username
    | some name => simpa [assignUserFields, AssignedUser.row, h] using usernames name h
  · cases h : dto.email with
    | none => simpa [assignUserFields, AssignedUser.row, h] using email
    | some text => exact .inr (by simpa [assignUserFields, AssignedUser.row, h] using emails text h)

/-! ## The password -/

theorem getD_eq_iff {α : Type} {given : Option α} {stored : α} :
    given.getD stored = stored ↔ ∀ value, given = some value → stored = value := by
  cases given with
  | none => simp
  | some value => simp [eq_comm]

theorem orElse_eq_iff {α : Type} {given stored : Option α} :
    (given <|> stored) = stored ↔ ∀ value, given = some value → stored = some value := by
  cases given with
  | none => simp
  | some value => simp [eq_comm]

theorem row_eq_iff : (assignUserFields dto user).row = user ↔ ChangesNoColumn dto user := by
  constructor
  · intro same
    exact
      { username := getD_eq_iff.mp (congrArg UserEntity.username same)
        password := orElse_eq_iff.mp (congrArg UserEntity.password same)
        firstName := orElse_eq_iff.mp (congrArg UserEntity.firstName same)
        lastName := orElse_eq_iff.mp (congrArg UserEntity.lastName same)
        email := orElse_eq_iff.mp (congrArg UserEntity.email same)
        phone := orElse_eq_iff.mp (congrArg UserEntity.phone same)
        role := getD_eq_iff.mp (congrArg UserEntity.role same)
        factoryId := getD_eq_iff.mp (congrArg UserEntity.factoryId same) }
  · intro same
    simp only [AssignedUser.row, assignUserFields, getD_eq_iff.mpr same.username,
      orElse_eq_iff.mpr same.password, orElse_eq_iff.mpr same.firstName,
      orElse_eq_iff.mpr same.lastName, orElse_eq_iff.mpr same.email,
      orElse_eq_iff.mpr same.phone, getD_eq_iff.mpr same.role, getD_eq_iff.mpr same.factoryId]

/-- The row that an update leaves keeps the omitted fields, if the subscriber sets no password
where none is given. -/
theorem keepsOmitted (password : Option String) (kept : dto.password = none → password = none) :
    KeepsOmitted dto user
      (assignIsActive dto { assignUserFields dto user with password := password }).row where
  username h := by simp [assignIsActive, assignUserFields, AssignedUser.row, h]
  password h := by simp [assignIsActive, assignUserFields, AssignedUser.row, kept h]
  firstName h := by simp [assignIsActive, assignUserFields, AssignedUser.row, h]
  lastName h := by simp [assignIsActive, assignUserFields, AssignedUser.row, h]
  email h := by simp [assignIsActive, assignUserFields, AssignedUser.row, h]
  phone h := by simp [assignIsActive, assignUserFields, AssignedUser.row, h]
  role h := by simp [assignIsActive, assignUserFields, AssignedUser.row, h]
  isActive h := by simp [assignIsActive, assignUserFields, AssignedUser.row, h]
  factoryId h := by simp [assignIsActive, assignUserFields, AssignedUser.row, h]

/-- An update that goes through does what is asked if it leaves the hash of a given
password. -/
theorem updatesAsAsked_iff_of_saved (keys : UserKeys users) (huser : user ∈ users)
    (free : FreeNames dto users user) {saved : AssignedUser}
    (hsaved : subscribed bcrypt env (assignUserFields dto user) = .ok saved)
    (kept : dto.password = none → saved.password = none) :
    UpdatesAsAsked bcrypt env dto users user ↔
      ∀ password, dto.password = some password →
        (saved.password <|> user.password) = some (bcrypt.hashSync env.salt password) := by
  have form := subscribed_kept hsaved
  have savable : Savable users saved.row := by
    rw [form]
    exact savable_of_free keys huser free
  have result := updateUser_eq bcrypt env dto keys huser (namesTaken_of_free free)
  simp only [hsaved, if_pos savable] at result
  have id : (assignIsActive dto saved).row.id = user.id := by rw [form]; rfl
  have found : findUser (updateUser bcrypt env user.id dto users).2 user.id =
      some (assignIsActive dto saved).row := by
    have mem : (assignIsActive dto saved).row ∈ writeUser (assignIsActive dto saved).row users :=
      (mem_writeUser_iff ⟨user, huser, id.symm⟩).mpr (.inl rfl)
    rw [result]
    exact (findUser_eq_some_iff (keys.write ⟨user, huser, id.symm⟩ savable)).mpr ⟨mem, id⟩
  have password : (assignIsActive dto saved).row.password = (saved.password <|> user.password) := by
    rw [form]
    rfl
  constructor
  · rintro ⟨-, row, hrow, -, hashed⟩
    obtain rfl := Option.some.inj (found.symm.trans hrow)
    rwa [password] at hashed
  · intro hashed
    refine ⟨⟨_, by rw [result]⟩, _, found, ?_, by rwa [password]⟩
    rw [form]
    exact keepsOmitted saved.password kept

/-- With names that no other account has, an update succeeds, leaves the omitted fields alone
and hashes a given password, exactly when the password fits. -/
theorem update_user_iff (keys : UserKeys users) (huser : user ∈ users)
    (free : FreeNames dto users user) :
    UpdatesAsAsked bcrypt env dto users user ↔ PasswordFits bcrypt env dto user := by
  unfold PasswordFits
  obtain ⟨unchanged, hsaved⟩ | ⟨changed, ⟨omitted, hsaved⟩ | ⟨password, given, hsaved⟩⟩ :=
    subscribed_cases bcrypt env (assignUserFields dto user)
  · rw [updatesAsAsked_iff_of_saved keys huser free hsaved id]
    have columns := row_eq_iff.mp unchanged
    cases hpassword : dto.password with
    | none => exact iff_of_true (fun password h => by cases h) columns
    | some password =>
      have stored := columns.password password hpassword
      simp [assignUserFields, hpassword, stored, eq_comm]
  · have omitted : dto.password = none := omitted
    have failed := updateUser_eq bcrypt env dto keys huser (namesTaken_of_free free)
    rw [hsaved] at failed
    rw [omitted]
    refine iff_of_false ?_ fun columns => changed (row_eq_iff.mpr columns)
    rintro ⟨⟨answer, succeeds⟩, -⟩
    rw [failed] at succeeds
    exact absurd (congrArg ResponseCore.error succeeds) (by simp)
  · have given : dto.password = some password := given
    rw [updatesAsAsked_iff_of_saved keys huser free hsaved (by simp [given])]
    by_cases stored : user.password = some password
    · simp [assignUserFields, given, stored, eq_comm]
    · simp [assignUserFields, given, stored]

/-! ### A new first name -/

def ann : UserEntity :=
  { id := "u1", firstName := some "An", username := "ann", password := some "$2b$secret" }

theorem annKeys : UserKeys [ann] :=
  ⟨List.nodup_singleton _, by simp⟩

/-- The password of the request is `undefined`, which has no hash. -/
theorem firstName_not_updated :
    ¬ UpdatesAsAsked plainBcrypt (someEnv "") { firstName := some "Ann" } [ann] ann := by
  rintro ⟨⟨answer, succeeds⟩, -⟩
  have failed : (updateUser plainBcrypt (someEnv "") ann.id { firstName := some "Ann" }
      [ann]).1.error = .internalServerError := by decide
  exact absurd (failed.symm.trans (congrArg ResponseCore.error succeeds)) (by simp)

theorem update_user_iff_firstName :
    UpdatesAsAsked plainBcrypt (someEnv "") { firstName := some "Ann" } [ann] ann ↔
      PasswordFits plainBcrypt (someEnv "") { firstName := some "Ann" } ann :=
  update_user_iff annKeys (by decide) (by decide)

end AiotCloud
