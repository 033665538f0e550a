import AiotCloud.Credentials
import AiotCloud.RequestGuard

/-!
# Passwords

Five calls set a password: the three that create an account, `updateUser` and
`changePassword`. The subscriber of the entity turns it into a hash on its way to the table.
`PasswordWorld.book` is what the answers of the calls promise: for every account the text that
was set last. A login is decided by that text.

* `CredentialCall.passwordEffect`: what a call does to the stored hashes.
* `login_iff`: when a login goes through, along a run.
-/

namespace AiotCloud

/-- What the package guarantees: a hash accepts the texts that agree with the one it was made
from, which are those with the same first 72 bytes. -/
structure Bcrypt.Sound (bcrypt : Bcrypt) (agree : String → String → Prop) : Prop where
  compare : ∀ salt text given,
    bcrypt.compare given (bcrypt.hashSync salt text) = true ↔ agree given text
  filled : ∀ salt text, bcrypt.hashSync salt text ≠ ""
  blank : ∀ given, agree given "" → given = ""

/-- The column holds the hash of the text. An empty password is stored as it is. -/
def HoldsPassword (bcrypt : Bcrypt) (text : String) (stored : Option String) : Prop :=
  (∃ salt, stored = some (bcrypt.hashSync salt text)) ∨ text = "" ∧ stored = some ""

theorem HoldsPassword.hash (bcrypt : Bcrypt) (salt text : String) :
    HoldsPassword bcrypt text (some (bcrypt.hashSync salt text)) := Or.inl ⟨salt, rfl⟩

theorem HoldsPassword.inserted (bcrypt : Bcrypt) (env : CallEnv) {entity : UserEntity}
    {text : String} (given : entity.password = some text) :
    HoldsPassword bcrypt text (beforeInsert bcrypt env entity).password := by
  simp only [beforeInsert, given, Option.map_some]
  split_ifs with blank
  · exact Or.inr ⟨blank, by rw [blank]⟩
  · exact HoldsPassword.hash bcrypt env.salt text

theorem HoldsPassword.validateHash_iff {bcrypt : Bcrypt} {agree : String → String → Prop}
    (sound : bcrypt.Sound agree) {text : String} {stored : Option String}
    (holds : HoldsPassword bcrypt text stored) (given : String) :
    validateHash bcrypt given stored = true ↔ given ≠ "" ∧ agree given text := by
  rcases holds with ⟨salt, rfl⟩ | ⟨rfl, rfl⟩
  · simp [validateHash, sound.filled, sound.compare]
  · constructor
    · intro h
      simp [validateHash] at h
    · rintro ⟨filled, agrees⟩
      exact absurd (sound.blank given agrees) filled

/-! ## What the answers promise -/

/-- The stored hash is the text itself. Such a text is taken for the password as loaded. -/
def storesVerbatim (users : List UserEntity) (id text : String) : Bool :=
  (findUser users id).bind (·.password) == some text

namespace CredentialCall

variable (bcrypt : Bcrypt)

/-- The account and the password that a call sets, by its answer. -/
def sets (users : List UserEntity) : CredentialCall → Option (String × String)
  | account (.createUser env dto) =>
    (answeredData (createUser bcrypt env dto users).1).map fun user => (user.id, dto.password)
  | account (.createUserByAdmin env dto) =>
    (answeredData (createUserByAdmin bcrypt env dto users).1).map fun user =>
      (user.id, dto.password)
  | account (.initRootUser env rootPassword) =>
    if findByUsernameOrEmail env (some "root") none users = none ∧
      (initRootUser bcrypt env rootPassword users).1.toOption = some () then
      some (env.id, rootPassword)
    else none
  | account (.updateUser env userId dto) =>
    ((updateUser bcrypt env userId dto users).1.data.bind fun _ => dto.password).bind fun text =>
      if storesVerbatim users userId text then none else some (userId, text)
  | changePassword env userId dto =>
    if (AiotCloud.changePassword bcrypt env userId dto users).1.toOption.map (·.error) =
        some .success ∧ ¬ storesVerbatim users userId dto.newPassword then
      some (userId, dto.newPassword)
    else none
  | account (.verifyEmail ..) | resendVerification .. => none

end CredentialCall

/-- What a call does to the stored hashes. -/
inductive PasswordEffect (bcrypt : Bcrypt) (users : List UserEntity) :
    Option (String × String) → List UserEntity → Prop
  | same : PasswordEffect bcrypt users none users
  | inserted {row : UserEntity} {text : String} (insertable : Insertable users row)
      (holds : HoldsPassword bcrypt text row.password) :
      PasswordEffect bcrypt users (some (row.id, text)) (users ++ [row])
  | kept {user row : UserEntity} (huser : user ∈ users) (id : row.id = user.id)
      (password : row.password = user.password) :
      PasswordEffect bcrypt users none (writeUser row users)
  | reset {user row : UserEntity} {text : String} (huser : user ∈ users) (id : row.id = user.id)
      (holds : HoldsPassword bcrypt text row.password) :
      PasswordEffect bcrypt users (some (row.id, text)) (writeUser row users)

section Effect

variable {bcrypt : Bcrypt} {users : List UserEntity}

theorem passwordEffect_createUser (env : CallEnv) (dto : UserRegisterDto) :
    PasswordEffect bcrypt users
      ((CredentialCall.account (.createUser env dto)).sets bcrypt users)
      (createUser bcrypt env dto users).2 := by
  simp only [CredentialCall.sets, createUser, insertUser]
  cases findByUsernameOrEmail env (some dto.username) (some dto.email) users with
  | some existing => exact .same
  | none =>
    by_cases insertable : Insertable users (registeredUser bcrypt env dto)
    · cases hmailed : env.mailed with
      | false => simpa [insertable] using PasswordEffect.same
      | true =>
        simp only [if_pos insertable, if_true]
        exact .inserted insertable (HoldsPassword.inserted bcrypt env rfl)
    · simpa [insertable] using PasswordEffect.same

theorem passwordEffect_createUserByAdmin (env : CallEnv) (dto : CreateUserDto) :
    PasswordEffect bcrypt users
      ((CredentialCall.account (.createUserByAdmin env dto)).sets bcrypt users)
      (createUserByAdmin bcrypt env dto users).2 := by
  simp only [CredentialCall.sets, createUserByAdmin, insertUser]
  cases findByUsernameOrEmail env (some dto.username) dto.email users with
  | some existing => exact .same
  | none =>
    by_cases insertable : Insertable users (vouchedUser bcrypt env dto)
    · simp only [if_pos insertable]
      exact .inserted insertable (HoldsPassword.inserted bcrypt env rfl)
    · simpa [insertable] using PasswordEffect.same

theorem passwordEffect_initRootUser (env : CallEnv) (rootPassword : String) :
    PasswordEffect bcrypt users
      ((CredentialCall.account (.initRootUser env rootPassword)).sets bcrypt users)
      (initRootUser bcrypt env rootPassword users).2 := by
  cases hfind : findByUsernameOrEmail env (some "root") none users with
  | some existing =>
    simpa [CredentialCall.sets, initRootUser, hfind] using PasswordEffect.same
  | none =>
    by_cases insertable : Insertable users (rootUser bcrypt env rootPassword)
    · simp only [CredentialCall.sets, initRootUser, insertUser, hfind, if_pos insertable,
        Except.toOption, and_self, if_true]
      exact .inserted insertable (HoldsPassword.inserted bcrypt env rfl)
    · simpa [CredentialCall.sets, initRootUser, insertUser, hfind, insertable, Except.toOption]
        using PasswordEffect.same

theorem passwordEffect_changePassword (keys : UserKeys users) (env : CallEnv) (userId : String)
    (dto : ChangePasswordDto) :
    PasswordEffect bcrypt users ((CredentialCall.changePassword env userId dto).sets bcrypt users)
      (changePassword bcrypt env userId dto users).2 := by
  cases hfind : findUser users userId with
  | none =>
    simpa [CredentialCall.sets, changePassword, hfind, Except.toOption, ResponseCore.fail]
      using PasswordEffect.same
  | some user =>
    obtain ⟨huser, rfl⟩ := (findUser_eq_some_iff keys).mp hfind
    cases valid : validateHash bcrypt dto.currentPassword user.password with
    | false =>
      simpa [CredentialCall.sets, changePassword, hfind, valid, Except.toOption,
        ResponseCore.fail] using PasswordEffect.same
    | true =>
      have stores : storesVerbatim users user.id dto.newPassword =
          (user.password == some dto.newPassword) := by
        simp [storesVerbatim, hfind]
      simp only [CredentialCall.sets, changePassword_eq bcrypt env dto keys huser valid,
        Except.toOption, Option.map_some, stores, beq_iff_eq, true_and]
      by_cases same : user.password = some dto.newPassword
      · simpa [same] using PasswordEffect.same
      · simp only [same, not_false_eq_true, if_true, if_false]
        have holds := HoldsPassword.hash bcrypt env.salt dto.newPassword
        exact @PasswordEffect.reset bcrypt users user
          { user with password := some (bcrypt.hashSync env.salt dto.newPassword) } _ huser rfl
          holds

/-- The password of the row that an update saves. -/
theorem subscribed_password {env : CallEnv} {entity saved : AssignedUser}
    (h : subscribed bcrypt env entity = .ok saved) :
    saved.row.password =
      match entity.password with
      | none => entity.loaded.password
      | some text =>
        if entity.loaded.password = some text then some text
        else some (bcrypt.hashSync env.salt text) := by
  rcases subscribed_cases bcrypt env entity with
    ⟨unchanged, hsaved⟩ | ⟨-, ⟨-, hsaved⟩ | ⟨text, htext, hsaved⟩⟩
  · obtain rfl := Except.ok.inj (h.symm.trans hsaved)
    have same : saved.row.password = saved.loaded.password := congrArg _ unchanged
    cases hpassword : saved.password with
    | none => exact same
    | some text =>
      have row : saved.row.password = some text := by simp [AssignedUser.row, hpassword]
      rw [← same, row]
      simp
  · rw [h] at hsaved
    cases hsaved
  · obtain rfl := Except.ok.inj (h.symm.trans hsaved)
    simp only [htext]
    split_ifs <;> simp [AssignedUser.row, htext]

theorem passwordEffect_updateUser (keys : UserKeys users) (env : CallEnv) (userId : String)
    (dto : UpdateUserDto) :
    PasswordEffect bcrypt users
      ((CredentialCall.account (.updateUser env userId dto)).sets bcrypt users)
      (updateUser bcrypt env userId dto users).2 := by
  cases hfind : findUser users userId with
  | none =>
    simpa [CredentialCall.sets, updateUser, hfind, ResponseCore.fail] using PasswordEffect.same
  | some user =>
    obtain ⟨huser, rfl⟩ := (findUser_eq_some_iff keys).mp hfind
    cases htaken : namesTaken env user.id dto users with
    | true =>
      simpa [CredentialCall.sets, updateUser, hfind, htaken, ResponseCore.fail]
        using PasswordEffect.same
    | false =>
      have stores : ∀ text, storesVerbatim users user.id text = (user.password == some text) := by
        intro text
        simp [storesVerbatim, hfind]
      simp only [CredentialCall.sets, updateUser_eq bcrypt env dto keys huser htaken, stores]
      cases hsaved : subscribed bcrypt env (assignUserFields dto user) with
      | error message => simpa [ResponseCore.fail] using PasswordEffect.same
      | ok saved =>
        have id : (assignIsActive dto saved).row.id = user.id := by
          rw [subscribed_kept hsaved]
          rfl
        have settled : (assignIsActive dto saved).row.password = saved.row.password := rfl
        have password := settled.trans (subscribed_password hsaved)
        by_cases savable : Savable users saved.row
        · simp only [if_pos savable, ResponseCore.ok, Option.bind_some]
          cases hdto : dto.password with
          | none =>
            simp only [assignUserFields, hdto] at password
            exact .kept huser id password
          | some text =>
            simp only [assignUserFields, hdto] at password
            by_cases verbatim : user.password = some text
            · rw [if_pos verbatim, ← verbatim] at password
              simpa [verbatim] using PasswordEffect.kept huser id password
            · rw [if_neg verbatim] at password
              have holds : HoldsPassword bcrypt text (assignIsActive dto saved).row.password :=
                password ▸ HoldsPassword.hash bcrypt env.salt text
              simpa [verbatim, id] using PasswordEffect.reset huser id holds
        · simpa [savable, ResponseCore.fail] using PasswordEffect.same

/-- A call that writes no password. -/
theorem PasswordEffect.of_leaves {saved : Option UserEntity} {after : List UserEntity}
    (leaves : Leaves users saved after)
    (kept : ∀ row, saved = some row →
      ∃ user ∈ users, row.id = user.id ∧ row.password = user.password) :
    PasswordEffect bcrypt users none after := by
  cases leaves with
  | same => exact .same
  | inserted row insertable =>
    obtain ⟨user, huser, id, -⟩ := kept row rfl
    exact absurd id.symm (insertable user huser).1
  | written user row huser hid savable =>
    obtain ⟨user, huser, id, password⟩ := kept row rfl
    exact .kept huser id password

theorem passwordEffect (keys : UserKeys users) (call : CredentialCall) :
    PasswordEffect bcrypt users (call.sets bcrypt users) (call.after bcrypt users) := by
  cases call with
  | account call =>
    cases call with
    | createUser env dto => exact passwordEffect_createUser env dto
    | createUserByAdmin env dto => exact passwordEffect_createUserByAdmin env dto
    | updateUser env userId dto => exact passwordEffect_updateUser keys env userId dto
    | initRootUser env rootPassword => exact passwordEffect_initRootUser env rootPassword
    | verifyEmail env email token =>
      refine .of_leaves (leaves_verifyEmail bcrypt env email token keys) fun row hrow => ?_
      obtain ⟨user, hfind, hrow⟩ := Option.bind_eq_some_iff.mp hrow
      obtain ⟨settings, -, rfl⟩ := Option.map_eq_some_iff.mp hrow
      exact ⟨user, (mem_of_findByUsernameOrEmail hfind).1, rfl, rfl⟩
  | changePassword env userId dto => exact passwordEffect_changePassword keys env userId dto
  | resendVerification env email =>
    refine .of_leaves (CredentialCall.leaves bcrypt keys (.resendVerification env email)) ?_
    intro row hrow
    obtain ⟨user, hfind, hrow⟩ := Option.bind_eq_some_iff.mp hrow
    obtain ⟨settings, -, rfl⟩ := Option.map_eq_some_iff.mp hrow
    exact ⟨user, (mem_of_findByUsernameOrEmail hfind).1, rfl, rfl⟩

end Effect

/-! ## Runs -/

/-- The accounts, and for each the text that was set last. -/
structure PasswordWorld where
  users : List UserEntity
  book : String → Option String

namespace PasswordWorld

def step (bcrypt : Bcrypt) (w : PasswordWorld) (call : CredentialCall) : PasswordWorld where
  users := call.after bcrypt w.users
  book :=
    match call.sets bcrypt w.users with
    | some (id, text) => Function.update w.book id (some text)
    | none => w.book

/-- Every stored hash is that of the text in the book. -/
structure Sound (bcrypt : Bcrypt) (w : PasswordWorld) : Prop where
  keys : UserKeys w.users
  holds : ∀ user ∈ w.users, ∃ text, w.book user.id = some text ∧
    HoldsPassword bcrypt text user.password

variable {bcrypt : Bcrypt} {w : PasswordWorld}

theorem Sound.step (sound : w.Sound bcrypt) (call : CredentialCall) :
    (w.step bcrypt call).Sound bcrypt := by
  refine ⟨sound.keys.leaves (call.leaves bcrypt sound.keys), ?_⟩
  have effect : PasswordEffect bcrypt w.users (call.sets bcrypt w.users)
      (call.after bcrypt w.users) := passwordEffect sound.keys call
  simp only [PasswordWorld.step]
  generalize call.after bcrypt w.users = after at *
  generalize call.sets bcrypt w.users = sets at *
  intro other hother
  cases effect with
  | same => exact sound.holds other hother
  | @inserted row text insertable holds =>
    rcases List.mem_append.mp hother with old | new
    · simpa [(insertable other old).1] using sound.holds other old
    · obtain rfl := List.mem_singleton.mp new
      exact ⟨text, by simp, holds⟩
  | @kept user row huser id password =>
    rcases (mem_writeUser_iff ⟨user, huser, id.symm⟩).mp hother with rfl | ⟨old, -⟩
    · rw [id, password]
      exact sound.holds user huser
    · exact sound.holds other old
  | @reset user row text huser id holds =>
    rcases (mem_writeUser_iff ⟨user, huser, id.symm⟩).mp hother with rfl | ⟨old, hne⟩
    · exact ⟨text, by simp, holds⟩
    · simpa [hne] using sound.holds other old

theorem Sound.run (bcrypt : Bcrypt) (calls : List CredentialCall) :
    (Run.exec (PasswordWorld.step bcrypt) ⟨[], fun _ => none⟩ calls).Sound bcrypt :=
  Run.invariant (fun _ call sound => sound.step call) ⟨UserKeys.nil, by simp⟩ calls

end PasswordWorld

/-- After every sequence of calls, a login goes through exactly for an account of that name
whose password was last set, by the answers of the calls, to a text that agrees with the one
given, and which is verified and active. -/
theorem login_iff {bcrypt : Bcrypt} {agree : String → String → Prop} (sound : bcrypt.Sound agree)
    (calls : List CredentialCall) (env : CallEnv) (name given : String) (user : UserEntity) :
    let w := Run.exec (PasswordWorld.step bcrypt) ⟨[], fun _ => none⟩ calls
    validateUser bcrypt env name given w.users = .ok user ↔
      findByUsernameOrEmail env (some name) (some name) w.users = some user ∧
        (∃ text, w.book user.id = some text ∧ given ≠ "" ∧ agree given text) ∧
        user.EmailVerified ∧ ¬ user.Deactivated := by
  intro w
  rw [validateUser_eq_ok_iff]
  refine and_congr_right fun hfind => and_congr_left fun _ => ?_
  have huser := (mem_of_findByUsernameOrEmail hfind).1
  obtain ⟨text, hbook, holds⟩ := (PasswordWorld.Sound.run bcrypt calls).holds user huser
  rw [holds.validateHash_iff sound]
  constructor
  · exact fun accepted => ⟨text, hbook, accepted⟩
  · rintro ⟨text', hbook', accepted⟩
    obtain rfl := Option.some.inj (hbook'.symm.trans hbook)
    exact accepted

theorem plainBcrypt_sound : plainBcrypt.Sound (fun given text => given = text) where
  compare salt text given := by
    simp [plainBcrypt]
    exact eq_comm
  filled salt text h := by
    have h := congrArg String.length h
    simp [plainBcrypt] at h
  blank given h := h

/-- An account is created and changes its password. -/
def passwordChanged : List CredentialCall :=
  [.account (.createUserByAdmin (someEnv "u1") { username := "ann", password := "secret" }),
    .changePassword (someEnv "") "u1" ⟨"secret", "other"⟩]

theorem login_iff_changed :
    (validateUser plainBcrypt (someEnv "") "ann" "other"
      (Run.exec (PasswordWorld.step plainBcrypt) ⟨[], fun _ => none⟩
        passwordChanged).users).data.map (·.id) = some "u1" := by
  have accepted := (login_iff plainBcrypt_sound passwordChanged (someEnv "") "ann" "other"
    { vouchedUser plainBcrypt (someEnv "u1") { username := "ann", password := "secret" } with
      password := some "$2b$other" }).mpr
    ⟨by decide, ⟨"other", by decide, by decide, rfl⟩, by decide, by decide⟩
  exact congrArg (·.data.map (·.id)) accepted

end AiotCloud
