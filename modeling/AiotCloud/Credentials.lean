import AiotCloud.Accounts
import AiotCloud.Lib.Run

/-!
# Credentials

The two calls with which users look after their own account: `changePassword`, and
`resendVerification`, which puts a new token in place of the one that was mailed. Together with
the calls on accounts they are the only ones that write `users` and `user_settings`.

* `CredentialCall.leaves`: what a call leaves of the rows.
* `UserKeys.run`: the keys along a run.
-/

namespace AiotCloud

structure ChangePasswordDto where
  currentPassword : String
  newPassword : String
deriving DecidableEq, Repr

/-- A loaded user after `user.password = newPassword`. -/
def assignPassword (password : String) (user : UserEntity) : AssignedUser where
  loaded := user
  username := some user.username
  password := some password
  firstName := user.firstName
  lastName := user.lastName
  email := user.email
  phone := user.phone
  role := some user.role
  factoryId := some user.factoryId
  settings := user.settings

def changePassword (bcrypt : Bcrypt) (env : CallEnv) (userId : String) (dto : ChangePasswordDto)
    (users : List UserEntity) : CallResult Unit :=
  match findUser users userId with
  | none => (.ok (.fail .notFound "error.userNotFound"), users)
  | some user =>
    if ¬ validateHash bcrypt dto.currentPassword user.password then
      (.ok (.fail .badRequest "error.currentPasswordIncorrect"), users)
    else
      match saveUser bcrypt env (assignPassword dto.newPassword user) users with
      | .error message => (.error message, users)
      | .ok (_, after) => (.ok ⟨.success, none, "success.passwordChanged"⟩, after)

/-- The row with a new token in its settings. -/
def reissuedUser (env : CallEnv) (settings : UserSettingsEntity) (user : UserEntity) :
    UserEntity :=
  { user with
    settings := some
      { settings with
        emailVerificationToken := some env.token
        emailVerificationTokenExpiresAt := some (env.now + verificationTokenTtlMs) } }

/-- The settings are saved before the mail goes out, and stay when it fails. -/
def resendVerification (env : CallEnv) (email : String) (users : List UserEntity) :
    CallResult Unit :=
  match findByUsernameOrEmail env none (some email) users with
  | none => (.ok (.fail .notFound "error.userNotFound"), users)
  | some user =>
    match user.settings with
    | none => (.ok (.fail .notFound "error.userNotFound"), users)
    | some settings =>
      if settings.isEmailVerified then
        (.ok ⟨.success, none, "success.emailAlreadyVerified"⟩, users)
      else
        (if env.mailed then .ok ⟨.success, none, "success.verificationEmailSent"⟩
          else .error env.failure,
          writeUser (reissuedUser env settings user) users)

/-! ## Calls -/

inductive CredentialCall where
  | account (call : AccountCall)
  | changePassword (env : CallEnv) (userId : String) (dto : ChangePasswordDto)
  | resendVerification (env : CallEnv) (email : String)

namespace CredentialCall

variable (bcrypt : Bcrypt)

/-- The rows after a call. -/
def after (users : List UserEntity) : CredentialCall → List UserEntity
  | account call => call.after bcrypt users
  | changePassword env userId dto => (AiotCloud.changePassword bcrypt env userId dto users).2
  | resendVerification env email => (AiotCloud.resendVerification env email users).2

end CredentialCall

/-- The data of the answer, if the call gives one. -/
def answeredData {α : Type} (answer : Except String (ResponseCore α)) : Option α :=
  answer.toOption.bind (·.data)

@[simp] theorem answeredData_ok {α : Type} (answer : ResponseCore α) :
    answeredData (.ok answer) = answer.data := rfl

@[simp] theorem answeredData_error {α : Type} (message : String) :
    answeredData (.error message : Except String (ResponseCore α)) = none := rfl

/-- A row that is written as it is stays. -/
theorem writeUser_self {users : List UserEntity} (keys : UserKeys users) {row : UserEntity}
    (hrow : row ∈ users) : writeUser row users = users := by
  unfold writeUser Keyed.modify
  refine (List.map_congr_left fun user huser => ?_).trans (List.map_id users)
  split_ifs with same
  · exact keys.ids.eq_of_key hrow huser same.symm
  · rfl

theorem assignPassword_row (password : String) (user : UserEntity) :
    (assignPassword password user).row = { user with password := some password } := by
  simp [assignPassword, AssignedUser.row]

/-- What `changePassword` saves. A new password that is the stored hash itself changes no
column, so it is not hashed either. -/
theorem saveUser_assignPassword (bcrypt : Bcrypt) (env : CallEnv) (password : String)
    {users : List UserEntity} (keys : UserKeys users) {user : UserEntity} (huser : user ∈ users) :
    ∃ saved, saveUser bcrypt env (assignPassword password user) users = .ok (saved,
      if user.password = some password then users
      else writeUser { user with password := some (bcrypt.hashSync env.salt password) } users) := by
  have row := assignPassword_row password user
  have loaded : (assignPassword password user).loaded = user := rfl
  rcases subscribed_cases bcrypt env (assignPassword password user) with
    ⟨unchanged, hsaved⟩ | ⟨changed, ⟨absent, -⟩ | ⟨given, hgiven, hsaved⟩⟩
  · have same : user.password = some password := by
      rw [row, loaded] at unchanged
      rw [← unchanged]
    exact ⟨assignPassword password user, by simp [saveUser, hsaved, unchanged, same]⟩
  · cases absent
  · obtain rfl : password = given := Option.some.inj hgiven
    have differs : user.password ≠ some password := by
      intro same
      refine changed (row.trans ?_)
      rw [loaded, ← same]
    rw [loaded, if_neg differs] at hsaved
    have hashed : subscribed bcrypt env (assignPassword password user) =
        .ok (assignPassword (bcrypt.hashSync env.salt password) user) := hsaved
    refine ⟨assignPassword (bcrypt.hashSync env.salt password) user, ?_⟩
    rw [saveUser, hashed, if_neg differs, ← assignPassword_row]
    dsimp only
    split_ifs with unchanged savable
    · rw [unchanged]
      exact congrArg _ (congrArg _ (writeUser_self keys huser).symm)
    · rfl
    · rw [assignPassword_row] at savable
      exact absurd (fun other hother hne => keys.names other hother user huser hne) savable

/-- `changePassword` in terms of the row it finds. -/
theorem changePassword_eq (bcrypt : Bcrypt) (env : CallEnv) (dto : ChangePasswordDto)
    {users : List UserEntity} (keys : UserKeys users) {user : UserEntity} (huser : user ∈ users)
    (valid : validateHash bcrypt dto.currentPassword user.password = true) :
    changePassword bcrypt env user.id dto users =
      (.ok ⟨.success, none, "success.passwordChanged"⟩,
        if user.password = some dto.newPassword then users
        else writeUser
          { user with password := some (bcrypt.hashSync env.salt dto.newPassword) } users) := by
  have found : findUser users user.id = some user := (findUser_eq_some_iff keys).mpr ⟨huser, rfl⟩
  obtain ⟨saved, hsaved⟩ := saveUser_assignPassword bcrypt env dto.newPassword keys huser
  simp [changePassword, found, valid, hsaved]

namespace CredentialCall

variable (bcrypt : Bcrypt)

/-- The row that a call inserts or writes. -/
def saved (users : List UserEntity) : CredentialCall → Option UserEntity
  | account call => call.saved bcrypt users
  | changePassword env userId dto =>
    ((findUser users userId).filter fun user =>
      validateHash bcrypt dto.currentPassword user.password &&
        user.password != some dto.newPassword).map fun user =>
          { user with password := some (bcrypt.hashSync env.salt dto.newPassword) }
  | resendVerification env email =>
    (findByUsernameOrEmail env none (some email) users).bind fun user =>
      (user.settings.filter fun settings => !settings.isEmailVerified).map
        (reissuedUser env · user)

/-- The names of the rows stay, so the indexes let them be. -/
theorem leaves {users : List UserEntity} (keys : UserKeys users) (call : CredentialCall) :
    Leaves users (call.saved bcrypt users) (call.after bcrypt users) := by
  cases call with
  | account call => exact leaves_after bcrypt keys call
  | changePassword env userId dto =>
    simp only [saved, after]
    cases hfind : findUser users userId with
    | none => simpa [AiotCloud.changePassword, hfind] using Leaves.same
    | some user =>
      obtain ⟨huser, rfl⟩ := (findUser_eq_some_iff keys).mp hfind
      cases valid : validateHash bcrypt dto.currentPassword user.password with
      | false =>
        simpa [AiotCloud.changePassword, hfind, valid, Option.filter_some] using Leaves.same
      | true =>
        rw [changePassword_eq bcrypt env dto keys huser valid]
        by_cases same : user.password = some dto.newPassword
        · simpa [Option.filter_some, valid, same] using Leaves.same
        · simpa [Option.filter_some, valid, same] using Leaves.written user
            { user with password := some (bcrypt.hashSync env.salt dto.newPassword) } huser rfl
            fun other hother hne => keys.names other hother user huser hne
  | resendVerification env email =>
    simp only [saved, after, AiotCloud.resendVerification]
    cases hfind : findByUsernameOrEmail env none (some email) users with
    | none => exact .same
    | some user =>
      have huser := (mem_of_findByUsernameOrEmail hfind).1
      cases hsettings : user.settings with
      | none => simpa [hsettings] using Leaves.same
      | some settings =>
        cases hverified : settings.isEmailVerified with
        | true => simpa [hsettings, Option.filter_some, hverified] using Leaves.same
        | false =>
          simpa [hsettings, Option.filter_some, hverified] using Leaves.written user
            (reissuedUser env settings user) huser rfl
            fun other hother hne => keys.names other hother user huser hne

end CredentialCall

/-- The keys hold along a run. -/
theorem UserKeys.run (bcrypt : Bcrypt) (calls : List CredentialCall) :
    UserKeys (Run.exec (CredentialCall.after bcrypt) [] calls) :=
  Run.invariant (fun _ call keys => keys.leaves (call.leaves bcrypt keys)) UserKeys.nil calls

end AiotCloud
