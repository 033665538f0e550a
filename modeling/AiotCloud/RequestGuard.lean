import AiotCloud.Accounts
import AiotCloud.Lib.Run

/-!
# Guarded requests

`@Auth(roles)` puts two guards before a handler. `AuthGuard` verifies the bearer token and
loads its account (`JwtStrategy.validate`); a token it refuses is answered with a
`ResponseCore` in place of the account, which is no error. `RolesGuard` compares the role.
`validateUser` also asks whether the account is active.

* `handlerRuns_iff`: when both guards let a request through.
* `deactivation_revokes_iff`: whom they let through along a history.
-/

namespace AiotCloud

inductive TokenType where
  | accessToken
  | refreshToken
deriving DecidableEq, Repr

/-- The payload of a token. A code that links a Zalo chat is signed too, and has only the user.
An access token does not expire. -/
structure TokenClaims where
  userId : String
  type : Option TokenType := none
  role : Option RoleType := none
  factoryId : Option String := none
deriving DecidableEq, Repr

/-! ## Login -/

def createAccessToken (user : UserEntity) : TokenClaims :=
  { userId := user.id
    type := some .accessToken
    role := some user.role
    factoryId := user.factoryId }

/-- `!settings?.isEmailVerified` fails. -/
def UserEntity.EmailVerified (user : UserEntity) : Prop :=
  user.settings.map (·.isEmailVerified) = some true

instance (user : UserEntity) : Decidable user.EmailVerified :=
  inferInstanceAs (Decidable (_ = _))

def validateUser (bcrypt : Bcrypt) (env : CallEnv) (usernameOrEmail password : String)
    (users : List UserEntity) : ResponseCore UserEntity :=
  match findByUsernameOrEmail env (some usernameOrEmail) (some usernameOrEmail) users with
  | none => .fail .notFound "error.userNotFound"
  | some user =>
    if ¬ validateHash bcrypt password user.password then .fail .notFound "error.userNotFound"
    else if ¬ user.EmailVerified then .fail .forbidden "error.emailNotVerified"
    else if user.Deactivated then .fail .forbidden "error.userDeactivated"
    else .ok user

/-- The account and the token of a login. -/
def userLogin (bcrypt : Bcrypt) (env : CallEnv) (usernameOrEmail password : String)
    (users : List UserEntity) : ResponseCore (UserDto × TokenClaims) :=
  let result := validateUser bcrypt env usernameOrEmail password users
  match result.data with
  | none => .fail result.error result.message
  | some user => .ok (user.toDto, createAccessToken user)

theorem validateUser_eq_ok_iff {bcrypt : Bcrypt} {env : CallEnv}
    {usernameOrEmail password : String} {users : List UserEntity} {user : UserEntity} :
    validateUser bcrypt env usernameOrEmail password users = .ok user ↔
      findByUsernameOrEmail env (some usernameOrEmail) (some usernameOrEmail) users = some user ∧
        validateHash bcrypt password user.password = true ∧ user.EmailVerified ∧
        ¬ user.Deactivated := by
  unfold validateUser
  cases findByUsernameOrEmail env (some usernameOrEmail) (some usernameOrEmail) users with
  | none => simp [ResponseCore.fail, ResponseCore.ok]
  | some found =>
    dsimp only
    constructor
    · intro h
      split_ifs at h with hash verified deactivated <;> cases h
      exact ⟨rfl, hash, verified, deactivated⟩
    · rintro ⟨hfound, hash, verified, active⟩
      obtain rfl := Option.some.inj hfound
      rw [if_neg (not_not.mpr hash), if_neg (not_not.mpr verified), if_neg active]

/-! ## Guards -/

/-- `request.user` after `AuthGuard`. -/
inductive RequestUser where
  | account (user : UserEntity)
  | refused (answer : ResponseCore Unit)
  | anonymous

/-- `request.user.role`. -/
def RequestUser.role : RequestUser → Option RoleType
  | account user => some user.role
  | refused _ | anonymous => none

/-- `JwtStrategy.validate`. -/
def jwtValidate (users : List UserEntity) (claims : TokenClaims) : RequestUser :=
  if claims.type ≠ some .accessToken then .refused (.fail .unauthorized "error.invalidTokenType")
  else
    match findUser users claims.userId with
    | none => .refused (.fail .unauthorized "error.userNotFound")
    | some user => .account user

/-- The strategies `jwt`, and on a public route `public`; `none` is a 401. A token stands
for its payload, and is valid if the server signed it. -/
def authGuard (users : List UserEntity) (signed : List TokenClaims) (isPublic : Bool)
    (token : Option TokenClaims) : Option RequestUser :=
  match token.filter (· ∈ signed) with
  | some claims => some (jwtValidate users claims)
  | none => if isPublic then some .anonymous else none

/-- `RolesGuard.canActivate`. -/
def rolesGuard (roles : List RoleType) (user : RequestUser) : Bool :=
  roles.isEmpty || user.role.any (roles.contains ·)

theorem rolesGuard_iff {roles : List RoleType} (some_role : roles ≠ []) (user : RequestUser) :
    rolesGuard roles user = true ↔ ∃ role ∈ roles, user.role = some role := by
  have guarded : roles.isEmpty = false := by simpa using some_role
  unfold rolesGuard
  cases user.role with
  | none => simp [guarded]
  | some role => simp [guarded]

theorem role_jwtValidate_iff {users : List UserEntity} {claims : TokenClaims} {role : RoleType} :
    (jwtValidate users claims).role = some role ↔
      claims.type = some .accessToken ∧
        ∃ user, findUser users claims.userId = some user ∧ user.role = role := by
  unfold jwtValidate
  by_cases access : claims.type = some .accessToken
  · rw [if_neg (not_not.mpr access)]
    cases findUser users claims.userId with
    | none => simp [RequestUser.role]
    | some user => simp [RequestUser.role, access]
  · rw [if_pos access]
    simp [RequestUser.role, access]

structure GuardWorld where
  users : List UserEntity
  signed : List TokenClaims

inductive GuardCall where
  | account (call : AccountCall)
  | login (env : CallEnv) (usernameOrEmail password : String)
  | request (isPublic : Bool) (roles : List RoleType) (token : Option TokenClaims)

namespace GuardWorld

/-- The handler behind `@Auth(roles, { public })` runs. -/
def handlerRuns (w : GuardWorld) (isPublic : Bool) (roles : List RoleType)
    (token : Option TokenClaims) : Bool :=
  (authGuard w.users w.signed isPublic token).any (rolesGuard roles)

def step (bcrypt : Bcrypt) (w : GuardWorld) : GuardCall → GuardWorld
  | .account call => { w with users := call.after bcrypt w.users }
  | .login env usernameOrEmail password =>
    match (userLogin bcrypt env usernameOrEmail password w.users).data with
    | some (_, token) => { w with signed := w.signed ++ [token] }
    | none => w
  | .request .. => w

/-- The token is an access token of the server for an account that has one of the roles. -/
structure Listed (w : GuardWorld) (roles : List RoleType) (claims : TokenClaims)
    (user : UserEntity) : Prop where
  signed : claims ∈ w.signed
  access : claims.type = some .accessToken
  exist : findUser w.users claims.userId = some user
  role : user.role ∈ roles

variable {w : GuardWorld} {roles : List RoleType}

theorem handlerRuns_iff (some_role : roles ≠ []) (isPublic : Bool) (token : Option TokenClaims) :
    w.handlerRuns isPublic roles token = true ↔
      ∃ claims user, token = some claims ∧ w.Listed roles claims user := by
  unfold handlerRuns authGuard
  constructor
  · intro runs
    cases htoken : token.filter (· ∈ w.signed) with
    | none =>
      cases isPublic with
      | false => simp [htoken] at runs
      | true =>
        rw [htoken] at runs
        obtain ⟨role, -, hrole⟩ := (rolesGuard_iff some_role .anonymous).mp runs
        cases hrole
    | some claims =>
      rw [htoken] at runs
      rw [Option.filter_eq_some_iff, decide_eq_true_eq] at htoken
      obtain ⟨role, hmem, hrole⟩ := (rolesGuard_iff some_role _).mp runs
      obtain ⟨access, user, exist, rfl⟩ := role_jwtValidate_iff.mp hrole
      exact ⟨claims, user, htoken.1, htoken.2, access, exist, hmem⟩
  · rintro ⟨claims, user, rfl, listed⟩
    rw [Option.filter_some, if_pos (decide_eq_true listed.signed)]
    exact (rolesGuard_iff some_role _).mpr
      ⟨user.role, listed.role, role_jwtValidate_iff.mpr ⟨listed.access, user, listed.exist, rfl⟩⟩

/-- A handler with a list of roles runs only for an active account with one of them. -/
def Justified (w : GuardWorld) : GuardCall → Prop
  | .request isPublic roles token => roles ≠ [] → w.handlerRuns isPublic roles token = true →
      ∃ claims user, token = some claims ∧ w.Listed roles claims user ∧ ¬ user.Deactivated
  | _ => True

/-- A request to a handler for the role of its account does not come from a deactivated
account. -/
def FromActive (w : GuardWorld) : GuardCall → Prop
  | .request _ roles token => ∀ claims user, token = some claims → w.Listed roles claims user →
      ¬ user.Deactivated
  | _ => True

theorem justified_iff (w : GuardWorld) (call : GuardCall) :
    w.Justified call ↔ w.FromActive call := by
  cases call with
  | account call => exact Iff.rfl
  | login env usernameOrEmail password => exact Iff.rfl
  | request isPublic roles token =>
    constructor
    · rintro justified claims user rfl listed
      have some_role : roles ≠ [] := List.ne_nil_of_mem listed.role
      have runs := (handlerRuns_iff some_role isPublic _).mpr ⟨claims, user, rfl, listed⟩
      obtain ⟨claims', user', same, listed', active⟩ := justified some_role runs
      obtain rfl := Option.some.inj same
      obtain rfl := Option.some.inj (listed.exist.symm.trans listed'.exist)
      exact active
    · intro active some_role runs
      obtain ⟨claims, user, htoken, listed⟩ := (handlerRuns_iff some_role isPublic token).mp runs
      exact ⟨claims, user, htoken, listed, active claims user htoken listed⟩

end GuardWorld

open GuardWorld in
/-- From any accounts and tokens, along every history of creations, edits, logins and
requests, guarded handlers run for active accounts only, exactly when no request for the
role of its account comes from a deactivated one. -/
theorem deactivation_revokes_iff (bcrypt : Bcrypt) (w : GuardWorld) (calls : List GuardCall) :
    Run.Meets (step bcrypt) Justified w calls ↔ Run.Meets (step bcrypt) FromActive w calls := by
  have same : ∀ w call, True → (Justified w call ↔ FromActive w call) :=
    fun w call _ => justified_iff w call
  exact Run.meets_congr same (fun _ _ _ _ => trivial) trivial calls

/-- A user logs in, is deactivated, and sends a request. -/
def afterDeactivation : List GuardCall :=
  [.account (.createUserByAdmin (someEnv "u1") { username := "ann", password := "secret" }),
    .login (someEnv "") "ann" "secret",
    .account (.updateUser (someEnv "") "u1" { isActive := some false }),
    .request false [.user] (some ⟨"u1", some .accessToken, some .user, none⟩)]

theorem deactivation_not_revoking :
    ¬ Run.Meets (GuardWorld.step plainBcrypt) GuardWorld.Justified ⟨[], []⟩ afterDeactivation := by
  rintro ⟨-, -, -, justified, -⟩
  obtain ⟨claims, user, hclaims, listed, active⟩ := justified (by simp) (by decide)
  obtain rfl := Option.some.inj hclaims
  have deactivated : ∀ user, findUser (Run.exec (GuardWorld.step plainBcrypt) ⟨[], []⟩
      (afterDeactivation.take 3)).users "u1" = some user → user.Deactivated := by
    intro user huser
    obtain rfl := Option.some.inj huser
    decide
  exact active (deactivated user listed.exist)

end AiotCloud
