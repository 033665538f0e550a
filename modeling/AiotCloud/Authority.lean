import AiotCloud.Credentials
import AiotCloud.LoginNames

/-!
# Who may do what

The role of an account and its factory decide what it may do. A registration can ask for neither,
and of the other requests only those of administrators set them. A policy says which roles and
factories an account may have; whether all accounts keep to it is up to the administrators that it
allows, whatever everyone else requests and in whatever order.

* `saved_grant_cases`: where the role and the factory of a saved row come from.
* `policy_kept_iff`: when every account keeps to a policy all along.
-/

namespace AiotCloud

/-! ## Requests -/

/-- `@Auth([RoleType.ADMIN, RoleType.ROOT])`. -/
def adminRoles : List RoleType := [.admin, .root]

/-- `@Auth([RoleType.USER, RoleType.ADMIN, RoleType.ROOT, RoleType.GUEST])`. -/
def allRoles : List RoleType := [.user, .admin, .root, .guest]

/-- The requests that sign tokens or write accounts, and the start of the server. -/
inductive AccountRequest where
  | initRootUser (env : CallEnv) (rootPassword : String)
  | userLogin (env : CallEnv) (usernameOrEmail password : String)
  | userRegister (env : CallEnv) (dto : UserRegisterDto)
  | verifyEmail (env : CallEnv) (email token : String)
  | resendVerification (env : CallEnv) (email : String)
  | changePassword (env : CallEnv) (token : Option TokenClaims) (dto : ChangePasswordDto)
  | createUser (env : CallEnv) (token : Option TokenClaims) (dto : CreateUserDto)
  | updateUser (env : CallEnv) (token : Option TokenClaims) (userId : String)
      (dto : UpdateUserDto)

namespace AccountRequest

/-- The call that the handler makes, if the guards let the request through to one. -/
def call (w : GuardWorld) : AccountRequest → Option CredentialCall
  | .initRootUser env rootPassword => some (.account (.initRootUser env rootPassword))
  | .userLogin .. => none
  | .userRegister env dto => some (.account (.createUser env dto))
  | .verifyEmail env email token => some (.account (.verifyEmail env email token))
  | .resendVerification env email => some (.resendVerification env email)
  | .changePassword env token dto =>
    match (authGuard w.users w.signed false token).filter (rolesGuard allRoles) with
    | some (.account user) => some (.changePassword env user.id dto)
    | _ => none
  | .createUser env token dto =>
    if w.handlerRuns false adminRoles token then some (.account (.createUserByAdmin env dto))
    else none
  | .updateUser env token userId dto =>
    if w.handlerRuns false adminRoles token then some (.account (.updateUser env userId dto))
    else none

/-- The token of a login. -/
def signs (bcrypt : Bcrypt) (w : GuardWorld) : AccountRequest → List TokenClaims
  | .userLogin env usernameOrEmail password =>
    ((AiotCloud.userLogin bcrypt env usernameOrEmail password w.users).data.map (·.2)).toList
  | _ => []

end AccountRequest

def GuardWorld.handle (bcrypt : Bcrypt) (w : GuardWorld) (request : AccountRequest) :
    GuardWorld where
  users := (request.call w).elim w.users fun call => call.after bcrypt w.users
  signed := w.signed ++ request.signs bcrypt w

/-! ## Policies -/

/-- The accounts with the role and the factory that they may have. -/
abbrev Policy := String → RoleType → Option String → Prop

def Policy.Allows (policy : Policy) (user : UserEntity) : Prop :=
  policy user.id user.role user.factoryId

/-- The row has the account, the role and the factory of the other one. -/
structure SameGrant (row user : UserEntity) : Prop where
  id : row.id = user.id
  role : row.role = user.role
  factoryId : row.factoryId = user.factoryId

/-- A call that an administrator or the server makes. -/
def CredentialCall.Administrative : CredentialCall → Prop
  | .account (.createUserByAdmin ..) | .account (.updateUser ..)
  | .account (.initRootUser ..) => True
  | _ => False

/-- The row that the call saves, if any, is allowed. -/
def CredentialCall.Grants (bcrypt : Bcrypt) (policy : Policy) (users : List UserEntity)
    (call : CredentialCall) : Prop :=
  ∀ row, call.saved bcrypt users = some row → policy.Allows row

/-- Neither the server nor an administrator that the policy allows saves a row against it. -/
def Upholds (bcrypt : Bcrypt) (policy : Policy) (w : GuardWorld) : AccountRequest → Prop
  | .initRootUser env rootPassword =>
    (CredentialCall.account (.initRootUser env rootPassword)).Grants bcrypt policy w.users
  | .createUser env token dto => ∀ claims admin, token = some claims →
      w.Listed adminRoles claims admin → policy.Allows admin →
        (CredentialCall.account (.createUserByAdmin env dto)).Grants bcrypt policy w.users
  | .updateUser env token userId dto => ∀ claims admin, token = some claims →
      w.Listed adminRoles claims admin → policy.Allows admin →
        (CredentialCall.account (.updateUser env userId dto)).Grants bcrypt policy w.users
  | _ => True

section

variable {bcrypt : Bcrypt} {policy : Policy} {w : GuardWorld}

theorem SameGrant.allows_iff {row user : UserEntity} (same : SameGrant row user) :
    policy.Allows row ↔ policy.Allows user := by
  unfold Policy.Allows
  rw [same.id, same.role, same.factoryId]

/-- Beside the administrative calls, a saved row is a new one with the role `USER` and no factory,
or has what a stored row had. -/
theorem saved_grant_cases {users : List UserEntity} {call : CredentialCall}
    (plain : ¬ call.Administrative) {row : UserEntity}
    (h : call.saved bcrypt users = some row) :
    (row.role = .user ∧ row.factoryId = none) ∨ ∃ user ∈ users, SameGrant row user := by
  cases call with
  | account call =>
    cases call with
    | createUser env dto =>
      simp only [CredentialCall.saved, AccountCall.saved, Option.ite_none_right_eq_some,
        Option.some.injEq] at h
      obtain ⟨-, rfl⟩ := h
      exact Or.inl ⟨rfl, rfl⟩
    | verifyEmail env email token =>
      simp only [CredentialCall.saved, AccountCall.saved, Option.bind_eq_some_iff,
        Option.map_eq_some_iff] at h
      obtain ⟨user, hfind, settings, -, rfl⟩ := h
      exact Or.inr ⟨user, (mem_of_findByUsernameOrEmail hfind).1, rfl, rfl, rfl⟩
    | createUserByAdmin | updateUser | initRootUser => exact absurd trivial plain
  | changePassword env userId dto =>
    simp only [CredentialCall.saved, Option.map_eq_some_iff, Option.filter_eq_some_iff] at h
    obtain ⟨user, ⟨hfind, -⟩, rfl⟩ := h
    exact Or.inr ⟨user, (Keyed.mem_of_find hfind).1, rfl, rfl, rfl⟩
  | resendVerification env email =>
    simp only [CredentialCall.saved, Option.bind_eq_some_iff, Option.map_eq_some_iff] at h
    obtain ⟨user, hfind, settings, -, rfl⟩ := h
    exact Or.inr ⟨user, (mem_of_findByUsernameOrEmail hfind).1, rfl, rfl, rfl⟩

/-! ## One request -/

/-- The accounts keep to the policy if the row that is saved keeps to it. -/
theorem Leaves.allows_iff {users after : List UserEntity} {saved : Option UserEntity}
    (h : Leaves users saved after) (kept : ∀ user ∈ users, policy.Allows user) :
    (∀ user ∈ after, policy.Allows user) ↔ ∀ row, saved = some row → policy.Allows row := by
  cases saved with
  | none =>
    cases h
    exact iff_of_true kept fun _ none_eq => nomatch none_eq
  | some row =>
    constructor
    · rintro allowed _ ⟨⟩
      exact allowed row (h.mem_iff.mpr (Or.inl rfl))
    · intro granted user huser
      rcases h.mem_iff.mp huser with rfl | ⟨old, -⟩
      · exact granted user rfl
      · exact kept user old

/-- A call that is not administrative grants nothing new. -/
theorem grants_of_plain (registered : ∀ id, policy id .user none)
    (kept : ∀ user ∈ w.users, policy.Allows user) {call : CredentialCall}
    (plain : ¬ call.Administrative) : call.Grants bcrypt policy w.users := by
  intro row hrow
  rcases saved_grant_cases plain hrow with ⟨role, factoryId⟩ | ⟨user, huser, same⟩
  · unfold Policy.Allows
    rw [role, factoryId]
    exact registered row.id
  · exact same.allows_iff.mpr (kept user huser)

/-- The administrator behind a request is one that the policy allows. -/
theorem upheld_by_admin_iff (kept : ∀ user ∈ w.users, policy.Allows user)
    (token : Option TokenClaims) {granted : Prop} :
    (∀ claims admin, token = some claims → w.Listed adminRoles claims admin →
        policy.Allows admin → granted) ↔
      (w.handlerRuns false adminRoles token = true → granted) := by
  have some_role : adminRoles ≠ [] := List.cons_ne_nil _ _
  rw [GuardWorld.handlerRuns_iff some_role]
  constructor
  · rintro upheld ⟨claims, admin, htoken, listed⟩
    exact upheld claims admin htoken listed (kept admin (Keyed.mem_of_find listed.exist).1)
  · intro upheld claims admin htoken listed _
    exact upheld ⟨claims, admin, htoken, listed⟩

theorem upholds_iff (registered : ∀ id, policy id .user none)
    (kept : ∀ user ∈ w.users, policy.Allows user) (request : AccountRequest) :
    Upholds bcrypt policy w request ↔
      ∀ call, request.call w = some call → call.Grants bcrypt policy w.users := by
  have plain {call : CredentialCall} (h : ¬ call.Administrative) :
      call.Grants bcrypt policy w.users := grants_of_plain registered kept h
  cases request with
  | initRootUser env rootPassword => simp [Upholds, AccountRequest.call]
  | userLogin => simp [Upholds, AccountRequest.call]
  | userRegister | verifyEmail | resendVerification =>
    refine iff_of_true trivial ?_
    rintro _ ⟨⟩
    exact plain (by simp [CredentialCall.Administrative])
  | changePassword env token dto =>
    refine iff_of_true trivial fun call hcall => ?_
    simp only [AccountRequest.call] at hcall
    split at hcall
    · obtain rfl := Option.some.inj hcall
      exact plain (by simp [CredentialCall.Administrative])
    · cases hcall
  | createUser env token dto =>
    refine (upheld_by_admin_iff kept token).trans ?_
    simp [AccountRequest.call]
  | updateUser env token userId dto =>
    refine (upheld_by_admin_iff kept token).trans ?_
    simp [AccountRequest.call]

theorem allows_handle_iff (registered : ∀ id, policy id .user none) (keys : UserKeys w.users)
    (kept : ∀ user ∈ w.users, policy.Allows user) (request : AccountRequest) :
    (∀ user ∈ (w.handle bcrypt request).users, policy.Allows user) ↔
      Upholds bcrypt policy w request := by
  rw [upholds_iff registered kept]
  unfold GuardWorld.handle
  cases request.call w with
  | none => exact iff_of_true kept fun _ none_eq => nomatch none_eq
  | some call =>
    have granted := (call.leaves bcrypt keys).allows_iff kept
    constructor
    · rintro allowed _ ⟨⟩
      exact granted.mp allowed
    · intro grants
      exact granted.mpr (grants call rfl)

theorem UserKeys.handle (keys : UserKeys w.users) (request : AccountRequest) :
    UserKeys (w.handle bcrypt request).users := by
  unfold GuardWorld.handle
  cases request.call w with
  | none => exact keys
  | some call => exact keys.leaves (call.leaves bcrypt keys)

/-- All accounts keep to the policy. -/
structure GuardWorld.Keeps (policy : Policy) (w : GuardWorld) : Prop where
  keys : UserKeys w.users
  allows : ∀ user ∈ w.users, policy.Allows user

end

/-- A policy that lets every account be a `USER` without a factory, on a server whose accounts keep
to it. Whoever registers, logs in, presents which token and requests what, in any order: all
accounts keep to it all along exactly if no request of an administrator that it allows, and no
start of the server, saves an account against it. -/
theorem policy_kept_iff (bcrypt : Bcrypt) {policy : Policy}
    (registered : ∀ id, policy id .user none) {w : GuardWorld} (start : w.Keeps policy)
    (requests : List AccountRequest) :
    (∀ before, before <+: requests →
        ∀ user ∈ (Run.exec (GuardWorld.handle bcrypt) w before).users, policy.Allows user) ↔
      Run.Meets (GuardWorld.handle bcrypt) (Upholds bcrypt policy) w requests := by
  have allows : ∀ w : GuardWorld, w.Keeps policy → ∀ user ∈ w.users, policy.Allows user :=
    fun _ inv => inv.allows
  have keeps (w : GuardWorld) (request : AccountRequest) (inv : w.Keeps policy)
      (upheld : Upholds bcrypt policy w request) : (w.handle bcrypt request).Keeps policy :=
    ⟨inv.keys.handle request,
      (allows_handle_iff registered inv.keys inv.allows request).mpr upheld⟩
  exact Run.always_iff_meets allows keeps
    (fun w request inv => (allows_handle_iff registered inv.keys inv.allows request).mp)
    start requests

/-- The root account alone is an administrator. -/
def onlyRoot : Policy := fun id role _ => role ∈ adminRoles → id = "root-id"

/-- Someone registers and asks for the role of an administrator, with a token that the server did
not sign. -/
def forgedUpdate : List AccountRequest :=
  [.initRootUser (someEnv "root-id") "secret",
    .userRegister (someEnv "u1") ⟨"ann", "Ann", "A", "ann@example.com", "secret", none⟩,
    .updateUser (someEnv "") (some ⟨"u1", some .accessToken, some .root, none⟩) "u1"
      { role := some .root }]

theorem policy_kept_iff_forged :
    Run.Meets (GuardWorld.handle plainBcrypt) (Upholds plainBcrypt onlyRoot) ⟨[], []⟩
        forgedUpdate ∧
      ∀ before, before <+: forgedUpdate →
        ∀ user ∈ (Run.exec (GuardWorld.handle plainBcrypt) ⟨[], []⟩ before).users,
          onlyRoot.Allows user := by
  have upheld : Run.Meets (GuardWorld.handle plainBcrypt) (Upholds plainBcrypt onlyRoot) ⟨[], []⟩
      forgedUpdate := by
    refine ⟨fun row hrow role => ?_, trivial, fun claims admin _ listed => ?_, trivial⟩
    · have rootRow : row = rootUser plainBcrypt (someEnv "root-id") "secret" := by
        simpa [CredentialCall.saved, AccountCall.saved, findByUsernameOrEmail, someEnv,
          Insertable, eq_comm] using hrow
      rw [rootRow]
      rfl
    · exact absurd listed.signed List.not_mem_nil
  refine ⟨upheld, (policy_kept_iff plainBcrypt (fun _ role => ?_)
    ⟨UserKeys.nil, List.forall_mem_nil _⟩ forgedUpdate).mpr upheld⟩
  simp [adminRoles] at role

end AiotCloud
