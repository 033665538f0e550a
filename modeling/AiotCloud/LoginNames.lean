import AiotCloud.RequestGuard

/-!
# Login names

A login name is looked up among the usernames and the emails together. The database keeps
each of the two columns distinct, and a call looks its own names up before it saves a row,
its username among the usernames and its email among the emails.

* `namedBy_both_iff`: what two rows that the indexes let be can share.
* `OneAccount.leaves_iff`: when a call leaves a name with one account.
* `oneLogin_iff`: along a run.
-/

namespace AiotCloud

/-- `findByUsernameOrEmail({ username: name, email: name })` matches the account. -/
def NamedBy (name : String) (user : UserEntity) : Prop :=
  matchesNames (some name) (some name) user = true

/-- A name matches at most one account. -/
def OneAccount (name : String) (users : List UserEntity) : Prop :=
  ∀ user ∈ users, ∀ other ∈ users, NamedBy name user → NamedBy name other → user = other

/-- An active and verified account is logged in as itself under its name. -/
def LogsIn (bcrypt : Bcrypt) (name : String) (users : List UserEntity) : Prop :=
  ∀ user ∈ users, user.username = name ∨ user.email = some name →
    user.EmailVerified → ¬ user.Deactivated →
    ∀ password, validateHash bcrypt password user.password = true →
    ∀ env, validateUser bcrypt env name password users = .ok user

structure OneLogin (bcrypt : Bcrypt) (name : String) (users : List UserEntity) : Prop where
  oneAccount : OneAccount name users
  logsIn : LogsIn bcrypt name users

/-- The name is the username of one account and the email of the other. -/
def Crossed (name : String) (user other : UserEntity) : Prop :=
  (user.username = name ∧ other.email = some name) ∨
    (user.email = some name ∧ other.username = name)

/-- The row that a call saves crosses no other account in the name. The empty name, which
is looked up without a condition, is for a single account. -/
def SparesName (bcrypt : Bcrypt) (name : String) (users : List UserEntity) (call : AccountCall) :
    Prop :=
  ∀ row, call.saved bcrypt users = some row → ∀ other ∈ users, other.id ≠ row.id →
    name ≠ "" ∧ ¬ Crossed name row other

variable {bcrypt : Bcrypt} {name : String} {users after : List UserEntity}

theorem namedBy_iff {user : UserEntity} :
    NamedBy name user ↔ (name ≠ "" → user.username = name ∨ user.email = some name) := by
  unfold NamedBy matchesNames
  by_cases blank : name = ""
  · simp [Option.filter_some, blank]
  · simp [Option.filter_some, blank, or_comm]

theorem namedBy_both_iff {row other : UserEntity} (apart : DistinctNames other row) :
    NamedBy name row ∧ NamedBy name other ↔ name = "" ∨ Crossed name row other := by
  simp only [namedBy_iff]
  by_cases blank : name = ""
  · simp [blank]
  constructor
  · rintro ⟨hrow, hother⟩
    rcases hrow blank with hrow | hrow <;> rcases hother blank with hother | hother
    · exact absurd (hother.trans hrow.symm) apart.1
    · exact Or.inr (Or.inl ⟨hrow, hother⟩)
    · exact Or.inr (Or.inr ⟨hrow, hother⟩)
    · rcases apart.2 with missing | hne
      · exact absurd (hrow.symm.trans missing) (by simp)
      · exact absurd (hother.trans hrow.symm) hne
  · rintro (rfl | ⟨hrow, hother⟩ | ⟨hrow, hother⟩)
    · exact absurd rfl blank
    · exact ⟨fun _ => Or.inl hrow, fun _ => Or.inr hother⟩
    · exact ⟨fun _ => Or.inr hrow, fun _ => Or.inl hother⟩

/-! ## One call -/

/-- The saved row takes the place of the row with its id. -/
theorem Leaves.mem_iff {row : UserEntity} (h : Leaves users (some row) after) {user : UserEntity} :
    user ∈ after ↔ user = row ∨ (user ∈ users ∧ user.id ≠ row.id) := by
  cases h with
  | inserted row insertable =>
    rw [List.mem_append, List.mem_singleton, or_comm]
    exact or_congr_right ⟨fun huser => ⟨huser, (insertable user huser).1⟩, And.left⟩
  | written old row hold id savable => exact mem_writeUser_iff ⟨old, hold, id.symm⟩

theorem Leaves.apart {row other : UserEntity} (h : Leaves users (some row) after)
    (hother : other ∈ users) (hne : other.id ≠ row.id) : DistinctNames other row := by
  cases h with
  | inserted row insertable => exact (insertable other hother).2
  | written old row hold id savable => exact savable other hother hne

/-- A name stays with one account if the saved row shares it with no other account. -/
theorem OneAccount.saved_iff (one : OneAccount name users) {row : UserEntity}
    (h : Leaves users (some row) after) :
    OneAccount name after ↔
      ∀ other ∈ users, other.id ≠ row.id → ¬ (NamedBy name row ∧ NamedBy name other) := by
  constructor
  · rintro onceMore other hother hne ⟨hrow, hnamed⟩
    have same := onceMore other (h.mem_iff.mpr (Or.inr ⟨hother, hne⟩)) row
      (h.mem_iff.mpr (Or.inl rfl)) hnamed hrow
    exact hne (congrArg _ same)
  · intro alone user huser other hother hnamed hnamed'
    rcases h.mem_iff.mp huser with rfl | ⟨huser, huserId⟩ <;>
      rcases h.mem_iff.mp hother with rfl | ⟨hother, hotherId⟩
    · rfl
    · exact absurd ⟨hnamed, hnamed'⟩ (alone other hother hotherId)
    · exact absurd ⟨hnamed', hnamed⟩ (alone user huser huserId)
    · exact one user huser other hother hnamed hnamed'

theorem OneAccount.leaves_iff (keys : UserKeys users) (one : OneAccount name users)
    (call : AccountCall) :
    OneAccount name (call.after bcrypt users) ↔ SparesName bcrypt name users call := by
  have leaves := leaves_after bcrypt keys call
  unfold SparesName
  generalize call.saved bcrypt users = saved, call.after bcrypt users = after at leaves
  cases saved with
  | none =>
    cases leaves
    exact ⟨fun _ _ absent => absurd absent (by simp), fun _ => one⟩
  | some row =>
    rw [one.saved_iff leaves]
    constructor
    · intro alone row' same other hother hne
      obtain rfl := Option.some.inj same
      have unshared := alone other hother hne
      rwa [namedBy_both_iff (leaves.apart hother hne), not_or] at unshared
    · intro spares other hother hne
      rw [namedBy_both_iff (leaves.apart hother hne), not_or]
      exact spares row rfl other hother hne

/-! ## Login -/

/-- The only account of a name is the one that is found. -/
theorem OneAccount.logsIn (one : OneAccount name users) : LogsIn bcrypt name users := by
  intro user huser own verified active password hash env
  have named : NamedBy name user := namedBy_iff.mpr fun _ => own
  refine validateUser_eq_ok_iff.mpr ⟨?_, hash, verified, active⟩
  cases hfind : findByUsernameOrEmail env (some name) (some name) users with
  | none =>
    have unmatched := findByUsernameOrEmail_eq_none_iff.mp hfind user huser
    exact absurd (named.symm.trans unmatched) (by simp)
  | some found =>
    obtain ⟨hfound, hnamed⟩ := mem_of_findByUsernameOrEmail hfind
    rw [one found hfound user huser hnamed named]

/-- From no accounts, along every run of creations, edits and verifications, a name is for
one account exactly when no saved row crosses another account in it. -/
theorem oneLogin_iff (bcrypt : Bcrypt) (name : String) (calls : List AccountCall) :
    (∀ pre, pre <+: calls →
        OneLogin bcrypt name (Run.exec (fun users call => call.after bcrypt users) [] pre)) ↔
      Run.Meets (fun users call => call.after bcrypt users) (SparesName bcrypt name) [] calls := by
  have implies : ∀ users, UserKeys users ∧ OneAccount name users → OneLogin bcrypt name users :=
    fun users ⟨_, one⟩ => ⟨one, one.logsIn⟩
  have keeps : ∀ users (call : AccountCall), UserKeys users ∧ OneAccount name users →
      SparesName bcrypt name users call →
      UserKeys (call.after bcrypt users) ∧ OneAccount name (call.after bcrypt users) :=
    fun users call ⟨keys, one⟩ spares =>
      ⟨keys.leaves (leaves_after bcrypt keys call), (one.leaves_iff keys call).mpr spares⟩
  have needs : ∀ users (call : AccountCall), UserKeys users ∧ OneAccount name users →
      OneLogin bcrypt name (call.after bcrypt users) → SparesName bcrypt name users call :=
    fun users call ⟨keys, one⟩ login => (one.leaves_iff keys call).mp login.oneAccount
  exact Run.always_iff_meets implies keeps needs ⟨UserKeys.nil, by simp [OneAccount]⟩ calls

/-- The username of the first account is the email of the second. -/
def twoBobs : List AccountCall :=
  [.createUserByAdmin (someEnv "u1")
      { username := "bob@x.io", password := "first", email := some "eve@x.io" },
    .createUserByAdmin (someEnv "u2")
      { username := "bob", password := "second", email := some "bob@x.io" }]

/-- The second account gives its email and its password, and is not found. -/
theorem bob_not_logged_in :
    ¬ OneLogin plainBcrypt "bob@x.io"
        (Run.exec (fun users call => call.after plainBcrypt users) [] twoBobs) := by
  rintro ⟨-, logsIn⟩
  let users := Run.exec (fun users call => call.after plainBcrypt users) [] twoBobs
  have bob : ∃ user ∈ users, user.email = some "bob@x.io" ∧ user.EmailVerified ∧
      ¬ user.Deactivated ∧ validateHash plainBcrypt "second" user.password = true := by decide
  obtain ⟨user, huser, own, verified, active, hash⟩ := bob
  have answer := logsIn user huser (Or.inr own) verified active "second" hash (someEnv "")
  have refused : (validateUser plainBcrypt (someEnv "") "bob@x.io" "second" users).error =
      .notFound := by decide
  rw [answer] at refused
  cases refused

end AiotCloud
