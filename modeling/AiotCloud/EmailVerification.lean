import AiotCloud.Credentials
import AiotCloud.RequestGuard

/-!
# Email verification

A self-registered account has to present the token that was mailed to it, within a day. The
token can be mailed again, and is then a new one. Accounts that an operator or the boot of the
application creates need none.

* `VerificationPhase`: an account on its own: what the events about it make of it.
* `phase_eq_verified_iff`: when it is verified, in terms of the order of the events.
* `VerificationWorld.Sound`: the settings of every account say what phase it is in.
* `emailVerified_iff`: which accounts are verified, along a run.
-/

namespace AiotCloud

/-! ## One account -/

inductive VerificationEvent where
  | vouched (userId : String)
  | issued (userId token : String) (at_ : Date)
  | presented (userId token : String) (at_ : Date)
deriving DecidableEq, Repr

def VerificationEvent.userId : VerificationEvent → String
  | vouched userId => userId
  | issued userId _ _ => userId
  | presented userId _ _ => userId

/-- Where an account stands. -/
inductive VerificationPhase where
  | unknown
  | pending (token : String) (at_ : Date)
  | verified
deriving DecidableEq, Repr

/-- What an event about the account makes of it. -/
def VerificationPhase.next : VerificationPhase → VerificationEvent → VerificationPhase
  | _, .vouched _ => verified
  | verified, _ => verified
  | _, .issued _ token at_ => pending token at_
  | pending token at_, .presented _ given now =>
    if given = token ∧ token ≠ "" ∧ now ≤ at_ + verificationTokenTtlMs then verified
    else pending token at_
  | unknown, .presented .. => unknown

/-- After the events of a history that are about the account. -/
def verificationPhase (userId : String) (history : List VerificationEvent) : VerificationPhase :=
  (history.filter (·.userId = userId)).foldl VerificationPhase.next .unknown

/-- The token of the account that was issued last, and when. -/
def lastIssued (userId : String) (history : List VerificationEvent) : Option (String × Date) :=
  (history.filterMap fun
    | .issued id token at_ => if id = userId then some (token, at_) else none
    | _ => none).getLast?

/-- The token that was issued last was presented in time. -/
def Redeemed (userId : String) (history : List VerificationEvent) : Prop :=
  ∃ before token at_ now after, history = before ++ .presented userId token now :: after ∧
    lastIssued userId before = some (token, at_) ∧ token ≠ "" ∧
    now ≤ at_ + verificationTokenTtlMs

section Histories

variable {userId : String} {history : List VerificationEvent} {event : VerificationEvent}

theorem phase_concat (userId : String) (history : List VerificationEvent)
    (event : VerificationEvent) :
    verificationPhase userId (history ++ [event]) =
      if event.userId = userId then (verificationPhase userId history).next event
      else verificationPhase userId history := by
  unfold verificationPhase
  rw [List.filter_append]
  by_cases h : event.userId = userId <;> simp [h]

/-- A call tells one event about the account or none. -/
theorem phase_told {told : Option VerificationEvent}
    (about : ∀ event, told = some event → event.userId = userId) :
    verificationPhase userId (history ++ told.toList) =
      told.elim (verificationPhase userId history) (verificationPhase userId history).next := by
  cases told with
  | none => rw [Option.toList_none, List.append_nil, Option.elim_none]
  | some event =>
    rw [Option.toList_some, phase_concat, if_pos (about event rfl), Option.elim_some]

theorem phase_told_of_ne {told : Option VerificationEvent}
    (other : ∀ event, told = some event → event.userId ≠ userId) :
    verificationPhase userId (history ++ told.toList) = verificationPhase userId history := by
  cases told with
  | none => rw [Option.toList_none, List.append_nil]
  | some event => rw [Option.toList_some, phase_concat, if_neg (other event rfl)]

theorem lastIssued_concat (userId : String) (history : List VerificationEvent)
    (event : VerificationEvent) :
    lastIssued userId (history ++ [event]) =
      match event with
      | .issued id token at_ => if id = userId then some (token, at_) else lastIssued userId history
      | _ => lastIssued userId history := by
  unfold lastIssued
  rw [List.filterMap_append, List.getLast?_append]
  cases event with
  | vouched id => simp
  | presented id token now => simp
  | issued id token at_ => by_cases h : id = userId <;> simp [h]

theorem Redeemed.concat (h : Redeemed userId history) (event : VerificationEvent) :
    Redeemed userId (history ++ [event]) := by
  obtain ⟨before, token, at_, now, after, rfl, facts⟩ := h
  exact ⟨before, token, at_, now, after ++ [event], by simp, facts⟩

/-- A history is redeemed before its last event or by it. -/
theorem redeemed_concat_iff : Redeemed userId (history ++ [event]) ↔
    Redeemed userId history ∨ ∃ token at_ now, event = .presented userId token now ∧
      lastIssued userId history = some (token, at_) ∧ token ≠ "" ∧
      now ≤ at_ + verificationTokenTtlMs := by
  constructor
  · rintro ⟨before, token, at_, now, after, heq, facts⟩
    rcases List.eq_nil_or_concat after with rfl | ⟨after, last, rfl⟩
    · obtain ⟨rfl, hevent⟩ := List.append_inj' heq rfl
      exact Or.inr ⟨token, at_, now, by simpa using hevent, facts⟩
    · refine Or.inl ⟨before, token, at_, now, after, ?_, facts⟩
      have cut : history ++ [event] =
          (before ++ .presented userId token now :: after) ++ [last] := by simpa using heq
      exact (List.append_inj' cut rfl).1
  · rintro (h | ⟨token, at_, now, rfl, facts⟩)
    · exact h.concat event
    · exact ⟨history, token, at_, now, [], rfl, facts⟩

/-- The account was vouched for or has redeemed a token. -/
def Cleared (userId : String) (history : List VerificationEvent) : Prop :=
  .vouched userId ∈ history ∨ Redeemed userId history

/-- What a phase tells about the history. -/
def VerificationPhase.Describes (userId : String) (history : List VerificationEvent) :
    VerificationPhase → Prop
  | unknown => ¬ Cleared userId history ∧ lastIssued userId history = none
  | pending token at_ =>
    ¬ Cleared userId history ∧ lastIssued userId history = some (token, at_)
  | verified => Cleared userId history

theorem Cleared.concat (h : Cleared userId history) (event : VerificationEvent) :
    Cleared userId (history ++ [event]) :=
  h.imp (List.mem_append_left _) (Redeemed.concat · event)

/-- An event about another account changes nothing. -/
theorem cleared_concat_of_ne (h : event.userId ≠ userId) :
    Cleared userId (history ++ [event]) ↔ Cleared userId history := by
  unfold Cleared
  rw [redeemed_concat_iff, List.mem_append, List.mem_singleton]
  have vouched : .vouched userId ≠ event := fun same => h (by rw [← same]; rfl)
  have presented : ∀ token now, event ≠ .presented userId token now :=
    fun token now same => h (by rw [same]; rfl)
  simp [vouched, presented]

theorem lastIssued_concat_of_ne (h : event.userId ≠ userId) :
    lastIssued userId (history ++ [event]) = lastIssued userId history := by
  rw [lastIssued_concat]
  cases event with
  | vouched id => rfl
  | presented id token now => rfl
  | issued id token at_ => exact if_neg h

theorem VerificationPhase.Describes.concat_of_ne {p : VerificationPhase}
    (h : p.Describes userId history) (other : event.userId ≠ userId) :
    p.Describes userId (history ++ [event]) := by
  have cleared : Cleared userId (history ++ [event]) ↔ Cleared userId history :=
    cleared_concat_of_ne other
  have issued : lastIssued userId (history ++ [event]) = lastIssued userId history :=
    lastIssued_concat_of_ne other
  cases p <;> simpa [VerificationPhase.Describes, cleared, issued] using h

/-- The event clears an account that was not cleared before. -/
theorem cleared_concat_iff (uncleared : ¬ Cleared userId history) :
    Cleared userId (history ++ [event]) ↔ event = .vouched userId ∨
      ∃ token at_ now, event = .presented userId token now ∧
        lastIssued userId history = some (token, at_) ∧ token ≠ "" ∧
        now ≤ at_ + verificationTokenTtlMs := by
  obtain ⟨vouched, redeemed⟩ := not_or.mp uncleared
  unfold Cleared
  rw [redeemed_concat_iff, List.mem_append, List.mem_singleton, or_iff_right vouched,
    or_iff_right redeemed, eq_comm]

theorem VerificationPhase.Describes.next {p : VerificationPhase}
    (h : p.Describes userId history) (about : event.userId = userId) :
    (p.next event).Describes userId (history ++ [event]) := by
  subst about
  cases p with
  | verified => cases event <;> exact Cleared.concat h _
  | unknown =>
    obtain ⟨uncleared, none⟩ := h
    cases event with
    | vouched id => exact Or.inl (by simp [VerificationEvent.userId])
    | issued id token at_ =>
      refine ⟨fun cleared => ?_, by simp [lastIssued_concat, VerificationEvent.userId]⟩
      simpa using (cleared_concat_iff uncleared).mp cleared
    | presented id token now =>
      refine ⟨fun cleared => ?_, by simpa [lastIssued_concat] using none⟩
      simpa [none] using (cleared_concat_iff uncleared).mp cleared
  | pending token at_ =>
    obtain ⟨uncleared, issued⟩ := h
    cases event with
    | vouched id => exact Or.inl (by simp [VerificationEvent.userId])
    | issued id token at_ =>
      refine ⟨fun cleared => ?_, by simp [lastIssued_concat, VerificationEvent.userId]⟩
      simpa using (cleared_concat_iff uncleared).mp cleared
    | presented id given now =>
      simp only [VerificationPhase.next]
      split_ifs with accepted
      · obtain ⟨rfl, facts⟩ := accepted
        exact (cleared_concat_iff uncleared).mpr (Or.inr ⟨given, at_, now, rfl, issued, facts⟩)
      · refine ⟨fun cleared => accepted ?_, by simpa [lastIssued_concat] using issued⟩
        rcases (cleared_concat_iff uncleared).mp cleared with
          same | ⟨token', at', now', same, last, facts⟩
        · cases same
        · obtain ⟨-, rfl, rfl⟩ := VerificationEvent.presented.inj same
          obtain ⟨rfl, rfl⟩ := Prod.mk.inj (Option.some.inj (issued.symm.trans last))
          exact ⟨rfl, facts⟩

theorem describes_phase (userId : String) (history : List VerificationEvent) :
    (verificationPhase userId history).Describes userId history := by
  induction history using List.reverseRecOn with
  | nil => exact ⟨by simp [Cleared, Redeemed], rfl⟩
  | append_singleton history event ih =>
    rw [phase_concat]
    by_cases about : event.userId = userId
    · rw [if_pos about]
      exact ih.next about
    · rw [if_neg about]
      exact ih.concat_of_ne about

/-- An account is verified exactly when it was vouched for or has redeemed a token. -/
theorem phase_eq_verified_iff (userId : String) (history : List VerificationEvent) :
    verificationPhase userId history = .verified ↔ Cleared userId history := by
  have describes := describes_phase userId history
  constructor
  · intro h
    rwa [h] at describes
  · intro cleared
    cases h : verificationPhase userId history with
    | verified => rfl
    | unknown => exact absurd cleared (h ▸ describes).1
    | pending token at_ => exact absurd cleared (h ▸ describes).1

end Histories

/-! ## The calls -/

namespace CredentialCall

variable (bcrypt : Bcrypt)

/-- What a call means for the verification of an account. A token is issued before it is
mailed, so it counts when the mail fails. -/
def verification (users : List UserEntity) : CredentialCall → Option VerificationEvent
  | account (.createUser env dto) =>
    (answeredData (createUser bcrypt env dto users).1).map fun user =>
      .issued user.id env.token env.now
  | account (.createUserByAdmin env dto) =>
    (answeredData (createUserByAdmin bcrypt env dto users).1).map fun user => .vouched user.id
  | account (.initRootUser env rootPassword) =>
    if findByUsernameOrEmail env (some "root") none users = none ∧
      (initRootUser bcrypt env rootPassword users).1.toOption = some () then
      some (.vouched env.id)
    else none
  | account (.verifyEmail env email token) =>
    (findByUsernameOrEmail env none (some email) users).map fun user =>
      .presented user.id token env.now
  | resendVerification env email =>
    ((findByUsernameOrEmail env none (some email) users).filter fun user =>
      user.settings.any (!·.isEmailVerified)).map fun user => .issued user.id env.token env.now
  | account (.updateUser ..) | changePassword .. => none

end CredentialCall

/-- The settings of an account in that phase. -/
def UserSettingsEntity.Says (settings : UserSettingsEntity) : VerificationPhase → Prop
  | .unknown => False
  | .pending token at_ => settings.isEmailVerified = false ∧
      settings.emailVerificationToken = some token ∧
      settings.emailVerificationTokenExpiresAt = some (at_ + verificationTokenTtlMs)
  | .verified => settings.isEmailVerified = true

/-- The settings of the row say what the event makes of the phase of the other. -/
def Follows (user row : UserEntity) (event : Option VerificationEvent) : Prop :=
  ∀ settings p, user.settings = some settings → settings.Says p →
    ∃ settings', row.settings = some settings' ∧ settings'.Says (event.elim p p.next)

/-- What a call does to the settings, given what it means for an account. -/
inductive VerificationEffect (users : List UserEntity) :
    Option VerificationEvent → List UserEntity → Prop
  | same : VerificationEffect users none users
  | inserted {row : UserEntity} {event : VerificationEvent} (insertable : Insertable users row)
      (about : event.userId = row.id)
      (settings : ∃ settings, row.settings = some settings ∧
        settings.Says (VerificationPhase.unknown.next event)) :
      VerificationEffect users (some event) (users ++ [row])
  | written {user row : UserEntity} {event : Option VerificationEvent} (huser : user ∈ users)
      (id : row.id = user.id) (about : ∀ e, event = some e → e.userId = user.id)
      (follows : Follows user row event) :
      VerificationEffect users event (writeUser row users)

section Effect

variable {bcrypt : Bcrypt} {users : List UserEntity}

theorem UserSettingsEntity.Says.eq_verified {settings : UserSettingsEntity} {p : VerificationPhase}
    (fits : settings.Says p) (verified : settings.isEmailVerified = true) : p = .verified := by
  cases p with
  | unknown => exact absurd fits id
  | pending token at_ => exact absurd (verified.symm.trans fits.1) (by simp)
  | verified => rfl

theorem UserSettingsEntity.Says.eq_pending {settings : UserSettingsEntity} {p : VerificationPhase}
    (fits : settings.Says p) (unverified : settings.isEmailVerified = false) :
    ∃ token at_, p = .pending token at_ := by
  cases p with
  | unknown => exact absurd fits id
  | pending token at_ => exact ⟨token, at_, rfl⟩
  | verified => exact absurd (unverified.symm.trans fits) (by simp)

/-- The check of `verifyEmail` against a pending token. -/
theorem tokenRefused_iff {env : CallEnv} {settings : UserSettingsEntity} {token given : String}
    {at_ : Date} (fits : settings.Says (.pending token at_)) :
    tokenRefused env given settings = true ↔
      ¬ (given = token ∧ token ≠ "" ∧ env.now ≤ at_ + verificationTokenTtlMs) := by
  obtain ⟨-, htoken, hexpires⟩ := fits
  by_cases blank : token = ""
  · simp [tokenRefused, htoken, hexpires, blank]
  · by_cases same : given = token
    · simp [tokenRefused, htoken, hexpires, blank, same]
    · simp [tokenRefused, htoken, hexpires, blank, same, Ne.symm same]

theorem verificationEffect_createUser (env : CallEnv) (dto : UserRegisterDto) :
    VerificationEffect users
      ((CredentialCall.account (.createUser env dto)).verification bcrypt users)
      (createUser bcrypt env dto users).2 := by
  simp only [CredentialCall.verification, createUser, insertUser]
  cases findByUsernameOrEmail env (some dto.username) (some dto.email) users with
  | some existing => exact .same
  | none =>
    by_cases insertable : Insertable users (registeredUser bcrypt env dto)
    · cases hmailed : env.mailed with
      | false => simpa [insertable] using VerificationEffect.same
      | true =>
        simp only [if_pos insertable, if_true]
        exact .inserted insertable rfl ⟨_, rfl, rfl, rfl, rfl⟩
    · simpa [insertable] using VerificationEffect.same

theorem verificationEffect_createUserByAdmin (env : CallEnv) (dto : CreateUserDto) :
    VerificationEffect users
      ((CredentialCall.account (.createUserByAdmin env dto)).verification bcrypt users)
      (createUserByAdmin bcrypt env dto users).2 := by
  simp only [CredentialCall.verification, createUserByAdmin, insertUser]
  cases findByUsernameOrEmail env (some dto.username) dto.email users with
  | some existing => exact .same
  | none =>
    by_cases insertable : Insertable users (vouchedUser bcrypt env dto)
    · simp only [if_pos insertable]
      exact .inserted insertable rfl ⟨_, rfl, rfl⟩
    · simpa [insertable] using VerificationEffect.same

theorem verificationEffect_initRootUser (env : CallEnv) (rootPassword : String) :
    VerificationEffect users
      ((CredentialCall.account (.initRootUser env rootPassword)).verification bcrypt users)
      (initRootUser bcrypt env rootPassword users).2 := by
  cases hfind : findByUsernameOrEmail env (some "root") none users with
  | some existing =>
    simpa [CredentialCall.verification, initRootUser, hfind] using VerificationEffect.same
  | none =>
    by_cases insertable : Insertable users (rootUser bcrypt env rootPassword)
    · simp only [CredentialCall.verification, initRootUser, insertUser, hfind,
        if_pos insertable, Except.toOption, and_self, if_true]
      exact .inserted insertable rfl ⟨_, rfl, rfl⟩
    · simpa [CredentialCall.verification, initRootUser, insertUser, hfind, insertable,
        Except.toOption] using VerificationEffect.same

/-- A call that finds a row and leaves all rows as they are. -/
theorem VerificationEffect.unwritten (keys : UserKeys users) {user : UserEntity}
    {event : VerificationEvent} (huser : user ∈ users) (about : event.userId = user.id)
    (follows : Follows user user (some event)) : VerificationEffect users (some event) users := by
  have effect := VerificationEffect.written huser rfl
    (fun e he => Option.some.inj he ▸ about) follows
  rwa [writeUser_self keys huser] at effect

theorem verificationEffect_verifyEmail (keys : UserKeys users) (env : CallEnv)
    (email token : String) :
    VerificationEffect users
      ((CredentialCall.account (.verifyEmail env email token)).verification bcrypt users)
      (verifyEmail env email token users).2 := by
  cases hfind : findByUsernameOrEmail env none (some email) users with
  | none => simpa [CredentialCall.verification, verifyEmail, hfind] using VerificationEffect.same
  | some user =>
    have huser := (mem_of_findByUsernameOrEmail hfind).1
    have heard : (CredentialCall.account (.verifyEmail env email token)).verification bcrypt users =
        some (.presented user.id token env.now) := by
      simp [CredentialCall.verification, hfind]
    have about : (VerificationEvent.presented user.id token env.now).userId = user.id := rfl
    rw [heard]
    cases hsettings : user.settings with
    | none =>
      simp only [verifyEmail, hfind, hsettings]
      exact .unwritten keys huser about fun settings p h => by simp [hsettings] at h
    | some settings =>
      cases hverified : settings.isEmailVerified with
      | true =>
        simp only [verifyEmail, hfind, hsettings, hverified, if_true]
        refine .unwritten keys huser about fun stored p h fits => ⟨stored, h, ?_⟩
        obtain rfl := Option.some.inj (hsettings.symm.trans h)
        obtain rfl := fits.eq_verified hverified
        exact fits
      | false =>
        simp only [verifyEmail, hfind, hsettings, hverified, Bool.false_eq_true, if_false]
        split_ifs with refused
        · refine .unwritten keys huser about fun stored p h fits => ⟨stored, h, ?_⟩
          obtain rfl := Option.some.inj (hsettings.symm.trans h)
          obtain ⟨issued, at_, rfl⟩ := fits.eq_pending hverified
          rw [Option.elim_some, VerificationPhase.next, if_neg ((tokenRefused_iff fits).mp refused)]
          exact fits
        · refine .written huser rfl (fun e he => Option.some.inj he ▸ rfl) fun stored p h fits => ?_
          obtain rfl := Option.some.inj (hsettings.symm.trans h)
          obtain ⟨issued, at_, rfl⟩ := fits.eq_pending hverified
          have accepted := not_not.mp (mt (tokenRefused_iff fits).mpr refused)
          refine ⟨_, rfl, ?_⟩
          rw [Option.elim_some, VerificationPhase.next, if_pos accepted]
          exact rfl

theorem verificationEffect_resendVerification (env : CallEnv) (email : String) :
    VerificationEffect users
      ((CredentialCall.resendVerification env email).verification bcrypt users)
      (resendVerification env email users).2 := by
  simp only [CredentialCall.verification, resendVerification]
  cases hfind : findByUsernameOrEmail env none (some email) users with
  | none => exact .same
  | some user =>
    have huser := (mem_of_findByUsernameOrEmail hfind).1
    cases hsettings : user.settings with
    | none => simpa [hsettings, Option.filter_some] using VerificationEffect.same
    | some settings =>
      cases hverified : settings.isEmailVerified with
      | true => simpa [hsettings, hverified, Option.filter_some] using VerificationEffect.same
      | false =>
        simp only [hsettings, hverified, Option.filter_some, Option.any_some, Bool.not_false,
          if_true, Bool.false_eq_true, if_false, Option.map_some]
        refine .written huser rfl (fun e he => by cases he; rfl) fun stored p h fits => ?_
        obtain rfl := Option.some.inj (hsettings.symm.trans h)
        obtain ⟨issued, at_, rfl⟩ := fits.eq_pending hverified
        exact ⟨_, rfl, hverified, rfl, rfl⟩

/-- A call that writes nothing of the settings but `isActive`. -/
theorem VerificationEffect.of_leaves {saved : Option UserEntity} {after : List UserEntity}
    (leaves : Leaves users saved after)
    (kept : ∀ row, saved = some row → ∃ user ∈ users, row.id = user.id ∧
      ∃ isActive : Option Bool, row.settings = user.settings.map fun settings =>
        { settings with isActive := isActive.getD settings.isActive }) :
    VerificationEffect users none after := by
  cases leaves with
  | same => exact .same
  | inserted row insertable =>
    obtain ⟨user, huser, id, -⟩ := kept row rfl
    exact absurd id.symm (insertable user huser).1
  | written old row hold hid savable =>
    obtain ⟨user, huser, id, isActive, settings⟩ := kept row rfl
    refine .written huser id (fun e he => by cases he) fun stored p h fits => ?_
    rw [h] at settings
    refine ⟨_, settings, ?_⟩
    cases p <;> exact fits

theorem verificationEffect (keys : UserKeys users) (call : CredentialCall) :
    VerificationEffect users (call.verification bcrypt users) (call.after bcrypt users) := by
  cases call with
  | account call =>
    cases call with
    | createUser env dto => exact verificationEffect_createUser env dto
    | createUserByAdmin env dto => exact verificationEffect_createUserByAdmin env dto
    | initRootUser env rootPassword => exact verificationEffect_initRootUser env rootPassword
    | verifyEmail env email token => exact verificationEffect_verifyEmail keys env email token
    | updateUser env userId dto =>
      refine .of_leaves (leaves_updateUser bcrypt env userId dto keys) fun row hrow => ?_
      simp only [AccountCall.saved] at hrow
      split_ifs at hrow
      obtain ⟨user, hfind, hrow⟩ := Option.bind_eq_some_iff.mp (Option.filter_eq_some_iff.mp hrow).1
      obtain ⟨saved, hsaved, rfl⟩ := updatedUser_eq_some hrow
      refine ⟨user, (Keyed.mem_of_find hfind).1, updatedUser_id hrow, dto.isActive, ?_⟩
      rw [subscribed_kept hsaved]
      rfl
  | changePassword env userId dto =>
    refine .of_leaves (CredentialCall.leaves bcrypt keys (.changePassword env userId dto)) ?_
    intro row hrow
    obtain ⟨user, hfind, rfl⟩ := Option.map_eq_some_iff.mp hrow
    have huser := (Keyed.mem_of_find (Option.filter_eq_some_iff.mp hfind).1).1
    exact ⟨user, huser, rfl, none, by cases user.settings <;> rfl⟩
  | resendVerification env email => exact verificationEffect_resendVerification env email

end Effect

/-! ## Runs -/

/-- The accounts, and what has happened to them so far. -/
structure VerificationWorld where
  users : List UserEntity
  history : List VerificationEvent

namespace VerificationWorld

def step (bcrypt : Bcrypt) (w : VerificationWorld) (call : CredentialCall) : VerificationWorld where
  users := call.after bcrypt w.users
  history := w.history ++ (call.verification bcrypt w.users).toList

/-- The settings of every account say what phase it is in, and nothing has happened to an
account that is not there. -/
structure Sound (w : VerificationWorld) : Prop where
  keys : UserKeys w.users
  fits : ∀ user ∈ w.users, ∃ settings, user.settings = some settings ∧
    settings.Says (verificationPhase user.id w.history)
  known : ∀ event ∈ w.history, ∃ user ∈ w.users, user.id = event.userId

variable {bcrypt : Bcrypt} {w : VerificationWorld}

theorem Sound.step (sound : w.Sound) (call : CredentialCall) : (w.step bcrypt call).Sound := by
  have leaves := call.leaves bcrypt sound.keys
  have effect : VerificationEffect w.users (call.verification bcrypt w.users)
      (call.after bcrypt w.users) := verificationEffect sound.keys call
  have keys := sound.keys.leaves leaves
  simp only [VerificationWorld.step]
  generalize call.after bcrypt w.users = after at *
  generalize call.verification bcrypt w.users = told at *
  cases effect with
  | same =>
    rw [Option.toList_none, List.append_nil]
    exact ⟨keys, sound.fits, sound.known⟩
  | @inserted row event insertable about settings =>
    rw [Option.toList_some]
    refine ⟨keys, fun user huser => ?_, fun e he => ?_⟩
    · rw [phase_concat]
      rcases List.mem_append.mp huser with old | new
      · rw [if_neg fun same => (insertable user old).1 (same.symm.trans about)]
        exact sound.fits user old
      · obtain rfl := List.mem_singleton.mp new
        have unknown : verificationPhase user.id w.history = .unknown := by
          unfold verificationPhase
          rw [List.filter_eq_nil_iff.mpr]
          · rfl
          · intro e he same
            obtain ⟨other, hother, hid⟩ := sound.known e he
            exact (insertable other hother).1 (hid.trans (of_decide_eq_true same))
        rw [if_pos about, unknown]
        exact settings
    · rcases List.mem_append.mp he with old | new
      · obtain ⟨user, huser, id⟩ := sound.known e old
        exact ⟨user, List.mem_append_left _ huser, id⟩
      · obtain rfl := List.mem_singleton.mp new
        exact ⟨row, by simp, about.symm⟩
  | @written user row event huser id about follows =>
    have there : ∃ old ∈ w.users, old.id = row.id := ⟨user, huser, id.symm⟩
    refine ⟨keys, fun other hother => ?_, fun e he => ?_⟩
    · rcases (mem_writeUser_iff there).mp hother with rfl | ⟨old, hne⟩
      · obtain ⟨settings, hsettings, fits⟩ := sound.fits user huser
        rw [id, phase_told about]
        exact follows settings _ hsettings fits
      · rw [phase_told_of_ne fun e he same => hne (same.symm.trans ((about e he).trans id.symm))]
        exact sound.fits other old
    · have known : ∃ old ∈ w.users, old.id = e.userId := by
        rcases List.mem_append.mp he with old | new
        · exact sound.known e old
        · exact ⟨user, huser, (about e (Option.mem_toList.mp new)).symm⟩
      obtain ⟨old, hold, hid⟩ := known
      by_cases same : old.id = row.id
      · exact ⟨row, (mem_writeUser_iff there).mpr (Or.inl rfl), same.symm.trans hid⟩
      · exact ⟨old, (mem_writeUser_iff there).mpr (Or.inr ⟨hold, same⟩), hid⟩

theorem Sound.run (bcrypt : Bcrypt) (calls : List CredentialCall) :
    (Run.exec (VerificationWorld.step bcrypt) ⟨[], []⟩ calls).Sound :=
  Run.invariant (fun _ call sound => sound.step call) ⟨UserKeys.nil, by simp, by simp⟩ calls

end VerificationWorld

/-- After every sequence of calls, an account passes for verified exactly when it was vouched
for, or the token that was issued to it last had been presented by its end. -/
theorem emailVerified_iff (bcrypt : Bcrypt) (calls : List CredentialCall) :
    let w := Run.exec (VerificationWorld.step bcrypt) ⟨[], []⟩ calls
    ∀ user ∈ w.users, user.EmailVerified ↔ Cleared user.id w.history := by
  intro w user huser
  obtain ⟨settings, hsettings, fits⟩ := (VerificationWorld.Sound.run bcrypt calls).fits user huser
  rw [← phase_eq_verified_iff, UserEntity.EmailVerified, hsettings, Option.map_some,
    Option.some_inj]
  constructor
  · exact fits.eq_verified
  · intro verified
    rwa [verified] at fits

def someRegister : UserRegisterDto where
  username := "ann"
  firstName := "Ann"
  lastName := "Le"
  email := "ann@farm.vn"
  password := "secret"

/-- An account registers, asks for the mail again and presents the second token. -/
def verifiedByMail : List CredentialCall :=
  [.account (.createUser { someEnv "u1" with token := "first" } someRegister),
    .resendVerification { someEnv "" with token := "second" } "ann@farm.vn",
    .account (.verifyEmail (someEnv "") "ann@farm.vn" "second")]

theorem emailVerified_iff_verified :
    ∃ user ∈ (Run.exec (VerificationWorld.step plainBcrypt) ⟨[], []⟩ verifiedByMail).users,
      user.EmailVerified := by
  have ids : ∀ user ∈ (Run.exec (VerificationWorld.step plainBcrypt) ⟨[], []⟩
      verifiedByMail).users, user.id = "u1" := by decide
  have there : (Run.exec (VerificationWorld.step plainBcrypt) ⟨[], []⟩ verifiedByMail).users ≠ [] :=
    by decide
  obtain ⟨user, huser⟩ := List.exists_mem_of_ne_nil _ there
  refine ⟨user, huser, (emailVerified_iff plainBcrypt verifiedByMail user huser).mpr ?_⟩
  rw [ids user huser]
  exact Or.inr ⟨[.issued "u1" "first" 0, .issued "u1" "second" 0], "second", 0, 0, [],
    by decide, by decide, by decide, by decide⟩

end AiotCloud
