import AiotCloud.Lib.Noninterference
import AiotCloud.Lib.Parted
import AiotCloud.Listings

/-!
# The inbox

The rows of all users are in one table. A send attempt adds one, and the calls of the inbox
list, count, mark and delete them. Every query names the user, but the write that follows a
query goes by the primary key, or by a loaded copy of the row.

1. `inbox_noninterference`: what a user finds in the inbox, and every answer to the user's calls,
   does not depend on what is done for the others meanwhile.
2. `deletion_final_iff`: when a message that is gone stays away.
-/

namespace AiotCloud

open Interleave

/-- A row of `notification_messages`. -/
structure StoredMessage extends InboxRow where
  readAt : Option Date := none
deriving DecidableEq, Repr

/-- Its primary key. -/
def StoredMessage.key (row : StoredMessage) : String := row.id

def StoredMessage.userId (row : StoredMessage) : String := row.message.userId

/-- `message.isRead = true; message.readAt = new Date()`. -/
def markedRead (now : Date) (row : StoredMessage) : StoredMessage :=
  { row with isRead := true, readAt := some now }

/-- The rows of a user. -/
def inboxOf (userId : String) (rows : List StoredMessage) : List StoredMessage :=
  rows.filter (·.userId = userId)

def isStored (id : String) (rows : List StoredMessage) : Bool := rows.any (·.key = id)

/-! ## Steps -/

/-- A query that reads, or a statement that writes. -/
inductive InboxStep where
  | query
  | insert (row : StoredMessage)
  | save (copy : StoredMessage)
  | markAll (userId : String) (now : Date)
  | remove (id : String)

namespace InboxStep

/-- An `INSERT` with a key that is there fails. A `save` looks for the row first, and inserts the
copy when there is none. -/
def act (rows : List StoredMessage) : InboxStep → List StoredMessage
  | query => rows
  | insert row => if isStored row.key rows then rows else rows ++ [row]
  | save copy =>
    if isStored copy.key rows then Keyed.modify StoredMessage.key copy.key (fun _ => copy) rows
    else rows ++ [copy]
  | markAll userId now => rows.map fun row =>
    if row.userId = userId ∧ row.isRead = false then markedRead now row else row
  | remove id => Keyed.remove StoredMessage.key id rows

/-- The key of the row that the step leaves in the table. -/
def stores : InboxStep → Option String
  | insert row => some row.key
  | save copy => some copy.key
  | query | markAll .. | remove .. => none

end InboxStep

/-! ## Calls -/

inductive InboxAnswer where
  | attempted
  | page (data : List StoredMessage) (pageMeta : PageMeta)
  | unreadCount (response : ResponseCore Nat)
  | message (response : ResponseCore StoredMessage)
  | done (response : ResponseCore Unit)

abbrev InboxProc := Proc (List StoredMessage) InboxStep InboxAnswer

/-- `findOneBy({ id, userId })`. -/
def findMessage (userId id : String) (rows : List StoredMessage) : Option StoredMessage :=
  (inboxOf userId rows).find? (·.key = id)

/-- The rows that a query selects, sorted. Rows that tie stay as in the table. -/
def selectMessages (query : SelectQueryBuilder InboxRow) (rows : List StoredMessage) :
    List StoredMessage :=
  (rows.filter fun row => query.condition row.toInboxRow).mergeSort fun row row' =>
    query.orderBy row.toInboxRow row'.toInboxRow

def recordMessageProc (t : Transports) (id : String) (createdAt : Date)
    (row : NotificationMessageEntity) : InboxProc := do
  if t.recorded row then
    Proc.write (.insert ⟨{ id := id, message := row, createdAt := createdAt }, none⟩)
  pure .attempted

/-- The rows of the page and their number are two queries. -/
def getMessagesProc (userId : String) (options : NotificationMessagesPageOptions)
    (page : PageOptions) : InboxProc := do
  let entities ← Proc.read .query fun rows =>
    (paginate page (selectMessages (getMessages userId options) rows)).1
  let itemCount ← Proc.read .query fun rows =>
    (selectMessages (getMessages userId options) rows).length
  pure (.page entities (PageMeta.of page itemCount))

def getUnreadCountProc (userId : String) : InboxProc := do
  let count ← Proc.read .query fun rows => (inboxOf userId rows).countP (!·.isRead)
  pure (.unreadCount (.ok count))

/-- The rest of `markMessageAsRead`, after the query. -/
def markFound (now : Date) : Option StoredMessage → InboxProc
  | none => pure (.message (.fail .notFound "error.notificationMessageNotFound"))
  | some message =>
    if message.isRead then pure (.message (.ok message))
    else do
      Proc.write (.save (markedRead now message))
      pure (.message (.ok (markedRead now message)))

def markMessageAsReadProc (now : Date) (userId id : String) : InboxProc :=
  Proc.read .query (findMessage userId id) >>= markFound now

def markAllMessagesAsReadProc (now : Date) (userId : String) : InboxProc := do
  Proc.write (.markAll userId now)
  pure (.done ⟨.success, none, "success"⟩)

/-- The rest of `deleteMessage`, after the query. -/
def deleteFound : Option StoredMessage → InboxProc
  | none => pure (.done (.fail .notFound "error.notificationMessageNotFound"))
  | some message => do
    Proc.write (.remove message.key)
    pure (.done ⟨.success, none, "success"⟩)

def deleteMessageProc (userId id : String) : InboxProc :=
  Proc.read .query (findMessage userId id) >>= deleteFound

inductive InboxCall where
  | attempt (t : Transports) (id : String) (createdAt : Date) (request : WarningRequest)
      (config : NotificationConfigEntity)
  | getMessages (userId : String) (options : NotificationMessagesPageOptions) (page : PageOptions)
  | getUnreadCount (userId : String)
  | markMessageAsRead (now : Date) (userId id : String)
  | markAllMessagesAsRead (now : Date) (userId : String)
  | deleteMessage (userId id : String)

namespace InboxCall

/-- The user that is warned, or that asks. -/
def userId : InboxCall → String
  | attempt _ _ _ request _ => request.userId
  | getMessages userId .. => userId
  | getUnreadCount userId => userId
  | markMessageAsRead _ userId _ => userId
  | markAllMessagesAsRead _ userId => userId
  | deleteMessage userId _ => userId

def proc : InboxCall → InboxProc
  | attempt t id createdAt request config =>
    recordMessageProc t id createdAt (attemptRow request config (sendTo t request config))
  | getMessages userId options page => getMessagesProc userId options page
  | getUnreadCount userId => getUnreadCountProc userId
  | markMessageAsRead now userId id => markMessageAsReadProc now userId id
  | markAllMessagesAsRead now userId => markAllMessagesAsReadProc now userId
  | deleteMessage userId id => deleteMessageProc userId id

/-- The keys are generated, each for a row of one user. -/
def Issued (issuedTo : String → String) : InboxCall → Prop
  | attempt _ id _ request _ => issuedTo id = request.userId
  | _ => True

end InboxCall

/-- The table, with calls under way. -/
abbrev InboxSys (ι : Type) := Sys ι (List StoredMessage) InboxStep InboxAnswer

/-- Calls that have not begun. -/
def inboxCalls {ι : Type} (rows : List StoredMessage) (calls : ι → InboxCall) : InboxSys ι :=
  ⟨rows, fun i => (calls i).proc⟩

/-! ## Users apart -/

/-- The step is one of a call of the user. -/
def InboxStep.Of (issuedTo : String → String) (userId : String) : InboxStep → Prop
  | query => True
  | insert row => row.userId = userId ∧ issuedTo row.key = userId
  | save copy => copy.userId = userId ∧ issuedTo copy.key = userId
  | markAll userId' _ => userId' = userId
  | remove id => issuedTo id = userId

/-- The keys of the rows are those generated for their users. -/
def KeysIssued (issuedTo : String → String) (rows : List StoredMessage) : Prop :=
  ∀ row ∈ rows, issuedTo row.key = row.userId

/-- The table, with a user for each row and each key. -/
def inboxLedger (issuedTo : String → String) : Parted.Ledger StoredMessage String String :=
  ⟨StoredMessage.key, StoredMessage.userId, issuedTo, fun _ => True⟩

/-- The statement of a step that writes. -/
def InboxStep.write : InboxStep → Option (Parted.Write StoredMessage String)
  | query => none
  | insert row => some (.insert row (·.key = row.key))
  | save copy => some (.save copy fun _ => false)
  | markAll userId now =>
    some (.update (fun row => row.userId = userId ∧ row.isRead = false) (markedRead now))
  | remove id => some (.remove id)

section Apart

variable {issuedTo : String → String} {userId : String} {rows : List StoredMessage}

theorem isStored_iff {id : String} : isStored id rows = true ↔ ∃ row ∈ rows, row.key = id := by
  simp [isStored]

theorem mem_inboxOf_iff {row : StoredMessage} :
    row ∈ inboxOf userId rows ↔ row ∈ rows ∧ row.userId = userId := by
  simp [inboxOf]

theorem inboxLedger_fair_iff {row : StoredMessage} :
    (inboxLedger issuedTo).Fair row ↔ issuedTo row.key = row.userId :=
  ⟨fun fair => fair.issued, fun issued => ⟨trivial, issued⟩⟩

theorem inboxLedger_valid_iff : (inboxLedger issuedTo).Valid rows ↔ KeysIssued issuedTo rows :=
  forall_congr' fun _ => imp_congr_right fun _ => inboxLedger_fair_iff

theorem InboxStep.act_eq (step : InboxStep) (rows : List StoredMessage) :
    step.act rows = step.write.elim rows (Parted.Write.act StoredMessage.key rows) := by
  cases step with
  | query | insert | remove => rfl
  | save copy => simp [act, write, Parted.Write.act, isStored]
  | markAll => simp [act, write, Parted.Write.act]

/-- A step of the user is a statement of the user. -/
theorem InboxStep.Of.write {step : InboxStep} (own : step.Of issuedTo userId)
    {write : Parted.Write StoredMessage String} (h : step.write = some write) :
    (inboxLedger issuedTo).Of userId write := by
  cases step with
  | query => cases h
  | insert row =>
    obtain rfl := Option.some.inj h
    refine ⟨inboxLedger_fair_iff.mpr (own.2.trans own.1.symm), own.1, fun other fair same => ?_⟩
    rw [← own.2, ← of_decide_eq_true same]
    exact fair.issued.symm
  | save copy =>
    obtain rfl := Option.some.inj h
    exact ⟨inboxLedger_fair_iff.mpr (own.2.trans own.1.symm), own.1, nofun⟩
  | markAll userId' now =>
    obtain rfl := Option.some.inj h
    intro row fair met
    have mine : row.userId = userId := (of_decide_eq_true met).1.trans own
    exact ⟨mine, inboxLedger_fair_iff.mpr fair.issued, mine⟩
  | remove id =>
    obtain rfl := Option.some.inj h
    exact own

theorem KeysIssued.act (keys : KeysIssued issuedTo rows) {step : InboxStep}
    (own : step.Of issuedTo userId) : KeysIssued issuedTo (step.act rows) := by
  rw [step.act_eq]
  cases h : step.write with
  | none => exact keys
  | some write =>
    exact inboxLedger_valid_iff.mp (Parted.Ledger.Valid.act (inboxLedger_valid_iff.mpr keys)
      (own.write h))

/-- A step for the user does to the user's rows what it does to all of them. -/
theorem inboxOf_act_own (keys : KeysIssued issuedTo rows) {step : InboxStep}
    (own : step.Of issuedTo userId) :
    inboxOf userId (step.act rows) = step.act (inboxOf userId rows) := by
  rw [step.act_eq, step.act_eq]
  cases h : step.write with
  | none => rfl
  | some write => exact Parted.Ledger.part_act_own (inboxLedger_valid_iff.mpr keys) (own.write h)

/-- A step for another user does nothing to the user's rows. -/
theorem inboxOf_act_other (keys : KeysIssued issuedTo rows) {step : InboxStep} {other : String}
    (own : step.Of issuedTo other) (hne : other ≠ userId) :
    inboxOf userId (step.act rows) = inboxOf userId rows := by
  rw [step.act_eq]
  cases h : step.write with
  | none => rfl
  | some write =>
    exact Parted.Ledger.part_act_other (inboxLedger_valid_iff.mpr keys) (own.write h) hne

/-- The steps for a user and those for the others. -/
theorem inbox_confined (issuedTo : String → String) (userId : String) :
    Confined InboxStep.act (inboxOf userId) (KeysIssued issuedTo) (InboxStep.Of issuedTo userId)
      (fun step => ∃ other, step.Of issuedTo other ∧ other ≠ userId) where
  keeps rows step := by
    rintro (own | ⟨other, own, -⟩) keys <;> exact keys.act own
  own rows rows' step own keys keys' same := by
    rw [inboxOf_act_own keys own, inboxOf_act_own keys' own, same]
  other rows step := by
    rintro ⟨other, own, hne⟩ keys
    exact inboxOf_act_other keys own hne

/-- The listing of a user selects among the rows of the user. -/
theorem selectMessages_inboxOf (options : NotificationMessagesPageOptions)
    (rows : List StoredMessage) :
    selectMessages (getMessages userId options) rows =
      selectMessages (getMessages userId options) (inboxOf userId rows) := by
  unfold selectMessages inboxOf
  rw [List.filter_filter]
  congr 1
  refine List.filter_congr fun row _ => ?_
  cases own : decide (row.userId = userId) with
  | true => simp
  | false =>
    have other : row.message.userId ≠ userId := of_decide_eq_false own
    simp [getMessages, other]

theorem mem_of_findMessage {id : String} {message : StoredMessage}
    (h : findMessage userId id rows = some message) :
    message ∈ rows ∧ message.userId = userId ∧ message.key = id := by
  obtain ⟨hrow, huser⟩ := mem_inboxOf_iff.mp (List.mem_of_find?_eq_some h)
  exact ⟨hrow, huser, by simpa using List.find?_some h⟩

/-- A call reads and writes rows of its user only. -/
theorem InboxCall.stays {call : InboxCall} (issued : call.Issued issuedTo) :
    call.proc.Stays (KeysIssued issuedTo) (inboxOf call.userId)
      (InboxStep.Of issuedTo call.userId) := by
  cases call with
  | attempt t id createdAt request config =>
    simp only [proc, recordMessageProc]
    split_ifs
    · exact .last ⟨rfl, issued⟩ fun _ _ _ _ _ => rfl
    · exact .ret _
  | getMessages userId options page =>
    refine .read trivial (fun rows rows' _ _ same => ?_) fun _ _ =>
      .read trivial (fun rows rows' _ _ same => ?_) fun _ _ => .ret _
    · rw [selectMessages_inboxOf options rows, selectMessages_inboxOf options rows',
        show inboxOf userId rows = inboxOf userId rows' from same]
    · rw [selectMessages_inboxOf options rows, selectMessages_inboxOf options rows',
        show inboxOf userId rows = inboxOf userId rows' from same]
  | getUnreadCount userId =>
    refine .read trivial (fun rows rows' _ _ same => ?_) fun _ _ => .ret _
    rw [show inboxOf userId rows = inboxOf userId rows' from same]
  | markMessageAsRead now userId id =>
    refine .read trivial (fun rows rows' _ _ same => ?_) fun rows keys => ?_
    · unfold findMessage
      rw [show inboxOf userId rows = inboxOf userId rows' from same]
    · cases found : findMessage userId id rows with
      | none => exact .ret _
      | some message =>
        obtain ⟨hrow, huser, -⟩ := mem_of_findMessage found
        simp only [markFound]
        split_ifs
        · exact .ret _
        · exact .last ⟨huser, (keys message hrow).trans huser⟩ fun _ _ _ _ _ => rfl
  | markAllMessagesAsRead now userId => exact .last rfl fun _ _ _ _ _ => rfl
  | deleteMessage userId id =>
    refine .read trivial (fun rows rows' _ _ same => ?_) fun rows keys => ?_
    · unfold findMessage
      rw [show inboxOf userId rows = inboxOf userId rows' from same]
    · cases found : findMessage userId id rows with
      | none => exact .ret _
      | some message =>
        obtain ⟨hrow, huser, -⟩ := mem_of_findMessage found
        exact .last ((keys message hrow).trans huser) fun _ _ _ _ _ => rfl

end Apart

section Noninterference

variable {ι : Type} {issuedTo : String → String} {userId : String} {rows : List StoredMessage}

/-- The calls of a user, and those of the others. -/
theorem inboxCalls_parties (keys : KeysIssued issuedTo rows) {calls : ι → InboxCall}
    (issued : ∀ i, (calls i).Issued issuedTo) {mine : ι → Prop}
    (own : ∀ i, mine i ↔ (calls i).userId = userId) :
    Sys.Parties (inboxOf userId) (KeysIssued issuedTo) (InboxStep.Of issuedTo userId)
      (fun step => ∃ other, step.Of issuedTo other ∧ other ≠ userId) mine
      (inboxCalls rows calls) where
  shared := keys
  sees i hi := (own i).mp hi ▸ (InboxCall.stays (issued i)).sees
  own i hi := (own i).mp hi ▸ (InboxCall.stays (issued i)).within
  other i hi := by
    refine (InboxCall.stays (issued i)).within.mono fun step hstep => ?_
    exact ⟨_, hstep, fun same => hi ((own i).mpr same)⟩

/-- Take two runs in which a user makes the same calls, at the same turns, on the same rows of
the user. Whatever the other calls are and do in between, the user's rows and the answers to the
user's calls are the same. -/
theorem inbox_noninterference [DecidableEq ι] {rows' : List StoredMessage}
    (keys : KeysIssued issuedTo rows) (keys' : KeysIssued issuedTo rows')
    (same : inboxOf userId rows = inboxOf userId rows') {calls calls' : ι → InboxCall}
    (issued : ∀ i, (calls i).Issued issuedTo) (issued' : ∀ i, (calls' i).Issued issuedTo)
    (agree : ∀ i, (calls i).userId = userId ∨ (calls' i).userId = userId → calls i = calls' i)
    {sched sched' : List ι}
    (turns : sched.filter (fun i => (calls i).userId = userId) =
      sched'.filter (fun i => (calls i).userId = userId)) :
    let c := (inboxCalls rows calls).run InboxStep.act sched
    let c' := (inboxCalls rows' calls').run InboxStep.act sched'
    inboxOf userId c.shared = inboxOf userId c'.shared ∧
      ∀ i, (calls i).userId = userId → ∀ answer, c.Returned i answer ↔ c'.Returned i answer := by
  intro c c'
  have mine : ∀ i, (calls i).userId = userId ↔ (calls' i).userId = userId := fun i =>
    ⟨fun h => agree i (Or.inl h) ▸ h, fun h => (agree i (Or.inr h)).symm ▸ h⟩
  have start : Sys.Agree (inboxOf userId) (fun i => (calls i).userId = userId)
      (inboxCalls rows calls) (inboxCalls rows' calls') :=
    ⟨same, fun i hi => congrArg InboxCall.proc (agree i (Or.inl hi))⟩
  have final := start.run (inboxCalls_parties keys issued fun _ => Iff.rfl)
    (inboxCalls_parties keys' issued' mine) (inbox_confined issuedTo userId) turns
  exact ⟨final.view, fun i hi => final.returned_iff hi⟩

/-- A row of each of two users. -/
def twoInboxes : List StoredMessage :=
  [⟨⟨"a1", ⟨"ann", .zalo, "Hot", none, .sent, none⟩, false, 0⟩, none⟩,
    ⟨⟨"b1", ⟨"ben", .zalo, "Cold", none, .sent, none⟩, false, 0⟩, none⟩]

/-- The one user counts the unread messages while the other makes some call. -/
def besideCount (call : InboxCall) : Bool → InboxCall
  | true => .getUnreadCount "ann"
  | false => call

theorem inbox_noninterference_two :
    let read := (inboxCalls twoInboxes (besideCount (.markAllMessagesAsRead 0 "ben"))).run
      InboxStep.act [false, true]
    let deleted := (inboxCalls twoInboxes (besideCount (.deleteMessage "ben" "b1"))).run
      InboxStep.act [false, true, false]
    inboxOf "ann" read.shared = inboxOf "ann" deleted.shared := by
  have keys : KeysIssued (fun id => if id = "a1" then "ann" else "ben") twoInboxes := by
    unfold KeysIssued
    decide
  refine (inbox_noninterference keys keys rfl ?_ ?_ ?_ ?_).1
  · rintro (_ | _) <;> trivial
  · rintro (_ | _) <;> trivial
  · rintro (_ | _) h
    · exact absurd h (by decide)
    · rfl
  · decide

end Noninterference

/-! ## Deleted for good -/

/-- From a table without the message, the process does not go on to store it. -/
def Rechecks (id : String) : InboxProc → Prop
  | .ret _ => True
  | .step _ k => ∀ rows,
    (isStored id rows = false → ((k rows).label.bind InboxStep.stores) ≠ some id) ∧
      Rechecks id (k rows)

theorem isStored_act {id : String} {rows : List StoredMessage} {step : InboxStep}
    (h : isStored id (step.act rows) = true) : isStored id rows = true ∨ step.stores = some id := by
  obtain ⟨row, hrow, rfl⟩ := isStored_iff.mp h
  by_cases stores : step.stores = some row.key
  · exact Or.inr stores
  · refine Or.inl (isStored_iff.mpr ?_)
    cases step with
    | query => exact ⟨row, hrow, rfl⟩
    | insert new =>
      simp only [InboxStep.act] at hrow
      split_ifs at hrow with there
      · exact ⟨row, hrow, rfl⟩
      · rcases List.mem_append.mp hrow with old | added
        · exact ⟨row, old, rfl⟩
        · obtain rfl := List.mem_singleton.mp added
          exact absurd rfl stores
    | save copy =>
      simp only [InboxStep.act] at hrow
      split_ifs at hrow with there
      · rcases Keyed.mem_modify_iff.mp hrow with ⟨-, -, -, rfl⟩ | ⟨old, -⟩
        · exact absurd rfl stores
        · exact ⟨row, old, rfl⟩
      · rcases List.mem_append.mp hrow with old | added
        · exact ⟨row, old, rfl⟩
        · obtain rfl := List.mem_singleton.mp added
          exact absurd rfl stores
    | markAll userId now =>
      obtain ⟨old, hold, rfl⟩ := List.mem_map.mp hrow
      refine ⟨old, hold, ?_⟩
      split_ifs <;> rfl
    | remove removed => exact ⟨row, (Keyed.mem_remove_iff.mp hrow).1, rfl⟩

theorem isStored_act_of_stores {id : String} (rows : List StoredMessage) {step : InboxStep}
    (h : step.stores = some id) : isStored id (step.act rows) = true := by
  cases step with
  | query | markAll | remove => cases h
  | insert new =>
    obtain rfl := Option.some.inj h
    simp only [InboxStep.act]
    split_ifs with there
    · exact there
    · exact isStored_iff.mpr ⟨new, by simp, rfl⟩
  | save copy =>
    obtain rfl := Option.some.inj h
    simp only [InboxStep.act]
    split_ifs with there
    · obtain ⟨old, hold, hkey⟩ := isStored_iff.mp there
      exact isStored_iff.mpr
        ⟨copy, Keyed.mem_modify_iff.mpr (Or.inl ⟨old, hold, hkey, rfl⟩), rfl⟩
    · exact isStored_iff.mpr ⟨copy, by simp, rfl⟩

theorem isStored_of_findMessage {userId id : String} {rows : List StoredMessage}
    {message : StoredMessage} (h : findMessage userId id rows = some message) :
    isStored message.key rows = true :=
  isStored_iff.mpr ⟨message, (mem_of_findMessage h).1, rfl⟩

theorem unheld_ret (id : String) (answer : InboxAnswer) :
    ((.ret answer : InboxProc).label.bind InboxStep.stores) ≠ some id :=
  (Option.some_ne_none id).symm

/-- A process that answers after its next step. -/
theorem rechecks_last (id : String) (step : InboxStep) (answer : List StoredMessage → InboxAnswer) :
    Rechecks id (.step step fun rows => .ret (answer rows)) :=
  fun rows => ⟨fun _ => unheld_ret id (answer rows), trivial⟩

theorem InboxCall.rechecks (id : String) (call : InboxCall) : Rechecks id call.proc := by
  cases call with
  | attempt t id' createdAt request config =>
    simp only [proc, recordMessageProc]
    split_ifs
    · exact rechecks_last id _ fun _ => .attempted
    · trivial
  | getMessages userId options page =>
    exact fun rows => ⟨fun _ => (Option.some_ne_none id).symm, rechecks_last id .query _⟩
  | getUnreadCount userId => exact rechecks_last id .query _
  | markMessageAsRead now userId id' =>
    intro rows
    show (_ → ((markFound now (findMessage userId id' rows)).label.bind _) ≠ _) ∧
      Rechecks id (markFound now (findMessage userId id' rows))
    cases found : findMessage userId id' rows with
    | none => exact ⟨fun _ => unheld_ret id _, trivial⟩
    | some message =>
      simp only [markFound]
      split_ifs
      · exact ⟨fun _ => unheld_ret id _, trivial⟩
      · refine ⟨fun gone stores => ?_, rechecks_last id _ fun _ => _⟩
        obtain rfl : message.key = id := Option.some.inj stores
        rw [isStored_of_findMessage found] at gone
        cases gone
  | markAllMessagesAsRead now userId => exact rechecks_last id _ fun _ => _
  | deleteMessage userId id' =>
    intro rows
    show (_ → ((deleteFound (findMessage userId id' rows)).label.bind _) ≠ _) ∧
      Rechecks id (deleteFound (findMessage userId id' rows))
    cases findMessage userId id' rows with
    | none => exact ⟨fun _ => unheld_ret id _, trivial⟩
    | some message => exact ⟨fun _ => (Option.some_ne_none id).symm, rechecks_last id _ fun _ => _⟩

section Gone

variable {ι : Type} [DecidableEq ι] {id : String} {c : InboxSys ι}

/-- No process stores the message without having found it. -/
def AllRecheck (id : String) (c : InboxSys ι) : Prop := ∀ i, Rechecks id (c.procs i)

theorem AllRecheck.fire (h : AllRecheck id c) (i : ι) : AllRecheck id (c.fire InboxStep.act i) :=
  Sys.forall_procs_fire (fun _ => Rechecks id) (fun _ _ _ h => (h _).2) h i

/-- The message is gone, and no process has it at hand. -/
structure Gone (id : String) (c : InboxSys ι) : Prop where
  rechecks : AllRecheck id c
  absent : isStored id c.shared = false
  unheld : ∀ i, (c.procs i).label.bind InboxStep.stores ≠ some id

theorem Gone.fire (gone : Gone id c) (i : ι) : Gone id (c.fire InboxStep.act i) := by
  refine ⟨gone.rechecks.fire i, ?_, fun j => ?_⟩
  · cases hi : c.procs i with
    | ret answer =>
      rw [Sys.fire_of_ret _ hi]
      exact gone.absent
    | step label next =>
      have held := gone.unheld i
      rw [hi] at held
      rw [Sys.fire_of_step _ hi, Bool.eq_false_iff]
      intro stored
      rcases isStored_act stored with before | stores
      · rw [gone.absent] at before
        cases before
      · exact held stores
  · rcases eq_or_ne j i with rfl | hne
    · cases hj : c.procs j with
      | ret answer =>
        rw [Sys.fire_of_ret _ hj]
        exact gone.unheld j
      | step label next =>
        have rechecks := gone.rechecks j
        rw [hj] at rechecks
        rw [Sys.fire_of_step _ hj]
        simpa using (rechecks c.shared).1 gone.absent
    · rw [Sys.fire_procs_of_ne hne]
      exact gone.unheld j

/-- A message stays away whatever the calls do from here exactly if it is not stored and no call
is about to store it: its send attempt, or a `markMessageAsRead` that read the row before it was
deleted. -/
theorem deletion_final_iff (rows : List StoredMessage) (calls : ι → InboxCall) (sched : List ι)
    (id : String) :
    let c := (inboxCalls rows calls).run InboxStep.act sched
    (∀ sched', isStored id (c.run InboxStep.act sched').shared = false) ↔
      isStored id c.shared = false ∧ ∀ i, (c.procs i).label.bind InboxStep.stores ≠ some id := by
  intro c
  constructor
  · intro always
    refine ⟨always [], fun i stores => ?_⟩
    cases hi : c.procs i with
    | ret answer => simp [hi] at stores
    | step label next =>
      have after := always [i]
      rw [Sys.run_cons, Sys.run_nil, Sys.fire_of_step _ hi] at after
      have stored := isStored_act_of_stores c.shared (by simpa [hi] using stores)
      exact Bool.noConfusion (after.symm.trans stored)
  · rintro ⟨absent, unheld⟩ sched'
    have start : AllRecheck id (inboxCalls rows calls) := fun i => (calls i).rechecks id
    have rechecks : AllRecheck id c := Sys.run_invariant (fun _ i h => h.fire i) start sched
    have gone : Gone id c := ⟨rechecks, absent, unheld⟩
    exact (Sys.run_invariant (fun _ i h => h.fire i) gone sched').absent

end Gone

end AiotCloud
