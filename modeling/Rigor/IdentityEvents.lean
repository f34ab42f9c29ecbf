import Rigor.ExecutionClaims
import Rigor.PyCompare
import Rigor.Runs
import Rigor.Tables
import Mathlib.Data.List.Sort

/-!
# Identity events

`process_clerk_event`, `reconcile_clerk_identity`, and the requests that read
a principal from the database and run `ensure_user`. Each transaction that
writes holds the row of its subject from its first write to its commit, so it
is one step; the two queries of a principal are steps of their own.
-/

namespace Rigor

open Py Runs

variable {F : Type}

/-! ## Roles -/

inductive Role where
  | candidate | contentAuthor | technicalReviewer | editorialReviewer | platformAdministrator
  deriving DecidableEq

def Role.value : Role → Str
  | .candidate => "candidate"
  | .contentAuthor => "content-author"
  | .technicalReviewer => "technical-reviewer"
  | .editorialReviewer => "editorial-reviewer"
  | .platformAdministrator => "platform-administrator"

/-- `ROLE_PERMISSIONS`. -/
def rolePermissions : Role → List Str
  | .candidate =>
      ["catalog:read", "profile:read", "profile:write", "submission:create", "submission:read-own"]
  | .contentAuthor =>
      ["catalog:read", "content:create", "content:edit-own", "content:read-private",
        "content:authoring"]
  | .technicalReviewer =>
      ["catalog:read", "content:read-private", "review:read", "review:technical"]
  | .editorialReviewer =>
      ["catalog:read", "content:read-private", "review:read", "review:editorial"]
  | .platformAdministrator =>
      ["audit:read", "catalog:read", "content:publish", "content:import", "content:authoring",
        "content:read-private", "content:transition", "review:assign", "review:read",
        "source:manage", "source:read", "coverage:read", "user:manage"]

/-- `_permissions`: sorted, each once. -/
def permissionsOf (roles : List Role) : List Str :=
  (roles.flatMap rolePermissions).dedup.insertionSort fun a b => ¬b < a

/-! ## Tables -/

def localOidc : Str := "local-oidc"

def clerk : Str := "clerk"

inductive AccountStatus where
  | active | suspended | deleted
  deriving DecidableEq

/-- A row of `users`. -/
structure UserRow where
  id : Uuid
  identitySubject : Str
  email : Str
  displayName : Str
  emailVerified : Bool
  authProvider : Str
  status : AccountStatus
  deletedAt : Option Time
  lastLoginAt : Option Time
  updatedAt : Time

/-- A row of `identity_webhook_events`. -/
structure WebhookEvent where
  externalEventId : Str
  eventType : Str
  status : Str
  processedAt : Option Time

/-- A row of `login_events`. -/
structure LoginEvent where
  userId : Uuid
  externalSubject : Str
  sessionReference : Option Str

structure IdentityDb where
  users : List UserRow
  roles : List (Uuid × Role)
  preferences : List Uuid
  logins : List LoginEvent
  events : List WebhookEvent

namespace IdentityDb

def user (subject : Str) (db : IdentityDb) : Option UserRow :=
  Tables.find UserRow.identitySubject subject db.users

def rolesOf (userId : Uuid) (db : IdentityDb) : List Role :=
  (db.roles.filter fun r => r.1 = userId).map Prod.snd

def updateUser (subject : Str) (f : UserRow → UserRow) (db : IdentityDb) : IdentityDb :=
  { db with users := Tables.update UserRow.identitySubject subject f db.users }

/-- `INSERT INTO users … ON CONFLICT (identity_subject) DO UPDATE`, and the id
of the row. -/
def upsertUser (row : UserRow) (update : UserRow → UserRow) (db : IdentityDb) :
    Except Failure (IdentityDb × Uuid) :=
  match db.user row.identitySubject with
  | some u => .ok (db.updateUser row.identitySubject update, u.id)
  | none =>
      if db.users.any fun u => u.id = row.id then .error (.integrity "users_pkey")
      else .ok ({ db with users := db.users ++ [row] }, row.id)

/-- The role of a candidate, for a user without any. -/
def grantCandidate (userId : Uuid) (db : IdentityDb) : IdentityDb :=
  if db.rolesOf userId = [] then { db with roles := db.roles ++ [(userId, .candidate)] } else db

def addPreferences (userId : Uuid) (db : IdentityDb) : IdentityDb :=
  if userId ∈ db.preferences then db else { db with preferences := db.preferences ++ [userId] }

/-- The three writes of an event and of a reconciliation. -/
def provision (row : UserRow) (update : UserRow → UserRow) (db : IdentityDb) :
    Except Failure (IdentityDb × Uuid) :=
  match db.upsertUser row update with
  | .error e => .error e
  | .ok (db, userId) => .ok ((db.grantCandidate userId).addPreferences userId, userId)

end IdentityDb

/-! ## `process_clerk_event` -/

def member (key : Str) (members : Dict F) : Json F := (Json.lookup key members).getD .null

/-- `_primary_email`: the primary address first, the others in their order. -/
def primaryEmail [FloatArith F] (data : Dict F) : Str × Bool :=
  match member "email_addresses" data with
  | .arr addresses =>
      let typed : List (Dict F) := addresses.filterMap fun item =>
        match item with
        | .obj members => some members
        | _ => none
      let isPrimary := fun item : Dict F =>
        (member "id" item).pyEq (member "primary_email_address_id" data)
      let ordered := typed.filter isPrimary ++ typed.filter fun item => !isPrimary item
      (ordered.findSome? fun item =>
        match member "email_address" item with
        | .str email =>
            if email = [] then none
            else
              let verified : Bool :=
                match member "verification" item with
                | .obj verification =>
                    match member "status" verification with
                    | .str status => status = "verified"
                    | _ => false
                | _ => false
              some (email, verified)
        | _ => none).getD ([], false)
  | _ => ([], false)

/-- `_display_name`. -/
def clerkDisplayName (data : Dict F) (email : Str) : Str :=
  let parts : List Str := [member "first_name" data, member "last_name" data].filterMap fun part =>
    match part with
    | .str text => if strip text = [] then none else some (strip text)
    | _ => none
  let value := (Str.ofString " ").intercalate parts
  let fallback := (if email = [] then Str.ofString "SkillForge Candidate" else email).take 160
  if value ≠ [] then value.take 160
  else
    match member "username" data with
    | .str username => if username ≠ [] then username.take 160 else fallback
    | _ => fallback

/-- The columns that an event of a user sets. -/
def setFromClerk (email displayName : Str) (verified : Bool) (now : Time) (u : UserRow) : UserRow :=
  { u with
    email := email
    displayName := displayName
    emailVerified := verified
    authProvider := clerk
    updatedAt := now }

def clerkRow (newId : Uuid) (subject email displayName : Str) (verified : Bool)
    (lastLoginAt : Option Time) (now : Time) : UserRow :=
  ⟨newId, subject, email, displayName, verified, clerk, .active, none, lastLoginAt, now⟩

/-- The writes of an event, and its status. -/
def applyClerkEvent [FloatArith F] (eventType : Str) (data : Dict F) (newId : Uuid)
    (clock : Clock) (db : IdentityDb) : Except Failure (IdentityDb × Str) :=
  if eventType = "user.created" ∨ eventType = "user.updated" then
    match member "id" data with
    | .str subject =>
        let (email, verified) := primaryEmail data
        if subject = [] ∨ email = [] then
          .error (.value "Clerk user event is missing identity/email.")
        else
          let name := clerkDisplayName data email
          match db.provision (clerkRow newId subject email name verified none clock.database)
            (setFromClerk email name verified clock.database) with
          | .error e => .error e
          | .ok (db, _) => .ok (db, "processed")
    | _ => .error (.value "Clerk user event is missing identity/email.")
  else if eventType = "user.deleted" then
    match member "id" data with
    | .str subject =>
        if subject = [] then .ok (db, "processed")
        else
          .ok (db.updateUser subject fun u =>
            { u with
              status := .deleted
              deletedAt := some clock.database
              updatedAt := clock.database }, "processed")
    | _ => .ok (db, "processed")
  else if eventType = "session.created" then
    match member "user_id" data with
    | .str subject =>
        if subject = [] then .ok (db, "processed")
        else
          let sessionId := member "id" data
          let login := (db.user subject).map fun u : UserRow =>
            (⟨u.id, u.identitySubject, if sessionId.truthy then some sessionId.pyStr else none⟩ :
              LoginEvent)
          .ok (({ db with logins := db.logins ++ login.toList }).updateUser subject fun u =>
            { u with lastLoginAt := some clock.database }, "processed")
    | _ => .ok (db, "processed")
  else .ok (db, "ignored")

/-- `process_clerk_event`. -/
def processClerkEvent [FloatArith F] (externalEventId : Str) (payload : Dict F)
    (newId : Uuid) (clock : Clock) (db : IdentityDb) : Except Failure (IdentityDb × Str) :=
  match member "type" payload, member "data" payload with
  | .str eventType, .obj data =>
      if db.events.any fun e => e.externalEventId = externalEventId then .ok (db, "duplicate")
      else
        let received : WebhookEvent := ⟨externalEventId, eventType, "processing", none⟩
        match applyClerkEvent eventType data newId clock
          { db with events := db.events ++ [received] } with
        | .error e => .error e
        | .ok (db, status) =>
            .ok ({ db with
              events := db.events.map fun e =>
                if e.externalEventId = externalEventId then
                  { e with status := status, processedAt := some clock.database }
                else e }, status)
  | _, _ => .error (.value "Clerk event type/data are missing.")

/-! ## `reconcile_clerk_identity` -/

structure IdentityReconcileRequest where
  subject : Str
  email : Str
  emailVerified : Bool
  displayName : Str

/-- The columns that a reconciliation sets. -/
def setFromReconcile (email displayName : Str) (now : Time) (u : UserRow) : UserRow :=
  { u with
    email := email
    displayName := displayName
    emailVerified := true
    authProvider := clerk
    lastLoginAt := some now
    updatedAt := now }

/-- The reconciliation for a token of `subject`; `lower` is `str.lower`. -/
def reconcileClerkIdentity (lower : Str → Str) (subject : Str) (payload : IdentityReconcileRequest)
    (newId : Uuid) (clock : Clock) (db : IdentityDb) : Except Failure (IdentityDb × Uuid) :=
  if subject = [] ∨ subject ≠ payload.subject then
    .error (.http 401 "The authenticated identity does not match the reconciliation request.")
  else if payload.emailVerified = false then
    .error (.http 401 "A verified email address is required before provisioning SkillForge.")
  else
    let email := lower (strip payload.email)
    let name := (if strip payload.displayName = [] then email else strip payload.displayName).take 160
    db.provision (clerkRow newId subject email name true (some clock.database) clock.database)
      (setFromReconcile email name clock.database)

/-! ## Principals -/

structure AuthenticatedPrincipal where
  subjectId : Str
  email : Str
  displayName : Str
  organizationId : Option Uuid
  roles : List Role
  permissions : List Str
  authenticationProvider : Str

/-- The first query of `_database_principal`. -/
def activeUser (subject : Str) (db : IdentityDb) : Except Failure UserRow :=
  match db.user subject with
  | none =>
      .error (.http 401
        "The authenticated identity has not been provisioned in SkillForge yet.")
  | some u =>
      if u.status ≠ .active then .error (.http 401 "The SkillForge account is not active.")
      else .ok u

/-- `ORDER BY role_slug`. -/
def IdentityDb.roleRows (userId : Uuid) (db : IdentityDb) : List Role :=
  (db.rolesOf userId).insertionSort fun a b => ¬b.value < a.value

/-- The second query, and the principal. `organization` is what the check of
the requested organization answers. -/
def principalOf (u : UserRow) (organization : Except Failure (Option Uuid)) (db : IdentityDb) :
    Except Failure AuthenticatedPrincipal :=
  let roles := db.roleRows u.id
  if roles = [] then .error (.http 401 "The SkillForge account has no assigned role.")
  else
    match organization with
    | .error e => .error e
    | .ok organizationId =>
        .ok ⟨u.identitySubject, u.email, u.displayName, organizationId, roles, permissionsOf roles,
          u.authProvider⟩

/-- `synchronize_local_user_roles`. -/
def IdentityDb.synchronizeRoles (userId : Uuid) (roles : List Role) (db : IdentityDb) : IdentityDb :=
  { db with roles := db.roles.filter (fun r => r.1 ≠ userId) ++ roles.map fun role => (userId, role) }

/-- `ensure_user`. -/
def ensureUser (p : AuthenticatedPrincipal) (newId : Uuid) (clock : Clock) (db : IdentityDb) :
    Except Failure (IdentityDb × Uuid) :=
  let row : UserRow := ⟨newId, p.subjectId, p.email, p.displayName, true, localOidc, .active, none,
    some clock.database, clock.database⟩
  match db.upsertUser row fun u =>
    { u with
      email := p.email
      displayName := p.displayName
      emailVerified := true
      lastLoginAt := some clock.database
      updatedAt := clock.database } with
  | .error e => .error e
  | .ok (db, userId) =>
      if p.authenticationProvider = localOidc then .ok (db.synchronizeRoles userId p.roles, userId)
      else .ok (db, userId)

/-! ## The system -/

/-- How far a request has come. -/
inductive RequestStage where
  | idle
  | found (u : UserRow)
  | authenticated (p : AuthenticatedPrincipal)

structure IdentityState where
  db : IdentityDb
  request : Nat → RequestStage

inductive IdentityAction (F : Type) where
  | deliver (externalEventId : Str) (payload : Dict F) (newId : Uuid) (clock : Clock)
  | reconcile (subject : Str) (payload : IdentityReconcileRequest) (newId : Uuid) (clock : Clock)
  | lookup (r : Nat) (subject : Str)
  | readRoles (r : Nat) (organization : Except Failure (Option Uuid))
  | ensure (r : Nat) (newId : Uuid) (clock : Clock)

def IdentityState.setRequest (s : IdentityState) (r : Nat) (stage : RequestStage) : IdentityState :=
  { s with request := Function.update s.request r stage }

/-- A transaction commits, or leaves the database. -/
def IdentityState.commit {α : Type} (s : IdentityState) (result : Except Failure (IdentityDb × α)) :
    IdentityState :=
  match result with
  | .ok (db, _) => { s with db := db }
  | .error _ => s

def IdentityState.next [FloatArith F] (lower : Str → Str) (s : IdentityState) :
    IdentityAction F → IdentityState
  | .deliver externalEventId payload newId clock =>
      s.commit (processClerkEvent externalEventId payload newId clock s.db)
  | .reconcile subject payload newId clock =>
      s.commit (reconcileClerkIdentity lower subject payload newId clock s.db)
  | .lookup r subject =>
      match activeUser subject s.db with
      | .ok u => s.setRequest r (.found u)
      | .error _ => s.setRequest r .idle
  | .readRoles r organization =>
      match s.request r with
      | .found u =>
          match principalOf u organization s.db with
          | .ok p => s.setRequest r (.authenticated p)
          | .error _ => s.setRequest r .idle
      | _ => s
  | .ensure r newId clock =>
      match s.request r with
      | .authenticated p => s.commit (ensureUser p newId clock s.db)
      | _ => s

def IdentityStep [FloatArith F] (lower : Str → Str) (s : IdentityState) (a : IdentityAction F)
    (t : IdentityState) : Prop :=
  t = s.next lower a

/-! ## What events say -/

/-- The subject of a user event, and whether its email is verified. -/
def saysVerified [FloatArith F] (payload : Dict F) : Option (Str × Bool) :=
  match member "type" payload, member "data" payload with
  | .str eventType, .obj data =>
      if eventType = "user.created" ∨ eventType = "user.updated" then
        match member "id" data with
        | .str subject => some (subject, (primaryEmail data).2)
        | _ => none
      else none
  | _, _ => none

/-- The subject that an event deletes. -/
def saysDeleted (payload : Dict F) : Option Str :=
  match member "type" payload, member "data" payload with
  | .str eventType, .obj data =>
      if eventType = "user.deleted" then
        match member "id" data with
        | .str subject => if subject = [] then none else some subject
        | _ => none
      else none
  | _, _ => none

/-- A delivery that is processed, and not a duplicate. -/
def Processes [FloatArith F] (x : Taken IdentityState (IdentityAction F)) (payload : Dict F) : Prop :=
  ∃ externalEventId newId clock db, x.label = .deliver externalEventId payload newId clock
    ∧ processClerkEvent externalEventId payload newId clock x.source.db = .ok (db, "processed")

/-- What a step says of a subject's email. -/
def saidBy [FloatArith F] (lower : Str → Str) (subject : Str)
    (x : Taken IdentityState (IdentityAction F)) : Option Bool :=
  match x.label with
  | .deliver externalEventId payload newId clock =>
      match processClerkEvent externalEventId payload newId clock x.source.db with
      | .ok (_, status) =>
          if status = "processed" then
            (saysVerified payload).bind fun said =>
              if said.1 = subject then some said.2 else none
          else none
      | .error _ => none
  | .reconcile subject' payload newId clock =>
      match reconcileClerkIdentity lower subject' payload newId clock x.source.db with
      | .ok _ => if subject' = subject then some true else none
      | .error _ => none
  | _ => none

/-- What the latest event or reconciliation of a run said, and before the
first one what the row says. -/
def lastSaid [FloatArith F] (lower : Str → Str) (subject : Str) (db : IdentityDb)
    (past : List (Taken IdentityState (IdentityAction F))) : Bool :=
  ((past.filterMap (saidBy lower subject)).getLast?).getD
    ((db.user subject).any UserRow.emailVerified)

/-- A user is deleted after it was created, and `ensure_user` runs while the
email is verified. -/
def InOrder [FloatArith F] (x : Taken IdentityState (IdentityAction F)) : Prop :=
  (∀ payload subject, Processes x payload → saysDeleted payload = some subject →
      (x.source.db.user subject).isSome = true)
    ∧ ∀ r newId clock p u, x.label = .ensure r newId clock →
      x.source.request r = .authenticated p → x.source.db.user p.subjectId = some u →
      u.emailVerified = true

/-! ## What a step keeps -/

def IdentityDb.verified (subject : Str) (db : IdentityDb) : Bool :=
  (db.user subject).any UserRow.emailVerified

def IdentityDb.Deleted (subject : Str) (db : IdentityDb) : Prop :=
  ∃ u, db.user subject = some u ∧ u.status = .deleted

def IdentityDb.External (db : IdentityDb) : Prop :=
  ∀ subject u, db.user subject = some u → u.authProvider ≠ localOidc

/-- What a transaction does to the users, where it says of emails what `said`
does. -/
structure IdentityKeeps (db db' : IdentityDb) (said : Str → Option Bool) : Prop where
  roles : ∀ userId, db'.rolesOf userId = db.rolesOf userId
    ∨ (db.rolesOf userId = [] ∧ db'.rolesOf userId = [.candidate])
  stays : ∀ subject, (db.user subject).isSome = true → (db'.user subject).isSome = true
  deleted : ∀ subject, db.Deleted subject → db'.Deleted subject
  external : db.External → db'.External
  verified : ∀ subject, db'.verified subject = (said subject).getD (db.verified subject)

theorem IdentityKeeps.refl (db : IdentityDb) : IdentityKeeps db db fun _ => none :=
  ⟨fun _ => .inl rfl, fun _ h => h, fun _ h => h, fun h => h, fun _ => rfl⟩

section Writes

variable {db db' : IdentityDb} {subject : Str} {row : UserRow} {f : UserRow → UserRow} {userId : Uuid}

theorem user_updateUser (hf : ∀ u, (f u).identitySubject = u.identitySubject) (subject' : Str) :
    (db.updateUser subject f).user subject'
      = if subject' = subject then (db.user subject').map f else db.user subject' := by
  have hfind : (db.updateUser subject f).user subject'
      = (db.user subject').map fun u => if u.identitySubject = subject then f u else u :=
    Tables.find_update hf
  rw [hfind]
  cases hu : db.user subject' with
  | none => rw [Option.map_none, Option.map_none, ite_self]
  | some u =>
      have hkey : u.identitySubject = subject' := Tables.key_of_find hu
      rw [Option.map_some, Option.map_some, hkey]
      split_ifs <;> rfl

/-- What an upsert leaves. -/
theorem upsertUser_ok (hf : ∀ u, (f u).identitySubject = u.identitySubject)
    (h : db.upsertUser row f = .ok (db', userId)) :
    (∀ subject', db'.user subject' = if subject' = row.identitySubject
        then some ((db.user row.identitySubject).elim row f) else db.user subject')
      ∧ db'.roles = db.roles := by
  unfold IdentityDb.upsertUser at h
  cases hu : db.user row.identitySubject with
  | some u =>
      rw [hu] at h
      cases h
      refine ⟨fun subject' => ?_, rfl⟩
      rw [user_updateUser hf]
      split_ifs with hsubject
      · rw [hsubject, hu]
        rfl
      · rfl
  | none =>
      rw [hu] at h
      dsimp only at h
      split_ifs at h
      cases h
      refine ⟨fun subject' => ?_, rfl⟩
      unfold IdentityDb.user Tables.find at hu ⊢
      rw [List.find?_append]
      by_cases hsubject : subject' = row.identitySubject
      · subst hsubject
        rw [hu, if_pos rfl, List.find?_cons_of_pos (by simp)]
        rfl
      · rw [if_neg hsubject, List.find?_cons_of_neg (by simpa using Ne.symm hsubject),
          List.find?_nil, Option.or_none]

/-- The users are as they were, but for one row. -/
theorem IdentityKeeps.of_user (subject : Str) (u' : UserRow) {said : Str → Option Bool}
    (hroles : ∀ userId, db'.rolesOf userId = db.rolesOf userId
      ∨ (db.rolesOf userId = [] ∧ db'.rolesOf userId = [.candidate]))
    (huser : ∀ subject', db'.user subject' = if subject' = subject then some u' else db.user subject')
    (hdeleted : db.Deleted subject → u'.status = .deleted)
    (hexternal : db.External → u'.authProvider ≠ localOidc)
    (hsaid : ∀ subject', said subject' = if subject' = subject then some u'.emailVerified else none) :
    IdentityKeeps db db' said := by
  refine ⟨hroles, fun subject' hsome => ?_, fun subject' hdel => ?_, fun hext subject' u hu => ?_,
    fun subject' => ?_⟩
  · rw [huser]
    split_ifs
    · rfl
    · exact hsome
  · unfold IdentityDb.Deleted
    rw [huser]
    split_ifs with hsubject
    · exact ⟨u', rfl, hdeleted (hsubject ▸ hdel)⟩
    · exact hdel
  · rw [huser] at hu
    split_ifs at hu with hsubject
    · cases hu
      exact hexternal hext
    · exact hext subject' u hu
  · unfold IdentityDb.verified
    rw [huser, hsaid]
    split_ifs <;> rfl

theorem rolesOf_grantCandidate (userId userId' : Uuid) :
    (db.grantCandidate userId).rolesOf userId' = db.rolesOf userId'
      ∨ (db.rolesOf userId' = [] ∧ (db.grantCandidate userId).rolesOf userId' = [.candidate]) := by
  unfold IdentityDb.grantCandidate
  split_ifs with hnone
  · by_cases hid : userId = userId'
    · subst hid
      refine .inr ⟨hnone, ?_⟩
      unfold IdentityDb.rolesOf at hnone ⊢
      rw [List.filter_append, List.map_append, hnone, List.filter_cons_of_pos (by simp)]
      rfl
    · refine .inl ?_
      unfold IdentityDb.rolesOf
      rw [List.filter_append, List.filter_cons_of_neg (by simpa using hid), List.filter_nil,
        List.append_nil]
  · exact .inl rfl

/-- An upsert that sets the email, with the role of a candidate. -/
theorem provision_ok (hf : ∀ u, (f u).identitySubject = u.identitySubject)
    (hdeleted : ∀ u, u.status = .deleted → (f u).status = .deleted)
    (hprovider : row.authProvider = clerk ∧ ∀ u, (f u).authProvider = clerk)
    (hverified : ∀ u, (f u).emailVerified = row.emailVerified)
    (h : db.provision row f = .ok (db', userId)) :
    IdentityKeeps db db' fun subject' =>
      if row.identitySubject = subject' then some row.emailVerified else none := by
  unfold IdentityDb.provision at h
  cases hupsert : db.upsertUser row f with
  | error e =>
      rw [hupsert] at h
      cases h
  | ok result =>
      obtain ⟨db₁, id₁⟩ := result
      rw [hupsert] at h
      cases h
      obtain ⟨huser, hroles⟩ := upsertUser_ok hf hupsert
      have hrolesOf : ∀ id, db₁.rolesOf id = db.rolesOf id := fun id => by
        unfold IdentityDb.rolesOf
        rw [hroles]
      have hpreferences : ∀ db : IdentityDb, (db.addPreferences userId).users = db.users
          ∧ (db.addPreferences userId).roles = db.roles := fun db => by
        unfold IdentityDb.addPreferences
        split_ifs <;> exact ⟨rfl, rfl⟩
      have hgranted : (db₁.grantCandidate userId).users = db₁.users := by
        unfold IdentityDb.grantCandidate
        split_ifs <;> rfl
      refine .of_user row.identitySubject ((db.user row.identitySubject).elim row f)
        (fun id => ?_) (fun subject' => ?_)
        (fun hdel => ?_) (fun _ => ?_) fun subject' => ?_
      · have hrole : (db₁.grantCandidate userId).rolesOf id = db₁.rolesOf id
            ∨ (db₁.rolesOf id = [] ∧ (db₁.grantCandidate userId).rolesOf id = [.candidate]) :=
          rolesOf_grantCandidate userId id
        rw [hrolesOf] at hrole
        unfold IdentityDb.rolesOf at hrole ⊢
        rw [(hpreferences _).2]
        exact hrole
      · rw [← huser]
        unfold IdentityDb.user
        rw [(hpreferences _).1, hgranted]
      · obtain ⟨u, hu, hstatus⟩ := hdel
        rw [hu]
        exact hdeleted u hstatus
      · have hclerk : ((db.user row.identitySubject).elim row f).authProvider = clerk := by
          cases db.user row.identitySubject with
          | none => exact hprovider.1
          | some u => exact hprovider.2 u
        rw [hclerk]
        decide
      · have htold : ((db.user row.identitySubject).elim row f).emailVerified = row.emailVerified := by
          cases db.user row.identitySubject with
          | none => rfl
          | some u => exact hverified u
        rw [htold]
        exact if_congr eq_comm rfl rfl

/-- An update that leaves the email and the provider. -/
theorem updateUser_ok (hf : ∀ u, (f u).identitySubject = u.identitySubject)
    (hdeleted : ∀ u, u.status = .deleted → (f u).status = .deleted)
    (hprovider : ∀ u, (f u).authProvider = u.authProvider)
    (hverified : ∀ u, (f u).emailVerified = u.emailVerified) :
    IdentityKeeps db (db.updateUser subject f) fun _ => none := by
  refine ⟨fun _ => .inl rfl, fun subject' hsome => ?_, fun subject' hdel => ?_,
    fun hext subject' u hu => ?_, fun subject' => ?_⟩
  · rw [user_updateUser hf]
    split_ifs
    · rw [Option.isSome_map]
      exact hsome
    · exact hsome
  · obtain ⟨u, hu, hstatus⟩ := hdel
    unfold IdentityDb.Deleted
    rw [user_updateUser hf, hu]
    split_ifs
    · exact ⟨f u, rfl, hdeleted u hstatus⟩
    · exact ⟨u, rfl, hstatus⟩
  · rw [user_updateUser hf] at hu
    split_ifs at hu
    · obtain ⟨u₀, hu₀, rfl⟩ := Option.map_eq_some_iff.mp hu
      rw [hprovider]
      exact hext subject' u₀ hu₀
    · exact hext subject' u hu
  · unfold IdentityDb.verified
    rw [user_updateUser hf]
    split_ifs
    · cases db.user subject' with
      | none => rfl
      | some u => exact hverified u
    · rfl

end Writes

section Steps

variable [FloatArith F] {lower : Str → Str} {db db' : IdentityDb} {newId userId : Uuid} {clock : Clock}

/-- What an event with this type and these data says. -/
def saidOf (eventType : Str) (data : Dict F) (subject : Str) : Option Bool :=
  if eventType = "user.created" ∨ eventType = "user.updated" then
    match member "id" data with
    | .str subject' => if subject' = subject then some (primaryEmail data).2 else none
    | _ => none
  else none

theorem login_ok (logins : List LoginEvent) (subject : Str) (now : Time) :
    IdentityKeeps db (({ db with logins := logins } : IdentityDb).updateUser subject fun u =>
      { u with lastLoginAt := some now }) fun _ => none := by
  have hkeeps : IdentityKeeps ({ db with logins := logins } : IdentityDb)
      (({ db with logins := logins } : IdentityDb).updateUser subject fun u =>
        { u with lastLoginAt := some now }) fun _ => none :=
    updateUser_ok (fun _ => rfl) (fun _ hdel => hdel) (fun _ => rfl) fun _ => rfl
  exact ⟨hkeeps.roles, hkeeps.stays, hkeeps.deleted, hkeeps.external, hkeeps.verified⟩

theorem applyClerkEvent_ok {eventType : Str} {data : Dict F} {status : Str}
    (h : applyClerkEvent eventType data newId clock db = .ok (db', status)) :
    IdentityKeeps db db' (saidOf eventType data)
      ∧ (status = "processed" ∨ (status = "ignored" ∧ saidOf eventType data = fun _ => none))
      ∧ (eventType = "user.deleted" → ∀ subject, member "id" data = .str subject → subject ≠ [] →
        (db.user subject).isSome = true → db'.Deleted subject) := by
  unfold applyClerkEvent at h
  by_cases huser : eventType = "user.created" ∨ eventType = "user.updated"
  · have hsaid : saidOf eventType data = fun subject =>
        match member "id" data with
        | .str subject' => if subject' = subject then some (primaryEmail data).2 else none
        | _ => none := funext fun subject => if_pos huser
    have hnot : eventType ≠ "user.deleted" := by
      rcases huser with rfl | rfl
      · decide
      · decide
    rw [if_pos huser] at h
    rw [hsaid]
    refine ⟨?_, ?_, fun heq => absurd heq hnot⟩
    all_goals
      split at h
      · rename_i subject hsubject
        dsimp only at h
        split_ifs at h with hmissing
        split at h
        · cases h
        · rename_i db₁ id₁ hprovision
          cases h
          first
            | exact .inl rfl
            | exact provision_ok (by exact fun _ => rfl) (by exact fun _ hdel => hdel)
                ⟨rfl, by exact fun _ => rfl⟩ (by exact fun _ => rfl) hprovision
      · cases h
  · have hsaid : saidOf eventType data = fun _ => none := funext fun subject => if_neg huser
    rw [if_neg huser] at h
    rw [hsaid]
    split_ifs at h with hdeleted hsession
    · split at h
      · rename_i subject hsubject
        split_ifs at h with hempty
        · cases h
          refine ⟨.refl db, .inl rfl, fun _ subject' hsubject' hne => ?_⟩
          cases hsubject.symm.trans hsubject'
          exact absurd hempty hne
        · cases h
          refine ⟨updateUser_ok (by exact fun _ => rfl) (by exact fun _ _ => rfl)
            (by exact fun _ => rfl) (by exact fun _ => rfl), .inl rfl,
            fun _ subject' hsubject' _ hsome => ?_⟩
          cases hsubject.symm.trans hsubject'
          obtain ⟨u, hu⟩ := Option.isSome_iff_exists.mp hsome
          refine ⟨{ u with
            status := .deleted
            deletedAt := some clock.database
            updatedAt := clock.database }, ?_, rfl⟩
          rw [user_updateUser (by exact fun _ => rfl), if_pos rfl, hu]
          rfl
      · rename_i hsubject
        cases h
        exact ⟨.refl db, .inl rfl, fun _ subject' hsubject' => absurd hsubject' (hsubject subject')⟩
    · refine ⟨?_, ?_, fun heq => absurd heq hdeleted⟩
      all_goals
        split at h
        · split_ifs at h with hempty
          · cases h
            first
              | exact .inl rfl
              | exact .refl db
          · cases h
            first
              | exact .inl rfl
              | exact login_ok _ _ _
        · cases h
          first
            | exact .inl rfl
            | exact .refl db
    · cases h
      exact ⟨.refl db, .inr ⟨rfl, rfl⟩, fun heq => absurd heq hdeleted⟩

theorem saidOf_eq {payload data : Dict F} {eventType subject : Str}
    (htype : member "type" payload = .str eventType) (hdata : member "data" payload = .obj data) :
    ((saysVerified payload).bind fun said => if said.1 = subject then some said.2 else none)
      = saidOf eventType data subject := by
  unfold saysVerified saidOf
  rw [htype, hdata]
  dsimp only
  split_ifs
  · cases member "id" data <;> rfl
  · rfl

theorem processClerkEvent_ok {externalEventId : Str} {payload : Dict F} {status : Str}
    (h : processClerkEvent externalEventId payload newId clock db = .ok (db', status)) :
    IdentityKeeps db db' (fun subject => if status = "processed" then
        (saysVerified payload).bind fun said => if said.1 = subject then some said.2 else none
      else none)
      ∧ (status = "processed" → ∀ subject, saysDeleted payload = some subject →
        (db.user subject).isSome = true → db'.Deleted subject) := by
  unfold processClerkEvent at h
  split at h
  · rename_i eventType data htype hdata
    split_ifs at h with hduplicate
    · cases h
      exact ⟨.refl db, fun heq => absurd heq (by decide)⟩
    · dsimp only at h
      split at h
      · cases h
      · rename_i db₁ status₁ happly
        cases h
        obtain ⟨hkeeps, hstatus, hdeletes⟩ := applyClerkEvent_ok happly
        have hsaid : (fun subject => if status = "processed" then
            (saysVerified payload).bind fun said => if said.1 = subject then some said.2 else none
            else none) = saidOf eventType data := by
          funext subject
          rw [saidOf_eq htype hdata]
          rcases hstatus with rfl | ⟨rfl, hnone⟩
          · exact if_pos rfl
          · rw [hnone]
            exact if_neg (by decide)
        rw [hsaid]
        refine ⟨⟨hkeeps.roles, hkeeps.stays, hkeeps.deleted, hkeeps.external, hkeeps.verified⟩,
          fun _ subject hsubject hsome => ?_⟩
        unfold saysDeleted at hsubject
        rw [htype, hdata] at hsubject
        dsimp only at hsubject
        split_ifs at hsubject with hdeleted
        split at hsubject
        · rename_i subject' hid
          split_ifs at hsubject with hempty
          cases hsubject
          exact hdeletes hdeleted subject hid hempty hsome
        · cases hsubject
  · cases h

theorem reconcile_ok {subject : Str} {payload : IdentityReconcileRequest}
    (h : reconcileClerkIdentity lower subject payload newId clock db = .ok (db', userId)) :
    IdentityKeeps db db' fun subject' => if subject = subject' then some true else none := by
  unfold reconcileClerkIdentity at h
  split_ifs at h <;>
    exact provision_ok (by exact fun _ => rfl) (by exact fun _ hdel => hdel)
      ⟨rfl, by exact fun _ => rfl⟩ (by exact fun _ => rfl) h

/-- `ensure_user` of a user that exists, and whose email is verified. -/
theorem ensureUser_ok {p : AuthenticatedPrincipal} {u : UserRow}
    (hexternal : p.authenticationProvider ≠ localOidc) (hu : db.user p.subjectId = some u)
    (hverified : u.emailVerified = true)
    (h : ensureUser p newId clock db = .ok (db', userId)) :
    IdentityKeeps db db' fun _ => none := by
  unfold ensureUser at h
  dsimp only at h
  split at h
  · cases h
  · rename_i db₁ id₁ hupsert
    rw [if_neg hexternal] at h
    cases h
    obtain ⟨huser, hroles⟩ := upsertUser_ok (by exact fun _ => rfl) hupsert
    rw [hu] at huser
    have hkeeps : IdentityKeeps db db' fun subject' =>
        if subject' = p.subjectId then some true else none := by
      refine .of_user p.subjectId _ (fun id => .inl ?_) huser (fun hdel => ?_) (fun hext => hext p.subjectId u hu)
        fun _ => rfl
      · unfold IdentityDb.rolesOf
        rw [hroles]
      · obtain ⟨u', hu', hstatus⟩ := hdel
        cases hu.symm.trans hu'
        exact hstatus
    refine ⟨hkeeps.roles, hkeeps.stays, hkeeps.deleted, hkeeps.external, fun subject' => ?_⟩
    rw [hkeeps.verified]
    split_ifs with hsubject
    · unfold IdentityDb.verified
      rw [hsubject, hu]
      exact hverified.symm
    · rfl

end Steps

/-! ## Runs -/

section Histories

variable [FloatArith F] {lower : Str → Str}

/-- The lookup of a request that found an active user. -/
def FoundActive (past : List (Taken IdentityState (IdentityAction F))) (r : Nat) (u : UserRow) :
    Prop :=
  ∃ x ∈ past, x.label = .lookup r u.identitySubject
    ∧ x.source.db.user u.identitySubject = some u ∧ u.status = .active

/-- The principal has the roles that the database had for the active user. -/
def Authentic (past : List (Taken IdentityState (IdentityAction F))) (r : Nat)
    (p : AuthenticatedPrincipal) : Prop :=
  ∃ u, FoundActive past r u ∧ p.subjectId = u.identitySubject
    ∧ p.permissions = permissionsOf p.roles
    ∧ ∃ x ∈ past, (∃ organization, x.label = .readRoles r organization)
      ∧ p.roles = x.source.db.roleRows u.id

structure IdentityHistory (lower : Str → Str) (start : IdentityDb)
    (past : List (Taken IdentityState (IdentityAction F))) (s : IdentityState) : Prop where
  external : s.db.External
  verified : ∀ subject, s.db.verified subject = lastSaid lower subject start past
  deleted : ∀ x ∈ past, ∀ payload subject, Processes x payload →
    saysDeleted payload = some subject → s.db.Deleted subject
  found : ∀ r u, s.request r = .found u → (s.db.user u.identitySubject).isSome = true
    ∧ u.authProvider ≠ localOidc ∧ FoundActive past r u
  authenticated : ∀ r p, s.request r = .authenticated p → (s.db.user p.subjectId).isSome = true
    ∧ p.authenticationProvider ≠ localOidc ∧ Authentic past r p
  roles : ∀ x ∈ past, ∀ userId, x.target.db.rolesOf userId = x.source.db.rolesOf userId
    ∨ (x.source.db.rolesOf userId = [] ∧ x.target.db.rolesOf userId = [.candidate])

variable {past : List (Taken IdentityState (IdentityAction F))}
  {x : Taken IdentityState (IdentityAction F)} {start : IdentityDb}

omit [FloatArith F] in
theorem FoundActive.snoc {r : Nat} {u : UserRow} (h : FoundActive past r u) :
    FoundActive (past ++ [x]) r u := by
  obtain ⟨y, hy, hfound⟩ := h
  exact ⟨y, List.mem_append_left _ hy, hfound⟩

omit [FloatArith F] in
theorem Authentic.snoc {r : Nat} {p : AuthenticatedPrincipal} (h : Authentic past r p) :
    Authentic (past ++ [x]) r p := by
  obtain ⟨u, hfound, hsubject, hpermissions, y, hy, hroles⟩ := h
  exact ⟨u, hfound.snoc, hsubject, hpermissions, y, List.mem_append_left _ hy, hroles⟩

theorem lastSaid_snoc (subject : Str) :
    lastSaid lower subject start (past ++ [x])
      = (saidBy lower subject x).getD (lastSaid lower subject start past) := by
  unfold lastSaid
  rw [List.filterMap_append, List.filterMap_cons, List.filterMap_nil]
  cases saidBy lower subject x with
  | none => rw [List.append_nil]; rfl
  | some said => rw [List.getLast?_concat]; rfl

/-- A step that keeps what a transaction keeps, and the requests. -/
theorem IdentityHistory.committed (h : IdentityHistory lower start past x.source)
    (hkeeps : IdentityKeeps x.source.db x.target.db fun subject => saidBy lower subject x)
    (hrequest : x.target.request = x.source.request)
    (hdeletes : ∀ payload subject, Processes x payload → saysDeleted payload = some subject →
      x.target.db.Deleted subject) :
    IdentityHistory lower start (past ++ [x]) x.target := by
  refine ⟨hkeeps.external h.external, fun subject => ?_, fun y hy payload subject hprocesses htold => ?_,
    fun r u hr => ?_, fun r p hr => ?_, fun y hy userId => ?_⟩
  · rw [lastSaid_snoc, hkeeps.verified, h.verified]
  · rcases List.mem_append.mp hy with hy | hy
    · exact hkeeps.deleted subject (h.deleted y hy payload subject hprocesses htold)
    · cases List.mem_singleton.mp hy
      exact hdeletes payload subject hprocesses htold
  · rw [hrequest] at hr
    obtain ⟨hsome, hprovider, hfound⟩ := h.found r u hr
    exact ⟨hkeeps.stays _ hsome, hprovider, hfound.snoc⟩
  · rw [hrequest] at hr
    obtain ⟨hsome, hprovider, hauthentic⟩ := h.authenticated r p hr
    exact ⟨hkeeps.stays _ hsome, hprovider, hauthentic.snoc⟩
  · rcases List.mem_append.mp hy with hy | hy
    · exact h.roles y hy userId
    · cases List.mem_singleton.mp hy
      exact hkeeps.roles userId

/-- A step of a request that only reads. -/
theorem IdentityHistory.asked (h : IdentityHistory lower start past x.source) {r : Nat}
    (stage : RequestStage) (hreads : (∃ subject, x.label = .lookup r subject)
      ∨ ∃ organization, x.label = .readRoles r organization)
    (htarget : x.target = x.source.setRequest r stage)
    (hfound : ∀ u, stage = .found u → (x.source.db.user u.identitySubject).isSome = true
      ∧ u.authProvider ≠ localOidc ∧ FoundActive (past ++ [x]) r u)
    (hauthenticated : ∀ p, stage = .authenticated p →
      (x.source.db.user p.subjectId).isSome = true ∧ p.authenticationProvider ≠ localOidc
        ∧ Authentic (past ++ [x]) r p) :
    IdentityHistory lower start (past ++ [x]) x.target := by
  have hsaid : ∀ subject, saidBy lower subject x = none := fun subject => by
    unfold saidBy
    rcases hreads with ⟨subject', hlabel⟩ | ⟨organization, hlabel⟩
    · rw [hlabel]
    · rw [hlabel]
  have hprocesses : ∀ payload, ¬Processes x payload := by
    rintro payload ⟨externalEventId, newId, clock, db, hdeliver, -⟩
    rcases hreads with ⟨subject', hlabel⟩ | ⟨organization, hlabel⟩
    · cases hlabel.symm.trans hdeliver
    · cases hlabel.symm.trans hdeliver
  have hdb : x.target.db = x.source.db := by rw [htarget]; rfl
  have hrequest : ∀ r', x.target.request r' = if r' = r then stage else x.source.request r' :=
    fun r' => by
      rw [htarget]
      exact Function.update_apply ..
  refine ⟨hdb ▸ h.external, fun subject => ?_, fun y hy payload subject hy' htold => ?_,
    fun r' u hr => ?_, fun r' p hr => ?_, fun y hy userId => ?_⟩
  · rw [lastSaid_snoc, hsaid, hdb, h.verified]
    rfl
  · rcases List.mem_append.mp hy with hy | hy
    · exact hdb ▸ h.deleted y hy payload subject hy' htold
    · cases List.mem_singleton.mp hy
      exact absurd hy' (hprocesses payload)
  · rw [hrequest] at hr
    rw [hdb]
    split_ifs at hr with hr'
    · exact hr' ▸ hfound u hr
    · obtain ⟨hsome, hprovider, hfound'⟩ := h.found r' u hr
      exact ⟨hsome, hprovider, hfound'.snoc⟩
  · rw [hrequest] at hr
    rw [hdb]
    split_ifs at hr with hr'
    · exact hr' ▸ hauthenticated p hr
    · obtain ⟨hsome, hprovider, hauthentic⟩ := h.authenticated r' p hr
      exact ⟨hsome, hprovider, hauthentic.snoc⟩
  · rcases List.mem_append.mp hy with hy | hy
    · exact h.roles y hy userId
    · cases List.mem_singleton.mp hy
      rw [hdb]
      exact .inl rfl

theorem activeUser_ok {subject : Str} {db : IdentityDb} {u : UserRow}
    (h : activeUser subject db = .ok u) :
    db.user subject = some u ∧ u.status = .active ∧ u.identitySubject = subject := by
  unfold activeUser at h
  cases hu : db.user subject with
  | none =>
      rw [hu] at h
      cases h
  | some u' =>
      rw [hu] at h
      dsimp only at h
      split_ifs at h with hstatus
      cases h
      exact ⟨rfl, not_not.mp hstatus, Tables.key_of_find hu⟩

theorem principalOf_ok {u : UserRow} {organization : Except Failure (Option Uuid)} {db : IdentityDb}
    {p : AuthenticatedPrincipal} (h : principalOf u organization db = .ok p) :
    p.subjectId = u.identitySubject ∧ p.roles = db.roleRows u.id
      ∧ p.permissions = permissionsOf p.roles ∧ p.authenticationProvider = u.authProvider := by
  unfold principalOf at h
  dsimp only at h
  split_ifs at h with hroles
  cases organization with
  | error e => cases h
  | ok organizationId =>
      cases h
      exact ⟨rfl, rfl, rfl, rfl⟩

theorem IdentityHistory.step (h : IdentityHistory lower start past x.source)
    (hstep : IdentityStep lower x.source x.label x.target) (horder : InOrder x) :
    IdentityHistory lower start (past ++ [x]) x.target := by
  obtain ⟨s, a, t⟩ := x
  unfold IdentityStep at hstep
  dsimp only at hstep h
  subst hstep
  cases a with
  | deliver externalEventId payload newId clock =>
      cases hprocess : processClerkEvent externalEventId payload newId clock s.db with
      | error e =>
          have hnext : s.next lower (.deliver externalEventId payload newId clock) = s := by
            dsimp only [IdentityState.next, IdentityState.commit]
            rw [hprocess]
          rw [hnext]
          refine h.committed ?_ rfl fun payload' subject hprocesses => ?_
          · have hsaid : ∀ subject, saidBy lower subject
                ⟨s, .deliver externalEventId payload newId clock, s⟩ = none := fun subject => by
              unfold saidBy
              dsimp only
              rw [hprocess]
            simp only [hsaid]
            exact .refl s.db
          · obtain ⟨_, _, _, db, hlabel, hok⟩ := hprocesses
            cases hlabel
            cases hprocess.symm.trans hok
      | ok result =>
          obtain ⟨db, status⟩ := result
          have hnext : s.next lower (.deliver externalEventId payload newId clock)
              = { s with db := db } := by
            dsimp only [IdentityState.next, IdentityState.commit]
            rw [hprocess]
          rw [hnext] at horder ⊢
          obtain ⟨hkeeps, hdeletes⟩ := processClerkEvent_ok hprocess
          refine h.committed ?_ rfl fun payload' subject hprocesses htold => ?_
          · have hsaid : ∀ subject, saidBy lower subject
                ⟨s, .deliver externalEventId payload newId clock, { s with db := db }⟩
                = if status = "processed" then
                    (saysVerified payload).bind fun said => if said.1 = subject then some said.2 else none
                  else none := fun subject => by
              unfold saidBy
              dsimp only
              rw [hprocess]
            simp only [hsaid]
            exact hkeeps
          · have hsome := horder.1 payload' subject hprocesses htold
            obtain ⟨_, _, _, db', hlabel, hok⟩ := hprocesses
            cases hlabel
            cases hprocess.symm.trans hok
            exact hdeletes rfl subject htold hsome
  | reconcile subject payload newId clock =>
      have hnot : ∀ (t : IdentityState) payload',
          ¬Processes (⟨s, .reconcile subject payload newId clock, t⟩ :
            Taken IdentityState (IdentityAction F)) payload' := by
        rintro t payload' ⟨_, _, _, _, hlabel, -⟩
        cases hlabel
      refine h.committed ?_ ?_ fun payload' subject' hprocesses => absurd hprocesses (hnot _ payload')
      all_goals
        dsimp only [IdentityState.next, IdentityState.commit]
        cases hreconcile : reconcileClerkIdentity lower subject payload newId clock s.db with
        | error e =>
            first
              | rfl
              | dsimp only [saidBy]
                simp only [hreconcile]
                exact .refl s.db
        | ok result =>
            obtain ⟨db, userId⟩ := result
            first
              | rfl
              | dsimp only [saidBy]
                simp only [hreconcile]
                exact reconcile_ok hreconcile
  | lookup r subject =>
      cases hactive : activeUser subject s.db with
      | error e =>
          refine h.asked .idle (.inl ⟨subject, rfl⟩) ?_ (fun u hu => nomatch hu)
            fun p hp => nomatch hp
          dsimp only [IdentityState.next]
          rw [hactive]
      | ok u =>
          obtain ⟨hu, hstatus, hsubject⟩ := activeUser_ok hactive
          have htarget : s.next lower (.lookup r subject : IdentityAction F)
              = s.setRequest r (.found u) := by
            dsimp only [IdentityState.next]
            rw [hactive]
          rw [htarget]
          refine h.asked _ (.inl ⟨subject, rfl⟩) rfl (fun u' hu' => ?_) fun p hp => nomatch hp
          cases hu'
          rw [hsubject]
          refine ⟨by rw [hu]; rfl, h.external subject u hu, _,
            List.mem_append_right _ (List.mem_singleton_self _), ?_, ?_, hstatus⟩
          · rw [hsubject]
          · rw [hsubject]
            exact hu
  | readRoles r organization =>
      cases hstage : s.request r with
      | found u =>
          obtain ⟨hsome, hprovider, hfound⟩ := h.found r u hstage
          cases hprincipal : principalOf u organization s.db with
          | error e =>
              refine h.asked .idle (.inr ⟨organization, rfl⟩) ?_ (fun u hu => nomatch hu)
                fun p hp => nomatch hp
              dsimp only [IdentityState.next]
              rw [hstage]
              dsimp only
              rw [hprincipal]
          | ok p =>
              obtain ⟨hsubject, hroles, hpermissions, hauth⟩ := principalOf_ok hprincipal
              have htarget : s.next lower (.readRoles r organization : IdentityAction F)
                  = s.setRequest r (.authenticated p) := by
                dsimp only [IdentityState.next]
                rw [hstage]
                dsimp only
                rw [hprincipal]
              rw [htarget]
              refine h.asked _ (.inr ⟨organization, rfl⟩) rfl (fun u' hu' => nomatch hu') fun p' hp' => ?_
              cases hp'
              exact ⟨hsubject ▸ hsome, hauth ▸ hprovider, u, hfound.snoc, hsubject, hpermissions, _,
                List.mem_append_right _ (List.mem_singleton_self _), ⟨organization, rfl⟩, hroles⟩
      | idle =>
          have htarget : s.next lower (.readRoles r organization : IdentityAction F) = s := by
            dsimp only [IdentityState.next]
            rw [hstage]
          rw [htarget]
          refine h.committed ?_ rfl ?_
          · exact .refl s.db
          · rintro payload subject ⟨_, _, _, _, hlabel, -⟩
            cases hlabel
      | authenticated p =>
          have htarget : s.next lower (.readRoles r organization : IdentityAction F) = s := by
            dsimp only [IdentityState.next]
            rw [hstage]
          rw [htarget]
          refine h.committed ?_ rfl ?_
          · exact .refl s.db
          · rintro payload subject ⟨_, _, _, _, hlabel, -⟩
            cases hlabel
  | ensure r newId clock =>
      refine h.committed ?_ ?_ ?_
      · cases hstage : s.request r with
        | idle =>
            dsimp only [IdentityState.next, saidBy]
            rw [hstage]
            exact .refl s.db
        | found u =>
            dsimp only [IdentityState.next, saidBy]
            rw [hstage]
            exact .refl s.db
        | authenticated p =>
            obtain ⟨hsome, hprovider, -⟩ := h.authenticated r p hstage
            obtain ⟨u, hu⟩ := Option.isSome_iff_exists.mp hsome
            have hverified := horder.2 r newId clock p u rfl hstage hu
            dsimp only [IdentityState.next, saidBy]
            rw [hstage]
            dsimp only [IdentityState.commit]
            cases hensure : ensureUser p newId clock s.db with
            | error e => exact .refl s.db
            | ok result => exact ensureUser_ok hprovider hu hverified hensure
      · dsimp only [IdentityState.next]
        split
        · unfold IdentityState.commit
          split <;> rfl
        · rfl
      · rintro payload subject ⟨_, _, _, _, hlabel, -⟩
        cases hlabel

end Histories

section Actions

variable [FloatArith F] {lower : Str → Str}

def IdentityState.after (lower : Str → Str) (s : IdentityState) (actions : List (IdentityAction F)) :
    IdentityState :=
  actions.foldl (IdentityState.next lower) s

def IdentityState.takes (lower : Str → Str) (s : IdentityState) :
    List (IdentityAction F) → List (Taken IdentityState (IdentityAction F))
  | [] => []
  | a :: rest => ⟨s, a, s.next lower a⟩ :: (s.next lower a).takes lower rest

theorem run_takes (s : IdentityState) (actions : List (IdentityAction F)) :
    Run (IdentityStep lower) s (s.takes lower actions) (s.after lower actions) := by
  induction actions generalizing s with
  | nil => exact .nil s
  | cons a rest ih => exact .cons rfl (ih (s.next lower a))

variable {s t : IdentityState}

theorem inOrder_deliver {externalEventId : Str} {payload : Dict F} {newId : Uuid} {clock : Clock}
    (h : ∀ subject, saysDeleted payload = some subject → (s.db.user subject).isSome = true) :
    InOrder ⟨s, .deliver externalEventId payload newId clock, t⟩ := by
  refine ⟨?_, fun r newId clock p u hlabel => nomatch hlabel⟩
  rintro payload' subject ⟨_, _, _, _, hlabel, -⟩ htold
  cases hlabel
  exact h subject htold

theorem inOrder_lookup {r : Nat} {subject : Str} :
    InOrder (⟨s, .lookup r subject, t⟩ : Taken IdentityState (IdentityAction F)) := by
  refine ⟨?_, fun r newId clock p u hlabel => nomatch hlabel⟩
  rintro payload' subject ⟨_, _, _, _, hlabel, -⟩
  cases hlabel

theorem inOrder_readRoles {r : Nat} {organization : Except Failure (Option Uuid)} :
    InOrder (⟨s, .readRoles r organization, t⟩ : Taken IdentityState (IdentityAction F)) := by
  refine ⟨?_, fun r newId clock p u hlabel => nomatch hlabel⟩
  rintro payload' subject ⟨_, _, _, _, hlabel, -⟩
  cases hlabel

end Actions

def userEvent (eventType verification : Str) : Dict NanoFloat :=
  [("type", .str eventType), ("data", .obj [("id", .str "zoe"),
    ("email_addresses", .arr [.obj [("email_address", .str "zoe@example.org"),
      ("verification", .obj [("status", .str verification)])]])])]

def identityStart : IdentityState := ⟨⟨[], [], [], [], []⟩, fun _ => .idle⟩

def zoeCreated (verification : Str) : IdentityAction NanoFloat :=
  .deliver "event-1" (userEvent "user.created" verification) "user-1" ⟨1, 1⟩

def zoeDeleted : IdentityAction NanoFloat :=
  .deliver "event-2" (userEvent "user.deleted" "") "user-2" ⟨2, 2⟩

/-- Created, authenticated, deleted, and looked up again. -/
def zoeLeaves : List (IdentityAction NanoFloat) :=
  [zoeCreated "verified", .lookup 0 "zoe", .readRoles 0 (.ok none), zoeDeleted, .lookup 1 "zoe"]

/-- Deleted before it is created, with an email that is not verified. -/
def zoeReturns : List (IdentityAction NanoFloat) :=
  [zoeDeleted, zoeCreated "unverified", .lookup 0 "zoe", .readRoles 0 (.ok none),
    .ensure 0 "user-3" ⟨3, 3⟩]

end Rigor
