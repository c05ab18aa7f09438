import SocAnalyst.AuthSessions
import SocAnalyst.Tickets
import SocAnalyst.Values

/-!
# Logins, roles and access tokens

The OIDC login of `backend/api/routes/auth.py` with `auth/oidc.py`, `auth/provisioning.py`
and `auth/rbac.py`, over the sessions of `auth/sessions.py`. A login transaction is taken
out of the store by one callback, an id token counts where it names the transaction's
nonce, and what a person may do is what the role of their token grants. The identity
provider answers with whatever it likes; what it signs is a parameter.
-/
namespace SocAnalyst.Logins
open SocAnalyst.Builtins SocAnalyst.Values SocAnalyst.Runs
open SocAnalyst.AuthSessions (SessionRecord Rotated)
open SocAnalyst.Tickets (Exclusive)

/-! ### Roles and capabilities -/

/-- RBAC roles. -/
inductive UserRole where
  | ANALYST
  | SENIOR_ANALYST
  | MANAGER
  | ADMIN
  | AUDITOR
  deriving DecidableEq, Repr

def UserRole.value : UserRole → Text
  | .ANALYST => lit "analyst"
  | .SENIOR_ANALYST => lit "senior_analyst"
  | .MANAGER => lit "manager"
  | .ADMIN => lit "admin"
  | .AUDITOR => lit "auditor"

inductive UserStatus where
  | ACTIVE
  | DISABLED
  deriving DecidableEq, Repr

/-- A discrete permission that can be granted to a role. -/
inductive Capability where
  | VIEW_INVESTIGATIONS
  | RUN_INVESTIGATIONS
  | APPROVE_ACTIONS
  | VIEW_AUDIT
  | MANAGE_USERS
  | CONFIGURE
  deriving DecidableEq, Repr

/-- The capabilities granted to a role. -/
def capabilitiesFor : UserRole → List Capability
  | .ANALYST => [.VIEW_INVESTIGATIONS,.RUN_INVESTIGATIONS]
  | .SENIOR_ANALYST => [.VIEW_INVESTIGATIONS,.RUN_INVESTIGATIONS,.APPROVE_ACTIONS]
  | .MANAGER => [.VIEW_INVESTIGATIONS,.RUN_INVESTIGATIONS,.APPROVE_ACTIONS,.VIEW_AUDIT]
  | .ADMIN => [.VIEW_INVESTIGATIONS,.RUN_INVESTIGATIONS,.APPROVE_ACTIONS,.VIEW_AUDIT,.MANAGE_USERS,.CONFIGURE]
  | .AUDITOR => [.VIEW_INVESTIGATIONS,.VIEW_AUDIT]

def hasCapability (role : UserRole) (capability : Capability) : Bool := capability ∈ capabilitiesFor role

/-- `UserRole(raw)`, or nothing where it raises. -/
def userRole (raw : Text) : Option UserRole :=
  [UserRole.ANALYST,.SENIOR_ANALYST,.MANAGER,.ADMIN,.AUDITOR].find? fun role => role.value = raw

/-- Map the provider's role claims to a platform role. -/
def mapRole (roles : List Text) (default : UserRole) : UserRole := (roles.findSome? userRole).getD default

/-! ### Identities -/

/-- Identity extracted from a validated id token. -/
structure OidcIdentity where
  subject : Text
  email : Text
  name : Text
  roles : List Text
  deriving DecidableEq

/-- The claims of a token. -/
abbrev Claims := List (Text × Value)

/-- The client of one identity provider. -/
structure OidcClient where
  /-- The claims of a text that the provider signed for this client as their issuer. -/
  decode : Text → Option Claims
  /-- The claims are in force at a time, and the required ones are there. -/
  inForce : Claims → Int → Bool
  roleClaim : Text

section
variable [Printer]

/-- The roles of a claim, which may be a list or a single one. -/
def rolesOf : Value → List Text
  | .list roles => roles.map Value.toText
  | role => [role.toText]

/-- `claims.get(key, "")` as a string. -/
def textClaim (claims : Claims) (key : Text) : Text := ((lookup claims key).getD (.str [])).toText

/-- The claims say the nonce. -/
def saysNonce (claims : Claims) (nonce : Text) : Bool :=
  match lookup claims (lit "nonce") with
  | some (.str given) => given = nonce
  | _ => false

/-- Validate an id token's signature and claims; nothing where that raises. -/
def OidcClient.validateIdToken (client : OidcClient) (idToken nonce : Text) (now : Int) : Option OidcIdentity := do
  let claims ← client.decode idToken
  if client.inForce claims now && saysNonce claims nonce then do
    let subject ← lookup claims (lit "sub")
    return {
      subject := subject.toText
      email := textClaim claims (lit "email")
      name := textClaim claims (lit "name")
      roles := rolesOf ((lookup claims client.roleClaim).getD (.list [])) }
  else none

end

/-- An analyst, manager, admin or auditor. -/
structure User where
  id : Text
  ssoSubject : Text
  email : Text
  name : Text
  role : UserRole
  status : UserStatus
  deriving DecidableEq

section
variable (defaultRole : UserRole)

/-- The row of a first login. -/
def newUser (id : Text) (identity : OidcIdentity) : User where
  id
  ssoSubject := identity.subject
  email := identity.email
  name := identity.name
  role := mapRole identity.roles defaultRole
  status := .ACTIVE

/-- The row of a later login: the provider is the source of truth for profile and role. -/
def refreshed (seen : User) (identity : OidcIdentity) : User :=
  { seen with email := identity.email, name := identity.name, role := mapRole identity.roles defaultRole }

end

/-- What the update statement leaves of a row: it sets the columns that differ from what was read. -/
def updated (seen user row : User) : User :=
  { row with
    email := if user.email = seen.email then row.email else user.email
    name := if user.name = seen.name then row.name else user.name
    role := if user.role = seen.role then row.role else user.role }

/-- The row after a statement for a user, who was read before it or is new. -/
def written (user : User) : Option User → Option User → User
  | some seen, some row => updated seen user row
  | _, _ => user

/-! ### The parties -/

/-- Short-lived login state held between authorize and callback. -/
structure LoginTransaction where
  state : Text
  nonce : Text
  codeVerifier : Text
  expiresAt : Int
  deriving DecidableEq

/-- A callback that took its transaction out of the store. -/
structure Popped where
  transaction : LoginTransaction
  poppedAt : Int

/-- A callback whose id token was validated. -/
structure Verified extends Popped where
  idToken : Text
  checkedAt : Int
  identity : OidcIdentity

/-- A callback that started a session. -/
structure Login extends Verified where
  session : SessionRecord

/-- The authenticated caller. -/
structure Principal where
  userId : Text
  ssoSubject : Text
  email : Text
  name : Text
  role : UserRole
  sessionId : Text
  deriving DecidableEq

structure AccessToken where
  principal : Principal
  exp : Int
  deriving DecidableEq

def principalOf (user : User) (session : SessionRecord) : Principal :=
  ⟨user.id,user.ssoSubject,user.email,user.name,user.role,session.sessionId⟩

/-- A request that was let through to what it asks for. -/
structure Action where
  token : AccessToken
  capability : Capability
  time : Int

/-- How far a callback is. The row it found is kept beside the one it writes. -/
inductive Phase where
  | idle
  | exchanging (popped : Popped)
  | validating (popped : Popped) (idToken : Text)
  | provisioning (verified : Verified)
  | writing (verified : Verified) (seen : Option User)
  | opening (verified : Verified) (seen : Option User) (user : User)
  | issuing (login : Login) (seen : Option User) (user : User)
  | answering (login : Login) (seen : Option User) (user : User)
  | committing (seen : Option User) (user : User)
  | done

/-- What has been executed so far. -/
structure Log where
  begun : List LoginTransaction
  /-- The states that were taken out of the store. -/
  spent : List Text
  verified : List Verified
  /-- The subject each user id was made for. -/
  named : List (Text × Text)
  opened : List Login

structure World where
  sessions : AuthSessions.World
  /-- The stored login transactions, by state. -/
  logins : Text → Option LoginTransaction
  /-- The committed users, by id. -/
  users : Text → Option User
  phases : Nat → Phase
  log : Log
  renewed : List Rotated
  tokens : List AccessToken
  actions : List Action

namespace World

def fresh : World := ⟨.fresh,fun _ => none,fun _ => none,fun _ => .idle,⟨[],[],[],[],[]⟩,[],[],[]⟩

def put (w : World) (caller : Nat) (phase : Phase) : World := { w with phases := Function.update w.phases caller phase }

/-- `save_login`. -/
def begins (w : World) (transaction : LoginTransaction) : World :=
  { w with
    logins := Function.update w.logins transaction.state (some transaction)
    log := { w.log with begun := transaction :: w.log.begun } }

/-- `pop_login`. -/
def pops (w : World) (state : Text) : World :=
  { w with
    logins := Function.update w.logins state none
    log := { w.log with spent := state :: w.log.spent } }

def verifies (w : World) (verified : Verified) : World := { w with log := { w.log with verified := verified :: w.log.verified } }

def names (w : World) (user : User) : World := { w with log := { w.log with named := (user.id,user.ssoSubject) :: w.log.named } }

def opens (w : World) (sessions : AuthSessions.World) (login : Login) : World :=
  { w with sessions, log := { w.log with opened := login :: w.log.opened } }

def grants (w : World) (token : AccessToken) : World := { w with tokens := token :: w.tokens }

/-- The user's row is committed. -/
def commits (w : World) (seen : Option User) (user : User) : World :=
  { w with users := Function.update w.users user.id (some (written user seen (w.users user.id))) }

end World

inductive Move where
  | login (transaction : LoginTransaction)
  | callback (caller : Nat) (state : Text) (now : Int)
  | exchange (caller : Nat) (idToken : Text)
  | validate (caller : Nat) (now : Int)
  | find (caller : Nat) (seen : Option User)
  | write (caller : Nat) (userId : Text)
  | session (move : AuthSessions.Move)
  | answer (caller : Nat) (now : Int)
  | commit (caller : Nat)
  | abort (caller : Nat)
  | lapse (state : Text)
  | renew (done : Rotated) (now : Int)
  | act (action : Action)

/-- The caller of a session operation. -/
def mover : AuthSessions.Move → Option Nat
  | .start caller .. | .issue caller _ | .rotate caller .. | .check caller | .mark caller | .reuse caller | .revoke caller _
  | .purge caller => some caller
  | .lapseSession _ | .lapseRefresh _ => none

/-- The operation saves a new session. -/
def starts : AuthSessions.Move → Bool
  | .start .. => true
  | _ => false

section
variable [Printer] (client : OidcClient) (hash : Text → Text) (refreshTtl accessTtl : Int) (defaultRole : UserRole)

/-- One step of a caller. States, nonces and user ids are ones that nobody named before, an
    access token passes only if it was issued, and a call may fail wherever it is. -/
inductive Step : World → Move → World → Prop where
  | login (w : World) (state nonce codeVerifier : Text) (now : Int)
      (new : ∀ known ∈ w.log.begun, known.state ≠ state ∧ known.nonce ≠ nonce) (unnamed : state ∉ w.log.spent) :
      Step w (.login ⟨state,nonce,codeVerifier,now + 600⟩) (w.begins ⟨state,nonce,codeVerifier,now + 600⟩)
  | reject {w : World} {caller : Nat} (free : w.phases caller = .idle) (state : Text) (now : Int)
      (unfit : ∀ transaction, w.logins state = some transaction → transaction.expiresAt ≤ now) :
      Step w (.callback caller state now) ((w.pops state).put caller .done)
  | pop {w : World} {caller : Nat} {state : Text} {now : Int} {transaction : LoginTransaction} (free : w.phases caller = .idle)
      (stored : w.logins state = some transaction) (live : now < transaction.expiresAt) :
      Step w (.callback caller state now) ((w.pops state).put caller (.exchanging ⟨transaction,now⟩))
  | exchange {w : World} {caller : Nat} {popped : Popped} (here : w.phases caller = .exchanging popped) (idToken : Text) :
      Step w (.exchange caller idToken) (w.put caller (.validating popped idToken))
  | validate {w : World} {caller : Nat} {popped : Popped} {idToken : Text} {now : Int} {identity : OidcIdentity}
      (here : w.phases caller = .validating popped idToken)
      (valid : client.validateIdToken idToken popped.transaction.nonce now = some identity) :
      Step w (.validate caller now) ((w.verifies ⟨popped,idToken,now,identity⟩).put caller (.provisioning ⟨popped,idToken,now,identity⟩))
  | unknown {w : World} {caller : Nat} {verified : Verified} (here : w.phases caller = .provisioning verified)
      (absent : ∀ id row, w.users id = some row → row.ssoSubject ≠ verified.identity.subject) :
      Step w (.find caller none) (w.put caller (.writing verified none))
  | known {w : World} {caller : Nat} {verified : Verified} {id : Text} {row : User} (here : w.phases caller = .provisioning verified)
      (stored : w.users id = some row) (own : row.ssoSubject = verified.identity.subject) :
      Step w (.find caller (some row)) (w.put caller (.writing verified (some row)))
  | insert {w : World} {caller : Nat} {verified : Verified} (here : w.phases caller = .writing verified none) (userId : Text)
      (new : ∀ pair ∈ w.log.named, pair.1 ≠ userId) (unique : ∀ id row, w.users id = some row → row.ssoSubject ≠ verified.identity.subject) :
      Step w (.write caller userId)
        ((w.names (newUser defaultRole userId verified.identity)).put caller (.opening verified none (newUser defaultRole userId verified.identity)))
  | revise {w : World} {caller : Nat} {verified : Verified} {seen : User} (here : w.phases caller = .writing verified (some seen)) :
      Step w (.write caller seen.id) (w.put caller (.opening verified (some seen) (refreshed defaultRole seen verified.identity)))
  | open {w : World} {caller : Nat} {verified : Verified} {seen : Option User} {user : User} {sessionId : Text} {now : Int}
      {sessions : AuthSessions.World} (here : w.phases caller = .opening verified seen user)
      (starts : AuthSessions.Step hash refreshTtl w.sessions (.start caller sessionId user.id now) sessions) :
      Step w (.session (.start caller sessionId user.id now))
        ((w.opens sessions ⟨verified,⟨sessionId,user.id,now,now + refreshTtl⟩⟩).put caller
          (.issuing ⟨verified,⟨sessionId,user.id,now,now + refreshTtl⟩⟩ seen user))
  | issue {w : World} {caller : Nat} {login : Login} {seen : Option User} {user : User} {token : Text} {sessions : AuthSessions.World}
      (here : w.phases caller = .issuing login seen user) (issues : AuthSessions.Step hash refreshTtl w.sessions (.issue caller token) sessions) :
      Step w (.session (.issue caller token)) ({ w with sessions }.put caller (.answering login seen user))
  | session {w : World} {move : AuthSessions.Move} {sessions : AuthSessions.World} (apart : starts move = false)
      (free : ∀ caller, mover move = some caller → w.phases caller = .idle) (moves : AuthSessions.Step hash refreshTtl w.sessions move sessions) :
      Step w (.session move) { w with sessions }
  | answer {w : World} {caller : Nat} {login : Login} {seen : Option User} {user : User} (here : w.phases caller = .answering login seen user)
      (now : Int) : Step w (.answer caller now) ((w.grants ⟨principalOf user login.session,now + accessTtl⟩).put caller (.committing seen user))
  | commit {w : World} {caller : Nat} {seen : Option User} {user : User} (here : w.phases caller = .committing seen user) :
      Step w (.commit caller) ((w.commits seen user).put caller .done)
  | abort {w : World} {caller : Nat} (busy : w.phases caller ≠ .idle) : Step w (.abort caller) (w.put caller .done)
  | lapse (w : World) (state : Text) : Step w (.lapse state) { w with logins := Function.update w.logins state none }
  | renew {w : World} {done : Rotated} {user : User} (rotated : done ∈ w.sessions.returned) (once : done ∉ w.renewed)
      (stored : w.users done.session.userId = some user) (now : Int) :
      Step w (.renew done now) ({ w with renewed := done :: w.renewed }.grants ⟨principalOf user done.session,now + accessTtl⟩)
  | act {w : World} {action : Action} (issued : action.token ∈ w.tokens) (live : action.time < action.token.exp)
      (granted : hasCapability action.token.principal.role action.capability = true) :
      Step w (.act action) { w with actions := action :: w.actions }

/-! ### What a world rests on -/

variable {client hash refreshTtl accessTtl defaultRole}

/-- A verified identity of the subject carries the role. -/
def Vouched (defaultRole : UserRole) (log : Log) (subject : Text) (role : UserRole) : Prop :=
  ∃ verified ∈ log.verified, verified.identity.subject = subject ∧ mapRole verified.identity.roles defaultRole = role

/-- A transaction was begun, and taken out before it expired. -/
structure Popped.Holds (log : Log) (popped : Popped) : Prop where
  begun : popped.transaction ∈ log.begun
  spent : popped.transaction.state ∈ log.spent
  live : popped.poppedAt < popped.transaction.expiresAt

/-- The id token names the nonce of a transaction that was taken out in time. -/
structure Verified.Holds (client : OidcClient) (log : Log) (verified : Verified) : Prop where
  popped : verified.toPopped.Holds log
  valid : client.validateIdToken verified.idToken verified.transaction.nonce verified.checkedAt = some verified.identity
  listed : verified ∈ log.verified

/-- The row's id was made for its subject, whose role it is. -/
structure User.Holds (defaultRole : UserRole) (log : Log) (user : User) : Prop where
  named : (user.id,user.ssoSubject) ∈ log.named
  vouched : Vouched defaultRole log user.ssoSubject user.role

/-- A session was opened for the user of the identity. -/
structure Login.Holds (client : OidcClient) (log : Log) (login : Login) : Prop where
  verified : login.toVerified.Holds client log
  named : (login.session.userId,login.identity.subject) ∈ log.named

/-- What a caller's phase rests on. -/
def Phase.Holds (client : OidcClient) (defaultRole : UserRole) (log : Log) : Phase → Prop
  | .idle | .done => True
  | .exchanging popped | .validating popped _ => popped.Holds log
  | .provisioning verified => verified.Holds client log
  | .writing verified seen => verified.Holds client log ∧ ∀ row ∈ seen, row.Holds defaultRole log ∧ row.ssoSubject = verified.identity.subject
  | .opening verified _ user => verified.Holds client log ∧ user.Holds defaultRole log ∧ user.ssoSubject = verified.identity.subject
  | .issuing login _ user | .answering login _ user =>
    login ∈ log.opened ∧ user.Holds defaultRole log ∧ user.ssoSubject = login.identity.subject ∧ user.id = login.session.userId
  | .committing _ user => user.Holds defaultRole log

/-- The state of the transaction that a callback has not yet turned into a session. -/
def Phase.owned : Phase → Option Text
  | .exchanging popped | .validating popped _ => some popped.transaction.state
  | .provisioning verified | .writing verified _ | .opening verified _ _ => some verified.transaction.state
  | _ => none

/-- A token is of a session that a login opened, and its role is vouched for. -/
structure Principal.Holds (defaultRole : UserRole) (log : Log) (principal : Principal) : Prop where
  vouched : Vouched defaultRole log principal.ssoSubject principal.role
  opened : ∃ login ∈ log.opened, login.session.sessionId = principal.sessionId ∧ login.session.userId = principal.userId ∧
    login.identity.subject = principal.ssoSubject

/-- The tables against what was executed. -/
structure Tables (client : OidcClient) (hash : Text → Text) (defaultRole : UserRole) (w : World) : Prop where
  sessions : AuthSessions.Sound hash w.sessions
  begun : ∀ first ∈ w.log.begun, ∀ second ∈ w.log.begun, first.state = second.state ∨ first.nonce = second.nonce → first = second
  stored : ∀ state transaction, w.logins state = some transaction → transaction ∈ w.log.begun ∧ transaction.state = state ∧ state ∉ w.log.spent
  verified : ∀ verified ∈ w.log.verified, verified.Holds client w.log
  named : ∀ first ∈ w.log.named, ∀ second ∈ w.log.named, first.1 = second.1 → first = second
  rows : ∀ id row, w.users id = some row → row.id = id ∧ row.Holds defaultRole w.log
  opened : ∀ login ∈ w.log.opened, login.Holds client w.log
  same : w.log.opened.map (·.session) = w.sessions.history.opened
  tokens : ∀ token ∈ w.tokens, token.principal.Holds defaultRole w.log
  actions : ∀ action ∈ w.actions, action.token ∈ w.tokens ∧ action.time < action.token.exp ∧
    hasCapability action.token.principal.role action.capability = true

structure Sound (client : OidcClient) (hash : Text → Text) (defaultRole : UserRole) (w : World) : Prop
    extends Tables client hash defaultRole w where
  phases : ∀ caller, (w.phases caller).Holds client defaultRole w.log
  exclusive : Exclusive (fun caller => (w.phases caller).owned) (w.log.opened.map (·.transaction.state))

/-! ### What was executed stays executed -/

omit [Printer] in
theorem owned_put (w : World) (caller : Nat) (phase : Phase) :
    (fun other => ((w.put caller phase).phases other).owned) = Function.update (fun other => (w.phases other).owned) caller phase.owned := by
  funext other
  by_cases same : other = caller
  · subst same
    simp [World.put]
  · simp [World.put,same]

/-- The log only grows. -/
structure Log.Grows (log later : Log) : Prop where
  begun : log.begun ⊆ later.begun
  spent : log.spent ⊆ later.spent
  verified : log.verified ⊆ later.verified
  named : log.named ⊆ later.named
  opened : log.opened ⊆ later.opened

omit [Printer] in
theorem Log.Grows.refl (log : Log) : log.Grows log := ⟨fun _ => id,fun _ => id,fun _ => id,fun _ => id,fun _ => id⟩

section
variable {log later : Log} (grows : log.Grows later)
include grows

omit [Printer] in
theorem Vouched.mono {subject : Text} {role : UserRole} (vouched : Vouched defaultRole log subject role) :
    Vouched defaultRole later subject role := by
  obtain ⟨verified,listed,same,mapped⟩ := vouched
  exact ⟨verified,grows.verified listed,same,mapped⟩

omit [Printer] in
theorem Popped.Holds.mono {popped : Popped} (holds : popped.Holds log) : popped.Holds later :=
  ⟨grows.begun holds.begun,grows.spent holds.spent,holds.live⟩

theorem Verified.Holds.mono {verified : Verified} (holds : verified.Holds client log) : verified.Holds client later :=
  ⟨holds.popped.mono grows,holds.valid,grows.verified holds.listed⟩

omit [Printer] in
theorem User.Holds.mono {user : User} (holds : user.Holds defaultRole log) : user.Holds defaultRole later :=
  ⟨grows.named holds.named,holds.vouched.mono grows⟩

theorem Login.Holds.mono {login : Login} (holds : login.Holds client log) : login.Holds client later :=
  ⟨holds.verified.mono grows,grows.named holds.named⟩

omit [Printer] in
theorem Principal.Holds.mono {principal : Principal} (holds : principal.Holds defaultRole log) : principal.Holds defaultRole later := by
  obtain ⟨vouched,login,listed,own⟩ := holds
  exact ⟨vouched.mono grows,login,grows.opened listed,own⟩

theorem Phase.Holds.mono {phase : Phase} (holds : phase.Holds client defaultRole log) : phase.Holds client defaultRole later := by
  cases phase with
  | idle => trivial
  | done => trivial
  | exchanging popped => exact Popped.Holds.mono grows holds
  | validating popped idToken => exact Popped.Holds.mono grows holds
  | provisioning verified => exact Verified.Holds.mono grows holds
  | writing verified seen => exact ⟨holds.1.mono grows,fun row found => ⟨(holds.2 row found).1.mono grows,(holds.2 row found).2⟩⟩
  | opening verified seen user => exact ⟨holds.1.mono grows,holds.2.1.mono grows,holds.2.2⟩
  | issuing login seen user => exact ⟨grows.opened holds.1,holds.2.1.mono grows,holds.2.2⟩
  | answering login seen user => exact ⟨grows.opened holds.1,holds.2.1.mono grows,holds.2.2⟩
  | committing seen user => exact User.Holds.mono grows holds

end

theorem Sound.within {w : World} (sound : Sound client hash defaultRole w) {caller : Nat} {phase : Phase} (here : w.phases caller = phase) :
    phase.Holds client defaultRole w.log := here ▸ sound.phases caller

/-- A transaction that a callback holds was taken out of the store. -/
theorem Sound.owned_spent {w : World} (sound : Sound client hash defaultRole w) {caller : Nat} {state : Text}
    (holds : (w.phases caller).owned = some state) : state ∈ w.log.spent := by
  have own := sound.phases caller
  cases here : w.phases caller with
  | exchanging popped =>
    rw [here] at holds own
    obtain rfl := Option.some.inj holds
    exact Popped.Holds.spent own
  | validating popped idToken =>
    rw [here] at holds own
    obtain rfl := Option.some.inj holds
    exact Popped.Holds.spent own
  | provisioning verified =>
    rw [here] at holds own
    obtain rfl := Option.some.inj holds
    exact (Verified.Holds.popped own).spent
  | writing verified seen =>
    rw [here] at holds own
    obtain rfl := Option.some.inj holds
    exact own.1.popped.spent
  | opening verified seen user =>
    rw [here] at holds own
    obtain rfl := Option.some.inj holds
    exact own.1.popped.spent
  | _ =>
    rw [here] at holds
    cases holds

/-- A caller that moves on with the transaction it holds. -/
theorem Sound.exclusive_keep {w : World} (sound : Sound client hash defaultRole w) {caller : Nat} {here next : Phase} (at_ : w.phases caller = here)
    (same : next.owned = here.owned) :
    Exclusive (Function.update (fun other => (w.phases other).owned) caller next.owned) (w.log.opened.map (·.transaction.state)) := by
  rw [same,← at_,Function.update_eq_self]
  exact sound.exclusive

/-- One caller moves on while the tables change under all. -/
theorem Sound.put {w : World} (sound : Sound client hash defaultRole w) (next : World) (same : next.phases = w.phases) (grows : w.log.Grows next.log)
    (tables : Tables client hash defaultRole next) (caller : Nat) (phase : Phase) (own : phase.Holds client defaultRole next.log)
    (exclusive : Exclusive (Function.update (fun other => (w.phases other).owned) caller phase.owned) (next.log.opened.map (·.transaction.state))) :
    Sound client hash defaultRole (next.put caller phase) := by
  refine ⟨⟨tables.sessions,tables.begun,tables.stored,tables.verified,tables.named,tables.rows,tables.opened,tables.same,tables.tokens,
    tables.actions⟩,fun other => ?_,?_⟩
  · by_cases here : other = caller
    · subst here
      simpa [World.put] using own
    · simpa [World.put,here,same] using (sound.phases other).mono grows
  · rw [owned_put,same]
    exact exclusive

/-! ### What the operations keep of the tables -/

omit [Printer] in
theorem opened_start {sessions next : AuthSessions.World} {caller : Nat} {sessionId userId : Text} {now : Int}
    (step : AuthSessions.Step hash refreshTtl sessions (.start caller sessionId userId now) next) :
    next.history.opened = ⟨sessionId,userId,now,now + refreshTtl⟩ :: sessions.history.opened := by
  cases step
  rfl

omit [Printer] in
theorem opened_other {sessions next : AuthSessions.World} {move : AuthSessions.Move} (apart : starts move = false)
    (step : AuthSessions.Step hash refreshTtl sessions move next) : next.history.opened = sessions.history.opened := by
  cases step with
  | start => cases apart
  | _ => rfl

section
variable {w : World} (tables : Tables client hash defaultRole w)
include tables

/-- The log grows by entries that hold. -/
theorem Tables.logs {later : Log} (grows : w.log.Grows later) (opened : later.opened = w.log.opened)
    (begun : ∀ first ∈ later.begun, ∀ second ∈ later.begun, first.state = second.state ∨ first.nonce = second.nonce → first = second)
    {logins : Text → Option LoginTransaction}
    (stored : ∀ state transaction, logins state = some transaction → transaction ∈ later.begun ∧ transaction.state = state ∧ state ∉ later.spent)
    (verified : ∀ verified ∈ later.verified, verified.Holds client later)
    (named : ∀ first ∈ later.named, ∀ second ∈ later.named, first.1 = second.1 → first = second) :
    Tables client hash defaultRole { w with log := later, logins } where
  sessions := tables.sessions
  begun := begun
  stored := stored
  verified := verified
  named := named
  rows id row found := ⟨(tables.rows id row found).1,(tables.rows id row found).2.mono grows⟩
  opened login listed := (tables.opened login (opened ▸ listed)).mono grows
  same := by rw [opened]; exact tables.same
  tokens token listed := (tables.tokens token listed).mono grows
  actions := tables.actions

theorem Tables.begins {transaction : LoginTransaction}
    (new : ∀ known ∈ w.log.begun, known.state ≠ transaction.state ∧ known.nonce ≠ transaction.nonce) (unnamed : transaction.state ∉ w.log.spent) :
    Tables client hash defaultRole (w.begins transaction) := by
  have grows : w.log.Grows (w.begins transaction).log := ⟨List.subset_cons_self _ _,fun _ => id,fun _ => id,fun _ => id,fun _ => id⟩
  refine tables.logs grows rfl (fun first member second listed same => ?_) (fun state found stored => ?_)
    (fun verified listed => (tables.verified verified listed).mono grows) tables.named
  · rcases List.mem_cons.mp member with rfl | earlier
    · rcases List.mem_cons.mp listed with rfl | known
      · rfl
      · exact absurd same (by simp [(new second known).1.symm,(new second known).2.symm])
    · rcases List.mem_cons.mp listed with rfl | known
      · exact absurd same (by simp [new first earlier])
      · exact tables.begun first earlier second known same
  · by_cases same : state = transaction.state
    · subst same
      rw [Function.update_self,Option.some.injEq] at stored
      subst stored
      exact ⟨List.mem_cons_self ..,rfl,unnamed⟩
    · rw [Function.update_of_ne same] at stored
      obtain ⟨known,own,kept⟩ := tables.stored state found stored
      exact ⟨grows.begun known,own,kept⟩

theorem Tables.pops (state : Text) : Tables client hash defaultRole (w.pops state) := by
  have grows : w.log.Grows (w.pops state).log := ⟨fun _ => id,List.subset_cons_self _ _,fun _ => id,fun _ => id,fun _ => id⟩
  refine tables.logs grows rfl tables.begun (fun other found stored => ?_) (fun verified listed => (tables.verified verified listed).mono grows) tables.named
  by_cases same : other = state
  · simp [same] at stored
  · rw [Function.update_of_ne same] at stored
    obtain ⟨known,own,kept⟩ := tables.stored other found stored
    exact ⟨known,own,by simpa [World.pops,same] using kept⟩

theorem Tables.verifies {verified : Verified} (popped : verified.toPopped.Holds w.log)
    (valid : client.validateIdToken verified.idToken verified.transaction.nonce verified.checkedAt = some verified.identity) :
    Tables client hash defaultRole (w.verifies verified) := by
  have grows : w.log.Grows (w.verifies verified).log := ⟨fun _ => id,fun _ => id,List.subset_cons_self _ _,fun _ => id,fun _ => id⟩
  refine tables.logs grows rfl tables.begun tables.stored (fun known listed => ?_) tables.named
  rcases List.mem_cons.mp listed with rfl | earlier
  · exact ⟨popped.mono grows,valid,List.mem_cons_self ..⟩
  · exact (tables.verified known earlier).mono grows

theorem Tables.names {user : User} (new : ∀ pair ∈ w.log.named, pair.1 ≠ user.id) : Tables client hash defaultRole (w.names user) := by
  have grows : w.log.Grows (w.names user).log := ⟨fun _ => id,fun _ => id,fun _ => id,List.subset_cons_self _ _,fun _ => id⟩
  refine tables.logs grows rfl tables.begun tables.stored (fun known listed => (tables.verified known listed).mono grows)
    fun first member second listed same => ?_
  rcases List.mem_cons.mp member with rfl | earlier
  · rcases List.mem_cons.mp listed with rfl | known
    · rfl
    · exact absurd same.symm (new second known)
  · rcases List.mem_cons.mp listed with rfl | known
    · exact absurd same (new first earlier)
    · exact tables.named first earlier second known same

theorem Tables.opens {sessions : AuthSessions.World} {login : Login} (sound : AuthSessions.Sound hash sessions)
    (opened : sessions.history.opened = login.session :: w.sessions.history.opened) (holds : login.Holds client w.log) :
    Tables client hash defaultRole (w.opens sessions login) := by
  have grows : w.log.Grows (w.opens sessions login).log := ⟨fun _ => id,fun _ => id,fun _ => id,fun _ => id,List.subset_cons_self _ _⟩
  refine ⟨sound,tables.begun,tables.stored,fun known listed => (tables.verified known listed).mono grows,tables.named,
    fun id row found => ⟨(tables.rows id row found).1,(tables.rows id row found).2.mono grows⟩,fun other listed => ?_,?_,
    fun token listed => (tables.tokens token listed).mono grows,tables.actions⟩
  · rcases List.mem_cons.mp listed with rfl | earlier
    · exact holds.mono grows
    · exact (tables.opened other earlier).mono grows
  · rw [World.opens,opened,← tables.same]
    rfl

/-- A session operation that opens none. -/
theorem Tables.serves {sessions : AuthSessions.World} (sound : AuthSessions.Sound hash sessions)
    (opened : sessions.history.opened = w.sessions.history.opened) : Tables client hash defaultRole { w with sessions } :=
  ⟨sound,tables.begun,tables.stored,tables.verified,tables.named,tables.rows,tables.opened,tables.same.trans opened.symm,tables.tokens,
    tables.actions⟩

theorem Tables.grants {token : AccessToken} (holds : token.principal.Holds defaultRole w.log) :
    Tables client hash defaultRole (w.grants token) where
  sessions := tables.sessions
  begun := tables.begun
  stored := tables.stored
  verified := tables.verified
  named := tables.named
  rows := tables.rows
  opened := tables.opened
  same := tables.same
  tokens := List.forall_mem_cons.mpr ⟨holds,tables.tokens⟩
  actions action listed := ⟨List.mem_cons_of_mem _ (tables.actions action listed).1,(tables.actions action listed).2⟩

theorem Tables.commits (seen : Option User) {user : User} (holds : user.Holds defaultRole w.log) :
    Tables client hash defaultRole (w.commits seen user) := by
  refine ⟨tables.sessions,tables.begun,tables.stored,tables.verified,tables.named,fun id row found => ?_,tables.opened,tables.same,tables.tokens,
    tables.actions⟩
  by_cases same : id = user.id
  · subst same
    obtain rfl : written user seen (w.users user.id) = row := by simpa [World.commits] using found
    rw [written.eq_def]
    split
    · -- The update of a row: its subject stays, its role is the old one or the new one.
      rename_i before row stored
      obtain ⟨own,known⟩ := tables.rows user.id row stored
      have subject : row.ssoSubject = user.ssoSubject :=
        congrArg Prod.snd (tables.named _ known.named _ holds.named own)
      refine ⟨own,known.named,?_⟩
      show Vouched defaultRole w.log row.ssoSubject (if user.role = before.role then row.role else user.role)
      split_ifs
      · exact known.vouched
      · rw [subject]
        exact holds.vouched
    · exact ⟨rfl,holds⟩
  · exact tables.rows id row (by simpa [World.commits,same] using found)

end

/-! ### What every step keeps -/

theorem Sound.step {w next : World} {move : Move} (sound : Sound client hash defaultRole w)
    (step : Step client hash refreshTtl accessTtl defaultRole w move next) : Sound client hash defaultRole next := by
  have steady := Log.Grows.refl w.log
  have tables := sound.toTables
  cases step with
  | login state nonce codeVerifier now new unnamed =>
    have grows : w.log.Grows (w.begins ⟨state,nonce,codeVerifier,now + 600⟩).log :=
      ⟨List.subset_cons_self _ _,fun _ => id,fun _ => id,fun _ => id,fun _ => id⟩
    exact ⟨tables.begins new unnamed,fun caller => (sound.phases caller).mono grows,sound.exclusive⟩
  | @reject caller free state now =>
    have grows : w.log.Grows (w.pops state).log := ⟨fun _ => id,List.subset_cons_self _ _,fun _ => id,fun _ => id,fun _ => id⟩
    exact sound.put (w.pops state) rfl grows (tables.pops state) caller .done trivial (sound.exclusive.drop caller)
  | @pop caller state now transaction free stored live =>
    have grows : w.log.Grows (w.pops state).log := ⟨fun _ => id,List.subset_cons_self _ _,fun _ => id,fun _ => id,fun _ => id⟩
    obtain ⟨known,own,kept⟩ := tables.stored state transaction stored
    subst own
    refine sound.put (w.pops _) rfl grows (tables.pops _) caller (.exchanging ⟨transaction,now⟩) ⟨known,List.mem_cons_self ..,live⟩
      (sound.exclusive.take caller (fun other holds => ?_) fun used => ?_)
    · exact kept (sound.owned_spent holds)
    · obtain ⟨login,listed,same⟩ := List.mem_map.mp used
      exact kept (same ▸ (tables.opened login listed).verified.popped.spent)
  | @exchange caller popped here idToken =>
    have holds : popped.Holds w.log := sound.within here
    exact sound.put w rfl steady tables caller (.validating popped idToken) holds (sound.exclusive_keep here rfl)
  | @validate caller popped idToken now identity here valid =>
    have holds : popped.Holds w.log := sound.within here
    have grows : w.log.Grows (w.verifies ⟨popped,idToken,now,identity⟩).log :=
      ⟨fun _ => id,fun _ => id,List.subset_cons_self _ _,fun _ => id,fun _ => id⟩
    exact sound.put (w.verifies _) rfl grows (tables.verifies holds valid) caller (.provisioning ⟨popped,idToken,now,identity⟩)
      ⟨holds.mono grows,valid,List.mem_cons_self ..⟩ (sound.exclusive_keep here rfl)
  | @unknown caller verified here absent =>
    exact sound.put w rfl steady tables caller (.writing verified none) ⟨sound.within here,by simp⟩ (sound.exclusive_keep here rfl)
  | @known caller verified id row here stored own =>
    refine sound.put w rfl steady tables caller (.writing verified (some row)) ⟨sound.within here,?_⟩ (sound.exclusive_keep here rfl)
    rintro _ ⟨⟩
    exact ⟨(tables.rows id row stored).2,own⟩
  | @insert caller verified here userId new unique =>
    have holds : verified.Holds client w.log := (sound.within here).1
    have grows : w.log.Grows (w.names (newUser defaultRole userId verified.identity)).log :=
      ⟨fun _ => id,fun _ => id,fun _ => id,List.subset_cons_self _ _,fun _ => id⟩
    exact sound.put (w.names _) rfl grows (tables.names new) caller (.opening verified none (newUser defaultRole userId verified.identity))
      ⟨holds.mono grows,⟨List.mem_cons_self ..,verified,holds.listed,rfl,rfl⟩,rfl⟩ (sound.exclusive_keep here rfl)
  | @revise caller verified seen here =>
    obtain ⟨holds,found⟩ := sound.within here
    obtain ⟨row,own⟩ := found seen rfl
    exact sound.put w rfl steady tables caller (.opening verified (some seen) (refreshed defaultRole seen verified.identity))
      ⟨holds,⟨row.named,verified,holds.listed,own.symm,rfl⟩,own⟩ (sound.exclusive_keep here rfl)
  | @«open» caller verified seen user sessionId now sessions here starts =>
    obtain ⟨holds,row,own⟩ := sound.within here
    have grows : w.log.Grows (w.opens sessions ⟨verified,⟨sessionId,user.id,now,now + refreshTtl⟩⟩).log :=
      ⟨fun _ => id,fun _ => id,fun _ => id,fun _ => id,List.subset_cons_self _ _⟩
    refine sound.put (w.opens sessions _) rfl grows (tables.opens (tables.sessions.step starts) (opened_start starts) ⟨holds,own ▸ row.named⟩) caller
      (.issuing ⟨verified,⟨sessionId,user.id,now,now + refreshTtl⟩⟩ seen user) ⟨List.mem_cons_self ..,row.mono grows,own,rfl⟩ ?_
    exact sound.exclusive.use caller (by simp only [here]; rfl)
  | @issue caller login seen user token sessions here issues =>
    obtain ⟨listed,row,own,same⟩ := sound.within here
    exact sound.put { w with sessions } rfl steady (tables.serves (tables.sessions.step issues) (opened_other rfl issues)) caller
      (.answering login seen user) ⟨listed,row,own,same⟩ (sound.exclusive_keep here rfl)
  | session apart free moves =>
    exact ⟨tables.serves (tables.sessions.step moves) (opened_other apart moves),sound.phases,sound.exclusive⟩
  | @answer caller login seen user here now =>
    obtain ⟨listed,row,own,same⟩ := sound.within here
    have holds : (principalOf user login.session).Holds defaultRole w.log := ⟨row.vouched,login,listed,rfl,same.symm,own.symm⟩
    exact sound.put (w.grants _) rfl steady (tables.grants holds) caller (.committing seen user) row (sound.exclusive_keep here rfl)
  | @commit caller seen user here =>
    exact sound.put (w.commits seen user) rfl steady (tables.commits seen (sound.within here)) caller .done trivial (sound.exclusive.drop caller)
  | @abort caller => exact sound.put w rfl steady tables caller .done trivial (sound.exclusive.drop caller)
  | lapse state =>
    refine ⟨{ tables with stored := fun other transaction stored => ?_ },sound.phases,sound.exclusive⟩
    by_cases same : other = state
    · simp [same] at stored
    · exact tables.stored other transaction (by simpa [same] using stored)
  | @renew done user rotated once stored now =>
    refine ⟨Tables.grants (w := { w with renewed := done :: w.renewed }) { tables with } ?_,sound.phases,sound.exclusive⟩
    obtain ⟨own,row⟩ := tables.rows _ user stored
    have opened : done.session ∈ w.log.opened.map (·.session) := by
      rw [tables.same]
      exact (tables.sessions.returned done rotated).1.opened
    obtain ⟨login,listed,same⟩ := List.mem_map.mp opened
    have subject : login.identity.subject = user.ssoSubject := by
      have named := (tables.opened login listed).named
      rw [same,← own] at named
      exact congrArg Prod.snd (tables.named _ named _ row.named rfl)
    exact ⟨row.vouched,login,listed,congrArg (·.sessionId) same,(congrArg (·.userId) same).trans own.symm,subject⟩
  | @act action issued live granted =>
    exact ⟨{ tables with actions := List.forall_mem_cons.mpr ⟨⟨issued,live,granted⟩,tables.actions⟩ },sound.phases,sound.exclusive⟩

theorem sound_fresh : Sound client hash defaultRole World.fresh where
  sessions := AuthSessions.sound_fresh
  begun := by simp [World.fresh]
  stored := by simp [World.fresh]
  verified := by simp [World.fresh]
  named := by simp [World.fresh]
  rows := by simp [World.fresh]
  opened := by simp [World.fresh]
  same := rfl
  tokens := by simp [World.fresh]
  actions := by simp [World.fresh]
  phases _ := trivial
  exclusive := ⟨List.nodup_nil,by simp [World.fresh,Phase.owned],by simp [World.fresh,Phase.owned]⟩

omit [Printer] in
/-- An id token names one nonce. -/
theorem saysNonce_unique {claims : Claims} {nonce other : Text} (own : saysNonce claims nonce = true) (also : saysNonce claims other = true) :
    nonce = other := by
  unfold saysNonce at own also
  split at own
  · rename_i given found
    rw [found] at also
    exact (of_decide_eq_true own).symm.trans (of_decide_eq_true also)
  · cases own

theorem validateIdToken_claims {idToken nonce : Text} {now : Int} {identity : OidcIdentity}
    (valid : client.validateIdToken idToken nonce now = some identity) :
    ∃ claims, client.decode idToken = some claims ∧ saysNonce claims nonce = true := by
  rw [OidcClient.validateIdToken,Option.bind_eq_bind,Option.bind_eq_some_iff] at valid
  obtain ⟨claims,decoded,checked⟩ := valid
  split_ifs at checked with own
  exact ⟨claims,decoded,(Bool.and_eq_true_iff.mp own).2⟩

/-- An id token is accepted for one nonce. -/
theorem validateIdToken_nonce {idToken nonce other : Text} {now then_ : Int} {identity another : OidcIdentity}
    (valid : client.validateIdToken idToken nonce now = some identity) (also : client.validateIdToken idToken other then_ = some another) :
    nonce = other := by
  obtain ⟨claims,decoded,own⟩ := validateIdToken_claims valid
  obtain ⟨more,again,same⟩ := validateIdToken_claims also
  obtain rfl := Option.some.inj (decoded.symm.trans again)
  exact saysNonce_unique own same

/-- No id token opens two sessions: its nonce is of one transaction, which was taken once. -/
theorem Sound.idTokens {w : World} (sound : Sound client hash defaultRole w) : (w.log.opened.map (·.idToken)).Nodup := by
  have once := sound.exclusive.once
  rw [List.Nodup,List.pairwise_map] at once ⊢
  refine once.imp_of_mem fun {first second} listed also apart same => apart ?_
  have held := (sound.opened first listed).verified
  have other := (sound.opened second also).verified
  have nonce : first.transaction.nonce = second.transaction.nonce := validateIdToken_nonce held.valid (same ▸ other.valid)
  exact congrArg (·.state) (sound.begun _ held.popped.begun _ other.popped.begun (.inr nonce))

/-- The sessions are those of the logins. Each login took a transaction of its own in time,
    with an id token of its own that was valid for the transaction's nonce. -/
theorem logins_authentic {moves : List Move} {w : World} (run : Run (Step client hash refreshTtl accessTtl defaultRole) World.fresh moves w) :
    w.log.opened.map (·.session) = w.sessions.history.opened ∧
    (w.log.opened.map (·.transaction.state)).Nodup ∧ (w.log.opened.map (·.idToken)).Nodup ∧
    ∀ login ∈ w.log.opened, login.transaction ∈ w.log.begun ∧ login.poppedAt < login.transaction.expiresAt ∧
      client.validateIdToken login.idToken login.transaction.nonce login.checkedAt = some login.identity := by
  have sound : Sound client hash defaultRole w := run.invariant (fun _ _ _ sound step => sound.step step) sound_fresh
  refine ⟨sound.same,sound.exclusive.once,sound.idTokens,fun login listed => ?_⟩
  have holds := (sound.opened login listed).verified
  exact ⟨holds.popped.begun,holds.popped.live,holds.valid⟩

/-- Whoever acts does so with a token of a session that a login of the same subject opened
    for the same user, and an id token of that subject carried roles that grant the action. -/
theorem actions_authorized {moves : List Move} {w : World} (run : Run (Step client hash refreshTtl accessTtl defaultRole) World.fresh moves w) :
    ∀ action ∈ w.actions, action.time < action.token.exp ∧
      (∃ login ∈ w.log.opened, login.session.sessionId = action.token.principal.sessionId ∧
        login.session.userId = action.token.principal.userId ∧ login.identity.subject = action.token.principal.ssoSubject) ∧
      ∃ verified ∈ w.log.verified, verified.identity.subject = action.token.principal.ssoSubject ∧
        client.validateIdToken verified.idToken verified.transaction.nonce verified.checkedAt = some verified.identity ∧
        hasCapability (mapRole verified.identity.roles defaultRole) action.capability = true := by
  have sound : Sound client hash defaultRole w := run.invariant (fun _ _ _ sound step => sound.step step) sound_fresh
  intro action listed
  obtain ⟨issued,live,granted⟩ := sound.actions action listed
  obtain ⟨⟨verified,known,subject,role⟩,opened⟩ := sound.tokens _ issued
  exact ⟨live,opened,verified,known,subject,(sound.verified verified known).valid,role ▸ granted⟩

end

/-- A provider that signed one id token. -/
def oneLogin : OidcClient where
  decode idToken := if idToken = lit "signed" then
      some [(lit "sub",.str (lit "ana")),(lit "nonce",.str (lit "n")),(lit "roles",.list [.str (lit "guest"),.str (lit "manager")])]
    else none
  inForce _ now := now < 100
  roleClaim := lit "roles"

def anasIdentity : OidcIdentity := ⟨lit "ana",[],[],[lit "guest",lit "manager"]⟩

theorem oneLogin_valid (p : Printer) : @OidcClient.validateIdToken p oneLogin (lit "signed") (lit "n") 4 = some anasIdentity := rfl

/-- A login with one transaction, and an approval with the token that it returns. -/
def approvedOnce : List Move :=
  [.login ⟨lit "s",lit "n",lit "v",603⟩,.callback 0 (lit "s") 4,.exchange 0 (lit "signed"),.validate 0 4,.find 0 none,.write 0 (lit "u"),
    .session (.start 0 (lit "sid") (lit "u") 4),.session (.issue 0 (lit "r")),.answer 0 4,.commit 0,
    .act ⟨⟨⟨lit "u",lit "ana",[],[],.MANAGER,lit "sid"⟩,34⟩,.APPROVE_ACTIONS,9⟩]

theorem approvedOnce_run (p : Printer) : ∃ w, Run (@Step p oneLogin id 60 30 .ANALYST) World.fresh approvedOnce w ∧
    w.log.opened.map (·.idToken) = [lit "signed"] ∧ w.actions.map (·.capability) = [.APPROVE_ACTIONS] := by
  refine Run.reaches (.login _ _ _ _ 3 (List.forall_mem_nil _) List.not_mem_nil) ?_
  refine Run.reaches (.pop rfl rfl (by decide)) (Run.reaches (.exchange rfl _) ?_)
  refine Run.reaches (.validate rfl (oneLogin_valid p)) (Run.reaches (.unknown rfl nofun) ?_)
  refine Run.reaches (.insert rfl _ (List.forall_mem_nil _) nofun) ?_
  refine Run.reaches (@Step.open _ _ _ _ _ _ _ 0 _ none (newUser .ANALYST (lit "u") anasIdentity) _ _ _ rfl (.start rfl _ _ _ ?_ ?_)) ?_
  · exact List.forall_mem_nil _
  · exact List.not_mem_nil
  refine Run.reaches (.issue rfl (.first rfl _ (List.forall_mem_nil _))) (Run.reaches (.answer rfl 4) (Run.reaches (.commit rfl) ?_))
  exact ⟨_,.go (.act (List.mem_cons_self ..) (by decide) (by decide)) (.stop _),rfl,rfl⟩

theorem logins_authentic_run : let _ := asciiPrinter
    ∃ w, Run (Step oneLogin id 60 30 .ANALYST) World.fresh approvedOnce w ∧ w.log.opened.map (·.idToken) = [lit "signed"] ∧
      w.log.opened.map (·.session) = w.sessions.history.opened ∧
      ∀ login ∈ w.log.opened, oneLogin.validateIdToken login.idToken login.transaction.nonce login.checkedAt = some login.identity := by
  intro printer
  obtain ⟨w,run,opened,-⟩ := approvedOnce_run printer
  obtain ⟨same,-,-,valid⟩ := logins_authentic run
  exact ⟨w,run,opened,same,fun login listed => (valid login listed).2.2⟩

theorem actions_authorized_run : let _ := asciiPrinter
    ∃ w, Run (Step oneLogin id 60 30 .ANALYST) World.fresh approvedOnce w ∧ w.actions.map (·.capability) = [.APPROVE_ACTIONS] ∧
      ∀ action ∈ w.actions, ∃ verified ∈ w.log.verified, verified.identity.subject = action.token.principal.ssoSubject ∧
        hasCapability (mapRole verified.identity.roles .ANALYST) action.capability = true := by
  intro printer
  obtain ⟨w,run,-,acted⟩ := approvedOnce_run printer
  refine ⟨w,run,acted,fun action listed => ?_⟩
  obtain ⟨-,-,verified,known,subject,-,granted⟩ := actions_authorized run action listed
  exact ⟨verified,known,subject,granted⟩

end SocAnalyst.Logins
