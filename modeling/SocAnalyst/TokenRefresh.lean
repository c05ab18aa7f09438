import Mathlib.Logic.Function.Basic
import SocAnalyst.Builtins
import SocAnalyst.Dicts
import SocAnalyst.Runs

/-!
# Refreshing the access token

`createClient` of `api/client.ts` with the `sessionTokens` of `auth/session.ts`, as the
tasks and continuations of one page. A response arrives as a task; a task starts only when
every continuation has run, and its own first continuation runs with it.
-/
namespace SocAnalyst.TokenRefresh
open SocAnalyst.Builtins SocAnalyst.Dicts SocAnalyst.Runs

structure TokenPair where
  accessToken : Text
  refreshToken : Text

/-- The token keys of the session storage. -/
structure Storage where
  access : Option Text
  refresh : Option Text

/-- The tokens of the session. The storage may be unavailable. -/
structure SessionTokens where
  storage : Option Storage

namespace SessionTokens

def accessToken (tokens : SessionTokens) : Option Text := tokens.storage.bind (·.access)

def refreshToken (tokens : SessionTokens) : Option Text := tokens.storage.bind (·.refresh)

def set (tokens : SessionTokens) (pair : TokenPair) : SessionTokens :=
  ⟨tokens.storage.map fun _ => ⟨some pair.accessToken,some pair.refreshToken⟩⟩

def clear (tokens : SessionTokens) : SessionTokens := ⟨tokens.storage.map fun _ => ⟨none,none⟩⟩

@[simp] theorem isSome_set (tokens : SessionTokens) (pair : TokenPair) : (tokens.set pair).storage.isSome = tokens.storage.isSome := by
  simp [set]

@[simp] theorem isSome_clear (tokens : SessionTokens) : tokens.clear.storage.isSome = tokens.storage.isSome := by
  simp [clear]

@[simp] theorem refreshToken_clear (tokens : SessionTokens) : tokens.clear.refreshToken = none := by
  cases storage : tokens.storage <;> simp [clear,refreshToken,storage]

theorem refreshToken_set {tokens : SessionTokens} {pair : TokenPair} {token : Text}
    (stored : (tokens.set pair).refreshToken = some token) : token = pair.refreshToken := by
  cases storage : tokens.storage <;> simp [set,refreshToken,storage] at stored
  exact stored.symm

theorem accessToken_set {tokens : SessionTokens} (available : tokens.storage.isSome = true) (pair : TokenPair) :
    (tokens.set pair).accessToken = some pair.accessToken := by
  obtain ⟨storage,is⟩ := Option.isSome_iff_exists.mp available
  simp [set,accessToken,is]

theorem isSome_of_accessToken {tokens : SessionTokens} {access : Text} (stored : tokens.accessToken = some access) :
    tokens.storage.isSome = true := by
  cases storage : tokens.storage with
  | none => simp [accessToken,storage] at stored
  | some _ => rfl

theorem isSome_of_refreshToken {tokens : SessionTokens} {token : Text} (stored : tokens.refreshToken = some token) :
    tokens.storage.isSome = true := by
  cases storage : tokens.storage with
  | none => simp [refreshToken,storage] at stored
  | some _ => rfl

end SessionTokens

/-- A request to the API; the body is serialized. -/
structure RequestOptions where
  path : Text
  method : Option Text := none
  body : Option Text := none
  /-- Set when the request must not attempt a token refresh. -/
  skipRefresh : Bool := false

structure RequestInit where
  url : Text
  method : Text
  headers : Dict Text Text
  body : Option Text

/-- A `fetch`: an attempt at a request of the API, or a refresh token presented to
    `/auth/refresh`. -/
inductive Call where
  | api (request : Nat) (init : RequestInit)
  | refresh (token : Text)

/-- What a refresh resolves to, or that it rejects. -/
inductive Outcome where
  | renewed
  | refused
  | failed
  deriving DecidableEq

/-- Where a refresh is: its response is awaited, the body of its response, the step that
    clears the shared promise, or nothing. -/
inductive RefreshPhase where
  | unmade
  | requesting
  | reading
  | settled (outcome : Outcome)
  | resolved (outcome : Outcome)

/-- Where a `send` is. -/
inductive RequestPhase where
  | idle
  | sent (init : RequestInit)
  | awaiting (init : RequestInit) (promise : Nat)
  | resent
  | finished

structure World where
  tokens : SessionTokens
  inFlightRefresh : Option Nat
  /-- The refreshes in the order they were made. -/
  refreshes : Nat → RefreshPhase
  made : Nat
  requests : Nat → RequestPhase
  calls : List Call

namespace World

def setRequest (world : World) (request : Nat) (phase : RequestPhase) : World :=
  { world with requests := Function.update world.requests request phase }

def setRefresh (world : World) (promise : Nat) (phase : RefreshPhase) : World :=
  { world with refreshes := Function.update world.refreshes promise phase }

@[simp] theorem setRequest_self (world : World) (request : Nat) (phase : RequestPhase) :
    (world.setRequest request phase).requests request = phase := Function.update_self ..

theorem setRequest_of_ne {request other : Nat} (apart : other ≠ request) (world : World) (phase : RequestPhase) :
    (world.setRequest request phase).requests other = world.requests other := Function.update_of_ne apart ..

@[simp] theorem setRefresh_self (world : World) (promise : Nat) (phase : RefreshPhase) :
    (world.setRefresh promise phase).refreshes promise = phase := Function.update_self ..

theorem setRefresh_of_ne {promise other : Nat} (apart : other ≠ promise) (world : World) (phase : RefreshPhase) :
    (world.setRefresh promise phase).refreshes other = world.refreshes other := Function.update_of_ne apart ..

/-- Join the refresh in flight or start one. The answer is the promise to await; without a
    refresh token there is none. -/
def refresh (world : World) : World × Option Nat :=
  match world.tokens.refreshToken with
  | none => (world,none)
  | some token =>
    match world.inFlightRefresh with
    | some promise => (world,some promise)
    | none =>
      ({ world with
          inFlightRefresh := some world.made
          refreshes := Function.update world.refreshes world.made .requesting
          made := world.made + 1
          calls := world.calls ++ [.refresh token] },some world.made)

end World

def authorize (access : Option Text) (headers : Dict Text Text) : Dict Text Text :=
  match access with
  | none => headers
  | some token => headers.set (lit "Authorization") (lit "Bearer " ++ token)

section
variable (apiBaseUrl : Text) (options : Nat → RequestOptions)

def initOf (options : RequestOptions) (access : Option Text) : RequestInit where
  url := apiBaseUrl ++ options.path
  method := options.method.getD (lit "GET")
  headers :=
    let headers := authorize access (Dict.empty.set (lit "Accept") (lit "application/json"))
    if options.body = none then headers else headers.set (lit "Content-Type") (lit "application/json")
  body := options.body

namespace World

/-- The first attempt of a request. -/
def send (world : World) (request : Nat) : World :=
  let init := initOf apiBaseUrl (options request) world.tokens.accessToken
  { world.setRequest request (.sent init) with calls := world.calls ++ [.api request init] }

/-- The first attempt was answered. -/
def respond (world : World) (request : Nat) (init : RequestInit) (status : Nat) : World :=
  if status = 401 ∧ (options request).skipRefresh = false then
    match world.refresh with
    | (next,some promise) => next.setRequest request (.awaiting init promise)
    | (next,none) => next.setRequest request .finished
  else world.setRequest request .finished

/-- The second attempt of a request. -/
def resend (world : World) (request : Nat) (init : RequestInit) : World :=
  { world.setRequest request .resent with
    calls := world.calls ++ [.api request { init with headers := authorize world.tokens.accessToken init.headers }] }

/-- The awaited refresh is over. -/
def resume (world : World) (request : Nat) (init : RequestInit) : Outcome → World
  | .renewed => world.resend request init
  | _ => world.setRequest request .finished

end World

/-- No continuation is left to run. -/
structure Quiet (world : World) : Prop where
  settled : ∀ promise outcome, world.refreshes promise ≠ .settled outcome
  resolved : ∀ request init promise outcome, world.requests request = .awaiting init promise →
    world.refreshes promise ≠ .resolved outcome

inductive Move where
  | call (request : Nat)
  | respond (request : Nat) (status : Nat)
  | fail (request : Nat)
  | refuse (promise : Nat)
  | accept (promise : Nat)
  | rotate (promise : Nat) (pair : TokenPair)
  | lose (promise : Nat)
  | release (promise : Nat)
  | resume (request : Nat)
  | signIn (pair : TokenPair)
  | signOut

inductive Step : World → Move → World → Prop where
  /-- The application calls the client from any task or continuation, and signs in likewise. -/
  | call {w : World} {request : Nat} (new : w.requests request = .idle) : Step w (.call request) (w.send apiBaseUrl options request)
  | respond {w : World} (quiet : Quiet w) {request : Nat} {init : RequestInit} (here : w.requests request = .sent init) (status : Nat) :
      Step w (.respond request status) (w.respond options request init status)
  | respondAgain {w : World} (quiet : Quiet w) {request : Nat} (here : w.requests request = .resent) (status : Nat) :
      Step w (.respond request status) (w.setRequest request .finished)
  /-- The network fails, or the caller aborts. -/
  | fail {w : World} (quiet : Quiet w) {request : Nat} (here : (∃ init, w.requests request = .sent init) ∨ w.requests request = .resent) :
      Step w (.fail request) (w.setRequest request .finished)
  /-- The response of a refresh is not ok. -/
  | refuse {w : World} (quiet : Quiet w) {promise : Nat} (here : w.refreshes promise = .requesting) :
      Step w (.refuse promise) { w.setRefresh promise (.settled .refused) with tokens := w.tokens.clear }
  | accept {w : World} (quiet : Quiet w) {promise : Nat} (here : w.refreshes promise = .requesting) :
      Step w (.accept promise) (w.setRefresh promise .reading)
  | rotate {w : World} (quiet : Quiet w) {promise : Nat} (here : w.refreshes promise = .reading) (pair : TokenPair) :
      Step w (.rotate promise pair) { w.setRefresh promise (.settled .renewed) with tokens := w.tokens.set pair }
  /-- A refresh gets no response, or none that can be read. -/
  | lose {w : World} (quiet : Quiet w) {promise : Nat} (here : w.refreshes promise = .requesting ∨ w.refreshes promise = .reading) :
      Step w (.lose promise) (w.setRefresh promise (.settled .failed))
  | release {w : World} {promise : Nat} {outcome : Outcome} (here : w.refreshes promise = .settled outcome) :
      Step w (.release promise) { w.setRefresh promise (.resolved outcome) with inFlightRefresh := none }
  | resume {w : World} {request : Nat} {init : RequestInit} {promise : Nat} {outcome : Outcome}
      (here : w.requests request = .awaiting init promise) (ended : w.refreshes promise = .resolved outcome) :
      Step w (.resume request) (w.resume request init outcome)
  | signIn (w : World) (pair : TokenPair) : Step w (.signIn pair) { w with tokens := w.tokens.set pair }
  | signOut {w : World} (quiet : Quiet w) : Step w .signOut { w with tokens := w.tokens.clear }

/-! ### What was sent -/

/-- The refresh tokens presented so far. -/
def presented (calls : List Call) : List Text :=
  calls.filterMap fun
    | .refresh token => some token
    | .api _ _ => none

/-- The attempts at a request so far. -/
def attempts (request : Nat) (calls : List Call) : List RequestInit :=
  calls.filterMap fun
    | .api other init => if other = request then some init else none
    | .refresh _ => none

@[simp] theorem presented_api (calls : List Call) (request : Nat) (init : RequestInit) :
    presented (calls ++ [.api request init]) = presented calls := by
  simp [presented]

@[simp] theorem presented_refresh (calls : List Call) (token : Text) :
    presented (calls ++ [.refresh token]) = presented calls ++ [token] := by
  simp [presented]

@[simp] theorem attempts_refresh (request : Nat) (calls : List Call) (token : Text) :
    attempts request (calls ++ [.refresh token]) = attempts request calls := by
  simp [attempts]

theorem attempts_api (request other : Nat) (calls : List Call) (init : RequestInit) :
    attempts request (calls ++ [.api other init]) = if other = request then attempts request calls ++ [init] else attempts request calls := by
  by_cases same : other = request <;> simp [attempts,same]

/-- Every refresh gets a complete response, and the pairs handed out carry a refresh token
    that was not presented before. -/
def Rotates (world : World) : Move → Prop
  | .rotate _ pair | .signIn pair => pair.refreshToken ∉ presented world.calls
  | .lose _ => False
  | _ => True

/-- The refresh that the request awaited has succeeded, and the request is sent a second time
    with the access token stored then. -/
def Retried (world next : World) (request : Nat) : Prop :=
  ∃ init promise access, world.requests request = .awaiting init promise ∧ world.refreshes promise = .resolved .renewed ∧
    world.tokens.accessToken = some access ∧ attempts request world.calls = [init] ∧
    attempts request next.calls = [init,{ init with headers := init.headers.set (lit "Authorization") (lit "Bearer " ++ access) }]

/-- A page that was just loaded, with any tokens in the session. -/
structure Loaded (world : World) : Prop where
  inFlightRefresh : world.inFlightRefresh = none
  unmade : ∀ promise, world.refreshes promise = .unmade
  idle : ∀ request, world.requests request = .idle
  calls : world.calls = []

/-! ### One refresh at a time -/

/-- The refresh request was sent and not answered in full. -/
def RefreshPhase.inFlight : RefreshPhase → Bool
  | .requesting | .reading => true
  | _ => false

/-- The promise is still shared. -/
def RefreshPhase.shared : RefreshPhase → Bool
  | .requesting | .reading | .settled _ => true
  | _ => false

theorem RefreshPhase.shared_of_inFlight {phase : RefreshPhase} (open' : phase.inFlight = true) : phase.shared = true := by
  cases phase <;> trivial

/-- What the refreshes and the stored tokens have to do with each other. -/
structure Rotation (world : World) : Prop where
  /-- The promise that the module holds is the only shared one. -/
  held : ∀ promise, (world.refreshes promise).shared = true ↔ world.inFlightRefresh = some promise
  unmade : ∀ promise, world.made ≤ promise → world.refreshes promise = .unmade
  available : ∀ promise, world.refreshes promise ≠ .unmade → world.tokens.storage.isSome = true
  once : (presented world.calls).Nodup
  /-- A stored token was presented by the refresh in flight only. -/
  spent : ∀ token, world.tokens.refreshToken = some token → token ∈ presented world.calls →
    ∃ promise, (world.refreshes promise).inFlight = true

/-- Steps of requests leave the refreshes as they are. -/
theorem Rotation.congr {world next : World} (rotation : Rotation world) (tokens : next.tokens = world.tokens)
    (inFlight : next.inFlightRefresh = world.inFlightRefresh) (refreshes : next.refreshes = world.refreshes)
    (made : next.made = world.made) (calls : presented next.calls = presented world.calls) : Rotation next where
  held := by simpa only [refreshes,inFlight] using rotation.held
  unmade := by simpa only [refreshes,made] using rotation.unmade
  available := by simpa only [refreshes,tokens] using rotation.available
  once := by simpa only [calls] using rotation.once
  spent := by simpa only [tokens,calls,refreshes] using rotation.spent

/-- A shared refresh moves on and the tokens stay, or are replaced by ones not presented. -/
theorem Rotation.setRefresh {world : World} (rotation : Rotation world) {promise : Nat} {phase : RefreshPhase} {tokens : SessionTokens}
    (before : (world.refreshes promise).shared = true) (after : phase.shared = true)
    (available : tokens.storage.isSome = world.tokens.storage.isSome)
    (fresh : phase.inFlight = true ∨ ∀ token, tokens.refreshToken = some token → token ∉ presented world.calls) :
    Rotation { world.setRefresh promise phase with tokens := tokens } where
  held other := by
    by_cases same : other = promise
    · subst same
      simpa [World.setRefresh,after,before] using rotation.held other
    · simpa [World.setRefresh,same] using rotation.held other
  unmade other beyond := by
    have apart : other ≠ promise := by
      rintro rfl
      rw [rotation.unmade other beyond] at before
      cases before
    simpa [World.setRefresh,apart] using rotation.unmade other beyond
  available other made := by
    simp only [available]
    exact rotation.available promise fun unmade => by rw [unmade] at before; cases before
  once := rotation.once
  spent token stored was := by
    rcases fresh with flying | new
    · exact ⟨promise,by simpa [World.setRefresh] using flying⟩
    · exact absurd was (new token stored)

/-- Where no refresh is in flight, a new one presents a new token. -/
theorem Rotation.refresh {world : World} (rotation : Rotation world) : Rotation world.refresh.1 := by
  unfold World.refresh
  cases stored : world.tokens.refreshToken with
  | none => exact rotation
  | some token =>
    cases held : world.inFlightRefresh with
    | some promise => exact rotation
    | none =>
      have unshared : ∀ promise, (world.refreshes promise).shared = false := by
        intro promise
        have none := rotation.held promise
        simpa [held] using none
      have new : token ∉ presented world.calls := by
        intro was
        obtain ⟨promise,flying⟩ := rotation.spent token stored was
        have shared := RefreshPhase.shared_of_inFlight flying
        rw [unshared promise] at shared
        cases shared
      refine ⟨fun promise => ?_,fun promise beyond => ?_,fun promise made => ?_,?_,fun other _ _ => ?_⟩
      · by_cases same : promise = world.made
        · simp [same,RefreshPhase.shared]
        · simp [same,unshared promise,Ne.symm same]
      · have apart : promise ≠ world.made := by
          simp only at beyond
          omega
        simpa [apart] using rotation.unmade promise (by simp only at beyond; omega)
      · exact SessionTokens.isSome_of_refreshToken stored
      · simpa [List.nodup_append] using ⟨rotation.once,fun other was same => new (same ▸ was)⟩
      · exact ⟨world.made,by simp [RefreshPhase.inFlight]⟩

/-- Without a refresh token nothing is refreshed. -/
theorem refresh_refused {world next : World} (alone : world.refresh = (next,none)) : next = world := by
  unfold World.refresh at alone
  split at alone
  · cases alone
    rfl
  · split at alone <;> cases alone

/-- An answered attempt is the last one, or the request awaits the refresh that it joined
    or started. -/
theorem respond_cases (world : World) (request : Nat) (init : RequestInit) (status : Nat) :
    world.respond options request init status = world.setRequest request .finished ∨
      ∃ after promise, world.refresh = (after,some promise) ∧
        world.respond options request init status = after.setRequest request (.awaiting init promise) := by
  unfold World.respond
  split_ifs
  · split
    · rename_i after promise joined
      exact .inr ⟨after,promise,joined,rfl⟩
    · rename_i after alone
      rw [refresh_refused alone]
      exact .inl rfl
  · exact .inl rfl

variable {apiBaseUrl options}

theorem Rotation.step {world next : World} {move : Move} (rotation : Rotation world) (rotates : Rotates world move)
    (step : Step apiBaseUrl options world move next) : Rotation next := by
  cases step with
  | call new => exact rotation.congr rfl rfl rfl rfl (presented_api ..)
  | @respond quiet request init here status =>
    rcases respond_cases options world request init status with last | ⟨after,promise,joined,awaits⟩
    · rw [last]
      exact rotation.congr rfl rfl rfl rfl rfl
    · have refreshed := rotation.refresh
      rw [joined] at refreshed
      rw [awaits]
      exact refreshed.congr rfl rfl rfl rfl rfl
  | respondAgain | fail => exact rotation.congr rfl rfl rfl rfl rfl
  | refuse quiet here =>
    exact rotation.setRefresh (by rw [here]; rfl) rfl (by simp) (.inr (by simp))
  | accept quiet here => exact rotation.setRefresh (by rw [here]; rfl) rfl rfl (.inl rfl)
  | rotate quiet here pair =>
    refine rotation.setRefresh (by rw [here]; rfl) rfl (by simp) (.inr fun token stored => ?_)
    rw [SessionTokens.refreshToken_set stored]
    exact rotates
  | lose => exact rotates.elim
  | @release promise outcome here =>
    have holds : world.inFlightRefresh = some promise := (rotation.held promise).mp (by rw [here]; rfl)
    refine ⟨fun other => ?_,fun other beyond => ?_,fun other made => ?_,rotation.once,fun token stored was => ?_⟩
    · by_cases same : other = promise
      · simp [World.setRefresh,same,RefreshPhase.shared]
      · have apart := rotation.held other
        simp only [holds,Option.some.injEq,Ne.symm same,iff_false] at apart
        simpa [World.setRefresh,same] using apart
    · have apart : other ≠ promise := by
        rintro rfl
        rw [rotation.unmade other beyond] at here
        cases here
      simpa [World.setRefresh,apart] using rotation.unmade other beyond
    · exact rotation.available promise (by rw [here]; nofun)
    · obtain ⟨other,flying⟩ := rotation.spent token stored was
      have apart : other ≠ promise := by
        rintro rfl
        rw [here] at flying
        cases flying
      exact ⟨other,by simpa [World.setRefresh,apart] using flying⟩
  | @resume request init promise outcome here ended =>
    cases outcome with
    | renewed => exact rotation.congr rfl rfl rfl rfl (presented_api ..)
    | _ => exact rotation.congr rfl rfl rfl rfl rfl
  | signIn pair =>
    refine ⟨rotation.held,rotation.unmade,fun promise made => ?_,rotation.once,fun token stored was => ?_⟩
    · simpa using rotation.available promise made
    · rw [SessionTokens.refreshToken_set stored] at was
      exact absurd was rotates
  | signOut quiet =>
    refine ⟨rotation.held,rotation.unmade,fun promise made => ?_,rotation.once,fun token stored was => ?_⟩
    · simpa using rotation.available promise made
    · simp at stored

/-! ### Attempts -/

/-- The attempts that a request in a phase has made. -/
def RequestPhase.Made (made : List RequestInit) : RequestPhase → Prop
  | .idle => made = []
  | .sent init | .awaiting init _ => made = [init]
  | .resent => made.length = 2
  | .finished => made.length ≤ 2

def Counted (world : World) : Prop := ∀ request, (world.requests request).Made (attempts request world.calls)

/-- A request moves on with the attempts it has made. -/
theorem Counted.setRequest {world next : World} (counted : Counted world) (request : Nat) {phase : RequestPhase}
    (requests : next.requests = Function.update world.requests request phase)
    (others : ∀ other, other ≠ request → attempts other next.calls = attempts other world.calls)
    (own : phase.Made (attempts request next.calls)) : Counted next := by
  intro other
  by_cases same : other = request
  · rw [same,requests,Function.update_self]
    exact own
  · rw [requests,Function.update_of_ne same,others other same]
    exact counted other

theorem RequestPhase.Made.finish {phase : RequestPhase} {made : List RequestInit} (counted : phase.Made made) :
    RequestPhase.finished.Made made := by
  unfold RequestPhase.Made at *
  cases phase <;> simp only at counted ⊢ <;> simp [counted]

theorem refresh_requests (world : World) : world.refresh.1.requests = world.requests := by
  unfold World.refresh
  split
  · rfl
  · split <;> rfl

theorem attempts_refreshed (world : World) (request : Nat) : attempts request world.refresh.1.calls = attempts request world.calls := by
  unfold World.refresh
  split
  · rfl
  · split
    · rfl
    · simp

theorem Counted.step {world next : World} {move : Move} (counted : Counted world) (step : Step apiBaseUrl options world move next) :
    Counted next := by
  cases step with
  | @call request new =>
    have none := counted request
    rw [new] at none
    refine counted.setRequest request rfl (fun other apart => ?_) ?_
    · simp [World.send,World.setRequest,attempts_api,Ne.symm apart]
    · simp only [World.send,World.setRequest,attempts_api,if_true,show attempts request world.calls = [] from none]
      rfl
  | @respond quiet request init here status =>
    have once := counted request
    rw [here] at once
    rcases respond_cases options world request init status with last | ⟨after,promise,joined,awaits⟩
    · rw [last]
      exact counted.setRequest request rfl (fun _ _ => rfl) (counted request).finish
    · have calls := attempts_refreshed world
      have requests := refresh_requests world
      rw [joined] at calls requests
      rw [awaits]
      refine counted.setRequest request (by rw [← requests]; rfl) (fun other _ => calls other) ?_
      exact (calls request).trans once
  | @respondAgain quiet request here status => exact counted.setRequest request rfl (fun _ _ => rfl) (counted request).finish
  | @fail quiet request here => exact counted.setRequest request rfl (fun _ _ => rfl) (counted request).finish
  | refuse | accept | rotate | lose | release | signIn | signOut => exact counted
  | @resume request init promise outcome here ended =>
    have once := counted request
    rw [here] at once
    cases outcome with
    | renewed =>
      refine counted.setRequest request rfl (fun other apart => ?_) ?_
      · simp [World.resume,World.resend,World.setRequest,attempts_api,Ne.symm apart]
      · simp only [World.resume,World.resend,World.setRequest,attempts_api,if_true,show attempts request world.calls = [init] from once]
        rfl
    | _ => exact counted.setRequest request rfl (fun _ _ => rfl) (counted request).finish

/-! ### Renewed tokens -/

/-- As long as a continuation of a refresh that succeeded is left to run, an access token
    is stored. -/
structure Renewed (world : World) : Prop where
  settled : ∀ promise, world.refreshes promise = .settled .renewed → ∃ access, world.tokens.accessToken = some access
  awaited : ∀ request init promise, world.requests request = .awaiting init promise → world.refreshes promise = .resolved .renewed →
    ∃ access, world.tokens.accessToken = some access

/-- A request moves on without awaiting anything. -/
theorem Renewed.setRequest {world next : World} (renewed : Renewed world) {request : Nat} {phase : RequestPhase}
    (tokens : next.tokens = world.tokens) (refreshes : next.refreshes = world.refreshes)
    (requests : next.requests = Function.update world.requests request phase) (onward : ∀ init promise, phase ≠ .awaiting init promise) :
    Renewed next where
  settled promise := by simpa only [tokens,refreshes] using renewed.settled promise
  awaited other init promise here ended := by
    by_cases same : other = request
    · rw [requests,same,Function.update_self] at here
      exact absurd here (onward init promise)
    · rw [requests,Function.update_of_ne same] at here
      rw [refreshes] at ended
      rw [tokens]
      exact renewed.awaited other init promise here ended

/-- A task moves a refresh on. -/
theorem Renewed.setRefresh {world next : World} (quiet : Quiet world) {promise : Nat} {phase : RefreshPhase}
    (refreshes : next.refreshes = Function.update world.refreshes promise phase) (requests : next.requests = world.requests)
    (open' : ∀ outcome, phase ≠ .resolved outcome) (set : phase = .settled .renewed → ∃ access, next.tokens.accessToken = some access) :
    Renewed next where
  settled other settled := by
    by_cases same : other = promise
    · rw [refreshes,same,Function.update_self] at settled
      exact set settled
    · rw [refreshes,Function.update_of_ne same] at settled
      exact absurd settled (quiet.settled other .renewed)
  awaited request init other here ended := by
    by_cases same : other = promise
    · rw [refreshes,same,Function.update_self] at ended
      exact absurd ended (open' .renewed)
    · rw [refreshes,Function.update_of_ne same] at ended
      rw [requests] at here
      exact absurd ended (quiet.resolved request init other .renewed here)

/-- The promise that a refused request awaits is not resolved yet. -/
theorem refresh_joined {world next : World} {promise : Nat} (rotation : Rotation world) (quiet : Quiet world)
    (joined : world.refresh = (next,some promise)) :
    (next.refreshes promise).inFlight = true ∧ ∀ other, other ≠ promise → next.refreshes other = world.refreshes other := by
  unfold World.refresh at joined
  split at joined
  · cases joined
  · split at joined
    · rename_i held
      cases joined
      have shared := (rotation.held promise).mpr held
      refine ⟨?_,fun _ _ => rfl⟩
      cases phase : world.refreshes promise with
      | settled outcome => exact absurd phase (quiet.settled promise outcome)
      | requesting | reading => rfl
      | _ => simp [phase,RefreshPhase.shared] at shared
    · cases joined
      exact ⟨by simp [RefreshPhase.inFlight],fun other apart => Function.update_of_ne apart ..⟩

theorem Renewed.step {world next : World} {move : Move} (rotation : Rotation world) (renewed : Renewed world)
    (step : Step apiBaseUrl options world move next) : Renewed next := by
  cases step with
  | @call request new => exact renewed.setRequest rfl rfl rfl nofun
  | @respond quiet request init here status =>
    rcases respond_cases options world request init status with last | ⟨after,promise,joined,awaits⟩
    · rw [last]
      exact renewed.setRequest rfl rfl rfl nofun
    · have requests := refresh_requests world
      obtain ⟨flying,others⟩ := refresh_joined rotation quiet joined
      rw [joined] at requests
      have unresolved : ∀ other phase, after.refreshes other = phase → phase.inFlight = false → world.refreshes other = phase := by
        intro other phase is landed
        have apart : other ≠ promise := by
          rintro rfl
          rw [is,landed] at flying
          cases flying
        exact (others other apart).symm.trans is
      rw [awaits]
      refine ⟨fun other settled => ?_,fun other init' other' here' ended => ?_⟩
      · exact absurd (unresolved other _ settled rfl) (quiet.settled other .renewed)
      · have still := unresolved other' _ ended rfl
        by_cases same : other = request
        · rw [same,World.setRequest_self] at here'
          cases here'
          rw [show after.refreshes promise = _ from ended] at flying
          cases flying
        · rw [World.setRequest_of_ne same,show after.requests = _ from requests] at here'
          exact absurd still (quiet.resolved other init' other' .renewed here')
  | respondAgain quiet here status => exact renewed.setRequest rfl rfl rfl nofun
  | fail quiet here => exact renewed.setRequest rfl rfl rfl nofun
  | refuse quiet here => exact .setRefresh quiet rfl rfl nofun nofun
  | accept quiet here => exact .setRefresh quiet rfl rfl nofun nofun
  | lose quiet here => exact .setRefresh quiet rfl rfl nofun nofun
  | @rotate quiet promise here pair =>
    have available := rotation.available promise (by rw [here]; nofun)
    exact .setRefresh quiet rfl rfl nofun fun _ => ⟨_,SessionTokens.accessToken_set available pair⟩
  | @release promise outcome here =>
    refine ⟨fun other settled => ?_,fun request init other here' ended => ?_⟩
    · by_cases same : other = promise
      · rw [same,World.setRefresh_self] at settled
        cases settled
      · rw [World.setRefresh_of_ne same] at settled
        exact renewed.settled other settled
    · by_cases same : other = promise
      · rw [same,World.setRefresh_self] at ended
        cases ended
        exact renewed.settled promise here
      · rw [World.setRefresh_of_ne same] at ended
        exact renewed.awaited request init other here' ended
  | @resume request init promise outcome here ended =>
    cases outcome with
    | renewed => exact renewed.setRequest rfl rfl rfl nofun
    | _ => exact renewed.setRequest rfl rfl rfl nofun
  | signIn pair =>
    have set : (∃ access, world.tokens.accessToken = some access) → ∃ access, (world.tokens.set pair).accessToken = some access := by
      rintro ⟨access,stored⟩
      exact ⟨_,SessionTokens.accessToken_set (SessionTokens.isSome_of_accessToken stored) pair⟩
    exact ⟨fun promise settled => set (renewed.settled promise settled),
      fun request init promise here ended => set (renewed.awaited request init promise here ended)⟩
  | signOut quiet =>
    exact ⟨fun promise settled => absurd settled (quiet.settled promise .renewed),
      fun request init promise here ended => absurd ended (quiet.resolved request init promise .renewed here)⟩

/-! ### Whole runs -/

structure Sound (world : World) : Prop where
  rotation : Rotation world
  counted : Counted world
  renewed : Renewed world

theorem Loaded.sound {start : World} (loaded : Loaded start) : Sound start where
  rotation := by
    refine ⟨fun promise => ?_,fun promise _ => loaded.unmade promise,fun promise made => absurd (loaded.unmade promise) made,?_,?_⟩
    · simp [loaded.unmade promise,loaded.inFlightRefresh,RefreshPhase.shared]
    · simp [loaded.calls,presented]
    · simp [loaded.calls,presented]
  counted request := by
    rw [loaded.idle,loaded.calls]
    rfl
  renewed := by
    refine ⟨fun promise settled => ?_,fun request init promise here _ => ?_⟩
    · rw [loaded.unmade] at settled
      cases settled
    · rw [loaded.idle] at here
      cases here

/-- A second attempt follows a refresh that succeeded, with the stored access token. -/
theorem Sound.second {world next : World} {move : Move} {request : Nat} (sound : Sound world)
    (step : Step apiBaseUrl options world move next) (first : attempts request world.calls ≠ [])
    (again : attempts request next.calls ≠ attempts request world.calls) :
    Retried world next request := by
  have made := sound.counted request
  cases step with
  | @call other new =>
    by_cases same : other = request
    · subst same
      rw [new] at made
      exact absurd made first
    · exact absurd (by simp [World.send,World.setRequest,attempts_api,same]) again
  | @respond quiet other init here status =>
    refine absurd ?_ again
    rcases respond_cases options world other init status with last | ⟨after,promise,joined,awaits⟩
    · rw [last]
      rfl
    · have calls := attempts_refreshed world request
      rw [joined] at calls
      rw [awaits]
      exact calls
  | @resume other init promise outcome here ended =>
    cases outcome with
    | renewed =>
      by_cases same : other = request
      · subst same
        rw [here] at made
        obtain ⟨access,stored⟩ := sound.renewed.awaited other init promise here ended
        refine ⟨init,promise,access,here,ended,stored,made,?_⟩
        simp only [World.resume,World.resend,World.setRequest,attempts_api,if_true,show attempts other world.calls = [init] from made,
          stored,authorize,List.singleton_append]
      · exact absurd (by simp [World.resume,World.resend,World.setRequest,attempts_api,same]) again
    | _ => exact absurd rfl again
  | _ => exact absurd rfl again

/-- At every moment of a page whose refreshes are answered with fresh tokens, at most one
    refresh is in flight, no refresh token was presented twice and no request was sent more
    than twice; a request is sent again only when the refresh it awaited has succeeded, and
    with the access token that is stored then. -/
theorem refreshes_serialized {start world : World} {moves : List Move} (loaded : Loaded start)
    (run : Run (Guarded Rotates (Step apiBaseUrl options)) start moves world) :
    (∀ first second, (world.refreshes first).inFlight = true → (world.refreshes second).inFlight = true → first = second) ∧
      (presented world.calls).Nodup ∧ (∀ request, (attempts request world.calls).length ≤ 2) ∧
      ∀ move next request, Guarded Rotates (Step apiBaseUrl options) world move next → attempts request world.calls ≠ [] →
        attempts request next.calls ≠ attempts request world.calls →
        Retried world next request := by
  have sound : Sound world := by
    refine run.invariant ?_ loaded.sound
    rintro here move next ⟨rotation,counted,renewed⟩ ⟨rotates,step⟩
    exact ⟨rotation.step rotates step,counted.step step,renewed.step rotation step⟩
  refine ⟨fun first second one two => ?_,sound.rotation.once,fun request => (sound.counted request).finish,?_⟩
  · have holds := (sound.rotation.held first).mp (RefreshPhase.shared_of_inFlight one)
    have also := (sound.rotation.held second).mp (RefreshPhase.shared_of_inFlight two)
    exact Option.some.inj (holds.symm.trans also)
  · rintro move next request ⟨_,step⟩ first again
    exact sound.second step first again

end

/-- A page of a session whose access token has expired. -/
def expired : World where
  tokens := ⟨some ⟨some (lit "expired"),some (lit "refresh-1")⟩⟩
  inFlightRefresh := none
  refreshes := fun _ => .unmade
  made := 0
  requests := fun _ => .idle
  calls := []

private theorem quiet_of {world : World} (settled : ∀ promise outcome, world.refreshes promise ≠ .settled outcome)
    (resolved : ∀ promise outcome, world.refreshes promise ≠ .resolved outcome) : Quiet world :=
  ⟨settled,fun _ _ promise outcome _ => resolved promise outcome⟩

/-- Two requests hit the expired token together: one refresh, and both are sent again. -/
theorem rotated_once : ∃ moves world,
    Run (Guarded Rotates (Step [] fun _ => { path := lit "/investigations" })) expired moves world ∧
      (attempts 0 world.calls).length = 2 ∧ (attempts 1 world.calls).length = 2 ∧ presented world.calls = [lit "refresh-1"] ∧
      (presented world.calls).Nodup := by
  let renewed : TokenPair := ⟨lit "access-2",lit "refresh-2"⟩
  have run : Run (Guarded Rotates (Step [] fun _ => { path := lit "/investigations" })) expired
      [.call 0,.call 1,.respond 0 401,.respond 1 401,.accept 0,.rotate 0 renewed,.release 0,.resume 1,.resume 0] _ :=
    .go ⟨trivial,.call rfl⟩ (.go ⟨trivial,.call rfl⟩
      (.go ⟨trivial,.respond (quiet_of (fun _ _ same => RefreshPhase.noConfusion same) fun _ _ same => RefreshPhase.noConfusion same) rfl 401⟩
      (.go ⟨trivial,.respond (quiet_of (fun promise _ => by cases promise <;> nofun) fun promise _ => by cases promise <;> nofun) rfl 401⟩
      (.go ⟨trivial,.accept (quiet_of (fun promise _ => by cases promise <;> nofun) fun promise _ => by cases promise <;> nofun) rfl⟩
      (.go ⟨show lit "refresh-2" ∉ [lit "refresh-1"] by decide,.rotate (quiet_of (fun promise _ => by cases promise <;> nofun) fun promise _ => by cases promise <;> nofun) rfl renewed⟩
      (.go ⟨trivial,.release rfl⟩ (.go ⟨trivial,.resume rfl rfl⟩ (.go ⟨trivial,.resume rfl rfl⟩ (.stop _)))))))))
  exact ⟨_,_,run,rfl,rfl,rfl,(refreshes_serialized ⟨rfl,fun _ => rfl,fun _ => rfl,rfl⟩ run).2.1⟩

end SocAnalyst.TokenRefresh
