/-
The addresses of the backup proxies of an account. A round of registration clears them
and asks the resolver for every configured route; each answer appends an address, in
any order. The resolver's callbacks are kept by name for the whole process, and a second
callback for a name in flight is dropped. Entries carry the route they were resolved
for, which the code does not have.
-/

import Mathlib.Data.List.Perm.Subperm
import SipCore.Library.AssocMap
import SipCore.Library.GuardedRun

namespace SipCore

inductive ResolveCallback where
  | serviceRoute
  | backServiceRoute (route : String)
  | other
  deriving DecidableEq, Repr

structure ResolvedRoute where
  route : String
  address : String
  deriving DecidableEq, Repr

inductive RegisterRound where
  | clear
  | resolve (remaining : List String)
  deriving DecidableEq, Repr

variable {route : String} {index : Nat}

/-- The configuration and the addresses of the account, the rounds that have not yet
returned, the callbacks by name, the names the resolver has not yet answered, and what
waits for the main thread. `cleared` records that a round has begun. -/
structure RouteResolution where
  hostname : String
  serviceRoute : String
  backServiceRoutes : List String
  serviceRouteIp : String := ""
  backServiceRouteIps : List ResolvedRoute := []
  rounds : List RegisterRound := []
  callbacks : AssocMap String ResolveCallback := .empty
  queries : List String := []
  mainThread : List (ResolveCallback × List String) := []
  cleared : Bool := false

namespace RouteResolution

def maxNameLength : Nat := 128 - 12

def runCallback (account : RouteResolution) (callback : ResolveCallback)
    (hostIps : List String) : RouteResolution :=
  match callback with
  | .serviceRoute =>
    match hostIps with
    | [] => account
    | address :: _ => { account with serviceRouteIp := address }
  | .backServiceRoute route =>
    { account with
      backServiceRouteIps := account.backServiceRouteIps ++ [⟨route, hostIps.headD ""⟩] }
  | .other => account

def resolveSrvName (account : RouteResolution) (name : String) (callback : ResolveCallback) :
    RouteResolution :=
  if name.utf8ByteSize > maxNameLength then account.runCallback callback []
  else
    { account with
      callbacks := account.callbacks.emplace name callback
      queries := account.queries ++ [name] }

def hasServiceRoute (account : RouteResolution) : Bool := account.serviceRoute ≠ ""

def hasBackServiceRoutes (account : RouteResolution) : Bool := account.backServiceRoutes ≠ []

def beginRound (account : RouteResolution) : RouteResolution :=
  let entered := { account with rounds := account.rounds ++ [.clear] }
  if account.hasServiceRoute then entered.resolveSrvName account.serviceRoute .serviceRoute
  else entered

def doRegister (account : RouteResolution) : RouteResolution :=
  if account.hasServiceRoute || account.hasBackServiceRoutes then account.beginRound
  else account.resolveSrvName account.hostname .other

/-- The round at an index goes on: it clears the addresses, resolves the next route or
returns. -/
def continueRound (account : RouteResolution) (index : Nat) : RouteResolution :=
  match account.rounds[index]? with
  | none => account
  | some .clear =>
    { account with
      rounds := account.rounds.set index (.resolve account.backServiceRoutes)
      backServiceRouteIps := []
      cleared := true }
  | some (.resolve []) => { account with rounds := account.rounds.eraseIdx index }
  | some (.resolve (route :: rest)) =>
    resolveSrvName { account with rounds := account.rounds.set index (.resolve rest) }
      route (.backServiceRoute route)

/-- The callback of an answered name is taken out and run, or left to the main thread
with what the second lookup gave. -/
def processAnswer (account : RouteResolution) (name : String) (failed : Bool)
    (hostIps : List String) : RouteResolution :=
  match account.callbacks.find? name with
  | none => account
  | some callback =>
    let taken := { account with callbacks := account.callbacks.erase name }
    if failed then { taken with mainThread := taken.mainThread ++ [(callback, hostIps)] }
    else taken.runCallback callback hostIps

def answer (account : RouteResolution) (index : Nat) (failed : Bool) (hostIps : List String) :
    RouteResolution :=
  match account.queries[index]? with
  | none => account
  | some name =>
    processAnswer { account with queries := account.queries.eraseIdx index } name failed hostIps

def runOnMainThread (account : RouteResolution) (index : Nat) : RouteResolution :=
  match account.mainThread[index]? with
  | none => account
  | some (callback, hostIps) =>
    runCallback { account with mainThread := account.mainThread.eraseIdx index } callback hostIps

/-- `resolveElsewhere` is any other use of the resolver, in this account or another. -/
inductive Event where
  | doRegister
  | continueRound (index : Nat)
  | resolveElsewhere (name : String)
  | answer (index : Nat) (failed : Bool) (hostIps : List String)
  | runOnMainThread (index : Nat)
  deriving DecidableEq, Repr

def step (account : RouteResolution) : Event → RouteResolution
  | .doRegister => account.doRegister
  | .continueRound index => account.continueRound index
  | .resolveElsewhere name => account.resolveSrvName name .other
  | .answer index failed hostIps => account.answer index failed hostIps
  | .runOnMainThread index => account.runOnMainThread index

def isSettled (account : RouteResolution) : Bool :=
  account.cleared && account.rounds.isEmpty &&
    account.callbacks.entries.all (fun entry =>
      match entry.2 with
      | .backServiceRoute _ => false
      | _ => true) &&
    account.mainThread.all (fun waiting =>
      match waiting.1 with
      | .backServiceRoute _ => false
      | _ => true)

def resolvedRoutes (account : RouteResolution) : List String :=
  account.backServiceRouteIps.map ResolvedRoute.route

def Positional (account : RouteResolution) : Prop :=
  account.isSettled → account.resolvedRoutes = account.backServiceRoutes

def nextRoute (account : RouteResolution) : Option String :=
  account.backServiceRoutes[account.backServiceRouteIps.length]?

def mayRun (account : RouteResolution) : ResolveCallback → Bool
  | .backServiceRoute route => account.nextRoute = some route
  | _ => true

def mayResolve (account : RouteResolution) (route : String) : Bool :=
  if route.utf8ByteSize > maxNameLength then account.mayRun (.backServiceRoute route)
  else
    match account.callbacks.find? route with
    | none => true
    | some (.backServiceRoute _) => true
    | some _ => false

/-- The answers come in order, each for a route that has no entry yet, and no route's
callback is dropped for somebody else's. -/
def inOrder (account : RouteResolution) : Event → Bool
  | .doRegister => true
  | .continueRound index =>
    match account.rounds[index]? with
    | some (.resolve (route :: _)) => account.mayResolve route
    | _ => true
  | .resolveElsewhere _ => true
  | .answer index failed _ =>
    match account.queries[index]? with
    | none => true
    | some name => failed || ((account.callbacks.find? name).map account.mayRun).getD true
  | .runOnMainThread index =>
    match account.mainThread[index]? with
    | none => true
    | some waiting => account.mayRun waiting.1

/-! ### What is expected of a round -/

def Expected (account : RouteResolution) (route : String) : Prop :=
  route ∈ account.resolvedRoutes ∨
    account.callbacks.find? route = some (.backServiceRoute route) ∨
    ∃ hostIps, (ResolveCallback.backServiceRoute route, hostIps) ∈ account.mainThread

/-- The entries are the first routes. Since the addresses were last cleared, every route
was asked for or still will be by the round that cleared them. -/
structure Ordered (account : RouteResolution) : Prop where
  leading : account.resolvedRoutes <+: account.backServiceRoutes
  keyed : ∀ name route,
    account.callbacks.find? name = some (.backServiceRoute route) → route = name
  awaited : account.cleared = true → ∃ remaining,
    (remaining = [] ∨ .resolve remaining ∈ account.rounds) ∧
    ∀ route ∈ account.backServiceRoutes, route ∈ remaining ∨ account.Expected route

def ResolveCallback.routes : ResolveCallback → List String
  | .backServiceRoute route => [route]
  | _ => []

section Run

variable (account : RouteResolution) (callback : ResolveCallback) (hostIps : List String)

theorem resolvedRoutes_runCallback :
    (account.runCallback callback hostIps).resolvedRoutes =
      account.resolvedRoutes ++ ResolveCallback.routes callback := by
  cases callback with
  | serviceRoute => cases hostIps <;> simp [runCallback, ResolveCallback.routes, resolvedRoutes]
  | backServiceRoute route => simp [runCallback, ResolveCallback.routes, resolvedRoutes]
  | other => simp [runCallback, ResolveCallback.routes]

theorem runCallback_frame :
    (account.runCallback callback hostIps).backServiceRoutes = account.backServiceRoutes ∧
    (account.runCallback callback hostIps).rounds = account.rounds ∧
    (account.runCallback callback hostIps).callbacks = account.callbacks ∧
    (account.runCallback callback hostIps).mainThread = account.mainThread ∧
    (account.runCallback callback hostIps).cleared = account.cleared := by
  cases callback with
  | serviceRoute => cases hostIps <;> exact ⟨rfl, rfl, rfl, rfl, rfl⟩
  | backServiceRoute route => exact ⟨rfl, rfl, rfl, rfl, rfl⟩
  | other => exact ⟨rfl, rfl, rfl, rfl, rfl⟩

theorem expected_runCallback
    (expected : account.Expected route ∨ callback = .backServiceRoute route) :
    (account.runCallback callback hostIps).Expected route := by
  obtain ⟨_, _, callbacks, mainThread, _⟩ := account.runCallback_frame callback hostIps
  unfold Expected
  rw [resolvedRoutes_runCallback, callbacks, mainThread, List.mem_append]
  rcases expected with (listed | waiting) | called
  · exact .inl (.inl listed)
  · exact .inr waiting
  · rw [called]
    exact .inl (.inr List.mem_cons_self)

private theorem leading_runCallback (leading : account.resolvedRoutes <+: account.backServiceRoutes)
    (may : account.mayRun callback = true) :
    (account.runCallback callback hostIps).resolvedRoutes <+: account.backServiceRoutes := by
  rw [resolvedRoutes_runCallback]
  cases callback with
  | serviceRoute => simpa [ResolveCallback.routes] using leading
  | other => simpa [ResolveCallback.routes] using leading
  | backServiceRoute route =>
    have next : account.nextRoute = some route := of_decide_eq_true may
    unfold nextRoute at next
    obtain ⟨rest, routes⟩ := leading
    have first : rest[0]? = some route := by
      rw [← routes, resolvedRoutes, List.getElem?_append_right (by simp)] at next
      simpa using next
    cases rest with
    | nil => cases first
    | cons head later =>
      cases first
      exact ⟨later, by simpa [ResolveCallback.routes] using routes⟩

end Run

theorem Ordered.of_expected {account next : RouteResolution} (ordered : account.Ordered)
    (routes : next.backServiceRoutes = account.backServiceRoutes)
    (rounds : ∀ remaining, .resolve remaining ∈ account.rounds → .resolve remaining ∈ next.rounds)
    (cleared : next.cleared = account.cleared)
    (leading : next.resolvedRoutes <+: account.backServiceRoutes)
    (keyed : ∀ name route,
      next.callbacks.find? name = some (.backServiceRoute route) → route = name)
    (expected : ∀ route, account.Expected route → next.Expected route) : next.Ordered := by
  constructor
  · rw [routes]
    exact leading
  · exact keyed
  · intro isCleared
    rw [cleared] at isCleared
    obtain ⟨remaining, live, all⟩ := ordered.awaited isCleared
    refine ⟨remaining, live.imp_right (rounds remaining), ?_⟩
    rw [routes]
    intro route listed
    exact (all route listed).imp_right (expected route)

theorem Ordered.run_taken {account : RouteResolution} (ordered : account.Ordered)
    (taken : RouteResolution)
    (routes : taken.backServiceRoutes = account.backServiceRoutes)
    (rounds : taken.rounds = account.rounds) (cleared : taken.cleared = account.cleared)
    (addresses : taken.backServiceRouteIps = account.backServiceRouteIps)
    (keyed : ∀ name route,
      taken.callbacks.find? name = some (.backServiceRoute route) → route = name)
    {callback : ResolveCallback} (may : account.mayRun callback = true)
    (expected : ∀ route, account.Expected route →
      taken.Expected route ∨ callback = .backServiceRoute route)
    (hostIps : List String) : (taken.runCallback callback hostIps).Ordered := by
  obtain ⟨sameRoutes, sameRounds, callbacks, _, sameCleared⟩ :=
    taken.runCallback_frame callback hostIps
  have leading : taken.resolvedRoutes <+: taken.backServiceRoutes := by
    unfold resolvedRoutes
    rw [addresses, routes]
    exact ordered.leading
  have mayRun : taken.mayRun callback = true := by
    cases callback with
    | backServiceRoute route =>
      unfold RouteResolution.mayRun nextRoute at may ⊢
      rw [routes, addresses]
      exact may
    | serviceRoute => rfl
    | other => rfl
  refine ordered.of_expected (sameRoutes.trans routes) ?_ (sameCleared.trans cleared) ?_ ?_ ?_
  · rw [sameRounds, rounds]
    exact fun _ listed => listed
  · rw [← routes]
    exact taken.leading_runCallback callback hostIps leading mayRun
  · rw [callbacks]
    exact keyed
  · intro route awaited
    exact taken.expected_runCallback callback hostIps (expected route awaited)

theorem Ordered.runCallback {account : RouteResolution} (ordered : account.Ordered)
    {callback : ResolveCallback} (may : account.mayRun callback = true) (hostIps : List String) :
    (account.runCallback callback hostIps).Ordered :=
  ordered.run_taken account rfl rfl rfl rfl ordered.keyed may (fun _ expected => Or.inl expected)
    hostIps

section Resolve

variable {account : RouteResolution} {name : String} {callback : ResolveCallback}

private theorem expected_emplace (expected : account.Expected route) :
    Expected { account with
      callbacks := account.callbacks.emplace name callback
      queries := account.queries ++ [name] } route := by
  rcases expected with listed | kept | waiting
  · exact .inl listed
  · right
    left
    rw [AssocMap.find?_emplace]
    split
    · rename_i same
      rw [← same, kept]
      rfl
    · exact kept
  · exact .inr (.inr waiting)

private theorem expected_asked (ordered : account.Ordered) (may : account.mayResolve route = true) :
    (account.resolveSrvName route (.backServiceRoute route)).Expected route := by
  unfold resolveSrvName
  unfold mayResolve at may
  split
  · exact account.expected_runCallback _ [] (.inr rfl)
  · rename_i short
    rw [if_neg short] at may
    right
    left
    rw [AssocMap.find?_emplace, if_pos rfl]
    cases held : account.callbacks.find? route with
    | none => rfl
    | some holder =>
      rw [held] at may
      cases holder with
      | serviceRoute => cases may
      | other => cases may
      | backServiceRoute asked =>
        rw [ordered.keyed route asked held]
        rfl

theorem Ordered.resolveSrvName (ordered : account.Ordered)
    (named : ∀ route, callback = .backServiceRoute route → route = name)
    (may : name.utf8ByteSize > maxNameLength → account.mayRun callback = true) :
    (account.resolveSrvName name callback).Ordered := by
  unfold RouteResolution.resolveSrvName
  split
  · rename_i long
    exact ordered.runCallback (may long) []
  · refine ordered.of_expected rfl (fun _ listed => listed) rfl ordered.leading ?_ ?_
    · intro key route found
      rw [AssocMap.find?_emplace] at found
      split at found
      · rename_i same
        subst same
        cases held : account.callbacks.find? key with
        | none =>
          rw [held] at found
          exact named route (Option.some.inj found)
        | some holder =>
          rw [held] at found
          apply ordered.keyed key route
          rw [held]
          exact found
      · exact ordered.keyed key route found
    · intro route expected
      exact expected_emplace expected

end Resolve

/-! ### The steps keep the order -/

section Steps

variable {account : RouteResolution}

theorem Ordered.enter (ordered : account.Ordered) :
    Ordered { account with rounds := account.rounds ++ [.clear] } :=
  ordered.of_expected rfl (fun _ listed => List.mem_append_left _ listed) rfl ordered.leading
    ordered.keyed (fun _ expected => expected)

theorem Ordered.doRegister (ordered : account.Ordered) : account.doRegister.Ordered := by
  unfold RouteResolution.doRegister
  split
  · unfold beginRound
    split
    · exact ordered.enter.resolveSrvName nofun (fun _ => rfl)
    · exact ordered.enter
  · exact ordered.resolveSrvName nofun (fun _ => rfl)

theorem Ordered.clear (ordered : account.Ordered) (inside : index < account.rounds.length) :
    Ordered { account with
      rounds := account.rounds.set index (.resolve account.backServiceRoutes)
      backServiceRouteIps := []
      cleared := true } := by
  constructor
  · exact List.nil_prefix
  · exact ordered.keyed
  · intro _
    refine ⟨account.backServiceRoutes, .inr (List.mem_set inside _), ?_⟩
    intro route listed
    exact .inl listed

theorem Ordered.return (ordered : account.Ordered)
    (finished : account.rounds[index]? = some (.resolve [])) :
    Ordered { account with rounds := account.rounds.eraseIdx index } := by
  constructor
  · exact ordered.leading
  · exact ordered.keyed
  · intro isCleared
    obtain ⟨remaining, live, all⟩ := ordered.awaited isCleared
    refine ⟨remaining, ?_, all⟩
    rcases live with done | listed
    · exact .inl done
    · obtain ⟨position, found⟩ := List.mem_iff_getElem?.mp listed
      by_cases same : position = index
      · rw [same, finished] at found
        cases found
        exact .inl rfl
      · exact .inr (List.mem_eraseIdx_iff_getElem?.mpr ⟨position, same, found⟩)

private theorem resolveSrvName_rounds (rounds : List RegisterRound) (name : String)
    (callback : ResolveCallback) :
    RouteResolution.resolveSrvName { account with rounds := rounds } name callback =
      { account.resolveSrvName name callback with rounds := rounds } := by
  unfold RouteResolution.resolveSrvName
  split
  · cases callback <;> rfl
  · rfl

/-- The round has asked for one more route. Whichever round cleared the addresses last,
what it has not yet asked for is still to come. -/
theorem Ordered.advance (ordered : account.Ordered) {rest : List String}
    (here : account.rounds[index]? = some (.resolve (route :: rest)))
    (asked : account.Expected route) :
    Ordered { account with rounds := account.rounds.set index (.resolve rest) } := by
  have inside : index < account.rounds.length := (List.getElem?_eq_some_iff.mp here).1
  constructor
  · exact ordered.leading
  · exact ordered.keyed
  · intro isCleared
    obtain ⟨remaining, live, all⟩ := ordered.awaited isCleared
    rcases live with done | listed
    · exact ⟨remaining, .inl done, all⟩
    · obtain ⟨position, found⟩ := List.mem_iff_getElem?.mp listed
      by_cases same : position = index
      · rw [same, here] at found
        cases found
        refine ⟨rest, .inr (List.mem_set inside _), ?_⟩
        intro other configured
        rcases all other configured with pending | expected
        · rcases List.mem_cons.mp pending with first | later
          · rw [first]
            exact .inr asked
          · exact .inl later
        · exact .inr expected
      · refine ⟨remaining, .inr ?_, all⟩
        apply List.mem_iff_getElem?.mpr
        exact ⟨position, by rw [List.getElem?_set_ne (Ne.symm same)]; exact found⟩

theorem resolveSrvName_frame (name : String) (callback : ResolveCallback) :
    (account.resolveSrvName name callback).backServiceRoutes = account.backServiceRoutes ∧
      (account.resolveSrvName name callback).rounds = account.rounds := by
  obtain ⟨routes, rounds, _⟩ := account.runCallback_frame callback []
  unfold RouteResolution.resolveSrvName
  split
  · exact ⟨routes, rounds⟩
  · exact ⟨rfl, rfl⟩

theorem Ordered.resolveNext (ordered : account.Ordered) {rest : List String}
    (here : account.rounds[index]? = some (.resolve (route :: rest)))
    (may : account.mayResolve route = true) :
    (RouteResolution.resolveSrvName
      { account with rounds := account.rounds.set index (.resolve rest) }
      route (ResolveCallback.backServiceRoute route)).Ordered := by
  rw [resolveSrvName_rounds]
  have asked := expected_asked ordered may
  have resolved : (account.resolveSrvName route (.backServiceRoute route)).Ordered := by
    apply ordered.resolveSrvName
    · intro other same
      cases same
      rfl
    · intro long
      unfold mayResolve at may
      rw [if_pos long] at may
      exact may
  rw [← (resolveSrvName_frame route (.backServiceRoute route)).2] at here ⊢
  exact resolved.advance here asked

theorem Ordered.continueRound (ordered : account.Ordered) (index : Nat)
    (admissible : account.inOrder (.continueRound index) = true) :
    (account.continueRound index).Ordered := by
  unfold RouteResolution.continueRound
  unfold inOrder at admissible
  dsimp only at admissible
  split
  · exact ordered
  · rename_i here
    exact ordered.clear (List.getElem?_eq_some_iff.mp here).1
  · rename_i here
    exact ordered.return here
  · rename_i route rest here
    rw [here] at admissible
    exact ordered.resolveNext here admissible

private theorem keyed_erase (ordered : account.Ordered) (name : String) :
    ∀ key route, (account.callbacks.erase name).find? key = some (.backServiceRoute route) →
      route = key := by
  intro key route found
  rw [AssocMap.find?_erase] at found
  split at found
  · cases found
  · exact ordered.keyed key route found

private theorem expected_taken {name : String} {callback : ResolveCallback}
    (found : account.callbacks.find? name = some callback) (expected : account.Expected route) :
    Expected { account with callbacks := account.callbacks.erase name } route ∨
      callback = .backServiceRoute route := by
  rcases expected with listed | kept | waiting
  · exact .inl (.inl listed)
  · by_cases same : route = name
    · subst same
      rw [found] at kept
      exact .inr (Option.some.inj kept)
    · left
      right
      left
      rw [AssocMap.find?_erase, if_neg same]
      exact kept
  · exact .inl (.inr (.inr waiting))

theorem Ordered.processAnswer (ordered : account.Ordered) (name : String) (failed : Bool)
    (hostIps : List String)
    (may : (failed || ((account.callbacks.find? name).map account.mayRun).getD true) = true) :
    (account.processAnswer name failed hostIps).Ordered := by
  unfold RouteResolution.processAnswer
  split
  · exact ordered
  · rename_i callback found
    split
    · refine ordered.of_expected rfl (fun _ listed => listed) rfl ordered.leading
        (keyed_erase ordered name) ?_
      intro route expected
      rcases expected_taken found expected with (listed | kept | ⟨ips, waiting⟩) | called
      · exact .inl listed
      · exact .inr (.inl kept)
      · exact .inr (.inr ⟨ips, List.mem_append_left _ waiting⟩)
      · rw [called]
        exact .inr (.inr ⟨hostIps, List.mem_append_right _ List.mem_cons_self⟩)
    · rename_i answered
      have mayRun : account.mayRun callback = true := by
        rw [found] at may
        simpa [answered] using may
      exact ordered.run_taken { account with callbacks := account.callbacks.erase name }
        rfl rfl rfl rfl (keyed_erase ordered name) mayRun
        (fun _ expected => expected_taken found expected) hostIps

theorem Ordered.answer (ordered : account.Ordered) (index : Nat) (failed : Bool)
    (hostIps : List String)
    (admissible : account.inOrder (.answer index failed hostIps) = true) :
    (account.answer index failed hostIps).Ordered := by
  unfold RouteResolution.answer
  unfold inOrder at admissible
  dsimp only at admissible
  split
  · exact ordered
  · rename_i name asked
    rw [asked] at admissible
    have removed : Ordered { account with queries := account.queries.eraseIdx index } :=
      ⟨ordered.leading, ordered.keyed, ordered.awaited⟩
    exact removed.processAnswer name failed hostIps admissible

private theorem expected_begun {callback : ResolveCallback} {hostIps : List String}
    (found : account.mainThread[index]? = some (callback, hostIps))
    (expected : account.Expected route) :
    Expected { account with mainThread := account.mainThread.eraseIdx index } route ∨
      callback = .backServiceRoute route := by
  rcases expected with listed | kept | ⟨ips, waiting⟩
  · exact .inl (.inl listed)
  · exact .inl (.inr (.inl kept))
  · obtain ⟨position, there⟩ := List.mem_iff_getElem?.mp waiting
    by_cases same : position = index
    · rw [same, found] at there
      cases there
      exact .inr rfl
    · exact .inl (.inr (.inr
        ⟨ips, List.mem_eraseIdx_iff_getElem?.mpr ⟨position, same, there⟩⟩))

theorem Ordered.runOnMainThread (ordered : account.Ordered) (index : Nat)
    (admissible : account.inOrder (.runOnMainThread index) = true) :
    (account.runOnMainThread index).Ordered := by
  unfold RouteResolution.runOnMainThread
  unfold inOrder at admissible
  dsimp only at admissible
  split
  · exact ordered
  · rename_i callback hostIps found
    rw [found] at admissible
    exact ordered.run_taken { account with mainThread := account.mainThread.eraseIdx index }
      rfl rfl rfl rfl ordered.keyed admissible
      (fun _ expected => expected_begun found expected) hostIps

theorem Ordered.step (ordered : account.Ordered) (event : Event)
    (admissible : account.inOrder event = true) : (account.step event).Ordered := by
  cases event with
  | doRegister => exact ordered.doRegister
  | continueRound index => exact ordered.continueRound index admissible
  | resolveElsewhere name =>
    exact ordered.resolveSrvName nofun (fun _ => rfl)
  | answer index failed hostIps => exact ordered.answer index failed hostIps admissible
  | runOnMainThread index => exact ordered.runOnMainThread index admissible

end Steps

section Settled

variable {account : RouteResolution}

theorem resolved_of_settled (settled : account.isSettled = true) (expected : account.Expected route) :
    route ∈ account.resolvedRoutes := by
  unfold isSettled at settled
  simp only [Bool.and_eq_true, List.all_eq_true] at settled
  rcases expected with listed | kept | ⟨ips, waiting⟩
  · exact listed
  · have refused := settled.1.2 _ ((account.callbacks.mem_entries_iff route _).mpr kept)
    cases refused
  · have refused := settled.2 _ waiting
    cases refused

private theorem eq_of_leading {entries routes : List String} (distinct : routes.Nodup)
    (leading : entries <+: routes) (all : ∀ route ∈ routes, route ∈ entries) : entries = routes := by
  apply leading.eq_of_length_le
  exact (List.subperm_of_subset distinct all).length_le

theorem Ordered.positional (ordered : account.Ordered) (distinct : account.backServiceRoutes.Nodup) :
    account.Positional := by
  intro settled
  have quiet : account.cleared = true ∧ account.rounds = [] := by
    have parts := settled
    unfold isSettled at parts
    simp only [Bool.and_eq_true, List.isEmpty_iff] at parts
    exact parts.1.1
  obtain ⟨remaining, live, all⟩ := ordered.awaited quiet.1
  have nothing : remaining = [] := by
    rcases live with done | listed
    · exact done
    · rw [quiet.2] at listed
      cases listed
  apply eq_of_leading distinct ordered.leading
  intro route configured
  rcases all route configured with pending | expected
  · rw [nothing] at pending
    cases pending
  · exact resolved_of_settled settled expected

end Settled

def configured (hostname serviceRoute : String) (backServiceRoutes : List String) :
    RouteResolution :=
  { hostname, serviceRoute, backServiceRoutes }

theorem configured_ordered (hostname serviceRoute : String) (backServiceRoutes : List String) :
    (configured hostname serviceRoute backServiceRoutes).Ordered := by
  constructor
  · exact List.nil_prefix
  · intro name route absent
    cases absent
  · intro notCleared
    cases notCleared

private theorem step_routes (account : RouteResolution) (event : Event) :
    (account.step event).backServiceRoutes = account.backServiceRoutes := by
  cases event with
  | doRegister =>
    change account.doRegister.backServiceRoutes = _
    unfold doRegister beginRound
    split
    · split
      · exact (resolveSrvName_frame _ _).1
      · rfl
    · exact (resolveSrvName_frame _ _).1
  | continueRound index =>
    change (account.continueRound index).backServiceRoutes = _
    unfold continueRound
    split
    · rfl
    · rfl
    · rfl
    · exact (resolveSrvName_frame _ _).1
  | resolveElsewhere name => exact (resolveSrvName_frame name .other).1
  | answer index failed hostIps =>
    change (account.answer index failed hostIps).backServiceRoutes = _
    unfold answer processAnswer
    split
    · rfl
    · split
      · rfl
      · split
        · rfl
        · exact (runCallback_frame _ _ _).1
  | runOnMainThread index =>
    change (account.runOnMainThread index).backServiceRoutes = _
    unfold runOnMainThread
    split
    · rfl
    · exact (runCallback_frame _ _ _).1

theorem positional_when_in_order (hostname serviceRoute : String) (backServiceRoutes : List String)
    (distinct : backServiceRoutes.Nodup) (events : List Event)
    (inOrder : Run.Guarded step (fun account event => account.inOrder event = true)
      (configured hostname serviceRoute backServiceRoutes) events) :
    Run.Always step Positional (configured hostname serviceRoute backServiceRoutes) events := by
  have always : Run.Always step
      (fun account => account.Ordered ∧ account.backServiceRoutes = backServiceRoutes)
      (configured hostname serviceRoute backServiceRoutes) events := by
    apply Run.always_of_guarded _ _ inOrder
    · intro account event kept admissible
      exact ⟨kept.1.step event admissible, (step_routes account event).trans kept.2⟩
    · exact ⟨configured_ordered hostname serviceRoute backServiceRoutes, rfl⟩
  apply always.imp
  intro account kept
  apply kept.1.positional
  rw [kept.2]
  exact distinct

/-- A second round begins while the second route of the first is in flight. -/
theorem positional_in_overlapping_rounds :
    (Run.after step (configured "pbx" "main" ["a", "b"])
      [.doRegister, .continueRound 0, .continueRound 0, .continueRound 0, .continueRound 0,
        .answer 1 false ["10.0.0.1"], .doRegister, .continueRound 0, .continueRound 0,
        .continueRound 0, .answer 3 false ["10.0.0.2"], .answer 1 false ["10.0.0.3"],
        .continueRound 0]).isSettled = true ∧
    Run.Always step Positional (configured "pbx" "main" ["a", "b"])
      [.doRegister, .continueRound 0, .continueRound 0, .continueRound 0, .continueRound 0,
        .answer 1 false ["10.0.0.1"], .doRegister, .continueRound 0, .continueRound 0,
        .continueRound 0, .answer 3 false ["10.0.0.2"], .answer 1 false ["10.0.0.3"],
        .continueRound 0] :=
  ⟨by decide +kernel,
    positional_when_in_order "pbx" "main" ["a", "b"] (by decide) _ (by decide +kernel)⟩

/-- The second of two routes is answered first. -/
theorem reversed_answers_not_positional :
    ¬ Run.Always step Positional (configured "pbx" "main" ["a", "b"])
      [.doRegister, .continueRound 0, .continueRound 0, .continueRound 0, .continueRound 0,
        .answer 2 false ["10.0.0.2"], .answer 1 false ["10.0.0.1"]] := by
  intro always
  have settled := always.last
  unfold Positional at settled
  revert settled
  decide +kernel

end RouteResolution
end SipCore
