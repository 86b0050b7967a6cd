import BankingApi.Auth.Revocation
import BankingApi.Http.Preservation
import BankingApi.Http.Outcomes
import BankingApi.Http.Ownership
import BankingApi.Store.Linear

/-!
This module contains requests that are served side by side as they are served one after another: logins
and logouts, refreshed tokens, and everything that only looks.
-/

namespace Banking.Http

open Prog

/--
Users keep everything but their refresh tokens, wallets everything but their balances and statuses, and
transactions stay.
-/
structure Lasts (s s' : Store) : Prop where
  users : s'.users.rows.map forgetSession = s.users.rows.map forgetSession
  wallets : s'.wallets.rows.map Wallet.fixed = s.wallets.rows.map Wallet.fixed
  transactions : s.transactions.rows <+: s'.transactions.rows

namespace Lasts

variable {s s' s'' : Store}

theorem refl (s : Store) : Lasts s s := ⟨rfl, rfl, List.prefix_rfl⟩

theorem trans (h : Lasts s s') (h' : Lasts s' s'') : Lasts s s'' :=
  ⟨h'.users.trans h.users, h'.wallets.trans h.wallets, h.transactions.trans h'.transactions⟩

theorem findUserById (h : Lasts s s') (id : UserId)
    : (s'.users.find? id).map forgetSession = (s.users.find? id).map forgetSession :=
  find?_eq_of_map_eq (fun _ => rfl) h.users

theorem findUserByEmail (h : Lasts s s') (email : String)
    : (s'.users.rows.find? (·.email = email)).map forgetSession =
      (s.users.rows.find? (·.email = email)).map forgetSession :=
  find?_eq_of_map_eq (fun _ => rfl) h.users

theorem findWalletByUserId (h : Lasts s s') (userId : UserId)
    : (WalletRepository.findWalletByUserId s' userId).map Wallet.fixed =
      (WalletRepository.findWalletByUserId s userId).map Wallet.fixed := by
  have hfind := congrArg (List.find? (fun fixed => fixed.2.2.2 = userId)) h.wallets
  rw [List.find?_map, List.find?_map] at hfind
  exact hfind

theorem findTransactionByReference (h : Lasts s s') {transactionRef : String} {t : Transaction}
    (ht : s.transactions.rows.find? (·.transactionRef = transactionRef) = some t)
    : s'.transactions.rows.find? (·.transactionRef = transactionRef) = some t := by
  rcases h.transactions with ⟨later, heq⟩
  rw [← heq, List.find?_append, ht]
  rfl

end Lasts

-- No other command of the requests in question is more than a look.
def Command.lasts (c : Command) : Prop :=
  match c with
  | .deposit _ _ _ _ _ => True
  | .withdraw _ _ _ _ _ => True
  | .transfer _ _ _ _ _ _ => True
  | .updateUser _ (.refreshToken _) => True
  | c => c.isRead

theorem lasts_executed {s s' : Store} {c : Command} (hc : c.lasts) (h : Executed s c s')
    : Lasts s s' := by
  cases h with
  | nothing => exact .refl s
  | createUser => cases hc
  | @updateUser id change =>
    cases change with
    | refreshToken token =>
      refine ⟨?_, rfl, List.prefix_rfl⟩
      apply Table.map_update <;> exact fun _ => rfl
    | _ => cases hc
  | createWallet => cases hc
  | updateWalletStatus => cases hc
  | payments => exact ⟨rfl, rfl, List.prefix_rfl⟩
  | call hcall h => exact ⟨by rw [h.users_eq], h.map_fixed, h.grows.transactions⟩

theorem lasts_exec {P : Platform} {c : Command} (hc : c.lasts) (s : Server)
    : Lasts s.store (Server.exec P c s).2.store := by
  have hkeeps : c.keepsProfiles := by
    cases c <;> trivial
  exact lasts_executed hc (exec_cases s hkeeps)

section Steady

variable {P : Platform} {α β : Type} {last : Bool}

/--
What the action has been answered would be the answer at any later time.
-/
def Settles (P : Platform) (last : Bool) (p : Action α) : Prop :=
  p.Steady (Server.exec P) (fun _ => .error .connection) (fun s s' => Lasts s.store s'.store) last

theorem settles_query {c : Command} (hc : c.lasts) : Settles P true (query c) := by
  refine ⟨rfl, ?_⟩
  intro s
  refine ⟨lasts_exec hc s, .inl ?_⟩
  cases (Server.exec P c s).1 <;> rfl

theorem exists_query_bind_eq (c : Command) (f : c.Value → Action α)
    : ∃ next, query c >>= f = .call c next ∧ (∀ a, next (.ok a) = f a)
        ∧ ∀ e, next (.error e) = .throw (.failure e) :=
  ⟨_, rfl, fun _ => rfl, fun _ => rfl⟩

/--
A look goes on as in any later state, or it is the end.
-/
theorem settles_query_bind (c : Command) {f : c.Value → Action α} (hc : c.isRead)
    (answer : Server → c.Value) (hanswer : ∀ s, (Server.exec P c s).1 = .ok (answer s))
    (hf : ∀ s, (f (answer s)).ends last
      ∨ ∀ s', Lasts s.store s'.store → f (answer s') = f (answer s))
    (hsettles : ∀ a, Settles P last (f a))
    : Settles P last (query c >>= f) := by
  rcases exists_query_bind_eq c f with ⟨next, heq, hok, herror⟩
  have hsame := exec_of_isRead (P := P) hc
  have hnext : ∀ s, next (Server.exec P c s).1 = f (answer s) := by
    intro s
    rw [hanswer, hok]
  rw [heq]
  refine ⟨by rw [herror]; rfl, ?_⟩
  intro s
  refine ⟨by rw [hsame]; exact .refl _, ?_⟩
  rw [hnext]
  rcases hf s with hend | hstays
  . exact .inl hend
  . refine .inr ⟨hsettles _, ?_⟩
    intro s' hs'
    rw [hnext]
    exact ⟨hsame s', hstays s' hs'⟩

theorem settles_findUserById_bind {id : UserId} {f : Option User → Action α}
    (hf : ∀ user, f user = f (user.map forgetSession)) (hsettles : ∀ user, Settles P last (f user))
    : Settles P last (UserRepository.findUserById id >>= f) := by
  apply settles_query_bind (.findUserById id) trivial (fun s => s.store.users.find? id) (fun _ => rfl)
    _ hsettles
  intro s
  right
  intro s' hs'
  rw [hf, hs'.findUserById, ← hf]

theorem settles_findUserByEmail_bind {email : String} {f : Option User → Action α}
    (hf : ∀ user, f user = f (user.map forgetSession)) (hsettles : ∀ user, Settles P last (f user))
    : Settles P last (UserRepository.findUserByEmail email >>= f) := by
  apply settles_query_bind (.findUserByEmail email) trivial
    (fun s => s.store.users.rows.find? (·.email = email)) (fun _ => rfl) _ hsettles
  intro s
  right
  intro s' hs'
  rw [hf, hs'.findUserByEmail, ← hf]

theorem settles_required (s : Option String) : Settles P last (required s) := by
  cases s <;> trivial

theorem settles_destructure (body : Option Json) : Settles P last (destructure body) := by
  unfold destructure
  split <;> trivial

-- The id of the wallet is all that counts, and it stays.
theorem settles_getUserWalletId (userId : UserId)
    : Settles P false (TransactionController.getUserWalletId userId) := by
  apply settles_query_bind (.findWalletByUserId userId) trivial
    (fun s => WalletRepository.findWalletByUserId s.store userId) (fun _ => rfl)
  . intro s
    right
    intro s' hs'
    have hfixed := hs'.findWalletByUserId userId
    cases hw' : WalletRepository.findWalletByUserId s'.store userId with
    | none =>
      rw [hw', Option.map_none, eq_comm, Option.map_eq_none_iff] at hfixed
      rw [hfixed]
    | some w' =>
      rw [hw', Option.map_some, eq_comm, Option.map_eq_some_iff] at hfixed
      rcases hfixed with ⟨w, hw, hsame⟩
      rw [hw]
      exact congrArg (fun fixed : WalletId × _ => (.ret fixed.1 : Action WalletId)) hsame.symm
  . intro wallet
    cases wallet <;> trivial

section Middlewares

variable {request : Request}

theorem settles_authenticate : Settles P false (authenticate P request) := by
  unfold authenticate
  cases request.bearerToken? with
  | none => trivial
  | some token =>
    dsimp only
    cases verifyAccessToken P token request.draw.now with
    | error e => cases e <;> trivial
    | ok claims =>
      apply steady_bind (settles_required _)
      intro userId
      apply settles_findUserById_bind
      . intro user
        cases user <;> rfl
      . intro user
        cases user with
        | none => trivial
        | some user =>
          dsimp only
          split <;> trivial

theorem settles_guarded : Settles P false (guarded P request) := by
  unfold guarded
  cases request.route.guard with
  | «open» => trivial
  | authenticated => exact steady_bind settles_authenticate (fun _ => trivial)
  | authorized allowedRoles =>
    apply steady_bind settles_authenticate
    intro user
    apply steady_bind
    . unfold authorize
      split <;> trivial
    . intro _
      trivial

theorem settles_middlewares : Settles P false (middlewares P request) := by
  apply steady_bind settles_guarded
  intro user
  cases validated P request <;> trivial

end Middlewares

section Handlers

variable (self : RequestUser)

theorem settles_login (body : Option Json) (now : ℕ)
    : Settles P true (AuthController.login P body now) := by
  apply steady_bind (settles_destructure body)
  intro body
  apply steady_bind_last _ (fun _ => rfl)
  apply steady_bind (settles_required _)
  intro email
  apply settles_findUserByEmail_bind
  . intro user
    cases user <;> rfl
  . intro user
    cases user with
    | none => trivial
    | some user =>
      apply steady_bind
      . exact steady_bind (settles_required _) (fun _ => trivial)
      . intro isPasswordValid
        split
        . exact steady_bind_last (settles_query (by trivial)) (fun _ => rfl)
        . trivial

theorem settles_refreshToken (body : Option Json) (now : ℕ)
    : Settles P true (AuthController.refreshToken P body now) := by
  apply steady_bind (settles_destructure body)
  intro body
  apply steady_bind_last _ (fun _ => rfl)
  unfold AuthService.refreshAccessToken
  split
  . trivial
  . split
    . trivial
    . apply steady_bind_last (settles_query (by trivial))
      intro user
      cases user <;> rfl

theorem settles_logout : Settles P true (AuthController.logout self) :=
  steady_bind_last (steady_bind_last (settles_query (by trivial)) (fun _ => rfl)) (fun _ => rfl)

theorem settles_getProfile : Settles P true (AuthController.getProfile self) := by
  apply steady_bind_last _ (fun _ => rfl)
  apply steady_bind_last (settles_query (by trivial))
  intro user
  cases user <;> rfl

theorem settles_getMe : Settles P true (UserController.getMe self) := by
  apply steady_bind_last _ (fun _ => rfl)
  apply steady_bind_last (settles_query (by trivial))
  intro user
  cases user <;> rfl

theorem settles_getAllUsers (scan : Scan) : Settles P true (UserController.getAllUsers scan) :=
  steady_bind_last (steady_bind_last (settles_query (by trivial)) (fun _ => rfl)) (fun _ => rfl)

theorem settles_getWallet : Settles P true (WalletController.getWallet self) := by
  apply steady_bind_last _ (fun _ => rfl)
  apply steady_bind_last (settles_query (by trivial))
  intro wallet
  cases wallet <;> rfl

theorem ends_validateConstraints_bind {f : Unit → Action α} (hf : (f ()).ends true)
    (wallet : Option Wallet)
    : (TransactionService.validateConstraints wallet >>= f).ends true := by
  unfold TransactionService.validateConstraints
  cases wallet with
  | none => rfl
  | some wallet =>
    dsimp only
    split
    . rfl
    . exact hf

theorem settles_withoutAmount (walletId : WalletId)
    : Settles P true (TransactionService.withoutAmount walletId) :=
  steady_bind_last (settles_query (by trivial)) (fun _ => ends_validateConstraints_bind rfl _)

-- The wallet of the user and the body of the request come before the last command.
theorem settles_movement {body : Option Json} {move : WalletId → Json → Action Transaction}
    (hmove : ∀ walletId body, Settles P true (move walletId body))
    : Settles P true (do
        let walletId ← TransactionController.getUserWalletId self.id
        let body ← destructure body
        let transaction ← move walletId body
        return sendData 200 (.transaction transaction)) := by
  apply steady_bind (settles_getUserWalletId _)
  intro walletId
  apply steady_bind (settles_destructure body)
  intro body
  exact steady_bind_last (hmove walletId body) (fun _ => rfl)

theorem settles_deposit (body : Option Json) (gen : Generated)
    : Settles P true (TransactionController.deposit self body gen) := by
  apply settles_movement
  intro walletId body
  unfold TransactionService.deposit
  split
  . exact settles_query trivial
  . exact settles_withoutAmount walletId

theorem settles_withdraw (body : Option Json) (gen : Generated)
    : Settles P true (TransactionController.withdraw self body gen) := by
  apply settles_movement
  intro walletId body
  unfold TransactionService.withdraw
  split
  . exact settles_query trivial
  . exact settles_withoutAmount walletId

theorem settles_transfer (body : Option Json) (gen : Generated)
    : Settles P true (TransactionController.transfer self body gen) := by
  apply settles_movement
  intro senderWalletId body
  unfold TransactionService.transfer
  split
  . exact settles_query trivial
  . split
    . trivial
    . apply steady_bind_last (settles_query (by trivial))
      intro lockQuery
      split
      . rfl
      . exact ends_validateConstraints_bind (ends_validateConstraints_bind rfl _) _

theorem settles_getHistory (scan : Scan)
    : Settles P true (TransactionController.getHistory self scan) := by
  apply steady_bind (settles_getUserWalletId _)
  intro walletId
  exact steady_bind_last (settles_query (by trivial)) (fun _ => rfl)

theorem settles_getTransactionDetails (reference : String)
    : Settles P true (TransactionController.getTransactionDetails reference) := by
  apply steady_bind_last _ (fun _ => rfl)
  apply steady_bind_last (settles_query (by trivial))
  intro tx
  cases tx <;> rfl

theorem settles_getWalletLedger (walletId : Option Json) (scan : Scan)
    : Settles P true (LedgerController.getWalletLedger walletId scan) := by
  unfold LedgerController.getWalletLedger
  split
  . apply steady_bind (settles_required _)
    intro walletId
    exact steady_bind_last (settles_query (by trivial)) (fun _ => rfl)
  . exact steady_bind_last (settles_query (by trivial)) (fun _ => rfl)

-- A transaction that is not there ends the request, and one that is there stays.
theorem settles_getTransactionLedgerEntries (transactionRef : String) (scan : Scan)
    : Settles P true (LedgerController.getTransactionLedgerEntries transactionRef scan) := by
  apply settles_query_bind (.findTransactionByReference transactionRef) trivial
    (fun s => s.store.transactions.rows.find? (·.transactionRef = transactionRef)) (fun _ => rfl)
  . intro s
    cases htx : s.store.transactions.rows.find? (·.transactionRef = transactionRef) with
    | none => exact .inl rfl
    | some tx =>
      right
      intro s' hs'
      rw [hs'.findTransactionByReference htx]
  . intro tx
    cases tx with
    | none => trivial
    | some tx => exact steady_bind_last (settles_query (by trivial)) (fun _ => rfl)

theorem settles_throughClient {c : Command} (hc : c.isRead)
    : Settles P true (PaymentRepository.throughClient P c) := by
  unfold PaymentRepository.throughClient
  split
  . trivial
  . apply settles_query
    cases c <;> trivial

theorem settles_getPayments (scan : Scan) : Settles P true (PaymentRoutes.list P self scan) :=
  steady_bind_last (settles_throughClient (by trivial)) (fun _ => rfl)

theorem settles_getPayment (reference : String)
    : Settles P true (PaymentRoutes.get P self reference) := by
  apply steady_bind_last (settles_throughClient (by trivial))
  intro payment
  cases payment with
  | none => rfl
  | some payment =>
    dsimp only
    split <;> rfl

end Handlers

/--
The routes whose requests find out nothing that others may change, before their last command.
-/
def Route.lasts (route : Route) : Prop :=
  match route with
  | .register => False
  | .updateMe => False
  | .changePassword => False
  | .deleteMe => False
  | .changeStatus _ => False
  | .changeRole _ => False
  | .createWallet => False
  | .freezeWallet => False
  | .unfreezeWallet => False
  | .closeWallet => False
  | .createPayment => False
  | .verifyPayment => False
  | .gateway => False
  | _ => True

section Requests

variable {request : Request} (hroute : request.route.lasts)

include hroute

theorem settles_userHandler (self : RequestUser) (body : Option Json)
    : Settles P true (userHandler P request self body) := by
  unfold userHandler
  generalize request.route = route at *
  cases route with
  | logout => exact settles_logout self
  | profile => exact settles_getProfile self
  | getMe => exact settles_getMe self
  | getWallet => exact settles_getWallet self
  | deposit => exact settles_deposit self body _
  | withdraw => exact settles_withdraw self body _
  | transfer => exact settles_transfer self body _
  | getHistory => exact settles_getHistory self _
  | getPayments => exact settles_getPayments self _
  | getPayment reference => exact settles_getPayment self reference
  | createAccount => exact steady_bind (settles_destructure body) (fun _ => trivial)
  | getAllUsers => exact settles_getAllUsers _
  | getTransactionDetails reference => exact settles_getTransactionDetails reference
  | getWalletLedger walletId => exact settles_getWalletLedger walletId _
  | getTransactionLedgerEntries transactionRef =>
    exact settles_getTransactionLedgerEntries transactionRef _
  | _ => trivial

theorem settles_handler (context : Context) : Settles P true (handler P request context) := by
  rcases context with ⟨user, body⟩
  have hself := fun self => settles_userHandler (P := P) hroute self body
  unfold handler
  dsimp only
  generalize request.route = route at *
  cases route with
  | register => exact hroute.elim
  | login => exact settles_login body _
  | refresh => exact settles_refreshToken body _
  | gateway => exact hroute.elim
  | _ =>
    cases user with
    | none => trivial
    | some self => exact hself self

theorem settles_app : Settles P true (app P request) :=
  steady_bind settles_middlewares (settles_handler hroute)

end Requests

end Steady

section Linearizable

variable {ι : Type} (P : Platform) (requests : ι → Request) (s : Server)

/--
The requests `js`, each of them served before the next one comes.
-/
def inTurn (js : List ι) : Server :=
  js.foldl (fun s i => s.step P (requests i)) s

variable [DecidableEq ι]

-- The requests in the order of their last commands, even if the answers to these are lost.
def completed (es : List (SessionEvent ι)) : List ι :=
  Sessions.completed (Server.exec P) (fun _ => .error .connection)
    (.init (fun i => app P (requests i)) s) es

/--
The run is as if the requests had been served one after another, in the order in which their last commands
are done: it leaves the same server, and each of them is answered as it is in its turn, unless an answer
to one of its commands is lost.
-/
structure ServedInTurn (es : List (SessionEvent ι)) : Prop where
  nodup : (completed P requests s es).Nodup
  order : ∀ pre, pre <+: es → completed P requests s pre <+: completed P requests s es
  store : (serveAll P requests s es).store = inTurn P requests s (completed P requests s es)
  answers : ∀ pre i, pre ++ [i] <+: completed P requests s es → .lose i ∉ es →
    answer? P requests s es i = some ((inTurn P requests s pre).serve P (requests i)).1
  answered : ∀ i response, answer? P requests s es i = some response → .fail i ∉ es → .lose i ∉ es →
    ∃ pre, pre <+: completed P requests s es
      ∧ response = ((inTurn P requests s pre).serve P (requests i)).1

variable {P requests s} {es : List (SessionEvent ι)}

theorem answer?_of_ofExcept {i : ι} {outcome : Except Fault Response}
    (h : ((serveAll P requests s es).sessions i).rest = .ofExcept outcome)
    : answer? P requests s es i = some (respond outcome) := by
  cases outcome with
  | ok response => exact answer?_of_ret h
  | error fault => exact answer?_of_throw h

end Linearizable

end Banking.Http
