import BankingApi.Http.Effects
import BankingApi.Store.Sessions

/-!
This module contains in whose name users are changed, wallets are frozen and money is taken, when any
number of requests are served side by side.
-/

namespace Banking.Http

open Prog

abbrev History := List ((c : Command) × c.Result)

-- The user that a request claims to come from.
def Request.subjectId? (P : Platform) (request : Request) : Option UserId := do
  let token ← request.bearerToken?
  let claims ← (verifyAccessToken P token request.draw.now).toOption
  claims.id.bind Json.string?

-- The request has begun by reading the user that it claims to come from.
structure Authenticated (P : Platform) (request : Request) (history : History) (user : User)
    : Prop where
  active : user.status = .ACTIVE
  read : ∃ userId, request.subjectId? P = some userId
    ∧ [⟨.findUserById userId, .ok (some user)⟩] <+: history

def AuthenticatedAdmin (P : Platform) (request : Request) (history : History) : Prop :=
  ∃ user, Authenticated P request history user ∧ user.role = .ADMIN

-- The wallet is that of the user that the request comes from.
def OwnsWallet (P : Platform) (request : Request) (history : History) (walletId : WalletId)
    : Prop :=
  ∃ user w, Authenticated P request history user ∧ w.id = walletId
    ∧ ⟨.findWalletByUserId user.id, .ok (some w)⟩ ∈ history

/--
What a request must have been answered before it sends a command.
-/
def Entitled (P : Platform) (request : Request) (history : History) (c : Command) : Prop :=
  match c with
  | .createUser row => row.role = .CUSTOMER
  | .updateUser id (.status status) =>
    AuthenticatedAdmin P request history
      ∨ status = some .INACTIVE ∧ ∃ user, Authenticated P request history user ∧ user.id = id
  | .updateUser _ (.role _) => AuthenticatedAdmin P request history
  | .updateProfile _ data => "body" ∈ data.map Prod.fst
  | .updateWalletStatus _ status => status = .CLOSED ∨ AuthenticatedAdmin P request history
  | .withdraw senderWalletId _ _ _ _ => OwnsWallet P request history senderWalletId
  | .transfer senderWalletId _ _ _ _ _ => OwnsWallet P request history senderWalletId
  | _ => True

section Entitled

variable {P : Platform} {request : Request} {history history' : History} {c : Command} {user : User}

theorem subject?_of_subjectId? {server : Server} {userId : UserId}
    (hid : request.subjectId? P = some userId) (hfind : server.store.users.find? userId = some user)
    (hactive : user.status = .ACTIVE)
    : request.subject? P server = some user := by
  unfold Request.subjectId? at hid
  simp only [Option.bind_eq_bind, Option.bind_eq_some_iff] at hid
  rcases hid with ⟨token, htoken, claims, hclaims, j, hj, hid⟩
  simp [Request.subject?, htoken, hclaims, hj, hid, hfind, hactive]

theorem Authenticated.mono (h : Authenticated P request history user) (hle : history <+: history')
    : Authenticated P request history' user where
  active := h.active
  read := by
    rcases h.read with ⟨userId, hid, hread⟩
    exact ⟨userId, hid, hread.trans hle⟩

theorem Entitled.keepsProfiles (h : Entitled P request history c) : c.keepsProfiles := by
  cases c <;> trivial

theorem Entitled.ownsWallet {id : WalletId} (h : Entitled P request history c)
    (hc : c.debited? = some id)
    : OwnsWallet P request history id := by
  cases c <;> cases hc <;> exact h

theorem entitled_of_isPlain (hc : c.isPlain) : Entitled P request history c := by
  cases c <;> trivial

inductive Admitted (P : Platform) (request : Request) (history : History)
    : Option RequestUser → Prop where
  | open (h : request.route.guard = .open) : Admitted P request history none
  | authenticated {dbUser} (h : request.route.guard = .authenticated)
      (huser : Authenticated P request history dbUser)
    : Admitted P request history (some (.ofUser dbUser))
  | authorized {allowedRoles dbUser} (h : request.route.guard = .authorized allowedRoles)
      (huser : Authenticated P request history dbUser) (hrole : dbUser.role ∈ allowedRoles)
    : Admitted P request history (some (.ofUser dbUser))

variable {user? : Option RequestUser}

theorem Admitted.mono (h : Admitted P request history user?) (hle : history <+: history')
    : Admitted P request history' user? := by
  cases h with
  | «open» h => exact .open h
  | authenticated h huser => exact .authenticated h (huser.mono hle)
  | authorized h huser hrole => exact .authorized h (huser.mono hle) hrole

theorem Admitted.exists_user {self : RequestUser} (h : Admitted P request history (some self))
    : ∃ user, Authenticated P request history user ∧ self = .ofUser user := by
  cases h with
  | authenticated _ huser => exact ⟨_, huser, rfl⟩
  | authorized _ huser _ => exact ⟨_, huser, rfl⟩

theorem Admitted.admin (h : Admitted P request history user?)
    (hguard : request.route.guard = .authorized [.ADMIN])
    : AuthenticatedAdmin P request history := by
  cases h with
  | «open» h => cases h.symm.trans hguard
  | authenticated h => cases h.symm.trans hguard
  | authorized h huser hrole =>
    cases h.symm.trans hguard
    exact ⟨_, huser, List.mem_singleton.mp hrole⟩

-- The guard of a route asks for what its handler needs, but for the wallets that money is taken from.
theorem entitled_of_sends (hadmitted : Admitted P request history user?)
    (hroute : request.route ∉ [Route.withdraw, .transfer]) (h : request.route.Sends user? c)
    : Entitled P request history c := by
  generalize hr : request.route = route at h hroute
  have hadmin : route.guard = .authorized [.ADMIN] → AuthenticatedAdmin P request history := by
    intro hguard
    rw [← hr] at hguard
    exact hadmitted.admin hguard
  cases h with
  | plain hc => exact entitled_of_isPlain hc
  | read _ hc => cases c <;> trivial
  | register hrole => exact hrole
  | login => trivial
  | logout => trivial
  | updateMe _ hkey => exact hkey
  | changePassword => trivial
  | deleteMe hself =>
    rw [hself] at hadmitted
    rcases hadmitted.exists_user with ⟨user, huser, rfl⟩
    exact .inr ⟨rfl, user, huser, rfl⟩
  | changeStatus => exact .inl (hadmin rfl)
  | changeRole => exact hadmin rfl
  | freezeWallet => exact .inr (hadmin rfl)
  | unfreezeWallet => exact .inr (hadmin rfl)
  | closeWallet => exact .inl rfl
  | withdraw => simp at hroute
  | transfer => simp at hroute

end Entitled

section Guarded

variable {P : Platform} {request : Request} {history : History} {α β : Type}

theorem guarded_query_bind {G : History → Command → Prop} {Post : History → α → Prop} {c : Command}
    {f : c.Value → Action α} (hc : G history c)
    (hf : ∀ a, (f a).Guarded G Post (history ++ [⟨c, .ok a⟩]))
    : (query c >>= f).Guarded G Post history := by
  refine ⟨hc, ?_⟩
  intro r
  cases r with
  | ok a => exact hf a
  | error e => trivial

theorem guarded_authenticate (P : Platform) (request : Request)
    : (authenticate P request).Guarded (Entitled P request)
        (fun history self => ∃ user, Authenticated P request history user ∧ self = .ofUser user)
        [] := by
  unfold authenticate
  cases htoken : request.bearerToken? with
  | none => trivial
  | some token =>
    dsimp only
    cases hclaims : verifyAccessToken P token request.draw.now with
    | error e => cases e <;> trivial
    | ok claims =>
      dsimp only
      cases hid : claims.id.bind Json.string? with
      | none => trivial
      | some userId =>
        rw [required_some_bind]
        apply guarded_query_bind
        . trivial
        . intro dbUser
          cases dbUser with
          | none => trivial
          | some user =>
            dsimp only
            split
            . trivial
            . next hstatus =>
              have hactive : user.status = .ACTIVE := by
                cases h : user.status <;> simp_all
              have hsubject : request.subjectId? P = some userId := by
                simp [Request.subjectId?, htoken, hclaims, hid, Except.toOption]
              exact ⟨user, ⟨hactive, userId, hsubject, List.prefix_rfl⟩, rfl⟩

theorem guarded_guarded (P : Platform) (request : Request)
    : (guarded P request).Guarded (Entitled P request) (Admitted P request) [] := by
  have hauthenticate := guarded_authenticate P request
  unfold guarded
  cases hguard : request.route.guard with
  | «open» => exact .open hguard
  | authenticated =>
    apply Prog.guarded_bind
    apply Prog.guarded_mono hauthenticate
    rintro history _ ⟨user, huser, rfl⟩
    exact .authenticated hguard huser
  | authorized allowedRoles =>
    apply Prog.guarded_bind
    apply Prog.guarded_mono hauthenticate
    rintro history _ ⟨user, huser, rfl⟩
    unfold authorize
    split
    . next hrole => exact .authorized hguard huser hrole
    . trivial

theorem guarded_getUserWalletId {user : User} (huser : Authenticated P request history user)
    : (TransactionController.getUserWalletId user.id).Guarded (Entitled P request)
        (fun history walletId => OwnsWallet P request history walletId) history := by
  apply guarded_query_bind
  . trivial
  . intro wallet
    cases wallet with
    | none => trivial
    | some wallet => exact ⟨user, wallet, huser.mono (List.prefix_append _ _), rfl, by simp⟩

theorem OwnsWallet.mono {history' : History} {id : WalletId} (h : OwnsWallet P request history id)
    (hle : history <+: history')
    : OwnsWallet P request history' id := by
  rcases h with ⟨user, w, huser, hid, hread⟩
  exact ⟨user, w, huser.mono hle, hid, hle.subset hread⟩

theorem permits_debit (id : WalletId)
    : Permits (fun c => c.isPlain ∨ c.debited? = some id) (fun _ => True) where
  plain _ hc := .inl hc
  failure _ := trivial

/--
What begins with the wallet of the user and takes money from there only.
-/
theorem guarded_getUserWalletId_bind {user : User} {f : WalletId → Action α}
    (huser : Authenticated P request history user)
    (hf : ∀ id, (f id).Obeys (fun c => c.isPlain ∨ c.debited? = some id) (fun _ => True)
      (fun _ => True))
    : (TransactionController.getUserWalletId user.id >>= f).Guarded (Entitled P request)
        (fun _ _ => True) history := by
  apply Prog.guarded_bind
  apply Prog.guarded_mono (guarded_getUserWalletId huser)
  intro history walletId howns
  apply Prog.guarded_mono (Prog.guarded_of_obeys _ (hf walletId))
  . intro _ _ _
    trivial
  . intro history' c hle hc
    rcases hc with hplain | hdebit
    . exact entitled_of_isPlain hplain
    . have howns' := howns.mono hle
      cases c <;> cases hdebit <;> exact howns'

theorem guarded_withdraw {user : User} (huser : Authenticated P request history user)
    (body : Option Json) (gen : Generated)
    : (TransactionController.withdraw (.ofUser user) body gen).Guarded (Entitled P request)
        (fun _ _ => True) history := by
  apply guarded_getUserWalletId_bind huser
  intro walletId
  have h := permits_debit walletId
  apply obeys_bind (obeys_destructure h body)
  intro body
  apply obeys_bind (obeys_withdrawFrom h (fun _ _ => .inr rfl) _)
  intro transaction
  trivial

theorem guarded_transfer {user : User} (huser : Authenticated P request history user)
    (body : Option Json) (gen : Generated)
    : (TransactionController.transfer (.ofUser user) body gen).Guarded (Entitled P request)
        (fun _ _ => True) history := by
  apply guarded_getUserWalletId_bind huser
  intro walletId
  have h := permits_debit walletId
  apply obeys_bind (obeys_destructure h body)
  intro body
  apply obeys_bind (obeys_transferFrom h (fun _ _ _ => .inr rfl) _ _)
  intro transaction
  trivial

theorem guarded_handler {context : Context} (hadmitted : Admitted P request history context.user)
    (hbody : validated P request = .ok context.body)
    : (handler P request context).Guarded (Entitled P request) (fun _ _ => True) history := by
  rcases context with ⟨user?, body⟩
  by_cases hroute : request.route ∈ [Route.withdraw, .transfer]
  . have hguard : request.route.guard = .authenticated := by
      rcases List.mem_pair.mp hroute with hr | hr <;> rw [hr] <;> rfl
    have hself : ∃ user, Authenticated P request history user ∧ user? = some (.ofUser user) := by
      cases hadmitted with
      | «open» h => cases h.symm.trans hguard
      | authenticated _ huser => exact ⟨_, huser, rfl⟩
      | authorized h => cases h.symm.trans hguard
    rcases hself with ⟨user, huser, rfl⟩
    unfold handler userHandler
    rcases List.mem_pair.mp hroute with hr | hr
    . rw [hr]
      exact guarded_withdraw huser body _
    . rw [hr]
      exact guarded_transfer huser body _
  . apply Prog.guarded_mono (Prog.guarded_of_obeys _ (obeys_handler hbody))
    . intro _ _ _
      trivial
    . intro history' c hle hc
      exact entitled_of_sends (hadmitted.mono hle) hroute hc

theorem guarded_app (P : Platform) (request : Request)
    : (app P request).Guarded (Entitled P request) (fun _ _ => True) [] := by
  unfold app middlewares
  rw [Prog.bind_bind]
  apply Prog.guarded_bind
  apply Prog.guarded_mono (guarded_guarded P request)
  intro history user? hadmitted
  cases hbody : validated P request with
  | error fault => trivial
  | ok body => exact guarded_handler hadmitted hbody

end Guarded

section Runs

variable {ι : Type} [DecidableEq ι] (P : Platform) (requests : ι → Request) (s : Server)

/--
Requests served side by side, one command at a time.
-/
def serveAll (es : List (SessionEvent ι))
    : Sessions Command Command.Result Fault Server ι Response :=
  Run.run (Sessions.step (Server.exec P) (fun _ => .error .connection))
    (.init (fun i => app P (requests i)) s) es

-- The user whose row the request has read by `authenticate`, with its first command.
def IsSubject (es : List (SessionEvent ι)) (i : ι) (user : User) : Prop :=
  ∃ pre, pre ++ [.exec i] <+: es ∧ ((serveAll P requests s pre).sessions i).history = []
    ∧ (requests i).subject? P (serveAll P requests s pre).store = some user
    ∧ user.status = .ACTIVE

def ByAdmin (es : List (SessionEvent ι)) (ev : SessionEvent ι) : Prop :=
  ∃ i user, ev.done? = some i ∧ IsSubject P requests s es i user ∧ user.role = .ADMIN

def BySubject (es : List (SessionEvent ι)) (ev : SessionEvent ι) (userId : UserId) : Prop :=
  ∃ i user, ev.done? = some i ∧ IsSubject P requests s es i user ∧ user.id = userId

-- A payment into the wallet whose amount `Number` cannot read: no check holds it above zero.
def ByUncheckedPayment (es : List (SessionEvent ι)) (ev : SessionEvent ι) (walletId : WalletId)
    : Prop :=
  ∃ i c next, ev.done? = some i ∧ ((serveAll P requests s es).sessions i).rest = .call c next
    ∧ c.separated? = some walletId

/--
What one step of a run may do to users, to the status of wallets and to their money.
-/
structure Authorised (es : List (SessionEvent ι)) (ev : SessionEvent ι) (store store' : Store)
    : Prop where
  created : ∀ u' ∈ store'.users.rows, (∀ u ∈ store.users.rows, u'.id ≠ u.id) → u'.role = .CUSTOMER
  role : ∀ u ∈ store.users.rows, ∀ u' ∈ store'.users.rows, u'.id = u.id → u'.role ≠ u.role →
    ByAdmin P requests s es ev
  status : ∀ u ∈ store.users.rows, ∀ u' ∈ store'.users.rows, u'.id = u.id → u'.status ≠ u.status →
    ByAdmin P requests s es ev ∨ u'.status = .INACTIVE ∧ BySubject P requests s es ev u.id
  wallet : ∀ id w w', store.wallets.find? id = some w → store'.wallets.find? id = some w' →
    w'.status ≠ w.status → w'.status ≠ .CLOSED → ByAdmin P requests s es ev
  balance : ∀ id w w', store.wallets.find? id = some w → store'.wallets.find? id = some w' →
    w'.balance.toRat < w.balance.toRat →
      BySubject P requests s es ev w.userId ∨ ByUncheckedPayment P requests s es ev id
  debit : ∀ e ∈ store'.ledgerEntries.rows, e ∉ store.ledgerEntries.rows → e.entryType = .DEBIT →
    ∃ w, store.wallets.find? e.walletId = some w ∧ BySubject P requests s es ev w.userId

variable {P requests s} {es : List (SessionEvent ι)} {i : ι} {user : User}

theorem serveAll_append_singleton (es : List (SessionEvent ι)) (ev : SessionEvent ι)
    : serveAll P requests s (es ++ [ev]) =
      Sessions.step (Server.exec P) (fun _ => .error .connection) (serveAll P requests s es) ev :=
  Run.run_append_singleton _ _ _ _

theorem exists_serveAll_eq_step (h : ((serveAll P requests s es).sessions i).rest = app P (requests i))
    : ∃ n, (serveAll P requests s (es ++ List.replicate n (.exec i))).store =
      (serveAll P requests s es).store.step P (requests i) := by
  rcases Sessions.exists_run_eq_serve h with ⟨n, hstore, _⟩
  refine ⟨n, ?_⟩
  unfold serveAll at *
  rw [Run.run_append, hstore]
  rfl

theorem serveAll_exec (es : List (SessionEvent ι)) (ev : SessionEvent ι)
    : (serveAll P requests s (es ++ [ev])).store = (serveAll P requests s es).store
        ∨ ∃ i c next, ev.done? = some i ∧ ((serveAll P requests s es).sessions i).rest = .call c next
          ∧ (serveAll P requests s (es ++ [ev])).store =
            (Server.exec P c (serveAll P requests s es).store).2 := by
  have hstep := Sessions.step_cases (Server.exec P) (fun _ => .error .connection)
    (serveAll P requests s es) ev
  rw [serveAll_append_singleton]
  generalize Sessions.step (Server.exec P) (fun _ => .error .connection)
    (serveAll P requests s es) ev = m' at *
  cases hstep with
  | stutter => exact .inl rfl
  | done hi hev => exact .inr ⟨_, _, _, hev, hi, rfl⟩
  | fail hi => exact .inl rfl

theorem serveAll_cases (es : List (SessionEvent ι)) (ev : SessionEvent ι)
    : (serveAll P requests s (es ++ [ev])).store = (serveAll P requests s es).store
        ∨ ∃ i c next, ev.done? = some i
          ∧ ((serveAll P requests s es).sessions i).rest = .call c next
          ∧ Entitled P (requests i) ((serveAll P requests s es).sessions i).history c
          ∧ Executed (serveAll P requests s es).store.store c
            (serveAll P requests s (es ++ [ev])).store.store := by
  have hguarded : Sessions.AllGuarded (fun i => Entitled P (requests i)) (serveAll P requests s es) :=
    Sessions.allGuarded_run es (fun i => guarded_app P (requests i))
  rcases @serveAll_exec ι _ P requests s es ev with hsame | ⟨i, c, next, hev, hnext, hstore⟩
  . exact .inl hsame
  . have hentitled := hguarded i
    rw [hnext] at hentitled
    rw [hstore]
    exact .inr ⟨i, c, next, hev, hnext, hentitled.1, exec_cases _ hentitled.1.keepsProfiles⟩

theorem serveAll_kept {Q : Store → Prop} {pre : List (SessionEvent ι)}
    (hkept : ∀ {store c store'}, Executed store c store' → Q store → Q store') (hle : pre <+: es)
    (h : Q (serveAll P requests s pre).store.store)
    : Q (serveAll P requests s es).store.store := by
  refine @Run.later_induction _ (fun mid => Q (serveAll P requests s mid).store.store) _ _ hle h ?_
  intro mid ev _ _ ih
  rcases @serveAll_cases ι _ P requests s mid ev with hsame | ⟨_, _, _, _, _, _, hexecuted⟩
  . rw [hsame]
    exact ih
  . exact hkept hexecuted ih

theorem isSubject_of_authenticated
    (h : Authenticated P (requests i) ((serveAll P requests s es).sessions i).history user)
    : IsSubject P requests s es i user := by
  rcases h.read with ⟨userId, hid, later, hhistory⟩
  have hfirst : ((serveAll P requests s es).sessions i).history =
      [] ++ ⟨.findUserById userId, .ok (some user)⟩ :: later :=
    hhistory.symm
  rcases Sessions.answered_of_history_eq hfirst with ⟨pre, hnone, ⟨hle, hanswer⟩ | ⟨_, hanswer⟩⟩
  . refine ⟨pre, hle, hnone, ?_, h.active⟩
    have hfind : (serveAll P requests s pre).store.store.users.find? userId = some user :=
      (Except.ok.inj hanswer).symm
    exact subject?_of_subjectId? hid hfind h.active
  . cases hanswer

variable {ev : SessionEvent ι}

theorem byAdmin_of_authenticated (hev : ev.done? = some i)
    (h : AuthenticatedAdmin P (requests i) ((serveAll P requests s es).sessions i).history)
    : ByAdmin P requests s es ev := by
  rcases h with ⟨user, huser, hrole⟩
  exact ⟨i, user, hev, isSubject_of_authenticated huser, hrole⟩

theorem bySubject_of_authenticated (hev : ev.done? = some i)
    (h : Authenticated P (requests i) ((serveAll P requests s es).sessions i).history user)
    : BySubject P requests s es ev user.id :=
  ⟨i, user, hev, isSubject_of_authenticated h, rfl⟩

theorem owner_kept {pre : List (SessionEvent ι)} (hle : pre <+: es) {id : WalletId} {w : Wallet}
    (hw : (serveAll P requests s pre).store.store.wallets.find? id = some w)
    : ∃ w', (serveAll P requests s es).store.store.wallets.find? id = some w'
      ∧ w'.userId = w.userId := by
  apply serveAll_kept (Q := fun store => ∃ w', store.wallets.find? id = some w' ∧ w'.userId = w.userId)
  . rintro store c store' hexecuted ⟨w', hw', huser⟩
    rcases hexecuted.wallet_kept hw' with ⟨w'', hw'', huser', _⟩
    exact ⟨w'', hw'', huser'.trans huser⟩
  . exact hle
  . exact ⟨w, hw, rfl⟩

theorem bySubject_of_ownsWallet {id : WalletId} {w : Wallet} (hev : ev.done? = some i)
    (h : OwnsWallet P (requests i) ((serveAll P requests s es).sessions i).history id)
    (hw : (serveAll P requests s es).store.store.wallets.find? id = some w)
    : BySubject P requests s es ev w.userId := by
  rcases h with ⟨user, w₀, huser, hid, hread⟩
  rcases List.append_of_mem hread with ⟨history, later, hhistory⟩
  rcases Sessions.answered_of_history_eq hhistory with ⟨pre, _, ⟨hle, hanswer⟩ | ⟨_, hanswer⟩⟩
  . have hfind : WalletRepository.findWalletByUserId (serveAll P requests s pre).store.store user.id =
        some w₀ :=
      (Except.ok.inj hanswer).symm
    have howner : w₀.userId = user.id := by simpa using List.find?_some hfind
    have hw₀ := Table.find?_of_mem (List.mem_of_find?_eq_some hfind)
    rw [hid] at hw₀
    rcases owner_kept ((List.prefix_append _ _).trans hle) hw₀ with ⟨w', hw', huserId⟩
    cases hw.symm.trans hw'
    rw [huserId, howner]
    exact bySubject_of_authenticated hev huser
  . cases hanswer

theorem authorised_of_executed {c : Command} {next : c.Result → Action Response} {store' : Store}
    (hev : ev.done? = some i) (hnext : ((serveAll P requests s es).sessions i).rest = .call c next)
    (hentitled : Entitled P (requests i) ((serveAll P requests s es).sessions i).history c)
    (h : Executed (serveAll P requests s es).store.store c store')
    : Authorised P requests s es ev (serveAll P requests s es).store.store store' where
  created := by
    intro u' hu' hnew
    rcases h.user_cases hu' with hold | ⟨rfl, _⟩ | ⟨u, hu, change, _, rfl⟩
    . exact absurd rfl (hnew u' hold)
    . exact hentitled
    . exact absurd (change.id_apply u) (hnew u hu)
  role := by
    intro u hu u' hu' hid hne
    rcases h.user_changed hu hu' hid with rfl | ⟨change, rfl, rfl⟩
    . exact absurd rfl hne
    . cases change with
      | role role => exact byAdmin_of_authenticated hev hentitled
      | _ => exact absurd rfl hne
  status := by
    intro u hu u' hu' hid hne
    rcases h.user_changed hu hu' hid with rfl | ⟨change, rfl, rfl⟩
    . exact absurd rfl hne
    . cases change with
      | status status =>
        rcases hentitled with hadmin | ⟨rfl, user, huser, hself⟩
        . exact .inl (byAdmin_of_authenticated hev hadmin)
        . right
          rw [← hself]
          exact ⟨rfl, bySubject_of_authenticated hev huser⟩
      | _ => exact absurd rfl hne
  wallet := by
    intro id w w' hw hw' hne hopen
    rcases h.wallet_kept hw with ⟨_, hfind, _, hstatus, _⟩
    cases hw'.symm.trans hfind
    rcases hstatus with heq | rfl
    . exact absurd heq hne
    . rcases hentitled with hclosed | hadmin
      . exact absurd hclosed hopen
      . exact byAdmin_of_authenticated hev hadmin
  balance := by
    intro id w w' hw hw' hlt
    rcases h.wallet_kept hw with ⟨_, hfind, _, _, hdebit⟩
    cases hw'.symm.trans hfind
    rcases hdebit hlt with hdebit | hseparated
    . exact .inl (bySubject_of_ownsWallet hev (hentitled.ownsWallet hdebit) hw)
    . exact .inr ⟨i, c, next, hev, hnext, hseparated⟩
  debit := by
    intro e he hnew htype
    rcases h.debited_of_entry he hnew htype with ⟨hdebit, w, hw⟩
    exact ⟨w, hw, bySubject_of_ownsWallet hev (hentitled.ownsWallet hdebit) hw⟩

theorem authorised_of_same (es : List (SessionEvent ι)) (ev : SessionEvent ι) (store : Store)
    : Authorised P requests s es ev store store where
  created u' hu' hnew := absurd rfl (hnew u' hu')
  role u hu u' hu' hid hne := by
    rw [Table.eq_of_mem_of_key_eq hu' hu hid] at hne
    exact absurd rfl hne
  status u hu u' hu' hid hne := by
    rw [Table.eq_of_mem_of_key_eq hu' hu hid] at hne
    exact absurd rfl hne
  wallet id w w' hw hw' hne _ := by
    cases hw.symm.trans hw'
    exact absurd rfl hne
  balance id w w' hw hw' hlt := by
    cases hw.symm.trans hw'
    exact absurd hlt (lt_irrefl _)
  debit e he hnew _ := absurd he hnew

theorem authorised_step (es : List (SessionEvent ι)) (ev : SessionEvent ι)
    : Authorised P requests s es ev (serveAll P requests s es).store.store
        (serveAll P requests s (es ++ [ev])).store.store := by
  rcases serveAll_cases es ev with hsame | ⟨i, c, next, hev, hnext, hentitled, hexecuted⟩
  . rw [hsame]
    apply authorised_of_same
  . exact authorised_of_executed hev hnext hentitled hexecuted

def NoAdmin (store : Store) : Prop :=
  ∀ u ∈ store.users.rows, u.role ≠ .ADMIN

theorem noAdmin_serveAll (h : NoAdmin s.store) (es : List (SessionEvent ι))
    : ∀ pre, pre <+: es → NoAdmin (serveAll P requests s pre).store.store := by
  induction es using List.reverseRecOn with
  | nil =>
    intro pre hpre
    rw [List.prefix_nil.mp hpre]
    exact h
  | append_singleton es ev ih =>
    intro pre hpre
    rcases List.prefix_concat_iff.mp hpre with rfl | hpre
    . intro u' hu'
      have hstep := @authorised_step ι _ P requests s es ev
      by_cases hold : ∃ u ∈ (serveAll P requests s es).store.store.users.rows, u'.id = u.id
      . rcases hold with ⟨u, hu, hid⟩
        intro hadmin
        have hne : u'.role ≠ u.role := by
          rw [hadmin]
          exact (ih es List.prefix_rfl u hu).symm
        rcases hstep.role u hu u' hu' hid hne with ⟨i, user, _, hsubject, hrole⟩
        rcases hsubject with ⟨before, hbefore, _, huser, _⟩
        have hle : before <+: es := (List.prefix_append _ _).trans hbefore
        exact ih before hle user (mem_of_subject? huser) hrole
      . have hcustomer := hstep.created u' hu' (fun u hu hid => hold ⟨u, hu, hid⟩)
        rw [hcustomer]
        decide
    . exact ih pre hpre

theorem changes_authorised (P : Platform) (requests : ι → Request) (s : Server)
    : (∀ (es : List (SessionEvent ι)) (ev : SessionEvent ι),
          Authorised P requests s es ev (serveAll P requests s es).store.store
            (serveAll P requests s (es ++ [ev])).store.store)
        ∧ (NoAdmin s.store →
          ∀ es : List (SessionEvent ι), NoAdmin (serveAll P requests s es).store.store) := by
  constructor
  . intro es ev
    apply authorised_step
  . intro h es
    exact noAdmin_serveAll h es es List.prefix_rfl

end Runs

end Banking.Http
