import BankingApi.Http.Routes

/-!
This module contains whose transactions and payments the responses to reads hold.
-/

namespace Banking.Http

def Owned (s : Store) (userId : UserId) (t : Transaction) : Prop :=
  t.createdBy = userId
    ∨ ∃ w ∈ s.wallets.rows, w.userId = userId
      ∧ (t.senderWalletId = some w.id ∨ t.receiverWalletId = some w.id)

def OwnedPayment (s : Store) (userId : UserId) (p : Payment) : Prop :=
  ∃ t, s.transactions.find? p.transactionId = some t ∧ Owned s userId t

def OwnedData (s : Store) (userId : UserId) (data : Data) : Prop :=
  match data with
  | .transaction t => Owned s userId t
  | .transactions ts => ∀ t ∈ ts, Owned s userId t
  | .payment p => OwnedPayment s userId p
  | .payments ps => ∀ pair ∈ ps, OwnedPayment s userId pair.1 ∧ Owned s userId pair.2
  | .paymentWithTransaction p t => OwnedPayment s userId p ∧ Owned s userId t
  | _ => True

def OwnedResponse (s : Store) (userId : UserId) (response : Response) : Prop :=
  ∀ entry ∈ response.body, OwnedData s userId entry.2

theorem ownedResponse_errorMiddleware (s : Store) (userId : UserId) (err : ErrorObject)
    : OwnedResponse s userId (errorMiddleware err) := by
  simp [OwnedResponse, errorMiddleware, OwnedData, Data.boolean, Data.string]

theorem ownedResponse_sendMessage (s : Store) (userId : UserId) (statusCode : ℕ) (success : Bool)
    (message : String)
    : OwnedResponse s userId (sendMessage statusCode success message) := by
  simp [OwnedResponse, sendMessage, OwnedData, Data.boolean, Data.string]

theorem ownedResponse_sendData_iff {s : Store} {userId : UserId} {statusCode : ℕ} {data : Data}
    : OwnedResponse s userId (sendData statusCode data) ↔ OwnedData s userId data := by
  simp [OwnedResponse, sendData, OwnedData, Data.boolean]

def Route.isRead (route : Route) : Prop :=
  match route with
  | .getHistory => True
  | .getTransactionDetails _ => True
  | .getPayments => True
  | .getPayment _ => True
  | _ => False

variable {P : Platform} {s : Server} {request : Request} {user : User}

theorem serve_read (hroute : request.route.isRead) (huser : request.subject? P s = some user)
    : (s.serve P request).1 =
      respond ((userHandler P request (.ofUser user) request.body).serve (Server.exec P) s).1 := by
  unfold Server.serve
  have hadmitted : request.admitted? P s = some (some (.ofUser user)) := by
    unfold Request.admitted?
    rw [huser]
    cases hr : request.route <;> simp_all [Route.isRead, Route.guard]
  have hbody : validated P request = .ok request.body := by
    unfold validated
    cases hr : request.route <;> simp_all [Route.isRead]
  rw [serve_app_of_admitted hadmitted hbody]
  have hhandler : handler P request { user := some (.ofUser user), body := request.body } =
      userHandler P request (.ofUser user) request.body := by
    unfold handler
    cases hr : request.route <;> simp_all [Route.isRead]
  rw [hhandler]

theorem serve_getUserWalletId (userId : UserId)
    : (∃ w ∈ s.store.wallets.rows, w.userId = userId
          ∧ (TransactionController.getUserWalletId userId).serve (Server.exec P) s = (.ok w.id, s))
        ∨ ∃ fault, (TransactionController.getUserWalletId userId).serve (Server.exec P) s =
          (.error (.failure fault), s) := by
  unfold TransactionController.getUserWalletId
  have hexec : Server.exec P (.findWalletByUserId userId) s =
      (.ok (WalletRepository.findWalletByUserId s.store userId), s) := rfl
  rw [serve_query_of_ok hexec]
  cases hfind : WalletRepository.findWalletByUserId s.store userId with
  | none => exact .inr ⟨_, rfl⟩
  | some w =>
    have hid : w.userId = userId := by simpa using List.find?_some hfind
    exact .inl ⟨w, List.mem_of_find?_eq_some hfind, hid, rfl⟩

theorem owned_getHistory (user : RequestUser) (scan : Scan)
    : OwnedResponse s.store user.id
        (respond ((TransactionController.getHistory user scan).serve (Server.exec P) s).1) := by
  unfold TransactionController.getHistory
  rw [Prog.serve_bind]
  rcases @serve_getUserWalletId P s user.id with ⟨w, hw, hid, hserve⟩ | ⟨fault, hserve⟩
  . rw [hserve]
    apply ownedResponse_sendData_iff.mpr
    intro t ht
    have hmem : t ∈ Server.findUserTransactions s.store w.id scan := ht
    unfold Server.findUserTransactions at hmem
    rw [(scan.perm_latestFirst _ _ _).mem_iff, List.mem_filter] at hmem
    exact .inr ⟨w, hw, hid, by simpa using hmem.2⟩
  . rw [hserve]
    apply ownedResponse_errorMiddleware

theorem owned_getTransactionDetails_iff (user : RequestUser) (reference : String)
    : OwnedResponse s.store user.id
          (respond ((TransactionController.getTransactionDetails reference).serve (Server.exec P) s).1) ↔
        ∀ t, s.store.transactions.rows.find? (·.transactionRef = reference) = some t →
          Owned s.store user.id t := by
  unfold TransactionController.getTransactionDetails TransactionService.getTransactionDetails
  have hexec : Server.exec P (.findTransactionByReference reference) s =
      (.ok (s.store.transactions.rows.find? (·.transactionRef = reference)), s) := rfl
  rw [Prog.serve_bind, serve_query_of_ok hexec]
  cases s.store.transactions.rows.find? (·.transactionRef = reference) with
  | none =>
    apply iff_of_true
    . apply ownedResponse_errorMiddleware
    . simp
  | some t =>
    apply Iff.trans ownedResponse_sendData_iff
    simp [OwnedData]

theorem mem_withTransaction {s : Store} {p : Payment} {pair : Payment × Transaction}
    (h : Server.withTransaction s p = some pair)
    : pair.1 = p ∧ s.transactions.find? pair.1.transactionId = some pair.2 := by
  unfold Server.withTransaction at h
  rw [Option.map_eq_some_iff] at h
  rcases h with ⟨t, ht, rfl⟩
  exact ⟨rfl, ht⟩

theorem owned_getPayments (user : RequestUser) (scan : Scan)
    : OwnedResponse s.store user.id
        (respond ((PaymentRoutes.list P user scan).serve (Server.exec P) s).1) := by
  unfold PaymentRoutes.list PaymentRepository.findPaymentsByUser PaymentRepository.throughClient
  cases P.paymentClient with
  | env => apply ownedResponse_errorMiddleware
  | tables =>
    apply ownedResponse_sendData_iff.mpr
    intro pair hpair
    have hmem : pair ∈ Server.findPaymentsByUser s.store user.id scan := hpair
    unfold Server.findPaymentsByUser at hmem
    rw [(scan.perm_latestFirst _ _ _).mem_iff, List.mem_filter, List.mem_filterMap] at hmem
    rcases hmem with ⟨⟨p, _, hjoin⟩, hcreated⟩
    have howned : Owned s.store user.id pair.2 := .inl (by simpa using hcreated)
    exact ⟨⟨pair.2, (mem_withTransaction hjoin).2, howned⟩, howned⟩

theorem owned_getPayment (user : RequestUser) (hrole : user.role ≠ .ADMIN) (reference : String)
    : OwnedResponse s.store user.id
        (respond ((PaymentRoutes.get P user reference).serve (Server.exec P) s).1) := by
  unfold PaymentRoutes.get PaymentRepository.findByReference PaymentRepository.throughClient
  cases P.paymentClient with
  | env => apply ownedResponse_errorMiddleware
  | tables =>
    have hexec : Server.exec P (.findPaymentByReference reference) s =
        (.ok (Server.findPaymentByReference s.store reference), s) := rfl
    dsimp only
    rw [serve_query_of_ok hexec]
    cases hfind : Server.findPaymentByReference s.store reference with
    | none => apply ownedResponse_sendMessage
    | some pair =>
      dsimp only
      split
      . apply ownedResponse_sendMessage
      . next hown =>
        apply ownedResponse_sendData_iff.mpr
        unfold Server.findPaymentByReference at hfind
        rw [Option.bind_eq_some_iff] at hfind
        rcases hfind with ⟨p, _, hjoin⟩
        have howned : Owned s.store user.id pair.2 := by
          left
          by_contra hne
          exact hown ⟨hne, hrole⟩
        exact ⟨⟨pair.2, (mem_withTransaction hjoin).2, howned⟩, howned⟩

theorem ownedResponse_iff (hroute : request.route.isRead) (huser : request.subject? P s = some user)
    (hrole : user.role ∉ [UserRole.ADMIN, .AUDITOR])
    : OwnedResponse s.store user.id (s.serve P request).1 ↔
      ∀ reference t, request.route = .getTransactionDetails reference →
        s.store.transactions.rows.find? (·.transactionRef = reference) = some t →
        Owned s.store user.id t := by
  rw [serve_read hroute huser]
  unfold userHandler
  cases hr : request.route with
  | getHistory => exact iff_of_true (owned_getHistory (.ofUser user) _) (by simp)
  | getTransactionDetails reference =>
    apply Iff.trans (owned_getTransactionDetails_iff (.ofUser user) reference)
    constructor
    . rintro h _ t ⟨⟩ hfind
      exact h t hfind
    . intro h t hfind
      exact h reference t rfl hfind
  | getPayments => exact iff_of_true (owned_getPayments (.ofUser user) _) (by simp)
  | getPayment reference =>
    have hadmin : user.role ≠ .ADMIN := by
      intro heq
      simp [heq] at hrole
    exact iff_of_true (owned_getPayment (.ofUser user) hadmin reference) (by simp)
  | _ => simp [hr, Route.isRead] at hroute

/--
A customer who reads finds nothing but its own records in the response.
-/
def ReadsOwn (P : Platform) (s : Server) (request : Request) : Prop :=
  request.route.isRead → ∀ user, request.subject? P s = some user →
    user.role ∉ [UserRole.ADMIN, .AUDITOR] → OwnedResponse s.store user.id (s.serve P request).1

-- No customer asks for a transaction of somebody else by reference.
def AsksForOwn (P : Platform) (s : Server) (request : Request) : Prop :=
  ∀ user, request.subject? P s = some user → user.role ∉ [UserRole.ADMIN, .AUDITOR] →
    ∀ reference t, request.route = .getTransactionDetails reference →
      s.store.transactions.rows.find? (·.transactionRef = reference) = some t →
      Owned s.store user.id t

theorem readsOwn_iff : ReadsOwn P s request ↔ AsksForOwn P s request := by
  constructor
  . intro h user huser hrole reference t hroute
    have hread : request.route.isRead := by
      rw [hroute]
      trivial
    exact (ownedResponse_iff hread huser hrole).mp (h hread user huser hrole) reference t hroute
  . intro h hread user huser hrole
    exact (ownedResponse_iff hread huser hrole).mpr (h user huser hrole)

theorem reads_own_iff (P : Platform) (s : Server) (requests : List Request)
    : (∀ pre request, pre ++ [request] <+: requests →
          ReadsOwn P (Run.run (Server.step P) s pre) request) ↔
        Run.Along (Server.step P) (AsksForOwn P) s requests := by
  apply Run.forall_step_iff_along (I := fun _ => True) (Q := ReadsOwn P)
  . intro s request _ _
    trivial
  . intro s request _
    exact readsOwn_iff
  . trivial

-- alice has a wallet and has deposited 1.
def sampleDeposited : Server :=
  (sampleServer [] List.nodup_nil).setStore (Run.run Banking.step (.initial sampleUsers) sampleDeposit)

def sampleForeignRead : Request :=
  sampleRequest (.getTransactionDetails "TX-1") "bob" none

theorem foreign_transaction_readable
    : ¬ReadsOwn samplePlatform sampleDeposited sampleForeignRead := by
  have hsubject : sampleForeignRead.subject? samplePlatform sampleDeposited =
      some (sampleUser "bob") := by
    decide +kernel
  have hfind : (sampleDeposited.store.transactions.rows.find? (·.transactionRef = "TX-1")).isSome := by
    decide +kernel
  rcases Option.isSome_iff_exists.mp hfind with ⟨t, ht⟩
  have hforeign : ∀ t ∈ sampleDeposited.store.transactions.rows,
      ¬Owned sampleDeposited.store "bob" t := by
    unfold Owned
    decide +kernel
  rw [readsOwn_iff]
  intro h
  exact hforeign t (List.mem_of_find?_eq_some ht)
    (h (sampleUser "bob") hsubject (by decide) "TX-1" t rfl ht)

end Banking.Http
