import BankingApi.Http.Routes

/-!
This module contains `shared/config/env.js`, and what becomes of the repositories that take the object it
exports for the client of the database.
-/

namespace Banking.Http

namespace Env

-- `z.coerce.number().int()`: a value that is no safe integer is refused, as `null` is by `number`.
def coerceInt (value : Json) : Json :=
  match value.toNumber with
  | .finite q =>
    if h : |q| < 2 ^ 1024 ∧ binary64.round q = q ∧ q.den = 1 ∧ |q| ≤ 2 ^ 53 - 1 then
      .number ⟨q, h.1, h.2.1⟩
    else
      .null
  | _ => .null

def processEnv (vars : List (String × String)) : Json :=
  .object (vars.map (fun (key, value) =>
    (key, if key = "PORT" then coerceInt (.string value) else .string value)))

def envSchema (isUrl : String → Bool) : Zod.Schema :=
  .object
    [
      ("PORT", .default (.number [.positive]) (.number (.ofRat 5000 (by decide +kernel)))),
      ("NODE_ENV", .default (.enum ["development", "production", "test"]) (.string "development")),
      ("DATABASE_URL", .string [.format isUrl])
    ]
    false

/--
The exported object. Without a result the process exits.
-/
def env (isUrl : String → Bool) (vars : List (String × String)) : Option Json :=
  ((envSchema isUrl).parse (some (processEnv vars))).join

theorem get?_env {isUrl : String → Bool} {vars : List (String × String)} {e : Json}
    {key : String} (h : env isUrl vars = some e)
    (hkey : key ∉ ["PORT", "NODE_ENV", "DATABASE_URL"])
    : e.get? key = none := by
  have hparse : (envSchema isUrl).parse (some (processEnv vars)) = some (some e) :=
    Option.join_eq_some_iff.mp h
  rcases Zod.Schema.lookup_of_parse_object hparse (by simp) with ⟨_, out, _, hout, hnone, _⟩
  cases hout
  exact hnone key (by simpa using hkey)

end Env

inductive Property where
  | value (j : Json)
  -- one of the objects of a Prisma client that act on a table
  | delegate

/--
What `require` returns, by the names of its properties.
-/
abbrev Exported : Type := String → Option Property

namespace Exported

def env (e : Json) : Exported :=
  fun key => (e.get? key).map .value

-- lib/prisma.js
def prisma : Exported :=
  fun key =>
    if key ∈ ["user", "wallet", "transaction", "ledgerEntry", "payment", "auditLog"] then
      some .delegate
    else
      none

-- `prisma.payment.update(..)` throws a TypeError unless `prisma.payment` is a delegate.
def paymentClient (prisma : Exported) : PaymentClient :=
  match prisma "payment" with
  | some .delegate => .tables
  | _ => .env

end Exported

structure AuditLog where
  id : String
  userId : String
  action : String
  entity : String
  entityId : String
  oldValue : Option Json
  newValue : Option Json
  ipAddress : Option String
  userAgent : Option String
  createdAt : ℕ
  deriving DecidableEq

-- The latest comes first.
def page (auditLogs : List AuditLog) (limit offset : ℕ) : List AuditLog :=
  ((auditLogs.mergeSort (fun a b => b.createdAt ≤ a.createdAt)).drop offset).take limit

def AuditRepository.listAudits (prisma : Exported) (auditLogs : List AuditLog) (limit offset : ℕ)
    : Except Failure (List AuditLog) :=
  match prisma "auditLog" with
  | some .delegate => .ok (page auditLogs limit offset)
  | _ => .error .typeError

-- The job PAYMENT_SUCCESS of `payment.worker.js`.
def PaymentWorker.process (P : Platform) (job : PaymentSuccess) : Action Payment :=
  PaymentRepository.updateStatus P job.paymentId .SUCCESS

def Platform.withClient (P : Platform) (prisma : Exported) : Platform :=
  { P with paymentClient := prisma.paymentClient }

section Properties

variable (P : Platform) (s : Server)

def VerifiesPayment (paymentRef : String) (gatewayResponse : Json) : Prop :=
  match Banking.PaymentRepository.findByReference s.store paymentRef with
  | none =>
    (PaymentService.verifyPayment P (some paymentRef) (some gatewayResponse)).serve (Server.exec P) s =
      (.error (.failure (.app (NotFoundError "Payment not found"))), s)
  | some p =>
    let status : PaymentStatus :=
      if gatewayResponse.get? "success" = some (.boolean true) then .SUCCESS else .FAILED
    ∃ s', (PaymentService.verifyPayment P (some paymentRef) (some gatewayResponse)).serve
          (Server.exec P) s =
        (.ok { p with status := status }, s')
      ∧ s'.store =
        { s.store with
          payments := s.store.payments.update p.id
            ({ · with status := status, gatewayResponse := some gatewayResponse }) (fun _ => rfl) }

def CompletesJob (job : PaymentSuccess) : Prop :=
  ∃ p s', (PaymentWorker.process P job).serve (Server.exec P) s = (.ok p, s')
    ∧ (s'.store.payments.find? job.paymentId).map Payment.status = some .SUCCESS

def FindsPayments (userId : UserId) (scan : Scan) : Prop :=
  (PaymentRepository.findPaymentsByUser P userId scan).serve (Server.exec P) s =
    (.ok (Server.findPaymentsByUser s.store userId scan), s)

def ListsAudits (prisma : Exported) (auditLogs : List AuditLog) (limit offset : ℕ) : Prop :=
  AuditRepository.listAudits prisma auditLogs limit offset = .ok (page auditLogs limit offset)

end Properties

section Refused

variable {P : Platform}

theorem throughClient_of_env (h : P.paymentClient = .env) (c : Command)
    : PaymentRepository.throughClient P c = fail .typeError := by
  unfold PaymentRepository.throughClient
  rw [h]

theorem verifyPayment_of_env (h : P.paymentClient = .env) (paymentRef : Option String)
    (gatewayResponse : Option Json)
    : PaymentService.verifyPayment P paymentRef gatewayResponse = fail .typeError := by
  unfold PaymentService.verifyPayment PaymentService.paymentOf
  rw [h]
  rfl

theorem process_of_env (h : P.paymentClient = .env) (job : PaymentSuccess)
    : PaymentWorker.process P job = fail .typeError :=
  throughClient_of_env h _

theorem not_verifiesPayment_of_env (h : P.paymentClient = .env) (s : Server) (paymentRef : String)
    (gatewayResponse : Json)
    : ¬VerifiesPayment P s paymentRef gatewayResponse := by
  unfold VerifiesPayment
  rw [verifyPayment_of_env h]
  split
  . simp [fail]
  . simp [fail]

theorem not_completesJob_of_env (h : P.paymentClient = .env) (s : Server) (job : PaymentSuccess)
    : ¬CompletesJob P s job := by
  unfold CompletesJob
  rw [process_of_env h]
  simp [fail]

theorem not_findsPayments_of_env (h : P.paymentClient = .env) (s : Server) (userId : UserId)
    (scan : Scan)
    : ¬FindsPayments P s userId scan := by
  unfold FindsPayments PaymentRepository.findPaymentsByUser
  rw [throughClient_of_env h]
  simp [fail]

end Refused

section Granted

variable {P : Platform} {s : Server}

theorem throughClient_of_tables (h : P.paymentClient = .tables) (c : Command)
    : PaymentRepository.throughClient P c = query c := by
  unfold PaymentRepository.throughClient
  rw [h]

theorem serve_query {c : Command} {a : c.Value} {s' : Server}
    (h : Server.exec P c s = (.ok a, s'))
    : (query c).serve (Server.exec P) s = (.ok a, s') := by
  unfold query
  rw [Prog.serve_call, h]
  rfl

theorem exec_updatePaymentStatus {id : String} {p : Payment}
    (h : s.store.payments.find? id = some p) (status : PaymentStatus)
    : Server.exec P (.updatePaymentStatus id status) s =
      (.ok { p with status := status }, s.setStore { s.store with
        payments := s.store.payments.update id ({ · with status := status }) (fun _ => rfl) }) := by
  simp [Server.exec, Banking.PaymentRepository.updateStatus, Banking.PaymentRepository.update, h,
    Server.commit]

theorem exec_updateGatewayResponse {id : String} {p : Payment}
    (h : s.store.payments.find? id = some p) (response : Json)
    : Server.exec P (.updateGatewayResponse id response) s =
      (.ok { p with gatewayResponse := some response }, s.setStore { s.store with
        payments := s.store.payments.update id ({ · with gatewayResponse := some response })
          (fun _ => rfl) }) := by
  simp [Server.exec, Banking.PaymentRepository.updateGatewayResponse,
    Banking.PaymentRepository.update, h, Server.commit]

theorem findsPayments_of_tables (h : P.paymentClient = .tables) (userId : UserId) (scan : Scan)
    : FindsPayments P s userId scan := by
  unfold FindsPayments PaymentRepository.findPaymentsByUser
  rw [throughClient_of_tables h]
  rfl

theorem completesJob_of_tables (h : P.paymentClient = .tables) {job : PaymentSuccess}
    (hjob : (s.store.payments.find? job.paymentId).isSome)
    : CompletesJob P s job := by
  rcases Option.isSome_iff_exists.mp hjob with ⟨p, hp⟩
  unfold CompletesJob PaymentWorker.process PaymentRepository.updateStatus
  rw [throughClient_of_tables h]
  refine ⟨_, _, serve_query (exec_updatePaymentStatus hp .SUCCESS), ?_⟩
  simp [Server.setStore, Table.find?_update_self, hp]

theorem verdict_of_success {gatewayResponse : Json} {success : Bool}
    (h : gatewayResponse.get? "success" = some (.boolean success))
    : Banking.PaymentService.verdict (some gatewayResponse) =
      .ok (gatewayResponse, if success then .SUCCESS else .FAILED) := by
  unfold Banking.PaymentService.verdict
  split
  . next heq => cases heq
  . next heq =>
    cases heq
    cases h
  . next heq =>
    cases heq
    simp [h, Json.truthy]

theorem serve_paymentOf (h : P.paymentClient = .tables) {paymentRef : String}
    : (PaymentService.paymentOf P (some paymentRef)).serve (Server.exec P) s =
      (.ok (Server.findPaymentByReference s.store paymentRef), s) := by
  unfold PaymentService.paymentOf
  rw [h]
  change (PaymentRepository.throughClient P _).serve _ _ = _
  rw [throughClient_of_tables h]
  rfl

theorem serve_updates (h : P.paymentClient = .tables) {p : Payment}
    (hp : s.store.payments.find? p.id = some p) (status : PaymentStatus) (response : Json)
    (f : Payment → Action Payment)
    : (PaymentRepository.updateStatus P p.id status >>= fun updatedPayment =>
          PaymentRepository.updateGatewayResponse P p.id response >>= fun _ =>
            f updatedPayment).serve (Server.exec P) s =
        (f { p with status := status }).serve (Server.exec P) (s.setStore { s.store with
          payments := s.store.payments.update p.id
            ({ · with status := status, gatewayResponse := some response }) (fun _ => rfl) }) := by
  have hp' : (s.store.payments.update p.id ({ · with status := status })
      (fun _ => rfl)).find? p.id = some { p with status := status } := by
    simp [Table.find?_update_self, hp]
  unfold PaymentRepository.updateStatus PaymentRepository.updateGatewayResponse
  rw [throughClient_of_tables h, throughClient_of_tables h]
  rw [serve_query_of_ok (exec_updatePaymentStatus hp status)]
  rw [serve_query_of_ok (exec_updateGatewayResponse hp' response)]
  dsimp only [Server.setStore]
  rw [Table.update_update]
  rfl

/--
With a client that has the tables the verification does what it should. Every payment has its transaction
beside it.
-/
theorem verifiesPayment_of_tables (h : P.paymentClient = .tables)
    (htransaction : ∀ p ∈ s.store.payments.rows, (s.store.transactions.find? p.transactionId).isSome)
    (paymentRef : String) {gatewayResponse : Json} {success : Bool}
    (hsuccess : gatewayResponse.get? "success" = some (.boolean success))
    : VerifiesPayment P s paymentRef gatewayResponse := by
  unfold VerifiesPayment PaymentService.verifyPayment
  rw [Prog.serve_bind, serve_paymentOf h, Server.findPaymentByReference]
  split
  . next hfind =>
    rw [hfind]
    rfl
  . next p hfind =>
    have hmem : p ∈ s.store.payments.rows := List.mem_of_find?_eq_some hfind
    rcases Option.isSome_iff_exists.mp (htransaction p hmem) with ⟨t, ht⟩
    have hp := Table.find?_of_mem hmem
    simp only [hfind, Option.bind_some, Server.withTransaction, ht, Option.map_some,
      verdict_of_success hsuccess, hsuccess]
    rw [serve_updates h hp]
    cases success <;> exact ⟨_, rfl, rfl⟩

end Granted

/--
What `shared/config/env` exports has no model of the database. Every verification, every job, every list
of payments and every list of audit logs ends in a TypeError, whatever is stored and whatever is asked.
-/
theorem default_clients_fail {isUrl : String → Bool} {vars : List (String × String)} {e : Json}
    (henv : Env.env isUrl vars = some e) (P : Platform) (s : Server) (auditLogs : List AuditLog)
    : (∀ paymentRef gatewayResponse,
          ¬VerifiesPayment (P.withClient (.env e)) s paymentRef gatewayResponse)
        ∧ (∀ job, ¬CompletesJob (P.withClient (.env e)) s job)
        ∧ (∀ userId scan, ¬FindsPayments (P.withClient (.env e)) s userId scan)
        ∧ ∀ limit offset, ¬ListsAudits (.env e) auditLogs limit offset := by
  have hclient : (P.withClient (.env e)).paymentClient = .env := by
    simp [Platform.withClient, Exported.paymentClient, Exported.env, Env.get?_env henv]
  refine ⟨not_verifiesPayment_of_env hclient s, not_completesJob_of_env hclient s,
    not_findsPayments_of_env hclient s, ?_⟩
  intro limit offset
  simp [ListsAudits, AuditRepository.listAudits, Exported.env, Env.get?_env henv]

def sampleEnv : Json :=
  .object
    [
      ("PORT", .number (.ofRat 5000 (by decide +kernel))),
      ("NODE_ENV", .string "production"),
      ("DATABASE_URL", .string "postgresql://localhost/banking")
    ]

def sampleVariables : List (String × String) :=
  [
    ("NODE_ENV", "production"),
    ("DATABASE_URL", "postgresql://localhost/banking"),
    ("REDIS_URL", "redis://localhost:6379")
  ]

def paidServer : Server :=
  (sampleServer [] .nil).setStore
    (Run.run (PaymentSystem.step (fun _ => samplePayment "alice" "2")) (.initial sampleUsers)
      (sampleRun ())).store

theorem default_clients_fail_on_paidServer
    : (∀ paymentRef gatewayResponse,
          ¬VerifiesPayment (samplePlatform.withClient (.env sampleEnv)) paidServer paymentRef
            gatewayResponse)
        ∧ (∀ job, ¬CompletesJob (samplePlatform.withClient (.env sampleEnv)) paidServer job)
        ∧ (∀ userId scan,
          ¬FindsPayments (samplePlatform.withClient (.env sampleEnv)) paidServer userId scan)
        ∧ ∀ limit offset, ¬ListsAudits (.env sampleEnv) [] limit offset := by
  have henv : Env.env (fun _ => true) sampleVariables = some sampleEnv := by rfl
  exact default_clients_fail henv samplePlatform paidServer []

theorem stored_payment_not_verified
    : (Banking.PaymentRepository.findByReference paidServer.store "PAY-2").isSome
        ∧ ¬VerifiesPayment (samplePlatform.withClient (.env sampleEnv)) paidServer "PAY-2"
          (.object [("success", .boolean true)]) := by
  refine ⟨by decide +kernel, ?_⟩
  exact not_verifiesPayment_of_env rfl _ _ _

end Banking.Http
