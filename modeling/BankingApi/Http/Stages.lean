import BankingApi.Http.Genuine
import BankingApi.Http.Inert

/-!
This module contains what a request has left to do at each stage of `processPayment`, as `Protocol` has
them.
-/

namespace Banking.Http

open Prog

/--
What `POST /payments` passes on to `processPayment`. The block of a body that Prisma does not take is
refused.
-/
def Request.payment (P : Platform) (request : Request) : PaymentRequest :=
  let createdBy := (request.subjectId? P).getD ""
  let refused : PaymentRequest := {
    createdBy := createdBy
    idempotencyKey := request.header? "idempotency-key"
    amount := none
    method := none
    receiverWalletId := none
    description := none
    gen := request.draw.gen
  }
  match refused.key? with
  | none => refused
  | some key => (PaymentService.request? request.body createdBy key request.draw.gen).getD refused

section Payment

variable {P : Platform} {request : Request} {userId : UserId} {key : IdempotencyKey}

theorem key?_payment
    : (request.payment P).key? = (request.header? "idempotency-key").filter (· ≠ "") := by
  unfold Request.payment
  dsimp only
  split
  . rfl
  . next key hkey =>
    change (request.header? "idempotency-key").filter (· ≠ "") = some key at hkey
    cases hr : PaymentService.request? request.body ((request.subjectId? P).getD "") key
      request.draw.gen with
    | none => rfl
    | some r =>
      have hne := (Option.filter_eq_some_iff.mp hkey).2
      rw [hkey, Option.getD_some, PaymentRequest.key?, (caller_of_request? hr).2]
      simpa using hne

variable (huser : request.subjectId? P = some userId)
  (hkey : (request.header? "idempotency-key").filter (· ≠ "") = some key)

include huser hkey

theorem payment_eq
    : ∃ refused : PaymentRequest, refused.amount = none ∧ request.payment P =
        (PaymentService.request? request.body userId key request.draw.gen).getD refused := by
  unfold Request.payment PaymentRequest.key?
  rw [huser]
  dsimp only [Option.getD_some]
  rw [hkey]
  exact ⟨_, rfl, rfl⟩

theorem payment_of_request? {r : PaymentRequest}
    (hr : PaymentService.request? request.body userId key request.draw.gen = some r)
    : request.payment P = r := by
  rcases payment_eq huser hkey with ⟨refused, _, heq⟩
  rw [heq, hr]
  rfl

theorem block_of_not_request?
    (hr : PaymentService.request? request.body userId key request.draw.gen = none)
    : (request.payment P).block key = .throw .invalid := by
  rcases payment_eq huser hkey with ⟨refused, hamount, heq⟩
  rw [heq, hr, Option.getD_none, PaymentRequest.block, hamount]

end Payment

/-!
What is left of `processPayment` after each of its commands.
-/

section Programs

variable (request : Request) (userId : UserId) (key : IdempotencyKey)

def publishing (payment : Payment) : Action Payment := do
  let _ ← query (.publishPaymentEvent payment.success)
  return payment

def caching (payment : Payment) : Action Payment := do
  let _ ← query (.setResponse key payment request.draw.now)
  publishing payment

-- The lock is deleted however the rest ends.
def holding (p : Action Payment) : Action Payment :=
  p.ensure (query (.deleteLock key))

def releasing (outcome : Except Fault Payment) : Action Payment := do
  let _ ← query (.deleteLock key)
  ofExcept outcome

def locked (isLocked : Bool) : Action Payment :=
  if isLocked then
    holding key (PaymentService.transact request.body userId key request.draw.gen >>= caching request key)
  else
    fail (.app (ConflictError "Request with this idempotency key is already processing"))

def locking : Action Payment := do
  let isLocked ← query (.setLock key request.draw.now)
  locked request userId key isLocked

def looked (cachedResponse : Option Payment) : Action Payment :=
  match cachedResponse with
  | some payment => .ret payment
  | none => locking request userId key

def looking : Action Payment := do
  let cachedResponse ← query (.getResponse key request.draw.now)
  looked request userId key cachedResponse

def answering (p : Action Payment) : Action Response := do
  let payment ← p
  return sendData 201 (.payment payment)

theorem processPayment_eq_looking {request : Request} {key : IdempotencyKey} (userId : UserId)
    (hkey : (request.header? "idempotency-key").filter (· ≠ "") = some key)
    : PaymentService.processPayment request.body userId (request.header? "idempotency-key")
        request.draw.now request.draw.gen =
      looking request userId key := by
  unfold PaymentService.processPayment looking
  rw [hkey]
  dsimp only
  congr 1
  funext cachedResponse
  cases cachedResponse with
  | some payment => rfl
  | none => rfl

end Programs

-- The operation of the bank that a command of another request is.
def Command.op? (c : Command) : Option Op :=
  match c with
  | .createWallet row =>
    if row.balance = 0 ∧ row.status = .ACTIVE then
      some (.createWallet row.userId (some row.currency) row.id row.walletNumber)
    else
      none
  | .deposit receiverWalletId amount createdBy description gen =>
    some (.call (.deposit receiverWalletId amount createdBy description gen))
  | .withdraw senderWalletId amount createdBy description gen =>
    some (.call (.withdraw senderWalletId amount createdBy description gen))
  | .transfer senderWalletId receiverWalletId amount createdBy description gen =>
    some (.call (.transfer senderWalletId receiverWalletId amount createdBy description gen))
  | _ => none

def Command.isQuiet (c : Command) : Prop :=
  c.isInert ∨ c.op?.isSome

section Quiet

variable {s : Server}

-- A failed operation and a failed command change nothing, whatever they say.
theorem setStore_step {α : Type} {op : Op} {r : Except Failure (α × Store)}
    (h : (op.exec s.store).toOption = (r.map Prod.snd).toOption)
    : (s.commit r).2 = s.setStore (Banking.step s.store ⟨op, true⟩) := by
  unfold Banking.step
  cases hexec : op.exec s.store with
  | error e =>
    cases r with
    | error e => rfl
    | ok res =>
      rw [hexec] at h
      cases h
  | ok s' =>
    cases r with
    | error e =>
      rw [hexec] at h
      cases h
    | ok res =>
      rw [hexec] at h
      cases h
      rfl

theorem exists_setStore_call {α : Type} (c : Call) {p : Tx α} (f : α → Reply)
    (hc : c.program s.store = f <$> p)
    : ∃ op, (s.commit (p.run database s.store)).2 = s.setStore (Banking.step s.store ⟨op, true⟩) := by
  refine ⟨.call c, setStore_step ?_⟩
  change (((c.program s.store).run database s.store).map Prod.snd).toOption = _
  rw [hc]
  change (((p >>= fun a => pure (f a)).run database s.store).map Prod.snd).toOption = _
  rw [Prog.run_bind]
  cases p.run database s.store <;> rfl

-- Where the service refuses another wallet the table does too.
theorem exists_setStore_createWallet {row : Wallet} (hbalance : row.balance = 0)
    (hstatus : row.status = .ACTIVE)
    : ∃ op, (s.commit (WalletRepository.createWallet s.store row)).2 =
        s.setStore (Banking.step s.store ⟨op, true⟩) := by
  refine ⟨.createWallet row.userId (some row.currency) row.id row.walletNumber, setStore_step ?_⟩
  have hrow : (⟨row.id, row.walletNumber, 0, row.currency, .ACTIVE, row.userId⟩ : Wallet) = row := by
    rw [← hbalance, ← hstatus]
  unfold Op.exec Banking.WalletService.createWallet
  dsimp only [Option.getD_some]
  rw [hrow]
  cases hcreate : WalletRepository.createWallet s.store row with
  | ok res =>
    rcases WalletRepository.createWallet_eq_ok_iff.mp hcreate with ⟨_, _, huserId, huser, _, _⟩
    have hnone : WalletRepository.findWalletByUserId s.store row.userId = none := by
      unfold WalletRepository.findWalletByUserId
      simpa using Table.has_eq_false_iff.mp huserId
    rcases Option.isSome_iff_exists.mp huser with ⟨u, hu⟩
    rw [hu, hnone]
    rfl
  | error e =>
    cases s.store.users.find? row.userId with
    | none => rfl
    | some u =>
      dsimp only
      split <;> rfl

-- One operation of the bank, if it does anything.
theorem exec_of_isQuiet {P : Platform} {c : Command} (hc : c.isQuiet)
    : (Server.exec P c s).2 = s
        ∨ ∃ op, (Server.exec P c s).2 = s.setStore (Banking.step s.store ⟨op, true⟩) := by
  rcases hc with hinert | hop
  . exact .inl (exec_of_isInert hinert s)
  . right
    cases c
    case createWallet row =>
      unfold Command.op? at hop
      dsimp only at hop
      split at hop
      . next hrow => exact exists_setStore_createWallet hrow.1 hrow.2
      . cases hop
    case deposit receiverWalletId amount createdBy description gen =>
      exact exists_setStore_call (.deposit receiverWalletId amount createdBy description gen)
        .transaction rfl
    case withdraw senderWalletId amount createdBy description gen =>
      exact exists_setStore_call (.withdraw senderWalletId amount createdBy description gen)
        .transaction rfl
    case transfer senderWalletId receiverWalletId amount createdBy description gen =>
      exact exists_setStore_call
        (.transfer senderWalletId receiverWalletId amount createdBy description gen) .transaction rfl
    all_goals cases hop

end Quiet

-- The call has failed in one way or another, or it has come to the same payment.
def SameOutcome (outcome : Except Failure Payment) (outcome' : Except Fault Payment) : Prop :=
  outcome.toOption = outcome'.toOption

/--
At a stage of its call a request to `POST /payments` has this left to do.
-/
inductive At (P : Platform) (request : Request) : Stage → Action Response → Prop where
  | entering (hroute : request.route = .createPayment) : At P request .ready (app P request)
  | refused {fault} : At P request .ready (.throw fault)
  | ready {userId key} (huser : request.subjectId? P = some userId)
      (hkey : (request.header? "idempotency-key").filter (· ≠ "") = some key)
    : At P request .ready (answering (looking request userId key))
  | missed {userId key} (huser : request.subjectId? P = some userId)
      (hkey : (request.header? "idempotency-key").filter (· ≠ "") = some key)
    : At P request .missed (answering (locking request userId key))
  | locked {since userId key r} (huser : request.subjectId? P = some userId)
      (hkey : (request.header? "idempotency-key").filter (· ≠ "") = some key)
      (hr : PaymentService.request? request.body userId key request.draw.gen = some r)
    : At P request (.holding since .locked)
        (answering (holding key (query (.processPayment key r) >>= caching request key)))
  | refusing {since userId key p} (huser : request.subjectId? P = some userId)
      (hkey : (request.header? "idempotency-key").filter (· ≠ "") = some key)
      (hr : PaymentService.request? request.body userId key request.draw.gen = none)
      (hp : p.Obeys Command.isRead (fun _ => True) (fun _ => False)) (hcall : ∃ c next, p = .call c next)
    : At P request (.holding since .locked) (answering (holding key p))
  | committed {since key payment}
      (hkey : (request.header? "idempotency-key").filter (· ≠ "") = some key)
    : At P request (.holding since (.committed payment))
        (answering (holding key (caching request key payment)))
  | cached {since key payment}
      (hkey : (request.header? "idempotency-key").filter (· ≠ "") = some key)
    : At P request (.holding since (.cached payment)) (answering (holding key (publishing payment)))
  | releasing {since key outcome outcome'}
      (hkey : (request.header? "idempotency-key").filter (· ≠ "") = some key)
      (h : SameOutcome outcome outcome')
    : At P request (.holding since (.releasing outcome)) (answering (releasing key outcome'))
  | finished {outcome outcome'} (h : SameOutcome outcome outcome')
    : At P request (.finished outcome) (answering (ofExcept outcome'))

-- The call of another request never begins.
inductive Placed (P : Platform) (request : Request) : Stage → Action Response → Prop where
  | payment {stage p} (hroute : request.route = .createPayment) (h : At P request stage p)
    : Placed P request stage p
  | other {p} (hroute : request.route ≠ .createPayment) (hp : p.Issues Command.isQuiet)
    : Placed P request .ready p

section Requests

variable {P : Platform} {request : Request}

theorem Placed.stage {stage : Stage} {p : Action Response} (h : Placed P request stage p)
    (hroute : request.route = .createPayment)
    : At P request stage p := by
  cases h with
  | payment _ hat => exact hat
  | other hother => exact absurd hroute hother

theorem Placed.ready {stage : Stage} {p : Action Response} (h : Placed P request stage p)
    (hroute : request.route ≠ .createPayment)
    : stage = .ready ∧ p.Issues Command.isQuiet := by
  cases h with
  | payment hpayment => exact absurd hpayment hroute
  | other _ hp => exact ⟨rfl, hp⟩

-- What the guard of a route with a user does.
theorem authenticate_cases (P : Platform) (request : Request)
    : (∃ fault, authenticate P request = .throw fault)
        ∨ ∃ userId next, request.subjectId? P = some userId
          ∧ authenticate P request = .call (.findUserById userId) next
          ∧ ∀ r, (∃ fault, next r = .throw fault)
            ∨ ∃ u, r = .ok (some u) ∧ next r = .ret (.ofUser u) := by
  cases huser : request.subjectId? P with
  | none => exact .inl (exists_authenticate_eq_throw huser)
  | some userId =>
    right
    rcases authenticate_of_subjectId? huser with ⟨next, hcall, herror, hnone, hsome⟩
    refine ⟨userId, next, rfl, hcall, ?_⟩
    intro r
    match r with
    | .error e => exact .inl ⟨_, herror e⟩
    | .ok none => exact .inl ⟨_, hnone⟩
    | .ok (some u) =>
      rw [hsome u]
      split
      . exact .inl ⟨_, rfl⟩
      . exact .inr ⟨u, rfl, rfl⟩

theorem app_createPayment (hroute : request.route = .createPayment)
    : app P request =
      authenticate P request >>= fun user =>
        answering (PaymentService.processPayment request.body user.id
          (request.header? "idempotency-key") request.draw.now request.draw.gen) := by
  unfold app middlewares guarded validated handler userHandler
  rw [hroute]
  dsimp only [Route.guard]
  simp only [Prog.bind_bind]
  rfl

-- What other requests may do beside payments.
def Route.moves (route : Route) : Prop :=
  match route with
  | .createPayment => True
  | .createWallet => True
  | .deposit => True
  | .withdraw => True
  | .transfer => True
  | _ => False

theorem isQuiet_of_issues {user : Option RequestUser} {route : Route} {c : Command}
    (h : route.Issues user c) (hmoves : route.moves) (hroute : route ≠ .createPayment)
    : c.isQuiet := by
  cases h with
  | read hc => exact .inl (.inl hc)
  | createWallet _ _ hbalance hstatus => exact .inr (by simp [Command.op?, hbalance, hstatus])
  | deposit => exact .inr rfl
  | withdraw => exact .inr rfl
  | transfer => exact .inr rfl
  | processPayment => exact absurd rfl hroute
  | setLock => exact absurd rfl hroute
  | setResponse => exact absurd rfl hroute
  | deleteLock => exact absurd rfl hroute
  | publishPaymentEvent => exact absurd rfl hroute
  | _ => exact hmoves.elim

theorem quiet_app (h : request.Inert P ∨ request.route.moves)
    (hroute : request.route ≠ .createPayment)
    : (app P request).Issues Command.isQuiet := by
  rcases h with hinert | hmoves
  . exact obeys_mono (inert_app hinert) (fun _ => .inl) (fun _ => id) (fun _ => id)
  . apply issues_app
    . exact fun c hc => .inl (.inl hc)
    . exact fun _ c hc => isQuiet_of_issues hc hmoves hroute

theorem placed_app (h : request.Inert P ∨ request.route.moves)
    : Placed P request .ready (app P request) := by
  by_cases hroute : request.route = .createPayment
  . exact .payment hroute (.entering hroute)
  . exact .other hroute (quiet_app h hroute)

theorem answered_iff_finished {stage : Stage} {p : Action Response} (h : At P request stage p)
    (payment : Payment)
    : p = .ret (sendData 201 (.payment payment)) ↔ stage = .finished (.ok payment) := by
  cases h with
  | entering hroute =>
    rw [app_createPayment hroute]
    rcases authenticate_cases P request with ⟨fault, hthrow⟩ | ⟨userId, next, _, hcall, _⟩
    . rw [hthrow]
      constructor <;> intro h <;> cases h
    . rw [hcall]
      constructor <;> intro h <;> cases h
  | @finished outcome outcome' h =>
    cases outcome with
    | error e =>
      cases outcome' with
      | error fault => constructor <;> intro h <;> cases h
      | ok p => cases h
    | ok p =>
      cases outcome' with
      | error fault => cases h
      | ok p' =>
        cases h
        constructor
        . intro h
          change Prog.ret (sendData 201 (.payment p)) = _ at h
          have hp : p = payment := by simpa [sendData] using h
          rw [hp]
        . intro h
          cases h
          rfl
  | refusing _ _ _ _ hcall =>
    rcases hcall with ⟨c, next, rfl⟩
    constructor <;> intro h <;> cases h
  | _ => constructor <;> intro h <;> cases h

end Requests

end Banking.Http
