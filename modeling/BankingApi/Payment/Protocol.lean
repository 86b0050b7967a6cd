import BankingApi.Bank.System

/-!
This module contains `processPayment` of `payment.service.js` as it is called by `POST /payments`: any
number of calls, one command to Redis, the database or the queue at a time.
-/

namespace Banking

/--
What the route passes on. A field of the body is `none` if it is absent or of the wrong type.
-/
structure PaymentRequest where
  createdBy : UserId
  idempotencyKey : Option IdempotencyKey
  amount : Option Amount
  method : Option PaymentMethod
  receiverWalletId : Option WalletId
  description : Option String
  gen : Generated

namespace PaymentRequest

-- An empty header is as good as none.
def key? (request : PaymentRequest) : Option IdempotencyKey :=
  request.idempotencyKey.filter (· ≠ "")

-- Without one of the three fields the database or Prisma refuses one of the statements.
def block (request : PaymentRequest) (key : IdempotencyKey) : Tx Payment :=
  match request.amount, request.method, request.receiverWalletId with
  | some amount, some method, some receiverWalletId =>
    PaymentService.processPaymentBlock key amount method receiverWalletId request.createdBy
      request.description request.gen
  | _, _, _ => .throw .invalid

end PaymentRequest

structure PaymentSuccess where
  paymentId : String
  paymentRef : String
  amount : Money
  method : PaymentMethod
  deriving DecidableEq

instance decidableEqExcept {ε α : Type} [DecidableEq ε] [DecidableEq α]
    : DecidableEq (Except ε α) :=
  fun r r' =>
    match r, r' with
    | .ok a, .ok a' => decidable_of_iff (a = a') (Except.ok.injEq a a' ▸ Iff.rfl)
    | .error e, .error e' => decidable_of_iff (e = e') (Except.error.injEq e e' ▸ Iff.rfl)
    | .ok _, .error _ => .isFalse (by simp)
    | .error _, .ok _ => .isFalse (by simp)

/--
Where a call is in its `try` block, that is, from when it has set the lock until it has deleted it.
-/
inductive Phase where
  | locked
  | committed (payment : Payment)
  | cached (payment : Payment)
  | releasing (outcome : Except Failure Payment)
  deriving DecidableEq

inductive Stage where
  | ready
  | missed
  | holding (since : ℕ) (phase : Phase)
  | finished (outcome : Except Failure Payment)
  | crashed
  deriving DecidableEq

def Stage.carried? (stage : Stage) : Option Payment :=
  match stage with
  | .holding _ (.committed payment) => some payment
  | .holding _ (.cached payment) => some payment
  | .holding _ (.releasing (.ok payment)) => some payment
  | _ => none

/--
What becomes of a command: it is done, it is done but the answer is lost, or it is not done.
-/
inductive Fate where
  | done
  | lost
  | failed
  deriving DecidableEq

structure PaymentSystem (ι : Type) where
  store : Store
  now : ℕ
  -- the keys `idempotency:<key>` and `idempotency_lock:<key>` of Redis, with when they expire
  cache : IdempotencyKey → Option (Payment × ℕ)
  locks : IdempotencyKey → Option ℕ
  queue : List PaymentSuccess
  stages : ι → Stage
  -- the payments that the calls have committed, for the proofs only
  committed : List (ι × Payment)

inductive PaymentEvent (ι : Type) where
  | advance (i : ι) (fate : Fate)
  | crash (i : ι)
  | expireCache (key : IdempotencyKey)
  | expireLock (key : IdempotencyKey)
  | tick
  -- an operation of somebody else on the database
  | database (ev : Event)

namespace PaymentSystem

variable {ι : Type}

def initial (users : Table User.id) : PaymentSystem ι where
  store := .initial users
  now := 0
  cache := fun _ => none
  locks := fun _ => none
  queue := []
  stages := fun _ => .ready
  committed := []

variable [DecidableEq ι]

def move (m : PaymentSystem ι) (i : ι) (stage : Stage) : PaymentSystem ι :=
  { m with stages := Function.update m.stages i stage }

def setCache (m : PaymentSystem ι) (key : IdempotencyKey) (entry : Option (Payment × ℕ))
    : PaymentSystem ι :=
  { m with cache := Function.update m.cache key entry }

def setLock (m : PaymentSystem ι) (key : IdempotencyKey) (expires : Option ℕ) : PaymentSystem ι :=
  { m with locks := Function.update m.locks key expires }

-- redis.get(`idempotency:${idempotencyKey}`)
def lookup (m : PaymentSystem ι) (i : ι) (key : IdempotencyKey) (fate : Fate) : PaymentSystem ι :=
  match fate with
  | .done =>
    match m.cache key with
    | some (payment, _) => m.move i (.finished (.ok payment))
    | none => m.move i .missed
  | _ => m.move i (.finished (.error .connection))

-- redis.set(`idempotency_lock:${idempotencyKey}`, "LOCKED", "NX", "EX", 10)
def acquire (m : PaymentSystem ι) (i : ι) (key : IdempotencyKey) (fate : Fate) : PaymentSystem ι :=
  match fate, m.locks key with
  | .done, none => (m.setLock key (some (m.now + 10))).move i (.holding m.now .locked)
  | .done, some _ =>
    m.move i (.finished (.error (.app
      (ConflictError "Request with this idempotency key is already processing"))))
  | .lost, none => (m.setLock key (some (m.now + 10))).move i (.finished (.error .connection))
  | _, _ => m.move i (.finished (.error .connection))

-- prisma.$transaction
def transact (m : PaymentSystem ι) (i : ι) (since : ℕ) (block : Tx Payment) (fate : Fate)
    : PaymentSystem ι :=
  match fate, block.run database m.store with
  | .done, .error e => m.move i (.holding since (.releasing (.error e)))
  | .done, .ok (payment, s) =>
    { m.move i (.holding since (.committed payment)) with
      store := s
      committed := m.committed ++ [(i, payment)]
    }
  | .lost, .ok (payment, s) =>
    { m.move i (.holding since (.releasing (.error .connection))) with
      store := s
      committed := m.committed ++ [(i, payment)]
    }
  | _, _ => m.move i (.holding since (.releasing (.error .connection)))

-- redis.set(`idempotency:${idempotencyKey}`, JSON.stringify(responsePayload), "EX", 86400)
def cacheResponse (m : PaymentSystem ι) (i : ι) (key : IdempotencyKey) (since : ℕ)
    (payment : Payment) (fate : Fate)
    : PaymentSystem ι :=
  match fate with
  | .done =>
    (m.setCache key (some (payment, m.now + 86400))).move i (.holding since (.cached payment))
  | .lost =>
    (m.setCache key (some (payment, m.now + 86400))).move i
      (.holding since (.releasing (.error .connection)))
  | .failed => m.move i (.holding since (.releasing (.error .connection)))

-- eventService.publishPaymentEvent("PAYMENT_SUCCESS", ..)
def publish (m : PaymentSystem ι) (i : ι) (since : ℕ) (payment : Payment) (fate : Fate)
    : PaymentSystem ι :=
  let event := {
    paymentId := payment.id
    paymentRef := payment.paymentRef
    amount := payment.amount
    method := payment.method
  }
  match fate with
  | .done =>
    { m.move i (.holding since (.releasing (.ok payment))) with queue := m.queue ++ [event] }
  | .lost =>
    { m.move i (.holding since (.releasing (.error .connection))) with
      queue := m.queue ++ [event]
    }
  | .failed => m.move i (.holding since (.releasing (.error .connection)))

-- redis.del(`idempotency_lock:${idempotencyKey}`)
def release (m : PaymentSystem ι) (i : ι) (key : IdempotencyKey) (outcome : Except Failure Payment)
    (fate : Fate)
    : PaymentSystem ι :=
  match fate with
  | .done => (m.setLock key none).move i (.finished outcome)
  | .lost => (m.setLock key none).move i (.finished (.error .connection))
  | .failed => m.move i (.finished (.error .connection))

def processPayment (request : PaymentRequest) (m : PaymentSystem ι) (i : ι) (fate : Fate)
    : PaymentSystem ι :=
  match request.key?, m.stages i with
  | none, .ready =>
    m.move i (.finished (.error (.app (BadRequestError "Idempotency-Key is required"))))
  | none, _ => m
  | some key, .ready => m.lookup i key fate
  | some key, .missed => m.acquire i key fate
  | some key, .holding since .locked => m.transact i since (request.block key) fate
  | some key, .holding since (.committed payment) => m.cacheResponse i key since payment fate
  | some _, .holding since (.cached payment) => m.publish i since payment fate
  | some key, .holding _ (.releasing outcome) => m.release i key outcome fate
  | some _, .finished _ => m
  | some _, .crashed => m

def step (requests : ι → PaymentRequest) (m : PaymentSystem ι) (ev : PaymentEvent ι)
    : PaymentSystem ι :=
  match ev with
  | .advance i fate => m.processPayment (requests i) i fate
  | .crash i =>
    match m.stages i with
    | .finished _ => m
    | _ => m.move i .crashed
  | .expireCache key => m.setCache key none
  | .expireLock key => m.setLock key none
  | .tick => { m with now := m.now + 1 }
  | .database ev => { m with store := Banking.step m.store ev }

def Hits (requests : ι → PaymentRequest) (m : PaymentSystem ι) (ev : PaymentEvent ι) (i : ι)
    (payment : Payment)
    : Prop :=
  ev = .advance i .done ∧ m.stages i = .ready ∧ ∃ key expires,
    (requests i).key? = some key ∧ m.cache key = some (payment, expires)

structure Kept (requests : ι → PaymentRequest) (m : PaymentSystem ι) (ev : PaymentEvent ι)
    (m' : PaymentSystem ι)
    : Prop where
  store : m'.store = m.store
  committed : m'.committed = m.committed
  cache : ∀ key p expires, m'.cache key = some (p, expires) → m.cache key = some (p, expires)
    ∨ ∃ i, (requests i).key? = some key ∧ (m.stages i).carried? = some p
  carried : ∀ i p, (m'.stages i).carried? = some p → (m.stages i).carried? = some p
  finished : ∀ i p, m'.stages i = .finished (.ok p) → m.stages i = .finished (.ok p)
    ∨ (m.stages i).carried? = some p ∨ Hits requests m ev i p

structure Committed (requests : ι → PaymentRequest) (m : PaymentSystem ι) (i : ι)
    (key : IdempotencyKey) (p : Payment) (m' : PaymentSystem ι)
    : Prop where
  key?_eq : (requests i).key? = some key
  run : ((requests i).block key).run database m.store = .ok (p, m'.store)
  committed : m'.committed = m.committed ++ [(i, p)]
  cache : m'.cache = m.cache
  carried : ∀ j q, (m'.stages j).carried? = some q → j = i ∧ q = p ∨ (m.stages j).carried? = some q
  finished : ∀ j q, m'.stages j = .finished (.ok q) → m.stages j = .finished (.ok q)

inductive Stepped (requests : ι → PaymentRequest) (m : PaymentSystem ι) (ev : PaymentEvent ι)
    : PaymentSystem ι → Prop where
  | kept {m'} (h : Kept requests m ev m') : Stepped requests m ev m'
  | commit {i fate key p m'} (hev : ev = .advance i fate) (h : Committed requests m i key p m')
    : Stepped requests m ev m'
  | database {e} (hev : ev = .database e)
    : Stepped requests m ev { m with store := Banking.step m.store e }

/--
What call `i` comes to by a step of its own.
-/
inductive StageStep (requests : ι → PaymentRequest) (m : PaymentSystem ι) (i : ι) (fate : Fate)
    : Stage → Prop where
  | stay (hi : (requests i).key? = none ∨ (∃ outcome, m.stages i = .finished outcome)
        ∨ m.stages i = .crashed)
    : StageStep requests m i fate (m.stages i)
  | refused {e} (hi : m.stages i = .ready ∨ m.stages i = .missed)
    : StageStep requests m i fate (.finished (.error e))
  | hit {key payment expires} (hkey : (requests i).key? = some key) (hi : m.stages i = .ready)
      (hfate : fate = .done) (hcache : m.cache key = some (payment, expires))
    : StageStep requests m i fate (.finished (.ok payment))
  | miss (hi : m.stages i = .ready) : StageStep requests m i fate .missed
  | acquire {key} (hkey : (requests i).key? = some key) (hi : m.stages i = .missed)
      (hfate : fate = .done) (hlock : m.locks key = none)
    : StageStep requests m i fate (.holding m.now .locked)
  | commit {since payment} (hi : m.stages i = .holding since .locked) (hfate : fate = .done)
    : StageStep requests m i fate (.holding since (.committed payment))
  | cache {since payment} (hi : m.stages i = .holding since (.committed payment))
      (hfate : fate = .done)
    : StageStep requests m i fate (.holding since (.cached payment))
  | publish {since payment} (hkey : (requests i).key?.isSome)
      (hi : m.stages i = .holding since (.cached payment)) (hfate : fate = .done)
    : StageStep requests m i fate (.holding since (.releasing (.ok payment)))
  | fail {since phase e} (hi : m.stages i = .holding since phase)
      (hfate : fate ≠ .done ∨ phase = .locked) (hphase : ∀ outcome, phase ≠ .releasing outcome)
    : StageStep requests m i fate (.holding since (.releasing (.error e)))
  | release {since outcome} (hi : m.stages i = .holding since (.releasing outcome))
      (hfate : fate = .done)
    : StageStep requests m i fate (.finished outcome)
  | unreleased {since outcome e} (hi : m.stages i = .holding since (.releasing outcome))
      (hfate : fate ≠ .done)
    : StageStep requests m i fate (.finished (.error e))

/--
What a step of call `i` is: the next command of `processPayment`, if there is one.
-/
inductive Proceeds (requests : ι → PaymentRequest) (m : PaymentSystem ι) (i : ι) (fate : Fate)
    : PaymentSystem ι → Prop where
  | idle (hi : (requests i).key? = none ∨ (∃ outcome, m.stages i = .finished outcome)
        ∨ m.stages i = .crashed)
    : Proceeds requests m i fate m
  | refuse {e} (hkey : (requests i).key? = none) (hi : m.stages i = .ready)
    : Proceeds requests m i fate (m.move i (.finished (.error e)))
  | lookup {key} (hkey : (requests i).key? = some key) (hi : m.stages i = .ready)
    : Proceeds requests m i fate (m.lookup i key fate)
  | acquire {key} (hkey : (requests i).key? = some key) (hi : m.stages i = .missed)
    : Proceeds requests m i fate (m.acquire i key fate)
  | transact {key since} (hkey : (requests i).key? = some key)
      (hi : m.stages i = .holding since .locked)
    : Proceeds requests m i fate (m.transact i since ((requests i).block key) fate)
  | cacheResponse {key since payment} (hkey : (requests i).key? = some key)
      (hi : m.stages i = .holding since (.committed payment))
    : Proceeds requests m i fate (m.cacheResponse i key since payment fate)
  | publish {key since payment} (hkey : (requests i).key? = some key)
      (hi : m.stages i = .holding since (.cached payment))
    : Proceeds requests m i fate (m.publish i since payment fate)
  | release {key since outcome} (hkey : (requests i).key? = some key)
      (hi : m.stages i = .holding since (.releasing outcome))
    : Proceeds requests m i fate (m.release i key outcome fate)

section Inversion

variable {requests : ι → PaymentRequest} {m m' : PaymentSystem ι} {ev : PaymentEvent ι} {i : ι}
  {stage : Stage}

theorem advance_proceeds (requests : ι → PaymentRequest) (m : PaymentSystem ι) (i : ι) (fate : Fate)
    : Proceeds requests m i fate (step requests m (.advance i fate)) := by
  change Proceeds requests m i fate (m.processPayment (requests i) i fate)
  unfold processPayment
  split
  . next hkey hi => exact .refuse hkey hi
  . next hkey _ => exact .idle (.inl hkey)
  . next hkey hi => exact .lookup hkey hi
  . next hkey hi => exact .acquire hkey hi
  . next hkey hi => exact .transact hkey hi
  . next hkey hi => exact .cacheResponse hkey hi
  . next hkey hi => exact .publish hkey hi
  . next hkey hi => exact .release hkey hi
  . next outcome _ hi => exact .idle (.inr (.inl ⟨outcome, hi⟩))
  . next hi => exact .idle (.inr (.inr hi))

section Stages

variable {key : IdempotencyKey} {fate : Fate} {since : ℕ} {payment : Payment}
  {outcome : Except Failure Payment}

theorem advance_no_key (hkey : (requests i).key? = none) (hi : m.stages i ≠ .ready)
    : step requests m (.advance i fate) = m := by
  unfold step processPayment
  grind

theorem advance_missed (hkey : (requests i).key? = some key) (hi : m.stages i = .missed)
    : step requests m (.advance i fate) = m.acquire i key fate := by
  simp [step, processPayment, hkey, hi]

theorem advance_locked (hkey : (requests i).key? = some key)
    (hi : m.stages i = .holding since .locked)
    : step requests m (.advance i fate) =
      m.transact i since ((requests i).block key) fate := by
  simp [step, processPayment, hkey, hi]

theorem advance_committed (hkey : (requests i).key? = some key)
    (hi : m.stages i = .holding since (.committed payment))
    : step requests m (.advance i fate) = m.cacheResponse i key since payment fate := by
  simp [step, processPayment, hkey, hi]

theorem advance_cached (hkey : (requests i).key? = some key)
    (hi : m.stages i = .holding since (.cached payment))
    : step requests m (.advance i fate) = m.publish i since payment fate := by
  simp [step, processPayment, hkey, hi]

theorem advance_releasing (hkey : (requests i).key? = some key)
    (hi : m.stages i = .holding since (.releasing outcome))
    : step requests m (.advance i fate) = m.release i key outcome fate := by
  simp [step, processPayment, hkey, hi]

theorem advance_finished (hi : m.stages i = .finished outcome)
    : step requests m (.advance i fate) = m := by
  unfold step processPayment
  grind

theorem advance_crashed (hi : m.stages i = .crashed)
    : step requests m (.advance i fate) = m := by
  unfold step processPayment
  grind

theorem stage_cases (requests : ι → PaymentRequest) (m : PaymentSystem ι) (i : ι) (fate : Fate)
    : StageStep requests m i fate ((step requests m (.advance i fate)).stages i) := by
  have hproceeds := advance_proceeds requests m i fate
  generalize step requests m (.advance i fate) = m' at *
  cases hproceeds with
  | idle hi => exact .stay hi
  | refuse hkey hi =>
    simp only [move, Function.update_self]
    exact .refused (.inl hi)
  | lookup hkey hi =>
    unfold PaymentSystem.lookup
    split
    . split
      . next hcache =>
        simp only [move, Function.update_self]
        exact .hit hkey hi rfl hcache
      . simp only [move, Function.update_self]
        exact .miss hi
    . simp only [move, Function.update_self]
      exact .refused (.inl hi)
  | acquire hkey hi =>
    unfold PaymentSystem.acquire
    split
    . next hlock =>
      simp only [move, Function.update_self]
      exact .acquire hkey hi rfl hlock
    all_goals
      simp only [move, Function.update_self]
      exact .refused (.inr hi)
  | transact hkey hi =>
    unfold PaymentSystem.transact
    split
    . simp only [move, Function.update_self]
      exact .fail hi (.inr rfl) (by simp)
    . simp only [move, Function.update_self]
      exact .commit hi rfl
    all_goals
      simp only [move, Function.update_self]
      exact .fail hi (.inr rfl) (by simp)
  | cacheResponse hkey hi =>
    cases fate with
    | done =>
      simp only [PaymentSystem.cacheResponse, move, Function.update_self]
      exact .cache hi rfl
    | _ =>
      simp only [PaymentSystem.cacheResponse, move, Function.update_self]
      exact .fail hi (.inl (by simp)) (by simp)
  | publish hkey hi =>
    cases fate with
    | done =>
      simp only [PaymentSystem.publish, move, Function.update_self]
      exact .publish (by simp [hkey]) hi rfl
    | _ =>
      simp only [PaymentSystem.publish, move, Function.update_self]
      exact .fail hi (.inl (by simp)) (by simp)
  | release hkey hi =>
    cases fate with
    | done =>
      simp only [PaymentSystem.release, move, Function.update_self]
      exact .release hi rfl
    | _ =>
      simp only [PaymentSystem.release, move, Function.update_self]
      exact .unreleased hi (by simp)

end Stages

theorem kept_of_update (hstore : m'.store = m.store) (hcommitted : m'.committed = m.committed)
    (hcache : ∀ key p expires, m'.cache key = some (p, expires) → m.cache key = some (p, expires)
      ∨ ∃ i, (requests i).key? = some key ∧ (m.stages i).carried? = some p)
    (hstages : m'.stages = Function.update m.stages i stage)
    (hcarried : ∀ p, stage.carried? = some p → (m.stages i).carried? = some p)
    (hfinished : ∀ p, stage = .finished (.ok p) →
      (m.stages i).carried? = some p ∨ Hits requests m ev i p)
    : Kept requests m ev m' where
  store := hstore
  committed := hcommitted
  cache := hcache
  carried := by
    intro j p
    rw [hstages]
    by_cases hj : j = i
    . subst hj
      rw [Function.update_self]
      apply hcarried
    . rw [Function.update_of_ne hj]
      exact id
  finished := by
    intro j p
    rw [hstages]
    by_cases hj : j = i
    . subst hj
      rw [Function.update_self]
      exact fun h => .inr (hfinished p h)
    . rw [Function.update_of_ne hj]
      exact .inl

theorem kept_of_silent (hstore : m'.store = m.store) (hcommitted : m'.committed = m.committed)
    (hcache : m'.cache = m.cache) (hstages : m'.stages = Function.update m.stages i stage)
    (hcarried : stage.carried? = none) (hfinished : ∀ p, stage ≠ .finished (.ok p))
    : Kept requests m ev m' := by
  apply kept_of_update hstore hcommitted ?_ hstages
  . simp [hcarried]
  . exact fun p hp => absurd hp (hfinished p)
  . intro key p expires
    rw [hcache]
    exact .inl

omit [DecidableEq ι] in
theorem kept_of_stages_eq (hstore : m'.store = m.store) (hcommitted : m'.committed = m.committed)
    (hcache : ∀ key p expires, m'.cache key = some (p, expires) → m.cache key = some (p, expires))
    (hstages : m'.stages = m.stages)
    : Kept requests m ev m' where
  store := hstore
  committed := hcommitted
  cache := fun key p expires h => .inl (hcache key p expires h)
  carried := by simp [hstages]
  finished := by
    rw [hstages]
    exact fun _ _ => .inl

theorem kept_lookup {fate : Fate} {key : IdempotencyKey} (hkey : (requests i).key? = some key)
    (hi : m.stages i = .ready)
    : Kept requests m (.advance i fate) (m.lookup i key fate) := by
  unfold lookup
  split
  . split
    . next hcache =>
      refine kept_of_update rfl rfl (fun _ _ _ => .inl) rfl ?_ ?_
      . simp [Stage.carried?]
      . intro p hp
        cases hp
        exact .inr ⟨rfl, hi, key, _, hkey, hcache⟩
    . exact kept_of_silent rfl rfl rfl rfl rfl (by simp)
  . exact kept_of_silent rfl rfl rfl rfl rfl (by simp)

theorem kept_acquire {fate : Fate} {key : IdempotencyKey}
    : Kept requests m ev (m.acquire i key fate) := by
  unfold acquire
  split
  all_goals
    exact kept_of_silent rfl rfl rfl rfl rfl (by simp)

theorem committed_of_run {key : IdempotencyKey} {p : Payment} {s : Store}
    (hkey : (requests i).key? = some key)
    (hrun : ((requests i).block key).run database m.store = .ok (p, s))
    (hcarried : ∀ q, stage.carried? = some q → q = p) (hfinished : ∀ q, stage ≠ .finished (.ok q))
    : Committed requests m i key p
        { m.move i stage with store := s, committed := m.committed ++ [(i, p)] } where
  key?_eq := hkey
  run := hrun
  committed := rfl
  cache := rfl
  carried := by
    intro j q
    change (Function.update m.stages i stage j).carried? = _ → _
    by_cases hj : j = i
    . subst hj
      rw [Function.update_self]
      exact fun h => .inl ⟨rfl, hcarried q h⟩
    . rw [Function.update_of_ne hj]
      exact .inr
  finished := by
    intro j q
    change Function.update m.stages i stage j = _ → _
    by_cases hj : j = i
    . subst hj
      rw [Function.update_self]
      exact fun h => absurd h (hfinished q)
    . rw [Function.update_of_ne hj]
      exact id

theorem stepped_transact {fate : Fate} {key : IdempotencyKey} {since : ℕ}
    (hkey : (requests i).key? = some key)
    : Stepped requests m (.advance i fate)
        (m.transact i since ((requests i).block key) fate) := by
  unfold transact
  split
  . exact .kept (kept_of_silent rfl rfl rfl rfl rfl (by simp))
  . next hrun =>
    exact .commit rfl (committed_of_run hkey hrun (by simp [Stage.carried?]) (by simp))
  . next hrun =>
    exact .commit rfl (committed_of_run hkey hrun (by simp [Stage.carried?]) (by simp))
  . exact .kept (kept_of_silent rfl rfl rfl rfl rfl (by simp))

theorem kept_cacheResponse {fate : Fate} {key : IdempotencyKey} {since : ℕ} {payment : Payment}
    (hkey : (requests i).key? = some key) (hi : m.stages i = .holding since (.committed payment))
    : Kept requests m ev (m.cacheResponse i key since payment fate) := by
  have hcarried : (m.stages i).carried? = some payment := by rw [hi]; rfl
  have hcache : ∀ key' p expires,
      (m.setCache key (some (payment, m.now + 86400))).cache key' = some (p, expires) →
      m.cache key' = some (p, expires)
        ∨ ∃ i, (requests i).key? = some key' ∧ (m.stages i).carried? = some p := by
    intro key' p expires
    change Function.update m.cache key _ key' = _ → _
    by_cases heq : key' = key
    . subst heq
      rw [Function.update_self]
      intro h
      cases h
      exact .inr ⟨i, hkey, hcarried⟩
    . rw [Function.update_of_ne heq]
      exact .inl
  unfold cacheResponse
  split
  . refine kept_of_update rfl rfl hcache rfl ?_ ?_
    . intro p hp
      cases hp
      exact hcarried
    . simp
  . refine kept_of_update rfl rfl hcache rfl ?_ ?_ <;> simp [Stage.carried?]
  . exact kept_of_silent rfl rfl rfl rfl rfl (by simp)

theorem kept_publish {fate : Fate} {since : ℕ} {payment : Payment}
    (hi : m.stages i = .holding since (.cached payment))
    : Kept requests m ev (m.publish i since payment fate) := by
  have hcarried : (m.stages i).carried? = some payment := by rw [hi]; rfl
  unfold publish
  dsimp only
  split
  . refine kept_of_update rfl rfl (fun _ _ _ => .inl) rfl ?_ ?_
    . intro p hp
      cases hp
      exact hcarried
    . simp
  . exact kept_of_silent rfl rfl rfl rfl rfl (by simp)
  . exact kept_of_silent rfl rfl rfl rfl rfl (by simp)

theorem kept_release {fate : Fate} {key : IdempotencyKey} {since : ℕ}
    {outcome : Except Failure Payment} (hi : m.stages i = .holding since (.releasing outcome))
    : Kept requests m ev (m.release i key outcome fate) := by
  unfold release
  split
  . refine kept_of_update rfl rfl (fun _ _ _ => .inl) rfl ?_ ?_
    . simp [Stage.carried?]
    . intro p hp
      cases hp
      rw [hi]
      exact .inl rfl
  . exact kept_of_silent rfl rfl rfl rfl rfl (by simp)
  . exact kept_of_silent rfl rfl rfl rfl rfl (by simp)

omit [DecidableEq ι] in
theorem kept_refl : Kept requests m ev m :=
  kept_of_stages_eq rfl rfl (fun _ _ _ => id) rfl

theorem kept_of_ne_locked {fate : Fate} (h : ∀ since, m.stages i ≠ .holding since .locked)
    : Kept requests m (.advance i fate) (step requests m (.advance i fate)) := by
  have hproceeds := advance_proceeds requests m i fate
  generalize step requests m (.advance i fate) = m' at *
  cases hproceeds with
  | idle => exact kept_refl
  | refuse => exact kept_of_silent rfl rfl rfl rfl rfl (by simp)
  | lookup hkey hi => exact kept_lookup hkey hi
  | acquire => exact kept_acquire
  | transact _ hi => exact absurd hi (h _)
  | cacheResponse hkey hi => exact kept_cacheResponse hkey hi
  | publish _ hi => exact kept_publish hi
  | release _ hi => exact kept_release hi

theorem step_cases (requests : ι → PaymentRequest) (m : PaymentSystem ι) (ev : PaymentEvent ι)
    : Stepped requests m ev (step requests m ev) := by
  cases ev with
  | advance i fate =>
    by_cases hlocked : ∃ since, m.stages i = .holding since .locked
    . rcases hlocked with ⟨since, hi⟩
      cases hkey : (requests i).key? with
      | none =>
        rw [advance_no_key hkey (by simp [hi])]
        exact .kept kept_refl
      | some key =>
        rw [advance_locked hkey hi]
        exact stepped_transact hkey
    . exact .kept (kept_of_ne_locked (fun since hi => hlocked ⟨since, hi⟩))
  | crash i =>
    unfold step
    dsimp only
    split
    . exact .kept kept_refl
    . exact .kept (kept_of_silent rfl rfl rfl rfl rfl (by simp))
  | expireCache key =>
    apply Stepped.kept
    refine kept_of_stages_eq rfl rfl ?_ rfl
    intro key' p expires
    change Function.update m.cache key none key' = _ → _
    by_cases heq : key' = key
    . subst heq
      simp
    . rw [Function.update_of_ne heq]
      exact id
  | expireLock key => exact .kept (kept_of_stages_eq rfl rfl (fun _ _ _ => id) rfl)
  | tick => exact .kept (kept_of_stages_eq rfl rfl (fun _ _ _ => id) rfl)
  | database ev => exact .database rfl

end Inversion

end PaymentSystem

def samplePayment (createdBy : UserId) (n : String) : PaymentRequest where
  createdBy := createdBy
  idempotencyKey := some "XYZ"
  amount := some (.number (.ofRat 1 Binary64.abs_round_one_lt))
  method := some .UPI
  receiverWalletId := some "a"
  description := none
  gen := sampleGenerated n

def retries (i : Bool) : PaymentRequest :=
  samplePayment "alice" (if i then "3" else "2")

def samplePaid : Payment where
  id := "payment2"
  paymentRef := "PAY-2"
  transactionId := "transaction2"
  amount := ⟨100, by decide⟩
  method := .UPI
  status := .INITIATED
  idempotencyKey := "XYZ"
  gatewayResponse := none
  createdAt := 0

def sampleRun {ι : Type} (i : ι) : List (PaymentEvent ι) :=
  sampleDeposit.map .database ++ List.replicate 6 (.advance i .done)

end Banking
