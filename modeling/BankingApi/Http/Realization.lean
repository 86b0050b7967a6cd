import BankingApi.Http.Stages

/-!
This module contains the server as the system of `Protocol`: requests to `POST /payments` do what calls of
`processPayment` do, while deposits, withdrawals, transfers and requests that leave no trace go on beside
them.
-/

namespace Banking.Http

open Prog

variable {ι : Type}

/--
The server and the system have the same tables and jobs, and the same keys in Redis. No request finds that
the response cached for its key has expired.
-/
structure Mirrors (requests : ι → Request) (s : Server) (m : PaymentSystem ι) : Prop where
  store : m.store = s.store
  queue : m.queue = s.queue
  cache : ∀ key, (m.cache key).map Prod.fst = (s.cache key).map Prod.fst
  locks : ∀ key, (m.locks key).isSome = (s.locks key).isSome
  cached : ∀ key p expires, s.cache key = some (p, expires) → ∀ i,
    ((requests i).header? "idempotency-key").filter (· ≠ "") = some key →
    (requests i).draw.now < expires

namespace Mirrors

variable {requests : ι → Request} {m : PaymentSystem ι} {s : Server} (h : Mirrors requests s m)
  {key : IdempotencyKey}

include h

theorem move [DecidableEq ι] (i : ι) (stage : Stage) : Mirrors requests s (m.move i stage) :=
  ⟨h.store, h.queue, h.cache, h.locks, h.cached⟩

theorem setLock {expires expires' : Option ℕ} (hsome : expires.isSome = expires'.isSome)
    : Mirrors requests { s with locks := Function.update s.locks key expires' }
        (m.setLock key expires) := by
  refine ⟨h.store, h.queue, h.cache, ?_, h.cached⟩
  intro key'
  change (Function.update m.locks key expires key').isSome =
    (Function.update s.locks key expires' key').isSome
  by_cases heq : key' = key
  . rw [heq, Function.update_self, Function.update_self, hsome]
  . rw [Function.update_of_ne heq, Function.update_of_ne heq, h.locks]

theorem setCache {payment : Payment} {expires expires' : ℕ}
    (hlater : ∀ i, ((requests i).header? "idempotency-key").filter (· ≠ "") = some key →
      (requests i).draw.now < expires')
    : Mirrors requests { s with cache := Function.update s.cache key (some (payment, expires')) }
        (m.setCache key (some (payment, expires))) := by
  refine ⟨h.store, h.queue, ?_, h.locks, ?_⟩
  . intro key'
    change (Function.update m.cache key (some (payment, expires)) key').map Prod.fst =
      (Function.update s.cache key (some (payment, expires')) key').map Prod.fst
    by_cases heq : key' = key
    . rw [heq, Function.update_self, Function.update_self]
      rfl
    . rw [Function.update_of_ne heq, Function.update_of_ne heq, h.cache]
  . intro key' p t hkey' i hi
    change Function.update s.cache key (some (payment, expires')) key' = some (p, t) at hkey'
    by_cases heq : key' = key
    . subst heq
      rw [Function.update_self] at hkey'
      cases hkey'
      exact hlater i hi
    . rw [Function.update_of_ne heq] at hkey'
      exact h.cached key' p t hkey' i hi

end Mirrors

-- A key is used again within the day that its response is cached for, if at all.
def SameDay (requests : ι → Request) : Prop :=
  ∀ i j key, ((requests i).header? "idempotency-key").filter (· ≠ "") = some key →
    ((requests j).header? "idempotency-key").filter (· ≠ "") = some key →
    (requests j).draw.now < (requests i).draw.now + 86400

def payments (P : Platform) (requests : ι → Request) (i : ι) : PaymentRequest :=
  (requests i).payment P

theorem key?_payments {P : Platform} {requests : ι → Request} {i : ι} {key : IdempotencyKey}
    (hkey : ((requests i).header? "idempotency-key").filter (· ≠ "") = some key)
    : (payments P requests i).key? = some key :=
  key?_payment.trans hkey

-- One turn of a program: what it goes on with, and the store it leaves.
def turn {α : Type} (answer : (c : Command) → c.Result × Server) (p : Action α) (s : Server)
    : Action α × Server :=
  match p with
  | .call c next => (next (answer c).1, (answer c).2)
  | p => (p, s)

section Turn

variable {answer : (c : Command) → c.Result × Server} {c : Command} {s s' : Server}
  {f : c.Value → Action Payment}

theorem turn_query_of_ok {a : c.Value} (h : answer c = (.ok a, s'))
    : turn answer (answering (query c >>= f)) s = (answering (f a), s') := by
  change ((_ : Action Response), (answer c).2) = _
  rw [h]
  rfl

theorem turn_query_of_error {e : Failure} (h : answer c = (.error e, s'))
    : turn answer (answering (query c >>= f)) s = (answering (fail e), s') := by
  change ((_ : Action Response), (answer c).2) = _
  rw [h]
  rfl

variable {key : IdempotencyKey}

theorem turn_holding_of_ok {a : c.Value} (h : answer c = (.ok a, s'))
    : turn answer (answering (holding key (query c >>= f))) s =
      (answering (holding key (f a)), s') := by
  change ((_ : Action Response), (answer c).2) = _
  rw [h]
  rfl

theorem turn_holding_of_error {e : Failure} (h : answer c = (.error e, s'))
    : turn answer (answering (holding key (query c >>= f))) s =
      (answering (releasing key (.error (.failure e))), s') := by
  change ((_ : Action Response), (answer c).2) = _
  rw [h]
  rfl

end Turn

variable [DecidableEq ι] {P : Platform} {requests : ι → Request}

/--
The system follows a turn of request `i` by steps that leave the other calls where they are.
-/
def Follows (P : Platform) (requests : ι → Request) (m : PaymentSystem ι) (i : ι)
    (r : Action Response × Server)
    : Prop :=
  ∃ evs m', m' = Run.run (PaymentSystem.step (payments P requests)) m evs
    ∧ Mirrors requests r.2 m' ∧ At P (requests i) (m'.stages i) r.1
    ∧ ∀ j, j ≠ i → m'.stages j = m.stages j

section Follows

variable {m m' : PaymentSystem ι} {i : ι} {s : Server} {p : Action Response} {stage : Stage}

theorem follows_stay (hmirrors : Mirrors requests s m) (hat : At P (requests i) (m.stages i) p)
    : Follows P requests m i (p, s) :=
  ⟨[], m, rfl, hmirrors, hat, fun _ _ => rfl⟩

theorem follows_cons {ev : PaymentEvent ι} {r : Action Response × Server}
    (hev : PaymentSystem.step (payments P requests) m ev = m')
    (hothers : ∀ j, j ≠ i → m'.stages j = m.stages j) (h : Follows P requests m' i r)
    : Follows P requests m i r := by
  rcases h with ⟨evs, m'', hrun, hmirrors, hat, hstages⟩
  refine ⟨ev :: evs, m'', ?_, hmirrors, hat, ?_⟩
  . rw [Run.run_cons, hev, hrun]
  . intro j hj
    rw [hstages j hj, hothers j hj]

theorem others_move {j : ι} (hstages : m'.stages = m.stages) (hj : j ≠ i)
    : (m'.move i stage).stages j = m.stages j := by
  change Function.update m'.stages i stage j = _
  rw [Function.update_of_ne hj, hstages]

-- One step of the call itself.
theorem follows_move {fate : Fate}
    (hstep : PaymentSystem.step (payments P requests) m (.advance i fate) =
      m'.move i stage)
    (hstages : m'.stages = m.stages) (hmirrors : Mirrors requests s m')
    (hat : At P (requests i) stage p)
    : Follows P requests m i (p, s) := by
  apply follows_cons hstep
  . intro j hj
    exact others_move hstages hj
  . apply follows_stay (hmirrors.move i stage)
    change At P (requests i) (Function.update m'.stages i stage i) p
    rw [Function.update_self]
    exact hat

-- The call is not told what has become of its command.
theorem follows_query_of_error {answer : (c : Command) → c.Result × Server} {c : Command}
    {f : c.Value → Action Payment} {fate : Fate} {s' : Server}
    (hanswer : answer c = (.error .connection, s'))
    (hstep : PaymentSystem.step (payments P requests) m (.advance i fate) =
      m'.move i (.finished (.error .connection)))
    (hstages : m'.stages = m.stages) (hmirrors : Mirrors requests s' m')
    : Follows P requests m i (turn answer (answering (query c >>= f)) s) := by
  rw [turn_query_of_error hanswer]
  exact follows_move hstep hstages hmirrors (@At.finished _ _ (.error _) (.error _) rfl)

theorem follows_holding_of_error {answer : (c : Command) → c.Result × Server} {c : Command}
    {f : c.Value → Action Payment} {fate : Fate} {s' : Server} {key : IdempotencyKey} {since : ℕ}
    (hkey : ((requests i).header? "idempotency-key").filter (· ≠ "") = some key)
    (hanswer : answer c = (.error .connection, s'))
    (hstep : PaymentSystem.step (payments P requests) m (.advance i fate) =
      m'.move i (.holding since (.releasing (.error .connection))))
    (hstages : m'.stages = m.stages) (hmirrors : Mirrors requests s' m')
    : Follows P requests m i (turn answer (answering (holding key (query c >>= f))) s) := by
  rw [turn_holding_of_error hanswer]
  exact follows_move hstep hstages hmirrors
    (@At.releasing _ _ _ _ (.error _) (.error _) hkey rfl)

-- The system follows a turn of any request.
def Reaches (P : Platform) (requests : ι → Request) (m : PaymentSystem ι) (i : ι)
    (r : Action Response × Server)
    : Prop :=
  ∃ evs m', m' = Run.run (PaymentSystem.step (payments P requests)) m evs
    ∧ Mirrors requests r.2 m' ∧ Placed P (requests i) (m'.stages i) r.1
    ∧ ∀ j, j ≠ i → m'.stages j = m.stages j

theorem Follows.reaches {r : Action Response × Server}
    (hroute : (requests i).route = .createPayment) (h : Follows P requests m i r)
    : Reaches P requests m i r := by
  rcases h with ⟨evs, m', hrun, hmirrors, hat, hstages⟩
  exact ⟨evs, m', hrun, hmirrors, .payment hroute hat, hstages⟩

end Follows

section Turns

variable {m : PaymentSystem ι} {i : ι} {s : Server} {userId : UserId} {key : IdempotencyKey}
  {payment : Payment} {since : ℕ} (hmirrors : Mirrors requests s m)
  (hkey : ((requests i).header? "idempotency-key").filter (· ≠ "") = some key)

include hmirrors hkey

theorem follows_looking (hi : m.stages i = .ready)
    (huser : (requests i).subjectId? P = some userId)
    : Follows P requests m i
        (turn (fun c => Server.exec P c s) (answering (looking (requests i) userId key)) s) := by
  have hstep : PaymentSystem.step (payments P requests) m (.advance i .done) =
      m.lookup i key .done := by
    simp [PaymentSystem.step, PaymentSystem.processPayment, key?_payments hkey, hi]
  have hanswer : ((s.cache key).filter ((requests i).draw.now < ·.2)).map Prod.fst =
      (m.cache key).map Prod.fst := by
    rw [hmirrors.cache key]
    cases hcache : s.cache key with
    | none => rfl
    | some entry =>
      rw [Option.filter_some, if_pos]
      exact decide_eq_true (hmirrors.cached key entry.1 entry.2 hcache i hkey)
  rw [looking, turn_query_of_ok rfl, hanswer]
  cases hcache : m.cache key with
  | none =>
    have hmiss : m.lookup i key .done = m.move i .missed := by
      simp [PaymentSystem.lookup, hcache]
    exact follows_move (hstep.trans hmiss) rfl hmirrors (.missed huser hkey)
  | some entry =>
    have hhit : m.lookup i key .done = m.move i (.finished (.ok entry.1)) := by
      simp [PaymentSystem.lookup, hcache]
    exact follows_move (hstep.trans hhit) rfl hmirrors (@At.finished _ _ (.ok _) (.ok _) rfl)

omit hmirrors in
theorem advance_finished_of_failed (hi : m.stages i = .ready ∨ m.stages i = .missed)
    : PaymentSystem.step (payments P requests) m (.advance i .failed) =
      m.move i (.finished (.error .connection)) := by
  have hkey' := key?_payments (P := P) hkey
  rcases hi with hi | hi
  . simp [PaymentSystem.step, PaymentSystem.processPayment, hkey', hi, PaymentSystem.lookup]
  . rw [PaymentSystem.advance_missed hkey' hi]
    rfl

-- A block that Prisma refuses looks at most, and never commits.
theorem follows_refusing {p : Action Payment}
    (hp : p.Obeys Command.isRead (fun _ => True) (fun _ => False))
    (hi : m.stages i = .holding since .locked) (huser : (requests i).subjectId? P = some userId)
    (hr : PaymentService.request? (requests i).body userId key (requests i).draw.gen = none)
    : Follows P requests m i (answering (holding key p), s) := by
  cases p with
  | ret payment => exact hp.elim
  | throw e =>
    have hrefused : PaymentSystem.step (payments P requests) m (.advance i .done) =
        m.move i (.holding since (.releasing (.error .invalid))) := by
      rw [PaymentSystem.advance_locked (key?_payments hkey) hi, payments,
        block_of_not_request? huser hkey hr]
      rfl
    exact follows_move hrefused rfl hmirrors (@At.releasing _ _ _ _ (.error _) (.error e) hkey rfl)
  | call c next =>
    apply follows_stay hmirrors
    rw [hi]
    exact .refusing huser hkey hr hp ⟨c, next, rfl⟩

-- Once it has the lock, a request sends its block.
theorem follows_locked (hi : m.stages i = .holding since .locked)
    (huser : (requests i).subjectId? P = some userId)
    : Follows P requests m i (answering (locked (requests i) userId key true), s) := by
  unfold locked PaymentService.transact
  rw [if_pos rfl]
  cases hr : PaymentService.request? (requests i).body userId key (requests i).draw.gen with
  | some r =>
    apply follows_stay hmirrors
    rw [hi]
    exact .locked huser hkey hr
  | none =>
    apply follows_refusing hmirrors hkey _ hi huser hr
    apply obeys_bind_post (obeys_refusedBlock _)
    intro _ h
    exact h.elim

-- A lock that has expired by the clock of the request is taken from its owner.
theorem follows_locking (hi : m.stages i = .missed) (huser : (requests i).subjectId? P = some userId)
    : Follows P requests m i
        (turn (fun c => Server.exec P c s) (answering (locking (requests i) userId key)) s) := by
  rw [locking]
  by_cases hheld : (s.locks key).any ((requests i).draw.now < ·) = true
  . have hexec : Server.exec P (.setLock key (requests i).draw.now) s = (.ok false, s) := by
      unfold Server.exec
      dsimp only
      rw [if_pos hheld]
    have hsome : (m.locks key).isSome := by
      rw [hmirrors.locks key]
      exact Option.isSome_of_any hheld
    have hrefused : m.acquire i key .done = m.move i (.finished (.error (.app
        (ConflictError "Request with this idempotency key is already processing")))) := by
      rcases Option.isSome_iff_exists.mp hsome with ⟨expires, hlock⟩
      simp [PaymentSystem.acquire, hlock]
    rw [turn_query_of_ok hexec]
    exact follows_move
      ((PaymentSystem.advance_missed (key?_payments hkey) hi).trans hrefused) rfl hmirrors
      (@At.finished _ _ (.error _) (.error _) rfl)
  . have hexec : Server.exec P (.setLock key (requests i).draw.now) s =
        (.ok true, { s with
          locks := Function.update s.locks key (some ((requests i).draw.now + 10)) }) := by
      unfold Server.exec
      dsimp only
      rw [if_neg hheld]
    have hacquired : (m.setLock key none).acquire i key .done =
        (m.setLock key (some (m.now + 10))).move i (.holding m.now .locked) := by
      simp [PaymentSystem.acquire, PaymentSystem.setLock]
    rw [turn_query_of_ok hexec]
    have hexpired : PaymentSystem.step (payments P requests) m (.expireLock key) =
        m.setLock key none :=
      rfl
    apply follows_cons hexpired (fun _ _ => rfl)
    have hi' : (m.setLock key none).stages i = .missed := hi
    apply follows_cons ((PaymentSystem.advance_missed (key?_payments hkey) hi').trans hacquired)
    . intro j hj
      exact others_move rfl hj
    . apply follows_locked _ hkey (Function.update_self _ _ _) huser
      apply Mirrors.move
      exact hmirrors.setLock rfl

theorem follows_locking_of_lost (hi : m.stages i = .missed)
    : Follows P requests m i
        (turn (fun c => (.error .connection, (Server.exec P c s).2))
          (answering (locking (requests i) userId key)) s) := by
  rw [locking]
  by_cases hheld : (s.locks key).any ((requests i).draw.now < ·) = true
  . have hexec : (Server.exec P (.setLock key (requests i).draw.now) s).2 = s := by
      unfold Server.exec
      dsimp only
      rw [if_pos hheld]
    apply follows_query_of_error (congrArg _ hexec) (advance_finished_of_failed hkey (.inr hi)) rfl
    exact hmirrors
  . have hexec : (Server.exec P (.setLock key (requests i).draw.now) s).2 =
        { s with locks := Function.update s.locks key (some ((requests i).draw.now + 10)) } := by
      unfold Server.exec
      dsimp only
      rw [if_neg hheld]
    have hacquired : (m.setLock key none).acquire i key .lost =
        (m.setLock key (some (m.now + 10))).move i (.finished (.error .connection)) := by
      simp [PaymentSystem.acquire, PaymentSystem.setLock]
    have hexpired : PaymentSystem.step (payments P requests) m (.expireLock key) =
        m.setLock key none :=
      rfl
    apply follows_cons hexpired (fun _ _ => rfl)
    have hi' : (m.setLock key none).stages i = .missed := hi
    apply follows_query_of_error (congrArg _ hexec)
      ((PaymentSystem.advance_missed (key?_payments hkey) hi').trans hacquired) rfl
    exact hmirrors.setLock rfl

theorem follows_block {r : PaymentRequest} (hi : m.stages i = .holding since .locked)
    (huser : (requests i).subjectId? P = some userId)
    (hr : PaymentService.request? (requests i).body userId key (requests i).draw.gen = some r)
    : Follows P requests m i
        (turn (fun c => Server.exec P c s)
          (answering (holding key (query (.processPayment key r) >>= caching (requests i) key))) s) := by
  have hstep := @PaymentSystem.advance_locked ι _ (payments P requests) m i key .done since
    (key?_payments hkey) hi
  rw [payments, payment_of_request? huser hkey hr] at hstep
  cases hrun : (r.block key).run database s.store with
  | error e =>
    have hexec : Server.exec P (.processPayment key r) s = (.error e, s) := by
      unfold Server.exec
      dsimp only
      rw [hrun]
      rfl
    have hrefused : m.transact i since (r.block key) .done =
        m.move i (.holding since (.releasing (.error e))) := by
      unfold PaymentSystem.transact
      rw [hmirrors.store, hrun]
    rw [turn_holding_of_error hexec]
    exact follows_move (hstep.trans hrefused) rfl hmirrors
      (@At.releasing _ _ _ _ (.error _) (.error _) hkey rfl)
  | ok res =>
    have hexec : Server.exec P (.processPayment key r) s = (.ok res.1, s.setStore res.2) := by
      unfold Server.exec
      dsimp only
      rw [hrun]
      rfl
    have hcommitted : m.transact i since (r.block key) .done =
        { m with store := res.2, committed := m.committed ++ [(i, res.1)] }.move i
          (.holding since (.committed res.1)) := by
      unfold PaymentSystem.transact
      rw [hmirrors.store, hrun]
      rfl
    rw [turn_holding_of_ok hexec]
    apply follows_move (hstep.trans hcommitted) rfl _ (.committed hkey)
    exact ⟨rfl, hmirrors.queue, hmirrors.cache, hmirrors.locks, hmirrors.cached⟩

theorem follows_block_of_lost {r : PaymentRequest} (hi : m.stages i = .holding since .locked)
    (huser : (requests i).subjectId? P = some userId)
    (hr : PaymentService.request? (requests i).body userId key (requests i).draw.gen = some r)
    : Follows P requests m i
        (turn (fun c => (.error .connection, (Server.exec P c s).2))
          (answering (holding key (query (.processPayment key r) >>= caching (requests i) key))) s) := by
  have hstep := @PaymentSystem.advance_locked ι _ (payments P requests) m i key .lost since
    (key?_payments hkey) hi
  rw [payments, payment_of_request? huser hkey hr] at hstep
  cases hrun : (r.block key).run database s.store with
  | error e =>
    have hexec : (Server.exec P (.processPayment key r) s).2 = s := by
      unfold Server.exec
      dsimp only
      rw [hrun]
      rfl
    have hrefused : m.transact i since (r.block key) .lost =
        m.move i (.holding since (.releasing (.error .connection))) := by
      unfold PaymentSystem.transact
      rw [hmirrors.store, hrun]
    exact follows_holding_of_error hkey (congrArg _ hexec) (hstep.trans hrefused) rfl hmirrors
  | ok res =>
    have hexec : (Server.exec P (.processPayment key r) s).2 = s.setStore res.2 := by
      unfold Server.exec
      dsimp only
      rw [hrun]
      rfl
    have hcommitted : m.transact i since (r.block key) .lost =
        { m with store := res.2, committed := m.committed ++ [(i, res.1)] }.move i
          (.holding since (.releasing (.error .connection))) := by
      unfold PaymentSystem.transact
      rw [hmirrors.store, hrun]
      rfl
    apply follows_holding_of_error hkey (congrArg _ hexec) (hstep.trans hcommitted) rfl
    exact ⟨rfl, hmirrors.queue, hmirrors.cache, hmirrors.locks, hmirrors.cached⟩

omit hmirrors in
theorem advance_holding_of_failed {phase : Phase} (hi : m.stages i = .holding since phase)
    (hphase : ∀ outcome, phase ≠ .releasing outcome)
    : PaymentSystem.step (payments P requests) m (.advance i .failed) =
      m.move i (.holding since (.releasing (.error .connection))) := by
  have hkey' := key?_payments (P := P) hkey
  cases phase with
  | locked =>
    rw [PaymentSystem.advance_locked hkey' hi]
    unfold PaymentSystem.transact
    split <;> simp_all
  | committed payment =>
    simp [PaymentSystem.step, PaymentSystem.processPayment, hkey', hi, PaymentSystem.cacheResponse]
  | cached payment =>
    rw [PaymentSystem.advance_cached hkey' hi]
    rfl
  | releasing outcome => exact absurd rfl (hphase outcome)

theorem follows_caching (hday : SameDay requests)
    (hi : m.stages i = .holding since (.committed payment))
    : Follows P requests m i
        (turn (fun c => Server.exec P c s)
          (answering (holding key (caching (requests i) key payment))) s) := by
  have hstep : PaymentSystem.step (payments P requests) m (.advance i .done) =
      (m.setCache key (some (payment, m.now + 86400))).move i (.holding since (.cached payment)) := by
    simp [PaymentSystem.step, PaymentSystem.processPayment, key?_payments hkey, hi,
      PaymentSystem.cacheResponse]
  have hexec : Server.exec P (.setResponse key payment (requests i).draw.now) s =
      (.ok (), { s with
        cache := Function.update s.cache key (some (payment, (requests i).draw.now + 86400)) }) :=
    rfl
  rw [caching, turn_holding_of_ok hexec]
  apply follows_move hstep rfl _ (.cached hkey)
  apply hmirrors.setCache
  intro j hj
  exact hday i j key hkey hj

theorem follows_publishing (hi : m.stages i = .holding since (.cached payment))
    : Follows P requests m i
        (turn (fun c => Server.exec P c s) (answering (holding key (publishing payment))) s) := by
  have hstep := @PaymentSystem.advance_cached ι _ (payments P requests) m i key .done since payment
    (key?_payments hkey) hi
  have hpublish : m.publish i since payment .done =
      { m with queue := m.queue ++ [payment.success] }.move i
        (.holding since (.releasing (.ok payment))) :=
    rfl
  have hexec : Server.exec P (.publishPaymentEvent payment.success) s =
      (.ok (), { s with queue := s.queue ++ [payment.success] }) :=
    rfl
  rw [publishing, turn_holding_of_ok hexec]
  apply follows_move (hstep.trans hpublish) rfl _
    (@At.releasing _ _ _ _ (.ok payment) (.ok payment) hkey rfl)
  exact ⟨hmirrors.store, congrArg (· ++ [payment.success]) hmirrors.queue, hmirrors.cache,
    hmirrors.locks, hmirrors.cached⟩

theorem follows_releasing {outcome : Except Failure Payment} {outcome' : Except Fault Payment}
    (hi : m.stages i = .holding since (.releasing outcome)) (h : SameOutcome outcome outcome')
    : Follows P requests m i
        (turn (fun c => Server.exec P c s) (answering (releasing key outcome')) s) := by
  have hstep := @PaymentSystem.advance_releasing ι _ (payments P requests) m i key .done since outcome
    (key?_payments hkey) hi
  have hrelease : m.release i key outcome .done = (m.setLock key none).move i (.finished outcome) :=
    rfl
  have hexec : Server.exec P (.deleteLock key) s =
      (.ok (), { s with locks := Function.update s.locks key none }) :=
    rfl
  rw [releasing, turn_query_of_ok hexec]
  apply follows_move (hstep.trans hrelease) rfl _ (.finished h)
  exact hmirrors.setLock rfl

theorem follows_refusing_turn {answer : (c : Command) → c.Result × Server} {p : Action Payment}
    (hp : p.Obeys Command.isRead (fun _ => True) (fun _ => False))
    (hcall : ∃ c next, p = .call c next) (hi : m.stages i = .holding since .locked)
    (huser : (requests i).subjectId? P = some userId)
    (hr : PaymentService.request? (requests i).body userId key (requests i).draw.gen = none)
    (hanswer : ∀ c : Command, c.isRead → (answer c).2 = s)
    : Follows P requests m i (turn answer (answering (holding key p)) s) := by
  rcases hcall with ⟨c, next, rfl⟩
  change Follows P requests m i (answering (holding key (next (answer c).1)), (answer c).2)
  rw [hanswer c hp.1]
  exact follows_refusing hmirrors hkey (hp.2 _) hi huser hr

end Turns

section Entering

variable {m : PaymentSystem ι} {i : ι} {s : Server} {answer : (c : Command) → c.Result × Server}

theorem follows_entering (hmirrors : Mirrors requests s m) (hi : m.stages i = .ready)
    (hroute : (requests i).route = .createPayment)
    (hanswer : ∀ c : Command, c.isRead → (answer c).2 = s)
    (hfound : ∀ userId u, (answer (.findUserById userId)).1 = .ok (some u) → u.id = userId)
    : Follows P requests m i (turn answer (app P (requests i)) s) := by
  have hrefused : ∀ fault : Fault, Follows P requests m i (.throw fault, s) := by
    intro fault
    apply follows_stay hmirrors
    rw [hi]
    exact .refused
  rw [app_createPayment hroute]
  rcases authenticate_cases P (requests i) with ⟨fault, hthrow⟩ | ⟨userId, next, huser, hcall, hnext⟩
  . rw [hthrow]
    exact hrefused fault
  . rw [hcall]
    change Follows P requests m i (next (answer (.findUserById userId)).1 >>= _, (answer _).2)
    rw [hanswer _ (by trivial)]
    rcases hnext (answer (.findUserById userId)).1 with ⟨fault, hthrow⟩ | ⟨u, hr, hret⟩
    . rw [hthrow]
      exact hrefused fault
    . rw [hret]
      have hid : (RequestUser.ofUser u).id = userId := hfound userId u hr
      rw [Prog.ret_bind, hid]
      cases hkey : ((requests i).header? "idempotency-key").filter (· ≠ "") with
      | none =>
        unfold PaymentService.processPayment
        rw [hkey]
        exact hrefused _
      | some key =>
        rw [processPayment_eq_looking userId hkey]
        apply follows_stay hmirrors
        rw [hi]
        exact .ready huser hkey

-- What any other request does is an operation of somebody else.
theorem reaches_quiet {c : Command} {next : c.Result → Action Response}
    (hmirrors : Mirrors requests s m) (hi : m.stages i = .ready)
    (hroute : (requests i).route ≠ .createPayment)
    (hp : (Prog.call c next : Action Response).Issues Command.isQuiet) (r : c.Result)
    : Reaches P requests m i (next r, (Server.exec P c s).2) := by
  have hplaced : Placed P (requests i) (m.stages i) (next r) := by
    rw [hi]
    exact .other hroute (hp.2 r)
  rcases exec_of_isQuiet (P := P) (s := s) hp.1 with hsame | ⟨op, hop⟩
  . rw [hsame]
    exact ⟨[], m, rfl, hmirrors, hplaced, fun _ _ => rfl⟩
  . rw [hop]
    refine ⟨[.database ⟨op, true⟩], _, rfl, ?_, hplaced, fun _ _ => rfl⟩
    refine ⟨?_, hmirrors.queue, hmirrors.cache, hmirrors.locks, hmirrors.cached⟩
    change Banking.step m.store _ = Banking.step s.store _
    rw [hmirrors.store]

end Entering

section Steps

variable {m : PaymentSystem ι} {i : ι} {s : Server} {p : Action Response}

theorem follows_ofExcept {answer : (c : Command) → c.Result × Server}
    {outcome : Except Failure Payment} {outcome' : Except Fault Payment}
    (hmirrors : Mirrors requests s m) (hi : m.stages i = .finished outcome)
    (h : SameOutcome outcome outcome')
    : Follows P requests m i (turn answer (answering (ofExcept outcome')) s) := by
  have hturn : turn answer (answering (ofExcept outcome')) s = (answering (ofExcept outcome'), s) := by
    cases outcome' <;> rfl
  rw [hturn]
  apply follows_stay hmirrors
  rw [hi]
  exact .finished h

-- A request is served one command.
theorem follows_exec (hday : SameDay requests) (hmirrors : Mirrors requests s m)
    (hat : At P (requests i) (m.stages i) p)
    : Follows P requests m i (turn (fun c => Server.exec P c s) p s) := by
  generalize hi : m.stages i = stage at hat
  cases hat with
  | entering hroute =>
    apply follows_entering hmirrors hi hroute (fun c hc => exec_of_isRead hc s)
    intro userId u hfound
    exact Table.key_of_find? (Except.ok.inj hfound)
  | refused => exact follows_stay hmirrors (hi ▸ .refused)
  | ready huser hkey => exact follows_looking hmirrors hkey hi huser
  | missed huser hkey => exact follows_locking hmirrors hkey hi huser
  | locked huser hkey hr => exact follows_block hmirrors hkey hi huser hr
  | refusing huser hkey hr hp hcall =>
    exact follows_refusing_turn hmirrors hkey hp hcall hi huser hr (fun c hc => exec_of_isRead hc s)
  | committed hkey => exact follows_caching hmirrors hkey hday hi
  | cached hkey => exact follows_publishing hmirrors hkey hi
  | releasing hkey h => exact follows_releasing hmirrors hkey hi h
  | finished h => exact follows_ofExcept hmirrors hi h

-- The connection is lost before the command arrives.
theorem follows_fail (hmirrors : Mirrors requests s m) (hat : At P (requests i) (m.stages i) p)
    : Follows P requests m i (turn (fun _ => (.error .connection, s)) p s) := by
  generalize hi : m.stages i = stage at hat
  cases hat with
  | entering hroute =>
    apply follows_entering hmirrors hi hroute (fun _ _ => rfl)
    intro userId u hfound
    cases hfound
  | refused => exact follows_stay hmirrors (hi ▸ .refused)
  | ready huser hkey =>
    exact follows_query_of_error rfl (advance_finished_of_failed hkey (.inl hi)) rfl hmirrors
  | missed huser hkey =>
    exact follows_query_of_error rfl (advance_finished_of_failed hkey (.inr hi)) rfl hmirrors
  | locked huser hkey hr =>
    exact follows_holding_of_error hkey rfl (advance_holding_of_failed hkey hi (by simp)) rfl hmirrors
  | refusing huser hkey hr hp hcall =>
    exact follows_refusing_turn hmirrors hkey hp hcall hi huser hr (fun _ _ => rfl)
  | committed hkey =>
    exact follows_holding_of_error hkey rfl (advance_holding_of_failed hkey hi (by simp)) rfl hmirrors
  | cached hkey =>
    exact follows_holding_of_error hkey rfl (advance_holding_of_failed hkey hi (by simp)) rfl hmirrors
  | @releasing since key outcome _ hkey h =>
    have hstep := @PaymentSystem.advance_releasing ι _ (payments P requests) m i key .failed since
      outcome (key?_payments hkey) hi
    exact follows_query_of_error rfl hstep rfl hmirrors
  | finished h => exact follows_ofExcept hmirrors hi h

-- The connection is lost after the command has been done.
theorem follows_lose (hday : SameDay requests) (hmirrors : Mirrors requests s m)
    (hat : At P (requests i) (m.stages i) p)
    : Follows P requests m i (turn (fun c => (.error .connection, (Server.exec P c s).2)) p s) := by
  generalize hi : m.stages i = stage at hat
  cases hat with
  | entering hroute =>
    apply follows_entering hmirrors hi hroute
    . intro c hc
      exact exec_of_isRead hc s
    . intro userId u hfound
      cases hfound
  | refused => exact follows_stay hmirrors (hi ▸ .refused)
  | ready huser hkey =>
    exact follows_query_of_error rfl (advance_finished_of_failed hkey (.inl hi)) rfl hmirrors
  | missed huser hkey => exact follows_locking_of_lost hmirrors hkey hi
  | locked huser hkey hr => exact follows_block_of_lost hmirrors hkey hi huser hr
  | refusing huser hkey hr hp hcall =>
    exact follows_refusing_turn hmirrors hkey hp hcall hi huser hr (fun c hc => exec_of_isRead hc s)
  | @committed since key payment hkey =>
    have hstep := @PaymentSystem.advance_committed ι _ (payments P requests) m i key .lost since
      payment (key?_payments hkey) hi
    apply follows_holding_of_error hkey rfl hstep rfl
    apply hmirrors.setCache
    intro j hj
    exact hday i j key hkey hj
  | @cached since key payment hkey =>
    have hstep := @PaymentSystem.advance_cached ι _ (payments P requests) m i key .lost since
      payment (key?_payments hkey) hi
    have hpublish : m.publish i since payment .lost =
        { m with queue := m.queue ++ [payment.success] }.move i
          (.holding since (.releasing (.error .connection))) :=
      rfl
    apply follows_holding_of_error hkey rfl (hstep.trans hpublish) rfl
    exact ⟨hmirrors.store, congrArg (· ++ [payment.success]) hmirrors.queue, hmirrors.cache,
      hmirrors.locks, hmirrors.cached⟩
  | @releasing since key outcome _ hkey h =>
    have hstep := @PaymentSystem.advance_releasing ι _ (payments P requests) m i key .lost since
      outcome (key?_payments hkey) hi
    exact follows_query_of_error rfl hstep rfl (hmirrors.setLock rfl)
  | finished h => exact follows_ofExcept hmirrors hi h

end Steps

section Runs

abbrev Served (ι : Type) := Sessions Command Command.Result Fault Server ι Response

structure Simulated (P : Platform) (requests : ι → Request) (served : Served ι)
    (m : PaymentSystem ι)
    : Prop where
  mirrors : Mirrors requests served.store m
  stages : ∀ i, Placed P (requests i) (m.stages i) (served.sessions i).rest

theorem simulated_of_turn {served served' : Served ι} {m : PaymentSystem ι} {i : ι}
    (h : Simulated P requests served m)
    (hreaches : Reaches P requests m i ((served'.sessions i).rest, served'.store))
    (hothers : ∀ j, j ≠ i → (served'.sessions j).rest = (served.sessions j).rest)
    : ∃ evs, Simulated P requests served' (Run.run (PaymentSystem.step (payments P requests)) m evs) := by
  rcases hreaches with ⟨evs, m', rfl, hmirrors, hplaced, hstages⟩
  refine ⟨evs, hmirrors, ?_⟩
  intro j
  by_cases hj : j = i
  . subst hj
    exact hplaced
  . rw [hstages j hj, hothers j hj]
    exact h.stages j

variable {served : Served ι} {m : PaymentSystem ι} {i : ι} {c : Command}
  {next : c.Result → Action Response}

-- The connection is lost before the command arrives.
theorem reaches_fail (h : Simulated P requests served m)
    (hi : (served.sessions i).rest = .call c next)
    : Reaches P requests m i (next (.error .connection), served.store) := by
  have hplaced := h.stages i
  rw [hi] at hplaced
  by_cases hroute : (requests i).route = .createPayment
  . exact (follows_fail h.mirrors (hplaced.stage hroute)).reaches hroute
  . rcases hplaced.ready hroute with ⟨hready, hp⟩
    refine ⟨[], m, rfl, h.mirrors, ?_, fun _ _ => rfl⟩
    rw [hready]
    exact .other hroute (hp.2 _)

variable (hday : SameDay requests)

include hday

-- The command is done, and its answer arrives or is lost.
theorem reaches_done (h : Simulated P requests served m)
    (hi : (served.sessions i).rest = .call c next) {r : c.Result}
    (hr : r = (Server.exec P c served.store).1 ∨ r = .error .connection)
    : Reaches P requests m i (next r, (Server.exec P c served.store).2) := by
  have hplaced := h.stages i
  rw [hi] at hplaced
  by_cases hroute : (requests i).route = .createPayment
  . have hat := hplaced.stage hroute
    rcases hr with rfl | rfl
    . exact (follows_exec hday h.mirrors hat).reaches hroute
    . exact (follows_lose hday h.mirrors hat).reaches hroute
  . rcases hplaced.ready hroute with ⟨hready, hp⟩
    exact reaches_quiet h.mirrors hready hroute hp r

theorem simulated_step {served : Served ι} {m : PaymentSystem ι} (h : Simulated P requests served m)
    (ev : SessionEvent ι)
    : ∃ evs, Simulated P requests
        (Sessions.step (Server.exec P) (fun _ => .error .connection) served ev)
        (Run.run (PaymentSystem.step (payments P requests)) m evs) := by
  have hstep := Sessions.step_cases (Server.exec P) (fun _ => .error .connection) served ev
  generalize Sessions.step (Server.exec P) (fun _ => .error .connection) served ev = served' at *
  cases hstep with
  | stutter => exact ⟨[], h⟩
  | @done _ i c next r hi _ hr =>
    apply simulated_of_turn h
    . dsimp only
      rw [Sessions.rest_answer_self]
      exact reaches_done hday h hi (hr.imp And.right And.right)
    . intro j hj
      dsimp only
      rw [Sessions.sessions_answer_of_ne _ hj]
  | @fail i c next hi =>
    apply simulated_of_turn h
    . have hreaches := reaches_fail h hi
      rw [Sessions.rest_answer_self]
      exact hreaches
    . intro j hj
      rw [Sessions.sessions_answer_of_ne _ hj]

theorem exists_simulated {s : Server} {m : PaymentSystem ι} (h : Mirrors requests s m)
    (hready : ∀ i, m.stages i = .ready)
    (hrequests : ∀ i, (requests i).Inert P ∨ (requests i).route.moves) (es : List (SessionEvent ι))
    : ∃ evs, Simulated P requests (serveAll P requests s es)
        (Run.run (PaymentSystem.step (payments P requests)) m evs) := by
  induction es using List.reverseRecOn with
  | nil =>
    refine ⟨[], h, ?_⟩
    intro i
    rw [Run.run_nil, hready i]
    exact placed_app (hrequests i)
  | append_singleton es ev ih =>
    rcases ih with ⟨evs, hsimulated⟩
    rcases simulated_step hday hsimulated ev with ⟨evs', hsimulated'⟩
    refine ⟨evs ++ evs', ?_⟩
    unfold serveAll
    rw [Run.run_append_singleton, Run.run_append]
    exact hsimulated'

end Runs

-- A server with nothing but users.
def Server.initial (users : Table User.id) : Server where
  store := .initial users
  cache := fun _ => none
  locks := fun _ => none
  queue := []
  webhooks := []

omit [DecidableEq ι] in
theorem mirrors_initial (requests : ι → Request) (users : Table User.id)
    : Mirrors requests (.initial users) (.initial users) where
  store := rfl
  queue := rfl
  cache := fun _ => rfl
  locks := fun _ => rfl
  cached := by
    intro _ _ _ h
    cases h

/--
The requests to `POST /payments` have come as far as the calls, and have answered with the same payments.
The other requests make no calls.
-/
structure Realizes (requests : ι → Request) (served : Served ι) (m : PaymentSystem ι) : Prop where
  mirrors : Mirrors requests served.store m
  answers : ∀ i payment, (requests i).route = .createPayment →
    ((served.sessions i).rest = .ret (sendData 201 (.payment payment)) ↔
      m.stages i = .finished (.ok payment))
  others : ∀ i, (requests i).route ≠ .createPayment → m.stages i = .ready

/--
The server realizes the system of the calls of `processPayment`. However payments, deposits, withdrawals,
transfers, new wallets and requests that leave no trace are served side by side, and whichever commands
fail or lose their answers: the system has a run with the same tables, jobs, locks and cached responses, in
which the calls return what the requests are answered with.
-/
theorem server_realizes_payment_system (P : Platform) (requests : ι → Request)
    (users : Table User.id) (hrequests : ∀ i, (requests i).Inert P ∨ (requests i).route.moves)
    (hday : SameDay requests) (es : List (SessionEvent ι))
    : ∃ evs, Realizes requests (serveAll P requests (.initial users) es)
        (Run.run (PaymentSystem.step (payments P requests)) (.initial users) evs) := by
  rcases exists_simulated hday (mirrors_initial requests users) (fun _ => rfl) hrequests es
    with ⟨evs, hsimulated⟩
  refine ⟨evs, hsimulated.mirrors, ?_, ?_⟩
  . intro i payment hroute
    exact answered_iff_finished ((hsimulated.stages i).stage hroute) payment
  . intro i hroute
    exact ((hsimulated.stages i).ready hroute).1

theorem server_realizes_payment_system_after_retry
    : ∃ evs, Realizes retriedRequests
        (serveAll samplePlatform retriedRequests (.initial sampleUsers) retriedRun)
        (Run.run (PaymentSystem.step (payments samplePlatform retriedRequests))
          (.initial sampleUsers) evs) := by
  apply server_realizes_payment_system
  . intro i
    right
    cases i <;> trivial
  . have hnow : ∀ i, (retriedRequests i).draw.now = 0 := by
      intro i
      cases i <;> rfl
    intro i j _ _ _
    rw [hnow, hnow]
    decide

end Banking.Http
