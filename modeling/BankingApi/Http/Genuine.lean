import BankingApi.Http.Clients
import BankingApi.Http.Preservation
import BankingApi.Http.Outcomes

/-!
This module contains where the payments come from that are cached, queued and shown: each of them is a row
of the table.
-/

namespace Prog

variable {Cmd : Type} {Res : Cmd → Type} {ε α : Type} {C : Cmd → Prop}
  {G : List ((c : Cmd) × Res c) → Cmd → Prop} {Post : List ((c : Cmd) × Res c) → α → Prop}

def returned? (p : Prog Cmd Res ε α) : Option α :=
  match p with
  | .ret a => some a
  | _ => none

theorem eq_ret_of_returned? {p : Prog Cmd Res ε α} {a : α} (h : p.returned? = some a)
    : p = .ret a := by
  cases p with
  | ret a' => exact congrArg _ (Option.some.inj h)
  | throw e => cases h
  | call c next => cases h

theorem guarded_bind_of_issues {β : Type} {p : Prog Cmd Res ε β} {f : β → Prog Cmd Res ε α}
    {history : List ((c : Cmd) × Res c)} (hC : ∀ history c, C c → G history c) (hp : p.Issues C)
    (hf : ∀ history' b, history <+: history' → (f b).Guarded G Post history')
    : (p >>= f).Guarded G Post history := by
  apply guarded_bind
  apply guarded_mono (guarded_of_obeys (fun history' c _ hc => hC history' c hc) hp)
  intro history' b h
  exact hf history' b h.1

theorem guarded_ensure {p : Prog Cmd Res ε α} {after : Prog Cmd Res ε Unit}
    {history : List ((c : Cmd) × Res c)} (hC : ∀ history c, C c → G history c)
    (hmono : ∀ history history' a, history <+: history' → Post history a → Post history' a)
    (hp : p.Guarded G Post history) (hafter : after.Issues C)
    : (p.ensure after).Guarded G Post history := by
  have hattempt : ∀ (p : Prog Cmd Res ε α) history, p.Guarded G Post history →
      (p.attempt >>= fun r => after >>= fun _ => ofExcept r).Guarded G Post history := by
    intro p
    induction p with
    | ret a =>
      intro history ha
      change (after >>= fun _ => ofExcept (.ok a)).Guarded G Post history
      apply guarded_bind_of_issues hC hafter
      intro history' _ hle
      exact hmono history history' a hle ha
    | throw e =>
      intro history _
      change (after >>= fun _ => ofExcept (.error e)).Guarded G Post history
      apply guarded_bind_of_issues hC hafter
      intro _ _ _
      trivial
    | call c next ih =>
      intro history h
      exact ⟨h.1, fun r => ih r _ (h.2 r)⟩
  exact hattempt p history hp

end Prog

namespace Banking

-- The job that is published for a payment.
def Payment.success (p : Payment) : PaymentSuccess where
  paymentId := p.id
  paymentRef := p.paymentRef
  amount := p.amount
  method := p.method

def Store.HasPayment (s : Store) (p : Payment) : Prop :=
  p.fixed ∈ s.payments.rows.map Payment.fixed

namespace Http

open Prog

-- What a request must have been answered before it caches or publishes something.
def Backed (history : History) (c : Command) : Prop :=
  match c with
  | .setResponse key payment _ => ∃ request, ⟨.processPayment key request, .ok payment⟩ ∈ history
  | .publishPaymentEvent event =>
    ∃ key request payment, ⟨.processPayment key request, .ok payment⟩ ∈ history
      ∧ event = payment.success
  | .publishWebhookEvent event =>
    event.status = .SUCCESS ∧ ∃ paymentRef payment transaction,
      ⟨.findPaymentByReference paymentRef, .ok (some (payment, transaction))⟩ ∈ history
        ∧ event.paymentRef = payment.paymentRef
  | _ => True

/--
The request has found the payment in the cache, or made it.
-/
inductive Shown (history : History) (key : IdempotencyKey) (p : Payment) : Prop where
  | cached {now} (h : ⟨.getResponse key now, .ok (some p)⟩ ∈ history) : Shown history key p
  | made {request} (h : ⟨.processPayment key request, .ok p⟩ ∈ history) : Shown history key p

theorem Shown.mono {history history' : History} {key : IdempotencyKey} {p : Payment}
    (h : Shown history key p) (hle : history <+: history')
    : Shown history' key p := by
  cases h with
  | cached h => exact .cached (hle.subset h)
  | made h => exact .made (hle.subset h)

theorem backed_of_isRead (history : History) (c : Command) (hc : c.isRead) : Backed history c := by
  cases c <;> first | exact hc.elim | trivial

section Guarded

variable {P : Platform} {request : Request} {history : History}

theorem guarded_transact (body : Option Json) (createdBy : UserId) (key : IdempotencyKey)
    (gen : Generated)
    : (PaymentService.transact body createdBy key gen).Guarded Backed
        (fun history p => ∃ request, ⟨.processPayment key request, .ok p⟩ ∈ history) history := by
  unfold PaymentService.transact
  split
  . next request _ =>
    refine ⟨trivial, ?_⟩
    intro r
    cases r with
    | ok p => exact ⟨request, by simp⟩
    | error e => trivial
  . apply guarded_mono (guarded_of_obeys _ (obeys_refusedBlock body))
    . intro _ _ h
      exact h.2.elim
    . intro history' c _ hc
      exact backed_of_isRead history' c hc

theorem guarded_processPayment (body : Option Json) (createdBy : UserId)
    (idempotencyKey : Option String) (now : ℕ) (gen : Generated)
    : (PaymentService.processPayment body createdBy idempotencyKey now gen).Guarded Backed
        (fun history p => ∃ key, idempotencyKey.filter (· ≠ "") = some key ∧ Shown history key p)
        history := by
  unfold PaymentService.processPayment
  split
  . trivial
  . next key hkey =>
    apply guarded_query_bind
    . trivial
    . intro cachedResponse
      cases cachedResponse with
      | some p => exact ⟨key, hkey, .cached (List.mem_append_right _ List.mem_cons_self)⟩
      | none =>
        apply guarded_query_bind
        . trivial
        . intro isLocked
          split
          . apply guarded_ensure (fun history c (hc : ∀ history, Backed history c) => hc history)
            . rintro _ _ p hle ⟨key', hkey', hshown⟩
              exact ⟨key', hkey', hshown.mono hle⟩
            . apply guarded_bind
              apply guarded_mono (guarded_transact body createdBy key gen)
              rintro history p ⟨request, hmade⟩
              apply guarded_query_bind
              . exact ⟨request, hmade⟩
              . intro _
                apply guarded_query_bind
                . exact ⟨key, request, p, List.mem_append_left _ hmade, rfl⟩
                . intro _
                  exact ⟨key, hkey,
                    .made (List.mem_append_left _ (List.mem_append_left _ hmade))⟩
            . exact issues_query (fun _ => trivial)
          . trivial

theorem guarded_create (self : RequestUser) (body : Option Json) (idempotencyKey : Option String)
    (now : ℕ) (gen : Generated)
    : (PaymentRoutes.create self body idempotencyKey now gen).Guarded Backed
        (fun history response => ∃ key p, idempotencyKey.filter (· ≠ "") = some key
          ∧ Shown history key p ∧ response = sendData 201 (.payment p))
        history := by
  apply guarded_bind
  apply guarded_mono (guarded_processPayment body self.id idempotencyKey now gen)
  rintro history p ⟨key, hkey, hshown⟩
  exact ⟨key, p, hkey, hshown, rfl⟩

theorem guarded_paymentOf (paymentRef : Option String)
    : (PaymentService.paymentOf P paymentRef).Guarded Backed
        (fun history found => ∀ payment transaction, found = some (payment, transaction) →
          ∃ paymentRef,
            ⟨.findPaymentByReference paymentRef, .ok (some (payment, transaction))⟩ ∈ history)
        history := by
  unfold PaymentService.paymentOf
  cases hclient : P.paymentClient with
  | env => trivial
  | tables =>
    cases paymentRef with
    | none => trivial
    | some paymentRef =>
      rw [required_some_bind, PaymentRepository.findByReference, throughClient_of_tables hclient]
      refine ⟨trivial, ?_⟩
      intro r
      cases r with
      | error e => trivial
      | ok found =>
        rintro payment transaction rfl
        exact ⟨paymentRef, List.mem_append_right _ List.mem_cons_self⟩

theorem guarded_verifyPayment (paymentRef : Option String) (gatewayResponse : Option Json)
    : (PaymentService.verifyPayment P paymentRef gatewayResponse).Guarded Backed
        (fun _ _ => True) history := by
  apply guarded_bind
  apply guarded_mono (guarded_paymentOf paymentRef)
  intro history found hfound
  match found with
  | none => trivial
  | some (payment, transaction) =>
    rcases hfound payment transaction rfl with ⟨paymentRef, hread⟩
    dsimp only
    split
    . trivial
    . next response status hverdict =>
      have hbacked : ∀ history (c : Command), (∀ history, Backed history c) → Backed history c :=
        fun history c hc => hc history
      apply guarded_bind_of_issues hbacked (issues_throughClient P (by intro _; trivial))
      intro history' updatedPayment hle
      apply guarded_bind_of_issues hbacked (issues_throughClient P (by intro _; trivial))
      intro history'' _ hle'
      split
      . next hstatus =>
        apply guarded_query_bind
        . exact ⟨hstatus, paymentRef, payment, transaction, (hle.trans hle').subset hread, rfl⟩
        . intro _
          trivial
      . trivial

theorem backed_of_issues {user : Option RequestUser} {route : Route} {c : Command}
    (h : route.Issues user c) (hcreate : route ≠ .createPayment) (hverify : route ≠ .verifyPayment)
    (history : History)
    : Backed history c := by
  cases h with
  | read hc => exact backed_of_isRead history c hc
  | setResponse => exact absurd rfl hcreate
  | publishPaymentEvent => exact absurd rfl hcreate
  | publishWebhookEvent => exact absurd rfl hverify
  | _ => trivial

-- What `POST /payments` answers with.
def Paid (request : Request) (history : History) (response : Response) : Prop :=
  request.route = .createPayment → ∃ key p,
    (request.header? "idempotency-key").filter (· ≠ "") = some key ∧ Shown history key p
      ∧ response = sendData 201 (.payment p)

theorem guarded_handler_backed {context : Context}
    (hbody : validated P request = .ok context.body)
    : (handler P request context).Guarded Backed (Paid request) history := by
  by_cases hcreate : request.route = .createPayment
  . unfold handler userHandler Paid
    rw [hcreate]
    cases context.user with
    | none => trivial
    | some self =>
      apply guarded_mono (guarded_create self context.body _ _ _)
      intro _ _ h _
      exact h
  . by_cases hverify : request.route = .verifyPayment
    . unfold handler userHandler Paid
      rw [hverify]
      cases context.user with
      | none => trivial
      | some self =>
        apply guarded_bind_of_issues backed_of_isRead (issues_destructure _)
        intro history' body _
        apply guarded_bind
        apply guarded_mono (guarded_verifyPayment _ _)
        intro _ _ _ hroute
        cases hroute
    . apply guarded_mono (guarded_of_obeys _ (issues_handler hbody))
      . intro _ _ _ hroute
        exact absurd hroute hcreate
      . intro history' c _ hc
        exact backed_of_issues hc hcreate hverify history'

theorem guarded_app_backed (P : Platform) (request : Request)
    : (app P request).Guarded Backed (Paid request) [] := by
  unfold app middlewares
  rw [Prog.bind_bind]
  apply guarded_bind_of_issues backed_of_isRead (issues_guarded P request)
  intro history user _
  cases hbody : validated P request with
  | error fault => trivial
  | ok body => exact guarded_handler_backed hbody

end Guarded

/--
What is waiting outside the tables is about payments that are in the table.
-/
structure Genuine (s : Server) : Prop where
  cache : ∀ key p expires, s.cache key = some (p, expires) →
    p.idempotencyKey = key ∧ s.store.HasPayment p
  queue : ∀ event ∈ s.queue, ∃ p, event = p.success ∧ s.store.HasPayment p
  webhooks : ∀ event ∈ s.webhooks, event.status = .SUCCESS
    ∧ ∃ p, event.paymentRef = p.paymentRef ∧ s.store.HasPayment p

section Exec

variable {P : Platform} {s s' : Server} {c : Command} {key : IdempotencyKey} {p : Payment}

theorem hasPayment_of_mem {s : Store} (h : p ∈ s.payments.rows) : s.HasPayment p :=
  List.mem_map_of_mem h

theorem hasPayment_mono {s s' : Store} (hle : Preserved s s') (h : s.HasPayment p)
    : s'.HasPayment p :=
  hle.payments.subset h

structure SameMessages (s s' : Server) : Prop where
  cache : s'.cache = s.cache
  queue : s'.queue = s.queue
  webhooks : s'.webhooks = s.webhooks

theorem sameMessages_commit {α : Type} (s : Server) (r : Except Failure (α × Store))
    : SameMessages s (s.commit r).2 := by
  cases r <;> exact ⟨rfl, rfl, rfl⟩

-- Only three commands leave something outside the tables.
theorem sameMessages_exec (hcache : ∀ key p now, c ≠ .setResponse key p now)
    (hqueue : ∀ event, c ≠ .publishPaymentEvent event)
    (hwebhooks : ∀ event, c ≠ .publishWebhookEvent event)
    : SameMessages s (Server.exec P c s).2 := by
  cases c
  case setLock key now =>
    unfold Server.exec
    dsimp only
    split <;> exact ⟨rfl, rfl, rfl⟩
  case setResponse key p now => exact absurd rfl (hcache key p now)
  case publishPaymentEvent event => exact absurd rfl (hqueue event)
  case publishWebhookEvent event => exact absurd rfl (hwebhooks event)
  all_goals first | exact ⟨rfl, rfl, rfl⟩ | exact sameMessages_commit s _

theorem Genuine.of_same (h : Genuine s) (hsame : SameMessages s s')
    (hle : Preserved s.store s'.store)
    : Genuine s' where
  cache := by
    intro key p expires hkey
    rw [hsame.cache] at hkey
    exact (h.cache key p expires hkey).imp_right (hasPayment_mono hle)
  queue := by
    intro event hevent
    rw [hsame.queue] at hevent
    rcases h.queue event hevent with ⟨p, heq, hp⟩
    exact ⟨p, heq, hasPayment_mono hle hp⟩
  webhooks := by
    intro event hevent
    rw [hsame.webhooks] at hevent
    rcases h.webhooks event hevent with ⟨hstatus, p, heq, hp⟩
    exact ⟨hstatus, p, heq, hasPayment_mono hle hp⟩

theorem hasPayment_of_processPayment {request : PaymentRequest}
    (h : (Server.exec P (.processPayment key request) s).1 = .ok p)
    : (Server.exec P (.processPayment key request) s).2.store.HasPayment p
        ∧ p.idempotencyKey = key := by
  unfold Server.exec at *
  dsimp only at *
  cases hrun : (request.block key).run database s.store with
  | error e =>
    rw [hrun] at h
    cases h
  | ok res =>
    rcases res with ⟨p', s'⟩
    rw [hrun] at h
    cases h
    rcases effect_of_block hrun with ⟨_, _, _, _, _, _, heffect⟩
    cases heffect with
    | processPayment _ _ _ _ hpaid =>
      have hstored := Table.mem_of_find? (Table.find?_insert_self hpaid.fresh)
      exact ⟨hasPayment_of_mem hstored, hpaid.idempotencyKey_eq⟩

theorem mem_of_findPaymentByReference {paymentRef : String} {t : Transaction} {s : Store}
    (h : Server.findPaymentByReference s paymentRef = some (p, t))
    : p ∈ s.payments.rows := by
  unfold Server.findPaymentByReference Server.withTransaction at h
  rcases Option.bind_eq_some_iff.mp h with ⟨p', hfind, hmap⟩
  rcases Option.map_eq_some_iff.mp hmap with ⟨t', _, heq⟩
  cases heq
  exact List.mem_of_find?_eq_some hfind

end Exec

section Runs

variable {ι : Type} [DecidableEq ι] {P : Platform} {requests : ι → Request} {s : Server}
  {es : List (SessionEvent ι)} {i : ι}

/--
What a session has been answered, it has been answered in one of the states of the run, unless the command
has failed.
-/
theorem exists_answered {c : Command} {a : c.Value}
    (h : ⟨c, .ok a⟩ ∈ ((serveAll P requests s es).sessions i).history)
    : ∃ pre, pre ++ [.exec i] <+: es
      ∧ (Server.exec P c (serveAll P requests s pre).store).1 = .ok a
      ∧ (serveAll P requests s (pre ++ [.exec i])).store =
        (Server.exec P c (serveAll P requests s pre).store).2 := by
  rcases Sessions.asked_of_mem rfl h with ⟨pre, next, hnext, ⟨hle, hanswer⟩ | ⟨_, hanswer⟩⟩
  . exact ⟨pre, hle, hanswer.symm, store_done (by rfl) hnext⟩
  . cases hanswer

theorem hasPayment_later {pre : List (SessionEvent ι)} {p : Payment} (hle : pre <+: es)
    (h : (serveAll P requests s pre).store.store.HasPayment p)
    : (serveAll P requests s es).store.store.HasPayment p :=
  hasPayment_mono (evolves_serveAll hle).preserved h

theorem hasPayment_of_made {key : IdempotencyKey} {request : PaymentRequest} {p : Payment}
    (h : ⟨.processPayment key request, .ok p⟩ ∈ ((serveAll P requests s es).sessions i).history)
    : (serveAll P requests s es).store.store.HasPayment p ∧ p.idempotencyKey = key := by
  rcases exists_answered h with ⟨pre, hle, hanswer, hstore⟩
  have hmade := hasPayment_of_processPayment hanswer
  rw [← hstore] at hmade
  exact hmade.imp_left (hasPayment_later hle)

theorem hasPayment_of_found {paymentRef : String} {p : Payment} {t : Transaction}
    (h : ⟨.findPaymentByReference paymentRef, .ok (some (p, t))⟩ ∈
      ((serveAll P requests s es).sessions i).history)
    : (serveAll P requests s es).store.store.HasPayment p := by
  rcases exists_answered h with ⟨pre, hle, hanswer, _⟩
  have hmem := mem_of_findPaymentByReference (Except.ok.inj hanswer)
  exact hasPayment_later ((List.prefix_append pre _).trans hle) (hasPayment_of_mem hmem)

theorem genuine_step (es : List (SessionEvent ι)) (ev : SessionEvent ι)
    (h : Genuine (serveAll P requests s es).store)
    : Genuine (serveAll P requests s (es ++ [ev])).store := by
  have hle : Preserved (serveAll P requests s es).store.store
      (serveAll P requests s (es ++ [ev])).store.store :=
    (evolves_serveAll (List.prefix_append _ _)).preserved
  have hguarded : Sessions.AllGuarded (fun _ => Backed) (serveAll P requests s es) := by
    apply Sessions.allGuarded_run es
    intro i
    exact guarded_mono (guarded_app_backed P (requests i)) (fun _ _ _ => trivial)
  rcases @serveAll_exec ι _ P requests s es ev with hsame | ⟨i, c, next, _, hnext, hstore⟩
  . rw [hsame]
    exact h
  . have hbacked := hguarded i
    rw [hnext] at hbacked
    rw [hstore] at hle ⊢
    cases c
    case setResponse key p now =>
      rcases hbacked.1 with ⟨request, hmade⟩
      rcases hasPayment_of_made hmade with ⟨hp, hkey⟩
      refine ⟨?_, h.queue, h.webhooks⟩
      intro key' p' expires hcached
      by_cases heq : key' = key
      . subst heq
        change Function.update _ key' _ key' = _ at hcached
        rw [Function.update_self] at hcached
        cases hcached
        exact ⟨hkey, hp⟩
      . change Function.update _ key _ key' = _ at hcached
        rw [Function.update_of_ne heq] at hcached
        exact h.cache key' p' expires hcached
    case publishPaymentEvent event =>
      rcases hbacked.1 with ⟨key, request, p, hmade, hevent⟩
      refine ⟨h.cache, ?_, h.webhooks⟩
      intro event' hevent'
      rcases List.mem_append.mp hevent' with hold | hnew
      . exact h.queue event' hold
      . rw [List.mem_singleton.mp hnew]
        exact ⟨p, hevent, (hasPayment_of_made hmade).1⟩
    case publishWebhookEvent event =>
      rcases hbacked.1 with ⟨hstatus, paymentRef, p, t, hread, hevent⟩
      refine ⟨h.cache, h.queue, ?_⟩
      intro event' hevent'
      rcases List.mem_append.mp hevent' with hold | hnew
      . exact h.webhooks event' hold
      . rw [List.mem_singleton.mp hnew]
        exact ⟨hstatus, p, hevent, hasPayment_of_found hread⟩
    all_goals
      apply h.of_same (sameMessages_exec _ _ _) hle
      all_goals
        intros
        simp

theorem genuine_serveAll (h : Genuine s) (es : List (SessionEvent ι))
    : Genuine (serveAll P requests s es).store := by
  induction es using List.reverseRecOn with
  | nil => exact h
  | append_singleton es ev ih => exact genuine_step es ev ih

theorem hasPayment_of_shown {key : IdempotencyKey} {p : Payment} (hs : Genuine s)
    (h : Shown ((serveAll P requests s es).sessions i).history key p)
    : (serveAll P requests s es).store.store.HasPayment p ∧ p.idempotencyKey = key := by
  cases h with
  | cached hcached =>
    rcases exists_answered hcached with ⟨pre, hle, hanswer, _⟩
    have hentry := Except.ok.inj hanswer
    rcases Option.map_eq_some_iff.mp hentry with ⟨⟨p', expires⟩, hfilter, heq⟩
    cases heq
    have hcache := (Option.filter_eq_some_iff.mp hfilter).1
    rcases (genuine_serveAll hs pre).cache key _ expires hcache with ⟨hkey, hp⟩
    exact ⟨hasPayment_later ((List.prefix_append pre _).trans hle) hp, hkey⟩
  | made hmade => exact hasPayment_of_made hmade

-- `POST /payments` has been answered with a payment, for a request with this key.
def Answers (P : Platform) (requests : ι → Request) (s : Server) (es : List (SessionEvent ι)) (i : ι)
    (key : IdempotencyKey) (p : Payment)
    : Prop :=
  (requests i).route = .createPayment ∧ (requests i).header? "idempotency-key" = some key
    ∧ ((serveAll P requests s es).sessions i).rest = .ret (sendData 201 (.payment p))

theorem hasPayment_of_answers {key : IdempotencyKey} {p : Payment} (hs : Genuine s)
    (h : Answers P requests s es i key p)
    : (serveAll P requests s es).store.store.HasPayment p ∧ p.idempotencyKey = key := by
  have hguarded : Sessions.AllGuardedTo (fun _ => Backed) (fun i => Paid (requests i))
      (serveAll P requests s es) :=
    Sessions.allGuardedTo_run es (fun i => guarded_app_backed P (requests i))
  rcases h with ⟨hroute, hheader, hrest⟩
  have hpaid := hguarded i
  rw [hrest] at hpaid
  rcases hpaid hroute with ⟨key', p', hkey', hshown, hresponse⟩
  have hdata : p = p' := by
    simpa [sendData] using hresponse
  rw [hheader] at hkey'
  cases (Option.filter_eq_some_iff.mp hkey').1
  rw [hdata]
  exact hasPayment_of_shown hs hshown

/--
However requests are served side by side, no payment is cached, queued, announced or answered with that is
not in the table, under the key that it was asked for.
-/
theorem payments_genuine (P : Platform) (requests : ι → Request) (hs : Genuine s)
    (es : List (SessionEvent ι))
    : Genuine (serveAll P requests s es).store
        ∧ ∀ i key p, Answers P requests s es i key p →
          (serveAll P requests s es).store.store.HasPayment p ∧ p.idempotencyKey = key :=
  ⟨genuine_serveAll hs es, fun _ _ _ h => hasPayment_of_answers hs h⟩

-- A server with nothing but users.
theorem genuine_sampleServer (users : List UserId) (h : users.Nodup)
    : Genuine (sampleServer users h) := by
  constructor
  . intro _ _ _ h
    cases h
  . intro _ h
    cases h
  . intro _ h
    cases h

-- A wallet, and two payments into it with one key.
def retriedRequests (i : Option Bool) : Request :=
  match i with
  | none =>
    {
      sampleRequest .createWallet "alice" (some (.object [("body", .object [])])) with
      draw := { sampleDraw with walletId := "a" }
    }
  | some _ => samplePaymentRequest samplePaymentBody

def retriedRun : List (SessionEvent (Option Bool)) :=
  List.replicate 4 (.exec none) ++ List.replicate 7 (.exec (some true))
    ++ List.replicate 2 (.exec (some false))

def retriedServer : Server :=
  sampleServer ["alice"] (List.nodup_singleton _)

theorem payments_genuine_after_retry
    : Genuine (serveAll samplePlatform retriedRequests retriedServer retriedRun).store
        ∧ ∀ i key p, Answers samplePlatform retriedRequests retriedServer retriedRun i key p →
          (serveAll samplePlatform retriedRequests retriedServer retriedRun).store.store.HasPayment p
            ∧ p.idempotencyKey = key :=
  payments_genuine samplePlatform _ (genuine_sampleServer _ _) _

/--
All requests with one key that are answered with a payment are answered with the same one, whoever sends
them and however they are served side by side.
-/
theorem same_key_same_payment (P : Platform) (requests : ι → Request) (hs : Genuine s)
    (hunique : (s.store.payments.rows.map Payment.idempotencyKey).Nodup)
    (es : List (SessionEvent ι)) {i j : ι} {key : IdempotencyKey}
    {p p' : Payment} (hi : Answers P requests s es i key p) (hj : Answers P requests s es j key p')
    : p.fixed = p'.fixed := by
  rcases hasPayment_of_answers hs hi with ⟨hp, hkey⟩
  rcases hasPayment_of_answers hs hj with ⟨hp', hkey'⟩
  have hkeys : (serveAll P requests s es).store.store.payments.rows.map Payment.idempotencyKey
      |>.Nodup :=
    (evolves_serveAll List.nil_prefix).invariant Evolved.idempotencyKeys hunique
  rcases List.mem_map.mp hp with ⟨q, hq, hfixed⟩
  rcases List.mem_map.mp hp' with ⟨q', hq', hfixed'⟩
  have hcolumn : ∀ {r r' : Payment}, r.fixed = r'.fixed → r.idempotencyKey = r'.idempotencyKey :=
    fun h => congrArg (fun fixed => fixed.2.2.2.2.2.1) h
  have hsame : q.idempotencyKey = q'.idempotencyKey := by
    rw [hcolumn hfixed, hcolumn hfixed', hkey, hkey']
  rw [← hfixed, ← hfixed', List.inj_on_of_nodup_map hkeys hq hq' hsame]

-- A request that is through has been answered with a payment.
theorem exists_answers {key : IdempotencyKey} (hroute : (requests i).route = .createPayment)
    (hheader : (requests i).header? "idempotency-key" = some key)
    (hdone : ((serveAll P requests s es).sessions i).rest.returned?.isSome)
    : ∃ p, Answers P requests s es i key p := by
  have hguarded : Sessions.AllGuardedTo (fun _ => Backed) (fun i => Paid (requests i))
      (serveAll P requests s es) :=
    Sessions.allGuardedTo_run es (fun i => guarded_app_backed P (requests i))
  have hpaid := hguarded i
  rcases Option.isSome_iff_exists.mp hdone with ⟨response, hsome⟩
  have hrest := Prog.eq_ret_of_returned? hsome
  rw [hrest] at hpaid
  rcases hpaid hroute with ⟨_, p, _, _, hresponse⟩
  rw [hresponse] at hrest
  exact ⟨p, hroute, hheader, hrest⟩

theorem same_key_same_payment_after_retry
    : ∃ p p', Answers samplePlatform retriedRequests retriedServer retriedRun (some true) "XYZ" p
        ∧ Answers samplePlatform retriedRequests retriedServer retriedRun (some false) "XYZ" p'
        ∧ p.fixed = p'.fixed := by
  rcases @exists_answers (Option Bool) _ samplePlatform retriedRequests retriedServer retriedRun
    (some true) "XYZ" rfl (by decide) (by decide +kernel) with ⟨p, hp⟩
  rcases @exists_answers (Option Bool) _ samplePlatform retriedRequests retriedServer retriedRun
    (some false) "XYZ" rfl (by decide) (by decide +kernel) with ⟨p', hp'⟩
  exact ⟨p, p', hp, hp', same_key_same_payment samplePlatform _ (genuine_sampleServer _ _)
    List.nodup_nil _ hp hp'⟩

end Runs

end Http

end Banking
