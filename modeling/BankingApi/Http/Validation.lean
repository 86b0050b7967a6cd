import BankingApi.Http.Routes

/-!
This module contains what validation keeps from the handlers, and what it lets through to them.
-/

namespace Banking.Http

open Zod

-- What `z.object({ body: .., headers: .. })` is meant to parse.
def envelope (request : Request) : Json :=
  .object ((request.body.map (fun body => ("body", body))).toList
    ++ [("headers", .object (request.headers.map (fun header => (header.1, .string header.2))))])

theorem lookup_envelope (request : Request)
    : ∃ fields, envelope request = .object fields ∧ Json.lookup fields "body" = request.body := by
  unfold envelope
  refine ⟨_, rfl, ?_⟩
  cases request.body with
  | none => simp [Json.lookup]
  | some body => simp [Json.lookup]

/--
The schemas that `POST /payments` and `POST /payments/verify` declare, with the fields of their `body`.
-/
inductive PaymentSchema (P : Platform) : Route → Schema → Schema → Prop where
  | create
    : PaymentSchema P .createPayment (createPaymentSchema P) (.object (createPaymentFields P) false)
  | verify : PaymentSchema P .verifyPayment verifyPaymentSchema (.object verifyPaymentFields false)

theorem PaymentSchema.parse_body {P : Platform} {route : Route} {schema body : Schema}
    (h : PaymentSchema P route schema body) {request : Request} {parsed : Option Json}
    (hparsed : schema.parse (some (envelope request)) = some parsed)
    : body.parse request.body = some (Json.get parsed "body") := by
  rcases lookup_envelope request with ⟨fields, heq, hbody⟩
  rw [heq] at hparsed
  cases h
  all_goals
    rcases Schema.lookup_of_parse_object hparsed (by simp) with ⟨_, out, hinput, rfl, _, hfields⟩
    cases hinput
    rw [← hbody]
    exact hfields ("body", _) (by simp)

theorem PaymentSchema.plain {P : Platform} {route : Route} {schema body : Schema}
    (h : PaymentSchema P route schema body)
    : body.Plain := by
  cases h <;>
    simp [Schema.Plain, Schema.PlainFields, createPaymentFields, verifyPaymentFields]

theorem PaymentSchema.validated_eq {P : Platform} {request : Request} {schema body : Schema}
    (h : PaymentSchema P request.route schema body)
    : validated P request = .ok request.body := by
  unfold validated
  generalize request.route = route at *
  cases h <;> rfl

/--
The handler runs only on what the schema has accepted and parsed.
-/
def RunsValidated (P : Platform) (s : Server) (request : Request) (schema : Schema) : Prop :=
  ∀ context s', (middlewares P request).serve (Server.exec P) s = (.ok context, s') →
    ∃ parsed, schema.parse (some (envelope request)) = some parsed
      ∧ Json.Same context.body (Json.get parsed "body")

theorem runs_validated_iff {P : Platform} {s : Server} {request : Request} {schema body : Schema}
    (hschema : PaymentSchema P request.route schema body)
    : RunsValidated P s request schema ↔
      request.admitted? P s = none
        ∨ (schema.parse (some (envelope request))).isSome ∧ body.Declared request.body := by
  have hiff : ∀ {parsed}, schema.parse (some (envelope request)) = some parsed →
      (Json.Same request.body (Json.get parsed "body") ↔ body.Declared request.body) := by
    intro parsed hparsed
    rw [← Schema.same_iff_declared body hschema.plain (hschema.parse_body hparsed)]
    exact ⟨fun h path => (h path).symm, fun h path => (h path).symm⟩
  constructor
  . intro h
    cases huser : request.admitted? P s with
    | none => exact .inl rfl
    | some user =>
      right
      rcases h ⟨user, request.body⟩ s
        (serve_middlewares_eq_ok_iff.mpr ⟨rfl, huser, hschema.validated_eq⟩)
        with ⟨parsed, hparsed, hsame⟩
      exact ⟨by rw [hparsed]; rfl, (hiff hparsed).mp hsame⟩
  . intro h context s' hserve
    rcases serve_middlewares_eq_ok_iff.mp hserve with ⟨_, huser, hbody⟩
    rw [hschema.validated_eq, Except.ok.injEq] at hbody
    rw [← hbody]
    rcases h with hnone | ⟨haccepts, hdeclared⟩
    . rw [hnone] at huser
      cases huser
    . rcases Option.isSome_iff_exists.mp haccepts with ⟨parsed, hparsed⟩
      exact ⟨parsed, hparsed, (hiff hparsed).mpr hdeclared⟩

def sampleAlice : Server := sampleServer ["alice"] (List.nodup_singleton "alice")

def samplePaymentBody : Json :=
  .object
    [
      ("amount", .number (.ofRat 1 Binary64.abs_round_one_lt)),
      ("method", .string "UPI"),
      ("receiverWalletId", .string "a")
    ]

def samplePaymentRequest (body : Json) : Request :=
  {
    sampleRequest .createPayment "alice" (some body) with
    headers := [("authorization", "Bearer alice"), ("idempotency-key", "XYZ")]
  }

theorem sample_payment_validated
    : RunsValidated samplePlatform sampleAlice (samplePaymentRequest samplePaymentBody)
        (createPaymentSchema samplePlatform) := by
  apply (runs_validated_iff .create).mpr
  right
  constructor
  . decide +kernel
  . refine ⟨.inr ?_, ?_⟩
    . intro key hkey
      simp_all [createPaymentFields, Json.lookup, eq_comm]
    . simp [createPaymentFields, Schema.DeclaredFields, Schema.Declared, Json.lookup]

theorem empty_payment_runs
    : ¬RunsValidated samplePlatform sampleAlice (samplePaymentRequest (.object []))
        (createPaymentSchema samplePlatform) := by
  intro h
  rcases h { user := some (.ofUser (sampleUser "alice")), body := some (.object []) } sampleAlice rfl
    with ⟨parsed, hparsed, _⟩
  have hnone : (createPaymentSchema samplePlatform).parse
      (some (envelope (samplePaymentRequest (.object [])))) = none := by
    decide +kernel
  cases hnone.symm.trans hparsed

/-!
The validators of users, wallets, transactions and webhooks.
-/

def Route.bodyFields? (route : Route) : Option (List (String × Schema)) :=
  match route with
  | .deposit => some depositFields
  | .withdraw => some withdrawFields
  | .transfer => some transferFields
  | .createWallet => some createWalletFields
  | .updateMe => some updateProfileFields
  | .changePassword => some changePasswordFields
  | .changeStatus _ => some changeStatusFields
  | .changeRole _ => some changeRoleFields
  | .gateway => some webhookFields
  | _ => none

/--
A request that may come in and whose body is valid gets to the handler, which finds the declared fields of
the body and nothing else.
-/
def PassesUnchanged (P : Platform) (s : Server) (request : Request) (parsed : Option Json) : Prop :=
  ∃ context s', (middlewares P request).serve (Server.exec P) s = (.ok context, s')
    ∧ Json.Same context.body parsed

theorem validated_of_bodyFields {P : Platform} {request : Request} {fields : List (String × Schema)}
    (h : request.route.bodyFields? = some fields)
    : validated P request = .error (.failure .typeError)
        ∨ validated P request =
          Validation.validate (.zod (bodyOf fields)) request.body request.params := by
  unfold validated
  generalize request.route = route at *
  cases route <;> cases h
  case gateway => exact .inl rfl
  all_goals exact .inr rfl

theorem body_of_validate {fields : List (String × Schema)} {value params body : Option Json}
    (h : Validation.validate (.zod (bodyOf fields)) value params = .ok body)
    : ∃ j, Json.get body "body" = some j := by
  change (parse (bodyOf fields) value).mapError Validation.rejected = .ok body at h
  unfold parse at h
  cases hparse : (bodyOf fields).parse value with
  | none => simp [hparse, Except.mapError] at h
  | some result =>
    simp only [hparse, Except.mapError, Except.ok.injEq] at h
    subst h
    rcases Schema.lookup_of_parse_object hparse (by simp) with ⟨_, out, _, rfl, _, hfields⟩
    rcases Schema.parse_object_eq_some (hfields ("body", _) (List.mem_singleton_self _))
      with ⟨_, _, _, _, hbody⟩
    exact ⟨_, hbody⟩

theorem body_of_validated_updateMe {P : Platform} {request : Request} {body : Option Json}
    (hroute : request.route = .updateMe) (h : validated P request = .ok body)
    : ∃ j, Json.get body "body" = some j := by
  unfold validated at h
  simp only [hroute] at h
  exact body_of_validate h

theorem fields_of_validated_createAccount {P : Platform} {request : Request} {body : Option Json}
    (hroute : request.route = .createAccount) (h : validated P request = .ok body)
    : ∃ out type initialDeposit, body = some (.object out)
        ∧ Json.lookup out "type" = some (.string type)
        ∧ Json.lookup out "initialDeposit" = some (.number initialDeposit) := by
  unfold validated validate parse at h
  simp only [hroute] at h
  cases hparse : createAccountBody.parse request.body with
  | none =>
    rw [hparse] at h
    cases h
  | some result =>
    rw [hparse] at h
    cases h
    rcases Schema.lookup_of_parse_object hparse (by decide) with ⟨input, out, _, rfl, _, hfields⟩
    rcases Schema.parse_enum (hfields _ (.head _)) with ⟨type, htype⟩
    rcases Schema.parse_number (hfields _ (.tail _ (.head _))) with ⟨n, hn⟩
    exact ⟨out, type, n, rfl, htype, hn⟩

theorem bodyFields_keys {route : Route} {fields : List (String × Schema)}
    (h : route.bodyFields? = some fields)
    : (fields.map Prod.fst).Nodup ∧ "body" ∉ fields.map Prod.fst := by
  cases route <;> cases h <;> decide

theorem valid_request_never_passes {P : Platform} {s : Server} {request : Request}
    {fields : List (String × Schema)} {parsed : Option Json}
    (hroute : request.route.bodyFields? = some fields)
    (hvalid : (Schema.object fields false).parse request.body = some parsed)
    : ¬PassesUnchanged P s request parsed := by
  rintro ⟨context, s', hserve, hsame⟩
  have hbody := (serve_middlewares_eq_ok_iff.mp hserve).2.2
  rcases validated_of_bodyFields hroute with herror | hvalidate
  . rw [herror] at hbody
    cases hbody
  . rw [hvalidate] at hbody
    rcases body_of_validate hbody with ⟨j, hj⟩
    rcases bodyFields_keys hroute with ⟨hnodup, hkey⟩
    rcases Schema.lookup_of_parse_object hvalid hnodup with ⟨_, out, _, rfl, hundeclared, _⟩
    have hnone : Json.get (some (.object out)) "body" = none := hundeclared "body" hkey
    have := hsame.get "body"
    rw [hnone, Json.same_none_iff, hj] at this
    cases this

def sampleWebhookBody : Json :=
  .object [("paymentRef", .string "PAY-1"), ("status", .string "SUCCESS")]

theorem valid_webhook_never_passes
    : ¬PassesUnchanged samplePlatform sampleAlice (sampleRequest .gateway "" (some sampleWebhookBody))
        (some sampleWebhookBody) :=
  valid_request_never_passes rfl (by decide +kernel)

def sampleDepositBody : Json :=
  .object [("amount", .number (.ofRat 1 Binary64.abs_round_one_lt))]

def sampleDepositRequest : Request :=
  sampleRequest .deposit "alice" (some sampleDepositBody)

theorem valid_deposit_fails
    : sampleDepositRequest.admitted? samplePlatform sampleAlice =
          some (some (.ofUser (sampleUser "alice")))
        ∧ (Schema.object depositFields false).parse (some sampleDepositBody) =
          some (some sampleDepositBody)
        ∧ ¬PassesUnchanged samplePlatform sampleAlice sampleDepositRequest
          (some sampleDepositBody) := by
  refine ⟨rfl, by decide +kernel, ?_⟩
  rintro ⟨context, s', hserve, _⟩
  have hbody := (serve_middlewares_eq_ok_iff.mp hserve).2.2
  have hnone : (validated samplePlatform sampleDepositRequest).toOption = none := by
    decide +kernel
  rw [hbody] at hnone
  cases hnone

end Banking.Http
