import BankingApi.Http.Routes
import Mathlib.Data.List.DropRight

/-!
This module shows that validation is settled after one pass: what a schema returns it accepts again and
returns unchanged, so a request is served like the one that sends the validated body in the first place.
-/

namespace Json

theorem trim_eq_rdropWhile (s : String)
    : trim s = .ofList ((s.toList.dropWhile isSpace).rdropWhile isSpace) := rfl

theorem trim_trim (s : String) : trim (trim s) = trim s := by
  rw [trim_eq_rdropWhile s]
  generalize hcs : s.toList.dropWhile isSpace = cs
  have hdrop : cs.dropWhile isSpace = cs := by
    rw [← hcs]
    exact List.dropWhile_idempotent _ _
  have hhead : (cs.rdropWhile isSpace).dropWhile isSpace = cs.rdropWhile isSpace := by
    rw [List.dropWhile_eq_self_iff] at hdrop ⊢
    intro hpos
    have hprefix := List.rdropWhile_prefix isSpace (l := cs)
    have hget := hprefix.getElem hpos
    rw [hget]
    exact hdrop _
  rw [trim_eq_rdropWhile, String.toList_ofList, hhead, List.rdropWhile_idempotent]

end Json

namespace Zod

theorem StringCheck.foldlM_run_again {checks : List StringCheck} {s s' : String}
    (htrim : .trim ∉ checks.tail) (h : checks.foldlM StringCheck.run s = some s')
    : checks.foldlM StringCheck.run s' = some s' := by
  cases checks with
  | nil => rfl
  | cons check checks =>
    rw [List.foldlM_cons, Option.bind_eq_bind, Option.bind_eq_some_iff] at h ⊢
    rcases h with ⟨s₁, hrun, h⟩
    have heq : s' = s₁ := Schema.run_checks_of_plain htrim h
    subst heq
    refine ⟨s', ?_, h⟩
    cases check with
    | trim =>
      cases hrun
      exact congrArg some (Json.trim_trim s)
    | _ => grind [StringCheck.run]

namespace Schema

mutual

-- Strings are trimmed before they are checked, and what is filled in passes the schema it stands for.
def Settled (schema : Schema) : Prop :=
  match schema with
  | .string checks => .trim ∉ checks.tail
  | .object fields _ => (fields.map Prod.fst).Nodup ∧ SettledFields fields
  | .optional schema => Settled schema
  | .default schema value => parse schema (some value) = some (some value) ∧ Settled schema
  | _ => True

def SettledFields (fields : List (String × Schema)) : Prop :=
  match fields with
  | [] => True
  | (_, schema) :: fields => Settled schema ∧ SettledFields fields

end

attribute [simp] Settled SettledFields

-- A schema reads its object only through the keys that it declares.
theorem parseFields_congr {fields : List (String × Schema)} {input input' : List (String × Json)}
    (h : ∀ field ∈ fields, parse field.2 (Json.lookup input field.1) =
      parse field.2 (Json.lookup input' field.1))
    : parseFields fields input = parseFields fields input' := by
  induction fields with
  | nil => rfl
  | cons field fields ih =>
    rcases field with ⟨key, schema⟩
    rw [List.forall_mem_cons] at h
    rw [parseFields, parseFields, h.1, ih h.2]

theorem keys_of_parseFields {fields : List (String × Schema)} {input parsed : List (String × Json)}
    (h : parseFields fields input = some parsed)
    : ∀ f ∈ parsed, f.1 ∈ fields.map Prod.fst := by
  induction fields generalizing parsed with
  | nil =>
    cases h
    simp
  | cons field fields ih =>
    rcases field with ⟨key, schema⟩
    unfold parseFields at h
    split at h
    . next hrest =>
      cases h
      rw [List.forall_mem_cons, List.map_cons]
      exact ⟨List.mem_cons_self, fun f hf => List.mem_cons_of_mem _ (ih hrest f hf)⟩
    . next hrest =>
      cases h
      intro f hf
      exact List.mem_cons_of_mem _ (ih hrest f hf)
    . cases h

theorem undeclared_append_of_declared {fields : List (String × Schema)}
    {parsed : List (String × Json)} (h : ∀ f ∈ parsed, f.1 ∈ fields.map Prod.fst)
    (input : List (String × Json))
    : undeclared fields (parsed ++ undeclared fields input) = undeclared fields input := by
  unfold undeclared
  have hnil : parsed.filter (fun f => f.1 ∉ fields.map Prod.fst) = [] := by
    rw [List.filter_eq_nil_iff]
    intro f hf
    simpa using h f hf
  rw [List.filter_append, hnil, List.nil_append, List.filter_filter]
  simp

theorem parse_some_ne_none (schema : Schema) {j : Json} {result : Option Json}
    (h : parse schema (some j) = some result)
    : ∃ j', result = some j' := by
  cases schema with
  | optional schema => exact parse_some_ne_none schema h
  | default schema _ => exact parse_some_ne_none schema h
  | object fields passthrough =>
    rcases parse_object_eq_some h with ⟨_, _, _, _, rfl⟩
    exact ⟨_, rfl⟩
  | _ =>
    unfold parse at h
    split at h <;> grind [Option.map_eq_some_iff]

mutual

/--
What a schema returns is a value that it returns unchanged.
-/
theorem parse_again (schema : Schema) {value result : Option Json} (hsettled : Settled schema)
    (h : parse schema value = some result)
    : parse schema result = some result := by
  cases schema with
  | string checks =>
    unfold parse at h
    split at h <;> try contradiction
    next heq =>
      cases heq
      rw [Option.map_eq_some_iff] at h
      rcases h with ⟨s', hrun, rfl⟩
      simp only [parse, StringCheck.foldlM_run_again hsettled hrun, Option.map_some]
  | object fields passthrough =>
    rcases parse_object_eq_some h with ⟨input, parsed, rfl, hparsed, hresult⟩
    rcases lookup_of_parse_object h hsettled.1 with ⟨_, out, hinput, rfl, _, hfields⟩
    cases hinput
    have hagain : parseFields fields out = some parsed := by
      rw [← hparsed]
      apply parseFields_congr
      intro field hfield
      rw [hfields field hfield]
      exact parse_fields_again fields hsettled.2 hfields field hfield
    rw [Option.some.injEq, Json.object.injEq] at hresult
    simp only [parse, hagain, Option.map_some, Option.some.injEq, Json.object.injEq]
    cases passthrough with
    | false => exact hresult.symm
    | true =>
      rw [if_pos rfl] at hresult ⊢
      rw [hresult, undeclared_append_of_declared (keys_of_parseFields hparsed)]
  | optional schema =>
    cases value with
    | none =>
      cases h
      rfl
    | some j =>
      have hagain := parse_again schema hsettled h
      rcases parse_some_ne_none schema h with ⟨j', rfl⟩
      exact hagain
  | default schema filled =>
    cases value with
    | none =>
      cases h
      exact hsettled.1
    | some j =>
      have hagain := parse_again schema hsettled.2 h
      rcases parse_some_ne_none schema h with ⟨j', rfl⟩
      exact hagain
  | _ =>
    unfold parse at h
    split at h <;> grind [parse]

theorem parse_fields_again (fields : List (String × Schema)) {input out : List (String × Json)}
    (hsettled : SettledFields fields)
    (h : ∀ field ∈ fields, parse field.2 (Json.lookup input field.1) =
      some (Json.lookup out field.1))
    : ∀ field ∈ fields, parse field.2 (Json.lookup out field.1) =
        some (Json.lookup out field.1) := by
  cases fields with
  | nil => simp
  | cons field fields =>
    rw [List.forall_mem_cons] at h ⊢
    exact ⟨parse_again field.2 hsettled.1 h.1, parse_fields_again fields hsettled.2 h.2⟩

end

end Schema

end Zod

namespace Banking.Http

open Zod

variable {P : Platform} {request : Request} {body : Option Json}

theorem parse_eq_ok_iff {schema : Schema} {value result : Option Json}
    : parse schema value = .ok result ↔ schema.parse value = some result := by
  unfold parse
  cases schema.parse value <;> simp

theorem mapError_eq_ok_iff {ε ε' α : Type} {f : ε → ε'} {outcome : Except ε α} {a : α}
    : outcome.mapError f = .ok a ↔ outcome = .ok a := by
  cases outcome <;> simp [Except.mapError]

theorem Validation.validate_zod_eq_ok_iff {schema : Schema} {value result params : Option Json}
    : Validation.validate (.zod schema) value params = .ok result ↔
      schema.parse value = some result :=
  mapError_eq_ok_iff.trans parse_eq_ok_iff

theorem validate_record_eq_ok_iff {schema : Schema} {value result params : Option Json}
    : validate (.record (some schema) none) value params = .ok result ↔
      schema.parse value = some result := by
  rw [← parse_eq_ok_iff]
  unfold validate
  dsimp only
  cases parse schema value with
  | error => exact iff_of_false nofun nofun
  | ok parsed => simp [Except.mapError, bind, Except.bind, pure, Except.pure]

theorem Validation.validate_zod_again {schema : Schema} {value params : Option Json}
    (hsettled : schema.Settled) (h : Validation.validate (.zod schema) value params = .ok body)
    : Validation.validate (.zod schema) body params = .ok body := by
  rw [Validation.validate_zod_eq_ok_iff] at h ⊢
  exact schema.parse_again hsettled h

-- A schema for `params` leaves the body as it is.
theorem body_of_validate_params {schema : Schema} {value result params : Option Json}
    (h : validate (.record none (some schema)) value params = .ok result)
    : value = result := by
  unfold validate at h
  dsimp only at h
  cases hparams : parse schema params with
  | error => simp [hparams, Except.mapError, bind, Except.bind] at h
  | ok => simpa [hparams, Except.mapError, bind, Except.bind, pure, Except.pure] using h

theorem validate_record_again {schema : Schema} {value params : Option Json}
    (hsettled : schema.Settled) (h : validate (.record (some schema) none) value params = .ok body)
    : validate (.record (some schema) none) body params = .ok body := by
  rw [validate_record_eq_ok_iff] at h ⊢
  exact schema.parse_again hsettled h

@[simp]
theorem settled_bodyOf (fields : List (String × Schema))
    : (bodyOf fields).Settled ↔ (fields.map Prod.fst).Nodup ∧ Schema.SettledFields fields := by
  simp [bodyOf]

theorem settled_createWalletSchema : createWalletSchema.Settled := by
  have hparse : (Schema.optional (.string [.length 3])).parse (some (.string "INR")) =
      some (some (.string "INR")) := by
    decide
  simp [createWalletSchema, createWalletFields, hparse]

theorem validated_again (h : validated P request = .ok body)
    : validated P { request with body := body } = .ok body := by
  rcases request with ⟨route, headers, sent, draw⟩
  unfold validated at h ⊢
  cases route <;> dsimp only at h ⊢
  case register => exact Validation.validate_zod_again (by simp [registerSchema]) h
  case login => exact Validation.validate_zod_again (by simp [loginSchema]) h
  case refresh => exact Validation.validate_zod_again (by simp [refreshTokenSchema]) h
  case updateMe =>
    exact Validation.validate_zod_again (by simp [updateProfileSchema, updateProfileFields]) h
  case changePassword =>
    exact Validation.validate_zod_again (by simp [changePasswordSchema, changePasswordFields]) h
  case changeStatus =>
    exact Validation.validate_zod_again (by simp [changeStatusSchema, changeStatusFields]) h
  case changeRole =>
    exact Validation.validate_zod_again (by simp [changeRoleSchema, changeRoleFields]) h
  case createWallet => exact Validation.validate_zod_again settled_createWalletSchema h
  case deposit => exact Validation.validate_zod_again (by simp [depositSchema, depositFields]) h
  case withdraw => exact Validation.validate_zod_again (by simp [withdrawSchema, withdrawFields]) h
  case transfer => exact Validation.validate_zod_again (by simp [transferSchema, transferFields]) h
  case createAccount => exact validate_record_again (by simp [createAccountBody]) h
  case getAccount =>
    have heq := body_of_validate_params h
    subst heq
    exact h
  case gateway => cases h
  all_goals rfl

/--
A request is served as if it had sent the body that validation makes of it.
-/
theorem validated_body_served_alike (h : validated P request = .ok body)
    : validated P { request with body := body } = .ok body
        ∧ app P { request with body := body } = app P request := by
  have hagain := validated_again h
  refine ⟨hagain, ?_⟩
  unfold app middlewares
  rw [h, hagain]
  rfl

def sampleRegisterBody (fullName : String) (rest : List (String × Json)) : Json :=
  .object
    ([
      ("fullName", .string fullName),
      ("email", .string "ann@bank.example"),
      ("password", .string " secret ")
    ] ++ rest)

def sampleRegister (body : Json) : Request :=
  sampleRequest .register "" (some body)

-- The name loses its blanks and the role is dropped; the password stays as it is.
theorem validated_sampleRegister
    : validated samplePlatform (sampleRegister (sampleRegisterBody " Ann " [("role", .string "ADMIN")]))
        = .ok (some (sampleRegisterBody "Ann" [])) := by
  unfold validated
  apply Validation.validate_zod_eq_ok_iff.mpr
  decide +kernel

theorem registration_served_alike
    : validated samplePlatform (sampleRegister (sampleRegisterBody "Ann" [])) =
          .ok (some (sampleRegisterBody "Ann" []))
        ∧ app samplePlatform (sampleRegister (sampleRegisterBody "Ann" [])) =
          app samplePlatform
            (sampleRegister (sampleRegisterBody " Ann " [("role", .string "ADMIN")])) :=
  validated_body_served_alike validated_sampleRegister

end Banking.Http
