import BankingApi.Json

/-!
This module contains the schemas of zod that validators are built from, and what `schema.parse` makes of
a value.
-/

namespace Zod

inductive StringCheck where
  -- not a check: the checks after it see the trimmed string
  | trim
  | min (n : ℕ)
  | max (n : ℕ)
  | length (n : ℕ)
  -- `email`, `cuid`
  | format (accepts : String → Bool)

inductive NumberCheck where
  | positive
  | nonnegative

inductive Schema where
  | string (checks : List StringCheck)
  | number (checks : List NumberCheck)
  | boolean
  | enum (values : List String)
  | object (fields : List (String × Schema)) (passthrough : Bool)
  | optional (schema : Schema)
  | default (schema : Schema) (value : Json)

def StringCheck.run (s : String) (check : StringCheck) : Option String :=
  match check with
  | .trim => some (Json.trim s)
  | .min n => if n ≤ Json.length s then some s else none
  | .max n => if Json.length s ≤ n then some s else none
  | .length n => if Json.length s = n then some s else none
  | .format accepts => if accepts s then some s else none

def NumberCheck.holds (check : NumberCheck) (n : Binary64) : Bool :=
  match check with
  | .positive => 0 < n.val
  | .nonnegative => 0 ≤ n.val

def undeclared (fields : List (String × Schema)) (input : List (String × Json))
    : List (String × Json) :=
  input.filter (fun field => field.1 ∉ fields.map Prod.fst)

namespace Schema

mutual

/--
`schema.parse(value)`. There is no result if it throws; `undefined` is `none`, as a value and as a result.
-/
def parse (schema : Schema) (value : Option Json) : Option (Option Json) :=
  match schema, value with
  | .string checks, some (.string s) =>
    (checks.foldlM StringCheck.run s).map (fun s => some (.string s))
  | .number checks, some (.number n) =>
    if checks.all (·.holds n) then some (some (.number n)) else none
  | .boolean, some (.boolean b) => some (some (.boolean b))
  | .enum values, some (.string s) => if s ∈ values then some (some (.string s)) else none
  | .object fields passthrough, some (.object input) =>
    (parseFields fields input).map (fun parsed =>
      some (.object (if passthrough then parsed ++ undeclared fields input else parsed)))
  | .optional _, none => some none
  | .optional schema, some j => parse schema (some j)
  | .default _ value, none => some (some value)
  | .default schema _, some j => parse schema (some j)
  | _, _ => none

def parseFields (fields : List (String × Schema)) (input : List (String × Json))
    : Option (List (String × Json)) :=
  match fields with
  | [] => some []
  | (key, schema) :: fields =>
    match parse schema (Json.lookup input key), parseFields fields input with
    | some (some j), some parsed => some ((key, j) :: parsed)
    | some none, some parsed => some parsed
    | _, _ => none

end

/-!
A schema that neither trims nor fills in returns what it is given, less the keys that it does not declare.
-/

mutual

def Plain (schema : Schema) : Prop :=
  match schema with
  | .string checks => .trim ∉ checks
  | .object fields _ => (fields.map Prod.fst).Nodup ∧ PlainFields fields
  | .optional schema => Plain schema
  | .default _ _ => False
  | _ => True

def PlainFields (fields : List (String × Schema)) : Prop :=
  match fields with
  | [] => True
  | (_, schema) :: fields => Plain schema ∧ PlainFields fields

end

mutual

-- The value has no keys but those that the schema declares or passes through.
def Declared (schema : Schema) (value : Option Json) : Prop :=
  match schema, value with
  | .object fields passthrough, some (.object input) =>
    (passthrough = true ∨ ∀ key, key ∉ fields.map Prod.fst → Json.lookup input key = none)
      ∧ DeclaredFields fields input
  | .optional schema, some j => Declared schema (some j)
  | .default schema _, some j => Declared schema (some j)
  | _, _ => True

def DeclaredFields (fields : List (String × Schema)) (input : List (String × Json)) : Prop :=
  match fields with
  | [] => True
  | (key, schema) :: fields => Declared schema (Json.lookup input key) ∧ DeclaredFields fields input

end

theorem lookup_cons (key key' : String) (j : Json) (fields : List (String × Json))
    : Json.lookup ((key, j) :: fields) key' =
      if key = key' then some j else Json.lookup fields key' := by
  unfold Json.lookup
  rw [List.find?_cons]
  split <;> simp_all

theorem lookup_append (fields fields' : List (String × Json)) (key : String)
    : Json.lookup (fields ++ fields') key =
      (Json.lookup fields key).or (Json.lookup fields' key) := by
  unfold Json.lookup
  rw [List.find?_append]
  cases fields.find? (·.1 = key) <;> rfl

theorem lookup_undeclared (fields : List (String × Schema)) (input : List (String × Json))
    (key : String)
    : Json.lookup (undeclared fields input) key =
      if key ∈ fields.map Prod.fst then none else Json.lookup input key := by
  unfold undeclared
  induction input with
  | nil => simp [Json.lookup]
  | cons f input ih =>
    rcases f with ⟨key', j⟩
    rw [lookup_cons, List.filter_cons]
    by_cases hmem : key' ∈ fields.map Prod.fst
    . rw [if_neg (by simpa using hmem), ih]
      by_cases heq : key' = key
      . subst heq
        simp only [if_pos hmem]
      . simp only [if_neg heq]
    . rw [if_pos (by simpa using hmem), lookup_cons, ih]
      by_cases heq : key' = key
      . subst heq
        simp only [if_neg hmem, ↓reduceIte]
      . simp only [if_neg heq]

theorem lookup_parseFields {fields : List (String × Schema)} {input parsed : List (String × Json)}
    (h : parseFields fields input = some parsed) (hnodup : (fields.map Prod.fst).Nodup)
    : (∀ key, key ∉ fields.map Prod.fst → Json.lookup parsed key = none)
        ∧ ∀ field ∈ fields, parse field.2 (Json.lookup input field.1) =
          some (Json.lookup parsed field.1) := by
  induction fields generalizing parsed with
  | nil =>
    cases h
    simp [Json.lookup]
  | cons field fields ih =>
    rcases field with ⟨key, schema⟩
    rw [List.map_cons, List.nodup_cons] at hnodup
    rw [parseFields] at h
    cases hvalue : parse schema (Json.lookup input key) with
    | none => simp [hvalue] at h
    | some value =>
      cases hrest : parseFields fields input with
      | none => cases value <;> simp [hvalue, hrest] at h
      | some rest =>
        rcases ih hrest hnodup.2 with ⟨hnone, hsome⟩
        have hlookup : ∀ key', Json.lookup parsed key' =
            if key = key' then value else Json.lookup rest key' := by
          intro key'
          cases value with
          | none =>
            simp only [hvalue, hrest, Option.some.injEq] at h
            subst h
            split
            . next heq =>
              subst heq
              exact hnone _ hnodup.1
            . rfl
          | some j =>
            simp only [hvalue, hrest, Option.some.injEq] at h
            subst h
            apply lookup_cons
        constructor
        . intro key' hkey'
          rw [List.map_cons, List.mem_cons, not_or] at hkey'
          rw [hlookup, if_neg (Ne.symm hkey'.1)]
          exact hnone key' hkey'.2
        . intro field hfield
          rcases List.mem_cons.mp hfield with rfl | hfield
          . rw [hlookup, if_pos rfl]
            exact hvalue
          . have hne : key ≠ field.1 := by
              intro heq
              apply hnodup.1
              rw [heq]
              exact List.mem_map.mpr ⟨field, hfield, rfl⟩
            rw [hlookup, if_neg hne]
            exact hsome field hfield

theorem parse_object_eq_some {fields : List (String × Schema)} {passthrough : Bool}
    {value result : Option Json} (h : parse (.object fields passthrough) value = some result)
    : ∃ input parsed, value = some (.object input) ∧ parseFields fields input = some parsed
        ∧ result = some (.object
          (if passthrough then parsed ++ undeclared fields input else parsed)) := by
  unfold parse at h
  split at h <;> try contradiction
  next hschema =>
    cases hschema
    rw [Option.map_eq_some_iff] at h
    rcases h with ⟨parsed, hparsed, hresult⟩
    exact ⟨_, parsed, rfl, hparsed, hresult.symm⟩

theorem lookup_of_parse_object {fields : List (String × Schema)} {passthrough : Bool}
    {value result : Option Json} (h : parse (.object fields passthrough) value = some result)
    (hnodup : (fields.map Prod.fst).Nodup)
    : ∃ input out, value = some (.object input) ∧ result = some (.object out)
        ∧ (∀ key, key ∉ fields.map Prod.fst →
          Json.lookup out key = if passthrough then Json.lookup input key else none)
        ∧ ∀ field ∈ fields, parse field.2 (Json.lookup input field.1) =
          some (Json.lookup out field.1) := by
  rcases parse_object_eq_some h with ⟨input, parsed, rfl, hparsed, rfl⟩
  rcases lookup_parseFields hparsed hnodup with ⟨hnone, hsome⟩
  refine ⟨input, _, rfl, rfl, ?_, ?_⟩
  . intro key hkey
    cases passthrough with
    | false => exact hnone key hkey
    | true =>
      rw [if_pos rfl, lookup_append, lookup_undeclared, if_neg hkey, hnone key hkey]
      rfl
  . intro field hfield
    cases passthrough with
    | false => exact hsome field hfield
    | true =>
      have hmem : field.1 ∈ fields.map Prod.fst := List.mem_map_of_mem hfield
      rw [if_pos rfl, lookup_append, lookup_undeclared, if_pos hmem, Option.or_none]
      exact hsome field hfield

theorem parse_enum {values : List String} {value result : Option Json}
    (h : parse (.enum values) value = some result)
    : ∃ s, result = some (.string s) := by
  unfold parse at h
  split at h <;> grind

theorem parse_number {checks : List NumberCheck} {value result : Option Json}
    (h : parse (.number checks) value = some result)
    : ∃ n, result = some (.number n) := by
  unfold parse at h
  split at h <;> grind

theorem run_checks_of_plain {checks : List StringCheck} {s s' : String}
    (hplain : .trim ∉ checks) (h : checks.foldlM StringCheck.run s = some s')
    : s' = s := by
  induction checks with
  | nil =>
    cases h
    rfl
  | cons check checks ih =>
    rw [List.mem_cons, not_or] at hplain
    rw [List.foldlM_cons, Option.bind_eq_bind, Option.bind_eq_some_iff] at h
    rcases h with ⟨s₁, hrun, h⟩
    have : s₁ = s := by
      cases check <;> grind [StringCheck.run]
    subst this
    exact ih hplain.2 h

theorem same_object_iff {fields fields' : List (String × Json)}
    : Json.Same (some (.object fields)) (some (.object fields')) ↔
      ∀ key, Json.Same (Json.lookup fields key) (Json.lookup fields' key) := by
  constructor
  . intro h key
    exact h.get key
  . exact Json.same_object

mutual

theorem same_iff_declared (schema : Schema) {value result : Option Json} (hplain : Plain schema)
    (h : parse schema value = some result)
    : Json.Same result value ↔ Declared schema value := by
  cases schema with
  | string checks =>
    unfold parse at h
    split at h <;> try contradiction
    next heq =>
      cases heq
      rw [Option.map_eq_some_iff] at h
      rcases h with ⟨s', hrun, rfl⟩
      rw [run_checks_of_plain hplain hrun]
      simp [Declared, Json.Same.refl]
  | object fields passthrough =>
    rcases lookup_of_parse_object h hplain.1 with ⟨input, out, rfl, rfl, hrest, hfields⟩
    have ih := sameFields_iff_declared fields hplain.2 hfields
    rw [same_object_iff, Declared, ← ih]
    constructor
    . intro hsame
      constructor
      . cases passthrough with
        | true => exact .inl rfl
        | false =>
          right
          intro key hkey
          have := hsame key
          rw [hrest key hkey] at this
          simpa [Json.walk, eq_comm] using this []
      . intro field _
        exact hsame field.1
    . rintro ⟨hundeclared, hsame⟩ key
      by_cases hkey : key ∈ fields.map Prod.fst
      . rcases List.mem_map.mp hkey with ⟨field, hfield, rfl⟩
        exact hsame field hfield
      . rw [hrest key hkey]
        rcases hundeclared with rfl | hnone
        . exact Json.Same.refl _
        . rw [hnone key hkey]
          split <;> exact Json.Same.refl _
  | optional schema =>
    cases value with
    | none =>
      cases h
      simp [Declared, Json.Same.refl]
    | some j => exact same_iff_declared schema hplain h
  | default => exact absurd hplain (by simp [Plain])
  | _ =>
    unfold parse at h
    split at h <;> simp_all [Declared, Json.Same.refl]

theorem sameFields_iff_declared (fields : List (String × Schema)) {input out : List (String × Json)}
    (hplain : PlainFields fields)
    (h : ∀ field ∈ fields, parse field.2 (Json.lookup input field.1) =
      some (Json.lookup out field.1))
    : (∀ field ∈ fields, Json.Same (Json.lookup out field.1) (Json.lookup input field.1)) ↔
      DeclaredFields fields input := by
  cases fields with
  | nil => simp [DeclaredFields]
  | cons field fields =>
    rw [List.forall_mem_cons] at h ⊢
    exact and_congr (same_iff_declared field.2 hplain.1 h.1)
      (sameFields_iff_declared fields hplain.2 h.2)

end

end Schema

end Zod
