import BankingApi.Numeric.Binary64

/-!
This module contains JSON values as `JSON.parse` returns them.
-/

inductive Json where
  | null
  | boolean (b : Bool)
  | number (n : Binary64)
  -- A numeral that is too large for a number parses to an infinity.
  | infinity (negative : Bool)
  | string (s : String)
  | array (items : List Json)
  -- If a key occurs twice, the first occurrence counts.
  | object (fields : List (String × Json))

namespace Json

mutual

def beq (j j' : Json) : Bool :=
  match j, j' with
  | .null, .null => true
  | .boolean b, .boolean b' => b = b'
  | .number n, .number n' => n = n'
  | .infinity b, .infinity b' => b = b'
  | .string s, .string s' => s = s'
  | .array items, .array items' => beqItems items items'
  | .object fields, .object fields' => beqFields fields fields'
  | _, _ => false

def beqItems (items items' : List Json) : Bool :=
  match items, items' with
  | [], [] => true
  | j :: items, j' :: items' => beq j j' && beqItems items items'
  | _, _ => false

def beqFields (fields fields' : List (String × Json)) : Bool :=
  match fields, fields' with
  | [], [] => true
  | (k, j) :: fields, (k', j') :: fields' => k = k' && beq j j' && beqFields fields fields'
  | _, _ => false

end

mutual

theorem beq_iff (j j' : Json) : beq j j' = true ↔ j = j' := by
  cases j <;> cases j' <;> simp [beq, beqItems_iff, beqFields_iff]

theorem beqItems_iff (items items' : List Json) : beqItems items items' = true ↔ items = items' := by
  cases items <;> cases items' <;> simp [beqItems, beq_iff, beqItems_iff]

theorem beqFields_iff (fields fields' : List (String × Json))
    : beqFields fields fields' = true ↔ fields = fields' := by
  cases fields with
  | nil => cases fields' <;> simp [beqFields]
  | cons f fields =>
    cases fields' with
    | nil => simp [beqFields]
    | cons f' fields' => simp [beqFields, beq_iff, beqFields_iff, Prod.ext_iff, and_assoc]

end

instance : DecidableEq Json :=
  fun j j' => decidable_of_iff (beq j j' = true) (beq_iff j j')

-- `value ? .. : ..`
def truthy (j : Json) : Bool :=
  match j with
  | .null => false
  | .boolean b => b
  | .number n => n.val ≠ 0
  | .string s => s ≠ ""
  | _ => true

def lookup (fields : List (String × Json)) (key : String) : Option Json :=
  (fields.find? (·.1 = key)).map Prod.snd

-- `value.key` for a key that no prototype has: `undefined` is `none`.
def get? (j : Json) (key : String) : Option Json :=
  match j with
  | .object fields => lookup fields key
  | _ => none

def string? (j : Json) : Option String :=
  match j with
  | .string s => some s
  | _ => none

def number? (j : Json) : Option Binary64 :=
  match j with
  | .number n => some n
  | _ => none

def get (j : Option Json) (key : String) : Option Json :=
  j.bind (·.get? key)

-- The white space and line terminators that `trim` and `Number` drop.
def isSpace (c : Char) : Bool :=
  c.toNat ∈ [0x9, 0xa, 0xb, 0xc, 0xd, 0x20, 0xa0, 0x1680, 0x2028, 0x2029, 0x202f, 0x205f, 0x3000, 0xfeff]
    ∨ 0x2000 ≤ c.toNat ∧ c.toNat ≤ 0x200a

def trim (s : String) : String :=
  .ofList ((s.toList.dropWhile isSpace).reverse.dropWhile isSpace).reverse

-- `s.length` counts UTF-16 code units.
def length (s : String) : ℕ :=
  (s.toList.map (fun c => if c.toNat < 0x10000 then 1 else 2)).sum

def digit? (base : ℕ) (c : Char) : Option ℕ :=
  let d :=
    if c.isDigit then
      c.toNat - 48
    else if c.isAlpha then
      c.toLower.toNat - 87
    else
      base
  if d < base then some d else none

def natural? (base : ℕ) (cs : List Char) : Option ℕ :=
  if cs = [] then
    none
  else
    cs.foldlM (fun n c => (digit? base c).map (base * n + ·)) 0

def exponent? (cs : List Char) : Option ℤ :=
  match cs with
  | [] => some 0
  | _ :: '-' :: cs => (natural? 10 cs).map (fun n => -n)
  | _ :: '+' :: cs => (natural? 10 cs).map (↑·)
  | _ :: cs => (natural? 10 cs).map (↑·)

-- digits with an optional fraction and an optional exponent
def unsigned? (cs : List Char) : Option ℚ :=
  let (mantissa, exponent) := cs.span (fun c => c ≠ 'e' ∧ c ≠ 'E')
  let (whole, fraction) := mantissa.span (· ≠ '.')
  match natural? 10 (whole ++ fraction.drop 1), exponent? exponent with
  | some n, some e => some (n * 10 ^ (e - (fraction.drop 1).length))
  | _, _ => none

def decimal? (cs : List Char) : Option ℚ :=
  match cs with
  | '-' :: cs => (unsigned? cs).map (- ·)
  | '+' :: cs => unsigned? cs
  | cs => unsigned? cs

-- `Prisma.Decimal` reads a numeral with single underscores between its digits, `Number` does not.
def withoutSeparators (cs : List Char) : List Char :=
  match cs with
  | c :: '_' :: c' :: cs =>
    if c.isDigit ∧ c'.isDigit then
      c :: withoutSeparators (c' :: cs)
    else
      c :: '_' :: withoutSeparators (c' :: cs)
  | c :: cs => c :: withoutSeparators cs
  | [] => []

def separated? (cs : List Char) : Option ℚ :=
  let (mantissa, exponent) := cs.span (fun c => c ≠ 'e' ∧ c ≠ 'E')
  decimal? (withoutSeparators mantissa ++ exponent)

-- What `Number(value)` is.
inductive Coerced where
  | nan
  | infinite (negative : Bool)
  | finite (q : ℚ)

def Coerced.ofRat? (q : Option ℚ) : Coerced :=
  match q with
  | none => .nan
  | some q =>
    if |binary64.round q| < 2 ^ 1024 then
      .finite (binary64.round q)
    else
      .infinite (q < 0)

-- `value <= 0`
def Coerced.notPositive (n : Coerced) : Bool :=
  match n with
  | .nan => false
  | .infinite negative => negative
  | .finite q => q ≤ 0

def numberOfString (s : String) : Coerced :=
  match (trim s).toList with
  | [] => .finite 0
  | '0' :: 'x' :: cs => .ofRat? ((natural? 16 cs).map (↑·))
  | '0' :: 'X' :: cs => .ofRat? ((natural? 16 cs).map (↑·))
  | '0' :: 'o' :: cs => .ofRat? ((natural? 8 cs).map (↑·))
  | '0' :: 'O' :: cs => .ofRat? ((natural? 8 cs).map (↑·))
  | '0' :: 'b' :: cs => .ofRat? ((natural? 2 cs).map (↑·))
  | '0' :: 'B' :: cs => .ofRat? ((natural? 2 cs).map (↑·))
  | cs =>
    if cs = "Infinity".toList ∨ cs = "+Infinity".toList then
      .infinite false
    else if cs = "-Infinity".toList then
      .infinite true
    else
      .ofRat? (decimal? cs)

-- An array is a number if its only item is one.
def toNumber (j : Json) : Coerced :=
  match j with
  | .null => .finite 0
  | .boolean b => .finite (if b then 1 else 0)
  | .number n => .finite n.val
  | .infinity negative => .infinite negative
  | .string s => numberOfString s
  | .array [] => .finite 0
  | .array [.boolean _] => .nan
  | .array [j] => toNumber j
  | .array _ => .nan
  | .object _ => .nan

def walk (j : Option Json) (path : List String) : Option Json :=
  path.foldl get j

def head (j : Json) : Json :=
  match j with
  | .object _ => .object []
  | j => j

/--
The same value up to the order in which objects list their keys.
-/
def Same (j j' : Option Json) : Prop :=
  ∀ path, (walk j path).map head = (walk j' path).map head

theorem Same.refl (j : Option Json) : Same j j := fun _ => rfl

theorem Same.get {j j' : Option Json} (h : Same j j') (key : String)
    : Same (get j key) (get j' key) :=
  fun path => h (key :: path)

theorem same_object {fields fields' : List (String × Json)}
    (h : ∀ key, Same (lookup fields key) (lookup fields' key))
    : Same (some (.object fields)) (some (.object fields')) := by
  intro path
  cases path with
  | nil => rfl
  | cons key path => exact h key path

theorem same_none_iff {j : Option Json} : Same j none ↔ j = none := by
  constructor
  . intro h
    simpa [walk] using h []
  . rintro rfl
    exact Same.refl none

mutual

-- The keys of all objects in a value.
def keys (j : Json) : List String :=
  match j with
  | .array items => keysItems items
  | .object fields => keysFields fields
  | _ => []

def keysItems (items : List Json) : List String :=
  match items with
  | [] => []
  | j :: items => keys j ++ keysItems items

def keysFields (fields : List (String × Json)) : List String :=
  match fields with
  | [] => []
  | (key, j) :: fields => key :: keys j ++ keysFields fields

end

end Json
