import AiStore.Service.Core

/-! What the gateway accepts as text and as JSON.

The encoded JSON of the source is kept as the value it decodes to, with the keys
of every object sorted; two encodings are equal exactly when these values are.
-/

set_option autoImplicit false

namespace AiStore.Gateway

open Library Library.Txn Failure Service

/-- `[A-Za-z0-9][A-Za-z0-9_.:-]{0,254}`. -/
def opaqueText (text : String) : Bool := match text.toList with
  | [] => false
  | first :: rest => identifierStart first && rest.all (fun c => identifierRest c || c = ':') && rest.length ≤ 254

/-- `_opaque`. -/
def opaqueName (text label : String) : Op Unit := ensure (opaqueText text) (conflictError ("invalid " ++ label))

/-! ## Secrets -/

def lowerOrDigit (c : Char) : Bool := c.isLower || c.isDigit

/-- `([a-z0-9])([A-Z])` to `\1_\2`. -/
def splitCase : List Char → List Char
  | [] => []
  | [c] => [c]
  | c :: next :: rest =>
      if lowerOrDigit c && next.isUpper then c :: '_' :: splitCase (next :: rest) else c :: splitCase (next :: rest)

def splitUnderscore : List Char → List (List Char)
  | [] => [[]]
  | c :: rest => match splitUnderscore rest with
      | [] => [[c]]
      | word :: words => if c = '_' then [] :: word :: words else (c :: word) :: words

def normalizedKey (env : Env) (key : String) : String :=
  env.lower (String.ofList ((splitCase key.toList).map fun c => if c = '-' then '_' else c))

def forbiddenParts : List String := ["secret", "password", "authorization", "token", "credential"]

/-- `secret-ref:[A-Za-z0-9_.:-]{1,240}`. -/
def secretReference : Value → Bool
  | .text text =>
      text.startsWith "secret-ref:" && match text.toList.drop 11 with
        | [] => false
        | rest => rest.all (fun c => identifierRest c || c = ':') && rest.length ≤ 240
  | _ => false

def sensitive (env : Env) (key : String) (child : Value) : Bool :=
  let normalized := normalizedKey env key
  let parts := (splitUnderscore normalized.toList).map String.ofList
  (parts.any (· ∈ forbiddenParts) || ("api" ∈ parts && "key" ∈ parts)) &&
    !(normalized = "secret_ref" && secretReference child)

/-! ## Encoding -/

def escapedSize (c : Char) : Nat :=
  if c ∈ ['"', '\\', '\n', '\r', '\t', '\x08', '\x0c'] then 2 else if c.toNat < 32 then 6 else c.utf8Size

def textSize (text : String) : Nat := 2 + (text.toList.map escapedSize).sum

mutual

/-- Bytes of the encoding. -/
def jsonSize : Value → Nat
  | .none => 4
  | .bool flag => if flag then 4 else 5
  | .int number => (toString number).length
  | .float number => number.length
  | .text text => textSize text
  | .uuid _ => 38
  | .list items => 1 + max 1 (itemsSize items)
  | .dict entries => 1 + max 1 (entriesSize entries)
  | .time _ | .foreign _ => 0

/-- Every item with the comma or bracket behind it. -/
def itemsSize : List Value → Nat
  | [] => 0
  | item :: rest => jsonSize item + 1 + itemsSize rest

def entriesSize : List (String × Value) → Nat
  | [] => 0
  | (key, item) :: rest => textSize key + 1 + jsonSize item + 1 + entriesSize rest

end

def keyLe (first second : String × Value) : Bool :=
  Timestamp.codesLe (first.1.toList.map Char.toNat) (second.1.toList.map Char.toNat)

/-- Whether a name comes first, whatever stands under it. -/
theorem keyLe_names (first second : String) (left right : Value) : keyLe (first, left) (second, right) =
    Timestamp.codesLe (first.toList.map Char.toNat) (second.toList.map Char.toNat) := rfl

mutual

/-- `sort_keys`. -/
def sorted : Value → Value
  | .list items => .list (sortedItems items)
  | .dict entries => .dict ((sortedEntries entries).insertionSort fun first second => keyLe first second)
  | leaf => leaf

def sortedItems : List Value → List Value
  | [] => []
  | item :: rest => sorted item :: sortedItems rest

def sortedEntries : List (String × Value) → List (String × Value)
  | [] => []
  | (key, item) :: rest => (key, sorted item) :: sortedEntries rest

end

/-! The order of the keys does not matter for the size. -/

theorem entriesSize_perm {first second : List (String × Value)} (same : first.Perm second) :
    entriesSize first = entriesSize second := by
  induction same with
  | nil => rfl
  | cons entry _ ih => rw [entriesSize, entriesSize, ih]
  | swap first second rest =>
    simp only [entriesSize]
    omega
  | trans _ _ left right => exact left.trans right

mutual

theorem jsonSize_sorted : ∀ value, jsonSize (sorted value) = jsonSize value
  | .list items => by rw [sorted, jsonSize, jsonSize, itemsSize_sorted items]
  | .dict entries => by
      rw [sorted, jsonSize, jsonSize, entriesSize_perm (List.perm_insertionSort _ _), entriesSize_sorted entries]
  | .none | .bool _ | .int _ | .float _ | .text _ | .uuid _ | .time _ | .foreign _ => rfl

theorem itemsSize_sorted : ∀ items, itemsSize (sortedItems items) = itemsSize items
  | [] => rfl
  | item :: rest => by rw [sortedItems, itemsSize, itemsSize, jsonSize_sorted item, itemsSize_sorted rest]

theorem entriesSize_sorted : ∀ entries, entriesSize (sortedEntries entries) = entriesSize entries
  | [] => rfl
  | (key, item) :: rest => by
      rw [sortedEntries, entriesSize, entriesSize, jsonSize_sorted item, entriesSize_sorted rest]

end
mutual

def walk (env : Env) (label : String) : Value → Except Failure Unit
  | .list items => walkItems env label items
  | .dict entries => walkEntries env label entries
  | .time _ | .foreign _ => .error (conflictError (label ++ " must be JSON"))
  | _ => .ok ()

def walkItems (env : Env) (label : String) : List Value → Except Failure Unit
  | [] => .ok ()
  | item :: rest => do
      walk env label item
      walkItems env label rest

def walkEntries (env : Env) (label : String) : List (String × Value) → Except Failure Unit
  | [] => .ok ()
  | (key, item) :: rest =>
      if sensitive env key item then .error (conflictError ("raw secret in " ++ label))
      else do
        walk env label item
        walkEntries env label rest

end

/-- `_json`. -/
def encode (env : Env) (value : Value) (label : String) : Op Value := do
  ofExcept (walk env label value)
  ensure value.strictJson (conflictError (label ++ " must be finite JSON"))
  ensure (jsonSize value ≤ 64 * 1024) (conflictError (label ++ " too large"))
  pure (sorted value)

/-- `_digest`. -/
def digestOf (env : Env) (value : Value) : Op String := do
  let encoded ← encode env value "input"
  pure (env.digest encoded)

/-! ## Returning runs -/

section

variable {env : Env} {s t : Session Store} {value encoded : Value} {label : String}

/-- What the gateway accepts as JSON under a label. -/
def Encodable (env : Env) (value : Value) (label : String) : Prop :=
  walk env label value = .ok () ∧ value.strictJson = true ∧ jsonSize value ≤ 64 * 1024

@[simp] theorem opaqueName_eq_ok {text : String} {u : Unit} :
    (opaqueName text label).run s = (.ok u, t) ↔ opaqueText text = true ∧ t = s :=
  ensure_eq_ok _ _ _ _ _

@[simp] theorem encode_eq_ok :
    (encode env value label).run s = (.ok encoded, t) ↔ Encodable env value label ∧ encoded = sorted value ∧ t = s := by
  simp only [encode, bind_eq_ok, ofExcept_eq_ok, ensure_eq_ok, pure_eq_ok, Encodable]
  constructor
  · rintro ⟨_, _, ⟨walked, rfl⟩, _, _, ⟨finite, rfl⟩, _, _, ⟨small, rfl⟩, rfl, rfl⟩
    exact ⟨⟨walked, finite, small⟩, rfl, rfl⟩
  · rintro ⟨⟨walked, finite, small⟩, rfl, rfl⟩
    exact ⟨(), _, ⟨walked, rfl⟩, (), _, ⟨finite, rfl⟩, (), _, ⟨small, rfl⟩, rfl, rfl⟩

@[simp] theorem digestOf_eq_ok {digest : String} :
    (digestOf env value).run s = (.ok digest, t) ↔
      Encodable env value "input" ∧ digest = env.digest (sorted value) ∧ t = s := by
  simp only [digestOf, bind_eq_ok, encode_eq_ok, pure_eq_ok]
  constructor
  · rintro ⟨_, _, ⟨encodable, rfl, rfl⟩, rfl, rfl⟩
    exact ⟨encodable, rfl, rfl⟩
  · rintro ⟨encodable, rfl, rfl⟩
    exact ⟨_, _, ⟨encodable, rfl, rfl⟩, rfl, rfl⟩

theorem keeps_encode {υ : Type} {view : Store → υ} (value : Value) (label : String) : Keeps view (encode env value label) :=
  (keeps_ofExcept _).bind fun _ => (keeps_ensure _ _).bind fun _ => (keeps_ensure _ _).bind fun _ => keeps_pure _

theorem keeps_digestOf {υ : Type} {view : Store → υ} (value : Value) : Keeps view (digestOf env value) :=
  (keeps_encode _ _).bind fun _ => keeps_pure _

end

end AiStore.Gateway
