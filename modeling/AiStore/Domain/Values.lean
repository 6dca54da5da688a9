import AiStore.Library.Timestamp

/-! Errors and the dynamically typed values that callers pass and rows keep. -/

set_option autoImplicit false

namespace AiStore

export Library (Timestamp)

/-- The exception class: those of `errors.py`, then the built-in ones the code lets through. -/
inductive ErrorKind where
  | authorization
  | tenantBoundary
  | conflict
  | notFound
  | value
  | type
  | key
  | timeout
  | overflow
  | integrity
  deriving DecidableEq, Repr

structure Failure where
  kind : ErrorKind
  message : String
  deriving DecidableEq, Repr

namespace Failure

def authorizationError (message : String) : Failure := ⟨.authorization, message⟩
def tenantBoundaryError (message : String) : Failure := ⟨.tenantBoundary, message⟩
def conflictError (message : String) : Failure := ⟨.conflict, message⟩
def notFoundError (message : String) : Failure := ⟨.notFound, message⟩
def valueError (message : String) : Failure := ⟨.value, message⟩
def typeError (message : String) : Failure := ⟨.type, message⟩
def keyError (message : String) : Failure := ⟨.key, message⟩
def timeoutError (message : String) : Failure := ⟨.timeout, message⟩
def overflowError (message : String) : Failure := ⟨.overflow, message⟩
/-- `sqlite3.IntegrityError`. -/
def integrityError (message : String) : Failure := ⟨.integrity, message⟩

end Failure

/-- A generated identifier; its text is the UUID drawn at that position. -/
abbrev Uuid := Nat

inductive Value where
  | none
  | bool : Bool → Value
  | int : Int → Value
  | float : String → Value
  | text : String → Value
  | uuid : Uuid → Value
  | time : Timestamp → Value
  | list : List Value → Value
  | dict : List (String × Value) → Value
  /-- Anything JSON cannot express, under its type's name. -/
  | foreign : String → Value

abbrev Mapping := List (String × Value)

namespace Value

mutual

def decEq : (first second : Value) → Decidable (first = second)
  | .none, .none => isTrue rfl
  | .bool a, .bool b => decidable_of_iff (a = b) (by simp)
  | .int a, .int b => decidable_of_iff (a = b) (by simp)
  | .float a, .float b => decidable_of_iff (a = b) (by simp)
  | .text a, .text b => decidable_of_iff (a = b) (by simp)
  | .uuid a, .uuid b => decidable_of_iff (a = b) (by simp)
  | .time a, .time b => decidable_of_iff (a = b) (by simp)
  | .list a, .list b => @decidable_of_iff _ (a = b) (by simp) (decEqList a b)
  | .dict a, .dict b => @decidable_of_iff _ (a = b) (by simp) (decEqMapping a b)
  | .foreign a, .foreign b => decidable_of_iff (a = b) (by simp)
  | .none, .bool _ | .none, .int _ | .none, .float _ | .none, .text _ | .none, .uuid _ | .none, .time _
  | .none, .list _ | .none, .dict _ | .none, .foreign _ => isFalse nofun
  | .bool _, .none | .bool _, .int _ | .bool _, .float _ | .bool _, .text _ | .bool _, .uuid _
  | .bool _, .time _ | .bool _, .list _ | .bool _, .dict _ | .bool _, .foreign _ => isFalse nofun
  | .int _, .none | .int _, .bool _ | .int _, .float _ | .int _, .text _ | .int _, .uuid _
  | .int _, .time _ | .int _, .list _ | .int _, .dict _ | .int _, .foreign _ => isFalse nofun
  | .float _, .none | .float _, .bool _ | .float _, .int _ | .float _, .text _ | .float _, .uuid _
  | .float _, .time _ | .float _, .list _ | .float _, .dict _ | .float _, .foreign _ => isFalse nofun
  | .text _, .none | .text _, .bool _ | .text _, .int _ | .text _, .float _ | .text _, .uuid _
  | .text _, .time _ | .text _, .list _ | .text _, .dict _ | .text _, .foreign _ => isFalse nofun
  | .uuid _, .none | .uuid _, .bool _ | .uuid _, .int _ | .uuid _, .float _ | .uuid _, .text _
  | .uuid _, .time _ | .uuid _, .list _ | .uuid _, .dict _ | .uuid _, .foreign _ => isFalse nofun
  | .time _, .none | .time _, .bool _ | .time _, .int _ | .time _, .float _ | .time _, .text _
  | .time _, .uuid _ | .time _, .list _ | .time _, .dict _ | .time _, .foreign _ => isFalse nofun
  | .list _, .none | .list _, .bool _ | .list _, .int _ | .list _, .float _ | .list _, .text _
  | .list _, .uuid _ | .list _, .time _ | .list _, .dict _ | .list _, .foreign _ => isFalse nofun
  | .dict _, .none | .dict _, .bool _ | .dict _, .int _ | .dict _, .float _ | .dict _, .text _
  | .dict _, .uuid _ | .dict _, .time _ | .dict _, .list _ | .dict _, .foreign _ => isFalse nofun
  | .foreign _, .none | .foreign _, .bool _ | .foreign _, .int _ | .foreign _, .float _ | .foreign _, .text _
  | .foreign _, .uuid _ | .foreign _, .time _ | .foreign _, .list _ | .foreign _, .dict _ => isFalse nofun

def decEqList : (first second : List Value) → Decidable (first = second)
  | [], [] => isTrue rfl
  | [], _ :: _ => isFalse nofun
  | _ :: _, [] => isFalse nofun
  | a :: as, b :: bs =>
      have := decEq a b
      have := decEqList as bs
      decidable_of_iff (a = b ∧ as = bs) (by simp)

def decEqMapping : (first second : List (String × Value)) → Decidable (first = second)
  | [], [] => isTrue rfl
  | [], _ :: _ => isFalse nofun
  | _ :: _, [] => isFalse nofun
  | (key, a) :: as, (other, b) :: bs =>
      have := decEq a b
      have := decEqMapping as bs
      decidable_of_iff (key = other ∧ a = b ∧ as = bs) (by simp [and_assoc])

end

instance : DecidableEq Value := decEq

mutual

/-- Every value below, containers apart, is admitted. -/
def everyLeaf (holds : Value → Bool) : Value → Bool
  | .list items => everyLeafList holds items
  | .dict entries => everyLeafMapping holds entries
  | leaf => holds leaf

def everyLeafList (holds : Value → Bool) : List Value → Bool
  | [] => true
  | item :: rest => everyLeaf holds item && everyLeafList holds rest

def everyLeafMapping (holds : Value → Bool) : List (String × Value) → Bool
  | [] => true
  | (_, item) :: rest => everyLeaf holds item && everyLeafMapping holds rest

end

/-- Whether `json.dumps` accepts the value. -/
def serialisable : Value → Bool := everyLeaf fun
  | .time .. | .foreign .. => false
  | _ => true

/-- Whether `_strict_intent_digest` accepts the value. -/
def strictJson : Value → Bool := everyLeaf fun
  | .time .. | .foreign .. => false
  | .float number => number ∉ ["NaN", "Infinity", "-Infinity"]
  | _ => true

def serialisableMapping (entries : Mapping) : Bool := serialisable (.dict entries)

end Value

/-- `mapping.get(key)`. -/
def Mapping.get? (mapping : Mapping) (key : String) : Option Value :=
  (mapping.find? fun entry => entry.1 = key).map Prod.snd

end AiStore
