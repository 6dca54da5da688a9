import Mathlib.Data.List.Basic
import AiStore.Library.Lines

/-! Texts as the components of a query, and queries as texts.

Each byte of a text becomes one character, or a percent sign and two digits. The
codes of two bytes never run into each other, so a text can be read back byte for
byte, and a query pair for pair.
-/

set_option autoImplicit false

namespace AiStore.Library.Urlencode

/-- The bytes of a text. -/
def utf8 (text : String) : List UInt8 := text.toList.flatMap String.utf8EncodeChar

theorem utf8_inj {first second : String} (same : utf8 first = utf8 second) : first = second := by
  have encoded : first.toList.utf8Encode = second.toList.utf8Encode := by
    rw [List.utf8Encode, List.utf8Encode]
    exact congrArg List.toByteArray same
  rw [String.utf8Encode_toList, String.utf8Encode_toList] at encoded
  exact String.toByteArray_inj.mp encoded

/-- What `quote` leaves alone: `A-Z`, `a-z`, `0-9` and `_.-~`. -/
def safe (byte : UInt8) : Bool :=
  65 ≤ byte ∧ byte ≤ 90 ∨ 97 ≤ byte ∧ byte ≤ 122 ∨ 48 ≤ byte ∧ byte ≤ 57 ∨ byte ∈ [95, 46, 45, 126]

def hexDigit (number : Nat) : Char := Char.ofNat (if number < 10 then 48 + number else 55 + number)

def hexValue (digit : Char) : Nat := if digit.toNat < 58 then digit.toNat - 48 else digit.toNat - 55

/-- One byte of `quote_plus`. -/
def quoteByte (byte : UInt8) : Text :=
  if byte = 32 then ['+']
  else if safe byte then [Char.ofNat byte.toNat]
  else ['%', hexDigit (byte.toNat / 16), hexDigit (byte.toNat % 16)]

/-- The first byte of a quoted text, and what follows it. -/
def readByte : Text → Option (UInt8 × Text)
  | [] => none
  | '+' :: rest => some (32, rest)
  | '%' :: high :: low :: rest => some (UInt8.ofNat (16 * hexValue high + hexValue low), rest)
  | c :: rest => some (UInt8.ofNat c.toNat, rest)

theorem hexValue_hexDigit {number : Nat} (small : number < 16) : hexValue (hexDigit number) = number := by
  have each : ∀ digit : Fin 16, hexValue (hexDigit digit) = digit := by decide
  exact each ⟨number, small⟩

theorem toNat_ofNat {code : Nat} (small : code < 256) : (Char.ofNat code).toNat = code := by
  have each : ∀ number : Fin 256, (Char.ofNat number).toNat = number := by decide +kernel
  exact each ⟨code, small⟩

/-- A byte that is left alone is not taken for an escape. -/
theorem safe_plain {byte : UInt8} (plain : safe byte = true) :
    (Char.ofNat byte.toNat).toNat = byte.toNat ∧ Char.ofNat byte.toNat ≠ '+' ∧ Char.ofNat byte.toNat ≠ '%' := by
  have code : (Char.ofNat byte.toNat).toNat = byte.toNat := toNat_ofNat byte.toNat_lt
  have outside : byte.toNat ≠ 43 ∧ byte.toNat ≠ 37 := by
    constructor <;>
      · intro taken
        rw [← UInt8.ofNat_toNat (x := byte), taken] at plain
        exact absurd plain (by decide)
  refine ⟨code, fun plus => ?_, fun percent => ?_⟩
  · exact outside.1 (by rw [← code, plus]; rfl)
  · exact outside.2 (by rw [← code, percent]; rfl)

theorem readByte_quoteByte (byte : UInt8) (rest : Text) : readByte (quoteByte byte ++ rest) = some (byte, rest) := by
  unfold quoteByte
  split
  · next blank =>
    rw [blank]
    rfl
  · split
    · next plain =>
      obtain ⟨code, plus, percent⟩ := safe_plain plain
      rw [List.singleton_append]
      unfold readByte
      split
      · next empty => cases empty
      · next _ same =>
        exact absurd (List.cons.inj same).1 plus
      · next _ _ _ same =>
        exact absurd (List.cons.inj same).1 percent
      · next c others _ _ same =>
        rw [← (List.cons.inj same).1, ← (List.cons.inj same).2, code, UInt8.ofNat_toNat]
    · have small : byte.toNat < 256 := byte.toNat_lt
      change some (UInt8.ofNat (16 * hexValue (hexDigit (byte.toNat / 16)) + hexValue (hexDigit (byte.toNat % 16))), rest) = _
      rw [hexValue_hexDigit (by omega), hexValue_hexDigit (Nat.mod_lt _ (by decide)), Nat.div_add_mod, UInt8.ofNat_toNat]

theorem quoteByte_ne_nil (byte : UInt8) : quoteByte byte ≠ [] := by
  unfold quoteByte
  split
  · exact List.cons_ne_nil _ _
  · split <;> exact List.cons_ne_nil _ _

theorem quoteBytes_inj {first second : List UInt8} (same : first.flatMap quoteByte = second.flatMap quoteByte) :
    first = second := by
  induction first generalizing second with
  | nil =>
    cases second with
    | nil => rfl
    | cons byte rest => exact absurd (List.append_eq_nil_iff.mp same.symm).1 (quoteByte_ne_nil byte)
  | cons byte rest ih =>
    cases second with
    | nil => exact absurd (List.append_eq_nil_iff.mp same).1 (quoteByte_ne_nil byte)
    | cons other others =>
      have read := congrArg readByte same
      rw [List.flatMap_cons, List.flatMap_cons, readByte_quoteByte, readByte_quoteByte] at read
      obtain ⟨bytes, rests⟩ := Prod.mk.inj (Option.some.inj read)
      rw [bytes, ih rests]

/-- `quote_plus`. -/
def quotePlus (text : String) : Text := (utf8 text).flatMap quoteByte

theorem quotePlus_inj {first second : String} (same : quotePlus first = quotePlus second) : first = second :=
  utf8_inj (quoteBytes_inj same)

/-- What a quoted text is made of: the characters that `quote` leaves alone, and the two marks. -/
def urlSafe (c : Char) : Bool := c = '+' ∨ c = '%' ∨ c.isAlphanum ∨ c ∈ ['_', '.', '-', '~']

theorem urlSafe_hexDigit {number : Nat} (small : number < 16) : urlSafe (hexDigit number) = true := by
  have each : ∀ digit : Fin 16, urlSafe (hexDigit digit) = true := by decide
  exact each ⟨number, small⟩

theorem urlSafe_of_safe {byte : UInt8} (plain : safe byte = true) : urlSafe (Char.ofNat byte.toNat) = true := by
  have each : ∀ number : Fin 256, safe (UInt8.ofNat number) = true → urlSafe (Char.ofNat number) = true := by
    decide +kernel
  exact each ⟨byte.toNat, byte.toNat_lt⟩ (by rw [UInt8.ofNat_toNat]; exact plain)

theorem quoteByte_urlSafe (byte : UInt8) : ∀ c ∈ quoteByte byte, urlSafe c = true := by
  have small : byte.toNat < 256 := byte.toNat_lt
  intro c member
  unfold quoteByte at member
  split at member
  · rw [List.mem_singleton.mp member]
    rfl
  · split at member
    · next plain =>
      rw [List.mem_singleton.mp member]
      exact urlSafe_of_safe plain
    · simp only [List.mem_cons, List.not_mem_nil, or_false] at member
      rcases member with rfl | rfl | rfl
      · rfl
      · exact urlSafe_hexDigit (by omega)
      · exact urlSafe_hexDigit (Nat.mod_lt _ (by decide))

theorem quotePlus_urlSafe {text : String} {c : Char} (member : c ∈ quotePlus text) : urlSafe c = true := by
  obtain ⟨byte, _, inside⟩ := List.mem_flatMap.mp member
  exact quoteByte_urlSafe byte c inside

/-! ## Queries -/

def pair (entry : String × String) : Text := quotePlus entry.1 ++ '=' :: quotePlus entry.2

/-- `urlencode`. -/
def urlencode : List (String × String) → Text
  | [] => []
  | [entry] => pair entry
  | entry :: next :: rest => pair entry ++ '&' :: urlencode (next :: rest)

theorem pair_inj {first second : String × String} (same : pair first = pair second) : first = second := by
  obtain ⟨names, values⟩ := parted_inj
    (fun member => absurd (quotePlus_urlSafe member) (by decide))
    (fun member => absurd (quotePlus_urlSafe member) (by decide)) same
  exact Prod.ext (quotePlus_inj names) (quotePlus_inj values)

theorem pair_ne_nil (entry : String × String) : pair entry ≠ [] :=
  List.append_ne_nil_of_right_ne_nil _ (List.cons_ne_nil _ _)

theorem not_mem_pair {entry : String × String} : '&' ∉ pair entry := by
  intro member
  rcases List.mem_append.mp member with name | value
  · exact absurd (quotePlus_urlSafe name) (by decide)
  · rcases List.mem_cons.mp value with mark | value
    · exact absurd mark (by decide)
    · exact absurd (quotePlus_urlSafe value) (by decide)

theorem urlencode_ne_nil (entry : String × String) (rest : List (String × String)) : urlencode (entry :: rest) ≠ [] := by
  cases rest with
  | nil => exact pair_ne_nil entry
  | cons next others => exact List.append_ne_nil_of_left_ne_nil (pair_ne_nil entry) _

/-- A query is read back pair for pair, in its order. -/
theorem urlencode_inj {first second : List (String × String)} (same : urlencode first = urlencode second) :
    first = second := by
  induction first generalizing second with
  | nil =>
    cases second with
    | nil => rfl
    | cons entry rest => exact absurd same.symm (urlencode_ne_nil entry rest)
  | cons entry rest ih =>
    cases second with
    | nil => exact absurd same (urlencode_ne_nil entry rest)
    | cons other others =>
      cases rest with
      | nil =>
        cases others with
        | nil => rw [pair_inj same]
        | cons next more =>
          -- the text of one pair holds no ampersand
          have marked : '&' ∈ pair entry := by
            rw [show pair entry = _ from same]
            exact List.mem_append_right _ List.mem_cons_self
          exact absurd marked not_mem_pair
      | cons next more =>
        cases others with
        | nil =>
          have marked : '&' ∈ pair other := by
            rw [← show _ = pair other from same]
            exact List.mem_append_right _ List.mem_cons_self
          exact absurd marked not_mem_pair
        | cons following most =>
          obtain ⟨heads, tails⟩ := parted_inj not_mem_pair not_mem_pair same
          rw [pair_inj heads, ih tails]

example : String.ofList (urlencode [("a b", "1+1"), ("c", "~/")]) = "a+b=1%2B1&c=~%2F" := by decide

end AiStore.Library.Urlencode
