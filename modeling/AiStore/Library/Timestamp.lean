import Mathlib.Algebra.Order.Ring.Int
import Mathlib.Algebra.Order.Ring.Nat

/-! Zone-aware timestamps and the order of their ISO texts.

Two timestamps compare by instant. A store that keeps them as ISO texts
compares the texts instead: the wall-clock second first, because its fields
are padded, then the code points of the fraction and the zone. The orders agree
within one zone.
-/

set_option autoImplicit false

namespace AiStore.Library

/-- Microseconds since the epoch, with the zone's offset in microseconds. -/
@[ext] structure Timestamp where
  instant : Int
  offset : Int
  deriving DecidableEq, Repr, Inhabited

namespace Timestamp

instance : Preorder Timestamp where
  le first second := first.instant ≤ second.instant
  lt first second := first.instant < second.instant
  le_refl time := Int.le_refl time.instant
  le_trans _ _ _ first second := Int.le_trans first second
  lt_iff_le_not_ge _ _ := Int.lt_iff_le_and_not_ge

/-- Seconds since the epoch, in UTC. -/
def utc (seconds : Int) : Timestamp := ⟨1000000 * seconds, 0⟩

theorem le_iff (first second : Timestamp) : first ≤ second ↔ first.instant ≤ second.instant := Iff.rfl

theorem lt_iff (first second : Timestamp) : first < second ↔ first.instant < second.instant := Iff.rfl

instance : DecidableLE Timestamp := fun first second => Int.decLe first.instant second.instant

instance : DecidableLT Timestamp := fun first second => Int.decLt first.instant second.instant

theorem not_lt (first second : Timestamp) : ¬ first < second ↔ second ≤ first := by
  rw [lt_iff, le_iff]
  omega

theorem not_le (first second : Timestamp) : ¬ first ≤ second ↔ second < first := by
  rw [lt_iff, le_iff]
  omega

def addSeconds (time : Timestamp) (seconds : Int) : Timestamp :=
  { time with instant := time.instant + 1000000 * seconds }

theorem lt_addSeconds (time : Timestamp) {seconds : Int} (positive : 0 < seconds) :
    time < time.addSeconds seconds := by
  rw [lt_iff]
  simp only [addSeconds]
  omega

theorem addSeconds_inj (time : Timestamp) (first second : Int) :
    time.addSeconds first = time.addSeconds second ↔ first = second := by
  constructor
  · intro same
    have := congrArg instant same
    simp only [addSeconds] at this
    omega
  · exact fun same => same ▸ rfl

/-! ## Texts -/

/-- Texts compare by their first different code point, and a prefix comes first. -/
def codesLe : List Nat → List Nat → Bool
  | [], _ => true
  | _ :: _, [] => false
  | first :: rest, other :: others => first < other || first = other && codesLe rest others

theorem codesLe_cons (first second : Nat) (rest others : List Nat) :
    codesLe (first :: rest) (second :: others) = true ↔ first < second ∨ first = second ∧ codesLe rest others = true := by
  simp [codesLe]

theorem codesLe_total (first second : List Nat) : codesLe first second = true ∨ codesLe second first = true := by
  induction first generalizing second with
  | nil => exact .inl rfl
  | cons code rest ih =>
    cases second with
    | nil => exact .inr rfl
    | cons other others =>
      rw [codesLe_cons, codesLe_cons]
      rcases Nat.lt_trichotomy code other with less | rfl | more
      · exact .inl (.inl less)
      · exact (ih others).imp (fun le => .inr ⟨rfl, le⟩) fun le => .inr ⟨rfl, le⟩
      · exact .inr (.inl more)

theorem codesLe_trans {first second third : List Nat} (left : codesLe first second = true)
    (right : codesLe second third = true) : codesLe first third = true := by
  induction first generalizing second third with
  | nil => rfl
  | cons code rest ih =>
    cases second with
    | nil => cases left
    | cons other others =>
      cases third with
      | nil => cases right
      | cons last more =>
        rw [codesLe_cons] at left right ⊢
        rcases left with left | ⟨rfl, left⟩ <;> rcases right with right | ⟨rfl, right⟩
        · exact .inl (left.trans right)
        · exact .inl left
        · exact .inl right
        · exact .inr ⟨rfl, ih left right⟩

/-- The last `width` decimal digits, as code points. -/
def digits : Nat → Nat → List Nat
  | 0, _ => []
  | width + 1, number => ('0'.toNat + number / 10 ^ width % 10) :: digits width number

theorem digits_append_le (width first second : Nat) (suffix : List Nat) :
    codesLe (digits width first ++ suffix) (digits width second ++ suffix) = true ↔
      first % 10 ^ width ≤ second % 10 ^ width := by
  induction width with
  | zero =>
    have same : codesLe suffix suffix = true := by
      induction suffix with
      | nil => rfl
      | cons code rest ih => simp [codesLe, ih]
    simp [digits, Nat.mod_one, same]
  | succ width ih =>
    have first_rest : first % 10 ^ width < 10 ^ width := Nat.mod_lt _ (Nat.pow_pos (by decide))
    have second_rest : second % 10 ^ width < 10 ^ width := Nat.mod_lt _ (Nat.pow_pos (by decide))
    simp only [digits, List.cons_append, codesLe_cons, ih, Nat.mod_pow_succ]
    generalize first / 10 ^ width % 10 = a
    generalize second / 10 ^ width % 10 = b
    rcases lt_trichotomy a b with less | rfl | more
    · have := Nat.mul_le_mul_left (10 ^ width) less
      rw [Nat.mul_succ] at this
      omega
    · omega
    · have := Nat.mul_le_mul_left (10 ^ width) more
      rw [Nat.mul_succ] at this
      omega

/-- A zero fraction is left out. -/
def fraction (micros : Nat) : List Nat :=
  if micros = 0 then [] else '.'.toNat :: digits 6 micros

def zoneSign (offset : Int) : Nat := if offset < 0 then '-'.toNat else '+'.toNat

/-- Hours and minutes, then seconds and a fraction where the zone has them. -/
def zoneDigits (offset : Int) : List Nat :=
  let size := offset.natAbs
  let seconds := size / 1000000
  digits 2 (seconds / 3600) ++ ':'.toNat :: digits 2 (seconds / 60 % 60) ++
    (if size % 60000000 = 0 then [] else ':'.toNat :: digits 2 (seconds % 60)) ++
    fraction (size % 1000000)

def zone (offset : Int) : List Nat := zoneSign offset :: zoneDigits offset

def wallSecond (time : Timestamp) : Int := (time.instant + time.offset) / 1000000

def wallMicros (time : Timestamp) : Nat := ((time.instant + time.offset) % 1000000).toNat

/-- The text behind the wall-clock second. -/
def textTail (time : Timestamp) : List Nat := fraction time.wallMicros ++ zone time.offset

/-- The order of the ISO texts. -/
def textLe (first second : Timestamp) : Prop :=
  first.wallSecond < second.wallSecond ∨
    first.wallSecond = second.wallSecond ∧ codesLe first.textTail second.textTail = true

instance : DecidableRel textLe := fun first second => by
  unfold textLe
  exact inferInstance

theorem fraction_zone_le (offset : Int) {first second : Nat}
    (first_bound : first < 1000000) (second_bound : second < 1000000) :
    codesLe (fraction first ++ zone offset) (fraction second ++ zone offset) = true ↔ first ≤ second := by
  have sign : zoneSign offset < '.'.toNat := by unfold zoneSign; split <;> decide
  by_cases left : first = 0 <;> by_cases right : second = 0
  · have same := (digits_append_le 0 0 0 (zone offset)).mpr (Nat.le_refl _)
    simpa [fraction, left, right, digits] using same
  · simp only [fraction, left, right, if_true, if_false, zone, List.nil_append, List.cons_append,
      codesLe_cons, sign, true_or, Nat.zero_le]
  · simp only [fraction, left, right, if_true, if_false, zone, List.nil_append, List.cons_append, codesLe_cons]
    exact iff_of_false (by rintro (before | ⟨same, -⟩) <;> omega) (by omega)
  · have order := digits_append_le 6 first second (zone offset)
    rw [Nat.mod_eq_of_lt (by omega), Nat.mod_eq_of_lt (by omega)] at order
    simp only [fraction, left, right, if_false, List.cons_append, codesLe_cons, order, Nat.lt_irrefl, true_and,
      false_or]

/-- Within one zone the texts are ordered as the instants are. -/
theorem textLe_iff_le {first second : Timestamp} (same : first.offset = second.offset) :
    first.textLe second ↔ first ≤ second := by
  have first_bound : first.wallMicros < 1000000 := by unfold wallMicros; omega
  have second_bound : second.wallMicros < 1000000 := by unfold wallMicros; omega
  rw [textLe, textTail, textTail, same, fraction_zone_le _ first_bound second_bound, le_iff]
  simp only [wallSecond, wallMicros, same]
  omega

example : textLe ⟨1, 0⟩ ⟨0, 3600000000⟩ ∧ ¬ textLe ⟨0, 3600000000⟩ ⟨1, 0⟩ := by decide

end Timestamp

end AiStore.Library
