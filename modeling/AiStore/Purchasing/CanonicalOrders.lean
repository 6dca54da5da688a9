import AiStore.Purchasing.IntakeLimits

/-! The normal form of an accepted order. -/

set_option autoImplicit false

namespace AiStore.Purchasing

open Failure Service
open Ingestion (hexEnv LineTally NormalizedItem NormalizedDemoOrder normalizeLine normalizeLines normalizeDemoOrder check check_eq_ok
  intField intField_eq_ok opaqueField opaqueField_eq_ok)
open Library (except_bind_eq_ok)

/-- The order without the digest of its source, which is not part of the payload. -/
def businessFields (order : NormalizedDemoOrder) : NormalizedDemoOrder := { order with sourceDigest := none }

/-- What the payload of an accepted item is. -/
structure NormalForm (env : Env) (item : NormalizedItem) : Prop where
  again : normalizeDemoOrder env item.payload = .ok { item with order := businessFields item.order }
  lines : ∃ sold : List SoldGoods, item.order.lines = sold.map SoldGoods.material ∧
    item.order.totalMinor = (sold.map SoldGoods.amount).sum ∧ (sold.filterMap SoldGoods.sourceLineKey).Nodup

/-! ## What else is checked -/

/-- What `Validated` does not tell about an accepted payload. -/
structure Bounded (env : Env) (item : NormalizedItem) (sold : List SoldGoods) : Prop where
  few : sold.length ≤ 100
  keys : ∀ key ∈ sold.filterMap SoldGoods.sourceLineKey, Gateway.opaqueText key = true
  revision : 1 ≤ item.order.revision
  currency : item.order.currency ∈ Ingestion.allowedCurrencies
  small : Gateway.jsonSize item.payload ≤ 64 * 1024
  ref : item.immutableRef = Ingestion.immutableRefOf item.order.eventId item.order.revision (env.digest item.payload)

theorem sourceLineKey_ok {tally : LineTally} {entry : Value} {key : String}
    (taken : Ingestion.sourceLineKey tally entry = .ok key) : Gateway.opaqueText key = true := by
  unfold Ingestion.sourceLineKey at taken
  split at taken
  · simp only [except_bind_eq_ok, check_eq_ok] at taken
    obtain ⟨_, accepted, _, -, same⟩ := taken
    cases same
    exact accepted
  · cases taken

theorem normalizeLine_keys {before after : LineTally} {raw : Value} (ran : normalizeLine before raw = .ok after)
    (keys : ∀ key ∈ before.sourceLineKeys, Gateway.opaqueText key = true) :
    ∀ key ∈ after.sourceLineKeys, Gateway.opaqueText key = true := by
  unfold normalizeLine at ran
  split at ran
  · simp only [except_bind_eq_ok] at ran
    obtain ⟨_, -, _, -, _, -, _, -, ran⟩ := ran
    split at ran
    · cases ran
      exact keys
    · simp only [except_bind_eq_ok] at ran
      obtain ⟨key, taken, ran⟩ := ran
      cases ran
      exact List.forall_mem_cons.mpr ⟨sourceLineKey_ok taken, keys⟩
  · cases ran

theorem normalizeLines_keys {raws : List Value} {before after : LineTally} (ran : normalizeLines before raws = .ok after)
    (keys : ∀ key ∈ before.sourceLineKeys, Gateway.opaqueText key = true) :
    ∀ key ∈ after.sourceLineKeys, Gateway.opaqueText key = true := by
  induction raws generalizing before with
  | nil =>
    cases ran
    exact keys
  | cons raw rest ih =>
    simp only [normalizeLines, except_bind_eq_ok] at ran
    obtain ⟨middle, first, ran⟩ := ran
    exact ih ran (normalizeLine_keys first keys)

theorem material_injective : Function.Injective SoldGoods.material := by
  intro first second same
  obtain ⟨sku, quantity, unit, key⟩ := first
  obtain ⟨other, number, price, name⟩ := second
  cases key <;> cases name <;> simp_all [SoldGoods.material]

theorem linesField_ok {value : Option Value} {raws : List Value} (listed : Ingestion.linesField value = .ok raws) :
    raws ≠ [] ∧ raws.length ≤ 100 := by
  unfold Ingestion.linesField Ingestion.refuse at listed
  split at listed
  · split at listed
    · next accepted =>
      cases listed
      exact accepted
    · cases listed
  · cases listed

theorem currencyField_eq_ok {value : Option Value} {currency : String} :
    Ingestion.currencyField value = .ok currency ↔ value = some (.text currency) ∧ currency ∈ Ingestion.allowedCurrencies := by
  unfold Ingestion.currencyField Ingestion.refuse
  split
  · next text =>
    split
    · next allowed =>
      constructor
      · rintro ⟨⟩
        exact ⟨rfl, allowed⟩
      · rintro ⟨⟨⟩, -⟩
        rfl
    · next refused =>
      constructor
      · rintro ⟨⟩
      · rintro ⟨⟨⟩, allowed⟩
        exact absurd allowed refused
  · next unknown => exact ⟨by rintro ⟨⟩, fun known => absurd known.1 (unknown currency)⟩

theorem normalizeDemoOrder_bounded {env : Env} {raw : Value} {item : NormalizedItem} {sold : List SoldGoods}
    (ran : normalizeDemoOrder env raw = .ok item) (valid : Validated item sold) : Bounded env item sold := by
  unfold normalizeDemoOrder at ran
  split at ran
  · simp only [except_bind_eq_ok, check_eq_ok, intField_eq_ok, currencyField_eq_ok] at ran
    obtain ⟨_, -, _, -, _, -, _, -, revision, ⟨-, positive⟩, _, ⟨-, allowed⟩, _, -, raws, listed, tally, tallied, _, -, _, -,
      _, small, ran⟩ := ran
    cases ran
    obtain ⟨checked, counted, known⟩ := normalizeLines_ok tallied
    -- the lines tell which goods they are of
    obtain rfl : checked = sold := (List.map_injective_iff.mpr material_injective) (known.lines.symm.trans valid.lines)
    have keys := normalizeLines_keys tallied (List.forall_mem_nil _)
    rw [known.keys] at keys
    exact {
      few := counted ▸ (linesField_ok listed).2
      keys := fun key member => keys key (by simpa using member)
      revision := by simp only; omega
      currency := allowed
      small := small
      ref := rfl }
  · cases ran

/-! ## The payload as an item -/

theorem check_pos {condition : Prop} [Decidable condition] {message : String} (holds : condition) :
    check condition message = .ok () := check_eq_ok.mpr holds

/-- A line of a payload passes for a line, and is the same one again. -/
theorem normalizeLine_material {tally : LineTally} {goods : SoldGoods} (sound : goods.Sound)
    (fresh : ∀ key ∈ goods.sourceLineKey, Gateway.opaqueText key = true ∧ key ∉ tally.sourceLineKeys) :
    normalizeLine tally (Gateway.sorted goods.material) = .ok ⟨goods.sourceLineKey.toList ++ tally.sourceLineKeys,
      tally.calculated + goods.amount, tally.lines ++ [goods.material]⟩ := by
  obtain ⟨sku, quantity, unit, key⟩ := goods
  have named : opaqueField (some (.text sku)) "sku" = .ok sku := opaqueField_eq_ok.mpr ⟨rfl, sound.sku⟩
  have counted : intField (some (.int quantity)) 1 "line quantity must be a positive integer" = .ok quantity :=
    intField_eq_ok.mpr ⟨rfl, sound.quantity⟩
  have priced : intField (some (.int unit)) 0 "line unit_minor must be a nonnegative integer" = .ok unit :=
    intField_eq_ok.mpr ⟨rfl, sound.unitMinor⟩
  rw [sorted_material]
  cases key with
  | none =>
    simp +decide only [normalizeLine, Option.toList, List.map, List.append_nil, List.cons_append, List.nil_append, Mapping.get?]
    simp +decide [check_pos, named, counted, priced, SoldGoods.material, SoldGoods.amount]
    rfl
  | some key =>
    obtain ⟨accepted, unused⟩ := fresh key rfl
    have taken : Ingestion.sourceLineKey tally (.text key) = .ok key := by
      simp only [Ingestion.sourceLineKey, check_pos accepted, check_pos unused]
      rfl
    simp +decide only [normalizeLine, Option.toList, List.map, List.cons_append, List.nil_append, Mapping.get?]
    simp +decide [check_pos, named, counted, priced, taken, SoldGoods.material, SoldGoods.amount]
    rfl

/-- The lines of a payload are gone through to their end. -/
theorem normalizeLines_material {sold : List SoldGoods} {tally : LineTally} (sound : ∀ goods ∈ sold, goods.Sound)
    (keys : ∀ key ∈ sold.filterMap SoldGoods.sourceLineKey, Gateway.opaqueText key = true)
    (apart : (sold.filterMap SoldGoods.sourceLineKey).Nodup)
    (fresh : ∀ key ∈ sold.filterMap SoldGoods.sourceLineKey, key ∉ tally.sourceLineKeys) :
    ∃ after, normalizeLines tally (sold.map fun goods => Gateway.sorted goods.material) = .ok after ∧
      after.calculated = tally.calculated + (sold.map SoldGoods.amount).sum ∧
      after.lines = tally.lines ++ sold.map SoldGoods.material := by
  induction sold generalizing tally with
  | nil => exact ⟨tally, rfl, by simp, by simp⟩
  | cons goods rest ih =>
    obtain ⟨first, others⟩ := List.forall_mem_cons.mp sound
    have shown : (goods :: rest).filterMap SoldGoods.sourceLineKey =
        goods.sourceLineKey.toList ++ rest.filterMap SoldGoods.sourceLineKey := by
      cases known : goods.sourceLineKey <;> simp [known]
    rw [shown] at keys apart fresh
    have line := @normalizeLine_material tally goods first fun key known =>
      ⟨keys key (List.mem_append_left _ (Option.mem_toList.mpr known)),
        fresh key (List.mem_append_left _ (Option.mem_toList.mpr known))⟩
    obtain ⟨-, behind, disjoint⟩ := List.nodup_append.mp apart
    obtain ⟨after, ran, calculated, lines⟩ := @ih ⟨goods.sourceLineKey.toList ++ tally.sourceLineKeys,
      tally.calculated + goods.amount, tally.lines ++ [goods.material]⟩ others
      (fun key known => keys key (List.mem_append_right _ known)) behind fun key known => by
        -- a key of the rest is neither that of the first line nor one of those before
        rw [List.mem_append, not_or]
        exact ⟨fun own => disjoint key own key known rfl, fresh key (List.mem_append_right _ known)⟩
    refine ⟨after, ?_, ?_, ?_⟩
    · rw [List.map_cons, normalizeLines, line]
      exact ran
    · rw [calculated, List.map_cons, List.sum_cons, Int.add_assoc]
    · rw [lines, List.map_cons, List.append_assoc, List.singleton_append]

theorem sortedItems_validated {item : NormalizedItem} {sold : List SoldGoods} (valid : Validated item sold) :
    Gateway.sortedItems item.order.lines = sold.map fun goods => Gateway.sorted goods.material := by
  rw [valid.lines, sortedItems_material]

/-- The payload of an accepted item is accepted, as the same item. -/
theorem normalize_again {env : Env} {item : NormalizedItem} {sold : List SoldGoods} (valid : Validated item sold)
    (bounded : Bounded env item sold) :
    normalizeDemoOrder env item.payload = .ok { item with order := businessFields item.order } := by
  obtain ⟨after, ran, calculated, lines⟩ := @normalizeLines_material sold {} valid.sound bounded.keys valid.keys
    fun _ _ => List.not_mem_nil
  rw [← sortedItems_validated valid] at ran
  rw [List.nil_append, ← valid.lines] at lines
  rw [Int.zero_add, ← valid.total] at calculated
  have listed : Ingestion.linesField (some (.list (Gateway.sortedItems item.order.lines))) =
      .ok (Gateway.sortedItems item.order.lines) := by
    rw [sortedItems_validated valid, Ingestion.linesField, if_pos]
    · rfl
    · exact ⟨by simpa using valid.nonempty, by simpa using bounded.few⟩
  have same : Ingestion.orderPayload ⟨item.order.externalOrderId, item.order.eventId, (item.order.revision : Int).toNat,
      item.order.currency, item.order.totalMinor, after.lines, none⟩ = item.payload := by
    rw [valid.payload, lines]
    rfl
  have known : ∀ field ∈ Ingestion.requiredFields, (Mapping.get? [("currency", .text item.order.currency),
      ("event_id", .text item.order.eventId), ("external_order_id", .text item.order.externalOrderId),
      ("lines", .list (Gateway.sortedItems item.order.lines)), ("revision", .int item.order.revision),
      ("total_minor", .int item.order.totalMinor)] field).isSome := by
    simp +decide only [Ingestion.requiredFields, List.forall_mem_cons, Mapping.get?]
    simp +decide
  rw [valid.payload, sorted_orderPayload]
  simp only [normalizeDemoOrder, except_bind_eq_ok]
  refine ⟨(), check_pos (by simp [Ingestion.requiredFields]), (), check_pos known, _, opaqueField_eq_ok.mpr ⟨rfl, valid.external⟩,
    _, opaqueField_eq_ok.mpr ⟨rfl, valid.event⟩, _, intField_eq_ok.mpr ⟨rfl, Int.ofNat_le.mpr bounded.revision⟩,
    _, currencyField_eq_ok.mpr ⟨rfl, bounded.currency⟩, _, intField_eq_ok.mpr ⟨rfl, valid.total_nonneg⟩, _, listed, after, ran,
    (), check_pos calculated, none, rfl, (), check_pos (by rw [same]; exact bounded.small), ?_⟩
  rw [same, lines, Int.toNat_natCast, ← bounded.ref, valid.payload, sorted_orderPayload]
  rfl

/-! ## Payloads and what they tell -/

theorem sorted_material_injective : Function.Injective fun goods : SoldGoods => Gateway.sorted goods.material := by
  intro first second same
  obtain ⟨sku, quantity, unit, key⟩ := first
  obtain ⟨other, number, price, name⟩ := second
  simp only [sorted_material] at same
  cases key <;> cases name <;> simp_all

/-- One payload, one list of lines and one of each other field. -/
theorem payload_eq_iff {first second : NormalizedItem} {sold others : List SoldGoods} (left : Validated first sold)
    (right : Validated second others) :
    first.payload = second.payload ↔ businessFields first.order = businessFields second.order := by
  constructor
  · intro same
    rw [left.payload, right.payload, sorted_orderPayload, sorted_orderPayload, sortedItems_validated left,
      sortedItems_validated right] at same
    simp only [Value.dict.injEq, List.cons.injEq, Prod.mk.injEq, Value.text.injEq, Value.int.injEq, Value.list.injEq,
      Int.natCast_inj, true_and, and_true] at same
    obtain ⟨currency, event, external, lines, revision, total⟩ := same
    have sold_same := (List.map_injective_iff.mpr sorted_material_injective) lines
    simp only [businessFields, left.lines, right.lines, currency, event, external, revision, total, sold_same]
  · intro same
    have payloads := congrArg Ingestion.orderPayload same
    rw [left.payload, right.payload]
    exact payloads

/-- Normalisation gives a normal form, which tells the business fields and nothing else. -/
theorem normalization_canonical {env : Env} {raw : Value} {item : NormalizedItem}
    (accepted : normalizeDemoOrder env raw = .ok item) :
    NormalForm env item ∧ ∀ (another : Value) (other : NormalizedItem), normalizeDemoOrder env another = .ok other →
      (item.payload = other.payload ↔ businessFields item.order = businessFields other.order) := by
  obtain ⟨sold, valid⟩ := normalizeDemoOrder_validated accepted
  refine ⟨⟨normalize_again valid (normalizeDemoOrder_bounded accepted valid), sold, valid.lines, valid.total, valid.keys⟩, ?_⟩
  intro another other ran
  obtain ⟨others, validated⟩ := normalizeDemoOrder_validated ran
  exact payload_eq_iff valid validated

theorem ordinary_order_canonical :
    NormalForm hexEnv (demoItem 2 100) ∧ ∀ (another : Value) (other : NormalizedItem),
      normalizeDemoOrder hexEnv another = .ok other →
        ((demoItem 2 100).payload = other.payload ↔ businessFields (demoItem 2 100).order = businessFields other.order) :=
  @normalization_canonical hexEnv (demoOrder 2 100) (demoItem 2 100) (by decide +kernel)

end AiStore.Purchasing
