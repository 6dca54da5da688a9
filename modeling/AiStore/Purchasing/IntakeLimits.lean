import AiStore.Aftersales.Settlement
import AiStore.Ingestion.PoisonPages
import AiStore.Purchasing.Intake
import Mathlib.Algebra.Order.BigOperators.Group.List

/-! Accepted payloads that become orders, in a store of Python objects and in one of 64-bit columns.

A payload is checked over all integers. `SQLiteRepository` binds each of them to a column, so an accepted payload that
is out of the range of a column is refused there with an `OverflowError`, on every attempt. -/

set_option autoImplicit false

namespace AiStore.Purchasing

open Library (Timestamp)
open Library.Txn Failure Repository Service
open Aftersales.SQLiteRepository (Fits)

/-! ## The two stores -/

/-- The operations of a repository that `ingest_order` saves with. -/
structure OrderRepository where
  saveChannelOrder : ChannelOrder → Op (ChannelOrder × Bool)
  saveOrderLine : OrderLine → Op Unit

def InMemoryRepository.orders : OrderRepository := ⟨Repository.saveChannelOrder, Repository.saveOrderLine⟩

namespace SQLiteRepository

def saveChannelOrder (row : ChannelOrder) : Op (ChannelOrder × Bool) := do
  let orders ← query Store.channelOrders
  let existing := orders.rows.find? fun other => other.tenantId = row.tenantId ∧
    (other.id = row.id ∨ other.channelId = row.channelId ∧ other.externalOrderKey = row.externalOrderKey)
  match existing with
  | some prior =>
    ensure ((prior.channelId, prior.externalOrderKey, prior.payloadRef, prior.totalMinor, prior.currency) =
        (row.channelId, row.externalOrderKey, row.payloadRef, row.totalMinor, row.currency))
      (conflictError "order identity reused with different content")
    pure (prior, true)
  | none =>
    let tenant ← query fun store => store.tenants.get? row.tenantId
    let payload ← query fun store => store.normalizedPayloads.get? (row.tenantId, row.payloadRef)
    ensure (Fits row.totalMinor) (overflowError "Python int too large to convert to SQLite INTEGER")
    -- every refusal of the schema is an `IntegrityError`, whichever constraint it is of
    ensure (0 ≤ row.totalMinor ∧ 0 < row.version ∧ tenant.isSome ∧ payload.isSome ∧
        ∀ other ∈ orders.rows, other.id ≠ row.id ∧
          ¬ (other.tenantId = row.tenantId ∧ other.idempotencyKey = row.idempotencyKey))
      (conflictError "order idempotency key already exists")
    write fun store => { store with channelOrders := store.channelOrders.put row }
    pure (row, false)

def saveOrderLine (row : OrderLine) : Op Unit := do
  let lines ← query Store.orderLines
  let order ← query fun store => store.channelOrders.get? (row.tenantId, row.channelOrderId)
  ensure (Fits row.quantity ∧ Fits row.unitMinor) (overflowError "Python int too large to convert to SQLite INTEGER")
  ensure (0 < row.quantity ∧ 0 ≤ row.unitMinor ∧ 0 < row.version ∧ order.isSome ∧
      ∀ other ∈ lines.rows, other.id ≠ row.id ∧
        ¬ (other.tenantId = row.tenantId ∧ other.channelOrderId = row.channelOrderId ∧ row.sourceLineKey.isSome ∧
          other.sourceLineKey = row.sourceLineKey))
    (integrityError "order_lines")
  write fun store => { store with orderLines := store.orderLines.put row }

def orders : OrderRepository := ⟨saveChannelOrder, saveOrderLine⟩

end SQLiteRepository

section

variable (repository : OrderRepository) (env : Env)

def takeLineIn (tenant order : Uuid) (line : Value) : Op Unit := do
  let id ← freshUuid
  let row ← ofExcept (orderLine id tenant order line)
  repository.saveOrderLine row

/-- The transaction of `ingest_order`, in either store. -/
def acceptOrderIn (context : TenantContext) (channelId external payloadRef eventId key : String) (fields : OrderFields)
    (now : Timestamp) : Op (ChannelOrder × Bool) := transaction do
  let id ← freshUuid
  let (order, replayed) ← repository.saveChannelOrder {
    id := id
    tenantId := context.tenantId
    channelId := channelId
    externalOrderKey := external
    payloadRef := payloadRef
    currency := fields.currency
    totalMinor := fields.totalMinor
    status := .accepted
    receivedAt := now
    idempotencyKey := key }
  if replayed then pure (order, true)
  else do
    each fields.lines (takeLineIn repository context.tenantId order.id)
    auditBy env context "order.accepted" order.id "succeeded" [("external_order_key", .text external),
      ("payload_ref", .text payloadRef), ("event_id", .text eventId)]
    publish context.tenantId "order.accepted" order.id
      [("order_id", .uuid order.id), ("payload_ref", .text payloadRef)] (.orderAccepted order.id) now
    pure (order, false)

/-- `ingest_order`, in either store. -/
def ingestOrderIn (context : TenantContext) (channelId payloadRef : String) (idempotencyKey : Option String) :
    Op (ChannelOrder × Bool) := do
  require context .tenantAdmin
  let channelId ← ofExcept (Ingestion.opaqueField (some (.text channelId)) "channel_id")
  let payload ← loadPayload env context payloadRef
  let external ← ofExcept (Ingestion.opaqueField (payload.get? "external_order_id") "external_order_id")
  let eventId ← ofExcept (Ingestion.opaqueField (payload.get? "event_id") "event_id")
  let fields ← ofExcept (orderFields payload)
  let key := orderKey channelId external idempotencyKey
  ensure (¬ blank key ∧ key.length ≤ 255) (conflictError "invalid idempotency_key")
  let now ← now env
  acceptOrderIn repository env context channelId external payloadRef eventId key fields now

end

theorem ingestOrderIn_inMemory (env : Env) : ingestOrderIn InMemoryRepository.orders env = ingestOrder env := rfl

/-! ## Accepted lines -/

/-- What a line of an order sells. -/
structure SoldGoods where
  sku : String
  quantity : Int
  unitMinor : Int
  sourceLineKey : Option String
  deriving DecidableEq

namespace SoldGoods

def amount (goods : SoldGoods) : Int := goods.quantity * goods.unitMinor

/-- The line of a normalized payload. -/
def material (goods : SoldGoods) : Value := .dict ([("sku", .text goods.sku), ("quantity", .int goods.quantity),
  ("unit_minor", .int goods.unitMinor)] ++ goods.sourceLineKey.toList.map fun key => ("source_line_key", .text key))

/-- The row of the line in the store. -/
def row (goods : SoldGoods) (tenant order id : Uuid) : OrderLine where
  id := id
  tenantId := tenant
  channelOrderId := order
  sku := goods.sku
  quantity := goods.quantity
  unitMinor := goods.unitMinor
  sourceLineKey := goods.sourceLineKey

/-- What the validator has checked of a line. -/
structure Sound (goods : SoldGoods) : Prop where
  sku : opaqueIdentifier goods.sku = true
  quantity : 1 ≤ goods.quantity
  unitMinor : 0 ≤ goods.unitMinor

def InColumns (goods : SoldGoods) : Prop := goods.quantity < 2 ^ 63 ∧ goods.unitMinor < 2 ^ 63

theorem Sound.fits {goods : SoldGoods} (sound : goods.Sound) :
    (Fits goods.quantity ∧ Fits goods.unitMinor) ↔ goods.InColumns := by
  have quantity := sound.quantity
  have unitMinor := sound.unitMinor
  unfold Fits InColumns
  omega

end SoldGoods

def goodsOf (row : OrderLine) : SoldGoods := ⟨row.sku, row.quantity, row.unitMinor, row.sourceLineKey⟩

open Ingestion (LineTally NormalizedItem normalizeLine normalizeLines normalizeDemoOrder check_eq_ok intField_eq_ok
  opaqueField_eq_ok)
open Library (except_bind_eq_ok)

/-- What the lines that have been checked so far add to a tally. -/
structure Tallied (before after : LineTally) (sold : List SoldGoods) : Prop where
  lines : after.lines = before.lines ++ sold.map SoldGoods.material
  calculated : after.calculated = before.calculated + (sold.map SoldGoods.amount).sum
  keys : after.sourceLineKeys = (sold.filterMap SoldGoods.sourceLineKey).reverse ++ before.sourceLineKeys
  apart : before.sourceLineKeys.Nodup → after.sourceLineKeys.Nodup
  sound : ∀ goods ∈ sold, goods.Sound

theorem normalizeLine_ok {before after : LineTally} {raw : Value} (ran : normalizeLine before raw = .ok after) :
    ∃ goods, Tallied before after [goods] := by
  unfold normalizeLine at ran
  split at ran
  · simp only [except_bind_eq_ok, check_eq_ok, intField_eq_ok, opaqueField_eq_ok] at ran
    obtain ⟨_, -, sku, ⟨-, named⟩, quantity, ⟨-, positive⟩, unit, ⟨-, nonnegative⟩, ran⟩ := ran
    split at ran
    · cases ran
      exact ⟨⟨sku, quantity, unit, none⟩, rfl, by simp [SoldGoods.amount], rfl, id,
        by simpa using ⟨named, positive, nonnegative⟩⟩
    · next entry _ =>
      simp only [except_bind_eq_ok] at ran
      obtain ⟨key, taken, ran⟩ := ran
      cases ran
      have fresh : key ∉ before.sourceLineKeys := by
        unfold Ingestion.sourceLineKey at taken
        split at taken
        · simp only [except_bind_eq_ok, check_eq_ok] at taken
          obtain ⟨_, -, _, fresh, taken⟩ := taken
          cases taken
          exact fresh
        · cases taken
      exact ⟨⟨sku, quantity, unit, some key⟩, rfl, by simp [SoldGoods.amount], rfl,
        fun apart => List.nodup_cons.mpr ⟨fresh, apart⟩, by simpa using ⟨named, positive, nonnegative⟩⟩
  · cases ran

theorem Tallied.trans {first second third : LineTally} {sold others : List SoldGoods}
    (front : Tallied first second sold) (back : Tallied second third others) : Tallied first third (sold ++ others) where
  lines := by rw [back.lines, front.lines, List.map_append, List.append_assoc]
  calculated := by rw [back.calculated, front.calculated, List.map_append, List.sum_append]; omega
  keys := by rw [back.keys, front.keys, List.filterMap_append, List.reverse_append, List.append_assoc]
  apart := back.apart ∘ front.apart
  sound := List.forall_mem_append.mpr ⟨front.sound, back.sound⟩

theorem normalizeLines_ok {raws : List Value} {before after : LineTally}
    (ran : normalizeLines before raws = .ok after) : ∃ sold, sold.length = raws.length ∧ Tallied before after sold := by
  induction raws generalizing before with
  | nil =>
    cases ran
    exact ⟨[], rfl, by simp, by simp, rfl, id, by simp⟩
  | cons raw rest ih =>
    simp only [normalizeLines, except_bind_eq_ok] at ran
    obtain ⟨middle, first, ran⟩ := ran
    obtain ⟨goods, front⟩ := normalizeLine_ok first
    obtain ⟨sold, counted, back⟩ := ih ran
    exact ⟨goods :: sold, by simp [counted], front.trans back⟩

/-- What an accepted payload is known for. -/
structure Validated (item : NormalizedItem) (sold : List SoldGoods) : Prop where
  lines : item.order.lines = sold.map SoldGoods.material
  nonempty : sold ≠ []
  total : item.order.totalMinor = (sold.map SoldGoods.amount).sum
  keys : (sold.filterMap SoldGoods.sourceLineKey).Nodup
  sound : ∀ goods ∈ sold, goods.Sound
  external : opaqueIdentifier item.order.externalOrderId = true
  event : opaqueIdentifier item.order.eventId = true
  payload : item.payload = Ingestion.orderPayload item.order

theorem normalizeDemoOrder_validated {env : Env} {raw : Value} {item : NormalizedItem}
    (ran : normalizeDemoOrder env raw = .ok item) : ∃ sold, Validated item sold := by
  unfold normalizeDemoOrder at ran
  split at ran
  · simp only [except_bind_eq_ok, check_eq_ok, opaqueField_eq_ok, intField_eq_ok] at ran
    obtain ⟨_, -, _, -, _, ⟨-, external⟩, _, ⟨-, event⟩, _, -, _, -, total, -, raws, listed, tally, tallied, _, same, _, -,
      _, -, ran⟩ := ran
    cases ran
    obtain ⟨sold, counted, known⟩ := normalizeLines_ok tallied
    have nonempty : raws ≠ [] := by
      unfold Ingestion.linesField Ingestion.refuse at listed
      split at listed
      · split at listed
        · next accepted =>
          cases listed
          exact accepted.1
        · cases listed
      · cases listed
    have keys := known.apart List.nodup_nil
    rw [known.keys] at keys
    refine ⟨sold, known.lines, ?_, ?_, List.nodup_reverse.mp (by simpa using keys), known.sound, external, event, rfl⟩
    · rintro rfl
      exact nonempty (List.eq_nil_of_length_eq_zero counted.symm)
    · rw [← same, known.calculated]
      exact Int.zero_add _
  · cases ran

theorem Validated.total_nonneg {item : NormalizedItem} {sold : List SoldGoods} (valid : Validated item sold) :
    0 ≤ item.order.totalMinor := by
  rw [valid.total]
  apply List.sum_nonneg
  intro amount member
  obtain ⟨goods, among, rfl⟩ := List.mem_map.mp member
  have quantity := (valid.sound goods among).quantity
  exact Int.mul_nonneg (by omega) (valid.sound goods among).unitMinor

/-! ## Kept payloads -/

/-- The payload in the order of its encoder. -/
theorem sorted_orderPayload (order : Ingestion.NormalizedDemoOrder) : Ingestion.orderPayload order = .dict [
    ("currency", .text order.currency), ("event_id", .text order.eventId),
    ("external_order_id", .text order.externalOrderId), ("lines", .list (Gateway.sortedItems order.lines)),
    ("revision", .int order.revision), ("total_minor", .int order.totalMinor)] := by
  simp +decide only [Ingestion.orderPayload, Gateway.sorted, Gateway.sortedEntries, List.insertionSort, List.foldr,
    List.orderedInsert, Gateway.keyLe_names, ↓reduceIte]

theorem sorted_material (goods : SoldGoods) : Gateway.sorted goods.material = .dict ([("quantity", .int goods.quantity),
    ("sku", .text goods.sku)] ++ (goods.sourceLineKey.toList.map fun key => ("source_line_key", .text key)) ++
      [("unit_minor", .int goods.unitMinor)]) := by
  obtain ⟨sku, quantity, unit, key⟩ := goods
  cases key <;> simp +decide only [SoldGoods.material, Gateway.sorted, Gateway.sortedEntries, List.insertionSort,
    List.foldr, List.orderedInsert, Gateway.keyLe_names, ↓reduceIte, Option.toList, List.map, List.append_nil,
    List.cons_append, List.nil_append]

theorem sortedItems_material (sold : List SoldGoods) : Gateway.sortedItems (sold.map SoldGoods.material) =
    sold.map fun goods => Gateway.sorted goods.material := by
  induction sold with
  | nil => rfl
  | cons goods rest ih => rw [List.map_cons, Gateway.sortedItems, ih, List.map_cons]

/-- Every line that has been checked can be saved under its own values. -/
theorem orderLine_material {goods : SoldGoods} (sound : goods.Sound) (id tenant order : Uuid) :
    orderLine id tenant order (Gateway.sorted goods.material) = .ok (goods.row tenant order id) := by
  obtain ⟨sku, quantity, unit, key⟩ := goods
  have named : Ingestion.opaqueField (some (.text sku)) "sku" = .ok sku := opaqueField_eq_ok.mpr ⟨rfl, sound.sku⟩
  rw [sorted_material]
  cases key <;>
    simp +decide [orderLine, lineSku, lineNumber, lineKey, asInt, Mapping.get?, named, SoldGoods.row] <;> rfl

/-! ## Lines that are taken in -/

section

variable {tenant order : Uuid} {s t : Library.Session Store} {u : Unit}

/-- The rows of the lines, from the id that is drawn first. -/
def rowsOf (tenant order : Uuid) : Uuid → List SoldGoods → List OrderLine
  | _, [] => []
  | id, goods :: rest => goods.row tenant order id :: rowsOf tenant order (id + 1) rest

def tookLine (tenant order : Uuid) (goods : SoldGoods) (s : Library.Session Store) : Library.Session Store :=
  ⟨{ s.db with orderLines := s.db.orderLines.put (goods.row tenant order s.uuids) }, s.reads, s.uuids + 1⟩

/-- The session behind all the lines. -/
def tookLines (tenant order : Uuid) (sold : List SoldGoods) (s : Library.Session Store) : Library.Session Store :=
  ⟨{ s.db with orderLines := (rowsOf tenant order s.uuids sold).foldl Library.Table.put s.db.orderLines }, s.reads,
    s.uuids + sold.length⟩

theorem tookLines_cons (goods : SoldGoods) (rest : List SoldGoods) :
    tookLines tenant order rest (tookLine tenant order goods s) = tookLines tenant order (goods :: rest) s := by
  have drawn : s.uuids + 1 + rest.length = s.uuids + (rest.length + 1) := by omega
  simp only [tookLines, tookLine, rowsOf, List.foldl_cons, List.length_cons, drawn]

theorem takeLineIn_inMemory {goods : SoldGoods} (sound : goods.Sound) :
    (takeLineIn InMemoryRepository.orders tenant order (Gateway.sorted goods.material)).run s = (.ok u, t) ↔
      t = tookLine tenant order goods s := by
  simp only [takeLineIn, InMemoryRepository.orders, Repository.saveOrderLine, bind_eq_ok, freshUuid_eq_ok,
    ofExcept_eq_ok, orderLine_material sound, write_eq_ok, Except.ok.injEq, and_assoc, exists_and_left, exists_eq_left,
    exists_eq_left', tookLine]

theorem takeLinesIn_inMemory {sold : List SoldGoods} (sound : ∀ goods ∈ sold, goods.Sound) :
    (each (sold.map fun goods => Gateway.sorted goods.material) (takeLineIn InMemoryRepository.orders tenant order)).run s =
      (.ok u, t) ↔ t = tookLines tenant order sold s := by
  induction sold generalizing s with
  | nil => exact each_nil_eq_ok _ _ _ _
  | cons goods rest ih =>
    obtain ⟨first, others⟩ := List.forall_mem_cons.mp sound
    simp only [List.map_cons, each_cons_eq_ok, takeLineIn_inMemory first, ih others, exists_eq_left, tookLines_cons]

/-- Nothing of the schema but its columns stands against the lines. -/
structure LineRoom (tenant order : Uuid) (sold : List SoldGoods) (s : Library.Session Store) : Prop where
  saved : (s.db.channelOrders.get? (tenant, order)).isSome
  drawn : ∀ row ∈ s.db.orderLines.rows, row.id < s.uuids
  keys : (sold.filterMap SoldGoods.sourceLineKey).Nodup
  apart : ∀ row ∈ s.db.orderLines.rows, row.tenantId = tenant → row.channelOrderId = order →
    ∀ key ∈ row.sourceLineKey, key ∉ sold.filterMap SoldGoods.sourceLineKey

theorem takeLineIn_sqlite {goods : SoldGoods} {rest : List SoldGoods} (sound : goods.Sound)
    (room : LineRoom tenant order (goods :: rest) s) :
    (takeLineIn SQLiteRepository.orders tenant order (Gateway.sorted goods.material)).run s = (.ok u, t) ↔
      goods.InColumns ∧ t = tookLine tenant order goods s := by
  have admitted : 0 < goods.quantity ∧ 0 ≤ goods.unitMinor ∧ 0 < (goods.row tenant order s.uuids).version ∧
      (s.db.channelOrders.get? (tenant, order)).isSome ∧ ∀ other ∈ s.db.orderLines.rows, other.id ≠ s.uuids ∧
        ¬ (other.tenantId = tenant ∧ other.channelOrderId = order ∧ goods.sourceLineKey.isSome ∧
          other.sourceLineKey = goods.sourceLineKey) := by
    refine ⟨sound.quantity, sound.unitMinor, Nat.one_pos, room.saved, fun other member => ⟨?_, ?_⟩⟩
    · exact Nat.ne_of_lt (room.drawn other member)
    · rintro ⟨ours, same, keyed, equal⟩
      obtain ⟨key, named⟩ := Option.isSome_iff_exists.mp keyed
      exact room.apart other member ours same key (equal.trans named)
        (List.mem_filterMap.mpr ⟨goods, List.mem_cons_self, named⟩)
  simp only [takeLineIn, SQLiteRepository.orders, SQLiteRepository.saveOrderLine, bind_eq_ok, freshUuid_eq_ok,
    ofExcept_eq_ok, orderLine_material sound, query_eq_ok, ensure_eq_ok, write_eq_ok, Except.ok.injEq, and_assoc,
    exists_and_left, exists_eq_left, exists_eq_left', exists_const, tookLine]
  simp only [SoldGoods.row] at admitted ⊢
  simp only [admitted, ← sound.fits, and_assoc, true_and]
  constructor
  · rintro ⟨quantity, unitMinor, -, ran⟩
    exact ⟨quantity, unitMinor, ran⟩
  · rintro ⟨quantity, unitMinor, ran⟩
    exact ⟨quantity, unitMinor, admitted.2.2.2.2, ran⟩

theorem LineRoom.next {goods : SoldGoods} {rest : List SoldGoods} (room : LineRoom tenant order (goods :: rest) s) :
    LineRoom tenant order rest (tookLine tenant order goods s) where
  saved := room.saved
  drawn := Library.Table.forall_put (fun row member => Nat.lt_succ_of_lt (room.drawn row member)) (Nat.lt_succ_self _)
  keys := by
    have keys := room.keys
    rw [List.filterMap_cons] at keys
    split at keys
    · exact keys
    · exact (List.nodup_cons.mp keys).2
  apart := by
    apply Library.Table.forall_put
    · intro row member ours same key named later
      apply room.apart row member ours same key named
      obtain ⟨other, among, keyed⟩ := List.mem_filterMap.mp later
      exact List.mem_filterMap.mpr ⟨other, List.mem_cons_of_mem _ among, keyed⟩
    · intro _ _ key named later
      have keys := room.keys
      rw [List.filterMap_cons_some (show goods.sourceLineKey = some key from named)] at keys
      exact (List.nodup_cons.mp keys).1 later

theorem takeLinesIn_sqlite {sold : List SoldGoods} (sound : ∀ goods ∈ sold, goods.Sound)
    (room : LineRoom tenant order sold s) :
    (each (sold.map fun goods => Gateway.sorted goods.material) (takeLineIn SQLiteRepository.orders tenant order)).run s =
      (.ok u, t) ↔ (∀ goods ∈ sold, goods.InColumns) ∧ t = tookLines tenant order sold s := by
  induction sold generalizing s with
  | nil => exact (each_nil_eq_ok _ _ _ _).trans (by simp [tookLines, rowsOf])
  | cons goods rest ih =>
    obtain ⟨first, others⟩ := List.forall_mem_cons.mp sound
    simp only [List.map_cons, each_cons_eq_ok, takeLineIn_sqlite first room, List.forall_mem_cons]
    constructor
    · rintro ⟨_, ⟨small, rfl⟩, ran⟩
      obtain ⟨smaller, rfl⟩ := (ih others room.next).mp ran
      exact ⟨⟨small, smaller⟩, tookLines_cons goods rest⟩
    · rintro ⟨⟨small, smaller⟩, rfl⟩
      exact ⟨_, ⟨small, rfl⟩, (ih others room.next).mpr ⟨smaller, (tookLines_cons goods rest).symm⟩⟩

end

/-! ## Orders that are taken in -/

section

variable {env : Env} {context : TenantContext} {channelId : String} {item : NormalizedItem} {sold : List SoldGoods}
  {idempotencyKey : Option String} {s t : Library.Session Store}

/-- A first order for a payload that is kept: everything it names is there, and nothing it would write is. -/
structure FreshOrder (env : Env) (context : TenantContext) (channelId : String) (item : NormalizedItem)
    (s : Library.Session Store) : Prop where
  authorized : Authorized s.db context .tenantAdmin
  registered : (s.db.tenants.get? context.tenantId).isSome
  channel : opaqueIdentifier channelId = true
  kept : ∃ row, s.db.normalizedPayloads.get? (context.tenantId, item.immutableRef) = some row ∧ row.schemaVersion = 1 ∧
    row.payload = item.payload ∧ row.canonicalDigest = env.digest item.payload
  vacant : ∀ row ∈ s.db.channelOrders.rows, ¬ (row.tenantId = context.tenantId ∧ row.channelId = channelId ∧
    row.externalOrderKey = item.order.externalOrderId)
  orders : ∀ row ∈ s.db.channelOrders.rows, row.id < s.uuids
  lines : ∀ row ∈ s.db.orderLines.rows, row.id < s.uuids ∧ row.channelOrderId < s.uuids
  events : ∀ order, s.uuids ≤ order →
    s.db.outbox.outboxIdempotency.get? (.uuid context.tenantId, .orderAccepted order) = none

/-- The order that is accepted for the payload. -/
def acceptedOrder (env : Env) (context : TenantContext) (channelId : String) (item : NormalizedItem) (key : String)
    (s : Library.Session Store) : ChannelOrder where
  id := s.uuids
  tenantId := context.tenantId
  channelId := channelId
  externalOrderKey := item.order.externalOrderId
  payloadRef := item.immutableRef
  currency := item.order.currency
  totalMinor := item.order.totalMinor
  status := .accepted
  receivedAt := env.clock s.reads
  idempotencyKey := key

/-- The session in which the order has been saved. -/
def savedOrder (row : ChannelOrder) (s : Library.Session Store) : Library.Session Store :=
  ⟨{ s.db with channelOrders := s.db.channelOrders.put row }, s.reads + 1, s.uuids + 1⟩

def fieldsOf (item : NormalizedItem) (sold : List SoldGoods) : OrderFields :=
  ⟨item.order.currency, item.order.totalMinor, sold.map fun goods => Gateway.sorted goods.material⟩

theorem loadPayload_of_kept (fresh : FreshOrder env context channelId item s) (valid : Validated item sold)
    {payload : Mapping} : (loadPayload env context item.immutableRef).run s = (.ok payload, t) ↔
      opaqueIdentifier item.immutableRef = true ∧ Value.dict payload = item.payload ∧ t = s := by
  obtain ⟨row, found, version, same, digest⟩ := fresh.kept
  have spelled := valid.payload.trans (sorted_orderPayload item.order)
  simp only [loadPayload, getNormalizedPayload, bind_eq_ok, require_eq_ok, fresh.authorized, inboundIdentifier_eq_ok,
    query_eq_ok, fetch_eq_ok, ensure_eq_ok, and_assoc, exists_and_left, exists_eq_left, exists_eq_left', exists_const,
    true_and, found, Option.some.injEq, version, same, digest, spelled, pure_eq_ok, Value.dict.injEq]

theorem orderFields_of_valid (valid : Validated item sold) {payload : Mapping} (same : Value.dict payload = item.payload) :
    Ingestion.opaqueField (payload.get? "external_order_id") "external_order_id" = .ok item.order.externalOrderId ∧
      Ingestion.opaqueField (payload.get? "event_id") "event_id" = .ok item.order.eventId ∧
      orderFields payload = .ok (fieldsOf item sold) := by
  have spelled := same.trans (valid.payload.trans (sorted_orderPayload item.order))
  cases spelled
  refine ⟨opaqueField_eq_ok.mpr ⟨rfl, valid.external⟩, opaqueField_eq_ok.mpr ⟨rfl, valid.event⟩, ?_⟩
  obtain ⟨goods, rest, rfl⟩ := List.exists_cons_of_ne_nil valid.nonempty
  have lines : Gateway.sortedItems item.order.lines =
      (goods :: rest).map fun goods => Gateway.sorted goods.material := by
    rw [valid.lines, sortedItems_material]
  simp +decide [orderFields, Mapping.get?, asInt, lines, valid.total_nonneg, fieldsOf]

/-- The session in which the accepted order has been announced. -/
def announced (env : Env) (context : TenantContext) (item : NormalizedItem) (row : ChannelOrder)
    (s : Library.Session Store) : Library.Session Store :=
  ⟨{ s.db with
      auditEvents := s.db.auditEvents ++ [auditRow env s context.tenantId (.uuid context.userId) "order.accepted"
        (.uuid row.id) "succeeded" [("external_order_key", .text item.order.externalOrderId),
          ("payload_ref", .text item.immutableRef), ("event_id", .text item.order.eventId)]]
      outbox := published s.db.outbox (.pendingEvent (.uuid (s.uuids + 2)) (.uuid context.tenantId) "order.accepted"
        (.uuid row.id) [("order_id", .uuid row.id), ("payload_ref", .text item.immutableRef)] (.orderAccepted row.id)
        row.receivedAt) }, s.reads + 1, s.uuids + 3⟩

/-- What a repository asks of a fresh order, and of its lines, to save them as they are. -/
structure Takes (repository : OrderRepository) (row : ChannelOrder) (sold : List SoldGoods) (s : Library.Session Store)
    (orderFits linesFit : Prop) : Prop where
  order : ∀ saved existed t, (repository.saveChannelOrder row).run ⟨s.db, s.reads + 1, s.uuids + 1⟩ =
    (.ok (saved, existed), t) ↔ orderFits ∧ saved = row ∧ existed = false ∧ t = savedOrder row s
  lines : ∀ u t, (each (sold.map fun goods => Gateway.sorted goods.material)
      (takeLineIn repository row.tenantId row.id)).run (savedOrder row s) = (.ok u, t) ↔
    linesFit ∧ t = tookLines row.tenantId row.id sold (savedOrder row s)

theorem acceptOrderIn_eq_ok {repository : OrderRepository} {key : String} {orderFits linesFit : Prop}
    (fresh : FreshOrder env context channelId item s)
    (takes : Takes repository (acceptedOrder env context channelId item key s) sold s orderFits linesFit)
    {order : ChannelOrder} {replayed : Bool} :
    (acceptOrderIn repository env context channelId item.order.externalOrderId item.immutableRef item.order.eventId key
        (fieldsOf item sold) (env.clock s.reads)).run ⟨s.db, s.reads + 1, s.uuids⟩ = (.ok (order, replayed), t) ↔
      (orderFits ∧ linesFit) ∧ order = acceptedOrder env context channelId item key s ∧ replayed = false ∧
        t = announced env context item (acceptedOrder env context channelId item key s)
          (tookLines context.tenantId s.uuids sold (savedOrder (acceptedOrder env context channelId item key s) s)) := by
  have unannounced := fresh.events s.uuids (Nat.le_refl _)
  simp only [acceptOrderIn, transaction_eq_ok, bind_eq_ok, freshUuid_eq_ok, and_assoc, exists_and_left, exists_eq_left]
  constructor
  · rintro ⟨⟨saved, existed⟩, _, saving, ran⟩
    obtain ⟨fits, rfl, rfl, rfl⟩ := (takes.order _ _ _).mp saving
    simp only [Bool.false_eq_true, if_false, bind_eq_ok, auditBy_eq_ok, publish_eq_ok, pure_eq_ok, Prod.mk.injEq] at ran
    obtain ⟨_, _, taking, _, _, rfl, _, _, ⟨-, rfl⟩, ⟨rfl, rfl⟩, rfl⟩ := ran
    obtain ⟨small, rfl⟩ := (takes.lines _ _).mp taking
    exact ⟨fits, small, rfl, rfl, rfl⟩
  · rintro ⟨fits, small, rfl, rfl, rfl⟩
    refine ⟨(acceptedOrder env context channelId item key s, false), _, (takes.order _ _ _).mpr ⟨fits, rfl, rfl, rfl⟩, ?_⟩
    simp only [Bool.false_eq_true, if_false, bind_eq_ok, auditBy_eq_ok, publish_eq_ok, pure_eq_ok]
    exact ⟨(), _, (takes.lines _ _).mpr ⟨small, rfl⟩, (), _, rfl, (), _, ⟨unannounced, rfl⟩, trivial, rfl⟩

/-- The key under which the order of a payload is known. -/
def keyOf (channelId : String) (item : NormalizedItem) (idempotencyKey : Option String) : String :=
  orderKey channelId item.order.externalOrderId idempotencyKey

theorem ingestOrderIn_eq_ok {repository : OrderRepository} {orderFits linesFit : Prop}
    (fresh : FreshOrder env context channelId item s) (valid : Validated item sold)
    (takes : Takes repository (acceptedOrder env context channelId item (keyOf channelId item idempotencyKey) s) sold s
      orderFits linesFit) {order : ChannelOrder} {replayed : Bool} :
    (ingestOrderIn repository env context channelId item.immutableRef idempotencyKey).run s =
        (.ok (order, replayed), t) ↔
      (opaqueIdentifier item.immutableRef = true ∧ ¬ blank (keyOf channelId item idempotencyKey) ∧
          (keyOf channelId item idempotencyKey).length ≤ 255 ∧ orderFits ∧ linesFit) ∧
        order = acceptedOrder env context channelId item (keyOf channelId item idempotencyKey) s ∧ replayed = false ∧
        t = announced env context item (acceptedOrder env context channelId item (keyOf channelId item idempotencyKey) s)
          (tookLines context.tenantId s.uuids sold
            (savedOrder (acceptedOrder env context channelId item (keyOf channelId item idempotencyKey) s) s)) := by
  have named : Ingestion.opaqueField (some (.text channelId)) "channel_id" = .ok channelId :=
    opaqueField_eq_ok.mpr ⟨rfl, fresh.channel⟩
  simp only [ingestOrderIn, bind_eq_ok, require_eq_ok, ofExcept_eq_ok, named, ensure_eq_ok, now_eq_ok]
  constructor
  · rintro ⟨_, _, ⟨-, rfl⟩, _, _, ⟨same, rfl⟩, payload, _, loaded, ran⟩
    cases same
    obtain ⟨ref, kept, rfl⟩ := (loadPayload_of_kept fresh valid).mp loaded
    obtain ⟨external, event, fields⟩ := orderFields_of_valid valid kept
    simp only [external, event, fields, Except.ok.injEq] at ran
    obtain ⟨_, _, ⟨rfl, rfl⟩, _, _, ⟨rfl, rfl⟩, _, _, ⟨rfl, rfl⟩, _, _, ⟨⟨nonblank, short⟩, rfl⟩, _, _, ⟨rfl, rfl⟩, ran⟩ := ran
    obtain ⟨⟨fits, small⟩, result⟩ := (acceptOrderIn_eq_ok fresh takes).mp ran
    exact ⟨⟨ref, nonblank, short, fits, small⟩, result⟩
  · rintro ⟨⟨ref, nonblank, short, fits, small⟩, result⟩
    obtain ⟨payload, kept⟩ : ∃ payload, Value.dict payload = item.payload :=
      ⟨_, (valid.payload.trans (sorted_orderPayload item.order)).symm⟩
    obtain ⟨external, event, fields⟩ := orderFields_of_valid valid kept
    refine ⟨(), _, ⟨fresh.authorized, rfl⟩, _, _, ⟨rfl, rfl⟩, payload, _,
      (loadPayload_of_kept fresh valid).mpr ⟨ref, kept, rfl⟩, ?_⟩
    simp only [external, event, fields, Except.ok.injEq]
    exact ⟨_, _, ⟨rfl, rfl⟩, _, _, ⟨rfl, rfl⟩, _, _, ⟨rfl, rfl⟩, (), _, ⟨⟨nonblank, short⟩, rfl⟩, _, _, ⟨rfl, rfl⟩,
      (acceptOrderIn_eq_ok fresh takes).mpr ⟨⟨fits, small⟩, result⟩⟩

/-! What each repository asks. -/

/-- No order in the store is the one to be saved. -/
structure Vacant (db : Store) (row : ChannelOrder) : Prop where
  id : ∀ other ∈ db.channelOrders.rows, other.id ≠ row.id
  external : ∀ other ∈ db.channelOrders.rows, ¬ (other.tenantId = row.tenantId ∧ other.channelId = row.channelId ∧
    other.externalOrderKey = row.externalOrderKey)

theorem saveChannelOrder_of_vacant {row saved : ChannelOrder} {existed : Bool} (vacant : Vacant s.db row) :
    (Repository.saveChannelOrder row).run s = (.ok (saved, existed), t) ↔ saved = row ∧ existed = false ∧
      t = { s with db := { s.db with channelOrders := s.db.channelOrders.put row } } := by
  have free : s.db.channelOrders.get? row.key = none :=
    (s.db.channelOrders.get?_eq_none _).mpr fun other member same => vacant.id other member (congrArg Prod.snd same)
  have unheard : s.db.channelOrders.rows.find? (fun other => other.tenantId = row.tenantId ∧
      other.channelId = row.channelId ∧ other.externalOrderKey = row.externalOrderKey) = none :=
    List.find?_eq_none.mpr fun other member same => vacant.external other member (of_decide_eq_true same)
  simp only [Repository.saveChannelOrder, bind_eq_ok, query_eq_ok, and_assoc, exists_and_left, exists_eq_left', free,
    unheard, Option.or_none, write_eq_ok, pure_eq_ok, Prod.mk.injEq, exists_eq_left, exists_const]

theorem sqlite_saveChannelOrder_of_vacant {row saved : ChannelOrder} {existed : Bool} (vacant : Vacant s.db row)
    (total : 0 ≤ row.totalMinor) (version : 0 < row.version) (tenant : (s.db.tenants.get? row.tenantId).isSome)
    (payload : (s.db.normalizedPayloads.get? (row.tenantId, row.payloadRef)).isSome) :
    (SQLiteRepository.saveChannelOrder row).run s = (.ok (saved, existed), t) ↔
      (row.totalMinor < 2 ^ 63 ∧ ∀ other ∈ s.db.channelOrders.rows, other.tenantId = row.tenantId →
        other.idempotencyKey ≠ row.idempotencyKey) ∧ saved = row ∧ existed = false ∧
      t = { s with db := { s.db with channelOrders := s.db.channelOrders.put row } } := by
  have unheard : s.db.channelOrders.rows.find? (fun other => other.tenantId = row.tenantId ∧
      (other.id = row.id ∨ other.channelId = row.channelId ∧ other.externalOrderKey = row.externalOrderKey)) = none := by
    refine List.find?_eq_none.mpr fun other member same => ?_
    rcases of_decide_eq_true same with ⟨ours, named | known⟩
    · exact vacant.id other member named
    · exact vacant.external other member ⟨ours, known⟩
  have fits : Fits row.totalMinor ↔ row.totalMinor < 2 ^ 63 := by
    unfold Fits
    omega
  have unused : (∀ other ∈ s.db.channelOrders.rows, other.id ≠ row.id ∧
      ¬ (other.tenantId = row.tenantId ∧ other.idempotencyKey = row.idempotencyKey)) ↔
      ∀ other ∈ s.db.channelOrders.rows, other.tenantId = row.tenantId → other.idempotencyKey ≠ row.idempotencyKey :=
    forall₂_congr fun other member => by simp [vacant.id other member]
  simp only [SQLiteRepository.saveChannelOrder, bind_eq_ok, query_eq_ok, and_assoc, exists_and_left, exists_eq_left',
    unheard, ensure_eq_ok, fits, total, version, tenant, payload, unused, true_and, write_eq_ok, pure_eq_ok,
    Prod.mk.injEq, exists_eq_left, exists_const]

theorem FreshOrder.vacantFor (fresh : FreshOrder env context channelId item s) (key : String) :
    Vacant s.db (acceptedOrder env context channelId item key s) :=
  ⟨fun other member => Nat.ne_of_lt (fresh.orders other member), fresh.vacant⟩

theorem takes_inMemory (fresh : FreshOrder env context channelId item s) (valid : Validated item sold) (key : String) :
    Takes InMemoryRepository.orders (acceptedOrder env context channelId item key s) sold s True True where
  order _ _ _ := by
    rw [true_and]
    exact saveChannelOrder_of_vacant (fresh.vacantFor key)
  lines _ _ := (takeLinesIn_inMemory valid.sound).trans (by rw [true_and])

theorem takes_sqlite (fresh : FreshOrder env context channelId item s) (valid : Validated item sold) (key : String) :
    Takes SQLiteRepository.orders (acceptedOrder env context channelId item key s) sold s
      (item.order.totalMinor < 2 ^ 63 ∧ ∀ other ∈ s.db.channelOrders.rows, other.tenantId = context.tenantId →
        other.idempotencyKey ≠ key)
      (∀ goods ∈ sold, goods.InColumns) where
  order _ _ _ := by
    obtain ⟨row, found, -⟩ := fresh.kept
    exact sqlite_saveChannelOrder_of_vacant (fresh.vacantFor key) valid.total_nonneg Nat.one_pos fresh.registered
      (Option.isSome_iff_exists.mpr ⟨row, found⟩)
  lines _ _ := by
    apply takeLinesIn_sqlite valid.sound
    refine ⟨Option.isSome_iff_exists.mpr ⟨_, Library.Table.get?_put_self _ _⟩, fun row member => ?_, valid.keys, ?_⟩
    · exact Nat.lt_succ_of_lt (fresh.lines row member).1
    · intro row member _ same
      exact absurd same (Nat.ne_of_lt (fresh.lines row member).2)

/-! What is stored. -/

theorem mem_rowsOf {tenant order id : Uuid} {row : OrderLine} (member : row ∈ rowsOf tenant order id sold) :
    row.tenantId = tenant ∧ row.channelOrderId = order ∧ id ≤ row.id := by
  induction sold generalizing id with
  | nil => cases member
  | cons goods rest ih =>
    rcases List.mem_cons.mp member with rfl | later
    · exact ⟨rfl, rfl, Nat.le_refl _⟩
    · obtain ⟨ours, same, drawn⟩ := ih later
      exact ⟨ours, same, Nat.le_of_succ_le drawn⟩

theorem goods_rowsOf (tenant order id : Uuid) (sold : List SoldGoods) :
    (rowsOf tenant order id sold).map goodsOf = sold := by
  induction sold generalizing id with
  | nil => rfl
  | cons goods rest ih => rw [rowsOf, List.map_cons, ih]; rfl

theorem rowsOf_keys (tenant order id : Uuid) (sold : List SoldGoods) :
    ((rowsOf tenant order id sold).map OrderLine.key).Nodup := by
  induction sold generalizing id with
  | nil => exact List.nodup_nil
  | cons goods rest ih =>
    refine List.nodup_cons.mpr ⟨fun repeated => ?_, ih (id + 1)⟩
    obtain ⟨row, member, same⟩ := List.mem_map.mp repeated
    have drawn := (mem_rowsOf member).2.2
    rw [show row.id = id from congrArg Prod.snd same] at drawn
    exact Nat.not_succ_le_self id drawn

/-- The order is stored with the lines of the payload, in their order, and the amounts of the lines are its total. -/
structure Stored (item : NormalizedItem) (order : ChannelOrder) (s : Library.Session Store) : Prop where
  saved : s.db.channelOrders.get? (order.tenantId, order.id) = some order
  total : order.totalMinor = item.order.totalMinor
  lines : ∃ rows, ((orderLinesFor order.tenantId order.id).run s).1 = .ok rows ∧
    rows.map (fun row => (goodsOf row).material) = item.order.lines ∧
    (rows.map fun row => row.quantity * row.unitMinor).sum = order.totalMinor

theorem stored_of_taken (fresh : FreshOrder env context channelId item s) (valid : Validated item sold) (key : String) :
    Stored item (acceptedOrder env context channelId item key s) (announced env context item
      (acceptedOrder env context channelId item key s)
      (tookLines context.tenantId s.uuids sold (savedOrder (acceptedOrder env context channelId item key s) s))) where
  saved := Library.Table.get?_put_self _ (acceptedOrder env context channelId item key s)
  total := rfl
  lines := by
    have table : ((rowsOf context.tenantId s.uuids (s.uuids + 1) sold).foldl Library.Table.put s.db.orderLines).rows =
        s.db.orderLines.rows ++ rowsOf context.tenantId s.uuids (s.uuids + 1) sold := by
      apply Library.Table.rows_foldl_put_of_fresh _ (rowsOf_keys _ _ _ _)
      intro row among other member same
      have drawn := (mem_rowsOf among).2.2
      have older := (fresh.lines other member).1
      rw [show other.id = row.id from congrArg Prod.snd same] at older
      exact Nat.lt_irrefl _ (Nat.lt_trans older drawn)
    have selected : (s.db.orderLines.rows ++ rowsOf context.tenantId s.uuids (s.uuids + 1) sold).filter
        (fun row => row.tenantId = context.tenantId ∧ row.channelOrderId = s.uuids) =
        rowsOf context.tenantId s.uuids (s.uuids + 1) sold := by
      rw [List.filter_append, List.filter_eq_nil_iff.mpr, List.filter_eq_self.mpr, List.nil_append]
      · intro row member
        obtain ⟨ours, same, -⟩ := mem_rowsOf member
        exact decide_eq_true ⟨ours, same⟩
      · intro row member same
        exact Nat.ne_of_lt (fresh.lines row member).2 (of_decide_eq_true same).2
    refine ⟨rowsOf context.tenantId s.uuids (s.uuids + 1) sold, ?_, ?_, ?_⟩
    · refine congrArg Prod.fst (orderLinesFor_eq_ok.mpr ⟨⟨_, Library.Table.get?_put_self _ _⟩, ?_, rfl⟩)
      exact (congrArg _ table).trans selected
    · conv_rhs => rw [valid.lines, ← goods_rowsOf context.tenantId s.uuids (s.uuids + 1) sold, List.map_map]
      rfl
    · have amounts : (rowsOf context.tenantId s.uuids (s.uuids + 1) sold).map (fun row => row.quantity * row.unitMinor) =
          sold.map SoldGoods.amount := by
        conv_rhs => rw [← goods_rowsOf context.tenantId s.uuids (s.uuids + 1) sold, List.map_map]
        rfl
      rw [amounts, ← valid.total]
      rfl

/-! What is ingested. -/

/-- The first call for the payload answers with an order of its own, and the order is stored whole. -/
def Ingests (repository : OrderRepository) (env : Env) (context : TenantContext) (channelId : String)
    (item : NormalizedItem) (idempotencyKey : Option String) (s : Library.Session Store) : Prop :=
  ∃ order t, (ingestOrderIn repository env context channelId item.immutableRef idempotencyKey).run s =
    (.ok (order, false), t) ∧ Stored item order t

/-- Every integer of a line is in the range of a column. -/
def inColumns : Value → Bool
  | .dict line => line.all fun entry => match entry.2 with
    | .int number => number < 2 ^ 63
    | _ => true
  | _ => true

theorem inColumns_material (goods : SoldGoods) : inColumns goods.material = true ↔ goods.InColumns := by
  obtain ⟨sku, quantity, unit, key⟩ := goods
  cases key <;> simp [inColumns, SoldGoods.material, SoldGoods.InColumns]

/-- What ingestion asks beyond the validator: a reference and a key that the service admits, a key that the tenant has
not used, and numbers that a column takes. -/
structure Ingestible (context : TenantContext) (channelId : String) (item : NormalizedItem)
    (idempotencyKey : Option String) (db : Store) : Prop where
  ref : opaqueIdentifier item.immutableRef = true
  key : ¬ blank (keyOf channelId item idempotencyKey) ∧ (keyOf channelId item idempotencyKey).length ≤ 255
  unused : ∀ other ∈ db.channelOrders.rows, other.tenantId = context.tenantId →
    other.idempotencyKey ≠ keyOf channelId item idempotencyKey
  total : item.order.totalMinor < 2 ^ 63
  lines : ∀ line ∈ item.order.lines, inColumns line = true

theorem ingests_iff {repository : OrderRepository} {orderFits linesFit : Prop}
    (fresh : FreshOrder env context channelId item s) (valid : Validated item sold)
    (takes : Takes repository (acceptedOrder env context channelId item (keyOf channelId item idempotencyKey) s) sold s
      orderFits linesFit) :
    Ingests repository env context channelId item idempotencyKey s ↔
      opaqueIdentifier item.immutableRef = true ∧ ¬ blank (keyOf channelId item idempotencyKey) ∧
        (keyOf channelId item idempotencyKey).length ≤ 255 ∧ orderFits ∧ linesFit := by
  constructor
  · rintro ⟨order, t, ran, -⟩
    exact ((ingestOrderIn_eq_ok fresh valid takes).mp ran).1
  · intro admitted
    exact ⟨_, _, (ingestOrderIn_eq_ok fresh valid takes).mpr ⟨admitted, rfl, rfl, rfl⟩, stored_of_taken fresh valid _⟩

/-- An accepted payload is ingested by both repositories when ingestion admits it, and by no means otherwise. -/
theorem accepted_payloads_ingest_iff (env : Env) (raw : Value) (item : NormalizedItem) (context : TenantContext)
    (channelId : String) (idempotencyKey : Option String) (s : Library.Session Store)
    (accepted : normalizeDemoOrder env raw = .ok item) (fresh : FreshOrder env context channelId item s) :
    (Ingests InMemoryRepository.orders env context channelId item idempotencyKey s ∧
        Ingests SQLiteRepository.orders env context channelId item idempotencyKey s) ↔
      Ingestible context channelId item idempotencyKey s.db := by
  obtain ⟨sold, valid⟩ := normalizeDemoOrder_validated accepted
  have lines : (∀ line ∈ item.order.lines, inColumns line = true) ↔ ∀ goods ∈ sold, goods.InColumns := by
    rw [valid.lines, List.forall_mem_map]
    exact forall₂_congr fun goods _ => inColumns_material goods
  rw [ingests_iff fresh valid (takes_inMemory fresh valid _), ingests_iff fresh valid (takes_sqlite fresh valid _)]
  constructor
  · rintro ⟨-, ref, nonblank, short, ⟨total, unused⟩, small⟩
    exact ⟨ref, ⟨nonblank, short⟩, unused, total, lines.mpr small⟩
  · rintro ⟨ref, ⟨nonblank, short⟩, unused, total, small⟩
    exact ⟨⟨ref, nonblank, short, trivial, trivial⟩, ref, nonblank, short, ⟨total, unused⟩, lines.mp small⟩

end

/-! An order of so many free articles that no column takes the number. -/

open Ingestion (hexEnv shop registered newWorld pollDemoConnection)

def demoOrder (quantity unitMinor : Int) : Value := .dict [("external_order_id", .text "order-1"),
  ("event_id", .text "event-1"), ("revision", .int 1), ("currency", .text "KRW"),
  ("total_minor", .int (quantity * unitMinor)),
  ("lines", .list [.dict [("sku", .text "sku-1"), ("quantity", .int quantity), ("unit_minor", .int unitMinor)]])]

def demoItem (quantity unitMinor : Int) : NormalizedItem :=
  let order : Ingestion.NormalizedDemoOrder := ⟨"order-1", "event-1", 1, "KRW", quantity * unitMinor,
    [.dict [("sku", .text "sku-1"), ("quantity", .int quantity), ("unit_minor", .int unitMinor)]], none⟩
  ⟨order, Ingestion.orderPayload order, Ingestion.immutableRefOf "event-1" 1 (hexEnv.digest (Ingestion.orderPayload order))⟩

/-- The session of a registered shop that has polled the order. -/
def polledSession (quantity unitMinor : Int) : Library.Session Store :=
  ((pollDemoConnection hexEnv Execution.demoMaster shop (0 : Nat)
    { provider := "demo", adapterVersion := "demo-orders-v1" } none fun _ =>
      { items := [demoOrder quantity unitMinor], nextCursor := some "p1", hasMore := false, observedAt := .utc 0 }).run
    (Library.final (Ingestion.World.step hexEnv) newWorld registered).session).2

def payloadRow (quantity unitMinor : Int) : NormalizedInboundPayload where
  tenantId := 0
  immutableRef := (demoItem quantity unitMinor).immutableRef
  canonicalDigest := hexEnv.digest (demoItem quantity unitMinor).payload
  schemaVersion := 1
  payload := (demoItem quantity unitMinor).payload
  sourceDigest := none
  createdAt := .utc 0

def announcesOrder : OutboxKey → Bool
  | .orderAccepted _ => true
  | _ => false

/-- What a glance at the session behind the poll shows. -/
structure Polled (quantity unitMinor : Int) (db : Store) : Prop where
  master : db.memberships.get? (0, 1) = some ⟨0, 1, [.master], true, 1⟩
  tenant : (db.tenants.get? 0).isSome
  payload : db.normalizedPayloads.get? (payloadRow quantity unitMinor).key = some (payloadRow quantity unitMinor)
  orders : db.channelOrders.rows = []
  lines : db.orderLines.rows = []
  events : ∀ key ∈ db.outbox.outboxIdempotency.entries.map Prod.fst, announcesOrder key.2 = false

instance (quantity unitMinor : Int) (db : Store) : Decidable (Polled quantity unitMinor db) :=
  decidable_of_iff (_ ∧ _ ∧ _ ∧ _ ∧ _ ∧ _)
    ⟨fun ⟨master, tenant, payload, orders, lines, events⟩ => ⟨master, tenant, payload, orders, lines, events⟩,
      fun ⟨master, tenant, payload, orders, lines, events⟩ => ⟨master, tenant, payload, orders, lines, events⟩⟩

theorem Polled.fresh {quantity unitMinor : Int} {s : Library.Session Store} (polled : Polled quantity unitMinor s.db) :
    FreshOrder hexEnv Execution.demoMaster "shop" (demoItem quantity unitMinor) s where
  authorized := ⟨_, polled.master, rfl, rfl, by decide⟩
  registered := polled.tenant
  channel := by decide
  kept := ⟨_, polled.payload, rfl, rfl, rfl⟩
  vacant row member := by
    rw [polled.orders] at member
    cases member
  orders row member := by
    rw [polled.orders] at member
    cases member
  lines row member := by
    rw [polled.lines] at member
    cases member
  events order _ := (Library.lookupEntry_eq_none _ _).mpr fun known => Bool.false_ne_true (polled.events _ known).symm

/-- An ordinary order is ingested by both repositories. -/
theorem ordinary_order_ingests :
    (Ingests InMemoryRepository.orders hexEnv Execution.demoMaster "shop" (demoItem 2 100) none (polledSession 2 100) ∧
        Ingests SQLiteRepository.orders hexEnv Execution.demoMaster "shop" (demoItem 2 100) none (polledSession 2 100)) ↔
      Ingestible Execution.demoMaster "shop" (demoItem 2 100) none (polledSession 2 100).db :=
  accepted_payloads_ingest_iff hexEnv (demoOrder 2 100) (demoItem 2 100) Execution.demoMaster "shop" none
    (polledSession 2 100) (by decide +kernel)
    (Polled.fresh (by decide +kernel))

/-- An accepted order of 2^63 free articles is ingested by the one repository and overflows in the other, where it is
not ingested. -/
theorem free_articles_overflow :
    normalizeDemoOrder hexEnv (demoOrder (2 ^ 63) 0) = .ok (demoItem (2 ^ 63) 0) ∧
      FreshOrder hexEnv Execution.demoMaster "shop" (demoItem (2 ^ 63) 0) (polledSession (2 ^ 63) 0) ∧
      ((ingestOrderIn SQLiteRepository.orders hexEnv Execution.demoMaster "shop" (demoItem (2 ^ 63) 0).immutableRef
          none).run (polledSession (2 ^ 63) 0)).1 =
        .error (overflowError "Python int too large to convert to SQLite INTEGER") ∧
      ¬ Ingests SQLiteRepository.orders hexEnv Execution.demoMaster "shop" (demoItem (2 ^ 63) 0) none
        (polledSession (2 ^ 63) 0) := by
  have overflow : ((ingestOrderIn SQLiteRepository.orders hexEnv Execution.demoMaster "shop"
      (demoItem (2 ^ 63) 0).immutableRef none).run (polledSession (2 ^ 63) 0)).1 =
        .error (overflowError "Python int too large to convert to SQLite INTEGER") := by decide +kernel
  refine ⟨by decide +kernel, Polled.fresh (by decide +kernel), overflow, ?_⟩
  rintro ⟨order, t, ran, -⟩
  rw [ran] at overflow
  cases overflow

end AiStore.Purchasing
