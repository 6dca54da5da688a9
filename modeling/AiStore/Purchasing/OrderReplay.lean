import AiStore.Purchasing.IntakeLimits
import AiStore.Purchasing.RoutedOrders
import AiStore.Library.Runs

/-! Repeated orders: what `ingest_order` answers to an order that is known, in both repositories. -/

set_option autoImplicit false

namespace AiStore.Purchasing

open Library (Session Timestamp final)
open Library.Txn Failure Repository Service
open Aftersales.SQLiteRepository (Fits)

/-! ## Calls -/

/-- A call that is checked, before its transaction. -/
structure CheckedOrder where
  channelId : String
  external : String
  eventId : String
  fields : OrderFields
  key : String
  now : Timestamp

structure IngestCall where
  context : TenantContext
  channelId : String
  payloadRef : String
  idempotencyKey : Option String

section

variable (env : Env)

/-- `ingest_order` up to its transaction. -/
def checkOrder (call : IngestCall) : Op CheckedOrder := do
  require call.context .tenantAdmin
  let channelId ← ofExcept (Ingestion.opaqueField (some (.text call.channelId)) "channel_id")
  let payload ← loadPayload env call.context call.payloadRef
  let external ← ofExcept (Ingestion.opaqueField (payload.get? "external_order_id") "external_order_id")
  let eventId ← ofExcept (Ingestion.opaqueField (payload.get? "event_id") "event_id")
  let fields ← ofExcept (orderFields payload)
  let key := orderKey channelId external call.idempotencyKey
  ensure (¬ blank key ∧ key.length ≤ 255) (conflictError "invalid idempotency_key")
  let now ← now env
  pure ⟨channelId, external, eventId, fields, key, now⟩

def accept (repository : OrderRepository) (call : IngestCall) (checked : CheckedOrder) : Op (ChannelOrder × Bool) :=
  acceptOrderIn repository env call.context checked.channelId checked.external call.payloadRef checked.eventId checked.key
    checked.fields checked.now

def orderStep (repository : OrderRepository) (call : IngestCall) (s : Session Store) :
    Except Failure (ChannelOrder × Bool) × Session Store :=
  (ingestOrderIn repository env call.context call.channelId call.payloadRef call.idempotencyKey).run s

end

section

variable {env : Env} {repository : OrderRepository} {call : IngestCall} {checked : CheckedOrder} {s t : Session Store}

theorem run_bind_assoc {α β γ : Type} (first : Op α) (second : α → Op β) (third : β → Op γ) (s : Session Store) :
    (first >>= second >>= third).run s = (first >>= fun value => second value >>= third).run s := by
  simp only [run_bind]
  rcases first.run s with ⟨_ | value, middle⟩
  · rfl
  · rfl

theorem run_bind_congr {α β : Type} {first : Op α} {next other : α → Op β} (same : ∀ value t, (next value).run t = (other value).run t)
    (s : Session Store) : (first >>= next).run s = (first >>= other).run s := by
  simp only [run_bind]
  rcases first.run s with ⟨_ | value, middle⟩
  · rfl
  · exact same value middle

theorem run_bind_front {α β : Type} {first other : Op α} {next : α → Op β} (same : first.run s = other.run s) :
    (first >>= next).run s = (other >>= next).run s := by
  rw [run_bind, run_bind, same]

theorem orderStep_checked (repository : OrderRepository) (call : IngestCall) (s : Session Store) :
    orderStep env repository call s = (checkOrder env call >>= accept env repository call).run s := by
  unfold orderStep ingestOrderIn checkOrder accept
  simp only [run_bind_assoc]
  refine run_bind_congr (fun _ _ => ?_) s
  simp only [run_bind_assoc]
  refine run_bind_congr (fun _ _ => ?_) _
  simp only [run_bind_assoc]
  refine run_bind_congr (fun _ _ => ?_) _
  simp only [run_bind_assoc]
  refine run_bind_congr (fun _ _ => ?_) _
  simp only [run_bind_assoc]
  refine run_bind_congr (fun _ _ => ?_) _
  simp only [run_bind_assoc]
  refine run_bind_congr (fun _ _ => ?_) _
  simp only [run_bind_assoc]
  refine run_bind_congr (fun _ _ => ?_) _
  simp only [run_bind_assoc]
  exact run_bind_congr (fun _ _ => rfl) _

theorem keeps_checkOrder {υ : Type} {view : Store → υ} : Keeps view (checkOrder env call) := by
  refine (keeps_require _).bind fun _ => (keeps_ofExcept _).bind fun _ => keeps_loadPayload.bind fun _ => ?_
  refine (keeps_ofExcept _).bind fun _ => (keeps_ofExcept _).bind fun _ => (keeps_ofExcept _).bind fun _ => ?_
  exact (keeps_ensure _ _).bind fun _ => keeps_now.bind fun _ => keeps_pure _

/-- The checks read the store and leave it as it is. -/
theorem unread_checkOrder {s t : Session Store} {outcome : Except Failure CheckedOrder}
    (checking : (checkOrder env call).run s = (outcome, t)) : t.db = s.db :=
  (@keeps_checkOrder env call _ fun db => db).of_run checking

/-- What the store and the call say of a call that is checked. -/
structure Read (db : Store) (call : IngestCall) (payload : Mapping) (checked : CheckedOrder) : Prop where
  kept : ∃ row, db.normalizedPayloads.get? (call.context.tenantId, call.payloadRef) = some row ∧ row.payload = .dict payload
  channel : checked.channelId = call.channelId
  external : payload.get? "external_order_id" = some (.text checked.external)
  fields : orderFields payload = .ok checked.fields
  key : checked.key = orderKey call.channelId checked.external call.idempotencyKey

theorem checkOrder_read (ran : (checkOrder env call).run s = (.ok checked, t)) :
    ∃ payload, Read s.db call payload checked := by
  simp only [checkOrder, bind_eq_ok, require_eq_ok, ofExcept_eq_ok, ensure_eq_ok, now_eq_ok, pure_eq_ok,
    Ingestion.opaqueField_eq_ok] at ran
  obtain ⟨_, _, ⟨-, rfl⟩, _, _, ⟨⟨same, -⟩, rfl⟩, payload, _, loaded, _, _, ⟨⟨named, -⟩, rfl⟩, _, _, ⟨-, rfl⟩, fields, _,
    ⟨read, rfl⟩, _, _, ⟨-, rfl⟩, _, _, ⟨-, rfl⟩, rfl, -⟩ := ran
  cases same
  simp only [loadPayload, getNormalizedPayload, bind_eq_ok, require_eq_ok, inboundIdentifier_eq_ok, query_eq_ok,
    fetch_eq_ok, ensure_eq_ok] at loaded
  obtain ⟨_, _, ⟨-, rfl⟩, _, _, ⟨-, rfl⟩, row, _, ⟨_, _, ⟨rfl, rfl⟩, found, rfl⟩, _, _, ⟨-, rfl⟩, loaded⟩ := loaded
  split at loaded
  · next dict =>
    obtain ⟨rfl, -⟩ := (pure_eq_ok _ _ _ _).mp loaded
    exact ⟨_, ⟨row, found, dict⟩, rfl, named, read, rfl⟩
  · exact absurd loaded (by simp only [raise_eq_ok, not_false_iff])

theorem orderFields_total {payload : Mapping} {fields : OrderFields} (read : orderFields payload = .ok fields) :
    0 ≤ fields.totalMinor := by
  unfold orderFields at read
  split at read
  · split at read
    · cases read
      assumption
    · cases read
  · cases read

end

/-! ## What a repository does with an order -/

def identity (row : ChannelOrder) : String × String := (row.channelId, row.externalOrderKey)

def content (row : ChannelOrder) : String × Int × String := (row.payloadRef, row.totalMinor, row.currency)

/-- At most one order of the tenant has each value of the measure. -/
def OneOrderPer {μ : Type} (tenant : Uuid) (measure : ChannelOrder → μ) (db : Store) : Prop :=
  ∀ first ∈ db.channelOrders.rows, ∀ second ∈ db.channelOrders.rows, first.tenantId = tenant → second.tenantId = tenant →
    measure first = measure second → first = second

def withOrder (row : ChannelOrder) (s : Session Store) : Session Store :=
  { s with db := { s.db with channelOrders := s.db.channelOrders.put row } }

def withLine (row : OrderLine) (s : Session Store) : Session Store :=
  { s with db := { s.db with orderLines := s.db.orderLines.put row } }

/-- What both repositories do with orders under fresh ids, and with lines. -/
structure Saves (repository : OrderRepository) : Prop where
  known : ∀ (row prior : ChannelOrder) (s : Session Store), (∀ other ∈ s.db.channelOrders.rows, other.id ≠ row.id) →
    OneOrderPer row.tenantId identity s.db → prior ∈ s.db.channelOrders.rows → prior.tenantId = row.tenantId →
    identity prior = identity row → (repository.saveChannelOrder row).run s =
      (if content prior = content row then .ok (prior, true)
        else .error (conflictError "order identity reused with different content"), s)
  replayed : ∀ (row saved : ChannelOrder) (s t : Session Store),
    (repository.saveChannelOrder row).run s = (.ok (saved, true), t) → t = s
  added : ∀ (row saved : ChannelOrder) (s t : Session Store), (∀ other ∈ s.db.channelOrders.rows, other.id ≠ row.id) →
    (repository.saveChannelOrder row).run s = (.ok (saved, false), t) → saved = row ∧ Vacant s.db row ∧ t = withOrder row s
  line : ∀ (row : OrderLine) (s t : Session Store) (u : Unit),
    (repository.saveOrderLine row).run s = (.ok u, t) → t = withLine row s

section

variable {row prior saved : ChannelOrder} {s t : Session Store}

theorem same_tuple_iff (same : identity prior = identity row) :
    (prior.channelId, prior.externalOrderKey, prior.payloadRef, prior.totalMinor, prior.currency) =
      (row.channelId, row.externalOrderKey, row.payloadRef, row.totalMinor, row.currency) ↔ content prior = content row := by
  simp only [identity, content, Prod.mk.injEq] at same ⊢
  simp only [same, true_and]

/-- The comparison with the order that is found, in both repositories. -/
theorem compared_run (same : identity prior = identity row) :
    (ensure ((prior.channelId, prior.externalOrderKey, prior.payloadRef, prior.totalMinor, prior.currency) =
        (row.channelId, row.externalOrderKey, row.payloadRef, row.totalMinor, row.currency))
      (conflictError "order identity reused with different content") >>= fun _ => pure (prior, true) :
        Op (ChannelOrder × Bool)).run s =
      (if content prior = content row then .ok (prior, true)
        else .error (conflictError "order identity reused with different content"), s) := by
  rw [run_ensure_pure]
  exact Prod.ext (if_congr (same_tuple_iff same) rfl rfl) rfl

theorem inMemory_saves : Saves InMemoryRepository.orders where
  known row prior s apart one member ours same := by
    have free : s.db.channelOrders.get? row.key = none :=
      (s.db.channelOrders.get?_eq_none _).mpr fun other among named => apart other among (congrArg Prod.snd named)
    have found : s.db.channelOrders.rows.find? (fun other => other.tenantId = row.tenantId ∧
        other.channelId = row.channelId ∧ other.externalOrderKey = row.externalOrderKey) = some prior := by
      refine Library.find?_of_unique member (decide_eq_true ⟨ours, Prod.mk.inj same⟩) fun other among holds => ?_
      obtain ⟨theirs, channel, external⟩ := of_decide_eq_true holds
      exact one other among prior member theirs ours ((Prod.ext channel external : identity other = identity row).trans same.symm)
    refine Eq.trans ?_ (compared_run same)
    simp only [InMemoryRepository.orders, Repository.saveChannelOrder]
    rw [run_bind]
    simp only [query, free, found, Option.none_or]
  replayed row saved s t ran := by
    simp only [InMemoryRepository.orders, Repository.saveChannelOrder, bind_eq_ok, query_eq_ok] at ran
    obtain ⟨_, _, ⟨rfl, rfl⟩, ran⟩ := ran
    split at ran
    · simp only [bind_eq_ok, ensure_eq_ok, pure_eq_ok] at ran
      obtain ⟨_, _, ⟨-, rfl⟩, -, rfl⟩ := ran
      rfl
    · simp only [bind_eq_ok, write_eq_ok, pure_eq_ok, Prod.mk.injEq] at ran
      obtain ⟨_, _, -, ⟨-, impossible⟩, -⟩ := ran
      cases impossible
  added row saved s t apart ran := by
    simp only [InMemoryRepository.orders, Repository.saveChannelOrder, bind_eq_ok, query_eq_ok] at ran
    obtain ⟨_, _, ⟨rfl, rfl⟩, ran⟩ := ran
    split at ran
    · simp only [bind_eq_ok, ensure_eq_ok, pure_eq_ok, Prod.mk.injEq] at ran
      obtain ⟨_, _, -, ⟨-, impossible⟩, -⟩ := ran
      cases impossible
    · next none =>
      simp only [bind_eq_ok, write_eq_ok, pure_eq_ok, Prod.mk.injEq] at ran
      obtain ⟨_, _, rfl, ⟨rfl, -⟩, rfl⟩ := ran
      have unheard := List.find?_eq_none.mp (Option.or_eq_none_iff.mp none).2
      exact ⟨rfl, ⟨apart, fun other among holds => unheard other among (decide_eq_true holds)⟩, rfl⟩
  line row s t u ran := by
    simp only [InMemoryRepository.orders, Repository.saveOrderLine, write_eq_ok] at ran
    exact ran

theorem sqlite_saves : Saves SQLiteRepository.orders where
  known row prior s apart one member ours same := by
    have found : s.db.channelOrders.rows.find? (fun other => other.tenantId = row.tenantId ∧ (other.id = row.id ∨
        other.channelId = row.channelId ∧ other.externalOrderKey = row.externalOrderKey)) = some prior := by
      refine Library.find?_of_unique member (decide_eq_true ⟨ours, .inr (Prod.mk.inj same)⟩) fun other among holds => ?_
      obtain ⟨theirs, named | ⟨channel, external⟩⟩ := of_decide_eq_true holds
      · exact absurd named (apart other among)
      · exact one other among prior member theirs ours
          ((Prod.ext channel external : identity other = identity row).trans same.symm)
    refine Eq.trans ?_ (compared_run same)
    simp only [SQLiteRepository.orders, SQLiteRepository.saveChannelOrder]
    rw [run_bind]
    simp only [query, found]
  replayed row saved s t ran := by
    simp only [SQLiteRepository.orders, SQLiteRepository.saveChannelOrder, bind_eq_ok, query_eq_ok] at ran
    obtain ⟨_, _, ⟨rfl, rfl⟩, ran⟩ := ran
    split at ran
    · simp only [bind_eq_ok, ensure_eq_ok, pure_eq_ok] at ran
      obtain ⟨_, _, ⟨-, rfl⟩, -, rfl⟩ := ran
      rfl
    · simp only [bind_eq_ok, query_eq_ok, ensure_eq_ok, write_eq_ok, pure_eq_ok, Prod.mk.injEq] at ran
      obtain ⟨_, _, -, _, _, -, _, _, -, _, _, -, _, _, -, ⟨-, impossible⟩, -⟩ := ran
      cases impossible
  added row saved s t apart ran := by
    simp only [SQLiteRepository.orders, SQLiteRepository.saveChannelOrder, bind_eq_ok, query_eq_ok] at ran
    obtain ⟨_, _, ⟨rfl, rfl⟩, ran⟩ := ran
    split at ran
    · simp only [bind_eq_ok, ensure_eq_ok, pure_eq_ok, Prod.mk.injEq] at ran
      obtain ⟨_, _, -, ⟨-, impossible⟩, -⟩ := ran
      cases impossible
    · next none =>
      simp only [bind_eq_ok, query_eq_ok, ensure_eq_ok, write_eq_ok, pure_eq_ok, Prod.mk.injEq] at ran
      obtain ⟨_, _, ⟨-, rfl⟩, _, _, ⟨-, rfl⟩, _, _, ⟨-, rfl⟩, _, _, ⟨-, rfl⟩, _, _, rfl, ⟨rfl, -⟩, rfl⟩ := ran
      have unheard := List.find?_eq_none.mp none
      exact ⟨rfl, ⟨apart, fun other among holds => unheard other among (decide_eq_true ⟨holds.1, .inr holds.2⟩)⟩, rfl⟩
  line row s t u ran := by
    simp only [SQLiteRepository.orders, SQLiteRepository.saveOrderLine, bind_eq_ok, query_eq_ok, ensure_eq_ok,
      write_eq_ok] at ran
    obtain ⟨_, _, ⟨-, rfl⟩, _, _, ⟨-, rfl⟩, _, _, ⟨-, rfl⟩, _, _, ⟨-, rfl⟩, rfl⟩ := ran
    rfl

/-- The key of an order is unique in the schema. -/
theorem sqlite_key_unused (ran : (SQLiteRepository.saveChannelOrder row).run s = (.ok (saved, false), t)) :
    ∀ other ∈ s.db.channelOrders.rows, other.tenantId = row.tenantId → other.idempotencyKey ≠ row.idempotencyKey := by
  simp only [SQLiteRepository.saveChannelOrder, bind_eq_ok, query_eq_ok] at ran
  obtain ⟨_, _, ⟨rfl, rfl⟩, ran⟩ := ran
  split at ran
  · simp only [bind_eq_ok, ensure_eq_ok, pure_eq_ok, Prod.mk.injEq] at ran
    obtain ⟨_, _, -, ⟨-, impossible⟩, -⟩ := ran
    cases impossible
  · simp only [bind_eq_ok, query_eq_ok, ensure_eq_ok] at ran
    obtain ⟨_, _, ⟨-, rfl⟩, _, _, ⟨-, rfl⟩, _, _, ⟨-, rfl⟩, _, _, ⟨⟨-, -, -, -, apart⟩, rfl⟩, -⟩ := ran
    exact fun other member ours same => (apart other member).2 ⟨ours, same⟩

end

/-! ## Lines of any payload -/

/-- What a line sells, if it can be read. -/
def readLine (line : Value) : Except Failure SoldGoods := (orderLine 0 0 0 line).map goodsOf

/-- The goods of the lines before the first that cannot be read. -/
def readLines : List Value → List SoldGoods
  | [] => []
  | line :: rest => match readLine line with
    | .ok goods => goods :: readLines rest
    | .error _ => []

/-- The columns of a line take the numbers. -/
def SoldGoods.Admitted (goods : SoldGoods) : Prop :=
  (Fits goods.quantity ∧ Fits goods.unitMinor) ∧ 0 < goods.quantity ∧ 0 ≤ goods.unitMinor

instance (goods : SoldGoods) : Decidable goods.Admitted :=
  inferInstanceAs (Decidable ((Fits goods.quantity ∧ Fits goods.unitMinor) ∧ 0 < goods.quantity ∧ 0 ≤ goods.unitMinor))

theorem orderLine_readLine (id tenant order : Uuid) (line : Value) :
    orderLine id tenant order line = (readLine line).map fun goods => goods.row tenant order id := by
  unfold readLine orderLine
  split
  · next fields =>
    cases lineSku fields with
    | error _ => rfl
    | ok sku =>
      cases lineNumber fields "quantity" with
      | error _ => rfl
      | ok quantity =>
        cases lineNumber fields "unit_minor" with
        | error _ => rfl
        | ok unitMinor => rfl
  · rfl

section

variable {repository : OrderRepository} {tenant order : Uuid} {line : Value} {goods : SoldGoods} {s t : Session Store}

theorem takeLineIn_run (read : readLine line = .ok goods) : (takeLineIn repository tenant order line).run s =
    (repository.saveOrderLine (goods.row tenant order s.uuids)).run { s with uuids := s.uuids + 1 } := by
  change (ofExcept (orderLine s.uuids tenant order line) >>= repository.saveOrderLine).run _ = _
  rw [orderLine_readLine, read]
  rfl

theorem takeLineIn_unread {why : Failure} (unread : readLine line = .error why) :
    (takeLineIn repository tenant order line).run s = (.error why, { s with uuids := s.uuids + 1 }) := by
  change (ofExcept (orderLine s.uuids tenant order line) >>= repository.saveOrderLine).run _ = _
  rw [orderLine_readLine, unread]
  rfl

theorem run_each_cons {ι : Type} (item : ι) (rest : List ι) (body : ι → Op Unit) (s : Session Store) :
    (each (item :: rest) body).run s = (body item >>= fun _ => each rest body).run s := rfl

theorem sqlite_takeLine (read : readLine line = .ok goods) (admitted : goods.Admitted) {rest : List SoldGoods}
    (room : LineRoom tenant order (goods :: rest) s) :
    (takeLineIn SQLiteRepository.orders tenant order line).run s = (.ok (), tookLine tenant order goods s) := by
  have apart : ∀ other ∈ s.db.orderLines.rows, other.id ≠ s.uuids ∧
      ¬ (other.tenantId = tenant ∧ other.channelOrderId = order ∧ goods.sourceLineKey.isSome ∧
        other.sourceLineKey = goods.sourceLineKey) := by
    refine fun other member => ⟨Nat.ne_of_lt (room.drawn other member), ?_⟩
    rintro ⟨ours, same, keyed, equal⟩
    obtain ⟨key, named⟩ := Option.isSome_iff_exists.mp keyed
    exact room.apart other member ours same key (equal.trans named)
      (List.mem_filterMap.mpr ⟨goods, List.mem_cons_self, named⟩)
  rw [takeLineIn_run read]
  simp only [SQLiteRepository.orders, SQLiteRepository.saveOrderLine, bind_eq_ok, query_eq_ok, ensure_eq_ok, write_eq_ok]
  exact ⟨_, _, ⟨rfl, rfl⟩, _, _, ⟨rfl, rfl⟩, (), _, ⟨admitted.1, rfl⟩, (), _,
    ⟨⟨admitted.2.1, admitted.2.2, Nat.one_pos, room.saved, apart⟩, rfl⟩, rfl⟩

/-- Lines that the schema admits are taken alike. -/
theorem takeLines_same {lines : List Value} (admitted : ∀ goods ∈ readLines lines, goods.Admitted)
    (room : LineRoom tenant order (readLines lines) s) :
    (each lines (takeLineIn SQLiteRepository.orders tenant order)).run s =
      (each lines (takeLineIn InMemoryRepository.orders tenant order)).run s := by
  induction lines generalizing s with
  | nil => rfl
  | cons line rest ih =>
    rw [run_each_cons, run_each_cons, run_bind, run_bind]
    cases read : readLine line with
    | error why => rw [takeLineIn_unread read, takeLineIn_unread read]
    | ok goods =>
      simp only [readLines, read] at admitted room
      obtain ⟨first, others⟩ := List.forall_mem_cons.mp admitted
      rw [sqlite_takeLine read first room, takeLineIn_run read]
      exact ih others room.next

/-- What lines that are taken change. -/
structure LinesTaken (order : Uuid) (s t : Session Store) : Prop where
  orders : t.db.channelOrders = s.db.channelOrders
  tenants : t.db.tenants = s.db.tenants
  drawn : s.uuids ≤ t.uuids
  rows : ∀ row ∈ t.db.orderLines.rows, row ∈ s.db.orderLines.rows ∨ row.id < t.uuids ∧ row.channelOrderId = order

theorem LinesTaken.trans {u : Session Store} (front : LinesTaken order s t) (back : LinesTaken order t u) :
    LinesTaken order s u where
  orders := back.orders.trans front.orders
  tenants := back.tenants.trans front.tenants
  drawn := Nat.le_trans front.drawn back.drawn
  rows row member := by
    rcases back.rows row member with earlier | added
    · exact (front.rows row earlier).imp_right fun known => ⟨Nat.lt_of_lt_of_le known.1 back.drawn, known.2⟩
    · exact .inr added

theorem takeLineIn_taken (saves : Saves repository) (ran : (takeLineIn repository tenant order line).run s = (.ok (), t)) :
    LinesTaken order s t := by
  cases read : readLine line with
  | error why =>
    rw [takeLineIn_unread read] at ran
    cases ran
  | ok goods =>
    rw [takeLineIn_run read] at ran
    obtain rfl := saves.line _ _ _ _ ran
    refine ⟨rfl, rfl, Nat.le_succ _, fun row member => ?_⟩
    rcases (s.db.orderLines.mem_put _ row).mp member with rfl | ⟨old, -⟩
    · exact .inr ⟨Nat.lt_succ_self _, rfl⟩
    · exact .inl old

theorem takeLinesIn_taken (saves : Saves repository) {lines : List Value} {u : Unit}
    (ran : (each lines (takeLineIn repository tenant order)).run s = (.ok u, t)) : LinesTaken order s t := by
  induction lines generalizing s with
  | nil =>
    obtain rfl := (each_nil_eq_ok _ _ _ _).mp ran
    exact ⟨rfl, rfl, Nat.le_refl _, fun _ member => .inl member⟩
  | cons line rest ih =>
    obtain ⟨middle, first, later⟩ := (each_cons_eq_ok _ _ _ _ _ _).mp ran
    exact (takeLineIn_taken saves first).trans (ih later)

end

/-! ## Steps -/

/-- What holds of the orders of a tenant behind every run. -/
structure OrdersKept (tenant : Uuid) (s : Session Store) : Prop where
  registered : (s.db.tenants.get? tenant).isSome
  orders : ∀ row ∈ s.db.channelOrders.rows, row.id < s.uuids
  lines : ∀ row ∈ s.db.orderLines.rows, row.id < s.uuids ∧ (row.tenantId = tenant → row.channelOrderId < s.uuids)
  identities : OneOrderPer tenant identity s.db

/-- A step that adds an order. -/
structure Adds (repository : OrderRepository) (row : ChannelOrder) (s t : Session Store) : Prop where
  saved : ∃ middle after, middle.db = s.db ∧ (repository.saveChannelOrder row).run middle = (.ok (row, false), after)
  vacant : Vacant s.db row
  orders : t.db.channelOrders = s.db.channelOrders.put row
  tenants : t.db.tenants = s.db.tenants
  drawn : row.id < t.uuids
  lines : ∀ line ∈ t.db.orderLines.rows, line ∈ s.db.orderLines.rows ∨ line.id < t.uuids ∧ line.channelOrderId = row.id

section

variable {env : Env} {repository : OrderRepository} {tenant : Uuid} {call : IngestCall} {checked : CheckedOrder}
  {payload : Mapping} {row prior : ChannelOrder} {s t : Session Store}

theorem OrdersKept.later (kept : OrdersKept tenant s) (same : t.db = s.db) (drawn : s.uuids ≤ t.uuids) :
    OrdersKept tenant t := by
  obtain ⟨registered, orders, lines, identities⟩ := kept
  rw [← same] at registered orders lines identities
  exact ⟨registered, fun row member => Nat.lt_of_lt_of_le (orders row member) drawn,
    fun row member => ⟨Nat.lt_of_lt_of_le (lines row member).1 drawn,
      fun ours => Nat.lt_of_lt_of_le ((lines row member).2 ours) drawn⟩, identities⟩

/-- One more order that is like none of the tenant. -/
theorem oneOrderPer_put {μ : Type} {measure : ChannelOrder → μ} {before after : Store}
    (put : after.channelOrders = before.channelOrders.put row) (one : OneOrderPer tenant measure before)
    (apart : ∀ other ∈ before.channelOrders.rows, other.tenantId = row.tenantId → measure other ≠ measure row) :
    OneOrderPer tenant measure after := by
  intro first first_member second second_member ours theirs same
  rw [put] at first_member second_member
  rcases (before.channelOrders.mem_put row first).mp first_member with rfl | ⟨first_old, -⟩
  · rcases (before.channelOrders.mem_put first second).mp second_member with rfl | ⟨second_old, -⟩
    · rfl
    · exact absurd same.symm (apart second second_old (theirs.trans ours.symm))
  · rcases (before.channelOrders.mem_put row second).mp second_member with rfl | ⟨second_old, -⟩
    · exact absurd same (apart first first_old (ours.trans theirs.symm))
    · exact one first first_old second second_old ours theirs same

theorem OrdersKept.added (kept : OrdersKept tenant s) (adds : Adds repository row s t) (drawn : s.uuids ≤ t.uuids) :
    OrdersKept tenant t where
  registered := by
    rw [adds.tenants]
    exact kept.registered
  orders := by
    rw [adds.orders]
    exact Library.Table.forall_put (fun other member => Nat.lt_of_lt_of_le (kept.orders other member) drawn) adds.drawn
  lines line member := by
    rcases adds.lines line member with old | ⟨fresh, same⟩
    · exact ⟨Nat.lt_of_lt_of_le (kept.lines line old).1 drawn, fun ours => Nat.lt_of_lt_of_le ((kept.lines line old).2 ours) drawn⟩
    · exact ⟨fresh, fun _ => same ▸ adds.drawn⟩
  identities := by
    refine oneOrderPer_put adds.orders kept.identities fun other member ours same => ?_
    exact adds.vacant.external other member ⟨ours, Prod.mk.inj same⟩

/-- The row that a call asks for. -/
def rowFor (call : IngestCall) (checked : CheckedOrder) (id : Uuid) : ChannelOrder where
  id := id
  tenantId := call.context.tenantId
  channelId := checked.channelId
  externalOrderKey := checked.external
  payloadRef := call.payloadRef
  currency := checked.fields.currency
  totalMinor := checked.fields.totalMinor
  status := .accepted
  receivedAt := checked.now
  idempotencyKey := checked.key

/-- What follows behind the order. -/
def announce (env : Env) (repository : OrderRepository) (call : IngestCall) (checked : CheckedOrder)
    (saved : ChannelOrder × Bool) : Op (ChannelOrder × Bool) :=
  if saved.2 then pure (saved.1, true)
  else do
    each checked.fields.lines (takeLineIn repository call.context.tenantId saved.1.id)
    auditBy env call.context "order.accepted" saved.1.id "succeeded" [("external_order_key", .text checked.external),
      ("payload_ref", .text call.payloadRef), ("event_id", .text checked.eventId)]
    publish call.context.tenantId "order.accepted" saved.1.id
      [("order_id", .uuid saved.1.id), ("payload_ref", .text call.payloadRef)] (.orderAccepted saved.1.id) checked.now
    pure (saved.1, false)

/-- The body of the transaction. -/
def acceptance (env : Env) (repository : OrderRepository) (call : IngestCall) (checked : CheckedOrder) :
    Op (ChannelOrder × Bool) :=
  freshUuid >>= fun id => repository.saveChannelOrder (rowFor call checked id) >>= announce env repository call checked

theorem accept_eq : accept env repository call checked = transaction (acceptance env repository call checked) := rfl

theorem acceptance_run : (acceptance env repository call checked).run s =
    (repository.saveChannelOrder (rowFor call checked s.uuids) >>= announce env repository call checked).run
      { s with uuids := s.uuids + 1 } := rfl

/-- The answer to a call for an order that is known. -/
theorem accept_known (saves : Saves repository) (kept : OrdersKept call.context.tenantId s)
    (member : prior ∈ s.db.channelOrders.rows) (ours : prior.tenantId = call.context.tenantId)
    (same : identity prior = (checked.channelId, checked.external)) :
    (accept env repository call checked).run s =
      (if content prior = (call.payloadRef, checked.fields.totalMinor, checked.fields.currency) then .ok (prior, true)
        else .error (conflictError "order identity reused with different content"), { s with uuids := s.uuids + 1 }) := by
  have saving := saves.known (rowFor call checked s.uuids) prior { s with uuids := s.uuids + 1 }
    (fun other among => Nat.ne_of_lt (kept.orders other among)) kept.identities member ours same
  by_cases equal : content prior = (call.payloadRef, checked.fields.totalMinor, checked.fields.currency)
  · rw [if_pos equal, accept_eq, transaction_eq_ok, acceptance_run, bind_eq_ok]
    exact ⟨_, _, saving.trans (congrArg (·, _) (if_pos equal)), rfl⟩
  · rw [if_neg equal]
    exact transaction_raises ((bind_eq_error _ _ _ _ _).mpr (.inl (saving.trans (congrArg (·, _) (if_neg equal)))))

theorem accept_cases (saves : Saves repository) (kept : OrdersKept call.context.tenantId s) :
    ((accept env repository call checked).run s).2.db = s.db ∨
      ∃ row, row.tenantId = call.context.tenantId ∧ Adds repository row s ((accept env repository call checked).run s).2 := by
  rcases ran : (accept env repository call checked).run s with ⟨why | result, t⟩
  · exact .inl (transaction_error_db ran)
  · rw [accept_eq, transaction_eq_ok, acceptance_run, bind_eq_ok] at ran
    obtain ⟨⟨saved, replayed⟩, middle, saving, ran⟩ := ran
    cases replayed with
    | true =>
      obtain rfl := saves.replayed _ _ _ _ saving
      obtain ⟨-, rfl⟩ := (pure_eq_ok _ _ _ _).mp ran
      exact .inl rfl
    | false =>
      have apart : ∀ other ∈ s.db.channelOrders.rows, other.id ≠ (rowFor call checked s.uuids).id :=
        fun other member => Nat.ne_of_lt (kept.orders other member)
      obtain ⟨rfl, vacant, rfl⟩ := saves.added _ saved { s with uuids := s.uuids + 1 } _ apart saving
      simp only [announce, Bool.false_eq_true, if_false, bind_eq_ok, auditBy_eq_ok, publish_eq_ok, pure_eq_ok] at ran
      obtain ⟨_, middle, taking, _, _, rfl, _, _, ⟨-, rfl⟩, -, rfl⟩ := ran
      have taken := takeLinesIn_taken saves taking
      refine .inr ⟨_, rfl, ⟨{ s with uuids := s.uuids + 1 }, _, rfl, saving⟩, vacant, taken.orders, taken.tenants, ?_, fun line member => ?_⟩
      · exact Nat.lt_of_lt_of_le (Nat.lt_of_lt_of_le (Nat.lt_succ_self s.uuids) taken.drawn) (Nat.le_add_right _ 3)
      · exact (taken.rows line member).imp_right fun known => ⟨Nat.lt_of_lt_of_le known.1 (Nat.le_add_right _ 3), known.2⟩

theorem orderStep_advances : s.Advances (orderStep env repository call s).2 := Library.Txn.advances _ s

/-- A call adds an order or changes nothing. -/
theorem orderStep_cases (saves : Saves repository) (kept : OrdersKept call.context.tenantId s) :
    (orderStep env repository call s).2.db = s.db ∨
      ∃ row, row.tenantId = call.context.tenantId ∧ Adds repository row s (orderStep env repository call s).2 := by
  rw [orderStep_checked, run_bind]
  have advanced := (checkOrder env call).advances s
  rcases checking : (checkOrder env call).run s with ⟨why | checked, middle⟩
  · exact .inl (unread_checkOrder checking)
  · have same : middle.db = s.db := unread_checkOrder checking
    rw [checking] at advanced
    have grows := @accept_cases env repository call checked middle saves (kept.later same advanced.2)
    rw [same] at grows
    refine grows.imp_right ?_
    rintro ⟨row, ours, ⟨before, after, here, saving⟩, vacant, orders, tenants, drawn, lines⟩
    rw [same] at here vacant orders tenants lines
    exact ⟨row, ours, ⟨before, after, here, saving⟩, vacant, orders, tenants, drawn, lines⟩

theorem orderStep_kept (saves : Saves repository) (kept : OrdersKept call.context.tenantId s) :
    OrdersKept call.context.tenantId (orderStep env repository call s).2 := by
  rcases orderStep_cases saves kept with same | ⟨row, -, adds⟩
  · exact kept.later same orderStep_advances.2
  · exact kept.added adds orderStep_advances.2

/-- The unique column of the schema keeps the keys of a tenant apart. -/
theorem orderStep_keys (kept : OrdersKept call.context.tenantId s)
    (keys : OneOrderPer call.context.tenantId ChannelOrder.idempotencyKey s.db) :
    OneOrderPer call.context.tenantId ChannelOrder.idempotencyKey
      (orderStep env SQLiteRepository.orders call s).2.db := by
  rcases @orderStep_cases env _ _ _ sqlite_saves kept with same | ⟨row, -, adds⟩
  · rw [same]
    exact keys
  · obtain ⟨middle, after, same, saving⟩ := adds.saved
    have unused := sqlite_key_unused saving
    rw [same] at unused
    exact oneOrderPer_put adds.orders keys unused

theorem orderStep_raises {why : Failure} (raised : (orderStep env repository call s).1 = .error why) :
    (orderStep env repository call s).2.db = s.db := by
  rw [orderStep_checked, run_bind] at raised ⊢
  rcases checking : (checkOrder env call).run s with ⟨_ | checked, middle⟩
  · exact unread_checkOrder checking
  · simp only [checking] at raised ⊢
    exact (transaction_error_db (Prod.ext raised rfl)).trans (unread_checkOrder checking)

/-! The two repositories. -/

/-- A new order of the call is one that the schema has no constraint against. -/
structure Unhindered (tenant : Uuid) (key : String) (fields : OrderFields) (db : Store) : Prop where
  key : ∀ other ∈ db.channelOrders.rows, other.tenantId = tenant → other.idempotencyKey ≠ key
  total : Fits fields.totalMinor
  lines : ∀ goods ∈ readLines fields.lines, goods.Admitted
  lineKeys : ((readLines fields.lines).filterMap SoldGoods.sourceLineKey).Nodup

/-- The call names an order that is known, or the schema takes the new one. -/
def Portable (call : IngestCall) (db : Store) : Prop :=
  ∀ (row : NormalizedInboundPayload) (payload : Mapping) (external : String) (fields : OrderFields),
    db.normalizedPayloads.get? (call.context.tenantId, call.payloadRef) = some row → row.payload = .dict payload →
    payload.get? "external_order_id" = some (.text external) → orderFields payload = .ok fields →
    (∃ prior ∈ db.channelOrders.rows, prior.tenantId = call.context.tenantId ∧ identity prior = (call.channelId, external)) ∨
      Unhindered call.context.tenantId (orderKey call.channelId external call.idempotencyKey) fields db

theorem transaction_congr {α : Type} {first second : Op α} (same : first.run s = second.run s) :
    (transaction first).run s = (transaction second).run s := by
  simp only [transaction, same]

theorem accept_alike (kept : OrdersKept call.context.tenantId s) (read : Read s.db call payload checked)
    (portable : Portable call s.db) : (accept env SQLiteRepository.orders call checked).run s =
      (accept env InMemoryRepository.orders call checked).run s := by
  by_cases known : ∃ prior ∈ s.db.channelOrders.rows, prior.tenantId = call.context.tenantId ∧
    identity prior = (checked.channelId, checked.external)
  · obtain ⟨prior, member, ours, same⟩ := known
    rw [accept_known sqlite_saves kept member ours same, accept_known inMemory_saves kept member ours same]
  obtain ⟨stored, found, dict⟩ := read.kept
  rcases portable stored payload checked.external checked.fields found dict read.external read.fields with prior | free
  · rw [← read.channel] at prior
    exact absurd prior known
  have vacant : Vacant { s with uuids := s.uuids + 1 }.db (rowFor call checked s.uuids) :=
    ⟨fun other member => Nat.ne_of_lt (kept.orders other member),
      fun other member same => known ⟨other, member, same.1, Prod.ext same.2.1 same.2.2⟩⟩
  have unused : ∀ other ∈ s.db.channelOrders.rows, other.tenantId = (rowFor call checked s.uuids).tenantId →
      other.idempotencyKey ≠ (rowFor call checked s.uuids).idempotencyKey := by
    intro other member ours
    rw [show (rowFor call checked s.uuids).idempotencyKey = _ from read.key]
    exact free.key other member ours
  rw [accept_eq, accept_eq]
  apply transaction_congr
  rw [acceptance_run, acceptance_run, run_bind, run_bind]
  rw [show (SQLiteRepository.orders.saveChannelOrder (rowFor call checked s.uuids)).run _ = _ from
      (sqlite_saveChannelOrder_of_vacant vacant (orderFields_total read.fields) Nat.one_pos kept.registered
        (Option.isSome_iff_exists.mpr ⟨stored, found⟩)).mpr ⟨⟨free.total.2, unused⟩, rfl, rfl, rfl⟩,
    show (InMemoryRepository.orders.saveChannelOrder (rowFor call checked s.uuids)).run _ = _ from
      (saveChannelOrder_of_vacant vacant).mpr ⟨rfl, rfl, rfl⟩]
  -- the order is saved alike, and so is each line behind it
  have room : LineRoom call.context.tenantId s.uuids (readLines checked.fields.lines)
      (withOrder (rowFor call checked s.uuids) { s with uuids := s.uuids + 1 }) := by
    refine ⟨Option.isSome_iff_exists.mpr ⟨_, Library.Table.get?_put_self _ (rowFor call checked s.uuids)⟩,
      fun line member => Nat.lt_succ_of_lt (kept.lines line member).1, free.lineKeys, ?_⟩
    intro line member ours same
    exact absurd same (Nat.ne_of_lt ((kept.lines line member).2 ours))
  have lines := takeLines_same free.lines room
  exact run_bind_front lines

theorem orderStep_alike (kept : OrdersKept call.context.tenantId s) (portable : Portable call s.db) :
    orderStep env SQLiteRepository.orders call s = orderStep env InMemoryRepository.orders call s := by
  rw [orderStep_checked, orderStep_checked, run_bind, run_bind]
  have advanced := (checkOrder env call).advances s
  rcases checking : (checkOrder env call).run s with ⟨why | checked, middle⟩
  · rfl
  · have same : middle.db = s.db := unread_checkOrder checking
    obtain ⟨payload, read⟩ := checkOrder_read checking
    rw [checking] at advanced
    rw [← same] at read portable
    exact accept_alike (kept.later same advanced.2) read portable

end

/-! ## Histories -/

/-- A tenant without orders, beside other tenants. -/
structure Opening (tenant : Uuid) (s : Session Store) : Prop where
  registered : (s.db.tenants.get? tenant).isSome
  orders : ∀ row ∈ s.db.channelOrders.rows, row.tenantId ≠ tenant ∧ row.id < s.uuids
  lines : ∀ row ∈ s.db.orderLines.rows, row.tenantId ≠ tenant ∧ row.id < s.uuids

theorem Opening.one {tenant : Uuid} {s : Session Store} (opening : Opening tenant s) {μ : Type} (measure : ChannelOrder → μ) :
    OneOrderPer tenant measure s.db :=
  fun first member _ _ ours => absurd ours (opening.orders first member).1

theorem Opening.kept {tenant : Uuid} {s : Session Store} (opening : Opening tenant s) : OrdersKept tenant s where
  registered := opening.registered
  orders row member := (opening.orders row member).2
  lines row member := ⟨(opening.lines row member).2, fun ours => absurd ours (opening.lines row member).1⟩
  identities := opening.one identity

/-- What a call that is checked answers for an order that is known: the order, when the content is the same, and a conflict
otherwise. Nothing is written. -/
def Replays (env : Env) (repository : OrderRepository) (call : IngestCall) (s : Session Store) : Prop :=
  ∀ (checked : CheckedOrder) (t : Session Store) (prior : ChannelOrder), (checkOrder env call).run s = (.ok checked, t) →
    prior ∈ s.db.channelOrders.rows → prior.tenantId = call.context.tenantId →
    identity prior = (checked.channelId, checked.external) → (orderStep env repository call s).2.db = s.db ∧
    ((orderStep env repository call s).1 = .ok (prior, true) ↔
      content prior = (call.payloadRef, checked.fields.totalMinor, checked.fields.currency)) ∧
    (content prior ≠ (call.payloadRef, checked.fields.totalMinor, checked.fields.currency) →
      (orderStep env repository call s).1 = .error (conflictError "order identity reused with different content"))

theorem replays_of_kept {env : Env} {repository : OrderRepository} {call : IngestCall} {s : Session Store}
    (saves : Saves repository) (kept : OrdersKept call.context.tenantId s) : Replays env repository call s := by
  intro checked t prior checking member ours same
  have unread : t.db = s.db := unread_checkOrder checking
  have advanced := (checkOrder env call).advances s
  rw [checking] at advanced
  rw [← unread] at member
  have answer : orderStep env repository call s = (if content prior =
      (call.payloadRef, checked.fields.totalMinor, checked.fields.currency) then .ok (prior, true)
        else .error (conflictError "order identity reused with different content"), { t with uuids := t.uuids + 1 }) := by
    rw [orderStep_checked, run_bind, checking]
    exact accept_known saves (kept.later unread advanced.2) member ours same
  rw [answer]
  refine ⟨unread, ?_, fun apart => if_neg apart⟩
  by_cases equal : content prior = (call.payloadRef, checked.fields.totalMinor, checked.fields.currency)
  · exact ⟨fun _ => equal, fun _ => if_pos equal⟩
  · rw [if_neg equal]
    exact ⟨fun answered => (by cases answered), fun same => absurd same equal⟩

section

variable {env : Env} {repository : OrderRepository} {tenant : Uuid} {start : Session Store} {calls : List IngestCall}

theorem kept_behind (saves : Saves repository) (opening : Opening tenant start)
    (ours : ∀ call ∈ calls, call.context.tenantId = tenant) :
    OrdersKept tenant (final (orderStep env repository) start calls) := by
  apply Library.final_invariant (OrdersKept tenant) opening.kept
  intro call member s kept
  cases ours call member
  exact orderStep_kept saves kept

theorem keys_behind (opening : Opening tenant start) (ours : ∀ call ∈ calls, call.context.tenantId = tenant) :
    OneOrderPer tenant ChannelOrder.idempotencyKey (final (orderStep env SQLiteRepository.orders) start calls).db := by
  suffices both : OrdersKept tenant (final (orderStep env SQLiteRepository.orders) start calls) ∧
      OneOrderPer tenant ChannelOrder.idempotencyKey (final (orderStep env SQLiteRepository.orders) start calls).db from both.2
  apply Library.final_invariant (fun s => OrdersKept tenant s ∧ OneOrderPer tenant ChannelOrder.idempotencyKey s.db)
    ⟨opening.kept, opening.one _⟩
  rintro call member s ⟨kept, keys⟩
  cases ours call member
  exact ⟨orderStep_kept sqlite_saves kept, orderStep_keys kept keys⟩

/-- A history each call of which the schema has no constraint against, where the repository has none. -/
def PortableRun (env : Env) (start : Session Store) (calls : List IngestCall) : Prop :=
  ∀ before call after, calls = before ++ call :: after →
    Portable call (final (orderStep env InMemoryRepository.orders) start before).db

theorem runs_alike (opening : Opening tenant start) (ours : ∀ call ∈ calls, call.context.tenantId = tenant)
    (portable : PortableRun env start calls) :
    Library.trace (orderStep env SQLiteRepository.orders) start calls =
        Library.trace (orderStep env InMemoryRepository.orders) start calls ∧
      final (orderStep env SQLiteRepository.orders) start calls =
        final (orderStep env InMemoryRepository.orders) start calls := by
  refine Library.run_induction (fun calls => Library.trace (orderStep env SQLiteRepository.orders) start calls =
      Library.trace (orderStep env InMemoryRepository.orders) start calls ∧
    final (orderStep env SQLiteRepository.orders) start calls =
      final (orderStep env InMemoryRepository.orders) start calls) ?_ ?_
  · simp only [Library.trace, Library.final_nil, and_self]
  rintro before call after split ⟨answers, alike⟩
  have among : ∀ other ∈ before, other.context.tenantId = tenant := fun other member =>
    ours other (split ▸ List.mem_append_left _ member)
  have this : call.context.tenantId = tenant := ours call (split ▸ List.mem_append_right _ List.mem_cons_self)
  have kept := @kept_behind env _ tenant start before inMemory_saves opening among
  rw [← this] at kept
  have step := @orderStep_alike env call _ kept (portable before call after split)
  rw [Library.trace_concat, Library.trace_concat, Library.final_concat, Library.final_concat, answers, alike, step]
  exact ⟨rfl, rfl⟩

/-- `ingest_order` over every history of a tenant. Both repositories keep one order per external key and replay it, and
only the schema keeps one per idempotency key; where it has nothing against any call, the two answer alike. -/
theorem order_ingestion_idempotent (env : Env) (tenant : Uuid) (start : Session Store) (calls : List IngestCall)
    (opening : Opening tenant start) (ours : ∀ call ∈ calls, call.context.tenantId = tenant) :
    (∀ repository, repository = InMemoryRepository.orders ∨ repository = SQLiteRepository.orders →
      OneOrderPer tenant identity (final (orderStep env repository) start calls).db ∧
      ∀ call : IngestCall, call.context.tenantId = tenant →
        Replays env repository call (final (orderStep env repository) start calls) ∧
        ∀ why, (orderStep env repository call (final (orderStep env repository) start calls)).1 = .error why →
          (orderStep env repository call (final (orderStep env repository) start calls)).2.db =
            (final (orderStep env repository) start calls).db) ∧
    OneOrderPer tenant ChannelOrder.idempotencyKey (final (orderStep env SQLiteRepository.orders) start calls).db ∧
    (PortableRun env start calls →
      OneOrderPer tenant ChannelOrder.idempotencyKey (final (orderStep env InMemoryRepository.orders) start calls).db ∧
      Library.trace (orderStep env SQLiteRepository.orders) start calls =
        Library.trace (orderStep env InMemoryRepository.orders) start calls ∧
      final (orderStep env SQLiteRepository.orders) start calls =
        final (orderStep env InMemoryRepository.orders) start calls) := by
  refine ⟨fun repository which => ?_, keys_behind opening ours, fun portable => ?_⟩
  · have saves : Saves repository := by
      rcases which with rfl | rfl
      · exact inMemory_saves
      · exact sqlite_saves
    have kept := @kept_behind env repository tenant start calls saves opening ours
    refine ⟨kept.identities, fun call this => ⟨?_, fun why raised => orderStep_raises raised⟩⟩
    rw [← this] at kept
    exact replays_of_kept saves kept
  · obtain ⟨answers, alike⟩ := @runs_alike env tenant start calls opening ours portable
    refine ⟨?_, answers, alike⟩
    rw [← alike]
    exact keys_behind opening ours

end

/-! One idempotency key for the orders of two channels. -/

def callFor (channelId : String) : IngestCall :=
  ⟨Execution.demoMaster, channelId, (demoItem 2 100).immutableRef, some "key-1"⟩

theorem Polled.opening {quantity unitMinor : Int} {s : Session Store} (polled : Polled quantity unitMinor s.db) : Opening 0 s where
  registered := polled.tenant
  orders row member := by
    rw [polled.orders] at member
    cases member
  lines row member := by
    rw [polled.lines] at member
    cases member

theorem Polled.portable {s : Session Store} (polled : Polled 2 100 s.db) (channelId : String) :
    Portable (callFor channelId) s.db := by
  intro row payload external fields found dict named read
  cases polled.payload.symm.trans found
  cases (show payload = _ from (Value.dict.inj dict).symm)
  cases (show external = _ from (Value.text.inj (Option.some.inj named)).symm)
  cases (show fields = _ from (Except.ok.inj read).symm)
  refine .inr ⟨fun other member => ?_, by decide, by decide, by decide⟩
  rw [polled.orders] at member
  cases member

/-- An order that both repositories answer alike. -/
theorem order_ingestion_idempotent_polled :
    Library.trace (orderStep Ingestion.hexEnv SQLiteRepository.orders) (polledSession 2 100) [callFor "shop"] =
      Library.trace (orderStep Ingestion.hexEnv InMemoryRepository.orders) (polledSession 2 100) [callFor "shop"] := by
  have polled : Polled 2 100 (polledSession 2 100).db := by decide +kernel
  refine ((order_ingestion_idempotent Ingestion.hexEnv 0 (polledSession 2 100) [callFor "shop"] polled.opening
    (by simp [callFor, Execution.demoMaster])).2.2 fun before call after split => ?_).2.1
  obtain ⟨rfl, rfl, -⟩ : before = [] ∧ call = callFor "shop" ∧ after = [] := by
    cases before with
    | nil => simpa [eq_comm] using split
    | cons _ _ => simp at split
  exact polled.portable "shop"

/-- The second order under the key is accepted by the one repository, where two orders have it then, and conflicts in the
other. -/
theorem shared_key_accepted :
    Opening 0 (polledSession 2 100) ∧
      ¬ OneOrderPer 0 ChannelOrder.idempotencyKey
        (final (orderStep Ingestion.hexEnv InMemoryRepository.orders) (polledSession 2 100)
          [callFor "shop", callFor "mall"]).db ∧
      (orderStep Ingestion.hexEnv SQLiteRepository.orders (callFor "mall")
          (final (orderStep Ingestion.hexEnv SQLiteRepository.orders) (polledSession 2 100) [callFor "shop"])).1 =
        .error (conflictError "order idempotency key already exists") := by
  have kept : ((final (orderStep Ingestion.hexEnv InMemoryRepository.orders) (polledSession 2 100)
      [callFor "shop", callFor "mall"]).db.channelOrders.rows.map fun row =>
        (row.tenantId, row.channelId, row.idempotencyKey)) = [(0, "shop", "key-1"), (0, "mall", "key-1")] := by decide +kernel
  refine ⟨?_, fun one => ?_, by decide +kernel⟩
  · exact @Polled.opening 2 100 _ (by decide +kernel)
  · obtain ⟨first, others, rows, first_is, kept⟩ := List.map_eq_cons_iff.mp kept
    obtain ⟨second, _, rfl, second_is, -⟩ := List.map_eq_cons_iff.mp kept
    simp only [Prod.mk.injEq] at first_is second_is
    have same := one first (rows ▸ List.mem_cons_self) second (rows ▸ List.mem_cons_of_mem _ List.mem_cons_self) first_is.1
      second_is.1 (first_is.2.2.trans second_is.2.2.symm)
    rw [same, second_is.2.1] at first_is
    exact absurd first_is.2.1 (by decide)

end AiStore.Purchasing
