import AiStore.Gateway.Canonical
import AiStore.Library.Lines
import AiStore.Library.Runs

/-! Demo notifications: preferences, the channels that are tried in turn, and the deliveries that are kept.

A delivery is kept under a text of its own, which is the idempotency key of a
muted request and the key with the channel behind it of any other.
-/

set_option autoImplicit false

namespace AiStore.Controls

open Library

/-! ## The tables -/

inductive Channel where
  | appPush
  | email
  | chatgpt
  deriving DecidableEq

def Channel.name : Channel → String
  | .appPush => "app_push"
  | .email => "email"
  | .chatgpt => "chatgpt"

/-- `_CHANNELS`. -/
def channels : List Channel := [.appPush, .email, .chatgpt]

inductive DeliveryState where
  | muted
  | failed
  | delivered
  deriving DecidableEq

structure DemoNotificationPreference where
  tenantId : Uuid
  notificationKey : String
  channels : List Channel
  muted : Bool
  version : Nat := 1
  deriving DecidableEq

/-- A delivery, with no channel when it was muted; the payload is the one that its JSON decodes to. -/
structure DemoNotificationDelivery where
  id : Uuid
  tenantId : Uuid
  notificationKey : String
  channel : Option Channel
  payload : Value
  state : DeliveryState
  attempt : Nat
  fallbackFrom : Option Channel
  idempotencyKey : String
  createdAt : Timestamp
  deriving DecidableEq

/-- The event that a request leaves in the outbox. -/
structure SimulatedNotification where
  tenantId : Uuid
  notificationKey : String
  state : DeliveryState
  channel : Option Channel
  idempotencyKey : String
  deriving DecidableEq

structure AuditNote where
  tenantId : Uuid
  action : String
  notificationKey : String
  outcome : String
  deriving DecidableEq

/-- The tables, and how many deliveries have been given an identifier. -/
structure NotificationBook where
  preferences : List DemoNotificationPreference := []
  deliveries : List DemoNotificationDelivery := []
  outbox : List SimulatedNotification := []
  audits : List AuditNote := []
  uuids : Nat := 0
  deriving DecidableEq

def check (condition : Prop) [Decidable condition] (message : String) : Except Failure Unit :=
  if condition then .ok () else .error (.conflictError message)

/-! ## Preferences -/

/-- What `require` says of the caller, and what it asks for. -/
structure PreferenceRequest where
  permitted : Except Failure Unit
  tenantId : Uuid
  notificationKey : String
  channels : List String
  muted : Bool

def channelOf (name : String) : Option Channel := channels.find? fun channel => channel.name = name

def preferenceFor (book : NotificationBook) (tenant : Uuid) (key : String) : Option DemoNotificationPreference :=
  book.preferences.find? fun row => row.tenantId = tenant ∧ row.notificationKey = key

/-- `set_demo_notification_preference`. -/
def setDemoNotificationPreference (request : PreferenceRequest) (book : NotificationBook) :
    Except Failure (DemoNotificationPreference × NotificationBook) := do
  request.permitted
  check (Gateway.opaqueText request.notificationKey = true) "invalid notification_key"
  check (request.channels ≠ [] ∧ request.channels.Nodup ∧ ∀ name ∈ request.channels, (channelOf name).isSome = true)
    "invalid notification preference"
  let version := ((preferenceFor book request.tenantId request.notificationKey).map (·.version + 1)).getD 1
  let value : DemoNotificationPreference :=
    ⟨request.tenantId, request.notificationKey, request.channels.filterMap channelOf, request.muted, version⟩
  let others := book.preferences.filter fun row =>
    ¬ (row.tenantId = request.tenantId ∧ row.notificationKey = request.notificationKey)
  pure (value, { book with
    preferences := others ++ [value]
    audits := book.audits ++ [⟨request.tenantId, "notification.preference_changed", request.notificationKey, "succeeded"⟩] })

/-! ## Deliveries -/

structure NotifyRequest where
  permitted : Except Failure Unit
  tenantId : Uuid
  notificationKey : String
  payload : Mapping
  idempotencyKey : String
  failedChannels : List String
  /-- The clock, by the attempt that reads it. -/
  clock : Nat → Timestamp

def NotifyRequest.encoded (request : NotifyRequest) : Value := Gateway.sorted (.dict request.payload)

/-- The text that a delivery is kept under. -/
def deliveryKey (key : String) : Option Channel → String
  | none => key
  | some channel => key ++ ":" ++ channel.name

def eventKey (key : String) : String := "notification:" ++ key ++ ":simulated"

/-- `save_notification_delivery`. -/
def saveNotificationDelivery (value : DemoNotificationDelivery) (book : NotificationBook) :
    Except Failure ((DemoNotificationDelivery × Bool) × NotificationBook) :=
  match book.deliveries.find? fun row => row.tenantId = value.tenantId ∧ row.idempotencyKey = value.idempotencyKey with
  | some prior =>
      if prior.payload = value.payload then .ok ((prior, true), book)
      else .error (.conflictError "notification idempotency key reused")
  | none => .ok ((value, false), { book with deliveries := book.deliveries ++ [value], uuids := book.uuids + 1 })

/-- The delivery of one attempt. -/
def deliveryOf (request : NotifyRequest) (id : Uuid) (channel : Option Channel) (state : DeliveryState) (attempt : Nat)
    (previous : Option Channel) : DemoNotificationDelivery where
  id := id
  tenantId := request.tenantId
  notificationKey := request.notificationKey
  channel := channel
  payload := request.encoded
  state := state
  attempt := attempt
  fallbackFrom := previous
  idempotencyKey := deliveryKey request.idempotencyKey channel
  createdAt := request.clock attempt

/-- The channels from an attempt on, until one delivers. -/
def attemptChannels (request : NotifyRequest) (attempt : Nat) (previous : Option Channel) :
    List Channel → NotificationBook → Except Failure (List (DemoNotificationDelivery × Bool) × NotificationBook)
  | [], book => .ok ([], book)
  | channel :: rest, book => do
      let state := if channel.name ∈ request.failedChannels then DeliveryState.failed else .delivered
      let (saved, book) ← saveNotificationDelivery
        (deliveryOf request book.uuids (some channel) state attempt previous) book
      if state = .delivered then .ok ([saved], book)
      else do
        let (others, book) ← attemptChannels request (attempt + 1) (some channel) rest book
        pure (saved :: others, book)

structure NotifyResult where
  state : DeliveryState
  channel : Option Channel
  deliveries : List DemoNotificationDelivery
  replayed : Bool

/-- `append_outbox`. -/
def appendOutbox (event : SimulatedNotification) (book : NotificationBook) : Except Failure (Unit × NotificationBook) :=
  if (event.tenantId, event.idempotencyKey) ∈ book.outbox.map fun row => (row.tenantId, row.idempotencyKey) then
    .error (.conflictError "outbox idempotency key already exists")
  else .ok ((), { book with outbox := book.outbox ++ [event] })

/-- The preference of a request; all channels when there is none. -/
def preferenceOf (request : NotifyRequest) (book : NotificationBook) : DemoNotificationPreference :=
  (preferenceFor book request.tenantId request.notificationKey).getD
    ⟨request.tenantId, request.notificationKey, channels, false, 1⟩

/-- A muted request. -/
def notifyMuted (request : NotifyRequest) (book : NotificationBook) : Except Failure (NotifyResult × NotificationBook) := do
  let ((delivery, replay), book) ← saveNotificationDelivery (deliveryOf request book.uuids none .muted 1 none) book
  pure (⟨delivery.state, delivery.channel, [delivery], replay⟩, book)

def deliveredOutcome (state : DeliveryState) : String := if state = .delivered then "succeeded" else "blocked"

/-- What is done behind the attempts of a request. -/
def concludeNotification (request : NotifyRequest) (saved : List (DemoNotificationDelivery × Bool)) (book : NotificationBook) :
    Except Failure (NotifyResult × NotificationBook) :=
  match saved.getLast? with
  | none => .error (.typeError "list index out of range")
  | some (last, _) =>
      let replayed := saved.all (·.2)
      let result : NotifyResult := ⟨last.state, last.channel, saved.map Prod.fst, replayed⟩
      if replayed = true then .ok (result, book)
      else do
        let noted := { book with audits := book.audits ++
          [⟨request.tenantId, "notification.simulated", request.notificationKey, deliveredOutcome last.state⟩] }
        let (_, book) ← appendOutbox
          ⟨request.tenantId, request.notificationKey, last.state, last.channel, eventKey request.idempotencyKey⟩ noted
        pure (result, book)

/-- The transaction of `notify_demo`. -/
def deliver (request : NotifyRequest) (book : NotificationBook) : Except Failure (NotifyResult × NotificationBook) :=
  if (preferenceOf request book).muted = true then notifyMuted request book
  else do
    let (saved, book) ← attemptChannels request 1 none (preferenceOf request book).channels book
    concludeNotification request saved book

/-- `notify_demo`. -/
def notifyDemo (request : NotifyRequest) (book : NotificationBook) : Except Failure (NotifyResult × NotificationBook) := do
  request.permitted
  check (Gateway.opaqueText request.notificationKey = true) "invalid notification_key"
  check (Gateway.opaqueText request.idempotencyKey = true) "invalid idempotency_key"
  check (∀ name ∈ request.failedChannels, (channelOf name).isSome = true) "invalid DEMO notification"
  check ((Value.dict request.payload).strictJson = true) "notification payload must be finite JSON"
  check (Gateway.jsonSize (.dict request.payload) ≤ 16 * 1024) "notification payload too large"
  deliver request book

/-! ## Runs -/

inductive NotificationCall where
  | prefer (request : PreferenceRequest)
  | notify (request : NotifyRequest)

/-- A call that raises leaves the tables alone. -/
def notificationStep : NotificationCall → NotificationBook → Except Failure (Option NotifyResult) × NotificationBook
  | .prefer request, book => attempt book ((setDemoNotificationPreference request book).map fun done => (none, done.2))
  | .notify request, book => attempt book ((notifyDemo request book).map fun done => (some done.1, done.2))

end AiStore.Controls
