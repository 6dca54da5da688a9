import AiStore.Controls.Notifications
import AiStore.Library.Transaction

/-! What runs of notifications keep, and when an idempotency key stands for one notification. -/

set_option autoImplicit false

namespace AiStore.Controls

open Library

/-! ## Keys -/

theorem deliveryKey_inj {first second : String} {one other : Channel}
    (same : deliveryKey first (some one) = deliveryKey second (some other)) : first = second ∧ one = other := by
  have letters := congrArg (fun text => text.toList.reverse) same
  simp only [deliveryKey, String.toList_append, List.reverse_append, List.append_assoc] at letters
  have solid : ∀ channel : Channel, ':' ∉ channel.name.toList.reverse := by
    intro channel
    cases channel <;> decide
  have names : ∀ left right : Channel, left.name.toList.reverse = right.name.toList.reverse → left = right := by
    intro left right
    cases left <;> cases right <;> decide
  obtain ⟨tails, heads⟩ := parted_inj (solid one) (solid other) letters
  exact ⟨String.toList_injective (List.reverse_injective heads), names one other tails⟩

/-- A delivery of a key. -/
def Belongs (key : String) (delivery : DemoNotificationDelivery) : Prop :=
  delivery.idempotencyKey = deliveryKey key delivery.channel

theorem Belongs.key_eq {first second : String} {delivery : DemoNotificationDelivery} (one : Belongs first delivery)
    (other : Belongs second delivery) : first = second := by
  have same := one.symm.trans other
  cases shown : delivery.channel with
  | none =>
    rw [shown] at same
    exact same
  | some channel =>
    rw [shown] at same
    exact (deliveryKey_inj same).1

/-! ## One request -/

section

variable {request : NotifyRequest} {book after : NotificationBook}

/-- A delivery that a request makes of an attempt. -/
structure Made (request : NotifyRequest) (delivery : DemoNotificationDelivery) : Prop where
  tenant : delivery.tenantId = request.tenantId
  notification : delivery.notificationKey = request.notificationKey
  payload : delivery.payload = request.encoded
  belongs : Belongs request.idempotencyKey delivery
  state : delivery.channel = none ↔ delivery.state = .muted

/-- Deliveries are told by what they are kept under. -/
def Distinct (book : NotificationBook) : Prop :=
  (book.deliveries.map fun row => (row.tenantId, row.idempotencyKey)).Nodup

/-- A delivery that was found or kept, under the key of a channel. -/
structure Answered (request : NotifyRequest) (channel : Option Channel) (book : NotificationBook)
    (delivery : DemoNotificationDelivery) : Prop where
  member : delivery ∈ book.deliveries
  tenant : delivery.tenantId = request.tenantId
  key : delivery.idempotencyKey = deliveryKey request.idempotencyKey channel
  payload : delivery.payload = request.encoded

theorem saveNotificationDelivery_ok {value delivery : DemoNotificationDelivery} {replay : Bool}
    (ran : saveNotificationDelivery value book = .ok ((delivery, replay), after)) :
    delivery ∈ after.deliveries ∧ delivery.tenantId = value.tenantId ∧ delivery.idempotencyKey = value.idempotencyKey ∧
      delivery.payload = value.payload ∧ (Distinct book → Distinct after) ∧
      (replay = true ∧ after = book ∨
        replay = false ∧ delivery = value ∧
          (∀ row ∈ book.deliveries, row.tenantId = value.tenantId → row.idempotencyKey ≠ value.idempotencyKey) ∧
          after = { book with deliveries := book.deliveries ++ [value], uuids := book.uuids + 1 }) := by
  unfold saveNotificationDelivery at ran
  split at ran
  · next prior found =>
    split at ran
    · next same =>
      cases ran
      have named := List.find?_some found
      simp only [decide_eq_true_eq] at named
      exact ⟨List.mem_of_find?_eq_some found, named.1, named.2, same, id, .inl ⟨rfl, rfl⟩⟩
    · cases ran
  · next missing =>
    cases ran
    have free : ∀ row ∈ book.deliveries, row.tenantId = value.tenantId → row.idempotencyKey ≠ value.idempotencyKey :=
      fun row member tenant key => List.find?_eq_none.mp missing row member (decide_eq_true ⟨tenant, key⟩)
    refine ⟨List.mem_append_right _ List.mem_cons_self, rfl, rfl, rfl, fun distinct => ?_, .inr ⟨rfl, rfl, free, rfl⟩⟩
    rw [Distinct, List.map_append, List.nodup_append']
    refine ⟨distinct, List.nodup_singleton _, fun name left right => ?_⟩
    obtain rfl := List.mem_singleton.mp right
    obtain ⟨row, member, same⟩ := List.mem_map.mp left
    obtain ⟨tenant, key⟩ := Prod.mk.inj same
    exact free row member tenant key

/-- What the attempts of a request have added: at most one of them has delivered. -/
structure Added (request : NotifyRequest) (before added : List DemoNotificationDelivery) : Prop where
  made : ∀ delivery ∈ added, Made request delivery ∧ delivery.channel ≠ none
  fresh : ∀ delivery ∈ added, ∀ row ∈ before, row.tenantId = delivery.tenantId → row.idempotencyKey ≠ delivery.idempotencyKey
  once : ∀ first ∈ added, ∀ second ∈ added, first.state = .delivered → second.state = .delivered → first = second

theorem Added.nothing {before : List DemoNotificationDelivery} : Added request before [] :=
  ⟨List.forall_mem_nil _, List.forall_mem_nil _, List.forall_mem_nil _⟩

theorem made_deliveryOf (id : Uuid) (channel : Channel) {state : DeliveryState} (loud : state ≠ .muted) (attempt : Nat)
    (previous : Option Channel) : Made request (deliveryOf request id (some channel) state attempt previous) :=
  ⟨rfl, rfl, rfl, rfl, ⟨fun none => (Option.some_ne_none _ none).elim, fun muted => (loud muted).elim⟩⟩

/-- What the attempts answer with, and what they add. -/
structure Attempted (request : NotifyRequest) (tried : List Channel) (book after : NotificationBook)
    (saved : List (DemoNotificationDelivery × Bool)) : Prop where
  others : after.preferences = book.preferences ∧ after.outbox = book.outbox
  added : ∃ added, after.deliveries = book.deliveries ++ added ∧ Added request book.deliveries added ∧
    (saved.all (·.2) = true → added = [])
  distinct : Distinct book → Distinct after
  answered : ∀ entry ∈ saved, ∃ channel ∈ tried, Answered request (some channel) after entry.1

theorem attemptChannels_ok {attempt : Nat} {previous : Option Channel} {tried : List Channel}
    {saved : List (DemoNotificationDelivery × Bool)}
    (ran : attemptChannels request attempt previous tried book = .ok (saved, after)) :
    Attempted request tried book after saved := by
  induction tried generalizing attempt previous book saved with
  | nil =>
    cases ran
    exact ⟨⟨rfl, rfl⟩, ⟨[], (List.append_nil _).symm, .nothing, fun _ => rfl⟩, id, List.forall_mem_nil _⟩
  | cons channel rest ih =>
    simp only [attemptChannels, except_bind_eq_ok] at ran
    obtain ⟨⟨⟨delivery, replay⟩, middle⟩, kept, ran⟩ := ran
    generalize shown : (if channel.name ∈ request.failedChannels then DeliveryState.failed else .delivered) = state at kept ran
    have loud : state ≠ .muted := by
      subst shown
      split <;> exact DeliveryState.noConfusion
    obtain ⟨member, tenant, key, payload, distinct, outcome⟩ := saveNotificationDelivery_ok kept
    -- what this attempt adds, which is nothing for a replay
    obtain ⟨first, grown, added, quiet, others, told⟩ : ∃ first, middle.deliveries = book.deliveries ++ first ∧
        Added request book.deliveries first ∧ (replay = true → first = []) ∧
        (middle.preferences = book.preferences ∧ middle.outbox = book.outbox) ∧ ∀ one ∈ first, one.state = state := by
      rcases outcome with ⟨rfl, rfl⟩ | ⟨rfl, rfl, free, rfl⟩
      · exact ⟨[], (List.append_nil _).symm, .nothing, fun _ => rfl, ⟨rfl, rfl⟩, List.forall_mem_nil _⟩
      · refine ⟨[_], rfl, ⟨?_, ?_, ?_⟩, fun never => Bool.noConfusion never, ⟨rfl, rfl⟩, ?_⟩
        · exact List.forall_mem_singleton.mpr ⟨made_deliveryOf _ _ loud _ _, Option.some_ne_none _⟩
        · exact List.forall_mem_singleton.mpr free
        · intro one here other there _ _
          rw [List.mem_singleton.mp here, List.mem_singleton.mp there]
        · exact List.forall_mem_singleton.mpr rfl
    split at ran
    · next delivered =>
      cases ran
      refine ⟨others, ⟨first, grown, added, fun all => quiet ?_⟩, distinct, fun entry inside => ?_⟩
      · simpa using all
      · obtain rfl := List.mem_singleton.mp inside
        exact ⟨channel, List.mem_cons_self, member, tenant, key, payload⟩
    · next failed =>
      simp only [except_bind_eq_ok] at ran
      obtain ⟨⟨later, last⟩, behind, made⟩ := ran
      cases made
      obtain ⟨⟨preferences, outbox⟩, ⟨more, grown_more, added_more, quiet_more⟩, distinct_more, answered⟩ := ih behind
      refine ⟨⟨preferences.trans others.1, outbox.trans others.2⟩, ⟨first ++ more, ?_, ⟨?_, ?_, ?_⟩, fun all => ?_⟩,
        distinct_more ∘ distinct, ?_⟩
      · rw [grown_more, grown, List.append_assoc]
      · exact List.forall_mem_append.mpr ⟨added.made, added_more.made⟩
      · refine List.forall_mem_append.mpr ⟨added.fresh, fun one here row known => added_more.fresh one here row ?_⟩
        rw [grown]
        exact List.mem_append_left _ known
      · -- this attempt has not delivered
        intro one here other there delivered again
        have later_only : ∀ entry ∈ first ++ more, entry.state = .delivered → entry ∈ more := by
          intro entry inside loudly
          rcases List.mem_append.mp inside with early | late
          · exact absurd ((told entry early).symm.trans loudly) failed
          · exact late
        exact added_more.once one (later_only one here delivered) other (later_only other there again) delivered again
      · rw [List.all_cons, Bool.and_eq_true] at all
        rw [quiet all.1, quiet_more all.2, List.nil_append]
      · refine List.forall_mem_cons.mpr ⟨⟨channel, List.mem_cons_self, ?_, tenant, key, payload⟩, fun entry inside => ?_⟩
        · rw [grown_more]
          exact List.mem_append_left _ member
        · obtain ⟨tried, listed, answer⟩ := answered entry inside
          exact ⟨tried, List.mem_cons_of_mem _ listed, answer⟩

/-- What a request looks up: its key when it is muted, its key with a channel otherwise. -/
def Looked (request : NotifyRequest) (book : NotificationBook) : Option Channel → Prop
  | none => (preferenceOf request book).muted = true
  | some channel => (preferenceOf request book).muted = false ∧ channel ∈ (preferenceOf request book).channels

def Simulated (request : NotifyRequest) (book : NotificationBook) : Prop :=
  (request.tenantId, eventKey request.idempotencyKey) ∈ book.outbox.map fun row => (row.tenantId, row.idempotencyKey)

/-- What an accepted request has done. -/
structure Notified (request : NotifyRequest) (book : NotificationBook) (result : NotifyResult) (after : NotificationBook) :
    Prop where
  distinct : Distinct book → Distinct after
  outbox : book.outbox ⊆ after.outbox
  added : ∃ added, after.deliveries = book.deliveries ++ added ∧
    (∀ delivery ∈ added, Made request delivery ∧ (delivery.channel = none ↔ (preferenceOf request book).muted = true)) ∧
    (∀ delivery ∈ added, ∀ row ∈ book.deliveries,
      row.tenantId = delivery.tenantId → row.idempotencyKey ≠ delivery.idempotencyKey) ∧
    (∀ first ∈ added, ∀ second ∈ added, first.state = .delivered → second.state = .delivered → first = second) ∧
    (added ≠ [] → (preferenceOf request book).muted = false → ¬ Simulated request book ∧ Simulated request after)
  answered : ∀ delivery ∈ result.deliveries, ∃ channel, Looked request book channel ∧ Answered request channel after delivery
  some_delivery : result.deliveries ≠ []

theorem notifyMuted_ok {result : NotifyResult} (muted : (preferenceOf request book).muted = true)
    (ran : notifyMuted request book = .ok (result, after)) : Notified request book result after := by
  simp only [notifyMuted, except_bind_eq_ok] at ran
  obtain ⟨⟨⟨delivery, replay⟩, middle⟩, kept, made⟩ := ran
  cases made
  obtain ⟨member, tenant, key, payload, distinct, outcome⟩ := saveNotificationDelivery_ok kept
  have answered : ∀ one ∈ [delivery], ∃ channel, Looked request book channel ∧ Answered request channel middle one :=
    List.forall_mem_singleton.mpr ⟨none, muted, member, tenant, key, payload⟩
  rcases outcome with ⟨-, rfl⟩ | ⟨-, rfl, free, rfl⟩
  · exact ⟨distinct, fun _ => id, ⟨[], (List.append_nil _).symm, List.forall_mem_nil _, List.forall_mem_nil _, List.forall_mem_nil _,
      fun some_added => absurd rfl some_added⟩, answered, List.cons_ne_nil _ _⟩
  · refine ⟨distinct, fun _ => id, ⟨[_], rfl, ?_, ?_, ?_, fun _ loud => ?_⟩, answered, List.cons_ne_nil _ _⟩
    · exact List.forall_mem_singleton.mpr ⟨⟨rfl, rfl, rfl, rfl, ⟨fun _ => rfl, fun _ => rfl⟩⟩, ⟨fun _ => muted, fun _ => rfl⟩⟩
    · exact List.forall_mem_singleton.mpr free
    · intro first here second there _ _
      rw [List.mem_singleton.mp here, List.mem_singleton.mp there]
    · rw [muted] at loud
      cases loud

theorem appendOutbox_ok {event : SimulatedNotification} {u : Unit} (ran : appendOutbox event book = .ok (u, after)) :
    (event.tenantId, event.idempotencyKey) ∉ book.outbox.map (fun row => (row.tenantId, row.idempotencyKey)) ∧
      after = { book with outbox := book.outbox ++ [event] } := by
  unfold appendOutbox at ran
  split at ran
  · cases ran
  · next free =>
    cases ran
    exact ⟨free, rfl⟩

theorem concludeNotification_ok {saved : List (DemoNotificationDelivery × Bool)} {result : NotifyResult}
    (ran : concludeNotification request saved book = .ok (result, after)) :
    saved ≠ [] ∧ result.deliveries = saved.map Prod.fst ∧ after.deliveries = book.deliveries ∧ book.outbox ⊆ after.outbox ∧
      (saved.all (·.2) = true ∨ ¬ Simulated request book ∧ Simulated request after) := by
  unfold concludeNotification at ran
  split at ran
  · cases ran
  · next last replay final =>
    have some_saved : saved ≠ [] := by
      rintro rfl
      cases final
    dsimp only at ran
    split at ran
    · next all =>
      cases ran
      exact ⟨some_saved, rfl, rfl, fun _ => id, .inl all⟩
    · simp only [except_bind_eq_ok] at ran
      obtain ⟨⟨_, appended⟩, ran, made⟩ := ran
      cases made
      obtain ⟨free, rfl⟩ := appendOutbox_ok ran
      refine ⟨some_saved, rfl, rfl, fun _ => List.mem_append_left _, .inr ⟨free, ?_⟩⟩
      simp [Simulated]

theorem deliver_ok {result : NotifyResult} (ran : deliver request book = .ok (result, after)) :
    Notified request book result after := by
  unfold deliver at ran
  split at ran
  · next muted => exact notifyMuted_ok muted ran
  · next heard =>
    have loud : (preferenceOf request book).muted = false := Bool.eq_false_of_not_eq_true heard
    simp only [except_bind_eq_ok] at ran
    obtain ⟨⟨saved, middle⟩, attempts, ran⟩ := ran
    obtain ⟨⟨-, outbox⟩, ⟨added, grown, made, quiet⟩, distinct, answered⟩ := attemptChannels_ok attempts
    obtain ⟨some_saved, shown, same, kept, ended⟩ := concludeNotification_ok ran
    refine ⟨fun before => ?_, outbox ▸ kept, ⟨added, same.trans grown, fun one member => ⟨(made.made one member).1, ?_⟩,
      made.fresh, made.once, fun some_added _ => ?_⟩, fun delivery member => ?_, ?_⟩
    · rw [Distinct, same]
      exact distinct before
    · rw [loud]
      exact ⟨fun none => absurd none (made.made one member).2, fun never => Bool.noConfusion never⟩
    · rcases ended with all | ⟨free, simulated⟩
      · exact absurd (quiet all) some_added
      · refine ⟨?_, simulated⟩
        rw [Simulated, ← outbox]
        exact free
    · rw [shown] at member
      obtain ⟨entry, inside, rfl⟩ := List.mem_map.mp member
      obtain ⟨channel, listed, answer⟩ := answered entry inside
      exact ⟨some channel, ⟨loud, listed⟩, same ▸ answer.member, answer.tenant, answer.key, answer.payload⟩
    · rw [shown]
      exact fun none => some_saved (List.map_eq_nil_iff.mp none)

theorem notifyDemo_ok {result : NotifyResult} (ran : notifyDemo request book = .ok (result, after)) :
    Notified request book result after := by
  simp only [notifyDemo, except_bind_eq_ok] at ran
  obtain ⟨_, -, _, -, _, -, _, -, _, -, _, -, ran⟩ := ran
  exact deliver_ok ran

/-! ## What every run keeps -/

/-- Deliveries are told apart, a request that was heard has left its event, and at most one delivery of a key has
delivered. -/
structure Kept (book : NotificationBook) : Prop where
  distinct : Distinct book
  state : ∀ delivery ∈ book.deliveries, delivery.channel = none ↔ delivery.state = .muted
  simulated : ∀ delivery ∈ book.deliveries, ∀ key, Belongs key delivery → delivery.channel ≠ none →
    (delivery.tenantId, eventKey key) ∈ book.outbox.map fun row => (row.tenantId, row.idempotencyKey)
  once : ∀ first ∈ book.deliveries, ∀ second ∈ book.deliveries, ∀ key, first.tenantId = second.tenantId →
    Belongs key first → Belongs key second → first.state = .delivered → second.state = .delivered → first = second

theorem kept_empty : Kept {} :=
  ⟨List.nodup_nil, List.forall_mem_nil _, List.forall_mem_nil _, List.forall_mem_nil _⟩

/-- A key that has been heard under has its event, so nothing is added for it once more. -/
theorem Kept.unheard (kept : Kept book) {old : DemoNotificationDelivery} (known : old ∈ book.deliveries)
    (tenant : old.tenantId = request.tenantId) (belongs : Belongs request.idempotencyKey old) (heard : old.channel ≠ none)
    (fresh : ¬ Simulated request book) : False := by
  have event := kept.simulated old known _ belongs heard
  rw [tenant] at event
  exact fresh event

theorem Kept.notified {result : NotifyResult} (kept : Kept book) (notified : Notified request book result after) : Kept after := by
  obtain ⟨distinct, outbox, ⟨added, grown, made, fresh, once, simulated⟩, -, -⟩ := notified
  have loud_of_delivered : ∀ one ∈ added, one.state = .delivered → one.channel ≠ none := by
    intro one member delivered none
    rw [(made one member).1.state.mp none] at delivered
    cases delivered
  have loud_of_channel : ∀ one ∈ added, one.channel ≠ none → (preferenceOf request book).muted = false := by
    intro one member heard
    exact Bool.eq_false_of_not_eq_true fun muted => heard ((made one member).2.mpr muted)
  -- a new delivery stands against none of its key that has delivered before
  have apart : ∀ old ∈ book.deliveries, ∀ one ∈ added, ∀ key, old.tenantId = one.tenantId → Belongs key old →
      Belongs key one → old.state = .delivered → one.state = .delivered → False := by
    intro old known one member key tenant left right before now
    obtain rfl := right.key_eq (made one member).1.belongs
    have heard : old.channel ≠ none := fun none => by
      rw [(kept.state old known).mp none] at before
      cases before
    exact kept.unheard known (tenant.trans (made one member).1.tenant) left heard (simulated (List.ne_nil_of_mem member)
      (loud_of_channel one member (loud_of_delivered one member now))).1
  refine ⟨distinct kept.distinct, ?_, ?_, ?_⟩
  · rw [grown]
    exact List.forall_mem_append.mpr ⟨kept.state, fun one member => (made one member).1.state⟩
  · rw [grown]
    refine List.forall_mem_append.mpr ⟨fun old known key belongs heard => ?_, fun one member key belongs heard => ?_⟩
    · exact List.map_subset _ outbox (kept.simulated old known key belongs heard)
    · obtain rfl := belongs.key_eq (made one member).1.belongs
      rw [(made one member).1.tenant]
      exact (simulated (List.ne_nil_of_mem member) (loud_of_channel one member heard)).2
  · rw [grown]
    intro first here second there key tenant left right before now
    rcases List.mem_append.mp here with known | new <;> rcases List.mem_append.mp there with other | another
    · exact kept.once first known second other key tenant left right before now
    · exact (apart first known second another key tenant left right before now).elim
    · exact (apart second other first new key tenant.symm right left now before).elim
    · exact once first new second another before now

theorem setDemoNotificationPreference_ok {wish : PreferenceRequest} {value : DemoNotificationPreference}
    (ran : setDemoNotificationPreference wish book = .ok (value, after)) :
    after.deliveries = book.deliveries ∧ after.outbox = book.outbox := by
  simp only [setDemoNotificationPreference, except_bind_eq_ok] at ran
  obtain ⟨_, -, _, -, _, -, made⟩ := ran
  cases made
  exact ⟨rfl, rfl⟩

/-! ## What clean requests keep -/

/-- A delivery that stands for what a request asks. -/
structure Own (request : NotifyRequest) (delivery : DemoNotificationDelivery) : Prop where
  tenant : delivery.tenantId = request.tenantId
  belongs : Belongs request.idempotencyKey delivery
  notification : delivery.notificationKey = request.notificationKey
  payload : delivery.payload = request.encoded

/-- What a request looks up is a delivery of its own key, and with its payload also of its notification; and its key has
not been used for anything else while the notification was muted and it is not, or the other way round. -/
structure Clean (request : NotifyRequest) (book : NotificationBook) : Prop where
  own : ∀ delivery ∈ book.deliveries, delivery.tenantId = request.tenantId → ∀ channel, Looked request book channel →
    delivery.idempotencyKey = deliveryKey request.idempotencyKey channel → Belongs request.idempotencyKey delivery ∧
      (delivery.payload = request.encoded → delivery.notificationKey = request.notificationKey)
  mode : ∀ delivery ∈ book.deliveries, delivery.tenantId = request.tenantId → Belongs request.idempotencyKey delivery →
    ¬ (delivery.channel = none ↔ (preferenceOf request book).muted = true) → Own request delivery

/-- All deliveries of a key stand for one notification. -/
def Agreed (book : NotificationBook) : Prop :=
  ∀ first ∈ book.deliveries, ∀ second ∈ book.deliveries, ∀ key, first.tenantId = second.tenantId → Belongs key first →
    Belongs key second → first.notificationKey = second.notificationKey ∧ first.payload = second.payload

theorem Made.own {delivery : DemoNotificationDelivery} (made : Made request delivery) : Own request delivery :=
  ⟨made.tenant, made.belongs, made.notification, made.payload⟩

/-- A clean request is answered with deliveries of its own. -/
theorem Clean.answered {result : NotifyResult} (clean : Clean request book) (notified : Notified request book result after) :
    ∀ delivery ∈ result.deliveries, delivery ∈ after.deliveries ∧ Own request delivery := by
  intro delivery shown
  obtain ⟨channel, looked, answer⟩ := notified.answered delivery shown
  refine ⟨answer.member, ?_⟩
  obtain ⟨added, grown, made, -⟩ := notified.added
  have member := answer.member
  rw [grown] at member
  rcases List.mem_append.mp member with known | new
  · obtain ⟨belongs, same⟩ := clean.own delivery known answer.tenant channel looked answer.key
    exact ⟨answer.tenant, belongs, same answer.payload, answer.payload⟩
  · exact (made delivery new).1.own

theorem Agreed.notified {result : NotifyResult} (agreed : Agreed book) (kept : Kept book) (clean : Clean request book)
    (notified : Notified request book result after) : Agreed after := by
  obtain ⟨-, -, ⟨added, grown, made, fresh, -, simulated⟩, -, -⟩ := notified
  -- an older delivery of the key has been made by the same request
  have together : ∀ old ∈ book.deliveries, ∀ one ∈ added, ∀ key, old.tenantId = one.tenantId → Belongs key old →
      Belongs key one → old.notificationKey = one.notificationKey ∧ old.payload = one.payload := by
    intro old known one member key tenant left right
    obtain ⟨new, silent⟩ := made one member
    obtain rfl := right.key_eq new.belongs
    by_cases mode : old.channel = none ↔ (preferenceOf request book).muted = true
    · exfalso
      by_cases muted : (preferenceOf request book).muted = true
      · refine fresh one member old known tenant ?_
        rw [left, right, mode.mpr muted, silent.mpr muted]
      · have heard : old.channel ≠ none := fun none => muted (mode.mp none)
        exact kept.unheard known (tenant.trans new.tenant) left heard
          (simulated (List.ne_nil_of_mem member) (Bool.eq_false_of_not_eq_true muted)).1
    · have own := clean.mode old known (tenant.trans new.tenant) left mode
      exact ⟨own.notification.trans new.notification.symm, own.payload.trans new.payload.symm⟩
  rw [Agreed, grown]
  intro first here second there key tenant left right
  rcases List.mem_append.mp here with known | new <;> rcases List.mem_append.mp there with other | another
  · exact agreed first known second other key tenant left right
  · exact together first known second another key tenant left right
  · obtain ⟨notification, payload⟩ := together second other first new key tenant.symm right left
    exact ⟨notification.symm, payload.symm⟩
  · obtain ⟨one, -⟩ := made first new
    obtain ⟨two, -⟩ := made second another
    exact ⟨one.notification.trans two.notification.symm, one.payload.trans two.payload.symm⟩

end

/-! ## Runs -/

section

variable {calls : List NotificationCall} {book : NotificationBook}

/-- The tables behind some calls. -/
def reached (calls : List NotificationCall) : NotificationBook := final notificationStep {} calls

/-- A request of a run, with what it was answered. -/
def Accepted (calls : List NotificationCall) (request : NotifyRequest) (result : NotifyResult) : Prop :=
  (NotificationCall.notify request, Except.ok (some result)) ∈ trace notificationStep {} calls

/-- Every request of the run is clean when it comes. -/
def CleanRun (calls : List NotificationCall) : Prop :=
  ∀ before request after, calls = before ++ .notify request :: after → Clean request (reached before)

/-- A call adds what an accepted request adds, or no delivery and no event at all. -/
theorem step_cases (call : NotificationCall) (book : NotificationBook) :
    (∃ request result, call = .notify request ∧ (notificationStep call book).1 = .ok (some result) ∧
      Notified request book result (notificationStep call book).2) ∨
    (notificationStep call book).2.deliveries = book.deliveries ∧ (notificationStep call book).2.outbox = book.outbox ∧
      ∀ result, (notificationStep call book).1 ≠ .ok (some result) := by
  cases call with
  | prefer wish =>
    refine .inr ?_
    cases ran : setDemoNotificationPreference wish book with
    | error why =>
      rw [notificationStep, ran]
      exact ⟨rfl, rfl, fun _ same => by cases same⟩
    | ok done =>
      obtain ⟨value, after⟩ := done
      rw [notificationStep, ran]
      obtain ⟨deliveries, outbox⟩ := setDemoNotificationPreference_ok ran
      exact ⟨deliveries, outbox, fun _ same => by cases same⟩
  | notify request =>
    cases ran : notifyDemo request book with
    | error why =>
      refine .inr ?_
      rw [notificationStep, ran]
      exact ⟨rfl, rfl, fun _ same => by cases same⟩
    | ok done =>
      obtain ⟨result, after⟩ := done
      refine .inl ⟨request, result, rfl, ?_⟩
      rw [notificationStep, ran]
      exact ⟨rfl, notifyDemo_ok ran⟩

theorem Kept.same {after : NotificationBook} (kept : Kept book) (deliveries : after.deliveries = book.deliveries)
    (outbox : after.outbox = book.outbox) : Kept after := by
  obtain ⟨distinct, state, simulated, once⟩ := kept
  refine ⟨?_, ?_, ?_, ?_⟩
  · rw [Distinct, deliveries]
    exact distinct
  · rw [deliveries]
    exact state
  · rw [deliveries, outbox]
    exact simulated
  · rw [deliveries]
    exact once

theorem step_kept (call : NotificationCall) (kept : Kept book) : Kept (notificationStep call book).2 := by
  obtain ⟨request, result, -, -, notified⟩ | ⟨deliveries, outbox, -⟩ := step_cases call book
  · exact kept.notified notified
  · exact kept.same deliveries outbox

theorem run_kept (calls : List NotificationCall) : Kept (reached calls) :=
  final_invariant Kept kept_empty fun call _ _ kept => step_kept call kept

/-- What a clean run has come to. -/
structure Settled (calls : List NotificationCall) : Prop where
  agreed : Agreed (reached calls)
  own : ∀ request result, Accepted calls request result → result.deliveries ≠ [] ∧
    ∀ delivery ∈ result.deliveries, delivery ∈ (reached calls).deliveries ∧ Own request delivery

theorem Settled.step {call : NotificationCall} (settled : Settled calls)
    (clean : ∀ request, call = .notify request → Clean request (reached calls)) : Settled (calls ++ [call]) := by
  have next : reached (calls ++ [call]) = (notificationStep call (reached calls)).2 := final_concat _ _ _ _
  have earlier : ∀ request result, Accepted (calls ++ [call]) request result → Accepted calls request result ∨
      call = .notify request ∧ (notificationStep call (reached calls)).1 = .ok (some result) := by
    intro request result accepted
    rw [Accepted, trace_concat] at accepted
    refine (List.mem_append.mp accepted).imp_right fun last => ?_
    obtain ⟨same, outcome⟩ := Prod.mk.inj (List.mem_singleton.mp last)
    exact ⟨same.symm, outcome.symm⟩
  obtain ⟨request, result, rfl, answered, notified⟩ | ⟨deliveries, -, silent⟩ := step_cases call (reached calls)
  · have here := clean request rfl
    obtain ⟨added, grown, -⟩ := notified.added
    refine ⟨next ▸ settled.agreed.notified (run_kept calls) here notified, fun asked outcome accepted => ?_⟩
    rw [next]
    rcases earlier asked outcome accepted with before | ⟨same, now⟩
    · obtain ⟨some_delivery, own⟩ := settled.own asked outcome before
      refine ⟨some_delivery, fun delivery member => ⟨?_, (own delivery member).2⟩⟩
      rw [grown]
      exact List.mem_append_left _ (own delivery member).1
    · cases same
      cases answered.symm.trans now
      exact ⟨notified.some_delivery, here.answered notified⟩
  · refine ⟨?_, fun asked outcome accepted => ?_⟩
    · rw [next, Agreed, deliveries]
      exact settled.agreed
    · rcases earlier asked outcome accepted with before | ⟨-, now⟩
      · rw [next, deliveries]
        exact settled.own asked outcome before
      · exact absurd now (silent outcome)

theorem run_settled (clean : CleanRun calls) : Settled calls := by
  refine run_induction Settled ⟨List.forall_mem_nil _, fun _ _ accepted => ?_⟩ ?_
  · exact absurd accepted List.not_mem_nil
  · intro before call after split settled
    refine settled.step fun request same => clean before request after ?_
    rw [split, same]

def sampleNotify (notification key : String) : NotifyRequest where
  permitted := .ok ()
  tenantId := 0
  notificationKey := notification
  payload := []
  idempotencyKey := key
  failedChannels := []
  clock _ := .utc 0

def samplePreference (notification : String) (muted : Bool) : PreferenceRequest where
  permitted := .ok ()
  tenantId := 0
  notificationKey := notification
  channels := ["email"]
  muted := muted

/-- One request is heard by mail under `a`, the other is muted under `a:email`. -/
def collidingCalls : List NotificationCall :=
  [.prefer (samplePreference "n" false), .prefer (samplePreference "m" true), .notify (sampleNotify "n" "a"),
    .notify (sampleNotify "m" "a:email")]

/-- The identifiers of the deliveries that a call was answered with. -/
def answeredWith : Except Failure (Option NotifyResult) → List Uuid
  | .ok (some result) => result.deliveries.map (·.id)
  | _ => []

end

end AiStore.Controls
