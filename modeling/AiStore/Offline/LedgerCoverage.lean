import AiStore.Offline.Finance
import AiStore.Offline.TrackingBatch

/-! How completely a ledger is compared with a settlement page. -/

set_option autoImplicit false

namespace AiStore.Offline

open Library

/-- A row of the ledger, with the observation it is for and its amount. -/
def LedgerRow (row : Json) (entry : String × Int) : Prop :=
  ∃ entries, row = .object entries ∧ get entries "source_record_ref" = .text entry.1 ∧
    get entries "amount_minor" = .int entry.2

/-- Every observation is classified once, and every row of the ledger is used once. -/
structure Classified (page : OfflineSettlementPage) (rows : List Json) (result : List FixtureLedgerComparison) : Prop where
  each : result.map (fun comparison => (comparison.sourceRecordRef, comparison.expectedMinor)) =
    page.observations.map fun observation => (observation.sourceRecordRef, observation.expectedMinor)
  once : (result.map FixtureLedgerComparison.sourceRecordRef).Nodup
  ledger : ∃ received : List (String × Int), List.Forall₂ LedgerRow rows received ∧ (received.map Prod.fst).Nodup ∧
    (∀ entry ∈ received, ∃ comparison ∈ result, comparison.sourceRecordRef = entry.1) ∧
    ∀ comparison ∈ result, comparison.ledgerMinor = ledgerAmount received comparison.sourceRecordRef

def FullyMatched (result : List FixtureLedgerComparison) : Prop :=
  ∀ comparison ∈ result, comparison.status = "MATCHED_FIXTURE"

/-- The comparison classifies everything, and can be a full match. -/
def Complete (page : OfflineSettlementPage) : Prop :=
  (∀ ledger result, compareFixtureLedger page ledger = .ok result →
    ∃ rows, ledger = .list rows ∧ Classified page rows result) ∧
  ∃ ledger result, compareFixtureLedger page ledger = .ok result ∧ FullyMatched result

/-! ## Rows of a ledger -/

section

variable {expected : List String} {state after : Received} {row ledger : Json} {rows : List Json}
  {page : OfflineSettlementPage} {result : List FixtureLedgerComparison}

theorem identifierField_eq_ok {value : Json} {text : String} :
    identifierField value = .ok text ↔ value = .text text ∧ externalId text = true := by
  cases value with
  | text given =>
    simp only [identifierField, identifier, except_bind_eq_ok, require_eq_ok, pure, Except.pure, Except.ok.injEq, Json.text.injEq]
    constructor
    · rintro ⟨-, accepted, rfl⟩
      exact ⟨rfl, accepted⟩
    · rintro ⟨rfl, accepted⟩
      exact ⟨(), accepted, rfl⟩
  | _ => simp [identifierField]

/-- An amount that the ledger and the pages take. -/
def InRange (value : Int) : Prop := -(2 ^ 63) ≤ value ∧ value ≤ maxInteger

theorem signed_eq_ok {value : Json} {amount : Int} : signed value = .ok amount ↔ value = .int amount ∧ InRange amount := by
  cases value with
  | int given =>
    simp only [signed, except_bind_eq_ok, require_eq_ok, pure, Except.pure, Except.ok.injEq, Json.int.injEq]
    constructor
    · rintro ⟨-, bounds, rfl⟩
      exact ⟨rfl, bounds⟩
    · rintro ⟨rfl, bounds⟩
      exact ⟨(), bounds, rfl⟩
  | _ => simp [signed]

theorem receiveRow_ok (ran : receiveRow expected state row = .ok after) :
    ∃ entry, LedgerRow row entry ∧ entry.1 ∈ expected ∧ entry.1 ∉ state.amounts.map Prod.fst ∧
      after.amounts = state.amounts ++ [entry] := by
  simp only [receiveRow, except_bind_eq_ok, require_eq_ok, object_eq_ok, identifierField_eq_ok, signed_eq_ok] at ran
  obtain ⟨entries, rfl, _, -, ref, ⟨named, -⟩, _, -, _, ⟨known, fresh, -⟩, _, -, amount, ⟨priced, -⟩, _, -, made⟩ := ran
  cases made
  exact ⟨(ref, amount), ⟨entries, rfl, named, priced⟩, known, fresh, rfl⟩

theorem receiveRows_ok (ran : receiveRows expected state rows = .ok after) (apart : (state.amounts.map Prod.fst).Nodup) :
    ∃ added, List.Forall₂ LedgerRow rows added ∧ after.amounts = state.amounts ++ added ∧
      (∀ entry ∈ added, entry.1 ∈ expected) ∧ (after.amounts.map Prod.fst).Nodup := by
  induction rows generalizing state with
  | nil =>
    cases ran
    exact ⟨[], .nil, by simp, List.forall_mem_nil _, apart⟩
  | cons row rest ih =>
    simp only [receiveRows, except_bind_eq_ok] at ran
    obtain ⟨middle, first, ran⟩ := ran
    obtain ⟨entry, shown, known, fresh, grown⟩ := receiveRow_ok first
    have distinct : (middle.amounts.map Prod.fst).Nodup := by
      rw [grown, List.map_append, List.map_singleton, List.nodup_append]
      refine ⟨apart, List.nodup_singleton _, fun name member other same equal => fresh ?_⟩
      rwa [← List.mem_singleton.mp same, ← equal]
    obtain ⟨added, others, behind, expected_others, final⟩ := ih ran distinct
    refine ⟨entry :: added, .cons shown others, ?_, List.forall_mem_cons.mpr ⟨known, expected_others⟩, final⟩
    rw [behind, grown, List.append_assoc, List.singleton_append]

theorem compareFixtureLedger_ok (ran : compareFixtureLedger page ledger = .ok result) :
    ∃ rows received, ledger = .list rows ∧ rows.length ≤ 1000 ∧ List.Forall₂ LedgerRow rows received ∧
      (page.observations.map SettlementObservation.sourceRecordRef).Nodup ∧ (received.map Prod.fst).Nodup ∧
      (∀ entry ∈ received, entry.1 ∈ page.observations.map SettlementObservation.sourceRecordRef) ∧
      result = page.observations.map (ledgerComparison received) := by
  simp only [compareFixtureLedger, except_bind_eq_ok, require_eq_ok, rowsOf_eq_ok] at ran
  obtain ⟨_, distinct, rows, ⟨rfl, few⟩, after, received, made⟩ := ran
  obtain ⟨added, shown, grown, known, apart⟩ := receiveRows_ok received List.nodup_nil
  rw [List.nil_append] at grown
  subst grown
  exact ⟨rows, after.amounts, rfl, few, shown, distinct, apart, known, (Except.ok.inj made).symm⟩

theorem classified (ran : compareFixtureLedger page ledger = .ok result) :
    ∃ rows, ledger = .list rows ∧ Classified page rows result := by
  obtain ⟨rows, received, rfl, -, shown, distinct, apart, known, rfl⟩ := compareFixtureLedger_ok ran
  refine ⟨rows, rfl, by simp [ledgerComparison], ?_, received, shown, apart, fun entry member => ?_, fun comparison member => ?_⟩
  · rw [List.map_map]
    exact distinct
  · obtain ⟨observation, among, same⟩ := List.mem_map.mp (known entry member)
    exact ⟨_, List.mem_map_of_mem among, same⟩
  · obtain ⟨observation, -, rfl⟩ := List.mem_map.mp member
    rfl

/-- A full match needs a row of the ledger for every observation. -/
theorem matched_few (ran : compareFixtureLedger page ledger = .ok result) (full : FullyMatched result) :
    page.observations.length ≤ 1000 := by
  obtain ⟨rows, received, rfl, few, shown, distinct, -, -, rfl⟩ := compareFixtureLedger_ok ran
  have inside : page.observations.map SettlementObservation.sourceRecordRef ⊆ received.map Prod.fst := by
    intro ref member
    obtain ⟨observation, among, rfl⟩ := List.mem_map.mp member
    have matched := full _ (List.mem_map_of_mem among)
    simp only [ledgerComparison] at matched
    split at matched
    · exact absurd matched (by decide)
    · next found =>
      obtain ⟨entry, there, -⟩ := Option.map_eq_some_iff.mp found
      have same := List.find?_some there
      exact List.mem_map.mpr ⟨entry, List.mem_of_find?_eq_some there, of_decide_eq_true same⟩
  have sizes := (List.subperm_of_subset distinct inside).length_le
  rw [List.length_map, List.length_map, ← shown.length_eq] at sizes
  exact le_trans sizes few

/-! ## A ledger that matches -/

/-- What a page must be for its ledger to be written down. -/
structure Matchable (page : OfflineSettlementPage) : Prop where
  distinct : (page.observations.map SettlementObservation.sourceRecordRef).Nodup
  refs : ∀ observation ∈ page.observations, externalId observation.sourceRecordRef = true
  amounts : ∀ observation ∈ page.observations, InRange observation.expectedMinor

def matchingEntries (observation : SettlementObservation) : Entries :=
  [("source_record_ref", .text observation.sourceRecordRef), ("ledger_ref", .text observation.sourceRecordRef),
    ("amount_minor", .int observation.expectedMinor), ("currency", .text "KRW"), ("date", .text "2026-01-01")]

def matchingLedger (page : OfflineSettlementPage) : Json :=
  .list (page.observations.map fun observation => .object (matchingEntries observation))

def owed (observation : SettlementObservation) : String × Int := (observation.sourceRecordRef, observation.expectedMinor)

theorem receiveRow_matching {observation : SettlementObservation} (known : observation.sourceRecordRef ∈ expected)
    (named : externalId observation.sourceRecordRef = true) (bounds : InRange observation.expectedMinor)
    (fresh : observation.sourceRecordRef ∉ state.amounts.map Prod.fst) (unused : observation.sourceRecordRef ∉ state.refs) :
    receiveRow expected state (.object (matchingEntries observation)) =
      .ok ⟨state.amounts ++ [owed observation], observation.sourceRecordRef :: state.refs⟩ := by
  have dated : calendarDate (.text "2026-01-01") = .ok "2026-01-01" := by rfl
  simp only [receiveRow, except_bind_eq_ok, require_eq_ok, object_eq_ok, identifierField_eq_ok, signed_eq_ok]
  refine ⟨_, rfl, (), ?_, _, ⟨rfl, named⟩, _, ⟨rfl, named⟩, (), ⟨known, fresh, unused⟩, _, dated, _, ⟨rfl, bounds⟩,
    (), rfl, rfl⟩
  simp only [matchingEntries, List.map_cons, List.map_nil]
  decide

theorem receiveRows_matching {observations : List SettlementObservation}
    (known : ∀ observation ∈ observations, observation.sourceRecordRef ∈ expected)
    (named : ∀ observation ∈ observations, externalId observation.sourceRecordRef = true)
    (bounds : ∀ observation ∈ observations, InRange observation.expectedMinor)
    (distinct : (observations.map SettlementObservation.sourceRecordRef).Nodup)
    (fresh : ∀ observation ∈ observations,
      observation.sourceRecordRef ∉ state.amounts.map Prod.fst ∧ observation.sourceRecordRef ∉ state.refs) :
    ∃ after, receiveRows expected state (observations.map fun observation => .object (matchingEntries observation)) = .ok after ∧
      after.amounts = state.amounts ++ observations.map owed := by
  induction observations generalizing state with
  | nil => exact ⟨state, rfl, by simp⟩
  | cons observation rest ih =>
    obtain ⟨expected_first, expected_rest⟩ := List.forall_mem_cons.mp known
    obtain ⟨named_first, named_rest⟩ := List.forall_mem_cons.mp named
    obtain ⟨bounds_first, bounds_rest⟩ := List.forall_mem_cons.mp bounds
    obtain ⟨⟨unpaid, unused⟩, fresh_rest⟩ := List.forall_mem_cons.mp fresh
    obtain ⟨absent, apart⟩ := List.nodup_cons.mp distinct
    have first := receiveRow_matching expected_first named_first bounds_first unpaid unused
    obtain ⟨after, ran, grown⟩ := @ih ⟨state.amounts ++ [owed observation], observation.sourceRecordRef :: state.refs⟩
      expected_rest named_rest bounds_rest apart fun other member => by
        -- an observation behind has another name than the first one
        have different : other.sourceRecordRef ≠ observation.sourceRecordRef :=
          fun same => absent (same ▸ List.mem_map_of_mem member)
        obtain ⟨paid, used⟩ := fresh_rest other member
        refine ⟨?_, List.not_mem_cons_of_ne_of_not_mem different used⟩
        rw [List.map_append, List.mem_append, not_or]
        exact ⟨paid, by simpa [owed] using different⟩
    refine ⟨after, ?_, ?_⟩
    · rw [List.map_cons, receiveRows, first]
      exact ran
    · rw [grown, List.map_cons, List.append_assoc, List.singleton_append]

theorem ledgerAmount_owed {observations : List SettlementObservation} {observation : SettlementObservation}
    (distinct : (observations.map SettlementObservation.sourceRecordRef).Nodup) (member : observation ∈ observations) :
    ledgerAmount (observations.map owed) observation.sourceRecordRef = some observation.expectedMinor := by
  induction observations with
  | nil => exact absurd member List.not_mem_nil
  | cons first rest ih =>
    obtain ⟨absent, apart⟩ := List.nodup_cons.mp distinct
    rcases List.mem_cons.mp member with rfl | behind
    · simp [ledgerAmount, owed]
    · have different : first.sourceRecordRef ≠ observation.sourceRecordRef :=
        fun same => absent (same ▸ List.mem_map_of_mem behind)
      have found := ih apart behind
      simp only [ledgerAmount, List.map_cons, List.find?_cons, owed, different, decide_false] at found ⊢
      exact found

/-- The ledger of a page that is small enough is a full match. -/
theorem matchingLedger_matches (matchable : Matchable page) (few : page.observations.length ≤ 1000) :
    ∃ result, compareFixtureLedger page (matchingLedger page) = .ok result ∧ FullyMatched result := by
  have known : ∀ observation ∈ page.observations,
      observation.sourceRecordRef ∈ page.observations.map SettlementObservation.sourceRecordRef :=
    fun observation member => List.mem_map_of_mem member
  obtain ⟨after, ran, amounts⟩ := @receiveRows_matching _ ⟨[], []⟩ _ known matchable.refs matchable.amounts matchable.distinct
    fun _ _ => ⟨List.not_mem_nil, List.not_mem_nil⟩
  rw [List.nil_append] at amounts
  refine ⟨page.observations.map (ledgerComparison after.amounts), ?_, ?_⟩
  · simp only [compareFixtureLedger, except_bind_eq_ok, require_eq_ok, rowsOf_eq_ok]
    exact ⟨(), matchable.distinct, _, ⟨rfl, by rw [List.length_map]; exact few⟩, after, ran, rfl⟩
  · intro comparison member
    obtain ⟨observation, among, rfl⟩ := List.mem_map.mp member
    simp only [ledgerComparison, amounts, ledgerAmount_owed matchable.distinct among, if_true]

/-- A page is compared completely when it is small enough. -/
theorem complete_iff (matchable : Matchable page) : Complete page ↔ page.observations.length ≤ 1000 := by
  constructor
  · rintro ⟨-, ledger, result, ran, full⟩
    exact matched_few ran full
  · intro few
    obtain ⟨result, ran, full⟩ := matchingLedger_matches matchable few
    exact ⟨fun _ _ => classified, _, result, ran, full⟩

end

/-! ## Accepted pages -/

section

variable {hash : String → String} {printable : String → Bool} {body row : Json} {rows : List Json} {seen : List String}
  {page : OfflineSettlementPage}

theorem fieldsOf_signed {required keys : List String} {entries : Entries} {amounts : List (String × Option Int)}
    (read : fieldsOf signed required entries keys = .ok amounts) :
    ∀ amount ∈ amounts, ∀ value, amount.2 = some value → InRange value := by
  induction keys generalizing amounts with
  | nil =>
    cases read
    exact List.forall_mem_nil _
  | cons key rest ih =>
    simp only [fieldsOf, except_bind_eq_ok] at read
    obtain ⟨value, first, others, behind, made⟩ := read
    cases made
    refine List.forall_mem_cons.mpr ⟨?_, ih behind⟩
    rintro known rfl
    unfold fieldOf at first
    split at first
    · simp only [except_bind_eq_ok] at first
      obtain ⟨amount, found, same⟩ := first
      cases same
      exact (signed_eq_ok.mp found).2
    · unfold optional at first
      split at first
      · cases first
      · simp only [except_bind_eq_ok] at first
        obtain ⟨amount, found, same⟩ := first
        cases same
        exact (signed_eq_ok.mp found).2

theorem amountOf_range {amounts : List (String × Option Int)} {key : String}
    (ranges : ∀ amount ∈ amounts, ∀ value, amount.2 = some value → InRange value) : InRange (amountOf amounts key) := by
  unfold amountOf
  cases found : (amounts.find? fun amount => amount.1 = key).bind Prod.snd with
  | none => exact ⟨by decide, by decide⟩
  | some value =>
    obtain ⟨amount, there, same⟩ := Option.bind_eq_some_iff.mp found
    exact ranges amount (List.mem_of_find?_eq_some there) value same

theorem digestOf_hash {value : Json} {digest : String} (made : digestOf hash value = .ok digest) :
    digest = hash (Json.canonical value) := by
  simp only [digestOf, canonicalJson, except_bind_eq_ok] at made
  obtain ⟨_, ⟨_, -, text⟩, made⟩ := made
  cases text
  exact (Except.ok.inj made).symm

/-! ### Naver -/

theorem naverSettlement_ok {observation : SettlementObservation} (read : naverSettlement hash seen row = .ok observation) :
    observation.sourceRecordRef ∉ seen ∧ observation.sourceRecordRef = hash (Json.canonical row) ∧
      InRange observation.expectedMinor := by
  simp only [naverSettlement, except_bind_eq_ok, require_eq_ok] at read
  obtain ⟨_, -, _, -, _, -, digest, digested, _, fresh, _, -, _, amounts, _, -, _, -, made⟩ := read
  cases made
  exact ⟨fresh, digestOf_hash digested, amountOf_range (fieldsOf_signed amounts)⟩

theorem naverSettlements_ok {observations : List SettlementObservation} (read : naverSettlements hash seen rows = .ok observations) :
    (observations.map SettlementObservation.sourceRecordRef).Nodup ∧ ∀ observation ∈ observations,
      observation.sourceRecordRef ∉ seen ∧ (∃ text, observation.sourceRecordRef = hash text) ∧
        InRange observation.expectedMinor := by
  induction rows generalizing seen observations with
  | nil =>
    cases read
    exact ⟨List.nodup_nil, List.forall_mem_nil _⟩
  | cons row rest ih =>
    simp only [naverSettlements, except_bind_eq_ok] at read
    obtain ⟨observation, first, others, behind, made⟩ := read
    cases made
    obtain ⟨fresh, hashed, bounds⟩ := naverSettlement_ok first
    obtain ⟨distinct, each⟩ := ih behind
    refine ⟨List.nodup_cons.mpr ⟨fun again => ?_, distinct⟩, List.forall_mem_cons.mpr ⟨⟨fresh, ⟨_, hashed⟩, bounds⟩, ?_⟩⟩
    · obtain ⟨other, member, same⟩ := List.mem_map.mp again
      exact (each other member).1 (same ▸ List.mem_cons_self)
    · exact fun other member =>
        ⟨fun taken => (each other member).1 (List.mem_cons_of_mem _ taken), (each other member).2⟩

/-! ### Coupang -/

/-- The delivery of a row, or one of its items, by the digest of the row. -/
abbrev RecordKey := String × Option Nat

/-- The text that an observation is named by. -/
def recordText : RecordKey → String
  | (digest, none) => Json.canonical (.list [.text digest, .text "delivery"])
  | (digest, some index) => Json.canonical (.list [.text digest, .text "item", .int index])

/-- The observations of a row. -/
def RowKey (hash : String → String) (row : Json) (key : RecordKey) : Prop :=
  key.1 = hash (Json.canonical row) ∧ ∃ fields items, row = .object fields ∧ get fields "items" = .list items ∧
    ∀ index ∈ key.2, index < items.length

/-- The observations of a body. -/
def recordKeys (hash : String → String) (body : Json) : Set RecordKey :=
  fun key => ∃ entries rows row, body = .object entries ∧ get entries "data" = .list rows ∧ row ∈ rows ∧ RowKey hash row key

/-- The hash tells the texts apart that the observations of a body are named by. -/
def NoCollision (hash : String → String) (body : Json) : Prop :=
  Set.InjOn (fun key => hash (recordText key)) (recordKeys hash body)

/-- The keys of a row with so many items. -/
def keysOf (row : String × Nat) : List RecordKey :=
  (row.1, none) :: (List.range' 0 row.2).map fun index => (row.1, some index)

theorem keysOf_digest {row : String × Nat} {key : RecordKey} (member : key ∈ keysOf row) :
    key.1 = row.1 ∧ ∀ index ∈ key.2, index < row.2 := by
  rcases List.mem_cons.mp member with rfl | item
  · exact ⟨rfl, fun _ none => by cases none⟩
  · obtain ⟨index, inside, rfl⟩ := List.mem_map.mp item
    refine ⟨rfl, fun position same => ?_⟩
    cases same
    have bounds := List.mem_range'_1.mp inside
    omega

theorem revenueItems_ok {common : RevenueRow} {index : Nat} {items : List Json} {observed : List Observed}
    (read : revenueItems hash common index items = .ok observed) :
    observed.map (fun one => one.1.sourceRecordRef) =
        (List.range' index items.length).map (fun position => hash (recordText (common.digest, some position))) ∧
      ∀ one ∈ observed, InRange one.1.expectedMinor := by
  induction items generalizing index observed with
  | nil =>
    cases read
    exact ⟨rfl, List.forall_mem_nil _⟩
  | cons item rest ih =>
    simp only [revenueItems, revenueItem, except_bind_eq_ok] at read
    obtain ⟨_, ⟨_, -, _, -, _, amounts, ref, digested, first⟩, others, behind, made⟩ := read
    cases first
    cases made
    obtain ⟨refs, bounds⟩ := ih behind
    refine ⟨?_, List.forall_mem_cons.mpr ⟨amountOf_range (fieldsOf_signed amounts), bounds⟩⟩
    rw [List.map_cons, refs, List.length_cons, List.range'_succ, List.map_cons, digestOf_hash digested]
    rfl

theorem revenueRow_ok {digest : String} {observed : List Observed} (read : revenueRow hash seen row = .ok (digest, observed)) :
    digest ∉ seen ∧ (∀ one ∈ observed, InRange one.1.expectedMinor) ∧
      ∃ count, (∀ key ∈ keysOf (digest, count), RowKey hash row key) ∧ observed.map (fun one => one.1.sourceRecordRef) =
        (keysOf (digest, count)).map fun key => hash (recordText key) := by
  simp only [revenueRow, except_bind_eq_ok, require_eq_ok, rowsOf_eq_ok, object_eq_ok] at read
  obtain ⟨fields, rfl, _, digested, _, fresh, _, -, _, -, _, -, _, -, _, amounts, ref, named, items, ⟨listed, -⟩, others, behind,
    made⟩ := read
  cases made
  obtain ⟨refs, bounds⟩ := revenueItems_ok behind
  refine ⟨fresh, List.forall_mem_cons.mpr ⟨amountOf_range (fieldsOf_signed amounts), bounds⟩,
    items.length, fun key member => ?_, ?_⟩
  · obtain ⟨same, small⟩ := keysOf_digest member
    exact ⟨same.trans (digestOf_hash digested), fields, items, rfl, listed, small⟩
  · rw [List.map_cons, refs, keysOf, List.map_cons, List.map_map, digestOf_hash named]
    rfl

/-- The rows have been read one by one, under distinct digests. -/
theorem revenueRows_ok {observed : List Observed} (read : revenueRows hash seen rows = .ok observed) :
    ∃ counts : List (String × Nat), (counts.map Prod.fst).Nodup ∧
      (∀ count ∈ counts, count.1 ∉ seen ∧ ∃ row ∈ rows, ∀ key ∈ keysOf count, RowKey hash row key) ∧
      observed.map (fun one => one.1.sourceRecordRef) = (counts.flatMap keysOf).map (fun key => hash (recordText key)) ∧
      ∀ one ∈ observed, InRange one.1.expectedMinor := by
  induction rows generalizing seen observed with
  | nil =>
    cases read
    exact ⟨[], List.nodup_nil, List.forall_mem_nil _, rfl, List.forall_mem_nil _⟩
  | cons row rest ih =>
    simp only [revenueRows, except_bind_eq_ok] at read
    obtain ⟨⟨digest, first⟩, one, others, behind, made⟩ := read
    cases made
    obtain ⟨fresh, bounds, count, keys, refs⟩ := revenueRow_ok one
    obtain ⟨counts, distinct, each, names, ranges⟩ := ih behind
    refine ⟨(digest, count) :: counts, ?_, ?_, ?_, List.forall_mem_append.mpr ⟨bounds, ranges⟩⟩
    · refine List.nodup_cons.mpr ⟨fun again => ?_, distinct⟩
      obtain ⟨other, member, same⟩ := List.mem_map.mp again
      exact (each other member).1 (same ▸ List.mem_cons_self)
    · refine List.forall_mem_cons.mpr ⟨⟨fresh, row, List.mem_cons_self, keys⟩, fun other member => ?_⟩
      obtain ⟨unseen, source, among, shown⟩ := each other member
      exact ⟨fun taken => unseen (List.mem_cons_of_mem _ taken), source, List.mem_cons_of_mem _ among, shown⟩
    · rw [List.map_append, refs, names, List.flatMap_cons, List.map_append]

theorem keysOf_nodup (row : String × Nat) : (keysOf row).Nodup := by
  refine List.nodup_cons.mpr ⟨by simp, ?_⟩
  refine (List.nodup_range' 1).map fun first second same => ?_
  exact Option.some.inj (congrArg Prod.snd same)

theorem keys_nodup {counts : List (String × Nat)} (distinct : (counts.map Prod.fst).Nodup) :
    (counts.flatMap keysOf).Nodup := by
  rw [List.nodup_flatMap]
  refine ⟨fun row _ => keysOf_nodup row, (List.pairwise_map.mp distinct).imp ?_⟩
  intro first second apart key one other
  exact apart ((keysOf_digest one).1.symm.trans (keysOf_digest other).1)

/-- The digests pass for identifiers. -/
theorem externalId_digest {digest : String} (hex : Service.sha256Text digest = true) : externalId digest = true := by
  simp only [Service.sha256Text, Bool.and_eq_true, decide_eq_true_eq, List.all_eq_true] at hex
  obtain ⟨length, letters⟩ := hex
  have starts : ∀ c ∈ digest.toList, Service.identifierStart c = true := by
    intro c member
    have letter := letters c member
    simp only [Bool.or_eq_true, Bool.and_eq_true, decide_eq_true_eq] at letter
    rcases letter with digit | ⟨low, high⟩
    · simp [Service.identifierStart, digit]
    · have lower : c.isLower = true :=
        (Bool.and_eq_true _ _).mpr ⟨decide_eq_true low, decide_eq_true (Nat.le_trans high (by decide))⟩
      have alpha : c.isAlpha = true := (Bool.or_eq_true _ _).mpr (.inr lower)
      simp [Service.identifierStart, alpha]
  unfold externalId
  cases shape : digest.toList with
  | nil =>
    rw [shape] at length
    cases length
  | cons first rest =>
    rw [shape, List.length_cons] at length
    rw [shape] at starts
    obtain ⟨head, others⟩ := List.forall_mem_cons.mp starts
    have small : rest.length ≤ 149 := by omega
    simpa [head, small, Service.identifierRest] using fun c member => .inl (.inl (.inl (others c member)))

/-! ### Both -/

/-- A page of either channel. -/
inductive Accepted (hash : String → String) (printable : String → Bool) (body : Json) (page : OfflineSettlementPage) : Prop where
  | naver (parsed : parseNaverSettlementPage hash body = .ok page)
  | coupang (parsed : parseCoupangRevenuePage hash printable body = .ok page)

theorem Accepted.matchable (hex : ∀ text, Service.sha256Text (hash text) = true) (apart : NoCollision hash body)
    (accepted : Accepted hash printable body page) : Matchable page := by
  cases accepted with
  | naver parsed =>
    simp only [parseNaverSettlementPage, except_bind_eq_ok] at parsed
    obtain ⟨_, -, _, -, _, -, _, -, _, -, _, -, observations, read, made⟩ := parsed
    cases made
    obtain ⟨distinct, each⟩ := naverSettlements_ok read
    refine ⟨distinct, fun observation member => ?_, fun observation member => (each observation member).2.2⟩
    obtain ⟨text, same⟩ := (each observation member).2.1
    rw [same]
    exact externalId_digest (hex text)
  | coupang parsed =>
    simp only [parseCoupangRevenuePage, except_bind_eq_ok, object_eq_ok, rowsOf_eq_ok] at parsed
    obtain ⟨_, -, entries, rfl, _, -, _, -, rows, ⟨listed, -⟩, observed, read, made⟩ := parsed
    cases made
    obtain ⟨counts, distinct, each, names, ranges⟩ := revenueRows_ok read
    have inside : ∀ key ∈ counts.flatMap keysOf, key ∈ recordKeys hash (.object entries) := by
      intro key member
      obtain ⟨count, among, here⟩ := List.mem_flatMap.mp member
      obtain ⟨-, row, shown, keys⟩ := each count among
      exact ⟨entries, rows, row, rfl, listed, shown, keys key here⟩
    refine ⟨?_, fun observation member => ?_, fun observation member => ?_⟩
    · rw [List.map_map]
      refine (congrArg List.Nodup names).mpr (List.Nodup.map_on (fun first one second other same => ?_) (keys_nodup distinct))
      exact apart (inside first one) (inside second other) same
    · obtain ⟨one, among, rfl⟩ := List.mem_map.mp member
      have named : one.1.sourceRecordRef ∈ observed.map fun one => one.1.sourceRecordRef := List.mem_map_of_mem among
      rw [names] at named
      obtain ⟨key, -, same⟩ := List.mem_map.mp named
      rw [← same]
      exact externalId_digest (hex _)
    · obtain ⟨one, among, rfl⟩ := List.mem_map.mp member
      exact ranges one among

/-- A page that the parsers accept is compared completely exactly when it has at most as many observations as a ledger
may have rows. -/
theorem ledger_comparison_complete_iff (hex : ∀ text, Service.sha256Text (hash text) = true) (apart : NoCollision hash body)
    (accepted : Accepted hash printable body page) : Complete page ↔ page.observations.length ≤ 1000 :=
  complete_iff (accepted.matchable hex apart)

end

/-! ## A large page -/

/-- A stand-in for the hash: sixty-four digits that tell the size of the text. -/
def sizeHash (text : String) : String :=
  .ofList ((Nat.toDigits 10 text.utf8ByteSize ++ List.replicate 64 '0').take 64)

theorem sizeHash_digits (text : String) : (sizeHash text).toList.length = 64 ∧ ∀ c ∈ (sizeHash text).toList, c.isDigit = true := by
  rw [sizeHash, String.toList_ofList]
  constructor
  · rw [List.length_take, List.length_append, List.length_replicate]
    omega
  · intro c member
    rcases List.mem_append.mp (List.mem_of_mem_take member) with digit | zero
    · exact Nat.isDigit_of_mem_toDigits (by decide) (by decide) digit
    · rw [(List.mem_replicate.mp zero).2]
      rfl

theorem sizeHash_hex (text : String) : Service.sha256Text (sizeHash text) = true := by
  obtain ⟨length, digits⟩ := sizeHash_digits text
  simp only [Service.sha256Text, length, decide_true, Bool.true_and, List.all_eq_true]
  intro c member
  rw [digits c member, Bool.true_or]

/-- A text of 64 characters stays small between quotes. -/
theorem utf8Len_escaped (text : List Char) : String.utf8Len (Json.escaped text) ≤ 24 * text.length + 1 := by
  induction text with
  | nil => exact Nat.le_refl _
  | cons c rest ih =>
    have few : (Json.escape c).length ≤ 6 := by
      unfold Json.escape
      repeat' split
      all_goals exact Nat.le_of_ble_eq_true rfl
    have small : String.utf8Len (Json.escape c) ≤ 4 * (Json.escape c).length := by
      generalize Json.escape c = written
      induction written with
      | nil => exact Nat.zero_le _
      | cons d more behind =>
        have size := d.utf8Size_le_four
        rw [String.utf8Len_cons, List.length_cons]
        omega
    rw [Json.escaped, String.utf8Len_append, List.length_cons]
    omega

theorem size_digest (text : String) : Json.size (.text (sizeHash text)) ≤ 1540 := by
  have bound := utf8Len_escaped (sizeHash text).toList
  rw [(sizeHash_digits text).1] at bound
  rw [Json.size, Json.chars, Json.quoted, String.utf8Len_cons, show Char.utf8Size '"' = 1 from rfl]
  omega

def revenueItemBody : Json :=
  .object [("vendorItemId", .int 1), ("saleAmount", .int 0), ("serviceFee", .int 0), ("serviceFeeVat", .int 0),
    ("settlementAmount", .int 0)]

def revenueFields : Entries :=
  [("orderId", .int 1), ("saleType", .text "SALE"), ("saleDate", .text "2026-01-01"),
    ("recognitionDate", .text "2026-01-01"), ("settlementDate", .text "2026-01-01"),
    ("deliveryFee", .object [("amount", .int 0), ("fee", .int 0), ("feeVat", .int 0), ("settlementAmount", .int 0)])]

/-- A row with so many items. -/
def revenueRowBody (items : Nat) : Json :=
  .object (("items", .list (List.replicate items revenueItemBody)) :: revenueFields)

def revenueBody (counts : List Nat) : Json :=
  .object [("code", .int 200), ("hasNext", .bool false), ("data", .list (counts.map revenueRowBody))]

theorem size_revenueRowBody (items : Nat) : Json.size (revenueRowBody (items + 1)) = 281 + 88 * items := by
  have item : Json.size revenueItemBody = 87 := by decide
  have fields : Json.entriesSize revenueFields = 182 := by decide
  have list : Json.size (.list (List.replicate (items + 1) revenueItemBody)) = 89 + 88 * items := by
    rw [Json.size_list, Json.itemsSize, List.map_replicate, List.sum_replicate_nat, item]
    omega
  have name : String.utf8Len (Json.quoted "items") = 7 := by decide
  simp only [Json.entriesSize] at fields
  rw [revenueRowBody, Json.size_object, Json.entriesSize, List.map_cons, List.sum_cons, fields, list, name]
  omega

theorem small_position {index : Nat} (few : index < 100) : Json.size (.int index) ≤ 2 := by
  have each : ∀ position < 100, Json.size (.int (position : Nat)) ≤ 2 := by decide
  exact each index few

/-- Every item of such a row is read. -/
theorem revenueItems_replicate {common : RevenueRow} {text : String} (digest : common.digest = sizeHash text) (count index : Nat)
    (few : index + count ≤ 100) : ∃ observed, revenueItems sizeHash common index (List.replicate count revenueItemBody) = .ok observed ∧
      observed.length = count := by
  induction count generalizing index with
  | zero => exact ⟨[], rfl, rfl⟩
  | succ count ih =>
    obtain ⟨others, read, length⟩ := ih (index + 1) (by omega)
    have small : (Json.canonical (.list [.text common.digest, .text "item", .int index])).utf8ByteSize ≤ 2 * 1024 * 1024 := by
      have word : Json.size (.text "item") = 6 := by decide
      have position := small_position (show index < 100 by omega)
      have size := size_digest text
      rw [Json.utf8ByteSize_canonical, Json.size_list]
      simp only [Json.itemsSize, List.map_cons, List.map_nil, List.sum_cons, List.sum_nil, digest, word]
      omega
    have first : ∃ one, revenueItem sizeHash common index revenueItemBody = .ok one := by
      simp only [revenueItem, except_bind_eq_ok]
      exact ⟨_, _, rfl, _, rfl, _, rfl, _, digestOf_small small, rfl⟩
    obtain ⟨one, first⟩ := first
    refine ⟨one :: others, ?_, by rw [List.length_cons, length]⟩
    simp only [List.replicate_succ, revenueItems, except_bind_eq_ok]
    exact ⟨one, first, others, read, rfl⟩

theorem revenueRow_replicate {seen : List String} {count : Nat} (few : count < 100)
    (fresh : sizeHash (Json.canonical (revenueRowBody (count + 1))) ∉ seen) :
    ∃ observed, revenueRow sizeHash seen (revenueRowBody (count + 1)) =
        .ok (sizeHash (Json.canonical (revenueRowBody (count + 1))), observed) ∧ observed.length = count + 2 := by
  have small : (Json.canonical (revenueRowBody (count + 1))).utf8ByteSize ≤ 2 * 1024 * 1024 := by
    rw [Json.utf8ByteSize_canonical, size_revenueRowBody]
    omega
  generalize hashed : sizeHash (Json.canonical (revenueRowBody (count + 1))) = digest at fresh
  have delivery : (Json.canonical (.list [.text digest, .text "delivery"])).utf8ByteSize ≤ 2 * 1024 * 1024 := by
    have word : Json.size (.text "delivery") = 10 := by decide
    have size := size_digest (Json.canonical (revenueRowBody (count + 1)))
    rw [Json.utf8ByteSize_canonical, Json.size_list, ← hashed]
    simp only [Json.itemsSize, List.map_cons, List.map_nil, List.sum_cons, List.sum_nil, word]
    omega
  obtain ⟨others, read, length⟩ := @revenueItems_replicate
    ⟨"1", "SALE", [("saleDate", some "2026-01-01"), ("recognitionDate", some "2026-01-01"), ("settlementDate", some "2026-01-01"),
      ("finalSettlementDate", none)], digest⟩ _ hashed.symm (count + 1) 0 (by omega)
  have listed : rowsOf 100 (get (("items", .list (List.replicate (count + 1) revenueItemBody)) :: revenueFields) "items") =
      .ok (List.replicate (count + 1) revenueItemBody) :=
    rowsOf_eq_ok.mpr ⟨rfl, by rw [List.length_replicate]; omega⟩
  have ran : ∃ first, revenueRow sizeHash seen (revenueRowBody (count + 1)) = .ok (digest, first :: others) := by
    simp only [revenueRow, except_bind_eq_ok, require_eq_ok]
    exact ⟨_, _, rfl, digest, hashed ▸ digestOf_small small, (), fresh, 1, rfl, "SALE", rfl, _, rfl, _, rfl, _, rfl, _,
      digestOf_small delivery, _, listed, others, read, rfl⟩
  obtain ⟨first, ran⟩ := ran
  exact ⟨first :: others, ran, by rw [List.length_cons, length]⟩

/-- The digest of a row, which its size tells. -/
def rowDigest (count : Nat) : String :=
  .ofList ((Nat.toDigits 10 (281 + 88 * count) ++ List.replicate 64 '0').take 64)

theorem sizeHash_row (count : Nat) : sizeHash (Json.canonical (revenueRowBody (count + 1))) = rowDigest count := by
  rw [sizeHash, Json.utf8ByteSize_canonical, size_revenueRowBody]
  rfl

theorem revenueRows_replicate {counts : List Nat} {seen : List String} (few : ∀ count ∈ counts, count < 100)
    (distinct : (counts.map rowDigest).Nodup) (fresh : ∀ count ∈ counts, rowDigest count ∉ seen) :
    ∃ observed, revenueRows sizeHash seen (counts.map fun count => revenueRowBody (count + 1)) = .ok observed ∧
      observed.length = (counts.map (· + 2)).sum := by
  induction counts generalizing seen with
  | nil => exact ⟨[], rfl, rfl⟩
  | cons count rest ih =>
    obtain ⟨few_first, few_rest⟩ := List.forall_mem_cons.mp few
    obtain ⟨fresh_first, fresh_rest⟩ := List.forall_mem_cons.mp fresh
    obtain ⟨absent, apart⟩ := List.nodup_cons.mp distinct
    obtain ⟨first, one, size⟩ := revenueRow_replicate few_first (sizeHash_row count ▸ fresh_first)
    obtain ⟨others, behind, length⟩ := @ih (rowDigest count :: seen) few_rest apart fun other member =>
      List.not_mem_cons_of_ne_of_not_mem (fun same => absent (same ▸ List.mem_map_of_mem member)) (fresh_rest other member)
    refine ⟨first ++ others, ?_, by rw [List.length_append, size, length, List.map_cons, List.sum_cons]⟩
    simp only [List.map_cons, revenueRows, except_bind_eq_ok]
    exact ⟨_, one, others, sizeHash_row count ▸ behind, rfl⟩

def largeCounts : List Nat := List.range' 89 11

/-- A page of eleven rows with up to a hundred items each. -/
def largeBody : Json := revenueBody (largeCounts.map (· + 1))

theorem largeBody_small : (Json.canonical largeBody).utf8ByteSize ≤ 2 * 1024 * 1024 := by
  have rows : Json.itemsSize ((largeCounts.map (· + 1)).map revenueRowBody) = 94094 := by
    simp only [largeCounts, List.range', List.map_cons, List.map_nil, Json.itemsSize, size_revenueRowBody, List.sum_cons,
      List.sum_nil]
    norm_num
  have list : Json.size (.list ((largeCounts.map (· + 1)).map revenueRowBody)) = 94095 := by
    rw [Json.size_list, rows]
    rfl
  have others : Json.entriesSize [("code", .int 200), ("hasNext", .bool false)] = 27 := by decide
  have name : String.utf8Len (Json.quoted "data") = 6 := by decide
  simp only [Json.entriesSize, List.map_cons, List.map_nil, List.sum_cons, List.sum_nil] at others
  rw [Json.utf8ByteSize_canonical, largeBody, revenueBody, Json.size_object]
  simp only [Json.entriesSize, List.map_cons, List.map_nil, List.sum_cons, List.sum_nil, list, name]
  omega

/-- The parser accepts the page, and no ledger is a full match. -/
theorem large_page_unmatched : ∃ page, parseCoupangRevenuePage sizeHash (fun _ => true) largeBody = .ok page ∧
    page.observations.length = 1056 ∧
    ¬ ∃ ledger result, compareFixtureLedger page ledger = .ok result ∧ FullyMatched result := by
  obtain ⟨observed, read, length⟩ := @revenueRows_replicate largeCounts [] (by decide) (by decide)
    fun _ _ => List.not_mem_nil
  have many : observed.length = 1056 := length.trans (by decide)
  have parsed : ∃ page, parseCoupangRevenuePage sizeHash (fun _ => true) largeBody = .ok page ∧
      page.observations = observed.map Prod.fst := by
    simp only [parseCoupangRevenuePage, except_bind_eq_ok, require_eq_ok]
    exact ⟨_, ⟨_, digestOf_small largeBody_small, _, rfl, (), rfl, none, rfl, _, rfl, observed, read, rfl⟩, rfl⟩
  obtain ⟨page, parsed, shown⟩ := parsed
  refine ⟨page, parsed, by rw [shown, List.length_map, many], ?_⟩
  rintro ⟨ledger, result, ran, full⟩
  have few := matched_few ran full
  rw [shown, List.length_map, many] at few
  exact absurd few (by decide)

/-- A page with a single item, whose two observations are told apart. -/
theorem small_page_complete_iff : ∃ page, parseCoupangRevenuePage sizeHash (fun _ => true) (revenueBody [1]) = .ok page ∧
    (Complete page ↔ page.observations.length ≤ 1000) := by
  obtain ⟨observed, read, -⟩ := @revenueRows_replicate [0] [] (by decide) (by decide) fun _ _ => List.not_mem_nil
  have small : (Json.canonical (revenueBody [1])).utf8ByteSize ≤ 2 * 1024 * 1024 := by decide +kernel
  have parsed : ∃ page, parseCoupangRevenuePage sizeHash (fun _ => true) (revenueBody [1]) = .ok page := by
    simp only [parseCoupangRevenuePage, except_bind_eq_ok, require_eq_ok]
    exact ⟨_, _, digestOf_small small, _, rfl, (), rfl, none, rfl, _, rfl, observed, read, rfl⟩
  obtain ⟨page, parsed⟩ := parsed
  have keys : ∀ key ∈ recordKeys sizeHash (revenueBody [1]), key = (rowDigest 0, none) ∨ key = (rowDigest 0, some 0) := by
    rintro ⟨digest, position⟩ ⟨entries, rows, row, whole, listed, member, same, fields, items, shape, inside, few⟩
    cases whole
    cases listed
    obtain rfl := List.mem_singleton.mp member
    cases shape
    cases inside
    obtain rfl : digest = rowDigest 0 := same.trans (sizeHash_row 0)
    cases position with
    | none => exact .inl rfl
    | some index =>
      have first : index < 1 := few index rfl
      obtain rfl : index = 0 := by omega
      exact .inr rfl
  have told : sizeHash (recordText (rowDigest 0, none)) ≠ sizeHash (recordText (rowDigest 0, some 0)) := by decide
  refine ⟨page, parsed, ledger_comparison_complete_iff sizeHash_hex (fun one left other right same => ?_) (.coupang parsed)⟩
  rcases keys one left with rfl | rfl <;> rcases keys other right with rfl | rfl
  · rfl
  · exact absurd same told
  · exact absurd same.symm told
  · rfl

end AiStore.Offline
