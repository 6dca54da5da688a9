import AiStore.Offline.DemoShadow

/-! What the comparison says of every key, and the verdict that it draws from the age of the page. -/

set_option autoImplicit false

namespace AiStore.Offline

open Library

/-! ## Keys -/

theorem keyLe_total (first second : String × String) : keyLe first second = true ∨ keyLe second first = true := by
  unfold keyLe
  by_cases same : first.1 = second.1
  · rw [if_pos same, if_pos same.symm]
    exact textLe_total _ _
  · rw [if_neg same, if_neg (Ne.symm same)]
    exact textLe_total _ _

theorem keyLe_antisymm {first second : String × String} (left : keyLe first second = true)
    (right : keyLe second first = true) : first = second := by
  unfold keyLe at left right
  by_cases same : first.1 = second.1
  · rw [if_pos same] at left
    rw [if_pos same.symm] at right
    exact Prod.ext same (textLe_antisymm left right)
  · rw [if_neg same] at left
    rw [if_neg (Ne.symm same)] at right
    exact absurd (textLe_antisymm left right) same

theorem keyLe_trans {first second third : String × String} (left : keyLe first second = true)
    (right : keyLe second third = true) : keyLe first third = true := by
  obtain ⟨a, x⟩ := first
  obtain ⟨b, y⟩ := second
  obtain ⟨c, z⟩ := third
  unfold keyLe at *
  simp only at *
  by_cases front : a = b
  · subst front
    by_cases back : a = c
    · rw [if_pos rfl] at left
      rw [if_pos back] at right ⊢
      exact textLe_trans left right
    · rw [if_neg back] at right ⊢
      exact right
  · rw [if_neg front] at left
    by_cases back : b = c
    · subst back
      rw [if_neg front]
      exact left
    · rw [if_neg back] at right
      by_cases ends : a = c
      · subst ends
        exact absurd (textLe_antisymm left right) front
      · rw [if_neg ends]
        exact textLe_trans left right

instance : Std.Total fun first second : String × String => keyLe first second = true := ⟨keyLe_total⟩

instance : IsTrans (String × String) fun first second => keyLe first second = true := ⟨fun _ _ _ => keyLe_trans⟩

section

variable {operation channel other : Dict (String × String) OfflineOrderSnapshot} {key : String × String}
  {snapshots moved : List OfflineOrderSnapshot}

theorem mem_sortedKeys : key ∈ sortedKeys operation channel ↔ key ∈ operation.keys ∨ key ∈ channel.keys := by
  rw [sortedKeys, List.mem_insertionSort, List.mem_dedup, List.mem_append]

theorem sortedKeys_nodup (operation channel : Dict (String × String) OfflineOrderSnapshot) :
    (sortedKeys operation channel).Nodup :=
  (List.perm_insertionSort _ _).nodup_iff.mpr (List.nodup_dedup _)

/-- No key stands twice on one side. -/
def Distinct (snapshots : List OfflineOrderSnapshot) : Prop := (snapshots.map OfflineOrderSnapshot.key).Nodup

instance : DecidablePred Distinct := fun snapshots =>
  inferInstanceAs (Decidable (snapshots.map OfflineOrderSnapshot.key).Nodup)

theorem Distinct.entries (distinct : Distinct snapshots) :
    ((snapshots.map fun snapshot => (snapshot.key, snapshot)).map Prod.fst).Nodup := by
  rw [List.map_map]
  exact distinct

theorem byKey_length (distinct : Distinct snapshots) : (byKey snapshots).entries.length = snapshots.length := by
  rw [byKey, Dict.entries_ofEntries distinct.entries, List.length_map]

theorem mem_keys_byKey (distinct : Distinct snapshots) :
    key ∈ (byKey snapshots).keys ↔ ∃ snapshot ∈ snapshots, snapshot.key = key := by
  rw [byKey, Dict.keys_ofEntries distinct.entries, List.map_map]
  exact List.mem_map

theorem get?_byKey (distinct : Distinct snapshots) {snapshot : OfflineOrderSnapshot} :
    (byKey snapshots).get? key = some snapshot ↔ snapshot ∈ snapshots ∧ snapshot.key = key := by
  rw [byKey, Dict.get?_ofEntries distinct.entries, List.mem_map]
  constructor
  · rintro ⟨_, member, same⟩
    cases same
    exact ⟨member, rfl⟩
  · rintro ⟨member, rfl⟩
    exact ⟨snapshot, member, rfl⟩

theorem get?_byKey_none (distinct : Distinct snapshots) :
    (byKey snapshots).get? key = none ↔ ∀ snapshot ∈ snapshots, snapshot.key ≠ key := by
  rw [Dict.get?_eq_none, mem_keys_byKey distinct]
  simp only [not_exists, not_and, ne_eq]

theorem Distinct.perm (distinct : Distinct snapshots) (perm : snapshots.Perm moved) : Distinct moved :=
  (perm.map _).nodup_iff.mp distinct

theorem get?_byKey_perm (distinct : Distinct snapshots) (perm : snapshots.Perm moved) (key : String × String) :
    (byKey snapshots).get? key = (byKey moved).get? key :=
  Dict.get?_ofEntries_perm (perm.map _) distinct.entries key

end

/-! ## Permuted sides -/

section

variable {here here' there there' : Dict (String × String) OfflineOrderSnapshot}

theorem keys_of_get? (same : ∀ key, here.get? key = here'.get? key) (key : String × String) :
    key ∈ here.keys ↔ key ∈ here'.keys := by
  rw [← not_iff_not, ← Dict.get?_eq_none, ← Dict.get?_eq_none, same]

/-- The keys of equal mappings have one sorted list. -/
theorem sortedKeys_of_get? (operation : ∀ key, here.get? key = here'.get? key)
    (channel : ∀ key, there.get? key = there'.get? key) : sortedKeys here there = sortedKeys here' there' := by
  have members : (sortedKeys here there).Perm (sortedKeys here' there') := by
    refine (List.perm_ext_iff_of_nodup (sortedKeys_nodup _ _) (sortedKeys_nodup _ _)).mpr fun key => ?_
    rw [mem_sortedKeys, mem_sortedKeys, keys_of_get? operation, keys_of_get? channel]
  exact List.Perm.eq_of_pairwise (fun _ _ _ _ => keyLe_antisymm) (List.pairwise_insertionSort _ _)
    (List.pairwise_insertionSort _ _) members

theorem shadowLine_of_get? (operation : ∀ key, here.get? key = here'.get? key)
    (channel : ∀ key, there.get? key = there'.get? key) (stale : Bool) :
    shadowLine here there stale = shadowLine here' there' stale := by
  funext key
  rw [shadowLine, shadowLine, operation, channel]

theorem comparison_of_get? (operation : ∀ key, here.get? key = here'.get? key)
    (channel : ∀ key, there.get? key = there'.get? key) (provider : String) (age window : Int) :
    comparison here there provider age window = comparison here' there' provider age window := by
  simp only [comparison, sortedKeys_of_get? operation channel, shadowLine_of_get? operation channel]

end

section

variable {operation moved : List OfflineOrderSnapshot} {page paged : OfflineOrderPage} {observed now : Timestamp} {window : Int}

/-- `age_seconds`. -/
def ageSeconds (observed now : Timestamp) : Int := truncated (totalSeconds (now.instant - observed.instant))

theorem compareSides_of_distinct (left : Distinct operation) (right : Distinct page.snapshots) :
    compareSides operation page observed now window =
      if ageSeconds observed now < 0 then .error (.valueError "observed_at is in the future")
      else .ok (comparison (byKey operation) (byKey page.snapshots) page.provider (ageSeconds observed now) window) := by
  unfold compareSides ageSeconds
  simp only [byKey_length left, byKey_length right, ne_eq, not_true_eq_false, or_self, if_false]

/-- Neither side's order matters. -/
theorem compareSides_perm (left : Distinct operation) (right : Distinct page.snapshots) (here : operation.Perm moved)
    (there : page.snapshots.Perm paged.snapshots) (provider : page.provider = paged.provider) :
    compareSides operation page observed now window = compareSides moved paged observed now window := by
  rw [compareSides_of_distinct left right, compareSides_of_distinct (left.perm here) (right.perm there), provider,
    comparison_of_get? (get?_byKey_perm left here) (get?_byKey_perm right there)]

end

/-! ## Classes -/

/-- What a class says of the two snapshots of a line. -/
def Differ (here there : OfflineOrderSnapshot) : DriftClass → Prop
  | .same => here.status = there.status ∧ here.quantities = there.quantities ∧
      ∀ name, here.amounts.get? name = there.amounts.get? name
  | .statusDrift => here.status ≠ there.status
  | .quantityDrift => here.quantities ≠ there.quantities
  | .amountDrift => ∃ name, here.amounts.get? name ≠ there.amounts.get? name
  | .missingInChannel | .missingInOperation => False

/-- What a class says of a key. -/
def Shows (operation channel : List OfflineOrderSnapshot) (key : String × String) (found : DriftClass) : Prop :=
  (∃ here ∈ operation, ∃ there ∈ channel, here.key = key ∧ there.key = key ∧ Differ here there found) ∨
  (found = .missingInChannel ∧ (∃ here ∈ operation, here.key = key) ∧ ∀ there ∈ channel, there.key ≠ key) ∨
  (found = .missingInOperation ∧ (∀ here ∈ operation, here.key ≠ key) ∧ ∃ there ∈ channel, there.key = key)

/-- The key stands on one side only. -/
def Missing (operation channel : List OfflineOrderSnapshot) (key : String × String) : Prop :=
  ((∃ here ∈ operation, here.key = key) ∧ ∀ there ∈ channel, there.key ≠ key) ∨
  ((∀ here ∈ operation, here.key ≠ key) ∧ ∃ there ∈ channel, there.key = key)

def LineComparison.key (line : LineComparison) : String × String := (line.provider, line.lineId)

def LineComparison.drifts (line : LineComparison) : Prop :=
  .statusDrift ∈ line.classes ∨ .quantityDrift ∈ line.classes ∨ .amountDrift ∈ line.classes

section

variable {here there : OfflineOrderSnapshot} {operation channel : List OfflineOrderSnapshot} {key : String × String}
  {found : DriftClass} {stale : Bool}

theorem drifts_eq_nil : drifts here there = [] ↔ Differ here there .same := by
  simp only [drifts, List.append_eq_nil_iff, Differ, ← Dict.same_iff, and_assoc]
  refine and_congr ?_ (and_congr ?_ ?_)
  · split <;> simp_all
  · split <;> simp_all
  · split <;> simp_all

theorem mem_drifts : found ∈ (drifts here there).map Prod.fst ↔ found ≠ .same ∧ Differ here there found := by
  simp only [drifts, List.map_append, List.mem_append, apply_ite (List.map Prod.fst), List.map_cons, List.map_nil]
  cases found with
  | same => split_ifs <;> simp
  | statusDrift => split_ifs <;> simp_all [Differ]
  | quantityDrift => split_ifs <;> simp_all [Differ]
  | amountDrift => split_ifs <;> simp_all [Differ, Dict.same_iff]
  | missingInChannel => split_ifs <;> simp [Differ]
  | missingInOperation => split_ifs <;> simp [Differ]

/-- The classes of a line are the differences, or that there is none. -/
theorem mem_compareLine : found ∈ (compareLine here there).1 ↔ Differ here there found := by
  unfold compareLine
  simp only
  split
  · next none =>
    have equal := drifts_eq_nil.mp none
    have drifting := @mem_drifts here there found
    rw [none, List.map_nil] at drifting
    rw [List.mem_singleton]
    constructor
    · rintro rfl
      exact equal
    · intro differ
      by_contra other
      exact absurd (drifting.mpr ⟨other, differ⟩) List.not_mem_nil
  · next some =>
    rw [mem_drifts]
    constructor
    · exact And.right
    · intro differ
      refine ⟨?_, differ⟩
      rintro rfl
      exact some (drifts_eq_nil.mpr differ)

theorem compareLine_exceptions : (compareLine here there).2 = [] ↔ Differ here there .same := by
  unfold compareLine
  simp only
  rw [List.map_eq_nil_iff, drifts_eq_nil]

theorem shadowLine_key (here there : Dict (String × String) OfflineOrderSnapshot) (stale : Bool) (key : String × String) :
    (shadowLine here there stale key).1.key = key := by
  unfold shadowLine
  split
  · rfl
  · split
    · rfl
    · rfl

/-- Where a key stands, and what its line is then. -/
theorem shadowLine_cases (left : Distinct operation) (right : Distinct channel)
    (known : key ∈ sortedKeys (byKey operation) (byKey channel)) :
    ((∃ here ∈ operation, here.key = key) ∧ (∀ there ∈ channel, there.key ≠ key) ∧
      shadowLine (byKey operation) (byKey channel) stale key = (⟨key.1, key.2, [.missingInChannel], !stale⟩,
        [⟨.line .missingInChannel, key.1, some key.2, "line absent from channel page"⟩])) ∨
    ((∀ here ∈ operation, here.key ≠ key) ∧ (∃ there ∈ channel, there.key = key) ∧
      shadowLine (byKey operation) (byKey channel) stale key = (⟨key.1, key.2, [.missingInOperation], !stale⟩,
        [⟨.line .missingInOperation, key.1, some key.2, "line absent from existing operation"⟩])) ∨
    ∃ here ∈ operation, ∃ there ∈ channel, here.key = key ∧ there.key = key ∧
      shadowLine (byKey operation) (byKey channel) stale key =
        (⟨key.1, key.2, (compareLine here there).1, !stale⟩, (compareLine here there).2) := by
  rw [mem_sortedKeys, mem_keys_byKey left, mem_keys_byKey right] at known
  unfold shadowLine
  cases paged : (byKey channel).get? key with
  | none =>
    have absent := (get?_byKey_none right).mp paged
    rcases known with held | ⟨there, member, same⟩
    · exact .inl ⟨held, absent, rfl⟩
    · exact absurd same (absent there member)
  | some there =>
    obtain ⟨there_member, there_key⟩ := (get?_byKey right).mp paged
    right
    cases held : (byKey operation).get? key with
    | none => exact .inl ⟨(get?_byKey_none left).mp held, ⟨there, there_member, there_key⟩, rfl⟩
    | some here =>
      obtain ⟨here_member, here_key⟩ := (get?_byKey left).mp held
      exact .inr ⟨here, here_member, there, there_member, here_key, there_key, rfl⟩

/-- The classes of the line name exactly what there is to say of its key. -/
theorem mem_classes (left : Distinct operation) (right : Distinct channel)
    (known : key ∈ sortedKeys (byKey operation) (byKey channel)) :
    found ∈ (shadowLine (byKey operation) (byKey channel) stale key).1.classes ↔ Shows operation channel key found := by
  rcases @shadowLine_cases operation channel key stale left right known with
    ⟨held, absent, line⟩ | ⟨absent, paged, line⟩ | ⟨here, here_member, there, there_member, here_key, there_key, line⟩
  · rw [line, List.mem_singleton]
    constructor
    · exact fun same => .inr (.inl ⟨same, held, absent⟩)
    · rintro (⟨-, -, there, member, -, same, -⟩ | ⟨same, -⟩ | ⟨-, none, -⟩)
      · exact absurd same (absent there member)
      · exact same
      · obtain ⟨here, member, same⟩ := held
        exact absurd same (none here member)
  · rw [line, List.mem_singleton]
    constructor
    · exact fun same => .inr (.inr ⟨same, absent, paged⟩)
    · rintro (⟨here, member, -, -, same, -⟩ | ⟨-, ⟨here, member, same⟩, -⟩ | ⟨same, -⟩)
      · exact absurd same (absent here member)
      · exact absurd same (absent here member)
      · exact same
  · rw [line]
    refine (mem_compareLine).trans ⟨fun differ => .inl ⟨here, here_member, there, there_member, here_key, there_key, differ⟩, ?_⟩
    rintro (⟨other, member, another, among, same, equal, differ⟩ | ⟨-, -, none⟩ | ⟨-, none, -⟩)
    · -- the key of a side has one snapshot
      cases List.inj_on_of_nodup_map left member here_member (same.trans here_key.symm)
      cases List.inj_on_of_nodup_map right among there_member (equal.trans there_key.symm)
      exact differ
    · exact absurd there_key (none there there_member)
    · exact absurd here_key (none here here_member)

theorem missing_iff (left : Distinct operation) (right : Distinct channel)
    (known : key ∈ sortedKeys (byKey operation) (byKey channel)) :
    (shadowLine (byKey operation) (byKey channel) stale key).1.missing = true ↔ Missing operation channel key := by
  rw [LineComparison.missing, Bool.or_eq_true, List.contains_iff_mem, List.contains_iff_mem, mem_classes left right known,
    mem_classes left right known]
  simp only [Shows, Differ, and_false, exists_false, false_or, true_and, reduceCtorEq, false_and, or_false, Missing]

/-- A line has exceptions when it is missing on one side or drifts. -/
theorem exceptions_iff (left : Distinct operation) (right : Distinct channel)
    (known : key ∈ sortedKeys (byKey operation) (byKey channel)) :
    (shadowLine (byKey operation) (byKey channel) stale key).2 ≠ [] ↔
      Missing operation channel key ∨ (shadowLine (byKey operation) (byKey channel) stale key).1.drifts := by
  rcases @shadowLine_cases operation channel key stale left right known with
    ⟨held, absent, line⟩ | ⟨absent, paged, line⟩ | ⟨here, here_member, there, there_member, here_key, there_key, line⟩
  · rw [line]
    exact iff_of_true (List.cons_ne_nil _ _) (.inl (.inl ⟨held, absent⟩))
  · rw [line]
    exact iff_of_true (List.cons_ne_nil _ _) (.inl (.inr ⟨absent, paged⟩))
  · have whole : ¬ Missing operation channel key := by
      rintro (⟨-, none⟩ | ⟨none, -⟩)
      · exact none there there_member there_key
      · exact none here here_member here_key
    rw [line, ne_eq, compareLine_exceptions, LineComparison.drifts, mem_compareLine, mem_compareLine, mem_compareLine]
    simp only [whole, false_or, Differ]
    rw [not_and_or, not_and_or, not_forall]

end

/-! ## Verdict -/

/-- The report of two sides: a line for every key, its differences, and a decision that is an exit when it is late. -/
structure Exact (operation channel : List OfflineOrderSnapshot) (late : Prop) (lines : List LineComparison)
    (decision : ShadowDecision) : Prop where
  once : (lines.map LineComparison.key).Nodup
  every : ∀ key, key ∈ lines.map LineComparison.key ↔
    (∃ here ∈ operation, here.key = key) ∨ ∃ there ∈ channel, there.key = key
  classes : ∀ line ∈ lines, ∀ found, found ∈ line.classes ↔ Shows operation channel line.key found
  exit : decision = .exit ↔ late ∨ ∃ key, Missing operation channel key
  hold : decision = .hold ↔ ¬ (late ∨ ∃ key, Missing operation channel key) ∧ ∃ line ∈ lines, line.drifts
  goOn : decision = .goOn ↔ ¬ (late ∨ ∃ key, Missing operation channel key) ∧ ∀ line ∈ lines, ¬ line.drifts

section

variable {operation channel : List OfflineOrderSnapshot} {provider : String} {age window : Int} {late : Prop}

theorem missing_known {key : String × String} (left : Distinct operation) (right : Distinct channel)
    (missing : Missing operation channel key) : key ∈ sortedKeys (byKey operation) (byKey channel) := by
  rw [mem_sortedKeys, mem_keys_byKey left, mem_keys_byKey right]
  rcases missing with ⟨held, -⟩ | ⟨-, paged⟩
  · exact .inl held
  · exact .inr paged

theorem comparison_lines (here there : Dict (String × String) OfflineOrderSnapshot) :
    (comparison here there provider age window).lines =
      (sortedKeys here there).map fun key => (shadowLine here there (window < age) key).1 := List.map_map

theorem any_missing (left : Distinct operation) (right : Distinct channel) :
    (comparison (byKey operation) (byKey channel) provider age window).lines.any LineComparison.missing = true ↔
      ∃ key, Missing operation channel key := by
  rw [comparison_lines, List.any_map, List.any_eq_true]
  constructor
  · rintro ⟨key, known, missing⟩
    exact ⟨key, (missing_iff left right known).mp missing⟩
  · rintro ⟨key, missing⟩
    have known := missing_known left right missing
    exact ⟨key, known, (missing_iff left right known).mpr missing⟩

theorem comparison_exceptions (left : Distinct operation) (right : Distinct channel)
    (fresh : ¬ window < age) (whole : ¬ ∃ key, Missing operation channel key) :
    (comparison (byKey operation) (byKey channel) provider age window).exceptions ≠ [] ↔
      ∃ line ∈ (comparison (byKey operation) (byKey channel) provider age window).lines, line.drifts := by
  rw [comparison_lines]
  simp only [List.mem_map, exists_exists_and_eq_and]
  simp only [comparison, fresh, decide_false, Bool.false_eq_true, if_false, List.nil_append, ne_eq, List.flatMap_map,
    List.flatMap_eq_nil_iff, not_forall]
  constructor
  · rintro ⟨key, known, some⟩
    rcases (exceptions_iff left right known).mp some with missing | drifts
    · exact absurd ⟨key, missing⟩ whole
    · exact ⟨key, known, drifts⟩
  · rintro ⟨key, known, drifts⟩
    exact ⟨key, known, (exceptions_iff left right known).mpr (.inr drifts)⟩

theorem shadowDecision_spec (stale : Bool) (lines : List LineComparison) (exceptions : List OperatorException) :
    (shadowDecision stale lines exceptions = .exit ↔ stale = true ∨ lines.any LineComparison.missing = true) ∧
    (shadowDecision stale lines exceptions = .hold ↔
      ¬ (stale = true ∨ lines.any LineComparison.missing = true) ∧ exceptions ≠ []) ∧
    (shadowDecision stale lines exceptions = .goOn ↔
      ¬ (stale = true ∨ lines.any LineComparison.missing = true) ∧ exceptions = []) := by
  unfold shadowDecision
  by_cases out : stale = true ∨ lines.any LineComparison.missing = true
  · rw [if_pos out]
    exact ⟨iff_of_true rfl out, iff_of_false (by decide) fun held => held.1 out,
      iff_of_false (by decide) fun held => held.1 out⟩
  · rw [if_neg out]
    by_cases none : exceptions = []
    · rw [if_neg (not_not.mpr none)]
      exact ⟨iff_of_false (by decide) out, iff_of_false (by decide) fun held => held.2 none, iff_of_true rfl ⟨out, none⟩⟩
    · rw [if_pos none]
      exact ⟨iff_of_false (by decide) out, iff_of_true rfl ⟨out, none⟩, iff_of_false (by decide) fun held => none held.2⟩

/-- The comparison is exact, with its own notion of a late page. -/
theorem comparison_exact (left : Distinct operation) (right : Distinct channel) :
    Exact operation channel (window < age) (comparison (byKey operation) (byKey channel) provider age window).lines
      (comparison (byKey operation) (byKey channel) provider age window).decision := by
  have named : (comparison (byKey operation) (byKey channel) provider age window).lines.map LineComparison.key =
      sortedKeys (byKey operation) (byKey channel) := by
    rw [comparison_lines, List.map_map]
    exact (List.map_congr_left fun key _ => shadowLine_key _ _ _ key).trans (List.map_id _)
  have out : (decide (window < age) = true ∨
      (comparison (byKey operation) (byKey channel) provider age window).lines.any LineComparison.missing = true) ↔
      (window < age ∨ ∃ key, Missing operation channel key) := or_congr decide_eq_true_iff (any_missing left right)
  obtain ⟨exit, hold, goOn⟩ := shadowDecision_spec (decide (window < age))
    (comparison (byKey operation) (byKey channel) provider age window).lines
    (comparison (byKey operation) (byKey channel) provider age window).exceptions
  rw [out] at exit hold goOn
  refine ⟨named ▸ sortedKeys_nodup _ _, fun key => ?_, fun line member found => ?_, exit, ?_, ?_⟩
  · rw [named, mem_sortedKeys, mem_keys_byKey left, mem_keys_byKey right]
  · rw [comparison_lines] at member
    obtain ⟨key, known, rfl⟩ := List.mem_map.mp member
    rw [shadowLine_key]
    exact mem_classes left right known
  · refine hold.trans (and_congr_right fun within => ?_)
    obtain ⟨fresh, whole⟩ := not_or.mp within
    exact comparison_exceptions left right fresh whole
  · refine goOn.trans (and_congr_right fun within => ?_)
    obtain ⟨fresh, whole⟩ := not_or.mp within
    have found := @comparison_exceptions _ _ provider _ _ left right fresh whole
    rw [← not_iff_not, ← ne_eq, found]
    simp only [not_forall, not_not, exists_prop]

/-- The report is exact for another notion of a late page when both agree, or a key is missing anyway. -/
theorem exact_iff {lines : List LineComparison} {decision : ShadowDecision} {early : Prop}
    (exact : Exact operation channel early lines decision) :
    Exact operation channel late lines decision ↔ ((early ↔ late) ∨ ∃ key, Missing operation channel key) := by
  constructor
  · intro other
    by_cases missing : ∃ key, Missing operation channel key
    · exact .inr missing
    · have same := exact.exit.symm.trans other.exit
      simp only [missing, or_false] at same
      exact .inl same
  · intro agree
    have same : (early ∨ ∃ key, Missing operation channel key) ↔ (late ∨ ∃ key, Missing operation channel key) := by
      rcases agree with agree | missing
      · rw [agree]
      · exact iff_of_true (.inr missing) (.inr missing)
    obtain ⟨once, every, classes, exit, hold, goOn⟩ := exact
    rw [same] at exit hold goOn
    exact ⟨once, every, classes, exit, hold, goOn⟩

end

/-! ## Runs -/

section

variable {hash : String → String} {modes : String → Option String} {operation moved : List OfflineOrderSnapshot}
  {page paged : OfflineOrderPage} {observed now : Timestamp} {window : Int}

def oversized : ShadowFailure := .quarantine ⟨"page_size_exceeded"⟩

theorem digestOf_cases (value : Json) :
    (∃ digest, digestOf hash value = .ok digest) ∨ digestOf hash value = .error ⟨"page_size_exceeded"⟩ := by
  unfold digestOf canonicalJson require
  split
  · exact .inl ⟨_, rfl⟩
  · exact .inr rfl

/-- The report is sealed as it is, unless its text or that of the operation is too long. -/
theorem sealReport_cases (gates : List (String × String)) (found : Comparison) :
    (∃ report, sealReport hash gates operation page window found = .ok report ∧ report.lines = found.lines ∧
      report.exceptions = found.exceptions ∧ report.decision = found.decision) ∨
    sealReport hash gates operation page window found = .error ⟨"page_size_exceeded"⟩ := by
  unfold sealReport
  rcases @digestOf_cases hash (.list (operation.map OfflineOrderSnapshot.asdict)) with ⟨digest, sealed⟩ | long
  · rw [sealed]
    simp only [bind, Except.bind]
    generalize sealing : (ShadowReport.body _) = body
    rcases @digestOf_cases hash body with ⟨digest, sealed⟩ | long
    · rw [sealed]
      exact .inl ⟨_, rfl, rfl, rfl, rfl⟩
    · rw [long]
      exact .inr rfl
  · rw [long]
    exact .inr rfl

theorem demoGates_ok (approved : ∀ gate ∈ shadowGates, modes gate = some "DEMO") :
    ∃ gates, demoGates shadowGates modes = .ok gates := by
  have none : shadowGates.filter (fun gate => modes gate ≠ some "DEMO") = [] :=
    List.filter_eq_nil_iff.mpr fun gate member missing => of_decide_eq_true missing (approved gate member)
  unfold demoGates
  simp only [none, ne_eq, not_true_eq_false, if_false]
  exact ⟨_, rfl⟩

/-- A run is its comparison, sealed. -/
theorem runDemoShadow_cases (approved : ∀ gate ∈ shadowGates, modes gate = some "DEMO")
    (bounded : 60 ≤ window ∧ window ≤ 24 * 3600) (operation : List OfflineOrderSnapshot) (page : OfflineOrderPage)
    (observed now : Timestamp) :
    (∃ why, compareSides operation page observed now window = .error why ∧
      runDemoShadow hash modes operation page (.aware observed) (.aware now) window = .error why) ∨
    ∃ found, compareSides operation page observed now window = .ok found ∧
      (runDemoShadow hash modes operation page (.aware observed) (.aware now) window = .error oversized ∨
        ∃ report, runDemoShadow hash modes operation page (.aware observed) (.aware now) window = .ok report ∧
          report.lines = found.lines ∧ report.exceptions = found.exceptions ∧ report.decision = found.decision) := by
  obtain ⟨gates, admitted⟩ := demoGates_ok approved
  unfold runDemoShadow
  simp only [admitted, if_pos bounded]
  cases compared : compareSides operation page observed now window with
  | error why => exact .inl ⟨why, rfl, rfl⟩
  | ok found =>
    refine .inr ⟨found, rfl, ?_⟩
    simp only [bind, Except.bind]
    rcases @sealReport_cases hash operation page window gates found with ⟨report, sealed, kept⟩ | long
    · rw [sealed]
      exact .inr ⟨report, rfl, kept⟩
    · rw [long]
      exact .inl rfl

theorem ageSeconds_neg : ageSeconds observed now < 0 ↔ now.instant - observed.instant ≤ -1000000 := by
  have whole := @lt_totalSeconds_iff (now.instant - observed.instant) (-1) (by decide)
  rw [ageSeconds, truncated_neg_iff, ← not_lt]
  push_cast at whole
  rw [whole]
  omega

theorem window_lt_ageSeconds (bounded : 60 ≤ window ∧ window ≤ 24 * 3600) :
    window < ageSeconds observed now ↔ (window + 1) * 1000000 ≤ now.instant - observed.instant := by
  have small : |window + 1| < 2 ^ 33 := by
    rw [abs_of_pos (by omega)]
    omega
  rw [ageSeconds, lt_truncated_iff (by omega), ← not_lt, totalSeconds_lt_iff small, not_lt]

/-- What is promised of a run: a page of the future is refused, and any other is reported exactly, unless the report is too
long to be sealed. -/
def Shadows (hash : String → String) (modes : String → Option String) (operation : List OfflineOrderSnapshot)
    (page : OfflineOrderPage) (observed now : Timestamp) (window : Int) : Prop :=
  (now < observed → runDemoShadow hash modes operation page (.aware observed) (.aware now) window =
    .error (.valueError "observed_at is in the future")) ∧
  (observed ≤ now → runDemoShadow hash modes operation page (.aware observed) (.aware now) window = .error oversized ∨
    ∃ report, runDemoShadow hash modes operation page (.aware observed) (.aware now) window = .ok report ∧
      Exact operation page.snapshots (window * 1000000 < now.instant - observed.instant) report.lines report.decision)

/-- The page is not less than a second of the future, nor less than a second older than the window with every key on both
sides. -/
def OnTime (operation : List OfflineOrderSnapshot) (page : OfflineOrderPage) (observed now : Timestamp) (window : Int) : Prop :=
  ¬ (-1000000 < now.instant - observed.instant ∧ now.instant - observed.instant < 0) ∧
  (¬ (window * 1000000 < now.instant - observed.instant ∧ now.instant - observed.instant < (window + 1) * 1000000) ∨
    ∃ key, Missing operation page.snapshots key)

/-- Two runs that find the same, as far as both are sealed. -/
def FindsAlike (first second : Except ShadowFailure ShadowReport) : Prop :=
  first = .error oversized ∨ second = .error oversized ∨
    first.map (fun report => (report.lines, report.exceptions, report.decision)) =
      second.map fun report => (report.lines, report.exceptions, report.decision)

theorem findsAlike_of_compareSides (approved : ∀ gate ∈ shadowGates, modes gate = some "DEMO")
    (bounded : 60 ≤ window ∧ window ≤ 24 * 3600)
    (same : compareSides operation page observed now window = compareSides moved paged observed now window) :
    FindsAlike (runDemoShadow hash modes operation page (.aware observed) (.aware now) window)
      (runDemoShadow hash modes moved paged (.aware observed) (.aware now) window) := by
  rcases @runDemoShadow_cases hash modes window approved bounded operation page observed now with
    ⟨why, compared, ran⟩ | ⟨found, compared, long | ⟨report, ran, lines, exceptions, decision⟩⟩
  · rcases @runDemoShadow_cases hash modes window approved bounded moved paged observed now with
      ⟨other, recompared, reran⟩ | ⟨_, recompared, -⟩
    · cases (compared.symm.trans same).trans recompared
      rw [ran, reran]
      exact .inr (.inr rfl)
    · cases (compared.symm.trans same).trans recompared
  · exact .inl long
  · rcases @runDemoShadow_cases hash modes window approved bounded moved paged observed now with
      ⟨_, recompared, -⟩ | ⟨again, recompared, long | ⟨other, reran, relines, reexceptions, redecision⟩⟩
    · cases (compared.symm.trans same).trans recompared
    · exact .inr (.inl long)
    · cases (compared.symm.trans same).trans recompared
      rw [ran, reran]
      simp only [FindsAlike, Except.map, lines, exceptions, decision, relines, reexceptions, redecision, or_true]

theorem exact_iff_onTime (bounded : 60 ≤ window ∧ window ≤ 24 * 3600) (left : Distinct operation)
    (right : Distinct page.snapshots) (past : observed ≤ now) :
    Exact operation page.snapshots (window * 1000000 < now.instant - observed.instant)
        (comparison (byKey operation) (byKey page.snapshots) page.provider (ageSeconds observed now) window).lines
        (comparison (byKey operation) (byKey page.snapshots) page.provider (ageSeconds observed now) window).decision ↔
      OnTime operation page observed now window := by
  have past := (Timestamp.le_iff observed now).mp past
  have late := @window_lt_ageSeconds observed now window bounded
  rw [exact_iff (comparison_exact left right), late, OnTime]
  have near : ((window + 1) * 1000000 ≤ now.instant - observed.instant ↔
      window * 1000000 < now.instant - observed.instant) ↔ ¬ (window * 1000000 < now.instant - observed.instant ∧
        now.instant - observed.instant < (window + 1) * 1000000) := by omega
  rw [near]
  exact ⟨fun agree => ⟨by omega, agree⟩, And.right⟩

/-- A run over a page that is a second of the future, or more. -/
theorem shadows_of_future (approved : ∀ gate ∈ shadowGates, modes gate = some "DEMO")
    (bounded : 60 ≤ window ∧ window ≤ 24 * 3600) (left : Distinct operation) (right : Distinct page.snapshots)
    (future : ageSeconds observed now < 0) : Shadows hash modes operation page observed now window := by
  have refused := @compareSides_of_distinct operation page observed now window left right
  rw [if_pos future] at refused
  have ahead := ageSeconds_neg.mp future
  constructor
  · intro _
    rcases @runDemoShadow_cases hash modes window approved bounded operation page observed now with
      ⟨why, compared, ran⟩ | ⟨found, compared, -⟩
    · cases compared.symm.trans refused
      exact ran
    · cases compared.symm.trans refused
  · intro past
    have past := (Timestamp.le_iff observed now).mp past
    omega

/-- A run over a page that is read as one of the past. -/
theorem run_of_past (approved : ∀ gate ∈ shadowGates, modes gate = some "DEMO")
    (bounded : 60 ≤ window ∧ window ≤ 24 * 3600) (left : Distinct operation) (right : Distinct page.snapshots)
    (past : ¬ ageSeconds observed now < 0) :
    runDemoShadow hash modes operation page (.aware observed) (.aware now) window = .error oversized ∨
      ∃ report, runDemoShadow hash modes operation page (.aware observed) (.aware now) window = .ok report ∧
        report.lines =
          (comparison (byKey operation) (byKey page.snapshots) page.provider (ageSeconds observed now) window).lines ∧
        report.decision =
          (comparison (byKey operation) (byKey page.snapshots) page.provider (ageSeconds observed now) window).decision := by
  have read := @compareSides_of_distinct operation page observed now window left right
  rw [if_neg past] at read
  rcases @runDemoShadow_cases hash modes window approved bounded operation page observed now with
    ⟨why, compared, -⟩ | ⟨found, compared, long | ⟨report, ran, lines, -, decision⟩⟩
  · cases compared.symm.trans read
  · exact .inl long
  · cases compared.symm.trans read
    exact .inr ⟨report, ran, lines, decision⟩

theorem shadows_of_onTime (approved : ∀ gate ∈ shadowGates, modes gate = some "DEMO")
    (bounded : 60 ≤ window ∧ window ≤ 24 * 3600) (left : Distinct operation) (right : Distinct page.snapshots)
    (onTime : OnTime operation page observed now window) : Shadows hash modes operation page observed now window := by
  by_cases future : ageSeconds observed now < 0
  · exact shadows_of_future approved bounded left right future
  · have read := future
    rw [ageSeconds_neg] at read
    constructor
    · intro ahead
      have ahead := (Timestamp.lt_iff now observed).mp ahead
      exact absurd ⟨by omega, by omega⟩ onTime.1
    · intro past
      refine (run_of_past approved bounded left right future).imp_right ?_
      rintro ⟨report, ran, lines, decision⟩
      refine ⟨report, ran, ?_⟩
      rw [lines, decision]
      exact (exact_iff_onTime bounded left right past).mpr onTime

theorem onTime_of_shadows (approved : ∀ gate ∈ shadowGates, modes gate = some "DEMO")
    (bounded : 60 ≤ window ∧ window ≤ 24 * 3600) (left : Distinct operation) (right : Distinct page.snapshots)
    (short : runDemoShadow hash modes operation page (.aware observed) (.aware now) window ≠ .error oversized)
    (shadows : Shadows hash modes operation page observed now window) : OnTime operation page observed now window := by
  by_cases future : ageSeconds observed now < 0
  · have ahead := ageSeconds_neg.mp future
    exact ⟨by omega, .inl (by omega)⟩
  · obtain ⟨report, ran, lines, decision⟩ := (run_of_past approved bounded left right future).resolve_left short
    by_cases past : observed ≤ now
    · obtain long | ⟨other, reran, exact⟩ := shadows.2 past
      · exact absurd long short
      · cases ran.symm.trans reran
        rw [lines, decision] at exact
        exact (exact_iff_onTime bounded left right past).mp exact
    · have refused := shadows.1 ((Timestamp.not_le observed now).mp past)
      cases ran.symm.trans refused

/-- A run keeps its promise exactly when the page is on time to the second, and the order of neither side matters. -/
theorem demo_shadow_iff (hash : String → String) (modes : String → Option String) (operation : List OfflineOrderSnapshot)
    (page : OfflineOrderPage) (observed now : Timestamp) (window : Int)
    (approved : ∀ gate ∈ shadowGates, modes gate = some "DEMO") (bounded : 60 ≤ window ∧ window ≤ 24 * 3600)
    (left : Distinct operation) (right : Distinct page.snapshots) :
    (OnTime operation page observed now window → Shadows hash modes operation page observed now window) ∧
    (runDemoShadow hash modes operation page (.aware observed) (.aware now) window ≠ .error oversized →
      (Shadows hash modes operation page observed now window ↔ OnTime operation page observed now window)) ∧
    ∀ moved paged, operation.Perm moved → page.snapshots.Perm paged.snapshots → page.provider = paged.provider →
      FindsAlike (runDemoShadow hash modes operation page (.aware observed) (.aware now) window)
        (runDemoShadow hash modes moved paged (.aware observed) (.aware now) window) := by
  refine ⟨shadows_of_onTime approved bounded left right, fun short => ?_, ?_⟩
  · exact ⟨onTime_of_shadows approved bounded left right short, shadows_of_onTime approved bounded left right⟩
  · intro moved paged here there provider
    exact findsAlike_of_compareSides approved bounded (compareSides_perm left right here there provider)

end

/-! Half a second on either side of the limits. -/

def allDemo (_ : String) : Option String := some "DEMO"

def plainHash (_ : String) : String := "digest"

def shownLine (status : String) : OfflineOrderSnapshot where
  provider := "coupang"
  orderId := "1"
  lineId := "1:001"
  productId := "7"
  shipmentId := none
  status := status
  initialQuantity := 1
  remainingQuantity := 1
  amountsKrw := [("sale", some 1000)]
  claimReviewRequired := false
  sourceDigest := "digest"

def shownPage : OfflineOrderPage := ⟨"coupang", [shownLine "ACCEPT"], none, "digest"⟩

/-- A page of five minutes within a window of ten. -/
theorem demo_shadow_iff_recent :
    Shadows plainHash allDemo [shownLine "DEPARTURE"] shownPage (.utc 0) (.utc 300) 600 :=
  (demo_shadow_iff plainHash allDemo [shownLine "DEPARTURE"] shownPage (.utc 0) (.utc 300) 600 (fun _ _ => rfl) (by decide)
    (by decide) (by decide)).1 ⟨by decide, .inl (by decide)⟩

/-- A page that is observed half a second after the comparison is not refused, and one that is half a second older than
the window is no exit. -/
theorem half_seconds_accepted :
    (runDemoShadow plainHash allDemo [shownLine "ACCEPT"] shownPage (.aware ⟨500000, 0⟩) (.aware (.utc 0)) 60).map
        ShadowReport.decision = .ok .goOn ∧
      (runDemoShadow plainHash allDemo [shownLine "ACCEPT"] shownPage (.aware (.utc 0)) (.aware ⟨60500000, 0⟩) 60).map
        ShadowReport.decision = .ok .goOn ∧
      ¬ Shadows plainHash allDemo [shownLine "ACCEPT"] shownPage ⟨500000, 0⟩ (.utc 0) 60 ∧
      ¬ Shadows plainHash allDemo [shownLine "ACCEPT"] shownPage (.utc 0) ⟨60500000, 0⟩ 60 := by
  have early : (runDemoShadow plainHash allDemo [shownLine "ACCEPT"] shownPage (.aware ⟨500000, 0⟩) (.aware (.utc 0)) 60).map
      ShadowReport.decision = .ok .goOn := by decide +kernel
  have late : (runDemoShadow plainHash allDemo [shownLine "ACCEPT"] shownPage (.aware (.utc 0)) (.aware ⟨60500000, 0⟩) 60).map
      ShadowReport.decision = .ok .goOn := by decide +kernel
  refine ⟨early, late, fun shadows => ?_, fun shadows => ?_⟩
  · rw [shadows.1 (by decide)] at early
    cases early
  · rcases shadows.2 (by decide) with long | ⟨report, ran, exact⟩
    · rw [long] at late
      cases late
    · rw [ran] at late
      exact (exact.goOn.mp (Except.ok.inj late)).1 (.inl (by decide))

end AiStore.Offline
