import AiStore.Purchasing.Orders

/-! What the selection of suppliers chooses, and what a routing makes of it. -/

set_option autoImplicit false

namespace AiStore.Purchasing

open Library (Session Table Timestamp)
open Library.Txn Failure Repository Service

/-! ## Quotes -/

theorem quoteLe_iff (first second : Quote) : quoteLe first second = true ↔ first.1 < second.1 ∨ first.1 = second.1 ∧
    Timestamp.codesLe (first.2.toList.map Char.toNat) (second.2.toList.map Char.toNat) = true := by
  simp [quoteLe]

instance : Std.Total fun first second : Quote => quoteLe first second = true where
  total first second := by
    rw [quoteLe_iff, quoteLe_iff]
    rcases lt_trichotomy first.1 second.1 with less | same | more
    · exact .inl (.inl less)
    · exact (Timestamp.codesLe_total _ _).imp (fun le => .inr ⟨same, le⟩) fun le => .inr ⟨same.symm, le⟩
    · exact .inr (.inl more)

instance : IsTrans Quote fun first second : Quote => quoteLe first second = true where
  trans first second third left right := by
    rw [quoteLe_iff] at left right ⊢
    rcases left with left | ⟨same, left⟩ <;> rcases right with right | ⟨equal, right⟩
    · exact .inl (left.trans right)
    · exact .inl (equal ▸ left)
    · exact .inl (same ▸ right)
    · exact .inr ⟨same.trans equal, Timestamp.codesLe_trans left right⟩

/-- A quote for the article of a line that can deliver its quantity. -/
def Feasible (options : Mapping) (line : OrderLine) (quote : Quote) : Prop :=
  ∃ items offer available, options.get? line.sku = some (.list items) ∧ Value.dict offer ∈ items ∧
    Mapping.get? offer "supplier_id" = some (.text quote.2) ∧ Mapping.get? offer "unit_cost_minor" = some (.int quote.1) ∧
    0 ≤ quote.1 ∧ Mapping.get? offer "available_quantity" = some (.int available) ∧ line.quantity ≤ available

theorem candidate_some {quantity : Int} {offer : Mapping} {quote : Quote} (taken : candidate quantity offer = .ok (some quote)) :
    ∃ available, offer.get? "supplier_id" = some (.text quote.2) ∧ offer.get? "unit_cost_minor" = some (.int quote.1) ∧
      0 ≤ quote.1 ∧ offer.get? "available_quantity" = some (.int available) ∧ quantity ≤ available := by
  unfold candidate at taken
  split at taken
  · next supplier named =>
    split at taken
    · split at taken
      · next cost available priced stocked =>
        split at taken
        · next enough =>
          cases taken
          exact ⟨available, named, priced, enough.1, stocked, enough.2⟩
        · cases taken
      · cases taken
    · cases taken
  · cases taken

theorem candidate_of_feasible {quantity available : Int} {offer : Mapping} {quote : Quote} {found : Option Quote}
    (read : candidate quantity offer = .ok found) (named : offer.get? "supplier_id" = some (.text quote.2))
    (priced : offer.get? "unit_cost_minor" = some (.int quote.1)) (sane : 0 ≤ quote.1)
    (stocked : offer.get? "available_quantity" = some (.int available)) (enough : quantity ≤ available) :
    found = some quote := by
  unfold candidate at read
  rw [named, priced, stocked] at read
  simp only at read
  split at read
  · rw [if_pos ⟨sane, enough⟩] at read
    cases read
    rfl
  · cases read

theorem mapM_ok {α β : Type} {read : α → Except Failure β} {items : List α} {values : List β}
    (done : items.mapM read = .ok values) :
    (∀ value ∈ values, ∃ item ∈ items, read item = .ok value) ∧ ∀ item ∈ items, ∃ value ∈ values, read item = .ok value := by
  induction items generalizing values with
  | nil =>
    cases done
    exact ⟨fun _ member => absurd member List.not_mem_nil, fun _ member => absurd member List.not_mem_nil⟩
  | cons first rest ih =>
    rw [List.mapM_cons] at done
    cases head : read first with
    | error why =>
      rw [head] at done
      cases done
    | ok value =>
      cases tail : rest.mapM read with
      | error why =>
        rw [head, tail] at done
        cases done
      | ok others =>
        rw [head, tail] at done
        cases done
        obtain ⟨back, forth⟩ := ih tail
        constructor
        · intro other member
          rcases List.mem_cons.mp member with rfl | later
          · exact ⟨first, List.mem_cons_self, head⟩
          · obtain ⟨item, item_member, same⟩ := back other later
            exact ⟨item, List.mem_cons_of_mem _ item_member, same⟩
        · intro item member
          rcases List.mem_cons.mp member with rfl | later
          · exact ⟨value, List.mem_cons_self, head⟩
          · obtain ⟨other, other_member, same⟩ := forth item later
            exact ⟨other, List.mem_cons_of_mem _ other_member, same⟩

/-- The candidates of a line are its feasible quotes. -/
theorem mem_candidates {options : Mapping} {line : OrderLine} {offers : List Mapping} {found : List (Option Quote)}
    (quotes : quotesFor options line.sku = .ok offers) (read : offers.mapM (candidate line.quantity) = .ok found)
    (quote : Quote) : quote ∈ found.filterMap id ↔ Feasible options line quote := by
  obtain ⟨back, forth⟩ := mapM_ok read
  rw [List.mem_filterMap]
  constructor
  · rintro ⟨entry, member, rfl⟩
    obtain ⟨offer, offer_member, taken⟩ := back _ member
    obtain ⟨available, named, priced, sane, stocked, enough⟩ := candidate_some taken
    unfold quotesFor at quotes
    split at quotes
    · cases quotes
      cases offer_member
    · next items listed =>
      cases quotes
      obtain ⟨item, item_member, same⟩ := List.mem_filterMap.mp offer_member
      split at same
      · cases same
        exact ⟨items, offer, available, listed, item_member, named, priced, sane, stocked, enough⟩
      · cases same
    · cases quotes
  · rintro ⟨items, offer, available, listed, item_member, named, priced, sane, stocked, enough⟩
    simp only [quotesFor, listed] at quotes
    cases quotes
    obtain ⟨entry, member, taken⟩ := forth offer (List.mem_filterMap.mpr ⟨_, item_member, rfl⟩)
    exact ⟨entry, member, candidate_of_feasible taken named priced sane stocked enough⟩

/-- The quote that a line gets, or none. -/
def Chosen (options : Mapping) (line : OrderLine) (quote : Quote) : Prop :=
  Feasible options line quote ∧ ∀ other, Feasible options line other → quoteLe quote other = true

theorem cheapest_ok {options : Mapping} {line : OrderLine} {result : Option Quote}
    (chosen : cheapest options line = .ok result) : ∃ candidates : List Quote,
      (∀ quote, quote ∈ candidates ↔ Feasible options line quote) ∧
        result = (candidates.insertionSort fun first second => quoteLe first second).head? := by
  unfold cheapest at chosen
  cases quotes : quotesFor options line.sku with
  | error why =>
    rw [quotes] at chosen
    cases chosen
  | ok offers =>
    cases read : offers.mapM (candidate line.quantity) with
    | error why =>
      simp only [quotes, bind, Except.bind, read] at chosen
      cases chosen
    | ok found =>
      simp only [quotes, bind, Except.bind, read] at chosen
      cases chosen
      exact ⟨found.filterMap id, mem_candidates quotes read, rfl⟩

/-- The head of the sorted candidates is the least of them. -/
theorem cheapest_some {options : Mapping} {line : OrderLine} {quote : Quote} (chosen : cheapest options line = .ok (some quote)) :
    Chosen options line quote := by
  obtain ⟨candidates, feasible, first⟩ := cheapest_ok chosen
  have sorted := List.pairwise_insertionSort (fun first second : Quote => quoteLe first second = true) candidates
  have members : ∀ other, other ∈ candidates.insertionSort (fun first second => quoteLe first second) ↔ other ∈ candidates :=
    fun other => (List.perm_insertionSort _ candidates).mem_iff
  cases listed : candidates.insertionSort (fun first second => quoteLe first second) with
  | nil =>
    rw [listed] at first
    cases first
  | cons head rest =>
    rw [listed] at first members sorted
    cases first
    have least : ∀ other ∈ rest, quoteLe quote other = true := (List.pairwise_cons.mp sorted).1
    constructor
    · exact (feasible quote).mp ((members quote).mp List.mem_cons_self)
    · intro other able
      rcases List.mem_cons.mp ((members other).mpr ((feasible other).mpr able)) with rfl | later
      · exact (Std.Total.total (r := fun first second : Quote => quoteLe first second = true) other other).elim id id
      · exact least other later

theorem cheapest_none {options : Mapping} {line : OrderLine} (none : cheapest options line = .ok none) (quote : Quote) :
    ¬ Feasible options line quote := by
  obtain ⟨candidates, feasible, first⟩ := cheapest_ok none
  have empty : candidates = [] := by
    have nothing := List.head?_eq_none_iff.mp first.symm
    have lengths := (List.perm_insertionSort (fun first second : Quote => quoteLe first second = true) candidates).length_eq
    rw [nothing] at lengths
    exact List.length_eq_zero_iff.mp lengths.symm
  intro able
  have member := (feasible quote).mpr able
  rw [empty] at member
  cases member

/-! ## Selections -/

/-- A selection has one supplier for each line, in their order. -/
theorem select_lines {options : Mapping} {lines : List OrderLine} {selected : List Selection}
    (chosen : select options lines = .ok (.ok selected)) : selected.map (·.line) = lines := by
  induction lines generalizing selected with
  | nil =>
    cases chosen
    rfl
  | cons line rest ih =>
    simp only [select, bind, Except.bind] at chosen
    split at chosen
    · cases chosen
    · split at chosen
      · cases chosen
      · split at chosen
        · cases chosen
        · next rest_chosen =>
          split at chosen
          · cases chosen
          · next others =>
            cases chosen
            rw [List.map_cons, ih rest_chosen]

/-- Each line of a selection has the least of its feasible quotes. -/
theorem select_chosen {options : Mapping} {lines : List OrderLine} {selected : List Selection}
    (chosen : select options lines = .ok (.ok selected)) :
    ∀ selection ∈ selected, Chosen options selection.line (selection.cost, selection.supplier) := by
  induction lines generalizing selected with
  | nil =>
    cases chosen
    exact fun _ member => absurd member List.not_mem_nil
  | cons line rest ih =>
    simp only [select, bind, Except.bind] at chosen
    split at chosen
    · cases chosen
    · next quoted =>
      split at chosen
      · cases chosen
      · split at chosen
        · cases chosen
        · next rest_chosen =>
          split at chosen
          · cases chosen
          · next others =>
            cases chosen
            intro selection member
            rcases List.mem_cons.mp member with rfl | later
            · exact cheapest_some quoted
            · exact ih rest_chosen selection later

/-- No selection is made only because of a line that nobody can deliver. -/
theorem select_error {options : Mapping} {lines : List OrderLine} {sku : String}
    (failed : select options lines = .ok (.error sku)) : ∃ line ∈ lines, line.sku = sku ∧ ∀ quote, ¬ Feasible options line quote := by
  induction lines with
  | nil => cases failed
  | cons line rest ih =>
    simp only [select, bind, Except.bind] at failed
    split at failed
    · cases failed
    · next quoted =>
      split at failed
      · cases failed
        exact ⟨line, List.mem_cons_self, rfl, cheapest_none quoted⟩
      · split at failed
        · cases failed
        · next rest_failed =>
          split at failed
          · cases failed
            obtain ⟨other, member, named, infeasible⟩ := ih rest_failed
            exact ⟨other, List.mem_cons_of_mem _ member, named, infeasible⟩
          · cases failed

end AiStore.Purchasing
