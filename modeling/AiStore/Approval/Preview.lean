import AiStore.Domain.Values

/-! The preview of a command for its approver, and what it withholds. -/

set_option autoImplicit false

namespace AiStore.Approval

/-! ## Patterns -/

/-- What `(?i)` compares: İ and ı pass for `i`, ſ for `s`, the Kelvin sign for `k`. -/
def foldCase (c : Char) : Char :=
  if c.toNat ∈ [0x130, 0x131] then 'i' else if c.toNat = 0x17F then 's' else if c.toNat = 0x212A then 'k' else c.toLower

def folded (text : String) : List Char := text.toList.map foldCase

/-- `first[_-]?second`. -/
def joined (first second : String) : List String := ["", "_", "-"].map fun between => first ++ between ++ second

/-- The alternatives of `_SENSITIVE_KEY`. -/
def sensitiveWords : List String :=
  joined "api" "key" ++ ["authorization"] ++ joined "access" "token" ++ joined "refresh" "token" ++
    ["password", "secret", "credential", "phone", "email", "address", "contact"] ++
    ["receiver", "recipient", "customer"].flatMap fun party => ["name", "phone", "email", "address"].flatMap (joined party)

/-- Whether one of the words begins somewhere. -/
def occursAny (words : List (List Char)) (text : List Char) : Bool :=
  text.tails.any fun rest => words.any fun word => word.isPrefixOf rest

/-- `_SENSITIVE_KEY.search`. -/
def sensitiveKey (label : String) : Bool := occursAny (sensitiveWords.map String.toList) (folded label)

def signatureParts : List (List Char) :=
  ["?", "&"].flatMap fun mark => ["token", "signature", "x-amz-signature", "x-goog-signature"].map fun name =>
    (mark ++ name ++ "=").toList

/-- `_SIGNED_URL.search`; the dot stops at the end of the line. -/
def signedUrl (text : String) : Bool :=
  ["http://", "https://"].any fun scheme =>
    scheme.toList.isPrefixOf (folded text) &&
      occursAny signatureParts (((folded text).drop scheme.length).takeWhile (· ≠ '\n'))

/-! ## Redaction -/

def redactedMark : Value := .text "[REDACTED]"

mutual

/-- `_safe_preview`. -/
def safePreview (depth : Nat) : Value → Value × Bool
  | .dict entries =>
      if 8 < depth then (redactedMark, true)
      else let (shown, changed) := safeEntries depth entries; (.dict shown, changed)
  | .list items =>
      if 8 < depth then (redactedMark, true)
      else let (shown, changed) := safeItems depth items; (.list shown, changed)
  | .text text => if 8 < depth ∨ signedUrl text = true then (redactedMark, true) else (.text text, false)
  | leaf => if 8 < depth then (redactedMark, true) else (leaf, false)

def safeEntries (depth : Nat) : List (String × Value) → List (String × Value) × Bool
  | [] => ([], false)
  | (label, item) :: rest =>
      let (others, behind) := safeEntries depth rest
      if sensitiveKey label then ((label, redactedMark) :: others, true)
      else let (shown, changed) := safePreview (depth + 1) item; ((label, shown) :: others, changed || behind)

def safeItems (depth : Nat) : List Value → List Value × Bool
  | [] => ([], false)
  | item :: rest =>
      let (shown, changed) := safePreview (depth + 1) item
      let (others, behind) := safeItems depth rest
      (shown :: others, changed || behind)

end

/-- What `_material_preview` returns. -/
structure MaterialPreview where
  before : Value
  after : Value
  profit : Value
  evidence : Value
  badges : List String
  deriving DecidableEq

/-- The mapping, or an empty one. -/
def asMapping : Value → Mapping
  | .dict entries => entries
  | _ => []

def intOrNone : Option Value → Value
  | some (.int number) => .int number
  | _ => .none

def textOrNone : Option Value → Value
  | some (.text text) => .text text
  | _ => .none

def rawProfit (payload : Mapping) : Mapping := asMapping ((Mapping.get? payload "profit").getD (.dict []))

def profitTexts : List String := ["margin_ex_ad", "margin_with_ad", "currency"]

def profitPreview (profit : Mapping) : Mapping :=
  ("projected_profit_minor", intOrNone (Mapping.get? profit "projected_profit_minor")) ::
    profitTexts.map fun key => (key, textOrNone (Mapping.get? profit key))

/-- `_material_preview`, of the payload of the command. -/
def materialPreview (payload evidence : Value) : MaterialPreview :=
  let payload := asMapping payload
  let (before, beforeRedacted) := safePreview 0 ((Mapping.get? payload "before").getD (.dict []))
  let (after, afterRedacted) := safePreview 0 ((Mapping.get? payload "after").getD (.dict payload))
  let (shown, evidenceRedacted) := safePreview 0 evidence
  let profit := rawProfit payload
  let redacted := if beforeRedacted || afterRedacted || evidenceRedacted then ["sensitive_fields_redacted"] else []
  let missing := if intOrNone (Mapping.get? profit "projected_profit_minor") = .none then ["profit_evidence_missing"] else []
  ⟨before, after, .dict (profitPreview profit), shown, redacted ++ missing⟩

/-! ## What a preview may show -/

mutual

/-- Below a sensitive key there is the mark only, and no text is a signed URL. -/
def Clean : Value → Prop
  | .dict entries => CleanEntries entries
  | .list items => CleanItems items
  | .text text => signedUrl text = false
  | _ => True

def CleanEntries : List (String × Value) → Prop
  | [] => True
  | (label, item) :: rest => (if sensitiveKey label then item = redactedMark else Clean item) ∧ CleanEntries rest

def CleanItems : List Value → Prop
  | [] => True
  | item :: rest => Clean item ∧ CleanItems rest

end

def MaterialPreview.Clean (preview : MaterialPreview) : Prop :=
  Approval.Clean preview.before ∧ Approval.Clean preview.after ∧ Approval.Clean preview.profit ∧ Approval.Clean preview.evidence

mutual

/-- The two differ only below sensitive keys, and by which URL it is that is signed. -/
def Alike : Value → Value → Prop
  | .dict entries, .dict others => AlikeEntries entries others
  | .list items, .list others => AlikeItems items others
  | .text text, .text other => text = other ∨ signedUrl text = true ∧ signedUrl other = true
  | leaf, other => leaf = other

def AlikeEntries : List (String × Value) → List (String × Value) → Prop
  | [], [] => True
  | (label, item) :: rest, (other, value) :: others =>
      label = other ∧ (sensitiveKey label = true ∨ Alike item value) ∧ AlikeEntries rest others
  | _, _ => False

def AlikeItems : List Value → List Value → Prop
  | [], [] => True
  | item :: rest, other :: others => Alike item other ∧ AlikeItems rest others
  | _, _ => False

end

/-- The preview shows nothing that it should withhold, and does not depend on it. -/
def Withholds (payload evidence : Value) : Prop :=
  (materialPreview payload evidence).Clean ∧ ∀ other shown, Alike payload other → Alike evidence shown →
    materialPreview other shown = materialPreview payload evidence

/-- No text of the profit is a signed URL. -/
def ProfitUnsigned (payload : Value) : Prop :=
  ∀ key ∈ profitTexts, ∀ text, Mapping.get? (rawProfit (asMapping payload)) key = some (.text text) → signedUrl text = false

/-! ### The filter -/

theorem clean_mark : Clean redactedMark := by
  rw [redactedMark, Clean]
  decide +kernel

mutual

theorem clean_safePreview (depth : Nat) : ∀ value, Clean (safePreview depth value).1
  | .dict entries => by
      rw [safePreview]
      split
      · exact clean_mark
      · exact clean_safeEntries depth entries
  | .list items => by
      rw [safePreview]
      split
      · exact clean_mark
      · exact clean_safeItems depth items
  | .text text => by
      rw [safePreview]
      split
      · exact clean_mark
      · next shown => simpa [Clean] using (not_or.mp shown).2
  | .none | .bool _ | .int _ | .float _ | .uuid _ | .time _ | .foreign _ => by
      simp only [safePreview]
      split
      · exact clean_mark
      · exact trivial

theorem clean_safeEntries (depth : Nat) : ∀ entries, CleanEntries (safeEntries depth entries).1
  | [] => trivial
  | (label, item) :: rest => by
      have others := clean_safeEntries depth rest
      by_cases sensitive : sensitiveKey label = true
      · simp only [safeEntries, sensitive, if_true]
        exact ⟨by rw [if_pos sensitive], others⟩
      · simp only [safeEntries, sensitive]
        refine ⟨?_, others⟩
        rw [if_neg sensitive]
        exact clean_safePreview (depth + 1) item

theorem clean_safeItems (depth : Nat) : ∀ items, CleanItems (safeItems depth items).1
  | [] => trivial
  | item :: rest => ⟨clean_safePreview (depth + 1) item, clean_safeItems depth rest⟩

end

mutual

theorem Alike.refl : ∀ value, Alike value value
  | .dict entries => AlikeEntries.refl entries
  | .list items => AlikeItems.refl items
  | .text _ => .inl rfl
  | .none | .bool _ | .int _ | .float _ | .uuid _ | .time _ | .foreign _ => rfl

theorem AlikeEntries.refl : ∀ entries, AlikeEntries entries entries
  | [] => trivial
  | (_, item) :: rest => ⟨rfl, .inr (Alike.refl item), AlikeEntries.refl rest⟩

theorem AlikeItems.refl : ∀ items, AlikeItems items items
  | [] => trivial
  | item :: rest => ⟨Alike.refl item, AlikeItems.refl rest⟩

end

mutual

theorem safePreview_alike (depth : Nat) : ∀ value other, Alike value other → safePreview depth other = safePreview depth value
  | .dict entries, .dict others, alike => by
      rw [safePreview, safePreview, safeEntries_alike depth entries others alike]
  | .list items, .list others, alike => by
      rw [safePreview, safePreview, safeItems_alike depth items others alike]
  | .text text, .text other, alike => by
      rcases alike with rfl | ⟨left, right⟩
      · rfl
      · rw [safePreview, safePreview, if_pos (.inr right), if_pos (.inr left)]
  | .none, _, alike | .bool _, _, alike | .int _, _, alike | .float _, _, alike | .uuid _, _, alike | .time _, _, alike
  | .foreign _, _, alike => by
      cases alike
      rfl

theorem safeEntries_alike (depth : Nat) : ∀ entries others, AlikeEntries entries others →
    safeEntries depth others = safeEntries depth entries
  | [], [], _ => rfl
  | (label, item) :: rest, (_, value) :: others, ⟨rfl, inside, behind⟩ => by
      rw [safeEntries, safeEntries, safeEntries_alike depth rest others behind]
      by_cases sensitive : sensitiveKey label = true
      · simp only [sensitive, if_true]
      · rw [safePreview_alike (depth + 1) item value (inside.resolve_left sensitive)]

theorem safeItems_alike (depth : Nat) : ∀ items others, AlikeItems items others →
    safeItems depth others = safeItems depth items
  | [], [], _ => rfl
  | item :: rest, other :: others, ⟨first, behind⟩ => by
      rw [safeItems, safeItems, safePreview_alike (depth + 1) item other first, safeItems_alike depth rest others behind]

end

/-! ### The sections -/

theorem get?_alike {entries others : List (String × Value)} {key : String} (plain : sensitiveKey key = false)
    (alike : AlikeEntries entries others) : match Mapping.get? entries key, Mapping.get? others key with
      | some item, some other => Alike item other
      | none, none => True
      | _, _ => False := by
  induction entries generalizing others with
  | nil =>
    cases others with
    | nil => trivial
    | cons _ _ => exact alike.elim
  | cons entry rest ih =>
    obtain ⟨label, item⟩ := entry
    cases others with
    | nil => exact alike.elim
    | cons other more =>
      obtain ⟨name, value⟩ := other
      obtain ⟨rfl, inside, behind⟩ := alike
      by_cases here : label = key
      · subst here
        simp only [Mapping.get?, List.find?_cons, decide_true, Option.map_some]
        exact inside.resolve_left (by rw [plain]; exact Bool.false_ne_true)
      · simp only [Mapping.get?, List.find?_cons, here, decide_false]
        exact ih behind

/-- What stands under a key that is not sensitive, or a default, is alike too. -/
theorem getD_alike {entries others : List (String × Value)} {key : String} {default other : Value}
    (plain : sensitiveKey key = false) (alike : AlikeEntries entries others) (same : Alike default other) :
    Alike ((Mapping.get? entries key).getD default) ((Mapping.get? others key).getD other) := by
  have found := get?_alike plain alike
  split at found
  · next left right =>
    rw [left, right]
    exact found
  · next left right =>
    rw [left, right]
    exact same
  · exact found.elim

theorem asMapping_alike {value other : Value} (alike : Alike value other) : AlikeEntries (asMapping value) (asMapping other) := by
  cases value with
  | dict entries =>
    cases other with
    | dict others => exact alike
    | _ => exact absurd alike (by simp [Alike])
  | list items =>
    cases other with
    | list others => trivial
    | _ => exact absurd alike (by simp [Alike])
  | text text =>
    cases other with
    | text other => trivial
    | _ => exact absurd alike (by simp [Alike])
  | _ =>
    cases alike
    trivial

theorem plain_keys : ∀ key ∈ "before" :: "after" :: "profit" :: "projected_profit_minor" :: profitTexts,
    sensitiveKey key = false := by
  decide +kernel

theorem rawProfit_alike {payload other : Mapping} (alike : AlikeEntries payload other) :
    AlikeEntries (rawProfit payload) (rawProfit other) :=
  asMapping_alike (getD_alike (plain_keys "profit" (by simp)) alike (Alike.refl _))

theorem intOrNone_alike {profit other : Mapping} {key : String} (plain : sensitiveKey key = false)
    (alike : AlikeEntries profit other) : intOrNone (Mapping.get? other key) = intOrNone (Mapping.get? profit key) := by
  have found := get?_alike plain alike
  split at found
  · next item value left right =>
    rw [left, right]
    cases item <;> cases value <;> simp_all [Alike, intOrNone]
  · next left right => rw [left, right]
  · exact found.elim

theorem textOrNone_alike {profit other : Mapping} {key : String} (plain : sensitiveKey key = false)
    (alike : AlikeEntries profit other)
    (unsigned : ∀ text, Mapping.get? profit key = some (.text text) → signedUrl text = false) :
    textOrNone (Mapping.get? other key) = textOrNone (Mapping.get? profit key) := by
  have found := get?_alike plain alike
  split at found
  · next item value left right =>
    rw [left] at unsigned
    rw [left, right]
    cases item <;> cases value <;> simp_all [Alike, textOrNone]
  · next left right => rw [left, right]
  · exact found.elim

theorem profitPreview_alike {payload other : Value} (unsigned : ProfitUnsigned payload) (alike : Alike payload other) :
    profitPreview (rawProfit (asMapping other)) = profitPreview (rawProfit (asMapping payload)) := by
  have profits := rawProfit_alike (asMapping_alike alike)
  rw [profitPreview, profitPreview, intOrNone_alike (plain_keys _ (by simp)) profits]
  refine congrArg _ (List.map_congr_left fun key member => ?_)
  rw [textOrNone_alike (plain_keys key (by simp [member])) profits (unsigned key member)]

theorem materialPreview_alike {payload evidence other shown : Value} (unsigned : ProfitUnsigned payload)
    (payloads : Alike payload other) (evidences : Alike evidence shown) :
    materialPreview other shown = materialPreview payload evidence := by
  have entries := asMapping_alike payloads
  have before := safePreview_alike 0 _ _ (getD_alike (plain_keys "before" (by simp)) entries (Alike.refl (.dict [])))
  have after := safePreview_alike 0 _ _ (@getD_alike _ _ "after" (.dict (asMapping payload)) (.dict (asMapping other))
    (plain_keys "after" (by simp)) entries entries)
  have minor := intOrNone_alike (plain_keys "projected_profit_minor" (by simp)) (rawProfit_alike entries)
  simp only [materialPreview, before, after, minor, safePreview_alike 0 _ _ evidences, profitPreview_alike unsigned payloads]

theorem cleanEntries_iff {entries : List (String × Value)} : CleanEntries entries ↔
    ∀ entry ∈ entries, if sensitiveKey entry.1 then entry.2 = redactedMark else Clean entry.2 := by
  induction entries with
  | nil => simp [CleanEntries]
  | cons entry rest ih => simp only [CleanEntries, List.forall_mem_cons, ih]

theorem clean_intOrNone (value : Option Value) : Clean (intOrNone value) := by
  unfold intOrNone
  split <;> trivial

theorem clean_textOrNone {value : Option Value} :
    Clean (textOrNone value) ↔ ∀ text, value = some (.text text) → signedUrl text = false := by
  unfold textOrNone
  split
  · next text => simp [Clean]
  · next other =>
    constructor
    · exact fun _ text same => absurd same (other text)
    · exact fun _ => trivial

/-- The profit is shown as it is, so that it is clean only where nothing is to be withheld. -/
theorem clean_profit_iff (payload : Value) :
    Clean (.dict (profitPreview (rawProfit (asMapping payload)))) ↔ ProfitUnsigned payload := by
  rw [Clean, profitPreview, cleanEntries_iff, List.forall_mem_cons, List.forall_mem_map,
    if_neg (by rw [plain_keys "projected_profit_minor" (by simp)]; exact Bool.false_ne_true)]
  constructor
  · rintro ⟨-, each⟩ key member
    have shown := each key member
    rw [if_neg (by rw [plain_keys key (by simp [member])]; exact Bool.false_ne_true)] at shown
    exact clean_textOrNone.mp shown
  · refine fun unsigned => ⟨clean_intOrNone _, fun key member => ?_⟩
    rw [if_neg (by rw [plain_keys key (by simp [member])]; exact Bool.false_ne_true)]
    exact clean_textOrNone.mpr (unsigned key member)

/-- A preview withholds what it should exactly when the profit holds no signed URL. -/
theorem preview_withholds_iff (payload evidence : Value) : Withholds payload evidence ↔ ProfitUnsigned payload := by
  constructor
  · rintro ⟨⟨-, -, profit, -⟩, -⟩
    exact (clean_profit_iff payload).mp profit
  · intro unsigned
    refine ⟨⟨clean_safePreview 0 _, clean_safePreview 0 _, (clean_profit_iff payload).mpr unsigned, clean_safePreview 0 _⟩, ?_⟩
    exact fun other shown payloads evidences => materialPreview_alike unsigned payloads evidences

/-- The payload of a command whose margin is the address of a signed file. -/
def signedMargin (secret : String) : Value := .dict [("after", .dict []), ("profit", .dict [("projected_profit_minor", .int 200),
  ("margin_ex_ad", .text ("https://files/margin?token=" ++ secret))])]

/-- The address is shown, and tells two commands apart that differ in the signature alone. -/
theorem signed_margin_shown : ¬ Withholds (signedMargin "a") (.list []) ∧
    (materialPreview (signedMargin "a") (.list [])).profit = .dict [("projected_profit_minor", .int 200),
      ("margin_ex_ad", .text "https://files/margin?token=a"), ("margin_with_ad", .none), ("currency", .none)] ∧
    Alike (signedMargin "a") (signedMargin "b") ∧
    materialPreview (signedMargin "a") (.list []) ≠ materialPreview (signedMargin "b") (.list []) := by
  have shown : (materialPreview (signedMargin "a") (.list [])).profit = .dict [("projected_profit_minor", .int 200),
      ("margin_ex_ad", .text "https://files/margin?token=a"), ("margin_with_ad", .none), ("currency", .none)] := by
    decide +kernel
  have signed : ∀ secret ∈ ["a", "b"], signedUrl ("https://files/margin?token=" ++ secret) = true := by decide +kernel
  refine ⟨fun withheld => ?_, shown, ?_, by decide +kernel⟩
  · have unsigned := (clean_profit_iff _).mp withheld.1.2.2.1 "margin_ex_ad" (by simp [profitTexts]) _ rfl
    exact Bool.false_ne_true (unsigned.symm.trans (signed "a" (by simp)))
  · simp only [signedMargin, Alike, AlikeEntries, true_and, and_true]
    exact ⟨.inr trivial, .inr ⟨.inr trivial, .inr (.inr ⟨signed "a" (by simp), signed "b" (by simp)⟩)⟩⟩

end AiStore.Approval
