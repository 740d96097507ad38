import NodeLedger.Proofs.Entry.Event

/-!
# Categories of drafts

The first category that applies and has a pattern found in the label of a record gives its name to
everything that is recorded for it, fees included.

Main results:

- Definitions `Category.IsFoundIn` and `Category.Names`: which name a label has among some
  categories.
- Theorem `Category.names_of_nameOf`: the name that is looked up among the categories that apply is
  that one.
- Theorem `Draft.OfEvent.filed`: the drafts of one event agree on where it happened and on their
  category.
- Theorems `TransactionRole.drafts_filed`, `Invoice.reportDrafts_filed`,
  `ResolvedPayment.reportDrafts_filed` and `Forward.drafts_filed`: which category that is.
-/

namespace NodeLedger

open List NodeLedger.Action

/-! ## The name of a label -/

namespace Category

/-- A pattern of a category is found in a label.  Nothing is found in what is no text. -/
def IsFoundIn (category : Category) (label : Value) : Prop :=
  ∃ text pattern, label = .text text ∧ pattern ∈ category.patterns ∧
    pattern.occursIn text = true

/-- The name of a label is that of the first category that applies and has a pattern found in it,
and is empty if there is none. -/
def Names (categories : List Category) (applies : Category → Bool) (label name : Value) : Prop :=
  (∃ before category after, categories = before ++ category :: after ∧
      applies category = true ∧ category.IsFoundIn label ∧ name = category.name ∧
      ∀ other ∈ before, applies other = true → ¬ other.IsFoundIn label) ∨
    (∀ category ∈ categories, applies category = true → ¬ category.IsFoundIn label) ∧
      name = .text ""

variable {categories : List Category} {applies : Category → Bool}

/-- Whether a text belongs to a category is whether a pattern is found in it. -/
theorem holds_eq_true_iff {category : Category} {text : String} :
    category.holds text = true ↔ category.IsFoundIn (.text text) := by
  unfold holds IsFoundIn
  rw [List.any_eq_true]
  constructor
  · rintro ⟨pattern, hpattern, hfound⟩
    exact ⟨text, pattern, rfl, hpattern, hfound⟩
  · rintro ⟨_, pattern, ⟨⟩, hpattern, hfound⟩
    exact ⟨pattern, hpattern, hfound⟩

/-- The name of a text among the categories that apply. -/
theorem names_of_text (text : String) :
    Names categories applies (.text text) (nameOfText (categories.filter applies) text) := by
  unfold nameOfText
  rw [List.find?_filter]
  cases hfind : categories.find? fun category => applies category ∧ category.holds text with
  | none =>
    refine .inr ⟨?_, rfl⟩
    intro category hcategory happlies hfound
    have hnot := List.find?_eq_none.mp hfind category hcategory
    exact hnot (decide_eq_true ⟨happlies, holds_eq_true_iff.mpr hfound⟩)
  | some category =>
    obtain ⟨hchosen, before, after, hsplit, hbefore⟩ := List.find?_eq_some_iff_append.mp hfind
    obtain ⟨happlies, hholds⟩ := of_decide_eq_true hchosen
    refine .inl ⟨before, category, after, hsplit, happlies, holds_eq_true_iff.mp hholds, rfl, ?_⟩
    intro other hother hothers hfound
    have hnot := hbefore other hother
    rw [decide_eq_true ⟨hothers, holds_eq_true_iff.mpr hfound⟩] at hnot
    cases hnot

/-- The name that is looked up for a label among the categories that apply is the one it has. -/
theorem names_of_nameOf {label name : Value}
    (h : nameOf (categories.filter applies) label = .ok name) :
    Names categories applies label name := by
  cases label with
  | text text =>
    cases h
    exact names_of_text text
  | _ =>
    have hempty : name = .text "" := by
      unfold nameOf at h
      split at h
      · next hlabel => cases hlabel
      · split at h
        · cases h
          rfl
        · cases h
    refine .inr ⟨?_, hempty⟩
    rintro category - - ⟨text, pattern, hlabel, -⟩
    cases hlabel

end Category

/-! ## Drafts of one record -/

/-- Drafts agree on whether something happened on chain, and on its category. -/
def Draft.Filed (onChain : Bool) (category : Value) (drafts : List Draft) : Prop :=
  ∀ draft ∈ drafts, draft.onChain = onChain ∧ draft.category = category

/-- A fee is filed like what it belongs to. -/
theorem Draft.OfEvent.filed {time total : Int} {moved : Draft} {rest : List Draft}
    (h : OfEvent time total (moved :: rest)) :
    Draft.Filed moved.onChain moved.category (moved :: rest) := by
  obtain ⟨first, fee, hsplit, -, -, hfee⟩ := h.moved_fee
  obtain ⟨rfl, rfl⟩ := List.cons.inj hsplit
  intro draft hdraft
  rcases List.mem_cons.mp hdraft with rfl | hdraft
  · exact ⟨rfl, rfl⟩
  · have hfeeOf := hfee draft (Option.mem_toList.mp hdraft)
    exact ⟨hfeeOf.onChain_eq, hfeeOf.category_eq⟩

section Filed

variable {context : EntryContext}

/-- The drafts of an opened channel have the category given. -/
theorem openDrafts_filed (category channelId peer : Value) (capacity : Int) (byUs : Bool)
    (tx : Transaction) :
    Draft.Filed true category (openDrafts category channelId peer capacity byUs tx) := by
  have hevent := openDrafts_ofEvent category channelId peer capacity byUs tx
  cases byUs with
  | false => exact hevent.filed
  | true => exact hevent.filed

/-- The drafts of a transaction that opens or closes no channel have the category of its label. -/
theorem Transaction.drafts_filed {tx : Transaction} {kind feeKind : EntryKind}
    {drafts : List Draft} (hkind : kind.isFee = false) (hfeeKind : feeKind.isFee = true)
    (h : tx.drafts context kind feeKind = .ok drafts) :
    ∃ category, context.categoryOf tx.label = .ok category ∧ Draft.Filed true category drafts := by
  have hevent := Transaction.drafts_ofEvent hkind hfeeKind h
  obtain ⟨category, hcategory, hdrafts⟩ := bind_eq_ok_iff.mp h
  cases hdrafts
  refine ⟨category, hcategory, ?_⟩
  by_cases hfee : tx.fee = 0
  · rw [if_pos hfee] at hevent ⊢
    exact hevent.filed
  · rw [if_neg hfee] at hevent ⊢
    exact hevent.filed

/-- The drafts of a transaction have the category of its label, whatever the transaction does. -/
theorem TransactionRole.drafts_filed {tx : Transaction} {closingFee : Option Int}
    {role : TransactionRole} {drafts : List Draft}
    (h : role.drafts context tx closingFee = .ok drafts) :
    ∃ category, context.categoryOf tx.label = .ok category ∧ Draft.Filed true category drafts := by
  cases role with
  | opens channel | opened channel =>
    obtain ⟨category, hcategory, hdrafts⟩ := bind_eq_ok_iff.mp h
    cases hdrafts
    exact ⟨category, hcategory, openDrafts_filed _ _ _ _ _ tx⟩
  | closes channel =>
    have hevent := drafts_ofEvent h
    obtain ⟨category, hcategory, hdrafts⟩ := bind_eq_ok_iff.mp h
    cases hdrafts
    exact ⟨category, hcategory, hevent.filed⟩
  | sweeps => exact Transaction.drafts_filed rfl rfl h
  | transfers =>
    refine Transaction.drafts_filed ?_ rfl h
    split <;> rfl

/-- The draft of an invoice has the category of its memo, and stands under its hash. -/
theorem Invoice.reportDrafts_filed {invoice : Invoice} {circular : Table Key Value}
    {drafts : List Draft} (h : invoice.reportDrafts context circular = .ok drafts) :
    (∃ category, context.categoryOf invoice.memo = .ok category ∧
        Draft.Filed false category drafts) ∧
      ∀ draft ∈ drafts, draft.txid = invoice.paymentHash := by
  have hevent := Invoice.reportDrafts_ofEvent h
  obtain ⟨isSelf, -, h⟩ := bind_eq_ok_iff.mp h
  obtain ⟨draft, hdraft, h⟩ := bind_eq_ok_iff.mp h
  cases h
  obtain ⟨category, hcategory, hdraft⟩ := bind_eq_ok_iff.mp hdraft
  cases hdraft
  refine ⟨⟨category, hcategory, hevent.filed⟩, ?_⟩
  intro draft hdraft
  rw [List.mem_singleton.mp hdraft]

/-- The drafts of a payment have the category of its description, and stand under its hash. -/
theorem ResolvedPayment.reportDrafts_filed {resolved : ResolvedPayment}
    {circular : Table Key Value} {drafts : List Draft}
    (h : resolved.reportDrafts context circular = .ok drafts) :
    (∃ category, context.categoryOf (resolved.description.orElse (.text "")) = .ok category ∧
        Draft.Filed false category drafts) ∧
      ∀ draft ∈ drafts, draft.txid = resolved.payment.paymentHash := by
  have hevent := ResolvedPayment.reportDrafts_ofEvent h
  obtain ⟨isSelf, -, h⟩ := bind_eq_ok_iff.mp h
  obtain ⟨category, hcategory, h⟩ := bind_eq_ok_iff.mp h
  cases h
  by_cases hfee : resolved.payment.fee = 0
  · rw [if_pos hfee] at hevent ⊢
    refine ⟨⟨category, hcategory, hevent.filed⟩, ?_⟩
    intro draft hdraft
    rw [List.mem_singleton.mp hdraft]
    rfl
  · rw [if_neg hfee] at hevent ⊢
    refine ⟨⟨category, hcategory, hevent.filed⟩, ?_⟩
    intro draft hdraft
    rcases List.mem_pair.mp hdraft with rfl | rfl
    · rfl
    · rfl

/-- The drafts of a forward have no category, and stand under the channels that it connects. -/
theorem Forward.drafts_filed (forward : Forward) :
    Draft.Filed false (.text "") forward.drafts ∧
      ∀ draft ∈ forward.drafts, draft.txid = forward.txid := by
  have hevent := forward.drafts_ofEvent
  unfold Forward.drafts at hevent ⊢
  by_cases hfee : forward.fee.count = 0
  · rw [if_pos hfee] at hevent ⊢
    refine ⟨hevent.filed, ?_⟩
    intro draft hdraft
    rw [List.mem_singleton.mp hdraft]
  · rw [if_neg hfee] at hevent ⊢
    refine ⟨hevent.filed, ?_⟩
    intro draft hdraft
    rcases List.mem_pair.mp hdraft with rfl | rfl
    · rfl
    · rfl

end Filed

end NodeLedger
