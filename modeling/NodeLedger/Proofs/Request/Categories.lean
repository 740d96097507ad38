import Mathlib.Data.List.Nodup
import NodeLedger.Category
import NodeLedger.Proofs.Session.Outcome

/-!
# Lists of categories

A list of categories is checked item by item, and the names and patterns that have been met are
remembered.  What is remembered after some items are the names and patterns of exactly those, so that
a list passes if and only if it is well formed as a whole.  What has passed is compiled once more,
and that cannot fail.

Main results:

- Definition `Category.WellFormed`: what a list of categories has to be.
- Definition `Decides`: a check succeeds just if something holds, and what it gives then satisfies
  something.  Theorem `Decides.foldlM`: a check of a list that remembers what it has met.
- Theorem `Category.Seen.Remembers.decides_add`: what the check of one more category decides, and
  what is remembered after it.
- Theorem `Category.Gives.exists_ofValue`: a category that fits is compiled.
- Theorem `Category.parse_iff_wellFormed`: the lists that are read, and what is read from them.
-/

namespace NodeLedger

open List

/-! ## Checks that decide -/

section Decides

variable {σ α β : Type}

/-- A check succeeds just if `p` holds, and then what it gives satisfies `q`. -/
structure Decides (r : Except Failure α) (p : Prop) (q : α → Prop) : Prop where
  ok_iff : (∃ a, r = .ok a) ↔ p
  of_ok : ∀ a, r = .ok a → q a

variable {p u : Prop} {q : α → Prop} {v : β → Prop} {r : Except Failure α}

/-- A value is given, whatever happens. -/
theorem Decides.ok {a : α} (h : q a) : Decides (pure a : Except Failure α) True q where
  ok_iff := ⟨fun _ => trivial, fun _ => ⟨a, rfl⟩⟩
  of_ok := by rintro _ ⟨⟩; exact h

/-- What is refused. -/
theorem Decides.refuse {failure : Failure} (h : ¬ p) :
    Decides (throw failure : Except Failure α) p q where
  ok_iff := iff_of_false (by rintro ⟨_, ⟨⟩⟩) h
  of_ok := by rintro _ ⟨⟩

/-- What is refused on a condition. -/
theorem Decides.unless {refused : Prop} [Decidable refused] {failure : Failure}
    {rest : β → Except Failure α} {next : Except Failure α} (h : ¬ refused → Decides next p q) :
    Decides (if refused then throw failure >>= rest else next) (¬ refused ∧ p) q := by
  by_cases hrefused : refused
  · rw [if_pos hrefused]
    exact .refuse fun hp => hp.1 hrefused
  · rw [if_neg hrefused]
    exact ⟨(h hrefused).ok_iff.trans (and_iff_right hrefused).symm, (h hrefused).of_ok⟩

/-- A check that goes on with what another has given. -/
theorem Decides.bind {next : α → Except Failure β} (h : Decides r p q)
    (hnext : ∀ a, p → q a → Decides (next a) u v) : Decides (r >>= next) (p ∧ u) v where
  ok_iff := by
    constructor
    · rintro ⟨b, hb⟩
      obtain ⟨a, ha, hb⟩ := bind_eq_ok_iff.mp hb
      have hp := h.ok_iff.mp ⟨a, ha⟩
      exact ⟨hp, (hnext a hp (h.of_ok a ha)).ok_iff.mp ⟨b, hb⟩⟩
    · rintro ⟨hp, hu⟩
      obtain ⟨a, ha⟩ := h.ok_iff.mpr hp
      obtain ⟨b, hb⟩ := (hnext a hp (h.of_ok a ha)).ok_iff.mpr hu
      exact ⟨b, bind_eq_ok_iff.mpr ⟨a, ha, hb⟩⟩
  of_ok b hb := by
    obtain ⟨a, ha, hb⟩ := bind_eq_ok_iff.mp hb
    have hp := h.ok_iff.mp ⟨a, ha⟩
    exact (hnext a hp (h.of_ok a ha)).of_ok b hb

/-- The same decision in other words. -/
theorem Decides.congr (h : Decides r p q) (hp : p ↔ u) : Decides r u q :=
  ⟨h.ok_iff.trans hp, h.of_ok⟩

/-- A list is checked item by item, and what has been met is remembered.  If one more item passes
just if it is good after those before it, the list passes just if it is good as a whole. -/
theorem Decides.foldlM {R : α → β → Prop} {f : σ → α → Except Failure σ}
    {I : σ → List β → Prop} {good : List β → Prop}
    (hfront : ∀ before after, good (before ++ after) → good before)
    (hstep : ∀ s before a b, I s before → good before → R a b →
      Decides (f s a) (good (before ++ [b])) (I · (before ++ [b])))
    {as : List α} {bs : List β} (h : Forall₂ R as bs) {s : σ} {before : List β}
    (hs : I s before) (hgood : good before) :
    Decides (as.foldlM f s) (good (before ++ bs)) (I · (before ++ bs)) := by
  induction h generalizing s before with
  | nil =>
    rw [List.append_nil]
    exact (Decides.ok (a := s) hs).congr (iff_of_true trivial hgood)
  | @cons a b as bs hab _ ih =>
    have hsplit : before ++ b :: bs = before ++ [b] ++ bs := by simp
    rw [List.foldlM_cons, hsplit]
    refine ((hstep s before a b hs hgood hab).bind fun next hnext hmet => ih hmet hnext).congr ?_
    exact ⟨And.right, fun hall => ⟨hfront _ _ hall, hall⟩⟩

end Decides

namespace Category

/-! ## Categories as they are given -/

/-- What is given of a category: its name, if it has one, its patterns, and where it applies. -/
structure Given where
  name : Option String
  patterns : List String
  onChain : Bool
  offChain : Bool
  deriving DecidableEq, Repr

/-- A value gives a category.  A field that is missing counts as null. -/
structure Gives (v : Value) (given : Given) : Prop where
  name_eq : v.field "name" = .ok ((given.name.map Value.text).getD .null)
  patterns_eq : v.field "label_patterns" = .ok (.list (given.patterns.map Value.text)) ∨
    v.field "label_patterns" = .ok .null ∧ given.patterns = []
  onChain_eq : ∃ flag, v.field "on_chain" = .ok flag ∧ flag.truthy = given.onChain
  offChain_eq : ∃ flag, v.field "off_chain" = .ok flag ∧ flag.truthy = given.offChain

/-- A value is an object whose name is a text or missing, and whose patterns are a list of texts, null
or missing.  Its other fields may be anything. -/
structure IsPlain (v : Value) : Prop where
  isObject : ∃ fields, v = .object fields
  name : v.field "name" = .ok .null ∨ ∃ name, v.field "name" = .ok (.text name)
  patterns : v.field "label_patterns" = .ok .null ∨
    ∃ texts : List String, v.field "label_patterns" = .ok (.list (texts.map Value.text))

/-- Any field of an object can be taken. -/
theorem exists_field (fields : List (String × Value)) (key : String) :
    ∃ v, (Value.object fields).field key = .ok v :=
  ⟨_, rfl⟩

/-- Such a value gives a category. -/
theorem IsPlain.exists_gives {v : Value} (h : IsPlain v) : ∃ given, Gives v given := by
  obtain ⟨⟨fields, rfl⟩, hname, hpatterns⟩ := h
  obtain ⟨onChain, honChain⟩ := exists_field fields "on_chain"
  obtain ⟨offChain, hoffChain⟩ := exists_field fields "off_chain"
  obtain ⟨name, hname⟩ : ∃ name : Option String,
      (Value.object fields).field "name" = .ok ((name.map Value.text).getD .null) := by
    rcases hname with hmissing | ⟨name, hname⟩
    · exact ⟨none, hmissing⟩
    · exact ⟨some name, hname⟩
  obtain ⟨texts, htexts⟩ : ∃ texts : List String,
      (Value.object fields).field "label_patterns" = .ok (.list (texts.map Value.text)) ∨
        (Value.object fields).field "label_patterns" = .ok .null ∧ texts = [] := by
    rcases hpatterns with hmissing | ⟨texts, htexts⟩
    · exact ⟨[], .inr ⟨hmissing, rfl⟩⟩
    · exact ⟨texts, .inl htexts⟩
  exact ⟨⟨name, texts, onChain.truthy, offChain.truthy⟩, hname, htexts, ⟨_, honChain, rfl⟩,
    ⟨_, hoffChain, rfl⟩⟩

/-- The patterns of a category that is given. -/
theorem Gives.givenPatterns_eq {v : Value} {given : Given} (h : Gives v given) :
    givenPatterns v = .ok (given.patterns.map Value.text) := by
  unfold givenPatterns
  rcases h.patterns_eq with htexts | ⟨hnull, hnone⟩
  · rw [htexts]
    cases given.patterns <;> rfl
  · rw [hnull, hnone]
    rfl

/-- A name that is given is there. -/
theorem Gives.required_name {v : Value} {given : Given} {name : String} (h : Gives v given)
    (hname : given.name = some name) : v.required "name" = .ok (.text name) := by
  have hfield : v.field "name" = .ok (.text name) := by rw [h.name_eq, hname]; rfl
  cases v with
  | object fields =>
    change Except.ok ((Table.get? fields "name").getD .null) = _ at hfield
    cases hentry : Table.get? fields "name" with
    | none =>
      rw [hentry] at hfield
      cases hfield
    | some entry =>
      rw [hentry] at hfield
      simpa only [Value.required, hentry, Option.getD_some] using hfield
  | _ => cases hfield

/-! ## What is remembered -/

namespace Seen

/-- What is remembered are certain names and patterns. -/
structure Remembers (seen : Seen) (names : List (Option String)) (texts : List String) : Prop where
  names_iff : ∀ name, Key.text name ∈ seen.names ↔ some name ∈ names
  patterns_iff : ∀ text, (seen.patterns.get? text).isSome = true ↔ text ∈ texts

theorem remembers_nothing : Remembers {} [] [] where
  names_iff := by simp
  patterns_iff := by simp [Table.get?]

variable {seen : Seen} {names : List (Option String)} {texts : List String}

/-- A pattern that has passed is remembered. -/
theorem Remembers.insert (h : seen.Remembers names texts) (name : Value) (text : String) :
    Remembers { seen with patterns := seen.patterns.insert text name } names (texts ++ [text]) where
  names_iff := h.names_iff
  patterns_iff other := by
    rw [Table.get?_insert, List.mem_append, ← h.patterns_iff other, List.mem_singleton]
    by_cases heq : text = other
    · simp [heq]
    · simp [heq, Ne.symm heq]

/-- A name that has passed is remembered. -/
theorem Remembers.cons (h : seen.Remembers names texts) (name : String) :
    Remembers { seen with names := Key.text name :: seen.names } (names ++ [some name]) texts where
  names_iff other := by
    rw [List.mem_cons, List.mem_append, h.names_iff other, Key.text.injEq, List.mem_singleton,
      Option.some.injEq]
    exact or_comm
  patterns_iff := h.patterns_iff

/-- A name passes if it is one that is not empty, and has not been met. -/
theorem Remembers.decides_addName (h : seen.Remembers names texts) (name : Option String) :
    Decides (seen.addName ((name.map Value.text).getD .null))
      ((∃ given, name = some given ∧ given ≠ "") ∧ name ∉ names)
      (Remembers · (names ++ [name]) texts) := by
  cases name with
  | none => exact .refuse (by simp)
  | some name =>
    have hmet : Key.text name ∉ seen.names ↔ some name ∉ names := (h.names_iff name).not
    have hkeep : Decides (pure { seen with names := Key.text name :: seen.names }) True
        (Remembers · (names ++ [some name]) texts) := .ok (h.cons name)
    refine Decides.congr (Decides.unless (p := some name ∉ names) fun _ => ?_) ?_
    · exact (Decides.unless fun _ => hkeep).congr (by simpa using hmet)
    · simp [Value.truthy]

end Seen

/-! ## Well-formed lists -/

section Named

-- Which characters have names decides which texts are patterns, and nothing else.
variable [Text.CharacterNames]

/-- A text is a pattern. -/
def Compiles (text : String) : Prop :=
  ∃ pattern, Pattern.parse text = .ok pattern

/-- Patterns that are patterns, none of which stands there twice. -/
structure PatternsFit (texts : List String) : Prop where
  compile : ∀ text ∈ texts, Compiles text
  nodup : texts.Nodup

theorem PatternsFit.of_append {texts more : List String} (h : PatternsFit (texts ++ more)) :
    PatternsFit texts where
  compile text htext := h.compile text (mem_append_left more htext)
  nodup := (nodup_append.mp h.nodup).1

theorem patternsFit_concat_iff {texts : List String} {text : String} (h : PatternsFit texts) :
    PatternsFit (texts ++ [text]) ↔ Compiles text ∧ text ∉ texts := by
  constructor
  · rintro ⟨hcompile, hnodup⟩
    rw [← concat_eq_append, nodup_concat] at hnodup
    exact ⟨hcompile text (by simp), hnodup.1⟩
  · rintro ⟨hcompiles, hmet⟩
    refine ⟨?_, ?_⟩
    · rw [forall_mem_append, forall_mem_singleton]
      exact ⟨h.compile, hcompiles⟩
    · rw [← concat_eq_append, nodup_concat]
      exact ⟨hmet, h.nodup⟩

/-- What a category has to be by itself: it has a name that is not empty, and applies to something. -/
structure Given.Fits (given : Given) : Prop where
  named : ∃ name, given.name = some name ∧ name ≠ ""
  applies : given.onChain = true ∨ given.offChain = true

/-- What a list of categories has to be: each fits, no name stands there twice, and the patterns of
all of them together are patterns that differ. -/
structure WellFormed (givens : List Given) : Prop where
  fits : ∀ given ∈ givens, given.Fits
  names : (givens.map (·.name)).Nodup
  patterns : PatternsFit (givens.flatMap (·.patterns))

theorem wellFormed_nil : WellFormed [] where
  fits := by simp
  names := nodup_nil
  patterns := ⟨by simp, nodup_nil⟩

theorem WellFormed.of_append {givens more : List Given} (h : WellFormed (givens ++ more)) :
    WellFormed givens where
  fits given hgiven := h.fits given (mem_append_left more hgiven)
  names := (nodup_append.mp (map_append ▸ h.names)).1
  patterns := PatternsFit.of_append (flatMap_append ▸ h.patterns)

theorem wellFormed_concat_iff {givens : List Given} {given : Given} (h : WellFormed givens) :
    WellFormed (givens ++ [given]) ↔ given.Fits ∧ given.name ∉ givens.map (·.name) ∧
      PatternsFit (givens.flatMap (·.patterns) ++ given.patterns) := by
  have hnames : (givens ++ [given]).map (·.name) = (givens.map (·.name)).concat given.name := by
    simp
  have hpatterns : (givens ++ [given]).flatMap (·.patterns) =
      givens.flatMap (·.patterns) ++ given.patterns := by simp
  constructor
  · rintro ⟨hfits, hnodup, hmore⟩
    rw [hnames, nodup_concat] at hnodup
    exact ⟨hfits given (by simp), hnodup.1, hpatterns ▸ hmore⟩
  · rintro ⟨hfits, hname, hmore⟩
    refine ⟨?_, ?_, hpatterns ▸ hmore⟩
    · rw [forall_mem_append, forall_mem_singleton]
      exact ⟨h.fits, hfits⟩
    · rw [hnames, nodup_concat]
      exact ⟨hname, h.names⟩

/-- A pattern is compiled if it is one. -/
theorem compilePattern_eq_ok_iff {name : Value} {text : String} {pattern : Pattern} :
    compilePattern name text = .ok pattern ↔ Pattern.parse text = .ok pattern := by
  unfold compilePattern
  cases Pattern.parse text with
  | ok p => simp
  | error fault => cases fault <;> simp

/-! ## Checks -/

namespace Seen

variable {seen : Seen} {names : List (Option String)} {texts : List String}

/-- A pattern passes if it is one and has not been met. -/
theorem Remembers.decides_addPattern (h : seen.Remembers names texts) (name : Value)
    (text : String) :
    Decides (addPattern name seen (.text text)) (Compiles text ∧ text ∉ texts)
      (Remembers · names (texts ++ [text])) := by
  have hcompiles : Decides (compilePattern name text) (Compiles text) fun _ => True :=
    ⟨by simp only [compilePattern_eq_ok_iff, Compiles], fun _ _ => trivial⟩
  refine hcompiles.bind fun _ _ _ => ?_
  rw [← h.patterns_iff text]
  cases seen.patterns.get? text with
  | some other => exact .refuse (not_not_intro rfl)
  | none =>
    refine (Decides.ok (q := (Remembers · names (texts ++ [text]))) (h.insert name text)).congr ?_
    exact iff_of_true trivial Bool.false_ne_true

/-- The patterns of a category pass if with those before them they are patterns that differ. -/
theorem Remembers.decides_addPatterns (h : seen.Remembers names texts) (hfit : PatternsFit texts)
    (name : Value) (more : List String) :
    Decides ((more.map Value.text).foldlM (addPattern name) seen) (PatternsFit (texts ++ more))
      (Remembers · names (texts ++ more)) := by
  refine Decides.foldlM (R := fun given text => given = Value.text text)
    (I := (Remembers · names)) (fun _ _ => PatternsFit.of_append)
    ?_ (forall₂_map_left_iff.mpr (forall₂_same.mpr fun _ _ => rfl)) h hfit
  rintro seen before _ text hseen hbefore rfl
  exact (hseen.decides_addPattern name text).congr (patternsFit_concat_iff hbefore).symm

/-- Another category passes if with those before it they are well formed, and then its name and its
patterns are remembered. -/
theorem Remembers.decides_add {before : List Given} {v : Value} {given : Given}
    (h : seen.Remembers (before.map (·.name)) (before.flatMap (·.patterns)))
    (hbefore : WellFormed before) (hv : Gives v given) :
    Decides (seen.add v) (WellFormed (before ++ [given]))
      (Remembers · ((before ++ [given]).map (·.name))
        ((before ++ [given]).flatMap (·.patterns))) := by
  obtain ⟨onChain, honChain, hon⟩ := hv.onChain_eq
  obtain ⟨offChain, hoffChain, hoff⟩ := hv.offChain_eq
  have hnames : (before ++ [given]).map (·.name) = before.map (·.name) ++ [given.name] := by simp
  have hpatterns : (before ++ [given]).flatMap (·.patterns) =
      before.flatMap (·.patterns) ++ given.patterns := by simp
  unfold add
  rw [wellFormed_concat_iff hbefore, hnames, hpatterns, hv.name_eq, honChain, hoffChain,
    hv.givenPatterns_eq]
  refine Decides.congr ((h.decides_addName given.name).bind
    (u := ¬ (!onChain.truthy && !offChain.truthy) = true ∧
      PatternsFit (before.flatMap (·.patterns) ++ given.patterns)) fun next _ hnext => ?_) ?_
  · exact Decides.unless fun _ => hnext.decides_addPatterns hbefore.patterns _ given.patterns
  · have happlies : ¬ (!onChain.truthy && !offChain.truthy) = true ↔
        given.onChain = true ∨ given.offChain = true := by
      rw [hon, hoff]
      cases given.onChain <;> simp
    rw [happlies]
    exact ⟨fun ⟨⟨hnamed, hfresh⟩, hflags, hfit⟩ => ⟨⟨hnamed, hflags⟩, hfresh, hfit⟩,
      fun ⟨⟨hnamed, hflags⟩, hfresh, hfit⟩ => ⟨⟨hnamed, hfresh⟩, hflags, hfit⟩⟩

/-- A list of categories passes just if it is well formed. -/
theorem decides_foldlM_add {items : List Value} {givens : List Given}
    (h : Forall₂ Gives items givens) :
    Decides (items.foldlM add {}) (WellFormed givens)
      (Remembers · (givens.map (·.name)) (givens.flatMap (·.patterns))) :=
  Decides.foldlM (I := fun seen before =>
      Remembers seen (before.map (·.name)) (before.flatMap (·.patterns)))
    (fun _ _ => WellFormed.of_append)
    (fun _ _ _ _ hseen hbefore hv => hseen.decides_add hbefore hv) h remembers_nothing wellFormed_nil

end Seen

/-! ## What is read -/

/-- A pattern has the text from which it is read. -/
theorem text_of_parse {text : String} {pattern : Pattern} (h : Pattern.parse text = .ok pattern) :
    pattern.text = text := by
  dsimp only [Pattern.parse] at h
  cases hread : Pattern.document.run
      { rest := Pattern.tokens 0 text.toList
        length := text.toList.length
        characterNamed? := Text.CharacterNames.find? } with
  | error fault =>
    rw [hread] at h
    cases h
  | ok result =>
    rw [hread] at h
    dsimp only [bind, Except.bind] at h
    cases hlate : Pattern.lateFault? result.2.template result.1 with
    | some fault =>
      rw [hlate] at h
      cases h
    | none =>
      rw [hlate] at h
      cases h
      rfl

/-- A category is what is given of it: it has its name, its patterns in their order, and applies to
the same. -/
structure Given.CompilesTo (given : Given) (category : Category) : Prop where
  name_eq : given.name.map Value.text = some category.name
  texts_eq : category.patterns.map (·.text) = given.patterns
  compiled : ∀ pattern ∈ category.patterns, Pattern.parse pattern.text = .ok pattern
  onChain_eq : category.onChain = given.onChain
  offChain_eq : category.offChain = given.offChain

/-- Patterns are compiled one by one. -/
theorem exists_mapM_compilePattern (name : Value) {texts : List String}
    (h : ∀ text ∈ texts, Compiles text) :
    ∃ patterns, texts.mapM (compilePattern name) = .ok patterns ∧
      patterns.map (·.text) = texts ∧
      ∀ pattern ∈ patterns, Pattern.parse pattern.text = .ok pattern := by
  obtain ⟨patterns, hpatterns⟩ := exists_forall₂ h
  have htext : ∀ text pattern, Pattern.parse text = .ok pattern → text = pattern.text :=
    fun _ _ hparse => (text_of_parse hparse).symm
  refine ⟨patterns, mapM_eq_ok_iff.mpr (hpatterns.imp fun _ _ => compilePattern_eq_ok_iff.mpr),
    ?_, fun pattern hpattern => ?_⟩
  · rw [← map_eq_map_of_forall₂ hpatterns (f := id) fun text _ pattern => htext text pattern]
    exact map_id texts
  · obtain ⟨text, -, hparse⟩ := exists_of_mem_right hpatterns hpattern
    rwa [← htext text pattern hparse]

/-- A category that fits is compiled, if its patterns are patterns. -/
theorem Gives.exists_ofValue {v : Value} {given : Given} (h : Gives v given) (hfits : given.Fits)
    (hcompiles : ∀ text ∈ given.patterns, Compiles text) :
    ∃ category, ofValue v = .ok category ∧ given.CompilesTo category := by
  obtain ⟨name, hname, -⟩ := hfits.named
  obtain ⟨onChain, honChain, hon⟩ := h.onChain_eq
  obtain ⟨offChain, hoffChain, hoff⟩ := h.offChain_eq
  obtain ⟨patterns, hpatterns, htexts, hcompiled⟩ :=
    exists_mapM_compilePattern (.text name) hcompiles
  have hgiven : (given.patterns.map Value.text).mapM givenPattern = .ok given.patterns :=
    mapM_eq_ok_iff.mpr (forall₂_map_left_iff.mpr (forall₂_same.mpr fun _ _ => rfl))
  refine ⟨⟨.text name, patterns, onChain.truthy, offChain.truthy⟩, ?_, by rw [hname]; rfl, htexts,
    hcompiled, hon, hoff⟩
  unfold ofValue compile
  rw [h.required_name hname, h.givenPatterns_eq, honChain, hoffChain]
  refine bind_eq_ok_iff.mpr ⟨_, rfl, bind_eq_ok_iff.mpr ⟨_, rfl, bind_eq_ok_iff.mpr ⟨_, hgiven, ?_⟩⟩⟩
  exact bind_eq_ok_iff.mpr ⟨onChain, rfl, bind_eq_ok_iff.mpr ⟨offChain, rfl,
    bind_eq_ok_iff.mpr ⟨patterns, hpatterns, rfl⟩⟩⟩

/-- So are the categories of a list, one for one. -/
theorem exists_mapM_ofValue {items : List Value} {givens : List Given}
    (h : Forall₂ Gives items givens) (hfits : ∀ given ∈ givens, given.Fits)
    (hcompiles : ∀ given ∈ givens, ∀ text ∈ given.patterns, Compiles text) :
    ∃ categories, items.mapM ofValue = .ok categories ∧
      Forall₂ Given.CompilesTo givens categories := by
  induction h with
  | nil => exact ⟨[], rfl, .nil⟩
  | @cons v given items givens hv _ ih =>
    rw [forall_mem_cons] at hfits hcompiles
    obtain ⟨category, hcategory, hread⟩ := hv.exists_ofValue hfits.1 hcompiles.1
    obtain ⟨categories, hcategories, hrest⟩ := ih hfits.2 hcompiles.2
    refine ⟨category :: categories, ?_, .cons hread hrest⟩
    exact mapM_eq_ok_iff.mpr (.cons hcategory (mapM_eq_ok_iff.mp hcategories))

/-- A list of categories is checked, and then compiled. -/
theorem parse_list (items : List Value) :
    parse (.list items) = items.foldlM Seen.add {} >>= fun _ => items.mapM ofValue := by
  cases items <;> rfl

/-- A list of categories is read just if it is well formed.  Then what is read are the categories that
are given, one for one.  No list that has passed the check fails when it is compiled. -/
theorem parse_iff_wellFormed {items : List Value} (h : ∀ v ∈ items, IsPlain v) :
    ∃ givens, Forall₂ Gives items givens ∧
      ((∃ categories, parse (.list items) = .ok categories) ↔ WellFormed givens) ∧
      (∀ categories, parse (.list items) = .ok categories →
        Forall₂ Given.CompilesTo givens categories) ∧
      ∀ seen, items.foldlM Seen.add {} = .ok seen →
        ∃ categories, items.mapM ofValue = .ok categories := by
  obtain ⟨givens, hgivens⟩ := exists_forall₂ fun v hv => (h v hv).exists_gives
  have hcheck := Seen.decides_foldlM_add hgivens
  have hcompile (hwell : WellFormed givens) :=
    exists_mapM_ofValue hgivens hwell.fits fun given hgiven text htext =>
      hwell.patterns.compile text (mem_flatMap.mpr ⟨given, hgiven, htext⟩)
  have hparse : Decides (parse (.list items)) (WellFormed givens)
      (Forall₂ Given.CompilesTo givens) := by
    rw [parse_list]
    refine (hcheck.bind (u := True) fun _ hwell _ => ?_).congr (and_iff_left trivial)
    obtain ⟨categories, hcategories, hread⟩ := hcompile hwell
    rw [hcategories]
    exact .ok hread
  refine ⟨givens, hgivens, hparse.ok_iff, hparse.of_ok, fun seen hseen => ?_⟩
  obtain ⟨categories, hcategories, -⟩ := hcompile (hcheck.ok_iff.mp ⟨seen, hseen⟩)
  exact ⟨categories, hcategories⟩

end Named

/-- Two categories, of which one has patterns and one has none. -/
def rentAndRest : List Value :=
  [.object [("name", .text "rent"), ("label_patterns", .list [.text "^rent", .text "lease$"]),
      ("on_chain", .bool true)],
    .object [("name", .text "rest"), ("on_chain", .null), ("off_chain", .int 1)]]

/-- These two are well formed, and are read. -/
theorem parse_rentAndRest :
    (∀ v ∈ rentAndRest, IsPlain v) ∧ ∃ givens, Forall₂ Gives rentAndRest givens ∧
      WellFormed givens ∧ ∃ categories, parse (.list rentAndRest) = .ok categories ∧
        Forall₂ Given.CompilesTo givens categories := by
  have hplain : ∀ v ∈ rentAndRest, IsPlain v := by
    simp only [rentAndRest, forall_mem_cons]
    refine ⟨⟨⟨_, rfl⟩, .inr ⟨"rent", rfl⟩, .inr ⟨["^rent", "lease$"], rfl⟩⟩,
      ⟨⟨_, rfl⟩, .inr ⟨"rest", rfl⟩, .inl rfl⟩, by simp⟩
  have hread : (parse (.list rentAndRest)).isOk = true := by decide +kernel
  obtain ⟨givens, hgivens, hiff, hcategories, -⟩ := parse_iff_wellFormed hplain
  cases hparse : parse (.list rentAndRest) with
  | error failure =>
    rw [hparse] at hread
    cases hread
  | ok categories =>
    exact ⟨hplain, givens, hgivens, hiff.mp ⟨categories, hparse⟩, categories, rfl,
      hcategories categories hparse⟩

end Category

end NodeLedger
