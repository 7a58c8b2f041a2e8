import Huntbook.Search
import Mathlib

/-!
# The conjuncts of a selection

All that a selection asks for is to hold at once, and a key with the modifier `all` asks for each
of its values. What the clause of a selection says is weaker than that for some values: a value
that has no clause is left out, and of a list one value is always enough. A number that is too long
to be written gives no clause at all.

* `selection_conjoined_iff`: the selections that are converted as a whole.
-/

namespace Huntbook.Search

def HasClause : Value → Prop
  | .null | .bool _ | .int _ | .float _ | .text _ => True
  | _ => False

/-- The part of a clause that a key of a selection stands for. -/
inductive Conjunct (fields : FieldMap) (ref : FieldRef) : Value → String → Prop
  /-- With the modifier, all values of a list must match. -/
  | all {values : List Value} {clauses : Texts} (hall : "all" ∈ ref.modifiers)
      (hclauses : List.Forall₂
        (fun v c => clause (fields.target ref.name) ref.modifiers v = some c) values clauses) :
      Conjunct fields ref (.list values) ("(" ++ " AND ".intercalate clauses ++ ")")
  | one {v : Value} {c : String} (hone : ∀ values, v = .list values → "all" ∉ ref.modifiers)
      (hclause : fieldClause fields ref v = some c) : Conjunct fields ref v c

/-- An entry of which nothing is lost: a value with a clause, a list with one, or, if all are to
    match, a list of a single one. -/
def Kept (ref : FieldRef) : Value → Prop
  | .list values =>
    if "all" ∈ ref.modifiers then ∃ v, values = [v] ∧ HasClause v else ∃ v ∈ values, HasClause v
  | v => HasClause v

variable {fields : FieldMap} {ref : FieldRef} {v : Value} {c : String}

lemma isSome_clause (target : String) (modifiers : Texts) :
    (clause target modifiers v).isSome ↔ HasClause v := by
  cases v <;> simp [clause, HasClause]

lemma fieldClause_list (values : List Value) : fieldClause fields ref (.list values) =
    let clauses := values.filterMap (clause (fields.target ref.name) ref.modifiers)
    if clauses.isEmpty then none else some ("(" ++ " OR ".intercalate clauses ++ ")") := rfl

lemma isSome_fieldClause (hone : ∀ values, v = .list values → "all" ∉ ref.modifiers) :
    (fieldClause fields ref v).isSome ↔ Kept ref v := by
  cases v with
  | list values =>
    have hempty : (values.filterMap (clause (fields.target ref.name) ref.modifiers)).isEmpty =
        false ↔ ∃ v ∈ values, HasClause v := by
      simp [List.isEmpty_eq_false_iff, ← isSome_clause (fields.target ref.name) ref.modifiers,
        Option.isSome_iff_ne_none]
    rw [Kept, if_neg (hone values rfl), fieldClause_list, ← hempty]
    dsimp only
    split <;> simp_all
  | _ => simp [fieldClause, Kept, isSome_clause]

lemma exists_conjunct (h : Kept ref v) :
    ∃ c, fieldClause fields ref v = some c ∧ Conjunct fields ref v c := by
  by_cases hone : ∀ values, v = .list values → "all" ∉ ref.modifiers
  · obtain ⟨c, hc⟩ := Option.isSome_iff_exists.1 ((isSome_fieldClause hone).2 h)
    exact ⟨c, hc, .one hone hc⟩
  · simp only [not_forall, not_not, exists_prop] at hone
    obtain ⟨values, rfl, hall⟩ := hone
    rw [Kept, if_pos hall] at h
    obtain ⟨v, rfl, hv⟩ := h
    obtain ⟨c, hc⟩ := Option.isSome_iff_exists.1
      ((isSome_clause (fields.target ref.name) ref.modifiers).2 hv)
    refine ⟨"(" ++ c ++ ")", ?_, .all hall (.cons hc .nil)⟩
    rw [fieldClause_list, List.filterMap_cons_some hc]
    simp

lemma forall₂_filterMap {α β : Type} {f : α → Option β} {R : α → β → Prop} {xs : List α}
    (h : ∀ x ∈ xs, ∃ y, f x = some y ∧ R x y) : List.Forall₂ R xs (xs.filterMap f) := by
  induction xs with
  | nil => exact .nil
  | cons x xs ih =>
    obtain ⟨⟨y, hy, hR⟩, hxs⟩ := List.forall_mem_cons.1 h
    rw [List.filterMap_cons_some hy]
    exact .cons hR (ih hxs)

lemma filterMap_of_forall₂ {α β : Type} {f : α → Option β} {xs : List α} {ys : List β}
    (h : List.Forall₂ (fun x y => f x = some y) xs ys) : xs.filterMap f = ys := by
  induction h with
  | nil => rfl
  | cons hxy _ ih => rw [List.filterMap_cons_some hxy, ih]

/-! ## Lengths

Joined by a longer word, clauses become longer. -/

def span (joint : Nat) (clauses : Texts) : Nat := (clauses.map (·.length + joint)).sum

@[simp]
lemma span_nil (joint : Nat) : span joint [] = 0 := rfl

@[simp]
lemma span_cons (joint : Nat) (c : String) (clauses : Texts) :
    span joint (c :: clauses) = c.length + joint + span joint clauses := rfl

lemma length_intercalate (sep : String) (clauses : Texts) :
    (sep.intercalate clauses).length = span sep.length clauses - sep.length := by
  cases clauses with
  | nil => simp
  | cons c clauses =>
    induction clauses generalizing c with
    | nil => simp
    | cons d clauses ih =>
      rw [String.intercalate_cons_cons, String.length_append, String.length_append, ih d]
      simp only [span_cons]
      omega

lemma length_intercalate_and (clauses : Texts) :
    (" AND ".intercalate clauses).length = span 5 clauses - 5 :=
  length_intercalate " AND " clauses

lemma span_succ (joint : Nat) (clauses : Texts) :
    span (joint + 1) clauses = span joint clauses + clauses.length := by
  induction clauses with
  | nil => rfl
  | cons c clauses ih =>
    rw [span_cons, span_cons, ih, List.length_cons]
    omega

lemma kept_or_shorter (h : Conjunct fields ref v c) :
    fieldClause fields ref v = some c ∧ Kept ref v ∨
      span 5 (fieldClause fields ref v).toList < c.length + 5 ∧ c ≠ "" := by
  cases h with
  | one hone hclause =>
    exact .inl ⟨hclause, (isSome_fieldClause hone).1 (Option.isSome_of_mem hclause)⟩
  | @all values clauses hall hclauses =>
    rw [fieldClause_list, filterMap_of_forall₂ hclauses]
    cases hclauses with
    | nil => exact .inr (by decide)
    | @cons v c _ _ hc hrest =>
      cases hrest with
      | nil =>
        refine .inl ⟨by simp, ?_⟩
        rw [Kept, if_pos hall]
        exact ⟨v, rfl, (isSome_clause _ _).1 (Option.isSome_of_mem hc)⟩
      | @cons _ d _ cs =>
        -- Two clauses or more are joined by a word that is too short.
        have hor : (" OR ".intercalate (c :: d :: cs)).length = span 4 (c :: d :: cs) - 4 :=
          length_intercalate " OR " _
        have hspan : span 5 cs = span 4 cs + cs.length := span_succ 4 cs
        refine .inr ⟨?_, by simp⟩
        simp only [List.isEmpty_cons, Bool.false_eq_true, if_false, Option.toList_some,
          String.length_append, hor, length_intercalate_and, span_cons, span_nil]
        omega

lemma kept_or_shorter_of_forall₂ {refs : List (FieldRef × Value)} {conjuncts : Texts}
    (h : List.Forall₂ (fun r c => Conjunct fields r.1 r.2 c) refs conjuncts) :
    (∀ r ∈ refs, Kept r.1 r.2) ∧
        span 5 (refs.filterMap fun r => fieldClause fields r.1 r.2) = span 5 conjuncts ∨
      span 5 (refs.filterMap fun r => fieldClause fields r.1 r.2) < span 5 conjuncts ∧
        5 < span 5 conjuncts := by
  induction h with
  | nil => exact .inl ⟨by simp, rfl⟩
  | @cons r c refs conjuncts hrc _ ih =>
    have hfilter : span 5 ((r :: refs).filterMap fun r => fieldClause fields r.1 r.2) =
        span 5 (fieldClause fields r.1 r.2).toList +
          span 5 (refs.filterMap fun r => fieldClause fields r.1 r.2) := by
      rw [List.filterMap_cons]
      cases fieldClause fields r.1 r.2 <;> simp
    rw [hfilter, span_cons]
    rcases kept_or_shorter hrc with ⟨hclause, hkept⟩ | ⟨hshort, hne⟩
    · rw [hclause, Option.toList_some, span_cons, span_nil]
      rcases ih with ⟨hall, heq⟩ | hless
      · exact .inl ⟨List.forall_mem_cons.2 ⟨hkept, hall⟩, by omega⟩
      · exact .inr (by omega)
    · have hpos : 0 < c.length := by simpa [Nat.pos_iff_ne_zero] using hne
      exact .inr (by omega)

/-- The clause of a selection is the conjunction of all that its keys stand for exactly if nothing is
    lost of any entry and every number can be written. -/
theorem selection_conjoined_iff (names : List (String × String)) (block : List (String × Value)) :
    (∃ refs conjuncts, selectionRefs (block.map fun e => (.text e.1, e.2)) = .ok refs ∧
      selectionClause (.ofNames names) refs = " AND ".intercalate conjuncts ∧
      List.Forall₂ (fun r c => Conjunct (.ofNames names) r.1 r.2 c) refs conjuncts) ↔
    ∀ e ∈ block, Kept (FieldRef.ofText e.1) e.2 ∧ ∀ v ∈ valuesOf e.2, isWritten v := by
  rw [selectionRefs_texts]
  constructor
  · rintro ⟨refs, conjuncts, hrefs, heq, hall⟩
    split at hrefs <;> cases hrefs
    rename_i hwritten
    have hlength := congrArg String.length heq
    rw [selectionClause, length_intercalate_and, length_intercalate_and] at hlength
    rcases kept_or_shorter_of_forall₂ hall with ⟨hkept, -⟩ | hless
    · simp only [List.all_eq_true] at hwritten
      exact fun e he => ⟨List.forall_mem_map.1 hkept e he, hwritten e he⟩
    · omega
  · intro h
    refine ⟨_, _, if_pos ?_, rfl, forall₂_filterMap ?_⟩
    · simp only [List.all_eq_true]
      exact fun e he => (h e he).2
    · intro r hr
      obtain ⟨e, he, rfl⟩ := List.mem_map.1 hr
      exact exists_conjunct (h e he).1

/-- Of the words that a rule asks for, any one is enough. -/
theorem selection_any_of_all :
    (selectionRefs
      [(.text "CommandLine|contains|all", .list [.text "vssadmin", .text "delete"])]).map
        (selectionClause [("CommandLine", .text "CommandLine")]) =
      .ok ("(match(CommandLine, \"(?i).*vssadmin.*\") OR "
        ++ "match(CommandLine, \"(?i).*delete.*\"))") := by
  cbv

end Huntbook.Search
