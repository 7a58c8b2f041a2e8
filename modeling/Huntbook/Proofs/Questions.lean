import Huntbook.Proofs.Identifiers

/-!
# Questions to the assistant

A question is tested as it is written, and then the blanks around it are cut off.

* `Form.question_keeps_rules`: what is left has passed the tests as well, but for the share of its
  special characters, which is that of the question with its blanks.
-/

namespace Huntbook

open List

namespace Text

/-! ## Blanks around a text -/

lemma exists_strip (p : Char → Bool) (cs : Chars) : ∃ before after,
    cs = before ++ strip p cs ++ after ∧ (∀ c ∈ before, p c) ∧ ∀ c ∈ after, p c := by
  refine ⟨cs.takeWhile p, ((cs.dropWhile p).reverse.takeWhile p).reverse, ?_, ?_, ?_⟩
  · rw [strip, dropEndWhile, append_assoc, ← reverse_append, takeWhile_append_dropWhile,
      reverse_reverse, takeWhile_append_dropWhile]
  · exact fun c hc => mem_takeWhile_imp hc
  · exact fun c hc => mem_takeWhile_imp (mem_reverse.1 hc)

lemma wordsFrom_append {after : Chars} (h : ∀ c ∈ after, isBlank c) (current cs : Chars) :
    wordsFrom current (cs ++ after) = wordsFrom current cs := by
  induction cs generalizing current with
  | nil =>
    cases after with
    | nil => rfl
    | cons a after =>
      have hnil : ∀ after : Chars, (∀ c ∈ after, isBlank c) → wordsFrom [] after = [] := by
        intro after hafter
        induction after with
        | nil => rfl
        | cons a after ih =>
          obtain ⟨ha, hafter⟩ := forall_mem_cons.1 hafter
          simp [wordsFrom, ha, ih hafter]
      obtain ⟨ha, hafter⟩ := forall_mem_cons.1 h
      simp [wordsFrom, ha, hnil after hafter]
  | cons c cs ih => simp [wordsFrom, ih]

lemma wordsFrom_of_blank {before : Chars} (h : ∀ c ∈ before, isBlank c) (cs : Chars) :
    wordsFrom [] (before ++ cs) = wordsFrom [] cs := by
  induction before with
  | nil => rfl
  | cons a before ih =>
    obtain ⟨ha, hbefore⟩ := forall_mem_cons.1 h
    simp [wordsFrom, ha, ih hbefore]

/-! ## Patterns without anchors -/

namespace Pattern

def isFree : Pattern → Bool
  | .start | .finish => false
  | .empty | .char _ => true
  | .seq p q | .alt p q => p.isFree && q.isFree
  | .repeated p _ _ => p.isFree

/-- Where a step leads it also leads with more text behind. -/
def Extends (step : Place → List Place) (more : Chars) : Prop :=
  ∀ pl pl₁ pl' : Place, pl₁.rest = pl.rest ++ more → pl' ∈ step pl →
    ∃ pl₁' ∈ step pl₁, pl₁'.rest = pl'.rest ++ more

variable {step : Place → List Place} {more : Chars}

lemma Extends.exactly (h : Extends step more) (n : Nat) : Extends (exactly step n) more := by
  induction n with
  | zero =>
    intro pl pl₁ pl' hrest hmem
    obtain rfl := mem_singleton.1 hmem
    exact ⟨pl₁, mem_singleton_self _, hrest⟩
  | succ n ih =>
    intro pl pl₁ pl' hrest hmem
    obtain ⟨m, hm, hmem⟩ := mem_flatMap.1 hmem
    obtain ⟨m₁, hm₁, hrest⟩ := h pl pl₁ m hrest hm
    obtain ⟨pl₁', hpl₁', hrest⟩ := ih m m₁ pl' hrest hmem
    exact ⟨pl₁', mem_flatMap.2 ⟨m₁, hm₁, hpl₁'⟩, hrest⟩

lemma Extends.atMost (h : Extends step more) {n n₁ : Nat} (hn : n ≤ n₁) {pl pl₁ pl' : Place}
    (hrest : pl₁.rest = pl.rest ++ more) (hmem : pl' ∈ atMost step n pl) :
    ∃ pl₁' ∈ Pattern.atMost step n₁ pl₁, pl₁'.rest = pl'.rest ++ more := by
  have hself (n : Nat) (pl : Place) : pl ∈ Pattern.atMost step n pl := by
    cases n <;> simp [Pattern.atMost]
  induction n generalizing n₁ pl pl₁ with
  | zero =>
    obtain rfl := mem_singleton.1 hmem
    exact ⟨pl₁, hself _ _, hrest⟩
  | succ n ih =>
    obtain rfl | hmem := mem_cons.1 hmem
    · exact ⟨pl₁, hself _ _, hrest⟩
    obtain ⟨m, hm, hmem⟩ := mem_flatMap.1 hmem
    obtain ⟨hm, hshort⟩ := mem_filter.1 hm
    obtain ⟨m₁, hm₁, hmore⟩ := h pl pl₁ m hrest hm
    obtain ⟨n₁, rfl⟩ := Nat.exists_eq_add_one_of_ne_zero (show n₁ ≠ 0 by omega)
    obtain ⟨pl₁', hpl₁', hend⟩ := ih (Nat.le_of_succ_le_succ hn) hmore hmem
    refine ⟨pl₁', mem_cons_of_mem _ (mem_flatMap.2 ⟨m₁, mem_filter.2 ⟨hm₁, ?_⟩, hpl₁'⟩), hend⟩
    simp_all

lemma extends_ends {p : Pattern} (h : p.isFree) (fold : Bool) : Extends (p.ends fold) more := by
  induction p with
  | start => cases h
  | finish => cases h
  | empty =>
    intro pl pl₁ pl' hrest hmem
    obtain rfl := mem_singleton.1 hmem
    exact ⟨pl₁, mem_singleton_self _, hrest⟩
  | char s =>
    rintro ⟨b, _ | ⟨c, cs⟩⟩ ⟨b₁, cs₁⟩ pl' hrest hmem
    · cases hmem
    · obtain rfl : cs₁ = c :: cs ++ more := hrest
      simp only [ends, mem_ite_nil_right, mem_singleton] at hmem
      obtain ⟨hc, rfl⟩ := hmem
      exact ⟨⟨false, cs ++ more⟩, by simp [ends, hc], rfl⟩
  | seq p q hp hq =>
    obtain ⟨hfree, hfree'⟩ := (Bool.and_eq_true _ _).mp h
    intro pl pl₁ pl' hrest hmem
    obtain ⟨m, hm, hmem⟩ := mem_flatMap.1 hmem
    obtain ⟨m₁, hm₁, hrest⟩ := hp hfree pl pl₁ m hrest hm
    obtain ⟨pl₁', hpl₁', hrest⟩ := hq hfree' m m₁ pl' hrest hmem
    exact ⟨pl₁', mem_flatMap.2 ⟨m₁, hm₁, hpl₁'⟩, hrest⟩
  | alt p q hp hq =>
    obtain ⟨hfree, hfree'⟩ := (Bool.and_eq_true _ _).mp h
    intro pl pl₁ pl' hrest hmem
    obtain hmem | hmem := mem_append.1 hmem
    · obtain ⟨pl₁', hpl₁', hrest⟩ := hp hfree pl pl₁ pl' hrest hmem
      exact ⟨pl₁', mem_append_left _ hpl₁', hrest⟩
    · obtain ⟨pl₁', hpl₁', hrest⟩ := hq hfree' pl pl₁ pl' hrest hmem
      exact ⟨pl₁', mem_append_right _ hpl₁', hrest⟩
  | repeated p least most hp =>
    intro pl pl₁ pl' hrest hmem
    obtain ⟨m, hm, hmem⟩ := mem_flatMap.1 hmem
    obtain ⟨m₁, hm₁, hrest⟩ := (hp h).exactly least pl pl₁ m hrest hm
    have hcount : (most.map (· - least)).getD m.rest.length ≤
        (most.map (· - least)).getD m₁.rest.length := by
      cases most <;> simp [hrest]
    obtain ⟨pl₁', hpl₁', hrest⟩ := (hp h).atMost hcount hrest hmem
    exact ⟨pl₁', mem_flatMap.2 ⟨m₁, hm₁, hpl₁'⟩, hrest⟩

lemma searchFrom_mono {p : Pattern} (h : p.isFree) {fold b : Bool} {cs : Chars}
    (hsearch : searchFrom fold p b cs) (b₁ : Bool) (before after : Chars) :
    searchFrom fold p b₁ (before ++ cs ++ after) := by
  have hends {b b₁ : Bool} {cs : Chars} (hcs : !(p.ends fold ⟨b, cs⟩).isEmpty) :
      (!(p.ends fold ⟨b₁, cs ++ after⟩).isEmpty) = true := by
    rw [Bool.not_eq_true', isEmpty_eq_false_iff_exists_mem] at hcs ⊢
    obtain ⟨pl, hpl⟩ := hcs
    obtain ⟨pl₁, hpl₁, -⟩ := extends_ends h fold _ ⟨b₁, cs ++ after⟩ _ rfl hpl
    exact ⟨pl₁, hpl₁⟩
  have hhead {b₁ : Bool} {cs : Chars} (hcs : !(p.ends fold ⟨b₁, cs⟩).isEmpty) :
      searchFrom fold p b₁ cs = true := by
    cases cs <;> simp_all [searchFrom]
  induction before generalizing b₁ with
  | cons c before ih => simp [searchFrom, -append_assoc, ih]
  | nil =>
    induction cs generalizing b b₁ with
    | nil => exact hhead (hends hsearch)
    | cons c cs ih =>
      rcases (Bool.or_eq_true _ _).mp hsearch with hsearch | hsearch
      · exact hhead (hends hsearch)
      · simp only [nil_append, cons_append, searchFrom, Bool.or_eq_true]
        exact .inr (ih hsearch false)

end Pattern

end Text

namespace Form

open Text

def questionLures : List Pattern :=
  scriptLures ++ statementLures ++ overruleLures ++ secretLures

/-- How many characters of a text are special. -/
def specials (s : String) : Nat := (s.toList.filter fun c => !isPlainChar c).length

lemma questionTest_eq_ok_iff {s q : String} : questionTest s = .ok q ↔
    2 ≤ (words s).length ∧ questionLures.any (·.searchFold s) = false ∧
      specials s * 20 ≤ s.length * 3 ∧ trim s = q := by
  have hplain : isMostlyPlain s ↔ specials s * 20 ≤ s.length * 3 := decide_eq_true_iff
  rw [questionTest, twoWords, refuseLures, ← questionLures, ← hplain]
  by_cases hwords : (words s).length < 2
  · simp [hwords, bind, Except.bind]
  · cases questionLures.any (·.searchFold s) <;> cases isMostlyPlain s <;>
      simp [hwords, Nat.not_lt.1 hwords, bind, Except.bind, pure, Except.pure]

lemma taken_question_iff {s : String} {x : Value} : ask.taken? "question" s = some x ↔
    3 ≤ s.length ∧ s.length ≤ 1000 ∧ ∃ q, questionTest s = .ok q ∧ x = .text q :=
  toOption_eq_some_iff.trans (Kind.check_tested_eq_ok_iff.trans (by simp))

/-- A question that is taken has two words and no lure when the blanks around it are cut off. Its
    special characters are few in the question as it was written, blanks and all. -/
theorem question_keeps_rules {s : String} {x : Value} (h : ask.taken? "question" s = some x) :
    ∃ before q after, x = .text q ∧ s = before ++ q ++ after ∧
      (∀ c ∈ (before ++ after).toList, isBlank c) ∧ 2 ≤ (words q).length ∧
      (∀ lure ∈ questionLures, lure.searchFold q = false) ∧ specials q = specials s ∧
      specials q * 20 ≤ (before.length + q.length + after.length) * 3 := by
  obtain ⟨-, -, q, hq, rfl⟩ := taken_question_iff.1 h
  obtain ⟨hwords, hlures, hspecials, rfl⟩ := questionTest_eq_ok_iff.1 hq
  obtain ⟨before, after, hs, hbefore, hafter⟩ := exists_strip isBlank s.toList
  have htrim : (trim s).toList = strip isBlank s.toList := String.toList_ofList
  rw [← htrim] at hs
  have hplain (c : Char) (hc : isBlank c) : isPlainChar c := by simp [isPlainChar, hc]
  have hcount : specials (trim s) = specials s := by
    have hnone {cs : Chars} (hcs : ∀ c ∈ cs, isBlank c) : cs.filter (!isPlainChar ·) = [] := by
      simpa [filter_eq_nil_iff] using fun c hc => hplain c (hcs c hc)
    rw [specials, specials, hs, filter_append, filter_append, hnone hbefore, hnone hafter]
    simp
  refine ⟨.ofList before, trim s, .ofList after, rfl, ?_, ?_, ?_, fun lure hlure => ?_, hcount, ?_⟩
  · exact String.toList_inj.1 (by simpa using hs)
  · simpa using fun c hc => hc.elim (hbefore c) (hafter c)
  · rw [words, hs, wordsFrom_append hafter, wordsFrom_of_blank hbefore] at hwords
    exact hwords
  · rw [any_eq_false] at hlures
    have hfree : ∀ lure ∈ questionLures, lure.isFree := by decide
    by_contra hfound
    refine hlures lure hlure ?_
    rw [Pattern.searchFold, hs]
    exact Pattern.searchFrom_mono (hfree lure hlure) (Bool.not_eq_false _ ▸ hfound) true before after
  · have hlength := congrArg length hs
    rw [hcount]
    simp only [length_append, String.length_toList, String.length_ofList] at hlength ⊢
    rwa [← hlength]

/-- Blanks make room for special characters. -/
theorem question_padded : ask.taken? "question" "a b$   " = some (.text "a b$") ∧
    ¬specials "a b$" * 20 ≤ "a b$".length * 3 := by
  have htest : questionTest "a b$   " = .ok "a b$" :=
    questionTest_eq_ok_iff.2 (by decide +kernel)
  exact ⟨taken_question_iff.2 ⟨by decide, by decide, _, htest, rfl⟩, by decide⟩

/-- A question with blanks after it. -/
theorem question_keeps_rules_padded : ∃ x, ask.taken? "question" "why not?  " = some x ∧
    ∃ before q after, x = .text q ∧ "why not?  " = before ++ q ++ after ∧ 2 ≤ (words q).length := by
  obtain ⟨x, hx⟩ : ∃ x, ask.taken? "question" "why not?  " = some x :=
    Option.isSome_iff_exists.1 (by decide +kernel)
  obtain ⟨before, q, after, hq, hs, -, hwords, -⟩ := question_keeps_rules hx
  exact ⟨x, hx, before, q, after, hq, hs, hwords⟩

end Form

end Huntbook
