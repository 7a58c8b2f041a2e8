import Huntbook.Proofs.Runs

/-!
# The weight of a text

What is done to a condition puts parentheses in, or takes backslashes out, or takes characters out,
or writes letters in capitals: never the other way round. So we weigh a text by its parentheses
first (the more, the lighter), then by its backslashes, its length and its lower-case letters.
-/

namespace Huntbook.Text

abbrev Weight := ℤ ×ₗ ℕ ×ₗ ℕ ×ₗ ℕ

/-- The weight of a text: the fewer opening parentheses, then the more backslashes, then the more
    characters, then the more lower-case letters it has, the heavier it is. -/
def weight (cs : Chars) : Weight :=
  toLex (-(cs.count '(' : ℤ), toLex (cs.count '\\', toLex (cs.length, cs.countP Char.isLower)))

@[simp] lemma weight_nil : weight [] = 0 := rfl

lemma weight_append (xs ys : Chars) : weight (xs ++ ys) = weight xs + weight ys := by
  simp only [weight, List.count_append, List.countP_append, List.length_append, Int.natCast_add,
    Int.neg_add]
  rfl

lemma weight_cons (c : Char) (cs : Chars) : weight (c :: cs) = weight [c] + weight cs :=
  weight_append [c] cs

lemma weight_lt_iff {xs ys : Chars} : weight xs < weight ys ↔
    ys.count '(' < xs.count '(' ∨ ys.count '(' = xs.count '(' ∧
      (xs.count '\\' < ys.count '\\' ∨ xs.count '\\' = ys.count '\\' ∧
        (xs.length < ys.length ∨ xs.length = ys.length ∧
          xs.countP Char.isLower < ys.countP Char.isLower)) := by
  simp [weight, Prod.Lex.toLex_lt_toLex, eq_comm]

lemma eq_or_lt_append {u v xs ys : Chars} (h : u = v ∨ weight u < weight v)
    (hs : xs = ys ∨ weight xs < weight ys) :
    (u = v ∧ xs = ys) ∨ weight (u ++ xs) < weight (v ++ ys) := by
  rw [weight_append, weight_append]
  rcases h with rfl | h
  · rcases hs with rfl | hs
    · exact .inl ⟨rfl, rfl⟩
    · exact .inr (add_lt_add_right hs _)
  · refine .inr (add_lt_add_of_lt_of_le h ?_)
    rcases hs with rfl | hs
    · exact le_rfl
    · exact hs.le

lemma eq_or_lt_flatMap {α : Type*} {f g : α → Chars} {rs : List α}
    (h : ∀ r ∈ rs, f r = g r ∨ weight (f r) < weight (g r)) :
    (∀ r ∈ rs, f r = g r) ∨ weight (rs.flatMap f) < weight (rs.flatMap g) := by
  induction rs with
  | nil => simp
  | cons r rs ih =>
    obtain ⟨hr, hrs⟩ := List.forall_mem_cons.1 h
    have hrest : rs.flatMap f = rs.flatMap g ∨ weight (rs.flatMap f) < weight (rs.flatMap g) :=
      (ih hrs).imp_left fun heq => List.flatMap_congr heq
    rcases eq_or_lt_append hr hrest with ⟨hfg, he⟩ | hlt
    · exact .inl (List.forall_mem_cons.2 ⟨hfg, (ih hrs).resolve_right fun hlt => by simp [he] at hlt⟩)
    · exact .inr hlt

/-! ## Functions that make lighter -/

def Shrinks (f : Chars → Chars) : Prop := ∀ cs, f cs = cs ∨ weight (f cs) < weight cs

namespace Shrinks

variable {f g : Chars → Chars}

lemma weight_le (hf : Shrinks f) (cs : Chars) : weight (f cs) ≤ weight cs := by
  rcases hf cs with h | h
  · rw [h]
  · exact h.le

lemma eq_or_lt (hf : Shrinks f) {xs ys : Chars} (h : xs = ys ∨ weight xs < weight ys) :
    f xs = ys ∨ weight (f xs) < weight ys := by
  rcases h with rfl | h
  · exact hf xs
  · exact .inr ((hf.weight_le xs).trans_lt h)

lemma comp (hg : Shrinks g) (hf : Shrinks f) : Shrinks fun cs => g (f cs) :=
  fun cs => hg.eq_or_lt (hf cs)

lemma eq_iff (hg : Shrinks g) {xs ys : Chars} (h : xs = ys ∨ weight xs < weight ys) :
    g xs = ys ↔ xs = ys ∧ g ys = ys := by
  constructor
  · intro he
    rcases h with rfl | h
    · exact ⟨rfl, he⟩
    · exact absurd (he ▸ (hg.weight_le xs).trans_lt h) (lt_irrefl _)
  · rintro ⟨rfl, he⟩
    exact he

lemma comp_eq_self_iff (hg : Shrinks g) (hf : Shrinks f) (cs : Chars) :
    g (f cs) = cs ↔ f cs = cs ∧ g cs = cs :=
  hg.eq_iff (hf cs)

lemma onRuns (hg : Shrinks g) : Shrinks (onRuns g) := by
  intro cs
  have h : (∀ r ∈ runs cs, g r = id r) ∨
      weight ((runs cs).flatMap g) < weight ((runs cs).flatMap id) :=
    eq_or_lt_flatMap fun r _ => hg r
  rw [flatMap_id_runs] at h
  exact h.imp_left fun h => by rw [Text.onRuns, List.flatMap_congr h, flatMap_id_runs]

lemma onRuns_eq_self_iff (hg : Shrinks g) (cs : Chars) :
    Text.onRuns g cs = cs ↔ ∀ r ∈ runs cs, g r = r := by
  constructor
  · intro he
    refine (eq_or_lt_flatMap (g := id) fun r _ => hg r).resolve_right fun hlt => ?_
    rw [flatMap_id_runs, show (runs cs).flatMap g = cs from he] at hlt
    exact lt_irrefl _ hlt
  · intro h
    rw [Text.onRuns, List.flatMap_congr (g := id) h, flatMap_id_runs]

end Shrinks

structure Lightens (rule : Rule) (swap : Chars → Chars) : Prop where
  nil : ∀ b, rule b [] = none
  pos : ∀ b cs, rule b cs ≠ some 0
  lt : ∀ b c cs n, rule b (c :: cs) = some (n + 1) →
    weight (swap (c :: cs.take n)) < weight (c :: cs.take n)
  blind : ∀ b cs, rule b cs = rule none cs

namespace Lightens

variable {rule : Rule} {swap : Chars → Chars}

lemma rewriteFrom_eq_or_lt (h : Lightens rule swap) (skip : Nat) (before : Option Char)
    (cs : Chars) : rewriteFrom rule swap skip before cs = cs.drop skip ∨
      weight (rewriteFrom rule swap skip before cs) < weight (cs.drop skip) := by
  fun_induction rewriteFrom rule swap skip before cs with
  | case1 skip before hr => simp [h.nil] at hr
  | case2 skip before hr => simp
  | case3 skip before c cs ih => simpa using ih
  | case4 before c cs hr ih =>
    rw [List.drop_zero] at ih ⊢
    have := eq_or_lt_append (u := [c]) (v := [c]) (.inl rfl) ih
    exact this.imp_left fun he => by rw [he.2]
  | case5 before c cs hr ih => exact absurd hr (h.pos _ _)
  | case6 before c cs n hr ih =>
    have hcs : c :: cs = (c :: cs.take n) ++ cs.drop n := by simp
    have := eq_or_lt_append (.inr (h.lt _ _ _ _ hr)) ih
    rw [List.drop_zero, hcs]
    exact this.imp_left fun he => by rw [he.1, he.2]

lemma shrinks (h : Lightens rule swap) : Shrinks (rewrite rule swap) :=
  fun cs => h.rewriteFrom_eq_or_lt 0 none cs

lemma rewriteFrom_eq_self_iff (h : Lightens rule swap) (before : Option Char) (cs : Chars) :
    rewriteFrom rule swap 0 before cs = cs ↔ ∀ suf, suf <:+ cs → rule none suf = none := by
  induction cs generalizing before with
  | nil => simp [rewriteFrom, h.nil]
  | cons c cs ih =>
    simp only [List.suffix_cons_iff, forall_eq_or_imp]
    rw [← h.blind before, ← ih (some c)]
    cases hr : rule before (c :: cs) with
    | none => simp [rewriteFrom, hr]
    | some n =>
      refine iff_of_false (fun he => ?_) (by simp)
      cases n with
      | zero => exact h.pos _ _ hr
      | succ n =>
        -- The place gets lighter and what follows no heavier, so the text cannot be the same.
        have hcs : c :: cs = (c :: cs.take n) ++ cs.drop n := by simp
        have hlt := h.lt _ _ _ _ hr
        rcases eq_or_lt_append (.inr hlt) (h.rewriteFrom_eq_or_lt n (some c) cs) with ⟨hs, -⟩ | hlt'
        · exact absurd (hs ▸ hlt) (lt_irrefl _)
        · simp only [rewriteFrom, hr] at he
          rw [he, ← hcs] at hlt'
          exact lt_irrefl _ hlt'

lemma rewrite_eq_self_iff (h : Lightens rule swap) (cs : Chars) :
    rewrite rule swap cs = cs ↔ ∀ suf, suf <:+ cs → rule none suf = none :=
  h.rewriteFrom_eq_self_iff none cs

end Lightens

end Huntbook.Text
