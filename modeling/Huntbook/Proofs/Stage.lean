import Huntbook.Search
import Mathlib

/-!
# Stages of a search

A search is a pipeline: a bar starts a new stage, unless it stands in a quoted literal. A literal
runs from a double quote to the next one that no backslash escapes.
-/

namespace Huntbook.Search

inductive Zone
  | outside | inside | escaped
  deriving DecidableEq

namespace Zone

def next : Zone → Char → Zone
  | .outside, c => if c = '"' then .inside else .outside
  | .inside, c => if c = '"' then .outside else if c = '\\' then .escaped else .inside
  | .escaped, _ => .inside

def after (z : Zone) (cs : Chars) : Zone := cs.foldl next z

def bars : Zone → Chars → Nat
  | _, [] => 0
  | z, c :: cs => (if z = .outside ∧ c = '|' then 1 else 0) + bars (z.next c) cs

@[simp] lemma after_nil (z : Zone) : z.after [] = z := rfl

@[simp] lemma after_cons (z : Zone) (c : Char) (cs : Chars) :
    z.after (c :: cs) = (z.next c).after cs := rfl

lemma after_append (z : Zone) (xs ys : Chars) : z.after (xs ++ ys) = (z.after xs).after ys :=
  List.foldl_append

@[simp] lemma bars_nil (z : Zone) : z.bars [] = 0 := rfl

lemma bars_append (z : Zone) (xs ys : Chars) :
    z.bars (xs ++ ys) = z.bars xs + (z.after xs).bars ys := by
  induction xs generalizing z with
  | nil => simp
  | cons c xs ih =>
    rw [List.cons_append, bars, ih, bars, after_cons]
    omega

end Zone

/-- The number of stages of a search. -/
def stages (search : String) : Nat := Zone.outside.bars search.toList + 1

def OneMore (e e' : Chars) : Prop :=
  ∀ z : Zone, z.after e' = z.after e ∧ z.bars e' = z.bars e + 1

lemma OneMore.frame {e e' : Chars} (h : OneMore e e') (u v : Chars) :
    OneMore (u ++ (e ++ v)) (u ++ (e' ++ v)) := fun z => by
  obtain ⟨hafter, hbars⟩ := h (z.after u)
  simp only [Zone.after_append, Zone.bars_append, hafter, hbars]
  exact ⟨trivial, by omega⟩

/-! ## Escaped values -/

lemma after_escapeValueChar (c : Char) : Zone.inside.after (escapeValueChar c) = .inside := by
  unfold escapeValueChar
  split
  · rfl
  · rename_i hc
    simp only [Bool.or_eq_true, beq_iff_eq, not_or] at hc
    simp [Zone.next, hc]

lemma bars_escapeValueChar (c : Char) : Zone.inside.bars (escapeValueChar c) = 0 := by
  unfold escapeValueChar
  split
  · simp [Zone.bars, Zone.next]
  · simp [Zone.bars]

lemma after_escapeValue (s : String) : Zone.inside.after (escapeValue s).toList = .inside := by
  rw [escapeValue, String.toList_ofList]
  induction s.toList with
  | nil => rfl
  | cons c cs ih => rw [List.flatMap_cons, Zone.after_append, after_escapeValueChar, ih]

lemma bars_escapeValue (s : String) : Zone.inside.bars (escapeValue s).toList = 0 := by
  rw [escapeValue, String.toList_ofList]
  induction s.toList with
  | nil => rfl
  | cons c cs ih =>
    rw [List.flatMap_cons, Zone.bars_append, bars_escapeValueChar, after_escapeValueChar, ih]

end Huntbook.Search
