import Huntbook.Value.Order
import Huntbook.Proofs.Converted

/-!
# Sorting

A sort whose comparisons may fail gives what a stable sort gives if its items are compared by keys of
a linear order, and it succeeds if any two items can be compared. What only items that can be compared
have in common is common to all items of a list that could be sorted.
-/

namespace Huntbook

open List

section

variable {α κ : Type} [LinearOrder κ] (key : α → κ) {xs ys : List α} {x : α}

/-- The items in the order of their keys; items with equal keys stay in their order. -/
def inOrderOf (xs : List α) : List α := xs.insertionSort fun a b => key a ≤ key b

instance total_key : Std.Total fun a b : α => key a ≤ key b := ⟨fun _ _ => le_total _ _⟩

instance trans_key : IsTrans α fun a b => key a ≤ key b := ⟨fun _ _ _ => le_trans⟩

lemma pairwise_inOrderOf (xs : List α) : (inOrderOf key xs).Pairwise fun a b => key a ≤ key b :=
  pairwise_insertionSort _ xs

variable {key}

lemma inOrderOf_sublist (h : xs <+ ys) : inOrderOf key xs <+ inOrderOf key ys := by
  induction h with
  | slnil => exact .slnil
  | cons a _ ih => exact ih.trans (sublist_orderedInsert a _)
  | cons_cons a _ ih => exact ih.orderedInsert_sublist a (pairwise_inOrderOf key _)

/-- The last item goes after all items that do not come after it. -/
lemma inOrderOf_concat : inOrderOf key (xs ++ [x]) =
    (inOrderOf key xs).orderedInsert (fun a b => key a < key b) x := by
  have hcomm (a : α) (ys : List α) :
      (ys.orderedInsert (fun a b => key a < key b) x).orderedInsert (fun a b => key a ≤ key b) a =
        (ys.orderedInsert (fun a b => key a ≤ key b) a).orderedInsert (fun a b => key a < key b) x := by
    induction ys with
    | nil => grind
    | cons b ys ih => grind
  induction xs with
  | nil => rfl
  | cons a xs ih =>
    rw [cons_append, inOrderOf, insertionSort_cons, ← inOrderOf, ih, hcomm]
    rfl

/-- A list whose keys fall is turned around. -/
lemma inOrderOf_of_falling (h : xs.Pairwise fun a b => key b < key a) :
    inOrderOf key xs = xs.reverse := by
  induction xs with
  | nil => rfl
  | cons a xs ih =>
    rw [pairwise_cons] at h
    have hall : ∀ b ∈ xs.reverse, ¬key a ≤ key b := fun b hb => (h.1 b (mem_reverse.1 hb)).not_ge
    rw [inOrderOf, insertionSort_cons, ← inOrderOf, ih h.2, orderedInsert_eq_take_drop,
      takeWhile_eq_self_iff.2 (by simpa using hall), dropWhile_eq_nil_iff.2 (by simpa using hall),
      reverse_cons]

end

/-! ## Comparisons that may fail -/

section

variable {α κ : Type} [LinearOrder κ] {key : α → κ} {less : α → α → Try Bool}
  {items sorted xs run rest found : List α} {x last : α} {falling : Bool}

lemma append_of_runFrom (h : runFrom less falling last xs = .ok (run, rest)) : run ++ rest = xs := by
  induction xs generalizing last run with
  | nil =>
    cases h
    rfl
  | cons x xs ih =>
    obtain ⟨b, -, h⟩ := bind_eq_ok.1 h
    split at h
    · obtain ⟨⟨run', rest'⟩, hrun, h⟩ := bind_eq_ok.1 h
      cases h
      rw [cons_append, ih hrun]
    · cases h
      rfl

lemma perm_put (x : α) (sorted : List α) (place : Nat) :
    (sorted.take place ++ x :: sorted.drop place).Perm (x :: sorted) := by
  simpa using @perm_middle _ x (sorted.take place) (sorted.drop place)

lemma perm_of_insertAll (h : insertAll less sorted xs = .ok found) : found.Perm (sorted ++ xs) := by
  induction xs generalizing sorted with
  | nil =>
    cases h
    rw [append_nil]
  | cons x xs ih =>
    obtain ⟨place, -, h⟩ := bind_eq_ok.1 h
    exact (ih h).trans (((perm_put x sorted place).append_right xs).trans perm_middle.symm)

lemma perm_of_sortBy (h : sortBy less items = .ok found) : found.Perm items := by
  match items with
  | [] =>
    cases h
    exact .refl _
  | [x] =>
    cases h
    exact .refl _
  | x :: y :: rest =>
    obtain ⟨falling, -, h⟩ := bind_eq_ok.1 h
    obtain ⟨⟨run, rest'⟩, hrun, h⟩ := bind_eq_ok.1 h
    rw [← append_of_runFrom hrun, ← cons_append, ← cons_append]
    refine (perm_of_insertAll h).trans (.append_right rest' ?_)
    split
    · exact reverse_perm _
    · exact .refl _

/-- Comparing items of a list is comparing their keys. -/
def ComparesBy (less : α → α → Try Bool) (key : α → κ) (items : List α) : Prop :=
  ∀ a ∈ items, ∀ b ∈ items, less a b = .ok (decide (key a < key b))

lemma runFrom_eq_ok (hless : ComparesBy less key items) (hlast : last ∈ items) (hxs : xs ⊆ items) :
    ∃ run rest, runFrom less falling last xs = .ok (run, rest) ∧
      (last :: run).IsChain fun a b => decide (key b < key a) = falling := by
  induction xs generalizing last with
  | nil => exact ⟨[], [], rfl, .singleton _⟩
  | cons x xs ih =>
    rw [cons_subset] at hxs
    obtain ⟨run, rest, hrun, hchain⟩ := ih hxs.1 hxs.2
    rw [runFrom, hless x hxs.1 last hlast, ok_bind]
    by_cases hfalling : decide (key x < key last) = falling
    · rw [if_pos (by simpa using hfalling), hrun]
      exact ⟨x :: run, rest, rfl, .cons_cons hfalling hchain⟩
    · rw [if_neg (by simpa using hfalling)]
      exact ⟨[], x :: xs, rfl, .singleton _⟩

lemma reorder_run (h : xs.IsChain fun a b => decide (key b < key a) = falling) :
    (if falling then xs.reverse else xs) = inOrderOf key xs := by
  cases falling with
  | false =>
    have hrising : xs.IsChain fun a b => key a ≤ key b := h.imp fun a b hab => by simpa using hab
    exact (hrising.pairwise.insertionSort_eq).symm
  | true => exact (inOrderOf_of_falling (h.imp fun a b hab => of_decide_eq_true hab).pairwise).symm

/-- Halving finds the first item that comes after `x`, if it is between the two bounds. -/
lemma halve_eq_ok (hsorted : sorted.Pairwise fun a b => key a ≤ key b)
    (hless : ∀ y ∈ sorted, less x y = .ok (decide (key x < key y))) {n low high : Nat}
    (hn : high - low < n) (hhigh : high ≤ sorted.length)
    (hlow : low ≤ sorted.findIdx (key x < key ·)) (hplace : sorted.findIdx (key x < key ·) ≤ high) :
    halve less x sorted.toArray n low high = .ok (sorted.findIdx (key x < key ·)) := by
  have hiff (i : Nat) (hi : i < sorted.length) :
      key x < key sorted[i] ↔ sorted.findIdx (key x < key ·) ≤ i := by
    refine ⟨fun h => not_lt.1 fun hlt => of_decide_eq_false (not_of_lt_findIdx hlt) h, fun h => ?_⟩
    have hfirst := of_decide_eq_true (findIdx_getElem (w := h.trans_lt hi))
    rcases h.eq_or_lt with heq | hlt
    · simpa only [heq] using hfirst
    · exact hfirst.trans_le (pairwise_iff_getElem.1 hsorted _ _ _ hi hlt)
  induction n generalizing low high with
  | zero => omega
  | succ n ih =>
    rw [halve]
    dsimp only
    split
    · generalize hmid : low + (high - low) / 2 = mid
      have hlt : mid < sorted.length := by omega
      rw [getElem?_toArray, getElem?_eq_getElem hlt]
      dsimp only
      rw [hless _ (getElem_mem hlt), ok_bind]
      simp only [decide_eq_true_eq, hiff mid hlt]
      split
      · exact ih (by omega) hlt.le hlow ‹_›
      · exact ih (by omega) hhigh (by omega) hplace
    · congr 1
      omega

lemma insertAll_eq_ok {us : List α} (hless : ComparesBy less key items) (hus : us ⊆ items)
    (hxs : xs ⊆ items) : insertAll less (inOrderOf key us) xs = .ok (inOrderOf key (us ++ xs)) := by
  induction xs generalizing us with
  | nil =>
    rw [append_nil]
    rfl
  | cons x xs ih =>
    rw [cons_subset] at hxs
    have hmem {y : α} (hy : y ∈ inOrderOf key us) : y ∈ items := hus ((mem_insertionSort _).1 hy)
    rw [insertAll, halve_eq_ok (pairwise_inOrderOf key us) (fun y hy => hless x hxs.1 y (hmem hy))
      (by omega) le_rfl (Nat.zero_le _) findIdx_le_length, ok_bind]
    have hput := orderedInsert_eq_take_drop (fun a b => key a < key b) x (inOrderOf key us)
    simp only [takeWhile_eq_take_findIdx_not, dropWhile_eq_drop_findIdx_not, decide_not,
      Bool.not_not] at hput
    rw [← hput, ← inOrderOf_concat, ih (by grind) hxs.2, append_assoc, singleton_append]

lemma sortBy_eq_ok (hless : ComparesBy less key items) :
    sortBy less items = .ok (inOrderOf key items) := by
  match items with
  | [] => rfl
  | [x] => rfl
  | x :: y :: rest =>
    have hfirst := hless y (by simp) x (by simp)
    generalize hfalling : decide (key y < key x) = falling at hfirst
    have hsub : rest ⊆ x :: y :: rest := by simp
    obtain ⟨run, rest', hrun, hchain⟩ := @runFrom_eq_ok _ _ _ key _ _ _ y falling hless (by simp) hsub
    have happend := append_of_runFrom hrun
    rw [sortBy, hfirst, ok_bind, hrun, ok_bind]
    dsimp only
    rw [reorder_run (.cons_cons hfalling hchain), ← happend,
      insertAll_eq_ok hless (by grind) (by grind)]
    simp

/-! ## Sorts that succeed -/

/-- Two items can be compared, whichever comes first. -/
def Compares (less : α → α → Try Bool) (a b : α) : Prop :=
  Succeeds (less a b) ∧ Succeeds (less b a)

lemma succeeds_runFrom (h : (last :: xs).Pairwise (Compares less)) :
    Succeeds (runFrom less falling last xs) := by
  induction xs generalizing last with
  | nil => exact ⟨_, rfl⟩
  | cons x xs ih =>
    obtain ⟨hlast, hrest⟩ := pairwise_cons.1 h
    obtain ⟨b, hb⟩ := (hlast x mem_cons_self).2
    obtain ⟨⟨run, rest⟩, hrun⟩ := ih hrest
    rw [runFrom, hb, ok_bind, hrun]
    split <;> exact ⟨_, rfl⟩

lemma succeeds_halve (h : ∀ y ∈ sorted, Succeeds (less x y)) (n low high : Nat) :
    Succeeds (halve less x sorted.toArray n low high) := by
  induction n generalizing low high with
  | zero => exact ⟨_, rfl⟩
  | succ n ih =>
    rw [halve]
    dsimp only
    split
    · split
      · rename_i y hy
        obtain ⟨b, hb⟩ := h y (mem_of_getElem? (getElem?_toArray ▸ hy))
        rw [hb, ok_bind]
        split <;> exact ih ..
      · exact ⟨_, rfl⟩
    · exact ⟨_, rfl⟩

lemma succeeds_insertAll (h : (sorted ++ xs).Pairwise (Compares less)) :
    Succeeds (insertAll less sorted xs) := by
  induction xs generalizing sorted with
  | nil => exact ⟨_, rfl⟩
  | cons x xs ih =>
    have hx : ∀ y ∈ sorted, Succeeds (less x y) := fun y hy =>
      ((pairwise_append.1 h).2.2 y hy x mem_cons_self).2
    obtain ⟨place, hplace⟩ := succeeds_halve hx (sorted.length + 1) 0 sorted.length
    rw [insertAll, hplace, ok_bind]
    exact ih ((Perm.pairwise_iff And.symm
      (perm_middle.trans ((perm_put x sorted place).symm.append_right xs))).1 h)

/-- A list can be sorted if any two of its items can be compared. -/
lemma succeeds_sortBy (h : items.Pairwise (Compares less)) : Succeeds (sortBy less items) := by
  match items with
  | [] => exact ⟨_, rfl⟩
  | [x] => exact ⟨_, rfl⟩
  | x :: y :: rest =>
    obtain ⟨hx, hrest⟩ := pairwise_cons.1 h
    obtain ⟨falling, hfalling⟩ := (hx y mem_cons_self).2
    obtain ⟨⟨run, rest'⟩, hrun⟩ := @succeeds_runFrom _ _ _ _ falling hrest
    rw [sortBy, hfalling, ok_bind, hrun, ok_bind]
    rw [← append_of_runFrom hrun, ← cons_append, ← cons_append] at h
    refine succeeds_insertAll ((Perm.pairwise_iff And.symm (.append_right rest' ?_)).1 h)
    split
    · exact (reverse_perm _).symm
    · exact .refl _

/-! ## What a sort compares -/

variable {P : α → Prop}

lemma forall_of_runFrom (hless : ∀ a b, Succeeds (less a b) → (P a ↔ P b)) (hlast : P last)
    (h : runFrom less falling last xs = .ok (run, rest)) : ∀ a ∈ run, P a := by
  induction xs generalizing last run with
  | nil =>
    cases h
    simp
  | cons x xs ih =>
    obtain ⟨b, hb, h⟩ := bind_eq_ok.1 h
    have hx := (hless x last ⟨b, hb⟩).2 hlast
    split at h
    · obtain ⟨⟨run', rest'⟩, hrun, h⟩ := bind_eq_ok.1 h
      cases h
      exact forall_mem_cons.2 ⟨hx, ih hx hrun⟩
    · cases h
      simp

lemma forall_of_insertAll (hless : ∀ a b, Succeeds (less a b) → (P a ↔ P b)) (hne : sorted ≠ [])
    (hsorted : ∀ a ∈ sorted, P a) (h : insertAll less sorted xs = .ok found) : ∀ a ∈ xs, P a := by
  induction xs generalizing sorted with
  | nil => simp
  | cons x xs ih =>
    obtain ⟨place, hplace, h⟩ := bind_eq_ok.1 h
    have hx : P x := by
      have hpos := length_pos_iff.2 hne
      have hlt : 0 + (sorted.length - 0) / 2 < sorted.length := by omega
      rw [halve, if_pos hpos] at hplace
      dsimp only at hplace
      rw [getElem?_toArray, getElem?_eq_getElem hlt] at hplace
      obtain ⟨b, hb, -⟩ := bind_eq_ok.1 hplace
      exact (hless _ _ ⟨b, hb⟩).2 (hsorted _ (getElem_mem hlt))
    exact forall_mem_cons.2 ⟨hx, ih (by simp) (by grind) h⟩

lemma forall_of_sortBy {b : α} (hless : ∀ a b, Succeeds (less a b) → (P a ↔ P b))
    (h : sortBy less items = .ok found) (hb : b ∈ items) (hP : P b) : ∀ a ∈ items, P a := by
  have hfirst {P : α → Prop} (hless : ∀ a b, Succeeds (less a b) → (P a ↔ P b)) {x : α}
      {xs : List α} (h : sortBy less (x :: xs) = .ok found) (hx : P x) : ∀ a ∈ x :: xs, P a := by
    cases xs with
    | nil => simpa using hx
    | cons y xs =>
      obtain ⟨falling, hy, h⟩ := bind_eq_ok.1 h
      obtain ⟨⟨run, rest⟩, hrun, h⟩ := bind_eq_ok.1 h
      have hy := (hless y x ⟨_, hy⟩).2 hx
      have hruns := forall_of_runFrom hless hy hrun
      have hrest := forall_of_insertAll hless (by split <;> simp) (by grind) h
      rw [← append_of_runFrom hrun]
      grind
  cases items with
  | nil => simp
  | cons x xs =>
    refine hfirst hless h ?_
    by_contra hx
    exact hfirst (fun a b hab => not_congr (hless a b hab)) h hx b hb hP

end

end Huntbook
