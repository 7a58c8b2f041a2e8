import Huntbook.Proofs.Condition
import Huntbook.Proofs.Stage

/-!
# Texts with gaps

What rewriting a condition does to a text that was put into it can be hard to tell, as names may be
any texts. But a *wall* of characters that make no word, longer than every name, comes through as it
is, and the text on either side of it is rewritten by itself.
-/

namespace Huntbook

open List

namespace Text

/-! ## Words and walls -/

variable {name w : Chars} {swap : Chars → Chars}

variable {before : Option Char} {cs : Chars}

lemma wordRule_congr_before {before' : Option Char}
    (h : before.any isWord = before'.any isWord) (cs : Chars) :
    wordRule name before cs = wordRule name before' cs := by
  have hlast : (lastOr before name).any isWord = (lastOr before' name).any isWord := by
    cases hl : name.getLast? <;> simp [lastOr, hl, h]
  refine Option.ext fun n => ?_
  simp only [wordRule_eq_some, isBoundary, h, hlast]

lemma rewriteFrom_congr_before {before' : Option Char}
    (h : before.any isWord = before'.any isWord) (cs : Chars) :
    rewriteFrom (wordRule name) swap 0 before cs = rewriteFrom (wordRule name) swap 0 before' cs := by
  cases cs <;> simp only [rewriteFrom, wordRule_congr_before h]

lemma wordRule_other {c d : Char} (hc : isWord c = false) (hd : isWord d = false)
    (cs : Chars) : wordRule name (some c) (d :: cs) = none := by
  simp [wordRule, isBoundary, hc, hd]

lemma rewriteFrom_others {c : Char} (hc : isWord c = false) (hw : ∀ d ∈ w, isWord d = false)
    (x : Chars) : rewriteFrom (wordRule name) swap 0 (some c) (w ++ x) =
      w ++ rewriteFrom (wordRule name) swap 0 none x := by
  induction w generalizing c with
  | nil => exact rewriteFrom_congr_before (by simpa using hc) x
  | cons d w ih =>
    obtain ⟨hd, hw⟩ := forall_mem_cons.1 hw
    rw [cons_append, rewriteFrom, wordRule_other hc hd]
    simp only [cons_append, cons.injEq, true_and]
    exact ih hd hw

lemma startsWord_wall (hne : w ≠ []) (hw : ∀ d ∈ w, isWord d = false) (u x : Chars) :
    startsWord (u ++ (w ++ x)) = startsWord u := by
  obtain ⟨d, w, rfl⟩ := exists_cons_of_ne_nil hne
  cases u with
  | nil => simp [startsWord, hw d mem_cons_self]
  | cons c u => rfl

lemma wordRule_wall (hlong : name.length < w.length) (hw : ∀ d ∈ w, isWord d = false)
    (before : Option Char) (u x : Chars) :
    wordRule name before (u ++ (w ++ x)) = wordRule name before u := by
  have hne : w ≠ [] := length_pos_iff.1 hlong.pos
  have hstart : ∀ b v, isBoundary b (v ++ (w ++ x)).head? = isBoundary b v.head? := fun b v =>
    congrArg (b.any isWord != ·) (startsWord_wall hne hw v x)
  refine Option.ext fun n => ?_
  rw [wordRule_eq_some, wordRule_eq_some, hstart]
  refine and_congr_right fun _ => and_congr_right fun _ => ⟨?_, ?_⟩
  · rintro ⟨rest, he, hb⟩
    rcases append_eq_append_iff.1 he with ⟨v, hv, hrest⟩ | ⟨v, rfl, rfl⟩
    · -- The name would end inside the wall, where there is no boundary.
      rcases eq_nil_or_concat v with rfl | ⟨v, d, rfl⟩
      · refine ⟨[], by simpa using hv.symm, ?_⟩
        rw [← hstart, nil_append, hrest]
        exact hb
      · have hshort : (v.concat d).length < w.length := by
          have := congrArg length hv
          rw [length_append] at this
          omega
        rcases append_eq_append_iff.1 hrest with ⟨a, ha, -⟩ | ⟨a, ha, rfl⟩
        · rw [ha, length_append] at hshort
          omega
        · have hd : isWord d = false := hw d (by simp [ha])
          cases a with
          | nil => simp [ha] at hshort
          | cons e a =>
            have he : isWord e = false := hw e (by simp [ha])
            simp [isBoundary, lastOr, hv, hd, he] at hb
    · exact ⟨v, rfl, by rwa [← hstart]⟩
  · rintro ⟨rest, rfl, hb⟩
    exact ⟨rest ++ (w ++ x), by simp, by rwa [hstart]⟩

lemma length_le_of_wordRule {n : Nat} (h : wordRule name before cs = some n) : n ≤ cs.length := by
  obtain ⟨rfl, -, rest, rfl, -⟩ := wordRule_eq_some.1 h
  simp

lemma rewriteFrom_wall (hlong : name.length < w.length) (hw : ∀ d ∈ w, isWord d = false)
    (u x : Chars) : rewriteFrom (wordRule name) swap 0 none (u ++ (w ++ x)) =
      rewriteFrom (wordRule name) swap 0 none u ++
        (w ++ rewriteFrom (wordRule name) swap 0 none x) := by
  refine rewriteFrom_append (fun _ _ _ => length_le_of_wordRule)
    (fun b zs _ _ => wordRule_wall hlong hw b zs x) (fun b => ?_) none (Nat.zero_le _)
  have hrule := wordRule_wall hlong hw b [] x
  obtain ⟨d, w, rfl⟩ := exists_cons_of_ne_nil (length_pos_iff.1 hlong.pos)
  obtain ⟨hd, hw⟩ := forall_mem_cons.1 hw
  rw [nil_append, cons_append] at hrule
  rw [cons_append, rewriteFrom, rewriteFrom, hrule]
  cases hr : wordRule name b [] with
  | none => simp [rewriteFrom_others hd hw]
  | some n =>
    obtain rfl : n = 0 := Nat.le_zero.1 (length_le_of_wordRule hr)
    simp [rewriteFrom_others hd hw]

/-! ## Where a name stands -/

def StandsIn (name cs : Chars) : Prop :=
  ∃ u v, cs = u ++ (name ++ v) ∧ isBoundary u.getLast? (name ++ v).head? ∧
    isBoundary (u ++ name).getLast? v.head?

lemma lastOr_cons (before : Option Char) (c : Char) (u : Chars) :
    lastOr before (c :: u) = lastOr (some c) u := by
  cases hu : u.getLast? <;> simp [lastOr, getLast?_cons, hu]

lemma standsIn_iff :
    StandsIn name cs ↔ ∃ u v, cs = u ++ v ∧ (wordRule name (lastOr none u) v).isSome := by
  have hlast : ∀ u : Chars, lastOr none u = u.getLast? := fun u => by simp [lastOr]
  have hlast' : ∀ u : Chars, lastOr u.getLast? name = (u ++ name).getLast? := fun u => by
    rw [lastOr, getLast?_append]
  simp only [Option.isSome_iff_exists, wordRule_eq_some, hlast, hlast']
  constructor
  · rintro ⟨u, v, rfl, hu, hv⟩
    exact ⟨u, _, rfl, _, rfl, hu, v, rfl, hv⟩
  · rintro ⟨u, _, rfl, _, -, hu, v, rfl, hv⟩
    exact ⟨u, v, rfl, hu, hv⟩

lemma rewriteFrom_of_none {rule : Rule}
    (h : ∀ u v, cs = u ++ v → rule (lastOr before u) v = none) :
    rewriteFrom rule swap 0 before cs = cs := by
  induction cs generalizing before with
  | nil =>
    have hrule : rule before [] = none := h [] [] rfl
    simp [rewriteFrom, hrule]
  | cons c cs ih =>
    have hrule : rule before (c :: cs) = none := h [] (c :: cs) rfl
    have hrest : rewriteFrom rule swap 0 (some c) cs = cs := ih fun u v he => by
      rw [← lastOr_cons before]
      exact h (c :: u) v (by rw [he, cons_append])
    simp [rewriteFrom, hrule, hrest]

lemma rewrite_of_not_standsIn (h : ¬StandsIn name cs) : rewrite (wordRule name) swap cs = cs := by
  refine rewriteFrom_of_none fun u v he => ?_
  rw [Option.eq_none_iff_forall_ne_some]
  exact fun n hn => h (standsIn_iff.2 ⟨u, v, he, by simp [hn]⟩)

end Text

namespace Search

open Text

/-! ## Functions that leave walls as they are -/

/-- A text that stops every pass for names of up to `longest` characters: it has no character of
    a word, is longer than that, and starts and ends with a semicolon. -/
structure Wall (longest : Nat) (w : Chars) : Prop where
  other : ∀ c ∈ w, isWord c = false
  long : longest < w.length
  ends : ∃ m, w = ';' :: (m ++ [';'])

def Splits (longest : Nat) (f : Chars → Chars) : Prop :=
  ∀ ⦃w⦄, Wall longest w → ∀ u x, f (u ++ (w ++ x)) = f u ++ (w ++ f x)

section

variable {longest : Nat} {f g : Chars → Chars}

lemma Splits.comp (hg : Splits longest g) (hf : Splits longest f) :
    Splits longest fun cs => g (f cs) := fun w hw u x => by
  dsimp only
  rw [hf hw, hg hw]

lemma splits_rewrite {name : Chars} (hname : name.length ≤ longest)
    (swap : Chars → Chars) : Splits longest (rewrite (wordRule name) swap) :=
  fun _ hw => rewriteFrom_wall (Nat.lt_of_le_of_lt hname hw.long) hw.other

lemma splits_of_runwise (hf : Runwise f) : Splits longest f := fun w hw u x => by
  have hcons : ∀ w : Chars, (∀ c ∈ w, isWord c = false) → f (w ++ x) = w ++ f x := fun w hw => by
    induction w with
    | nil => rfl
    | cons c w ih =>
      obtain ⟨hc, hw⟩ := forall_mem_cons.1 hw
      rw [cons_append, hf.cons_other hc, ih hw, cons_append]
  obtain ⟨m, hm⟩ := hw.ends
  have hstart : startsWord (w ++ x) = false := by
    rw [hm]
    exact hw.other ';' (by simp [hm])
  rw [hf.append (.inr hstart), hcons w hw.other]

lemma splits_dropQuantifier {start : String} (hopen : '(' ∉ start.toList)
    (hmark : ';' ∉ start.toList) {c : Char} (hc : c ∈ start.toList) (hword : isWord c) :
    Splits longest (dropQuantifier start) := fun w hw u x => by
  obtain ⟨m, rfl⟩ := hw.ends
  have hm : dropQuantifier start m = m := by
    rw [dropQuantifier_eq_self_iff hopen]
    rintro v - - ⟨a, b, rfl⟩
    exact Bool.false_ne_true ((hw.other c (by simp [hc])).symm.trans hword)
  have hsplit := @dropQuantifier_append_cons start ';' hmark (by decide) (by decide)
  have : u ++ (';' :: (m ++ [';']) ++ x) = u ++ ';' :: (m ++ ';' :: x) := by simp
  rw [this, hsplit, hsplit, hm]
  simp

lemma splits_finish : Splits longest finish :=
  (splits_dropQuantifier (by decide) (by decide) (by decide : 'o' ∈ _) (by decide)).comp
    ((splits_dropQuantifier (by decide) (by decide) (by decide : 'o' ∈ _) (by decide)).comp
      (splits_of_runwise runwise_capitalise))

end

/-! ## Twins -/

structure Gap (longest : Nat) (w w' : Chars) : Prop where
  wall : Wall longest w
  wall' : Wall longest w'
  more : OneMore w w'

inductive Twin (longest : Nat) : Chars → Chars → Nat → Prop
  | refl (x : Chars) : Twin longest x x 0
  | gap {w w' x y : Chars} {n : Nat} (u : Chars) : Gap longest w w' →
      Twin longest x y n → Twin longest (u ++ (w ++ x)) (u ++ (w' ++ y)) (n + 1)

namespace Twin

variable {longest n k : Nat} {x y : Chars}

lemma append_left (h : Twin longest x y n) (v : Chars) :
    Twin longest (v ++ x) (v ++ y) n := by
  cases h with
  | refl x => exact .refl _
  | gap u hg h =>
    rw [← append_assoc, ← append_assoc v]
    exact .gap (v ++ u) hg h

lemma append {x' y' : Chars} (h : Twin longest x y n) (h' : Twin longest x' y' k) :
    Twin longest (x ++ x') (y ++ y') (n + k) := by
  induction h with
  | refl x => simpa using h'.append_left x
  | @gap w w' x y n u hg h ih =>
    have := Twin.gap u hg ih
    rw [Nat.add_right_comm]
    simpa using this

lemma map {f : Chars → Chars} (hf : Splits longest f) (h : Twin longest x y n) :
    Twin longest (f x) (f y) n := by
  induction h with
  | refl x => exact .refl _
  | gap u hg h ih =>
    rw [hf hg.wall, hf hg.wall']
    exact .gap (f u) hg ih

lemma zone (h : Twin longest x y n) (z : Zone) :
    z.after y = z.after x ∧ z.bars y = z.bars x + n := by
  induction h generalizing z with
  | refl x => exact ⟨rfl, rfl⟩
  | @gap w w' x y n u hg h ih =>
    obtain ⟨hw, hbars⟩ := hg.more (z.after u)
    obtain ⟨ha, hb⟩ := ih ((z.after u).after w)
    simp only [Zone.after_append, Zone.bars_append, hw, hbars, ha, hb]
    exact ⟨trivial, by omega⟩

lemma ne_nil (h : Twin longest x y (n + 1)) : x ≠ [] ∧ y ≠ [] := by
  cases h with
  | gap u hg h =>
    have hne : ∀ {w}, Wall longest w → w ≠ [] := fun hw => by
      obtain ⟨m, rfl⟩ := hw.ends
      simp
    simp [hne hg.wall, hne hg.wall']

end Twin

section

variable {longest n k : Nat} {a a' : Chars}

lemma twin_rewriteFrom (ha : Twin longest a a' k) (name : Chars) (skip : Nat)
    (before : Option Char) (cs : Chars) :
    ∃ n, Twin longest (rewriteFrom (wordRule name) (fun _ => a) skip before cs)
        (rewriteFrom (wordRule name) (fun _ => a') skip before cs) n ∧
      (skip = 0 → 0 < k → (∃ u v, cs = u ++ v ∧ (wordRule name (lastOr before u) v).isSome) →
        0 < n) := by
  induction cs generalizing skip before with
  | nil =>
    cases hr : wordRule name before [] with
    | none =>
      refine ⟨0, by simpa [rewriteFrom, hr] using Twin.refl _, ?_⟩
      rintro - - ⟨u, v, he, hv⟩
      obtain ⟨rfl, rfl⟩ := append_eq_nil_iff.1 he.symm
      have hv' : (wordRule name before []).isSome := hv
      simp [hr] at hv'
    | some m => exact ⟨k, by simpa [rewriteFrom, hr] using ha, fun _ hk _ => hk⟩
  | cons c cs ih =>
    cases skip with
    | succ skip =>
      obtain ⟨n, hn, -⟩ := ih skip (some c)
      exact ⟨n, hn, fun h => absurd h (Nat.succ_ne_zero skip)⟩
    | zero =>
      rw [rewriteFrom, rewriteFrom]
      cases hr : wordRule name before (c :: cs) with
      | none =>
        obtain ⟨n, hn, hpos⟩ := ih 0 (some c)
        refine ⟨n, hn.append_left [c], ?_⟩
        rintro - hk ⟨u, v, he, hv⟩
        cases u with
        | nil =>
          obtain rfl : c :: cs = v := he
          have hv' : (wordRule name before (c :: cs)).isSome := hv
          simp [hr] at hv'
        | cons d u =>
          obtain ⟨rfl, rfl⟩ := cons.inj he
          rw [lastOr_cons] at hv
          exact hpos rfl hk ⟨u, v, rfl, hv⟩
      | some m =>
        cases m with
        | zero =>
          obtain ⟨n, hn, -⟩ := ih 0 (some c)
          exact ⟨k + n, ha.append (hn.append_left [c]), fun _ hk _ => Nat.add_pos_left hk n⟩
        | succ m =>
          obtain ⟨n, hn, -⟩ := ih m (some c)
          exact ⟨k + n, ha.append hn, fun _ hk _ => Nat.add_pos_left hk n⟩

lemma twin_rewrite (ha : Twin longest a a' k) (name cs : Chars) :
    ∃ n, Twin longest (rewrite (wordRule name) (fun _ => a) cs)
        (rewrite (wordRule name) (fun _ => a') cs) n ∧ (0 < k → StandsIn name cs → 0 < n) := by
  obtain ⟨n, hn, hpos⟩ := twin_rewriteFrom ha name 0 none cs
  exact ⟨n, hn, fun hk hs => hpos rfl hk (standsIn_iff.1 hs)⟩

lemma Twin.rewrite {name x y : Chars} (hname : name.length ≤ longest)
    (ha : Twin longest a a' k) (h : Twin longest x y n) :
    ∃ m, Twin longest (rewrite (wordRule name) (fun _ => a) x)
        (Text.rewrite (wordRule name) (fun _ => a') y) m ∧ n ≤ m ∧
      (n = 0 → 0 < k → StandsIn name x → 0 < m) := by
  induction h with
  | refl x =>
    obtain ⟨m, hm, hpos⟩ := twin_rewrite ha name x
    exact ⟨m, hm, Nat.zero_le m, fun _ => hpos⟩
  | @gap w w' x y n u hg h ih =>
    obtain ⟨m, hm, -⟩ := twin_rewrite ha name u
    obtain ⟨m', hm', hle, -⟩ := ih
    rw [splits_rewrite hname _ hg.wall, splits_rewrite hname _ hg.wall']
    refine ⟨m + (m' + 1), hm.append (.gap [] hg hm'), by omega, fun h => ?_⟩
    exact absurd h (Nat.succ_ne_zero n)

end

end Search

end Huntbook
