import Huntbook.Text.Finder
import Mathlib

/-!
# Texts run by run

A text is cut into its *runs*: the maximal runs of word characters, and every other character on
its own. A rule that asks for word boundaries at both ends of a word takes a whole run or nothing,
so that rewriting by it works on every run by itself (`WordRule.rewrite_eq`).
-/

namespace Huntbook.Text

open List

/-- What holds of all characters of a text is decided along the text. The instance comes before
    the one that goes through all characters there are. -/
instance (priority := 1100) decidableForallChar (p : Char → Prop) [DecidablePred p]
    (cs : Chars) : Decidable (∀ c ∈ cs, p c) :=
  List.decidableBAll p cs

def startsWord (cs : Chars) : Bool := cs.head?.any isWord

def endsInWord (cs : Chars) : Bool := cs.getLast?.any isWord

def Apart (xs ys : Chars) : Prop := endsInWord xs = false ∨ startsWord ys = false

/-- The maximal runs of word characters of a text, and the characters between them one by one. -/
def runs (cs : Chars) : List Chars := cs.splitBy fun a b => isWord a && isWord b

@[simp] lemma runs_nil : runs [] = [] := rfl

@[simp] lemma flatten_runs (cs : Chars) : (runs cs).flatten = cs :=
  flatten_splitBy _ _

lemma flatMap_id_runs (cs : Chars) : (runs cs).flatMap id = cs := by
  rw [flatMap_id, flatten_runs]

variable {cs r w : Chars}

lemma runs_ne_nil (h : cs ≠ []) : runs cs ≠ [] :=
  splitBy_ne_nil.2 h

lemma ne_nil_of_mem_runs (h : r ∈ runs cs) : r ≠ [] :=
  ne_nil_of_mem_splitBy h

lemma runs_append {xs ys : Chars} (h : Apart xs ys) : runs (xs ++ ys) = runs xs ++ runs ys := by
  apply splitBy_append
  intro x hx y hy
  rcases h with h | h
  · simp_all [endsInWord]
  · simp_all [startsWord]

lemma runs_word (hr : r ≠ []) (hw : ∀ c ∈ r, isWord c) : runs r = [r] := by
  apply splitBy_of_isChain hr
  induction r with
  | nil => exact absurd rfl hr
  | cons a r ih =>
    cases r with
    | nil => exact isChain_singleton a
    | cons b r =>
      have hb := ih (cons_ne_nil b r) fun c hc => hw c (mem_cons_of_mem a hc)
      refine isChain_cons_cons.2 ⟨?_, hb⟩
      simp [hw a (by simp), hw b (by simp)]

variable {c : Char} {rest : Chars} {before : Option Char} {n : Nat}

lemma runs_cons_of_not_isWord (hc : isWord c = false) (cs : Chars) :
    runs (c :: cs) = [c] :: runs cs :=
  @runs_append [c] cs (.inl (by simp [endsInWord, hc]))

lemma run_induction {P : Chars → Prop} (nil : P [])
    (other : ∀ c cs, isWord c = false → P cs → P (c :: cs))
    (word : ∀ r cs, r ≠ [] → (∀ c ∈ r, isWord c) → startsWord cs = false → P cs → P (r ++ cs))
    (cs : Chars) : P cs := by
  -- On the length: what follows a word is shorter, but no tail of the text by pattern.
  induction h : cs.length using Nat.strong_induction_on generalizing cs with
  | _ n ih =>
    cases cs with
    | nil => exact nil
    | cons c cs =>
      cases hc : isWord c with
      | false => exact other c cs hc (ih cs.length (by simp_all; omega) cs rfl)
      | true =>
        rw [← takeWhile_append_dropWhile (p := isWord) (l := c :: cs)]
        have hshort := (dropWhile_suffix isWord (l := cs)).length_le
        refine word _ _ (by simp [hc]) (fun d hd => mem_takeWhile_imp hd) ?_ (ih _ ?_ _ rfl)
        · cases hd : (c :: cs).dropWhile isWord with
          | nil => rfl
          | cons d ds =>
            have := head_dropWhile_not isWord (l := c :: cs) (by simp [hd])
            simpa [startsWord, hd] using this
        · rw [dropWhile_cons_of_pos hc]
          simp only [length_cons] at h
          omega

lemma mem_runs_cases (h : r ∈ runs cs) :
    (∀ c ∈ r, isWord c) ∨ ∃ c, isWord c = false ∧ r = [c] := by
  induction cs using run_induction with
  | nil => simp at h
  | other c cs hc ih =>
    rw [runs_cons_of_not_isWord hc] at h
    rcases mem_cons.1 h with rfl | h
    · exact .inr ⟨c, hc, rfl⟩
    · exact ih h
  | word w cs hw hword hs ih =>
    rw [runs_append (.inr hs), runs_word hw hword] at h
    rcases mem_cons.1 h with rfl | h
    · exact .inl hword
    · exact ih h

lemma runs_of_mem_runs (h : r ∈ runs cs) : runs r = [r] := by
  rcases mem_runs_cases h with hw | ⟨c, hc, rfl⟩
  · exact runs_word (ne_nil_of_mem_runs h) hw
  · exact runs_cons_of_not_isWord hc []

lemma mem_of_mem_runs (h : r ∈ runs cs) (hc : c ∈ r) : c ∈ cs := by
  rw [← flatten_runs cs]
  exact mem_flatten.2 ⟨r, h, hc⟩

/-! ## Functions that work on every run -/

lemma startsWord_append {xs : Chars} (hx : xs ≠ []) (ys : Chars) :
    startsWord (xs ++ ys) = startsWord xs := by
  cases xs with
  | nil => exact absurd rfl hx
  | cons x xs => rfl

lemma endsInWord_append (xs : Chars) {ys : Chars} (hy : ys ≠ []) :
    endsInWord (xs ++ ys) = endsInWord ys := by
  rw [endsInWord, endsInWord, getLast?_append_of_ne_nil xs hy]

/-- `f` keeps texts from growing together: what it makes of a text is not empty, and has a word
    at an end only where the text has one. A character of no word stays as it is. -/
structure Fits (f : Chars → Chars) : Prop where
  other : ∀ {c}, isWord c = false → f [c] = [c]
  ne_nil : ∀ {cs}, cs ≠ [] → f cs ≠ []
  starts : ∀ {cs}, cs ≠ [] → startsWord (f cs) → startsWord cs
  ends : ∀ {cs}, cs ≠ [] → endsInWord (f cs) → endsInWord cs

structure Runwise (f : Chars → Chars) : Prop extends Fits f where
  append : ∀ {xs ys}, Apart xs ys → f (xs ++ ys) = f xs ++ f ys

namespace Runwise

variable {f g : Chars → Chars}

lemma nil (hf : Runwise f) : f [] = [] := by
  have h : f ([] ++ []) = f [] ++ f [] := hf.append (.inl rfl)
  have := congrArg length h
  simpa using this

lemma apart (hf : Runwise f) {xs ys : Chars} (h : Apart xs ys) : Apart (f xs) (f ys) := by
  rcases eq_or_ne xs [] with rfl | hx
  · exact .inl (by rw [hf.nil]; rfl)
  rcases eq_or_ne ys [] with rfl | hy
  · exact .inr (by rw [hf.nil]; rfl)
  rcases h with h | h
  · exact .inl (Bool.eq_false_iff.2 fun he => by simp [hf.ends hx he] at h)
  · exact .inr (Bool.eq_false_iff.2 fun hs => by simp [hf.starts hy hs] at h)

lemma cons_other (hf : Runwise f) {c : Char} (hc : isWord c = false) (cs : Chars) :
    f (c :: cs) = c :: f cs := by
  have h : f ([c] ++ cs) = f [c] ++ f cs := hf.append (.inl (by simp [endsInWord, hc]))
  rw [hf.other hc] at h
  exact h

lemma append_other (hf : Runwise f) {c : Char} (hc : isWord c = false) (cs : Chars) :
    f (cs ++ [c]) = f cs ++ [c] := by
  rw [hf.append (.inr (by simp [startsWord, hc])), hf.other hc]

lemma bracketed (hf : Runwise f) (m : Chars) :
    f ('(' :: m ++ [')']) = '(' :: f m ++ [')'] := by
  rw [cons_append, hf.cons_other (by decide), hf.append_other (by decide), cons_append]

lemma comp (hg : Runwise g) (hf : Runwise f) : Runwise fun cs => g (f cs) where
  other hc := by rw [hf.other hc, hg.other hc]
  ne_nil h := hg.ne_nil (hf.ne_nil h)
  starts h hs := hf.starts h (hg.starts (hf.ne_nil h) hs)
  ends h he := hf.ends h (hg.ends (hf.ne_nil h) he)
  append h := by rw [hf.append h, hg.append (hf.apart h)]

lemma eq_flatMap (hf : Runwise f) (cs : Chars) : f cs = (runs cs).flatMap f := by
  induction cs using run_induction with
  | nil => simp [hf.nil]
  | other c cs hc ih =>
    rw [runs_cons_of_not_isWord hc, flatMap_cons, ← ih, hf.other hc, hf.cons_other hc,
      singleton_append]
  | word r cs hr hw hs ih =>
    rw [runs_append (.inr hs), runs_word hr hw, hf.append (.inr hs), flatMap_append, ← ih]
    simp

end Runwise

def onRuns (g : Chars → Chars) (cs : Chars) : Chars := (runs cs).flatMap g

lemma onRuns_word_append (g : Chars → Chars) (hr : r ≠ []) (hw : ∀ c ∈ r, isWord c)
    (hs : startsWord cs = false) : onRuns g (r ++ cs) = g r ++ onRuns g cs := by
  rw [onRuns, runs_append (.inr hs), runs_word hr hw, singleton_append, flatMap_cons, onRuns]

lemma onRuns_cons_of_not_isWord (g : Chars → Chars) (hc : isWord c = false)
    (cs : Chars) : onRuns g (c :: cs) = g [c] ++ onRuns g cs := by
  rw [onRuns, runs_cons_of_not_isWord hc, flatMap_cons, onRuns]

lemma runwise_onRuns {g : Chars → Chars} (hg : Fits g) : Runwise (onRuns g) where
  other {c} hc := by
    rw [onRuns_cons_of_not_isWord _ hc, hg.other hc]
    simp [onRuns]
  ne_nil {cs} h := by
    obtain ⟨r, rs, hr⟩ := exists_cons_of_ne_nil (runs_ne_nil h)
    have hr' : r ≠ [] := ne_nil_of_mem_runs (hr ▸ mem_cons_self : r ∈ runs cs)
    rw [onRuns, hr, flatMap_cons]
    exact append_ne_nil_of_left_ne_nil (hg.ne_nil hr') _
  starts {cs} h hs := by
    obtain ⟨r, rs, hr⟩ := exists_cons_of_ne_nil (runs_ne_nil h)
    have hr' : r ≠ [] := ne_nil_of_mem_runs (hr ▸ mem_cons_self : r ∈ runs cs)
    rw [onRuns, hr, flatMap_cons, startsWord_append (hg.ne_nil hr')] at hs
    rw [← flatten_runs cs, hr, flatten_cons, startsWord_append hr']
    exact hg.starts hr' hs
  ends {cs} h he := by
    obtain ⟨rs, r, hr⟩ := (eq_nil_or_concat (runs cs)).resolve_left (runs_ne_nil h)
    rw [concat_eq_append] at hr
    have hr' : r ≠ [] := ne_nil_of_mem_runs (hr ▸ mem_append_right rs (by simp) : r ∈ runs cs)
    rw [onRuns, hr, flatMap_append, flatMap_singleton, endsInWord_append _ (hg.ne_nil hr')] at he
    rw [← flatten_runs cs, hr, flatten_append, flatten_singleton, endsInWord_append _ hr']
    exact hg.ends hr' he
  append h := by rw [onRuns, runs_append h, flatMap_append, onRuns, onRuns]

/-! ## Rules that take whole words -/

lemma rewriteFrom_length (rule : Rule) (swap : Chars → Chars) (before : Option Char)
    (xs rest : Chars) : rewriteFrom rule swap xs.length before (xs ++ rest) =
      rewriteFrom rule swap 0 (lastOr before xs) rest := by
  induction xs generalizing before with
  | nil => simp [lastOr]
  | cons x xs ih =>
    rw [length_cons, cons_append, rewriteFrom, ih]
    cases hx : xs.getLast? <;> simp [lastOr, getLast?_cons, hx]

/-- `rule` takes whole words: where a run of word characters starts, the run if `p` holds of it,
    and nothing elsewhere. -/
structure WordRule (rule : Rule) (p : Chars → Bool) : Prop where
  nil : ∀ before, rule before [] = none
  other : ∀ before {c} cs, isWord c = false → rule before (c :: cs) = none
  inside : ∀ {b c} cs, isWord b → isWord c → rule (some b) (c :: cs) = none
  word : ∀ {before r rest}, before.any isWord = false → r ≠ [] → (∀ c ∈ r, isWord c) →
    startsWord rest = false → rule before (r ++ rest) = if p r then some r.length else none
  isWord : ∀ {r}, p r → ∀ c ∈ r, isWord c

namespace WordRule

variable {rule : Rule} {p : Chars → Bool} {swap : Chars → Chars}

lemma rewriteFrom_inside (h : WordRule rule p) {b : Char} (hb : Text.isWord b) {xs : Chars}
    (hx : ∀ c ∈ xs, Text.isWord c) (rest : Chars) :
    rewriteFrom rule swap 0 (some b) (xs ++ rest) =
      xs ++ rewriteFrom rule swap 0 (lastOr (some b) xs) rest := by
  induction xs generalizing b with
  | nil => simp [lastOr]
  | cons x xs ih =>
    have hw : Text.isWord x := hx x mem_cons_self
    rw [cons_append, rewriteFrom, h.inside _ hb hw]
    rw [ih hw fun c hc => hx c (mem_cons_of_mem x hc)]
    cases he : xs.getLast? <;> simp [lastOr, getLast?_cons, he]

lemma rewriteFrom_word (h : WordRule rule p) {before : Option Char}
    (hb : before.any Text.isWord = false) {r rest : Chars} (hr : r ≠ [])
    (hw : ∀ c ∈ r, Text.isWord c) (hs : startsWord rest = false) :
    rewriteFrom rule swap 0 before (r ++ rest) =
      (if p r then swap r else r) ++ rewriteFrom rule swap 0 r.getLast? rest := by
  have hrule := h.word hb hr hw hs
  cases r with
  | nil => exact absurd rfl hr
  | cons x xs =>
    have hlast : (x :: xs).getLast? = lastOr (some x) xs := by
      cases he : xs.getLast? <;> simp [lastOr, getLast?_cons, he]
    rw [cons_append] at hrule ⊢
    cases hp : p (x :: xs) with
    | true =>
      rw [hp, if_pos rfl, length_cons] at hrule
      rw [rewriteFrom, hrule]
      simp only [take_left, if_true]
      rw [rewriteFrom_length, hlast]
    | false =>
      rw [hp, if_neg Bool.false_ne_true] at hrule
      rw [rewriteFrom, hrule]
      simp only [Bool.false_eq_true, if_false]
      rw [h.rewriteFrom_inside (hw x mem_cons_self)
        fun c hc => hw c (mem_cons_of_mem x hc), hlast, cons_append]

lemma rewriteFrom_eq (h : WordRule rule p) {before : Option Char} {cs : Chars}
    (hb : before.any Text.isWord = false ∨ startsWord cs = false) :
    rewriteFrom rule swap 0 before cs = onRuns (fun r => if p r then swap r else r) cs := by
  induction cs using run_induction generalizing before with
  | nil => simp [rewriteFrom, h.nil, onRuns]
  | other c cs hc ih =>
    have hp : p [c] = false := Bool.eq_false_iff.2 fun hp => by
      simp [h.isWord hp c mem_cons_self] at hc
    have hbefore : (some c).any Text.isWord = false := hc
    rw [rewriteFrom, h.other _ _ hc, onRuns_cons_of_not_isWord _ hc]
    simp [hp, ih (.inl hbefore)]
  | word r cs hr hw hs ih =>
    have hb : before.any Text.isWord = false := by
      refine hb.resolve_right fun hstart => ?_
      obtain ⟨c, r, rfl⟩ := exists_cons_of_ne_nil hr
      simp [startsWord, hw c] at hstart
    rw [h.rewriteFrom_word hb hr hw hs, ih (.inr hs), onRuns_word_append _ hr hw hs]

lemma rewrite_eq (h : WordRule rule p) (cs : Chars) :
    rewrite rule swap cs = onRuns (fun r => if p r then swap r else r) cs :=
  h.rewriteFrom_eq (.inl rfl)

lemma runwise_rewrite (h : WordRule rule p) (hswap : ∀ r, p r → swap r ≠ []) :
    Runwise (rewrite rule swap) := by
  have hp : ∀ {c}, Text.isWord c = false → p [c] = false := fun {c} hc =>
    Bool.eq_false_iff.2 fun hp => by simp [h.isWord hp c mem_cons_self] at hc
  rw [show rewrite rule swap = onRuns fun r => if p r then swap r else r from funext h.rewrite_eq]
  refine runwise_onRuns ⟨fun hc => by simp [hp hc], fun {r} hr => ?_, fun {r} hr hs => ?_,
    fun {r} hr he => ?_⟩
  · split
    · exact hswap r ‹_›
    · exact hr
  · split at hs
    · obtain ⟨c, r, rfl⟩ := exists_cons_of_ne_nil hr
      simpa [startsWord] using h.isWord ‹_› c mem_cons_self
    · exact hs
  · split at he
    · rw [endsInWord, getLast?_eq_some_getLast hr]
      simpa using h.isWord ‹_› _ (getLast_mem hr)
    · exact he

lemma of_drop {w : Chars} {drop : Chars → Option Chars}
    (hrule : ∀ before cs, rule before cs =
      if isBoundary before cs.head? then
        match drop cs with
        | some rest => if isBoundary (lastOr before w) rest.head? then some w.length else none
        | none => none
      else none)
    (hne : w ≠ []) (hw : ∀ c ∈ w, Text.isWord c)
    (hdrop : ∀ cs rest, drop cs = some rest ↔ ∃ u, cs = u ++ rest ∧ p u)
    (hp : ∀ u, p u → u.length = w.length ∧ ∀ c ∈ u, Text.isWord c) : WordRule rule p := by
  have hu : ∀ {u}, p u → u ≠ [] := fun {u} h e => hne (eq_nil_of_length_eq_zero (by
    rw [← (hp u h).1, e, length_nil]))
  have hlast : ∀ before, (lastOr before w).any Text.isWord = true := fun before => by
    rw [lastOr, getLast?_eq_some_getLast hne]
    simpa using hw _ (getLast_mem hne)
  have none_of : ∀ before cs, (∀ rest, drop cs ≠ some rest) → rule before cs = none :=
    fun before cs h => by
      rw [hrule, Option.eq_none_iff_forall_ne_some.2 h]
      simp
  refine ⟨fun before => none_of _ _ fun rest h => ?_, fun before c cs hc => none_of _ _ fun rest h => ?_,
    fun {b c} cs hb hc => ?_, fun {before r rest} hb hr hwr hs => ?_, fun h => (hp _ h).2⟩
  · obtain ⟨u, he, h⟩ := (hdrop _ _).1 h
    exact hu h (append_eq_nil_iff.1 he.symm).1
  · obtain ⟨u, he, h⟩ := (hdrop _ _).1 h
    obtain ⟨d, u, rfl⟩ := exists_cons_of_ne_nil (hu h)
    obtain ⟨rfl, -⟩ := cons.inj he
    simp [(hp _ h).2 c mem_cons_self] at hc
  · simp [hrule, isBoundary, hb, hc]
  · have hstart : isBoundary before (r ++ rest).head? = true := by
      obtain ⟨c, r, rfl⟩ := exists_cons_of_ne_nil hr
      simp [isBoundary, hb, hwr c]
    rw [hrule, if_pos hstart]
    cases hpr : p r with
    | true =>
      have hend : isBoundary (lastOr before w) rest.head? = true := by
        rw [isBoundary, hlast, show rest.head?.any Text.isWord = false from hs]
        rfl
      rw [(hdrop _ _).2 ⟨r, rfl, hpr⟩]
      simp [hend, (hp r hpr).1]
    | false =>
      cases hd : drop (r ++ rest) with
      | none => rfl
      | some rest' =>
        -- What was read is a proper part of the word at its start, so the word goes on.
        obtain ⟨u, he, h⟩ := (hdrop _ _).1 hd
        have hgo : rest'.head?.any Text.isWord = true := by
          rcases append_eq_append_iff.1 he with ⟨v, hv, hrest⟩ | ⟨v, hv, hrest⟩
          · cases v with
            | nil => simp_all
            | cons c v =>
              have hc : Text.isWord c := (hp u h).2 c (by simp [hv])
              simp [hrest, startsWord, hc] at hs
          · cases v with
            | nil => simp_all
            | cons c v => simp [hrest, hwr c (by simp [hv])]
        simp [isBoundary, hlast, hgo]

end WordRule

lemma dropStart?_eq_some : dropStart? w cs = some rest ↔ cs = w ++ rest := by
  fun_induction dropStart? w cs with
  | case1 cs => simp [eq_comm]
  | case2 w ws => simp
  | case3 w ws c cs h ih =>
    obtain rfl : w = c := by simpa using h
    rw [ih]
    simp
  | case4 w ws c cs h =>
    have hc : c ≠ w := fun e => h (by simp [e])
    simp [hc]

lemma wordRule_isWordRule (hne : w ≠ []) (hw : ∀ c ∈ w, isWord c) :
    WordRule (wordRule w) (· == w) := by
  refine WordRule.of_drop (fun _ _ => rfl) hne hw (fun cs rest => ?_) fun u hu => ?_
  · simp [dropStart?_eq_some]
  · obtain rfl : u = w := by simpa using hu
    exact ⟨rfl, hw⟩

lemma wordRule_eq_some :
    wordRule w before cs = some n ↔ n = w.length ∧ isBoundary before cs.head? ∧
      ∃ rest, cs = w ++ rest ∧ isBoundary (lastOr before w) rest.head? := by
  unfold wordRule
  cases hb : isBoundary before cs.head? with
  | false => simp
  | true =>
    cases hd : dropStart? w cs with
    | none =>
      refine iff_of_false (by simp) ?_
      rintro ⟨-, -, rest, he, -⟩
      simp [dropStart?_eq_some.2 he] at hd
    | some rest =>
      obtain rfl := dropStart?_eq_some.1 hd
      simp only [if_true, true_and, append_cancel_left_eq, exists_eq_left']
      cases isBoundary (lastOr before w) rest.head? with
      | false => simp
      | true => simp only [if_true, Option.some.injEq, and_true, eq_comm]

lemma take_of_wordRule (h : wordRule w before cs = some n) : cs.take n = w := by
  obtain ⟨rfl, -, rest, rfl, -⟩ := wordRule_eq_some.1 h
  exact take_left

lemma rewriteFrom_wordRule_congr {swap swap' : Chars → Chars} (h : swap w = swap' w)
    (skip : Nat) (before : Option Char) (cs : Chars) :
    rewriteFrom (wordRule w) swap skip before cs = rewriteFrom (wordRule w) swap' skip before cs := by
  induction cs generalizing skip before with
  | nil =>
    cases hr : wordRule w before [] with
    | none => cases skip <;> simp [rewriteFrom, hr]
    | some n =>
      obtain rfl : [] = w := by simpa using take_of_wordRule hr
      cases skip <;> simp [rewriteFrom, hr, h]
  | cons c cs ih =>
    cases skip with
    | succ skip => exact ih skip (some c)
    | zero =>
      rw [rewriteFrom, rewriteFrom]
      cases hr : wordRule w before (c :: cs) with
      | none => simp only [ih]
      | some n =>
        have htake := take_of_wordRule hr
        cases n with
        | zero =>
          obtain rfl : [] = w := by simpa using htake
          simp only [h, ih]
        | succ n =>
          rw [take_succ_cons] at htake
          simp only [htake, h, ih]

lemma isWord_of_toLower (h : isWord c.toLower) : isWord c := by
  unfold Char.toLower at h
  split at h
  · rename_i hc
    have hupper : c.isUpper = true := by simpa [Char.isUpper] using hc
    have hsmall : c.toNat < 128 := lt_of_le_of_lt (b := 90) (UInt32.le_iff_toNat_le.1 hc.2) (by decide)
    simp [isWord, hsmall, Char.isAlphanum, Char.isAlpha, hupper]
  · exact h

def foldsPlainly (w : Char) : Bool := w != 'k' && w != 's' && w != 'i'

lemma equalsFold_eq {w : Char} (hw : foldsPlainly w) : equalsFold w c = (c.toLower == w) := by
  simp only [foldsPlainly, Bool.and_eq_true, bne_iff_ne] at hw
  obtain ⟨⟨hk, hs⟩, hi⟩ := hw
  simp [equalsFold, beq_false_of_ne hk, beq_false_of_ne hs, beq_false_of_ne hi]

lemma dropFold?_eq_some (hw : ∀ c ∈ w, foldsPlainly c) :
    dropFold? w cs = some rest ↔ ∃ u, cs = u ++ rest ∧ u.map Char.toLower = w := by
  fun_induction dropFold? w cs with
  | case1 cs => simp [eq_comm]
  | case2 w ws =>
    refine iff_of_false (by simp) ?_
    rintro ⟨u, he, hu⟩
    simp [(append_eq_nil_iff.1 he.symm).1] at hu
  | case3 w ws c cs h ih =>
    rw [equalsFold_eq (hw w mem_cons_self), beq_iff_eq] at h
    rw [ih fun c hc => hw c (mem_cons_of_mem w hc)]
    constructor
    · rintro ⟨u, rfl, rfl⟩
      exact ⟨c :: u, by simp, by simp [h]⟩
    · rintro ⟨u, he, hu⟩
      cases u with
      | nil => simp at hu
      | cons d u =>
        obtain ⟨rfl, rfl⟩ := cons.inj he
        exact ⟨u, rfl, (cons.inj hu).2⟩
  | case4 w ws c cs h =>
    rw [equalsFold_eq (hw w mem_cons_self), beq_iff_eq] at h
    refine iff_of_false (by simp) ?_
    rintro ⟨u, he, hu⟩
    cases u with
    | nil => simp at hu
    | cons d u =>
      obtain ⟨rfl, -⟩ := cons.inj he
      exact h (cons.inj hu).1

lemma foldRule_isWordRule (hne : w ≠ []) (hw : ∀ c ∈ w, isWord c)
    (hplain : ∀ c ∈ w, foldsPlainly c) : WordRule (foldRule w) (·.map Char.toLower == w) := by
  refine WordRule.of_drop (fun _ _ => rfl) hne hw (fun cs rest => ?_) fun u hu => ?_
  · simp [dropFold?_eq_some hplain]
  · obtain rfl : u.map Char.toLower = w := by simpa using hu
    refine ⟨by simp, fun c hc => isWord_of_toLower (hw _ (mem_map_of_mem hc))⟩

end Huntbook.Text
