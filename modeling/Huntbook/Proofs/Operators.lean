import Huntbook.Search
import Huntbook.Proofs.Template

/-!
# Operators and quantifiers of conditions

The last passes over a condition write its operators in capitals and drop its quantifiers. The
passes for operators work on every run of the text by itself; those for quantifiers stop at
parentheses and after stars, so that they work on pieces that end there.
-/

namespace Huntbook

open List

namespace Text

variable {rule : Rule} {swap : Chars → Chars}

lemma rewriteFrom_blind (hblind : ∀ b cs, rule b cs = rule none cs) (skip : Nat)
    (before : Option Char) (cs : Chars) :
    rewriteFrom rule swap skip before cs = rewriteFrom rule swap skip none cs := by
  cases cs with
  | nil => cases skip <;> simp [rewriteFrom, hblind before]
  | cons c cs => cases skip <;> simp [rewriteFrom, hblind before]

lemma rewriteFrom_append (hle : ∀ b cs n, rule b cs = some n → n ≤ cs.length)
    {xs ys out : Chars} (hstop : ∀ b zs, zs ≠ [] → zs <:+ xs → rule b (zs ++ ys) = rule b zs)
    (hend : ∀ b, rewriteFrom rule swap 0 b ys = rewriteFrom rule swap 0 b [] ++ out)
    {skip : Nat} (before : Option Char) (hskip : skip ≤ xs.length) :
    rewriteFrom rule swap skip before (xs ++ ys) = rewriteFrom rule swap skip before xs ++ out := by
  induction xs generalizing skip before with
  | nil =>
    obtain rfl : skip = 0 := by simpa using hskip
    exact hend before
  | cons c xs ih =>
    have ih := @ih fun b zs hne hzs => hstop b zs hne (hzs.trans (suffix_cons c xs))
    rw [cons_append]
    cases skip with
    | succ skip => rw [rewriteFrom, rewriteFrom, ih (some c) (Nat.le_of_succ_le_succ hskip)]
    | zero =>
      rw [rewriteFrom, rewriteFrom, ← cons_append, hstop _ _ (cons_ne_nil c xs) suffix_rfl]
      cases hr : rule before (c :: xs) with
      | none => simp [ih (some c) (Nat.zero_le _)]
      | some n =>
        cases n with
        | zero => simp [ih (some c) (Nat.zero_le _)]
        | succ n =>
          have hn : n ≤ xs.length := Nat.le_of_succ_le_succ (hle _ _ _ hr)
          simp [ih (some c) hn, take_append_of_le_length hn]

end Text

namespace Search

open Text

/-! ## Operators -/

def operators : List Chars := ["and".toList, "or".toList, "not".toList]

def isOperator (r : Chars) : Bool := operators.contains (r.map Char.toLower)

def capitals (r : Chars) : Chars := if isOperator r then r.map Char.toUpper else r

variable {r : Chars}

lemma isOperator_iff : isOperator r ↔ r.map Char.toLower ∈ operators := by
  simp [isOperator]

lemma map_toUpper_map_toLower (r : Chars) :
    (r.map Char.toLower).map Char.toUpper = r.map Char.toUpper := by
  simp [Char.toUpper_toLower_eq_toUpper]

lemma map_toUpper_of_noLower (h : ∀ c ∈ r, ¬c.isLower) : r.map Char.toUpper = r := by
  exact (map_congr_left fun c hc => Char.toUpper_eq_of_not_isLower (h c hc)).trans
    (map_id r)

lemma shrinks_capitals : Shrinks capitals := by
  intro r
  unfold capitals
  split
  · rename_i hop
    rw [isOperator_iff] at hop
    by_cases hlow : ∀ c ∈ r, ¬c.isLower
    · exact .inl (map_toUpper_of_noLower hlow)
    · -- Neither in the operator nor in its capitals is there a parenthesis or a backslash.
      have hno : ∀ d : Char, d.toLower = d → (∀ w ∈ operators, d ∉ w) → r.count d = 0 :=
        fun d hd hw => count_eq_zero.2 fun hmem =>
          hw _ hop (by simpa [hd] using mem_map_of_mem (f := Char.toLower) hmem)
      have hno' : ∀ d : Char, (∀ w ∈ operators, d ∉ w.map Char.toUpper) →
          (r.map Char.toUpper).count d = 0 := fun d hw => count_eq_zero.2 fun hmem =>
        hw _ hop (by rwa [map_toUpper_map_toLower])
      have hupper : (r.map Char.toUpper).countP Char.isLower = 0 := by
        simp [countP_eq_zero, Char.isLower_toUpper_eq_false]
      have hlower : 0 < r.countP Char.isLower := by
        simpa using hlow
      refine .inr (weight_lt_iff.2 (.inr ⟨?_, .inr ⟨?_, .inr ⟨by simp, by omega⟩⟩⟩))
      · rw [hno '(' (by decide) (by decide), hno' '(' (by decide)]
      · rw [hno '\\' (by decide) (by decide), hno' '\\' (by decide)]
  · exact .inl rfl

def capitalPass (w upper : String) (cs : Chars) : Chars :=
  rewrite (foldRule w.toList) (fun _ => upper.toList) cs

lemma capitalise_eq_passes (cs : Chars) : capitalise cs =
    capitalPass "not" "NOT" (capitalPass "or" "OR" (capitalPass "and" "AND" cs)) :=
  rfl

section

variable {w upper : String} (hw : w.toList ∈ operators)
include hw

lemma foldRule_operator : WordRule (foldRule w.toList) (·.map Char.toLower == w.toList) := by
  have hall : ∀ w ∈ operators, w ≠ [] ∧ (∀ c ∈ w, isWord c) ∧ ∀ c ∈ w, foldsPlainly c := by decide
  obtain ⟨hne, hword, hplain⟩ := hall _ hw
  exact foldRule_isWordRule hne hword hplain

lemma runwise_capitalPass (hu : upper.toList ≠ []) : Runwise (capitalPass w upper) :=
  (foldRule_operator hw).runwise_rewrite fun _ _ => hu

lemma capitalPass_run {r : Chars} (hr : runs r = [r]) :
    capitalPass w upper r = if r.map Char.toLower = w.toList then upper.toList else r := by
  rw [capitalPass, (foldRule_operator hw).rewrite_eq, onRuns, hr]
  simp

end

lemma runwise_capitalise : Runwise capitalise :=
  (runwise_capitalPass (w := "not") (by decide) (by decide)).comp
    ((runwise_capitalPass (w := "or") (by decide) (by decide)).comp
      (runwise_capitalPass (w := "and") (by decide) (by decide)))

lemma capitalise_run (hr : runs r = [r]) : capitalise r = capitals r := by
  have hcaps : ∀ w ∈ operators, r.map Char.toLower = w → capitals r = w.map Char.toUpper := by
    rintro w hw rfl
    rw [capitals, if_pos (isOperator_iff.2 hw), map_toUpper_map_toLower]
  rw [capitalise_eq_passes, capitalPass_run (by decide) hr]
  by_cases hand : r.map Char.toLower = "and".toList
  · rw [if_pos hand, hcaps _ (by decide) hand]
    rfl
  rw [if_neg hand, capitalPass_run (by decide) hr]
  by_cases hor : r.map Char.toLower = "or".toList
  · rw [if_pos hor, hcaps _ (by decide) hor]
    rfl
  rw [if_neg hor, capitalPass_run (by decide) hr]
  by_cases hnot : r.map Char.toLower = "not".toList
  · rw [if_pos hnot, hcaps _ (by decide) hnot]
    rfl
  · have hno : isOperator r = false := by
      rw [Bool.eq_false_iff, Ne, isOperator_iff]
      simp only [operators, mem_cons, hand, hor, hnot, not_mem_nil, or_self, not_false_eq_true]
    rw [if_neg hnot, capitals, hno]
    rfl

lemma capitalise_eq (cs : Chars) : capitalise cs = onRuns capitals cs := by
  rw [runwise_capitalise.eq_flatMap, onRuns]
  exact flatMap_congr fun r hr => capitalise_run (runs_of_mem_runs hr)

lemma shrinks_capitalise : Shrinks capitalise := by
  rw [show capitalise = onRuns capitals from funext capitalise_eq]
  exact shrinks_capitals.onRuns

lemma capitalise_eq_self_iff (cs : Chars) :
    capitalise cs = cs ↔ ∀ r ∈ runs cs, isOperator r → r.map Char.toUpper = r := by
  rw [capitalise_eq, shrinks_capitals.onRuns_eq_self_iff]
  refine forall₂_congr fun r _ => ?_
  unfold capitals
  split <;> simp_all

/-! ## Quantifiers -/

section

variable {start : String}

variable {cs : Chars} {p : Char}

lemma quantifierRule_eq_some {b : Option Char} {n : Nat} :
    quantifierRule start b cs = some n ↔ ∃ w rest, w ≠ [] ∧ (∀ c ∈ w, isWord c) ∧
      cs = start.toList ++ w ++ '*' :: rest ∧ n = (start.toList ++ w ++ ['*']).length := by
  unfold quantifierRule
  constructor
  · intro h
    cases hd : dropStart? start.toList cs with
    | none => simp [hd] at h
    | some rest =>
      simp only [hd] at h
      split at h
      · rename_i hword
        simp only [Bool.and_eq_true, Bool.not_eq_true', isEmpty_eq_false_iff, beq_iff_eq]
          at hword
        obtain ⟨hne, hstar⟩ := hword
        obtain ⟨more, hmore⟩ := head?_eq_some_iff.1 hstar
        refine ⟨rest.takeWhile isWord, more, hne, fun c hc => mem_takeWhile_imp hc, ?_, ?_⟩
        · rw [dropStart?_eq_some.1 hd, append_assoc, ← hmore,
            prefix_iff_eq_append.1 (List.takeWhile_prefix isWord)]
        · obtain rfl := Option.some.inj h
          simp only [length_append, length_singleton, String.length_toList]
      · simp at h
  · rintro ⟨w, rest, hne, hw, rfl, rfl⟩
    have hd : dropStart? start.toList (start.toList ++ w ++ '*' :: rest) =
        some (w ++ '*' :: rest) := by
      simp [dropStart?_eq_some]
    have htake : (w ++ '*' :: rest).takeWhile isWord = w := by
      rw [takeWhile_append_of_pos hw, takeWhile_cons_of_neg (by decide), append_nil]
    rw [hd]
    simp only [htake, drop_left, head?_cons]
    rw [if_pos (by simp [hne])]
    simp only [length_append, length_singleton, String.length_toList]

lemma quantifierRule_nil (b : Option Char) : quantifierRule start b [] = none := by
  rw [Option.eq_none_iff_forall_ne_some]
  intro n hn
  obtain ⟨w, rest, -, -, he, -⟩ := quantifierRule_eq_some.1 hn
  simp at he

def bracketWord (start : String) (found : Chars) : Chars :=
  '(' :: (found.drop start.length).dropLast ++ [')']

lemma lightens_quantifierRule (hstart : '(' ∉ start.toList) :
    Lightens (quantifierRule start) (bracketWord start) where
  nil := quantifierRule_nil
  pos b cs h := by
    obtain ⟨w, rest, -, -, -, hn⟩ := quantifierRule_eq_some.1 h
    simp at hn
  lt b c cs n h := by
    obtain ⟨w, rest, -, hw, he, hn⟩ := quantifierRule_eq_some.1 h
    have hplace : c :: cs.take n = start.toList ++ w ++ ['*'] := by
      have hcs : c :: cs = (start.toList ++ w ++ ['*']) ++ rest := by simp [he]
      rw [← take_succ_cons, hcs, hn, take_left]
    have hparen : '(' ∉ start.toList ++ w ++ ['*'] := by
      have : '(' ∉ w := fun hmem => absurd (hw _ hmem) (by decide)
      simp [hstart, this]
    rw [hplace, weight_lt_iff, count_eq_zero.2 hparen]
    exact .inl (by simp [bracketWord])
  blind b cs := rfl

lemma shrinks_dropQuantifier (hstart : '(' ∉ start.toList) : Shrinks (dropQuantifier start) :=
  (lightens_quantifierRule hstart).shrinks

lemma dropQuantifier_eq_self_iff (hstart : '(' ∉ start.toList) (cs : Chars) :
    dropQuantifier start cs = cs ↔
      ∀ w, w ≠ [] → (∀ c ∈ w, isWord c) → ¬ start.toList ++ w ++ ['*'] <:+: cs := by
  refine ((lightens_quantifierRule hstart).rewrite_eq_self_iff cs).trans ⟨?_, ?_⟩
  · rintro h w hne hw ⟨before, rest, rfl⟩
    have hplace := h (start.toList ++ w ++ '*' :: rest) ⟨before, by simp⟩
    have hsome : quantifierRule start none (start.toList ++ w ++ '*' :: rest) = some _ :=
      quantifierRule_eq_some.2 ⟨w, rest, hne, hw, rfl, rfl⟩
    exact Option.some_ne_none _ (hsome.symm.trans hplace)
  · rintro h suf hsuf
    rw [Option.eq_none_iff_forall_ne_some]
    intro n hn
    obtain ⟨w, rest, hne, hw, rfl, -⟩ := quantifierRule_eq_some.1 hn
    refine h w hne hw (List.IsInfix.trans ⟨[], rest, by simp⟩ hsuf.isInfix)

lemma dropQuantifier_of_noStar (hstart : '(' ∉ start.toList) {cs : Chars} (h : '*' ∉ cs) :
    dropQuantifier start cs = cs := by
  rw [dropQuantifier_eq_self_iff hstart]
  rintro w - - ⟨before, rest, rfl⟩
  simp at h

lemma quantifierRule_append (hp : p ∉ start.toList) (hw : isWord p = false)
    (hs : p ≠ '*') (b : Option Char) (xs ys : Chars) :
    quantifierRule start b (xs ++ p :: ys) = quantifierRule start b xs := by
  refine Option.ext fun n => ?_
  rw [quantifierRule_eq_some, quantifierRule_eq_some]
  constructor
  · rintro ⟨w, rest, hne, hword, he, hn⟩
    have hplace : p ∉ start.toList ++ w ++ ['*'] := by
      have : p ∉ w := fun hmem => by simp [hword p hmem] at hw
      simp [hp, this, hs]
    have he' : xs ++ p :: ys = (start.toList ++ w ++ ['*']) ++ rest := by simp [he]
    -- The place ends before `p`, as `p` is not in it.
    rcases append_eq_append_iff.1 he' with ⟨v, hv, hrest⟩ | ⟨v, hv, hrest⟩
    · cases v with
      | nil => exact ⟨w, [], hne, hword, by simpa using hv.symm, hn⟩
      | cons d v =>
        obtain ⟨rfl, -⟩ := cons.inj hrest
        exact absurd (by simp [hv]) hplace
    · exact ⟨w, v, hne, hword, by simp [hv], hn⟩
  · rintro ⟨w, rest, hne, hword, rfl, hn⟩
    exact ⟨w, rest ++ p :: ys, hne, hword, by simp, hn⟩

lemma dropQuantifier_cons {c : Char} (h : quantifierRule start none (c :: cs) = none) :
    dropQuantifier start (c :: cs) = c :: dropQuantifier start cs := by
  rw [dropQuantifier, rewrite, rewriteFrom, h]
  simp only [cons.injEq, true_and]
  exact rewriteFrom_blind (fun _ _ => rfl) 0 (some c) cs

lemma dropQuantifier_append {xs ys : Chars} (h : ∀ b zs, zs ≠ [] → zs <:+ xs →
      quantifierRule start b (zs ++ ys) = quantifierRule start b zs) :
    dropQuantifier start (xs ++ ys) = dropQuantifier start xs ++ dropQuantifier start ys := by
  refine rewriteFrom_append (fun b cs n hn => ?_) h (fun b => ?_) none (Nat.zero_le _)
  · obtain ⟨w, rest, -, -, rfl, rfl⟩ := quantifierRule_eq_some.1 hn
    simp
  · rw [rewriteFrom_blind (fun _ _ => rfl), rewriteFrom, quantifierRule_nil]
    rfl

lemma dropQuantifier_append_cons (hp : p ∉ start.toList) (hw : isWord p = false)
    (hs : p ≠ '*') (xs ys : Chars) : dropQuantifier start (xs ++ p :: ys) =
      dropQuantifier start xs ++ p :: dropQuantifier start ys := by
  have hnone : quantifierRule start none (p :: ys) = none :=
    (quantifierRule_append hp hw hs none [] ys).trans (quantifierRule_nil none)
  rw [dropQuantifier_append fun b zs _ _ => quantifierRule_append hp hw hs b zs ys,
    dropQuantifier_cons hnone]

lemma quantifierRule_append_star (hstart : '*' ∉ start.toList) (b : Option Char)
    (xs ys : Chars) :
    quantifierRule start b (xs ++ ['*'] ++ ys) = quantifierRule start b (xs ++ ['*']) := by
  refine Option.ext fun n => ?_
  rw [quantifierRule_eq_some, quantifierRule_eq_some]
  constructor
  · rintro ⟨w, rest, hne, hword, he, hn⟩
    have hstar : '*' ∉ start.toList ++ w := by
      have : '*' ∉ w := fun hmem => absurd (hword _ hmem) (by decide)
      simp [hstart, this]
    have he' : xs ++ ['*'] ++ ys = start.toList ++ w ++ ['*'] ++ rest := by simp [he]
    rcases append_eq_append_iff.1 he' with ⟨v, hv, -⟩ | ⟨v, hv, -⟩
    · -- The place would hold this star, and another one at its end.
      rcases eq_nil_or_concat v with rfl | ⟨v, c, rfl⟩
      · exact ⟨w, [], hne, hword, by simpa using hv.symm, hn⟩
      · rw [concat_eq_append, ← append_assoc] at hv
        have hplace := append_inj_left' hv rfl
        exact absurd (by simp [hplace]) hstar
    · exact ⟨w, v, hne, hword, by simp [hv], hn⟩
  · rintro ⟨w, rest, hne, hword, he, hn⟩
    exact ⟨w, rest ++ ys, hne, hword, by simp [he], hn⟩

lemma dropQuantifier_append_star (hstart : '*' ∉ start.toList) (xs ys : Chars) :
    dropQuantifier start (xs ++ ['*'] ++ ys) =
      dropQuantifier start (xs ++ ['*']) ++ dropQuantifier start ys := by
  refine dropQuantifier_append fun b zs hne hzs => ?_
  rcases suffix_concat_iff.1 hzs with rfl | ⟨zs, rfl, -⟩
  · exact absurd rfl hne
  · exact quantifierRule_append_star hstart b zs ys

/-- A piece of a text in which quantifiers are dropped whatever stands around it, as long as no
    star comes before it. -/
def Alone (start : String) (u : Chars) : Prop :=
  ∀ seen rest, '*' ∉ seen → dropQuantifier start (seen ++ (u ++ rest)) =
    seen ++ (dropQuantifier start u ++ dropQuantifier start rest)

lemma dropQuantifier_flatten (hopen : '(' ∉ start.toList) {us : List Chars}
    (h : ∀ u ∈ us, '*' ∉ u ∨ Alone start u) :
    dropQuantifier start us.flatten = (us.map (dropQuantifier start)).flatten := by
  -- What has been read since the last piece that stands alone goes along, as a quantifier may
  -- start there.
  suffices hsuff : ∀ seen, '*' ∉ seen → dropQuantifier start (seen ++ us.flatten) =
      seen ++ (us.map (dropQuantifier start)).flatten from hsuff [] (by simp)
  induction us with
  | nil =>
    intro seen hseen
    simpa using dropQuantifier_of_noStar hopen hseen
  | cons u us ih =>
    obtain ⟨hu, hus⟩ := forall_mem_cons.1 h
    intro seen hseen
    rw [flatten_cons, map_cons, flatten_cons]
    rcases hu with hu | hu
    · have := ih hus (seen ++ u) (by simp [hseen, hu])
      rw [dropQuantifier_of_noStar hopen hu, ← append_assoc, ← append_assoc, this]
    · have hrest : dropQuantifier start us.flatten = (us.map (dropQuantifier start)).flatten :=
        ih hus [] (by simp)
      rw [hu seen us.flatten hseen, hrest]

end

/-- A piece of a condition in which quantifiers are dropped whatever stands around it: a text
    without a star, or a text between parentheses. -/
def Closed (u : Chars) : Prop := '*' ∉ u ∨ ∃ m, u = '(' :: m ++ [')']

section

variable {start : String} (hopen : '(' ∉ start.toList) (hclose : ')' ∉ start.toList)
include hopen hclose

lemma dropQuantifier_bracketed (m : Chars) :
    dropQuantifier start ('(' :: m ++ [')']) = '(' :: dropQuantifier start m ++ [')'] := by
  have hnil : dropQuantifier start [] = [] := dropQuantifier_of_noStar hopen (by simp)
  have h := dropQuantifier_append_cons hopen (by decide) (by decide) [] (m ++ [')'])
  rw [dropQuantifier_append_cons hclose (by decide) (by decide) m [], hnil] at h
  exact h

lemma closed_dropQuantifier {u : Chars} (h : Closed u) : Closed (dropQuantifier start u) := by
  rcases h with h | ⟨m, rfl⟩
  · rw [dropQuantifier_of_noStar hopen h]
    exact .inl h
  · exact .inr ⟨_, dropQuantifier_bracketed hopen hclose m⟩

lemma Closed.alone {u : Chars} (h : Closed u) : '*' ∉ u ∨ Alone start u := by
  refine h.imp_right ?_
  rintro ⟨m, rfl⟩ seen rest hseen
  have hsplit : seen ++ ('(' :: m ++ [')'] ++ rest) = seen ++ '(' :: (m ++ ')' :: rest) := by simp
  rw [hsplit, dropQuantifier_append_cons hopen (by decide) (by decide),
    dropQuantifier_append_cons hclose (by decide) (by decide),
    dropQuantifier_of_noStar hopen hseen, dropQuantifier_bracketed hopen hclose]
  simp

end

/-! ## Finishing -/

/-- A piece of a condition that is finished by itself, whatever stands around it. -/
structure Whole (u : Chars) : Prop where
  one : '*' ∉ u ∨ Alone "1 of " u
  all : '*' ∉ dropQuantifier "1 of " u ∨ Alone "all of " (dropQuantifier "1 of " u)

lemma Closed.whole {u : Chars} (h : Closed u) : Whole u where
  one := h.alone (by decide) (by decide)
  all := (closed_dropQuantifier (by decide) (by decide) h).alone (by decide) (by decide)

lemma finish_flatten {us : List Chars} (h : ∀ u ∈ us, Whole (capitalise u))
    (hcap : capitalise us.flatten = (us.map capitalise).flatten) :
    finish us.flatten = (us.map finish).flatten := by
  have hone : ∀ u ∈ us.map capitalise, '*' ∉ u ∨ Alone "1 of " u :=
    forall_mem_map.2 fun u hu => (h u hu).one
  have hall : ∀ u ∈ (us.map capitalise).map (dropQuantifier "1 of "), '*' ∉ u ∨ Alone "all of " u :=
    forall_mem_map.2 (forall_mem_map.2 fun u hu => (h u hu).all)
  rw [finish, hcap, dropQuantifier_flatten (by decide) hone,
    dropQuantifier_flatten (by decide) hall, map_map, map_map]
  rfl

lemma shrinks_dropOne : Shrinks (dropQuantifier "1 of ") :=
  shrinks_dropQuantifier (by decide)

lemma shrinks_dropAll : Shrinks (dropQuantifier "all of ") :=
  shrinks_dropQuantifier (by decide)

lemma shrinks_finish : Shrinks finish :=
  shrinks_dropAll.comp (shrinks_dropOne.comp shrinks_capitalise)

lemma finish_eq_self_iff (cs : Chars) : finish cs = cs ↔
    (∀ r ∈ runs cs, isOperator r → r.map Char.toUpper = r) ∧
      ∀ start ∈ ["1 of ", "all of "], ∀ w, w ≠ [] → (∀ c ∈ w, isWord c) →
        ¬ start.toList ++ w ++ ['*'] <:+: cs := by
  rw [finish, shrinks_dropAll.comp_eq_self_iff (shrinks_dropOne.comp shrinks_capitalise),
    shrinks_dropOne.comp_eq_self_iff shrinks_capitalise, capitalise_eq_self_iff,
    dropQuantifier_eq_self_iff (by decide), dropQuantifier_eq_self_iff (by decide), and_assoc]
  simp

lemma finish_of_noStar {cs : Chars} (h : '*' ∉ capitalise cs) :
    finish cs = capitalise cs := by
  rw [finish, dropQuantifier_of_noStar (by decide) h, dropQuantifier_of_noStar (by decide) h]

end Search

end Huntbook
