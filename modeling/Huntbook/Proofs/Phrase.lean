import Huntbook.Proofs.Condition

/-!
# Conditions by phrases

A condition over the names of selections is made up of *phrases*: marks, operators, names, and
quantifiers over the names that start alike. All passes over a condition work on its phrases one by
one (`settle_phrases`), so that every phrase becomes something of its own.
-/

namespace Huntbook.Search

open Text

/-! ## Phrases -/

/-- A phrase of a condition. -/
inductive Phrase
  | mark (c : Char)
  | operator (w : Chars)
  /-- The name of a selection. -/
  | name (n : String)
  /-- One or all of the selections whose names start with `p`. -/
  | quantifier (all : Bool) (p : Chars)
  deriving DecidableEq

def marks : Chars := [' ', '\t', '\n', '\r', '(', ')']

/-- What a quantifier starts with. -/
def lead (all : Bool) : String := if all then "all of " else "1 of "

namespace Phrase

/-- A phrase as it is written. -/
def text : Phrase → Chars
  | .mark c => [c]
  | .operator w => w
  | .name n => n.toList
  | .quantifier all p => (lead all).toList ++ p ++ ['*']

def isMark : Phrase → Bool
  | .mark _ => true
  | _ => false

def Valid (names : Texts) : Phrase → Prop
  | .mark c => c ∈ marks
  | .operator w => isOperator w
  | .name n => n ∈ names ∧ IsName n
  | .quantifier _ p => (∀ c ∈ p, isWord c) ∧ ∃ n ∈ names, p <+: n.toList

def Separate (a b : Phrase) : Prop := a.isMark ∨ b.isMark

instance (names : Texts) : (phrase : Phrase) → Decidable (phrase.Valid names)
  | .mark c => inferInstanceAs (Decidable (c ∈ marks))
  | .operator w => inferInstanceAs (Decidable (isOperator w = true))
  | .name n => inferInstanceAs (Decidable (n ∈ names ∧ IsName n))
  | .quantifier _ p =>
    inferInstanceAs (Decidable ((∀ c ∈ p, isWord c) ∧ ∃ n ∈ names, p <+: n.toList))

instance (a b : Phrase) : Decidable (a.Separate b) := inferInstanceAs (Decidable (_ ∨ _))

end Phrase

/-- A condition as it is written. -/
def writePhrases (phrases : List Phrase) : Chars := phrases.flatMap Phrase.text

lemma isWord_of_mem_marks {c : Char} (h : c ∈ marks) : isWord c = false := by
  have hall : ∀ c ∈ marks, isWord c = false := by decide
  exact hall c h

variable {w u : Chars}

lemma word_of_isOperator (h : isOperator w) :
    w ≠ [] ∧ (∀ c ∈ w, isWord c) ∧ ∀ c ∈ w.map Char.toUpper, isWord c := by
  have hall : ∀ w ∈ operators,
      w ≠ [] ∧ (∀ c ∈ w, isWord c) ∧ ∀ c ∈ w.map Char.toUpper, isWord c := by decide
  obtain ⟨hne, hword, hupper⟩ := hall _ (isOperator_iff.1 h)
  refine ⟨fun he => hne (by simp [he]), fun c hc => ?_, ?_⟩
  · exact isWord_of_toLower (hword _ (List.mem_map_of_mem hc))
  · rwa [map_toUpper_map_toLower] at hupper

lemma isWord_capitals (h : ∀ c ∈ w, isWord c) : ∀ c ∈ capitals w, isWord c := by
  unfold capitals
  split
  · rename_i hop
    exact (word_of_isOperator hop).2.2
  · exact h

section

variable {names : Texts}

lemma Phrase.Valid.piece {phrase : Phrase} (h : phrase.Valid names)
    (hq : ∀ all p, phrase ≠ .quantifier all p) :
    '*' ∉ phrase.text ∧ runs phrase.text = [phrase.text] := by
  have hword : ∀ w : Chars, w ≠ [] → (∀ c ∈ w, isWord c) → '*' ∉ w ∧ runs w = [w] :=
    fun w hne hw => ⟨fun hmem => absurd (hw _ hmem) (by decide), runs_word hne hw⟩
  cases phrase with
  | mark c =>
    have hstar : '*' ∉ marks := by decide
    refine ⟨fun hmem => hstar ?_, runs_cons_of_not_isWord (isWord_of_mem_marks h) []⟩
    rw [List.mem_singleton.1 hmem]
    exact h
  | operator w => exact hword w (word_of_isOperator h).1 (word_of_isOperator h).2.1
  | name n => exact hword n.toList h.2.1 h.2.2
  | quantifier all p => exact absurd rfl (hq all p)

variable {phrases : List Phrase}

lemma writePhrases_ne_nil (hvalid : ∀ phrase ∈ phrases, phrase.Valid names) (h : phrases ≠ []) :
    writePhrases phrases ≠ [] := by
  obtain ⟨phrase, phrases, rfl⟩ := List.exists_cons_of_ne_nil h
  have hne : phrase.text ≠ [] := by
    intro hnil
    cases phrase with
    | quantifier all p => simp [Phrase.text] at hnil
    | _ =>
      have := ((hvalid _ List.mem_cons_self).piece (by simp)).2
      simp [hnil] at this
  exact List.append_ne_nil_of_left_ne_nil hne _

lemma apart_of_separate {a b : Phrase} (ha : a.Valid names) (hb : b.Valid names)
    (h : a.Separate b) (rest : Chars) : Apart a.text (b.text ++ rest) := by
  rcases h with h | h
  · cases a with
    | mark c => exact .inl (by simp [Phrase.text, endsInWord, isWord_of_mem_marks ha])
    | _ => simp [Phrase.isMark] at h
  · cases b with
    | mark c => exact .inr (by simp [Phrase.text, startsWord, isWord_of_mem_marks hb])
    | _ => simp [Phrase.isMark] at h

lemma runwise_phrases {f : Chars → Chars} (hf : Runwise f)
    (hvalid : ∀ phrase ∈ phrases, phrase.Valid names) (hsep : phrases.IsChain Phrase.Separate) :
    f (writePhrases phrases) = (phrases.map fun phrase => f phrase.text).flatten := by
  unfold writePhrases
  induction phrases with
  | nil => exact hf.nil
  | cons a phrases ih =>
    obtain ⟨ha, hvalid⟩ := List.forall_mem_cons.1 hvalid
    -- A mark stands at one side of the border, so that no word goes across it.
    have hapart : Apart a.text (phrases.flatMap Phrase.text) := by
      cases phrases with
      | nil => exact .inr rfl
      | cons b phrases =>
        exact apart_of_separate ha (hvalid b List.mem_cons_self) (List.isChain_cons_cons.1 hsep).1 _
    rw [List.flatMap_cons, hf.append hapart, ih hvalid hsep.tail, List.map_cons, List.flatten_cons]

end

/-! ## Stars that no quantifier takes -/

lemma not_mem_lead (all : Bool) : '(' ∉ (lead all).toList ∧
    ')' ∉ (lead all).toList ∧ '*' ∉ (lead all).toList := by
  cases all <;> decide

/-- A text that ends in a star which no quantifier takes: no star comes before its first
    parenthesis, and no quantifier after its last one. -/
def Guarded (u : Chars) : Prop :=
  ∃ a b t, u = a ++ '(' :: (b ++ ')' :: (t ++ ['*'])) ∧ '*' ∉ a ∧
    ∀ all, dropQuantifier (lead all) (t ++ ['*']) = t ++ ['*']

lemma Guarded.getLast? (h : Guarded u) : u.getLast? = some '*' := by
  obtain ⟨a, b, t, rfl, -, -⟩ := h
  have hlast : a ++ '(' :: (b ++ ')' :: (t ++ ['*'])) = a ++ '(' :: (b ++ ')' :: t) ++ ['*'] := by
    simp
  rw [hlast, List.getLast?_concat]

lemma Guarded.append {x : Chars} (h : Guarded u) (hx : Closed x) : Guarded (x ++ u) := by
  obtain ⟨a, b, t, rfl, ha, ht⟩ := h
  rcases hx with hx | ⟨m, rfl⟩
  · exact ⟨x ++ a, b, t, by simp, by simp [hx, ha], ht⟩
  · exact ⟨[], m ++ ')' :: (a ++ '(' :: b), t, by simp, by simp, ht⟩

lemma Guarded.drop (h : Guarded u) (all : Bool) :
    Guarded (dropQuantifier (lead all) u) ∧ Alone (lead all) u := by
  obtain ⟨a, b, t, rfl, ha, ht⟩ := h
  obtain ⟨hopen, hclose, hstar⟩ := not_mem_lead all
  have htail := ht all
  generalize lead all = start at hopen hclose hstar htail ⊢
  have hdrop : ∀ seen rest, '*' ∉ seen →
      dropQuantifier start (seen ++ (a ++ '(' :: (b ++ ')' :: (t ++ ['*'])) ++ rest)) =
        seen ++ (a ++ '(' :: (dropQuantifier start b ++ ')' :: (t ++ ['*'])) ++
          dropQuantifier start rest) := by
    intro seen rest hseen
    -- The text is cut at its first and its last parenthesis and after the star.
    have hsplit : seen ++ (a ++ '(' :: (b ++ ')' :: (t ++ ['*'])) ++ rest) =
        (seen ++ a) ++ '(' :: (b ++ ')' :: (t ++ ['*'] ++ rest)) := by simp
    rw [hsplit, dropQuantifier_append_cons hopen (by decide) (by decide),
      dropQuantifier_append_cons hclose (by decide) (by decide), dropQuantifier_append_star hstar,
      htail, dropQuantifier_of_noStar hopen (by simp [hseen, ha])]
    simp
  have hnil : dropQuantifier start [] = [] := dropQuantifier_of_noStar hopen (by simp)
  have hself := hdrop [] [] (by simp)
  simp only [List.nil_append, List.append_nil, hnil] at hself
  refine ⟨⟨a, _, t, hself, ha, ht⟩, fun seen rest hseen => ?_⟩
  rw [hdrop seen rest hseen, hself]

lemma Guarded.whole {u : Chars} (h : Guarded u) : Whole u where
  one := .inr (h.drop false).2
  all := .inr ((h.drop false).1.drop true).2

/-! ## Quantifiers -/

lemma lead_eq (all : Bool) : ∃ first, (∀ c ∈ first, isWord c) ∧
    capitals first = first ∧ (lead all).toList = first ++ " of ".toList := by
  cases all with
  | false => exact ⟨['1'], by decide⟩
  | true => exact ⟨['a', 'l', 'l'], by decide⟩

lemma append_word_inj {v p : Chars} (hu : u.getLast? = some ' ') (hv : v.getLast? = some ' ')
    (hp : ∀ c ∈ p, isWord c) (hw : ∀ c ∈ w, isWord c) (h : u ++ p = v ++ w) : u = v ∧ p = w := by
  have hblank : isWord ' ' = false := by decide
  -- If one word were longer, the blank before the other one would be in it.
  have hsame : ∀ {u v p w : Chars}, v.getLast? = some ' ' → (∀ c ∈ p, isWord c) →
      ∀ x, v = u ++ x → p = x ++ w → x = [] := by
    rintro u v p w hv hp x rfl rfl
    by_contra hne
    rw [List.getLast?_append_of_ne_nil _ hne] at hv
    have := hp ' ' (List.mem_append_left w (List.mem_of_getLast? hv))
    simp [hblank] at this
  rcases List.append_eq_append_iff.1 h with ⟨x, hx, hy⟩ | ⟨x, hx, hy⟩
  · obtain rfl := hsame hv hp x hx hy
    exact ⟨by simpa using hx.symm, by simpa using hy⟩
  · obtain rfl := hsame hu hw x hx hy
    exact ⟨by simpa using hx, by simpa using hy.symm⟩

lemma getLast?_lead (all : Bool) (before : Chars) :
    (before ++ (lead all).toList).getLast? = some ' ' := by
  cases all <;> rw [List.getLast?_append_of_ne_nil _ (by decide)] <;> decide

lemma eq_of_quantifier {all : Bool} {before p rest : Chars} (hu : u.getLast? = some ' ')
    (hstar : '*' ∉ u) (hp : ∀ c ∈ p, isWord c) (hw : ∀ c ∈ w, isWord c)
    (h : u ++ p ++ ['*'] = before ++ ((lead all).toList ++ w ++ '*' :: rest)) :
    u = before ++ (lead all).toList ∧ p = w := by
  have hstar' : '*' ∉ u ++ p := by
    have : '*' ∉ p := fun hmem => absurd (hp _ hmem) (by decide)
    simp [hstar, this]
  have h' : (u ++ p) ++ ['*'] = (before ++ (lead all).toList ++ w) ++ '*' :: rest := by
    simpa using h
  obtain ⟨hfront, -, -⟩ := (List.append_cons_inj_of_notMem hstar' (by simp)).1 h'
  exact append_word_inj hu (getLast?_lead all before) hp hw hfront

lemma lead_suffix : ∀ all all' : Bool,
    (lead all).toList <:+ (lead all').toList → all = all' := by
  decide

section

variable {p : Chars} (hp : ∀ c ∈ p, isWord c)
include hp

lemma dropQuantifier_tail {t : Chars} (ht : t <:+ " of ".toList ++ p) (all : Bool) :
    dropQuantifier (lead all) (t ++ ['*']) = t ++ ['*'] := by
  rw [dropQuantifier_eq_self_iff (not_mem_lead all).1]
  rintro w - hw hplace
  obtain ⟨x, hx⟩ := ht
  obtain ⟨before, rest, he⟩ := hplace
  have he' : " of ".toList ++ p ++ ['*'] =
      (x ++ before) ++ ((lead all).toList ++ w ++ '*' :: rest) := by
    rw [← hx, List.append_assoc, ← he]
    simp
  obtain ⟨hof, -⟩ := eq_of_quantifier (by decide) (by decide) hp hw he'
  have hno : ∀ all, ¬ (lead all).toList <:+ " of ".toList := by decide
  exact hno all ⟨_, hof.symm⟩

lemma guarded_bracketed (m : Chars) {t : Chars} (ht : t <:+ " of ".toList ++ p) :
    Guarded ('(' :: m ++ [')'] ++ (t ++ ['*'])) :=
  ⟨[], m, t, by simp, by simp, dropQuantifier_tail hp ht⟩

lemma eq_of_two_quantifiers {all all' : Bool} {seen before w rest : Chars}
    (hseen : '*' ∉ seen) (hw : ∀ c ∈ w, isWord c)
    (h : seen ++ ((lead all).toList ++ p ++ ['*']) =
      before ++ ((lead all').toList ++ w ++ '*' :: rest)) :
    seen = before ∧ all = all' ∧ p = w := by
  have hstar : '*' ∉ seen ++ (lead all).toList := by
    simp [hseen, (not_mem_lead all).2.2]
  obtain ⟨hu, rfl⟩ := eq_of_quantifier (getLast?_lead all seen) hstar hp hw
    (by simpa using h)
  -- Both starts end at the same blank, and neither is the end of the other one.
  have hsame : all = all' := by
    have hle : (lead all).toList <:+ before ++ (lead all').toList :=
      ⟨seen, hu⟩
    rcases List.suffix_or_suffix_of_suffix hle (List.suffix_append before _) with hs | hs
    · exact lead_suffix _ _ hs
    · exact (lead_suffix _ _ hs).symm
  subst hsame
  exact ⟨List.append_cancel_right hu, rfl, rfl⟩

lemma dropQuantifier_seen (all all' : Bool) {seen : Chars} (hseen : '*' ∉ seen) :
    dropQuantifier (lead all') (seen ++ ((lead all).toList ++ p ++ ['*'])) =
      seen ++ dropQuantifier (lead all') ((lead all).toList ++ p ++ ['*']) := by
  induction seen with
  | nil => rfl
  | cons c seen ih =>
    have hnone : quantifierRule (lead all') none
        (c :: (seen ++ ((lead all).toList ++ p ++ ['*']))) = none := by
      rw [Option.eq_none_iff_forall_ne_some]
      intro n hn
      obtain ⟨w, rest, -, hw, he, -⟩ := quantifierRule_eq_some.1 hn
      obtain ⟨hnil, -, -⟩ := @eq_of_two_quantifiers p hp all all' (c :: seen) [] w rest hseen hw he
      simp at hnil
    have hrest : '*' ∉ seen := fun hmem => hseen (List.mem_cons_of_mem c hmem)
    rw [List.cons_append, dropQuantifier_cons hnone, ih hrest, List.cons_append]

lemma alone_quantifier (all all' : Bool) :
    Alone (lead all') ((lead all).toList ++ p ++ ['*']) := by
  intro seen rest hseen
  have hsplit : seen ++ ((lead all).toList ++ p ++ ['*'] ++ rest) =
      (seen ++ ((lead all).toList ++ p)) ++ ['*'] ++ rest := by simp
  rw [hsplit, dropQuantifier_append_star (not_mem_lead all').2.2, List.append_assoc seen,
    dropQuantifier_seen hp all all' hseen, List.append_assoc]

lemma dropQuantifier_quantifier {start : String} (hne : p ≠ []) :
    dropQuantifier start (start.toList ++ p ++ ['*']) = '(' :: p ++ [')'] := by
  have hrule : quantifierRule start none (start.toList ++ p ++ ['*']) =
      some (start.toList ++ p ++ ['*']).length :=
    quantifierRule_eq_some.2 ⟨p, [], hne, hp, rfl, rfl⟩
  have hswap : ((start.toList ++ p ++ ['*']).drop start.length).dropLast = p := by
    rw [← String.length_toList, List.append_assoc, List.drop_left, List.dropLast_concat]
  cases hq : start.toList ++ p ++ ['*'] with
  | nil => simp at hq
  | cons c cs =>
    rw [hq] at hrule hswap
    have hend := rewriteFrom_length (quantifierRule start) (bracketWord start) (some c) cs []
    rw [List.append_nil, rewriteFrom, quantifierRule_nil] at hend
    rw [dropQuantifier, rewrite, rewriteFrom, hrule, List.length_cons]
    simp only [List.take_length, hswap]
    exact (congrArg _ hend).trans (List.append_nil _)

lemma dropQuantifier_other {all all' : Bool} (h : all' ≠ all ∨ p = []) :
    dropQuantifier (lead all') ((lead all).toList ++ p ++ ['*']) =
      (lead all).toList ++ p ++ ['*'] := by
  rw [dropQuantifier_eq_self_iff (not_mem_lead all').1]
  rintro w hne hw ⟨before, rest, he⟩
  obtain ⟨-, rfl, rfl⟩ := @eq_of_two_quantifiers p hp all all' [] before w rest (by simp) hw
    (by simpa using he.symm)
  rcases h with h | h
  · exact h rfl
  · exact hne h

lemma dropQuantifier_one (all : Bool) :
    dropQuantifier (lead false) ((lead all).toList ++ p ++ ['*']) =
        '(' :: p ++ [')'] ∨ (all = true ∨ p = []) ∧
        dropQuantifier (lead false) ((lead all).toList ++ p ++ ['*']) =
          (lead all).toList ++ p ++ ['*'] := by
  by_cases hkeep : all = true ∨ p = []
  · refine .inr ⟨hkeep, dropQuantifier_other hp (hkeep.imp_left fun h => ?_)⟩
    rw [h]
    decide
  · simp only [not_or, Bool.not_eq_true] at hkeep
    rw [hkeep.1]
    exact .inl (dropQuantifier_quantifier hp hkeep.2)

end

/-! ## What becomes of phrases -/

section

variable {ps : List NamedClause} (hps : ∀ c ∈ ps, IsName c.1)
include hps

lemma runwise_capitalise_passes : Runwise fun cs => capitalise (passes ps cs) :=
  runwise_capitalise.comp (runwise_passes hps)

lemma passes_run {r : Chars} (hr : runs r = [r]) :
    passes ps r = r ∨ ∃ m, passes ps r = '(' :: m ++ [')'] := by
  induction ps with
  | nil => exact .inl rfl
  | cons c ps ih =>
    obtain ⟨hc, hps⟩ := List.forall_mem_cons.1 hps
    rw [passes_cons, pass_run hc hr]
    split
    · obtain ⟨m, hm⟩ := exists_insertion_eq c
      rw [hm, (runwise_passes hps).bracketed]
      exact .inr ⟨_, rfl⟩
    · exact ih hps

lemma capitalise_passes_word {w : Chars} (hw : ∀ c ∈ w, isWord c) :
    capitalise (passes ps w) = capitals w ∨ ∃ m, capitalise (passes ps w) = '(' :: m ++ [')'] := by
  rcases eq_or_ne w [] with rfl | hne
  · exact .inl ((runwise_capitalise_passes hps).nil.trans (by decide))
  have hruns := runs_word hne hw
  rcases passes_run hps hruns with h | ⟨m, h⟩
  · rw [h, capitalise_run hruns]
    exact .inl rfl
  · rw [h, runwise_capitalise.bracketed]
    exact .inr ⟨_, rfl⟩

lemma closed_word {w : Chars} (hw : ∀ c ∈ w, isWord c) :
    Closed (capitalise (passes ps w)) := by
  refine (capitalise_passes_word hps hw).imp_left fun h => ?_
  rw [h]
  exact not_mem_capitals fun hmem => absurd (hw _ hmem) (by decide)

lemma capitalise_passes_text {all : Bool} {first : Chars}
    (hstart : (lead all).toList = first ++ " of ".toList) (p : Chars) :
    capitalise (passes ps (Phrase.quantifier all p).text) =
      capitalise (passes ps first) ++ ([' '] ++ (capitalise (passes ps "of".toList) ++
        ([' '] ++ (capitalise (passes ps p) ++ ['*'])))) := by
  have htext : (Phrase.quantifier all p).text =
      first ++ ' ' :: ("of".toList ++ ' ' :: (p ++ ['*'])) := by
    simp [Phrase.text, hstart]
  have hf := runwise_capitalise_passes hps
  have hblank : ∀ cs, startsWord (' ' :: cs) = false := fun cs => rfl
  rw [htext, hf.append (.inr (hblank _)), hf.cons_other (by decide), hf.append (.inr (hblank _)),
    hf.cons_other (by decide), hf.append_other (by decide)]
  rfl

variable {p : Chars} {names : Texts}

lemma capitalise_passes_quantifier (all : Bool) (hp : ∀ c ∈ p, isWord c) :
    capitalise (passes ps (Phrase.quantifier all p).text) =
        (lead all).toList ++ capitals p ++ ['*'] ∨
      Guarded (capitalise (passes ps (Phrase.quantifier all p).text)) := by
  obtain ⟨first, hfirst, hfirstCaps, hstart⟩ := lead_eq all
  have hof : ∀ c ∈ "of".toList, isWord c := by decide
  have hofCaps : capitals "of".toList = "of".toList := by decide
  have hcaps := isWord_capitals hp
  have hspace : Closed [' '] := .inl (by decide)
  rw [capitalise_passes_text hps hstart]
  -- The last word that has been replaced decides what the text ends in after a parenthesis.
  rcases capitalise_passes_word hps hp with hP | ⟨m, hm⟩
  · rcases capitalise_passes_word hps hof with hO | ⟨m, hm⟩
    · rw [hO, hP, hofCaps]
      rcases capitalise_passes_word hps hfirst with hF | ⟨m, hm⟩
      · left
        rw [hF, hfirstCaps, hstart]
        simp
      · right
        rw [hm]
        simpa using guarded_bracketed hcaps m (t := " of ".toList ++ capitals p) List.suffix_rfl
    · right
      rw [hP, hm]
      have hend := guarded_bracketed hcaps m (t := ' ' :: capitals p) ⟨" of".toList, by simp⟩
      exact (hend.append hspace).append (closed_word hps hfirst)
  · right
    rw [hm]
    have hend := guarded_bracketed hcaps m (t := []) List.nil_suffix
    exact (((hend.append hspace).append (closed_word hps hof)).append hspace).append
      (closed_word hps hfirst)

lemma whole_phrase {phrase : Phrase} (h : phrase.Valid names) :
    Whole (capitalise (passes ps phrase.text)) := by
  have hpiece : (∀ all p, phrase ≠ .quantifier all p) →
      Whole (capitalise (passes ps phrase.text)) :=
    fun hq => ((Piece.passes hps (.inl (h.piece hq))).closed_capitalise).whole
  cases phrase with
  | quantifier all p =>
    have hp : ∀ c ∈ p, isWord c := h.1
    have hcaps := isWord_capitals hp
    rcases capitalise_passes_quantifier hps all hp with he | hg
    · rw [he]
      refine ⟨.inr (alone_quantifier hcaps all false), ?_⟩
      rcases dropQuantifier_one hcaps all with hword | ⟨-, hkeep⟩
      · exact Closed.alone (by decide) (by decide) (.inr ⟨_, hword⟩)
      · rw [show "1 of " = lead false from rfl, hkeep]
        exact .inr (alone_quantifier hcaps all true)
    · exact hg.whole
  | _ => exact hpiece (by simp)

lemma settle_phrases {phrases : List Phrase}
    (hvalid : ∀ phrase ∈ phrases, phrase.Valid names) (hsep : phrases.IsChain Phrase.Separate) :
    settle ps (writePhrases phrases) = phrases.flatMap fun phrase => settle ps phrase.text := by
  have hwhole : ∀ u ∈ phrases.map fun phrase => passes ps phrase.text, Whole (capitalise u) :=
    List.forall_mem_map.2 fun phrase hmem => whole_phrase hps (hvalid phrase hmem)
  have hpasses := runwise_phrases (runwise_passes hps) hvalid hsep
  have hcap := runwise_phrases (runwise_capitalise_passes hps) hvalid hsep
  rw [hpasses] at hcap
  rw [settle, hpasses, finish_flatten hwhole (by rw [hcap, List.map_map]; rfl), List.map_map,
    List.flatMap_def]
  rfl

lemma settle_quantifier (all : Bool) (hp : ∀ c ∈ p, isWord c) :
    settle ps (Phrase.quantifier all p).text = '(' :: capitals p ++ [')'] ∨
      (settle ps (Phrase.quantifier all p).text).getLast? = some '*' := by
  have hcaps := isWord_capitals hp
  rw [settle, finish, show "1 of " = lead false from rfl,
    show "all of " = lead true from rfl]
  rcases capitalise_passes_quantifier hps all hp with he | hg
  · rw [he]
    rcases dropQuantifier_one hcaps all with hword | ⟨hall, hkeep⟩
    · have hstar : '*' ∉ '(' :: capitals p ++ [')'] := by
        have : '*' ∉ capitals p := fun hmem => absurd (hcaps _ hmem) (by decide)
        simp [this]
      rw [hword, dropQuantifier_of_noStar (by decide) hstar]
      exact .inl rfl
    · rw [hkeep]
      by_cases hnil : capitals p = []
      · rw [dropQuantifier_other hcaps (.inr hnil)]
        exact .inr List.getLast?_concat
      · obtain rfl := hall.resolve_right hnil
        exact .inl (dropQuantifier_quantifier hcaps hnil)
  · exact .inr ((hg.drop false).1.drop true).1.getLast?

end

/-! ## Phrases that are resolved -/

/-- A piece of a condition in which nothing is left to be resolved: a mark, an operator in capitals,
    or a clause between parentheses. -/
def IsFinal (clauses : List NamedClause) (u : Chars) : Prop :=
  (∃ c ∈ marks, u = [c]) ∨ u ∈ operators.map (·.map Char.toUpper) ∨
    ∃ c ∈ clauses, u = clauseTemplate c.2

/-- What a phrase should become: an operator its capitals, a name its clause, and a quantifier a
    text with nothing left to be resolved, which has the clauses of all names that it covers. -/
def Phrase.Resolved (names : Texts) (clauses : List NamedClause) (out : Chars) :
    Phrase → Prop
  | .mark c => out = [c]
  | .operator w => out = w.map Char.toUpper
  | .name n => ∃ c ∈ clauses, c.1 = n ∧ (out = c.2.toList ∨ out = clauseTemplate c.2)
  | .quantifier _ p => ∃ us : List Chars, out = us.flatten ∧ (∀ u ∈ us, IsFinal clauses u) ∧
      ∀ n ∈ names, p <+: n.toList → ∃ c ∈ clauses, c.1 = n ∧ clauseTemplate c.2 ∈ us

/-- A phrase that becomes what it should: a mark, an operator that is not the name of a clause as
    well, or a name whose clause comes through the passes that follow. -/
def Phrase.Resolvable (clauses : List NamedClause) : Phrase → Prop
  | .mark _ => True
  | .operator w => ∀ c ∈ clauses, c.1.toList ≠ w
  | .name n => ∃ c ∈ clauses, c.1 = n ∧ Verbatim (replacedAfter clauses n) c.2
  | .quantifier _ _ => False

lemma exists_getLast?_of_flatten {α : Type} {us : List (List α)} {x : α}
    (h : us.flatten.getLast? = some x) : ∃ u ∈ us, u.getLast? = some x := by
  induction us with
  | nil => simp at h
  | cons u us ih =>
    rw [List.flatten_cons] at h
    rcases eq_or_ne us.flatten [] with hnil | hne
    · rw [hnil, List.append_nil] at h
      exact ⟨u, List.mem_cons_self, h⟩
    · rw [List.getLast?_append_of_ne_nil _ hne] at h
      obtain ⟨v, hv, hlast⟩ := ih h
      exact ⟨v, List.mem_cons_of_mem u hv, hlast⟩

lemma IsFinal.getLast?_ne {clauses : List NamedClause} (h : IsFinal clauses u) :
    u.getLast? ≠ some '*' := by
  rcases h with ⟨c, hc, rfl⟩ | hu | ⟨c, -, rfl⟩
  · have hall : ∀ c ∈ marks, [c].getLast? ≠ some '*' := by decide
    exact hall c hc
  · have hall : ∀ u ∈ operators.map (·.map Char.toUpper), u.getLast? ≠ some '*' := by decide
    exact hall u hu
  · rw [getLast?_clauseTemplate]
    decide

lemma not_infix_bracketed {clause : String} (hw : ∀ c ∈ w, isWord c)
    (hclause : ∃ c ∈ clause.toList, isWord c = false) :
    ¬ clauseTemplate clause <:+: '(' :: w ++ [')'] := by
  intro h
  -- There are two characters of no word in the one, and more in the other.
  have hle := h.sublist.countP_le (p := fun c => !isWord c)
  have hzero : w.countP (fun c => !isWord c) = 0 := by
    simpa [List.countP_eq_zero] using hw
  have hpos : 0 < clause.toList.countP (fun c => !isWord c) := by
    simpa [List.countP_pos_iff] using hclause
  have hopen : isWord '(' = false := by decide
  have hclose : isWord ')' = false := by decide
  simp only [clauseTemplate, List.cons_append, List.countP_cons, List.countP_append,
    List.countP_nil, hopen, hclose, hzero, Bool.not_false, if_true] at hle
  omega

section

variable {names : Texts} {clauses : List NamedClause} (hv : ValidNames clauses)
include hv

lemma ValidNames.count_lt {c : NamedClause} (hc : c ∈ clauses) :
    c.2.toList.count '(' < (settle (byLength clauses) c.1.toList).count '(' := by
  have htemplate : c.2.toList.count '(' < (clauseTemplate c.2).count '(' := by
    simp [clauseTemplate]
  rcases hv.settle_name_eq_or_lt hc with he | hlt
  · rwa [he]
  · rcases weight_lt_iff.1 hlt with h | ⟨h, -⟩ <;> omega

lemma resolved_iff_resolvable (hread : ∀ c ∈ clauses, Readable c.2)
    (hclause : ∀ c ∈ clauses, ∃ d ∈ c.2.toList, isWord d = false) {phrase : Phrase}
    (h : phrase.Valid names) :
    phrase.Resolved names clauses (settle (byLength clauses) phrase.text) ↔
      phrase.Resolvable clauses := by
  have hother : (∀ all p, phrase ≠ .quantifier all p) → (∀ c ∈ clauses, c.1.toList ≠ phrase.text) →
      settle (byLength clauses) phrase.text = capitals phrase.text := fun hq hno => by
    obtain ⟨hstar, hruns⟩ := h.piece hq
    exact hv.settle_other (by simp [hruns]) hstar hno
  cases phrase with
  | mark c =>
    have hplain : ∀ c ∈ marks, capitals [c] = [c] := by decide
    have hno : ∀ d ∈ clauses, d.1.toList ≠ [c] := fun d hd he =>
      not_mem_name (hv.isName d hd) (isWord_of_mem_marks h) (by simp [he])
    exact iff_of_true ((hother (by simp) hno).trans (hplain c h)) trivial
  | operator w =>
    constructor
    · rintro hout c hc rfl
      have hcount := hv.count_lt hc
      have hparen : '(' ∉ c.1.toList.map Char.toUpper := fun hmem =>
        absurd ((word_of_isOperator h).2.2 _ hmem) (by decide)
      rw [show settle (byLength clauses) c.1.toList = _ from hout,
        List.count_eq_zero.2 hparen] at hcount
      omega
    · intro hno
      exact (hother (by simp) hno).trans (if_pos h)
  | name n =>
    constructor
    · rintro ⟨c, hc, rfl, hout | hout⟩
      · have hcount := hv.count_lt hc
        rw [show settle (byLength clauses) c.1.toList = _ from hout] at hcount
        omega
      · exact ⟨c, hc, rfl, (hv.settle_name_eq_iff hc (hread c hc)).1 hout⟩
    · rintro ⟨c, hc, rfl, hcomes⟩
      exact ⟨c, hc, rfl, .inr ((hv.settle_name_eq_iff hc (hread c hc)).2 hcomes)⟩
  | quantifier all p =>
    refine iff_of_false ?_ id
    rintro ⟨us, hout, hfinal, hcovered⟩
    obtain ⟨hp, n, hn, hprefix⟩ := h
    rcases settle_quantifier hv.isName_byLength all hp with he | hlast
    · obtain ⟨c, hc, -, hmem⟩ := hcovered n hn hprefix
      refine not_infix_bracketed (isWord_capitals hp) (hclause c hc) ?_
      rw [← he, hout]
      exact List.infix_of_mem_flatten hmem
    · rw [hout] at hlast
      obtain ⟨u, hu, hstar⟩ := exists_getLast?_of_flatten hlast
      exact (hfinal u hu).getLast?_ne hstar

end

end Huntbook.Search
