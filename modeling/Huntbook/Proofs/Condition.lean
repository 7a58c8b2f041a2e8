import Huntbook.Proofs.Operators

/-!
# Conditions in one pass

A condition that is not just a name is rewritten by a pass for every name, longer names first, and
then finished. Every pass rewrites the text that the passes before it have left, the clauses they
put in among it.

* `resolve_eq_onePass`: clauses in which no pass finds anything;
* `resolve_verbatim_iff`: when clauses come through character for character.
-/

namespace Huntbook.Search

open List Text

/-! ## Names replaced by clauses -/

/-- A name that conditions can use: a word that is not empty. -/
def IsName (name : String) : Prop := name.toList ≠ [] ∧ ∀ c ∈ name.toList, isWord c

instance (name : String) : Decidable (IsName name) := inferInstanceAs (Decidable (_ ∧ _))

/-- Whether the template of a clause can be read. -/
def Readable (clause : String) : Prop :=
  ∃ pieces, Template.parse (clauseTemplate clause) = .ok pieces

def insertion (c : NamedClause) : Chars :=
  match Template.parse (clauseTemplate c.2) with
  | .ok pieces => Template.expand pieces c.1.toList
  | .error _ => clauseTemplate c.2

lemma getLast?_clauseTemplate (clause : String) :
    (clauseTemplate clause).getLast? = some ')' := by
  rw [clauseTemplate, getLast?_append_of_ne_nil _ (by simp)]
  rfl

lemma exists_insertion_eq (c : NamedClause) : ∃ m, insertion c = '(' :: m ++ [')'] := by
  unfold insertion
  split
  · rename_i pieces hp
    have hread := Template.reading_of_parse c.1.toList hp
    have hlast := hread.getLast (getLast?_clauseTemplate c.2)
    obtain ⟨rest, he, -⟩ := Template.Reading.cons (by decide) hread
    rw [he] at hlast ⊢
    cases rest with
    | nil => simp at hlast
    | cons d rest =>
      rw [getLast?_cons_cons] at hlast
      obtain ⟨m, hm⟩ := getLast?_eq_some_iff.1 hlast
      exact ⟨m, by rw [hm]; rfl⟩
  · exact ⟨c.2.toList, rfl⟩

section

variable {c : NamedClause} (hc : IsName c.1)
include hc

lemma not_mem_name {d : Char} (hd : isWord d = false) : d ∉ c.1.toList := fun hmem => by
  simp [hc.2 d hmem] at hd

lemma insertion_eq_or_lt :
    insertion c = clauseTemplate c.2 ∨ weight (insertion c) < weight (clauseTemplate c.2) := by
  unfold insertion
  split
  · rename_i pieces hp
    exact ((Template.reading_of_parse c.1.toList hp).eq_or_lt
      (not_mem_name hc (by decide))).imp_left And.left
  · exact .inl rfl

lemma insertion_eq_iff (hr : Readable c.2) :
    insertion c = clauseTemplate c.2 ↔ Template.IsLiteral (clauseTemplate c.2) := by
  obtain ⟨pieces, hp⟩ := hr
  constructor
  · intro he
    have hread := Template.reading_of_parse c.1.toList hp
    simp only [insertion, hp] at he
    rcases hread.eq_or_lt (not_mem_name hc (by decide)) with ⟨-, hlit⟩ | hlt
    · exact hlit
    · rw [he] at hlt
      exact absurd hlt (lt_irrefl _)
  · intro hlit
    simp [insertion, Template.parse_of_isLiteral hlit]

end

/-! ## One pass after the other -/

def pass (c : NamedClause) (cs : Chars) : Chars :=
  rewrite (wordRule c.1.toList) (fun _ => insertion c) cs

section

variable {c : NamedClause} (hc : IsName c.1)
include hc

lemma pass_eq (cs : Chars) :
    pass c cs = onRuns (fun r => if r = c.1.toList then insertion c else r) cs := by
  rw [pass, (wordRule_isWordRule hc.1 hc.2).rewrite_eq]
  simp only [beq_iff_eq]

lemma runwise_pass : Runwise (pass c) := by
  refine (wordRule_isWordRule hc.1 hc.2).runwise_rewrite fun r _ => ?_
  obtain ⟨m, hm⟩ := exists_insertion_eq c
  simp [hm]

lemma pass_run {r : Chars} (hr : runs r = [r]) :
    pass c r = if r = c.1.toList then insertion c else r := by
  simp [pass_eq hc, onRuns, hr]

/-- A name is lighter once it has been replaced, as it had no parenthesis. -/
lemma weight_insertion_lt : weight (insertion c) < weight c.1.toList := by
  obtain ⟨m, hm⟩ := exists_insertion_eq c
  rw [weight_lt_iff, count_eq_zero.2 (not_mem_name hc (by decide : isWord '(' = false)), hm]
  exact .inl (by simp)

lemma shrinks_replace : Shrinks fun r => if r = c.1.toList then insertion c else r := by
  intro r
  dsimp only
  split
  · rename_i he
    rw [he]
    exact .inr (weight_insertion_lt hc)
  · exact .inl rfl

lemma shrinks_pass : Shrinks (pass c) := by
  rw [show pass c = onRuns _ from funext (pass_eq hc)]
  exact (shrinks_replace hc).onRuns

lemma pass_eq_self_iff (cs : Chars) : pass c cs = cs ↔ c.1.toList ∉ runs cs := by
  have hne : insertion c ≠ c.1.toList := fun he => by
    have hlt := weight_insertion_lt hc
    rw [he] at hlt
    exact lt_irrefl _ hlt
  rw [pass_eq hc, (shrinks_replace hc).onRuns_eq_self_iff]
  constructor
  · intro h hmem
    exact hne (by simpa using h _ hmem)
  · rintro h r hr
    refine if_neg ?_
    rintro rfl
    exact h hr

end

lemma substitute_eq (c : NamedClause) (cs : Chars) :
    substitute cs c = (Template.parse (clauseTemplate c.2)).map fun _ => pass c cs := by
  unfold substitute
  cases hp : Template.parse (clauseTemplate c.2) with
  | error e => rfl
  | ok pieces =>
    have hins : Template.expand pieces c.1.toList = insertion c := by simp [insertion, hp]
    have hpass : rewrite (wordRule c.1.toList) (Template.expand pieces) cs = pass c cs :=
      rewriteFrom_wordRule_congr hins 0 none cs
    show Except.ok _ = Except.ok _
    rw [hpass]

def passes (ps : List NamedClause) (cs : Chars) : Chars := ps.foldl (fun cs c => pass c cs) cs

@[simp] lemma passes_nil (cs : Chars) : passes [] cs = cs := rfl

@[simp] lemma passes_cons (c : NamedClause) (ps : List NamedClause) (cs : Chars) :
    passes (c :: ps) cs = passes ps (pass c cs) := rfl

lemma passes_append (ps qs : List NamedClause) (cs : Chars) :
    passes (ps ++ qs) cs = passes qs (passes ps cs) :=
  foldl_append

variable {ps : List NamedClause}

lemma foldlM_substitute {cs out : Chars} :
    ps.foldlM substitute cs = .ok out ↔ (∀ c ∈ ps, Readable c.2) ∧ out = passes ps cs := by
  induction ps generalizing cs with
  | nil => simp [pure, Except.pure, eq_comm]
  | cons c ps ih =>
    rw [foldlM_cons, bind_eq_ok, forall_mem_cons, passes_cons]
    simp only [ih, substitute_eq]
    cases hp : Template.parse (clauseTemplate c.2) with
    | error e => simp [Except.map, Readable, hp]
    | ok pieces => simp [Except.map, Readable, hp]

section

variable {ps : List NamedClause} (hps : ∀ c ∈ ps, IsName c.1)
include hps

lemma runwise_passes : Runwise (passes ps) := by
  induction ps with
  | nil => exact ⟨⟨fun _ => rfl, id, fun _ => id, fun _ => id⟩, fun _ => rfl⟩
  | cons c ps ih =>
    obtain ⟨hc, hps⟩ := forall_mem_cons.1 hps
    exact (ih hps).comp (runwise_pass hc)

lemma shrinks_passes : Shrinks (passes ps) := by
  induction ps with
  | nil => exact fun _ => .inl rfl
  | cons c ps ih =>
    obtain ⟨hc, hps⟩ := forall_mem_cons.1 hps
    exact (ih hps).comp (shrinks_pass hc)

lemma passes_eq_self_iff (cs : Chars) :
    passes ps cs = cs ↔ ∀ c ∈ ps, c.1.toList ∉ runs cs := by
  induction ps with
  | nil => simp
  | cons c ps ih =>
    obtain ⟨hc, hps⟩ := forall_mem_cons.1 hps
    rw [passes_cons, (shrinks_passes hps).comp_eq_self_iff (shrinks_pass hc), ih hps,
      pass_eq_self_iff hc, forall_mem_cons]

end

/-- All that is done to a condition that is not just a name. -/
def settle (ps : List NamedClause) (cs : Chars) : Chars := finish (passes ps cs)

def Piece (u : Chars) : Prop := ('*' ∉ u ∧ runs u = [u]) ∨ ∃ m, u = '(' :: m ++ [')']

lemma not_mem_capitals {r : Chars} (h : '*' ∉ r) : '*' ∉ capitals r := by
  unfold capitals
  split
  · rename_i hop
    have hall : ∀ w ∈ operators, '*' ∉ w.map Char.toUpper := by decide
    have := hall _ (isOperator_iff.1 hop)
    rwa [map_toUpper_map_toLower] at this
  · exact h

variable {u : Chars}

lemma Piece.pass {c : NamedClause} (hc : IsName c.1) (h : Piece u) : Piece (pass c u) := by
  rcases h with ⟨hstar, hu⟩ | ⟨m, rfl⟩
  · rw [pass_run hc hu]
    split
    · exact .inr (exists_insertion_eq c)
    · exact .inl ⟨hstar, hu⟩
  · exact .inr ⟨_, (runwise_pass hc).bracketed m⟩

lemma Piece.passes (hps : ∀ c ∈ ps, IsName c.1) (h : Piece u) : Piece (passes ps u) := by
  induction ps generalizing u with
  | nil => exact h
  | cons c ps ih =>
    obtain ⟨hc, hps⟩ := forall_mem_cons.1 hps
    exact ih hps (h.pass hc)

lemma Piece.closed_capitalise (h : Piece u) : Closed (capitalise u) := by
  rcases h with ⟨hstar, hu⟩ | ⟨m, rfl⟩
  · rw [capitalise_run hu]
    exact .inl (not_mem_capitals hstar)
  · exact .inr ⟨_, runwise_capitalise.bracketed m⟩

lemma settle_eq_flatMap (hps : ∀ c ∈ ps, IsName c.1) {cs : Chars} (hstar : '*' ∉ cs) :
    settle ps cs = (runs cs).flatMap (settle ps) := by
  have hpiece : ∀ u ∈ (runs cs).map (passes ps), Whole (capitalise u) := by
    intro u hu
    obtain ⟨r, hr, rfl⟩ := mem_map.1 hu
    have : Piece r := .inl ⟨fun hmem => hstar (mem_of_mem_runs hr hmem), runs_of_mem_runs hr⟩
    exact (this.passes hps).closed_capitalise.whole
  have hcap : capitalise ((runs cs).map (passes ps)).flatten =
      (((runs cs).map (passes ps)).map capitalise).flatten := by
    have := (runwise_capitalise.comp (runwise_passes hps)).eq_flatMap cs
    rw [(runwise_passes hps).eq_flatMap, flatMap_def, flatMap_def] at this
    rw [this, map_map]
    rfl
  rw [settle, (runwise_passes hps).eq_flatMap, flatMap_def, finish_flatten hpiece hcap,
    map_map, flatMap_def]
  rfl

lemma settle_eq_self_iff (hps : ∀ c ∈ ps, IsName c.1) (cs : Chars) :
    settle ps cs = cs ↔ (∀ c ∈ ps, c.1.toList ∉ runs cs) ∧
      (∀ r ∈ runs cs, isOperator r → r.map Char.toUpper = r) ∧
      ∀ start ∈ ["1 of ", "all of "], ∀ w, w ≠ [] → (∀ c ∈ w, isWord c) →
        ¬ start.toList ++ w ++ ['*'] <:+: cs := by
  rw [settle, shrinks_finish.comp_eq_self_iff (shrinks_passes hps), passes_eq_self_iff hps,
    finish_eq_self_iff]

lemma shrinks_settle (hps : ∀ c ∈ ps, IsName c.1) : Shrinks (settle ps) :=
  shrinks_finish.comp (shrinks_passes hps)

/-! ## One pass over all names -/

/-- A run of a condition with its name replaced by the clause between parentheses, or as an
    operator in capitals. -/
def written (clauses : List NamedClause) (r : Chars) : Chars :=
  match clauses.lookup (String.ofList r) with
  | some clause => '(' :: clause.toList ++ [')']
  | none => capitals r

/-- A condition with all its names and operators replaced in one pass. -/
def onePass (clauses : List NamedClause) (condition : String) : String :=
  String.ofList ((runs condition.toList).flatMap (written clauses))

/-- The clauses whose names are replaced after `name`. -/
def replacedAfter (clauses : List NamedClause) (name : String) : List NamedClause :=
  ((byLength clauses).dropWhile fun c => c.1 != name).tail

/-- A clause comes through the passes for the names of `later` character for character: its
    template is literal, none of the names is a word of it, its operators are in capitals, and
    there is no quantifier in it. -/
structure Verbatim (later : List NamedClause) (clause : String) : Prop where
  literal : Template.IsLiteral (clauseTemplate clause)
  names : ∀ c ∈ later, c.1.toList ∉ runs clause.toList
  operators : ∀ r ∈ runs clause.toList, isOperator r → r.map Char.toUpper = r
  quantifiers : ∀ start ∈ ["1 of ", "all of "], ∀ w, w ≠ [] → (∀ c ∈ w, isWord c) →
    ¬ start.toList ++ w ++ ['*'] <:+: clause.toList

/-- Names that conditions can use, one clause for each. -/
structure ValidNames (clauses : List NamedClause) : Prop where
  isName : ∀ c ∈ clauses, IsName c.1
  nodup : (clauses.map (·.1)).Nodup

lemma mem_runs_bracketed {r m : Chars} :
    r ∈ runs ('(' :: m ++ [')']) ↔ r = ['('] ∨ r ∈ runs m ∨ r = [')'] := by
  rw [cons_append, runs_cons_of_not_isWord (by decide), runs_append (.inr (by decide)),
    runs_cons_of_not_isWord (by decide)]
  simp

lemma infix_bracketed_iff {m : Chars} (hne : u ≠ []) (hopen : '(' ∉ u) (hclose : ')' ∉ u) :
    u <:+: '(' :: m ++ [')'] ↔ u <:+: m := by
  constructor
  · intro h
    rw [cons_append, infix_cons_iff] at h
    rcases h with h | h
    · obtain ⟨c, u, rfl⟩ := exists_cons_of_ne_nil hne
      obtain ⟨rfl, -⟩ := cons_prefix_cons.1 h
      simp at hopen
    · rw [infix_concat_iff, suffix_concat_iff] at h
      rcases h with (rfl | ⟨t, rfl, -⟩) | h
      · exact absurd rfl hne
      · simp at hclose
      · exact h
  · rintro ⟨before, rest, rfl⟩
    exact ⟨'(' :: before, rest ++ [')'], by simp⟩

lemma settle_clauseTemplate_eq_self_iff {later : List NamedClause}
    (hl : ∀ c ∈ later, IsName c.1) (clause : String) :
    settle later (clauseTemplate clause) = clauseTemplate clause ↔
      (∀ c ∈ later, c.1.toList ∉ runs clause.toList) ∧
      (∀ r ∈ runs clause.toList, isOperator r → r.map Char.toUpper = r) ∧
      ∀ start ∈ ["1 of ", "all of "], ∀ w, w ≠ [] → (∀ c ∈ w, isWord c) →
        ¬ start.toList ++ w ++ ['*'] <:+: clause.toList := by
  rw [settle_eq_self_iff hl, clauseTemplate]
  refine and_congr ?_ (and_congr ?_ ?_)
  · refine forall₂_congr fun c hc => ?_
    rw [mem_runs_bracketed]
    have hmem : ∀ d : Char, isWord d = false → c.1.toList ≠ [d] := fun d hd he =>
      not_mem_name (hl c hc) hd (by simp [he])
    simp [hmem '(' (by decide), hmem ')' (by decide)]
  · simp only [mem_runs_bracketed, or_imp, forall_and, forall_eq]
    have h₁ : isOperator ['('] = false := by decide
    have h₂ : isOperator [')'] = false := by decide
    simp [h₁, h₂]
  · refine forall₄_congr fun start hs w _ => forall_congr' fun hw => not_congr ?_
    have hno : ∀ start ∈ ["1 of ", "all of "], '(' ∉ start.toList ∧ ')' ∉ start.toList := by decide
    have hmem : ∀ d : Char, isWord d = false → d ∉ w := fun d hd h => by simp [hw d h] at hd
    refine infix_bracketed_iff (by simp) ?_ ?_
    · simp [(hno start hs).1, hmem '(' (by decide)]
    · simp [(hno start hs).2, hmem ')' (by decide)]

section

variable {clauses : List NamedClause}

variable {c : NamedClause}

lemma ValidNames.eq_of_mem (hv : ValidNames clauses) {d : NamedClause} (hc : c ∈ clauses)
    (hd : d ∈ clauses) (h : c.1 = d.1) : c = d :=
  inj_on_of_nodup_map hv.nodup hc hd h

lemma ValidNames.lookup_eq (hv : ValidNames clauses) (hc : c ∈ clauses) :
    clauses.lookup c.1 = some c.2 := by
  cases h : clauses.lookup c.1 with
  | none => simpa using lookup_eq_none_iff.1 h c hc
  | some clause =>
    obtain ⟨l₁, l₂, he, -⟩ := lookup_eq_some_iff.1 h
    have := hv.eq_of_mem (d := (c.1, clause)) hc (by simp [he]) rfl
    rw [this]

lemma ValidNames.lookupClause_eq (hv : ValidNames clauses) (hc : c ∈ clauses) :
    lookupClause clauses c.1 = some c.2 := by
  unfold lookupClause
  cases h : clauses.reverse.find? fun d => d.1 == c.1 with
  | none => simpa using find?_eq_none.1 h c (by simpa using hc)
  | some d =>
    have hd : d ∈ clauses := by simpa using mem_of_find?_eq_some h
    have hname : d.1 = c.1 := by simpa using find?_some h
    simp [hv.eq_of_mem hd hc hname]

lemma lookupClause_eq_none {name : String} (h : ∀ c ∈ clauses, c.1 ≠ name) :
    lookupClause clauses name = none := by
  rw [lookupClause, find?_eq_none.2, Option.map_none]
  simpa using h

lemma mem_byLength : c ∈ byLength clauses ↔ c ∈ clauses :=
  (mergeSort_perm _ _).mem_iff

lemma ValidNames.isName_byLength (hv : ValidNames clauses) : ∀ c ∈ byLength clauses, IsName c.1 :=
  fun c hc => hv.isName c (mem_byLength.1 hc)

lemma ValidNames.isName_replacedAfter (hv : ValidNames clauses) (name : String) :
    ∀ c ∈ replacedAfter clauses name, IsName c.1 := fun c hc =>
  hv.isName_byLength c ((dropWhile_suffix _).mem (mem_of_mem_tail hc))

lemma ValidNames.byLength_split (hv : ValidNames clauses) (hc : c ∈ clauses) :
    ∃ before, byLength clauses = before ++ c :: replacedAfter clauses c.1 ∧
      ∀ b ∈ before, b.1 ≠ c.1 := by
  generalize hp : (fun d : NamedClause => d.1 != c.1) = p
  refine ⟨(byLength clauses).takeWhile p, ?_, fun b hb => ?_⟩
  · rw [replacedAfter, hp]
    have hne : (byLength clauses).dropWhile p ≠ [] := fun hnil => by
      have := dropWhile_eq_nil_iff.1 hnil c (mem_byLength.2 hc)
      simp [← hp] at this
    obtain ⟨d, ds, hd⟩ := exists_cons_of_ne_nil hne
    have hname : d.1 = c.1 := by
      have hnot : p d = false := by simpa [hd] using head?_dropWhile_not p (byLength clauses)
      simpa [← hp] using hnot
    have hmem : d ∈ clauses := mem_byLength.1 ((dropWhile_suffix p).mem (hd ▸ by simp))
    obtain rfl := hv.eq_of_mem hmem hc hname
    conv_lhs => rw [← takeWhile_append_dropWhile (p := p) (l := byLength clauses)]
    rw [hd, tail_cons]
  · have := mem_takeWhile_imp hb
    simpa [← hp] using this

lemma ValidNames.settle_name (hv : ValidNames clauses) (hc : c ∈ clauses) :
    settle (byLength clauses) c.1.toList = settle (replacedAfter clauses c.1) (insertion c) := by
  obtain ⟨before, hsplit, hbefore⟩ := hv.byLength_split hc
  have hname : IsName c.1 := hv.isName c hc
  have hruns : runs c.1.toList = [c.1.toList] := runs_word hname.1 hname.2
  have hvalid : ∀ b ∈ before, IsName b.1 := fun b hb =>
    hv.isName_byLength b (hsplit ▸ mem_append_left _ hb)
  have hkeep : passes before c.1.toList = c.1.toList := by
    rw [passes_eq_self_iff hvalid]
    intro b hb
    simpa [hruns, String.toList_inj] using hbefore b hb
  rw [settle, hsplit, passes_append, hkeep, passes_cons, pass_run hname hruns, if_pos rfl, settle]

lemma ValidNames.settle_other (hv : ValidNames clauses) {cs r : Chars} (hr : r ∈ runs cs)
    (hstar : '*' ∉ cs) (hno : ∀ c ∈ clauses, c.1.toList ≠ r) :
    settle (byLength clauses) r = capitals r := by
  have hruns := runs_of_mem_runs hr
  have hkeep : passes (byLength clauses) r = r := by
    rw [passes_eq_self_iff hv.isName_byLength]
    intro c hc
    simpa [hruns] using hno c (mem_byLength.1 hc)
  have hcap : '*' ∉ capitalise r := by
    rw [capitalise_run hruns]
    exact not_mem_capitals fun hmem => hstar (mem_of_mem_runs hr hmem)
  rw [settle, hkeep, finish_of_noStar hcap, capitalise_run hruns]

section

variable {c : NamedClause} (hv : ValidNames clauses) (hc : c ∈ clauses)
include hv hc

lemma ValidNames.written_name : written clauses c.1.toList = clauseTemplate c.2 := by
  rw [written, String.ofList_toList, hv.lookup_eq hc, clauseTemplate]

lemma ValidNames.settle_name_eq_or_lt :
    settle (byLength clauses) c.1.toList = clauseTemplate c.2 ∨
      weight (settle (byLength clauses) c.1.toList) < weight (clauseTemplate c.2) := by
  rw [hv.settle_name hc]
  exact (shrinks_settle (hv.isName_replacedAfter c.1)).eq_or_lt
    (insertion_eq_or_lt (hv.isName c hc))

lemma ValidNames.settle_name_eq_iff (hr : Readable c.2) :
    settle (byLength clauses) c.1.toList = clauseTemplate c.2 ↔
      Verbatim (replacedAfter clauses c.1) c.2 := by
  have hname := hv.isName c hc
  have hlater := hv.isName_replacedAfter c.1
  rw [hv.settle_name hc, (shrinks_settle hlater).eq_iff (insertion_eq_or_lt hname),
    insertion_eq_iff hname hr, settle_clauseTemplate_eq_self_iff hlater]
  constructor
  · rintro ⟨hlit, hnames, hops, hquant⟩
    exact ⟨hlit, hnames, hops, hquant⟩
  · rintro ⟨hlit, hnames, hops, hquant⟩
    exact ⟨hlit, hnames, hops, hquant⟩

end

lemma written_other {r : Chars} (hno : ∀ c ∈ clauses, c.1.toList ≠ r) :
    written clauses r = capitals r := by
  have hnone : clauses.lookup (String.ofList r) = none := by
    rw [lookup_eq_none_iff]
    intro c hc
    refine bne_iff_ne.2 fun he => hno c hc ?_
    rw [← he, String.toList_ofList]
  rw [written, hnone]

lemma ValidNames.settle_eq_iff (hv : ValidNames clauses) (hread : ∀ c ∈ clauses, Readable c.2)
    {cs : Chars} (hstar : '*' ∉ cs) :
    settle (byLength clauses) cs = (runs cs).flatMap (written clauses) ↔
      ∀ c ∈ clauses, c.1.toList ∈ runs cs → Verbatim (replacedAfter clauses c.1) c.2 := by
  have hrun : ∀ r ∈ runs cs, settle (byLength clauses) r = written clauses r ∨
      weight (settle (byLength clauses) r) < weight (written clauses r) := fun r hr => by
    by_cases hno : ∀ c ∈ clauses, c.1.toList ≠ r
    · exact .inl (by rw [hv.settle_other hr hstar hno, written_other hno])
    · push Not at hno
      obtain ⟨c, hc, rfl⟩ := hno
      rw [hv.written_name hc]
      exact hv.settle_name_eq_or_lt hc
  rw [settle_eq_flatMap hv.isName_byLength hstar]
  constructor
  · intro he c hc hmem
    have hall := (eq_or_lt_flatMap hrun).resolve_right (by rw [he]; exact lt_irrefl _)
    rw [← hv.settle_name_eq_iff hc (hread c hc), hall _ hmem, hv.written_name hc]
  · intro h
    refine flatMap_congr fun r hr => ?_
    by_cases hno : ∀ c ∈ clauses, c.1.toList ≠ r
    · rw [hv.settle_other hr hstar hno, written_other hno]
    · push Not at hno
      obtain ⟨c, hc, rfl⟩ := hno
      rw [hv.written_name hc, (hv.settle_name_eq_iff hc (hread c hc)).2 (h c hc hr)]

lemma resolve_eq_ok_iff (hne : clauses ≠ []) {condition : String} (hcond : condition ≠ "")
    (hname : ∀ c ∈ clauses, c.1 ≠ condition) {out : String} : resolve condition clauses = .ok out ↔
      (∀ c ∈ clauses, Readable c.2) ∧
        out = String.ofList (settle (byLength clauses) condition.toList) := by
  have hempty : (condition.isEmpty || clauses.isEmpty) = false := by
    simp [hne, hcond]
  rw [resolve, hempty, lookupClause_eq_none hname]
  simp only [Bool.false_eq_true, if_false, bind_eq_ok, foldlM_substitute, mem_byLength]
  constructor
  · rintro ⟨text, ⟨hread, rfl⟩, hout⟩
    exact ⟨hread, (Except.ok.inj hout).symm⟩
  · rintro ⟨hread, rfl⟩
    exact ⟨_, ⟨hread, rfl⟩, rfl⟩

lemma ValidNames.resolve_eq_iff (hv : ValidNames clauses) (hne : clauses ≠ [])
    {condition : String} (hcond : condition ≠ "") (hname : ∀ c ∈ clauses, c.1 ≠ condition)
    (hstar : '*' ∉ condition.toList) : resolve condition clauses = .ok (onePass clauses condition) ↔
      (∀ c ∈ clauses, Readable c.2) ∧ ∀ c ∈ clauses, c.1.toList ∈ runs condition.toList →
        Verbatim (replacedAfter clauses c.1) c.2 := by
  rw [resolve_eq_ok_iff hne hcond hname]
  refine and_congr_right fun hread => ?_
  rw [onePass, String.ofList_inj, eq_comm, hv.settle_eq_iff hread hstar]

end

/-! ## Clauses that no pass touches -/

/-- A clause in which no pass finds anything: it has no backslash, no ` of ` and, as a word, no
    name and no operator. -/
structure Clean (clauses : List NamedClause) (clause : String) : Prop where
  backslash : '\\' ∉ clause.toList
  quantifier : ¬ " of ".toList <:+: clause.toList
  name : ∀ c ∈ clauses, c.1.toList ∉ runs clause.toList
  operator : ∀ r ∈ runs clause.toList, isOperator r = false

section

variable {clauses : List NamedClause} {clause : String}

lemma Clean.isLiteral (h : Clean clauses clause) : Template.IsLiteral (clauseTemplate clause) :=
  Template.isLiteral_of_noBackslash (by simp [clauseTemplate, h.backslash])

lemma Clean.readable (h : Clean clauses clause) : Readable clause :=
  ⟨_, Template.parse_of_isLiteral h.isLiteral⟩

lemma Clean.verbatim (h : Clean clauses clause) {later : List NamedClause}
    (hl : ∀ c ∈ later, c ∈ clauses) : Verbatim later clause where
  literal := h.isLiteral
  names c hc := h.name c (hl c hc)
  operators r hr hop := by simp [h.operator r hr] at hop
  quantifiers start hs w _ _ hplace := by
    have hof : ∃ begin, start.toList = begin ++ " of ".toList := by
      rcases mem_pair.1 hs with rfl | rfl
      · exact ⟨['1'], rfl⟩
      · exact ⟨['a', 'l', 'l'], rfl⟩
    obtain ⟨begin, hbegin⟩ := hof
    rw [hbegin] at hplace
    exact h.quantifier (List.IsInfix.trans ⟨begin, w ++ ['*'], by simp⟩ hplace)

lemma mem_of_mem_replacedAfter {name : String} {c : NamedClause}
    (hc : c ∈ replacedAfter clauses name) : c ∈ clauses :=
  mem_byLength.1 ((dropWhile_suffix _).mem (mem_of_mem_tail hc))

variable {clauses' : List NamedClause}

lemma ValidNames.perm (hv : ValidNames clauses) (hp : clauses'.Perm clauses) :
    ValidNames clauses' where
  isName c hc := hv.isName c (hp.mem_iff.1 hc)
  nodup := (hp.map _).nodup_iff.2 hv.nodup

lemma Clean.perm (h : Clean clauses clause) (hp : clauses'.Perm clauses) :
    Clean clauses' clause where
  backslash := h.backslash
  quantifier := h.quantifier
  name c hc := h.name c (hp.mem_iff.1 hc)
  operator := h.operator

lemma ValidNames.onePass_perm (hv : ValidNames clauses) (hp : clauses'.Perm clauses)
    (condition : String) : onePass clauses' condition = onePass clauses condition := by
  have hrun : ∀ r, written clauses' r = written clauses r := fun r => by
    by_cases hno : ∀ c ∈ clauses, c.1.toList ≠ r
    · rw [written_other hno, written_other fun c hc => hno c (hp.mem_iff.1 hc)]
    · push Not at hno
      obtain ⟨c, hc, rfl⟩ := hno
      rw [hv.written_name hc, (hv.perm hp).written_name (hp.mem_iff.2 hc)]
  rw [onePass, onePass, funext hrun]

lemma ValidNames.resolve_of_clean (hv : ValidNames clauses) (hne : clauses ≠ [])
    (hclean : ∀ c ∈ clauses, Clean clauses c.2) {condition : String} (hcond : condition ≠ "")
    (hname : ∀ c ∈ clauses, c.1 ≠ condition) (hstar : '*' ∉ condition.toList) :
    resolve condition clauses = .ok (onePass clauses condition) := by
  rw [hv.resolve_eq_iff hne hcond hname hstar]
  refine ⟨fun c hc => (hclean c hc).readable, fun c hc _ => (hclean c hc).verbatim ?_⟩
  exact fun d hd => mem_of_mem_replacedAfter hd

end

/-- The passes over a condition, for names from the longest to the shortest, operators and
    quantifiers, come to one pass over its runs if no pass finds anything in a clause; the order of
    the clauses does not matter then. -/
theorem resolve_eq_onePass {clauses : List NamedClause} {condition : String}
    (hvalid : ValidNames clauses) (hne : clauses ≠ [])
    (hclean : ∀ c ∈ clauses, Clean clauses c.2) (hcond : condition ≠ "")
    (hname : ∀ c ∈ clauses, c.1 ≠ condition) (hstar : '*' ∉ condition.toList) :
    resolve condition clauses = .ok (onePass clauses condition) ∧
      ∀ clauses', clauses'.Perm clauses →
        resolve condition clauses' = .ok (onePass clauses condition) := by
  refine ⟨hvalid.resolve_of_clean hne hclean hcond hname hstar, fun clauses' hp => ?_⟩
  rw [← hvalid.onePass_perm hp]
  have hmem : ∀ {c}, c ∈ clauses' → c ∈ clauses := hp.mem_iff.1
  exact (hvalid.perm hp).resolve_of_clean (fun he => hne (by simpa [he] using hp))
    (fun c hc => (hclean c (hmem hc)).perm hp) hcond (fun c hc => hname c (hmem hc)) hstar

/-- A name that starts like another one, in both orders of the clauses. -/
theorem resolve_eq_onePass_alike :
    resolve "Not sel_1 and (sel OR sel_1x)" [("sel", "a=\"x y\""), ("sel_1", "isnull(b)")] =
        .ok "NOT (isnull(b)) AND ((a=\"x y\") OR sel_1x)" ∧
      resolve "Not sel_1 and (sel OR sel_1x)" [("sel_1", "isnull(b)"), ("sel", "a=\"x y\"")] =
        .ok "NOT (isnull(b)) AND ((a=\"x y\") OR sel_1x)" := by
  have hclean : ∀ c ∈ [("sel", "a=\"x y\""), ("sel_1", "isnull(b)")],
      Clean [("sel", "a=\"x y\""), ("sel_1", "isnull(b)")] c.2 := by
    intro c hc
    rcases mem_pair.1 hc with rfl | rfl
    · exact ⟨by decide, fun h => absurd (h.subset (by decide : 'f' ∈ _)) (by decide), by decide,
        by decide⟩
    · exact ⟨by decide, fun h => absurd (h.subset (by decide : 'f' ∈ _)) (by decide), by decide,
        by decide⟩
  have h := @resolve_eq_onePass _ "Not sel_1 and (sel OR sel_1x)" ⟨by decide, by decide⟩
    (by decide) hclean (by decide) (by decide) (by decide)
  exact ⟨h.1, h.2 _ (List.Perm.swap _ _ _)⟩

/-- Clauses come through a condition that is not just a name character for character if every
    template can be read and, for every name that the condition uses, nothing in the clause is
    taken for an escape, a name that is replaced later, an operator or a quantifier. A condition
    that is just a name gives the clause in any case. -/
theorem resolve_verbatim_iff {clauses : List NamedClause} {condition : String}
    (hvalid : ValidNames clauses) (hne : clauses ≠ []) (hcond : condition ≠ "")
    (hname : ∀ c ∈ clauses, c.1 ≠ condition) (hstar : '*' ∉ condition.toList) :
    (∀ c ∈ clauses, resolve c.1 clauses = .ok c.2) ∧
      (resolve condition clauses = .ok (onePass clauses condition) ↔
        (∀ c ∈ clauses, Readable c.2) ∧ ∀ c ∈ clauses, c.1.toList ∈ runs condition.toList →
          Verbatim (replacedAfter clauses c.1) c.2) := by
  refine ⟨fun c hc => ?_, hvalid.resolve_eq_iff hne hcond hname hstar⟩
  have hc' : c.1 ≠ "" := fun he => (hvalid.isName c hc).1 (by simp [he])
  rw [resolve, hvalid.lookupClause_eq hc]
  simp [hne, hc']

/-- An escape that stands for itself comes through. -/
theorem resolve_verbatim_escaped :
    resolve "b" [("b", "match(f, \"\\.exe\")")] = .ok "match(f, \"\\.exe\")" ∧
      resolve "not b" [("b", "match(f, \"\\.exe\")")] = .ok "NOT (match(f, \"\\.exe\"))" := by
  have hlit : Template.IsLiteral (clauseTemplate "match(f, \"\\.exe\")") := by decide
  have hverb : Verbatim [] "match(f, \"\\.exe\")" := by
    refine ⟨hlit, by decide, by decide, fun start _ w _ _ h => ?_⟩
    exact absurd (h.subset (by simp : '*' ∈ _)) (by decide)
  have h := @resolve_verbatim_iff [("b", "match(f, \"\\.exe\")")] "not b" ⟨by decide, by decide⟩
    (by decide) (by decide) (by decide) (by decide)
  refine ⟨h.1 _ (mem_singleton_self _), h.2.2 ⟨?_, ?_⟩⟩
  · rw [forall_mem_singleton]
    exact ⟨_, Template.parse_of_isLiteral hlit⟩
  · rw [forall_mem_singleton, replacedAfter, byLength, mergeSort_singleton]
    exact fun _ => hverb

/-- A backslash of a value is doubled in the clause of its selection, and halved again by a
    condition that is not just the name. -/
theorem resolve_halves_backslash :
    selectionClause [("CommandLine", .text "CommandLine")]
        [(FieldRef.ofText "CommandLine", .text "C:\\Temp")] =
          "lower(CommandLine)=lower(\"C:\\\\Temp\")" ∧
      resolve "selection" [("selection", "lower(CommandLine)=lower(\"C:\\\\Temp\")")] =
        .ok "lower(CommandLine)=lower(\"C:\\\\Temp\")" ∧
      onePass [("selection", "lower(CommandLine)=lower(\"C:\\\\Temp\")")] "not selection" =
        "NOT (lower(CommandLine)=lower(\"C:\\\\Temp\"))" ∧
      resolve "not selection" [("selection", "lower(CommandLine)=lower(\"C:\\\\Temp\")")] =
        .ok "NOT (lower(CommandLine)=lower(\"C:\\Temp\"))" := by
  refine ⟨rfl, rfl, rfl, ?_⟩
  rw [resolve, byLength, mergeSort_singleton]
  rfl

end Huntbook.Search
