import Huntbook.Proofs.Converted
import Huntbook.Proofs.Phrase

/-!
# Searches without names

In the search of a rule, the condition should be left with nothing but operators in capitals and the
clauses of blocks. Here this is decided for every rule whose condition is made up of phrases over
the names of its blocks: the search has what becomes of the phrases, one after the other, and a
phrase becomes what it should exactly if it is resolvable.

* `convert_resolves_iff`: what the search of such a rule has for every phrase;
-/

namespace Huntbook.Conversion

open Search

/-- The names of the blocks of a detection that are texts. -/
def blockNames (entries : Entries) : Texts :=
  (entries.filter fun e => !e.1.same (.text "condition")).filterMap fun e => e.1.text?

/-- The condition of a detection is made up of phrases over the names of its blocks. The clauses of
    the blocks have names that conditions can use. -/
structure Phrased (fields : FieldMap) (entries : Entries) (clauses : List NamedClause)
    (phrases : List Phrase) : Prop where
  condition : (Value.map entries).getOr "condition" (.text "") =
    .ok (.text (String.ofList (writePhrases phrases)))
  sketched : (sketches fields entries).map Sketch.clause = clauses.map fun c => (.text c.1, c.2)
  names : ValidNames clauses
  valid : ∀ phrase ∈ phrases, phrase.Valid (blockNames entries)
  separate : phrases.IsChain Phrase.Separate

lemma Phrased.exists_mem_clause {fields : FieldMap} {entries : Entries}
    {clauses : List NamedClause} {phrases : List Phrase}
    (h : Phrased fields entries clauses phrases) {c : NamedClause} (hc : c ∈ clauses) :
    ∃ d ∈ c.2.toList, Text.isWord d = false := by
  have hmem : (Value.text c.1, c.2) ∈ (sketches fields entries).map Sketch.clause := by
    rw [h.sketched]
    exact List.mem_map_of_mem hc
  obtain ⟨d, hd, he⟩ := List.mem_map.1 hmem
  have hspell : spell d.2 = c.2 := congrArg Prod.snd he
  rw [← hspell, toList_spell]
  exact noWord_sketches hd

/-- The search of a rule whose condition is made up of phrases has the clause of a block, if the
    condition is just its name, and else what becomes of the phrases; these become what they should
    if they are resolvable. -/
theorem convert_resolves_iff {rule : Value} {options : Options} {result : Result}
    {entries : List (Value × Value)} {clauses : List NamedClause} {phrases : List Phrase}
    (h : convert rule options = .ok result)
    (hdetection : rule.getOr "detection" (.map []) = .ok (.map entries))
    (hphrased : Phrased (fieldMap options.custom options.useModel) entries clauses phrases)
    (hclauses : clauses ≠ []) (hphrases : phrases ≠ []) :
    ∃ feed, (LogSource.ofRule rule >>= LogSource.feed) = .ok feed ∧
      (∀ c ∈ clauses, c.1.toList = writePhrases phrases →
        result.search = searchText (scopeOf options feed) c.2 options.timeRange) ∧
      ((∀ c ∈ clauses, c.1.toList ≠ writePhrases phrases) →
        result.search = searchText (scopeOf options feed)
          (String.ofList (phrases.flatMap fun phrase => settle (byLength clauses) phrase.text))
          options.timeRange ∧
        ∀ phrase ∈ phrases,
          phrase.Resolved (blockNames entries) clauses (settle (byLength clauses) phrase.text) ↔
            phrase.Resolvable clauses) := by
  obtain ⟨feed, entries', condition, blocks, clause, survey, needs, hfeed, hdetection', hcondition,
    hblocks, hclause, -, -, rfl⟩ := convert_eq_ok.1 h
  obtain rfl : entries = entries' := by simpa [hdetection] using hdetection'
  rw [hphrased.condition, Except.ok.injEq] at hcondition
  rw [← hcondition, clausesOf_eq hblocks, hphrased.sketched] at hclause
  have hresolve := (resolveValue_text (namedTexts?_eq_some.2 rfl)).1 hclause
  have htext : writePhrases phrases ≠ [] := writePhrases_ne_nil hphrased.valid hphrases
  have hcond : String.ofList (writePhrases phrases) ≠ "" := by
    rw [Ne, ← String.toList_inj, String.toList_ofList]
    exact htext
  refine ⟨feed, hfeed, fun c hc he => ?_, fun hno => ?_⟩
  · have hempty : ¬(c.1.isEmpty || clauses.isEmpty) := by
      rw [← he, String.ofList_toList] at hcond
      simp [hcond, hclauses]
    rw [← he, String.ofList_toList, resolve, if_neg hempty, hphrased.names.lookupClause_eq hc,
      Except.ok.injEq] at hresolve
    rw [hresolve]
  · have hname : ∀ c ∈ clauses, c.1 ≠ String.ofList (writePhrases phrases) := fun c hc he =>
      hno c hc (by rw [he, String.toList_ofList])
    obtain ⟨hread, hout⟩ := (resolve_eq_ok_iff hclauses hcond hname).1 hresolve
    rw [String.toList_ofList, settle_phrases hphrased.names.isName_byLength hphrased.valid
      hphrased.separate] at hout
    refine ⟨by rw [hout], fun phrase hmem => ?_⟩
    exact resolved_iff_resolvable hphrased.names hread (fun c hc => hphrased.exists_mem_clause hc)
      (hphrased.valid phrase hmem)

/-- The detection with the given blocks and condition. -/
def detectionWith (blocks : Fields) (condition : String) : Entries :=
  blocks.map (fun b => (.text b.1, b.2)) ++ [(.text "condition", .text condition)]

/-- A rule with this detection, for any log source. -/
def ruleWith (blocks : Fields) (condition : String) : Value :=
  .record [("logsource", .record []), ("detection", .map (detectionWith blocks condition))]

/-- Two blocks, of which the second one is empty and has no clause. -/
def twoBlocks : Fields := [("a1", .record [("F", .int 1)]), ("a2", .record [])]

/-- The phrases of `not a1 or a2 and 1 of a*`. -/
def twoPhrases : List Phrase :=
  [.operator "not".toList, .mark ' ', .name "a1", .mark ' ', .operator "or".toList, .mark ' ',
   .name "a2", .mark ' ', .operator "and".toList, .mark ' ', .quantifier false "a".toList]

lemma phrased_twoBlocks : Phrased (fieldMap [] false)
    (detectionWith twoBlocks "not a1 or a2 and 1 of a*") [("a1", "UNMAPPED_F=1")] twoPhrases where
  condition := by cbv
  sketched := by cbv
  names := ⟨by decide, by decide⟩
  valid := by decide +kernel
  separate := by decide

/-- Of `not a1 or a2 and 1 of a*`, the second name and the word of the quantifier are left. -/
theorem convert_resolves_twoBlocks : ∃ result feed,
    convert (ruleWith twoBlocks "not a1 or a2 and 1 of a*") .default = .ok result ∧
    result.search = "index=*\n| where NOT (UNMAPPED_F=1) OR a2 AND (a)" ∧
    result.search = searchText (scopeOf .default feed)
      (String.ofList (twoPhrases.flatMap fun phrase =>
        settle (byLength [("a1", "UNMAPPED_F=1")]) phrase.text)) .null ∧
    ∀ phrase ∈ twoPhrases,
      phrase.Resolved ["a1", "a2"] [("a1", "UNMAPPED_F=1")]
          (settle (byLength [("a1", "UNMAPPED_F=1")]) phrase.text) ↔
        phrase.Resolvable [("a1", "UNMAPPED_F=1")] := by
  obtain ⟨result, hconvert, hsearch⟩ : ∃ result,
      convert (ruleWith twoBlocks "not a1 or a2 and 1 of a*") .default = .ok result ∧
        (result.search == "index=*\n| where NOT (UNMAPPED_F=1) OR a2 AND (a)") = true :=
    exists_ok_of_any (by decide +kernel)
  obtain ⟨feed, -, -, hphrases⟩ := convert_resolves_iff hconvert (by cbv) phrased_twoBlocks
    (by decide) (by decide)
  obtain ⟨hstage, hiff⟩ := hphrases (by decide)
  have hnames : blockNames (detectionWith twoBlocks "not a1 or a2 and 1 of a*") = ["a1", "a2"] := by
    cbv
  rw [hnames] at hiff
  exact ⟨result, feed, hconvert, by simpa using hsearch, hstage, hiff⟩

/-- The word of a quantifier is left in the search, and nothing of the block that it covers. -/
theorem search_oneOf : ∃ result,
    Phrased (fieldMap [] false)
      (detectionWith [("selection_a", .record [("F", .int 1)])] "1 of selection_*")
      [("selection_a", "UNMAPPED_F=1")] [.quantifier false "selection_".toList] ∧
    convert (ruleWith [("selection_a", .record [("F", .int 1)])] "1 of selection_*") .default =
      .ok result ∧
    result.search = "index=*\n| where (selection_)" := by
  obtain ⟨result, hconvert, hsearch⟩ : ∃ result,
      convert (ruleWith [("selection_a", .record [("F", .int 1)])] "1 of selection_*") .default =
        .ok result ∧ (result.search == "index=*\n| where (selection_)") = true :=
    exists_ok_of_any (by decide +kernel)
  exact ⟨result, ⟨by cbv, by cbv, ⟨by decide, by decide⟩, by decide +kernel, by decide⟩, hconvert,
    by simpa using hsearch⟩

end Huntbook.Conversion
