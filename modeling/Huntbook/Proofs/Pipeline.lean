import Huntbook.Proofs.Convertible

/-!
# Stages of the searches of rules

The search of a rule is a pipeline, whose stages should not depend on the texts in the blocks of the
rule. Where the condition is just the name of a block, this is so as long as every text of the block
stays in a literal of its own, which takes a comparison that escapes values and a literal that is
open where the text starts.

* `stages_eq_iff_sealed`: these are the rules whose texts do not change the stages of the search;
-/

namespace Huntbook.Conversion

open List Search

/-! ## The use of clauses in a search -/

variable {rule rule' : Value} {options : Options} {scope : Scope} {use : Use} {result : Result}

def outline (rule : Value) (options : Options) : Try (Scope × Use) := do
  let feed ← LogSource.ofRule rule >>= LogSource.feed
  let detection ← rule.getOr "detection" (.map [])
  let condition ← detection.getOr "condition" (.text "")
  let entries ← detection.entries
  return (scopeOf options feed,
    useOf condition (sketches (fieldMap options.custom options.useModel) entries))

lemma outline_eq_ok : outline rule options = .ok (scope, use) ↔ ∃ feed entries condition,
      (LogSource.ofRule rule >>= LogSource.feed) = .ok feed ∧
      rule.getOr "detection" (.map []) = .ok (.map entries) ∧
      (Value.map entries).getOr "condition" (.text "") = .ok condition ∧
      scope = scopeOf options feed ∧
      use = useOf condition (sketches (fieldMap options.custom options.useModel) entries) := by
  simp only [outline, bind_eq_ok]
  constructor
  · rintro ⟨feed, hfeed, detection, hdetection, condition, hcondition, entries, hentries, hout⟩
    cases detection with
    | map es =>
      obtain rfl := Except.ok.inj hentries
      have hout := Prod.mk.inj (Except.ok.inj hout)
      exact ⟨feed, es, condition, hfeed, hdetection, hcondition, hout.1.symm, hout.2.symm⟩
    | _ => simp [Value.entries] at hentries
  · rintro ⟨feed, entries, condition, hfeed, hdetection, hcondition, rfl, rfl⟩
    exact ⟨feed, hfeed, _, hdetection, condition, hcondition, entries, rfl, rfl⟩

lemma search_of_convert (h : convert rule options = .ok result) :
    ∃ scope use clause, outline rule options = .ok (scope, use) ∧ use.Makes clause ∧
      result.search = searchText scope clause options.timeRange := by
  obtain ⟨feed, entries, condition, blocks, clause, survey, needs, hfeed, hdetection, hcondition,
    hblocks, hclause, -, -, rfl⟩ := convert_eq_ok.1 h
  rw [clausesOf_eq hblocks] at hclause
  exact ⟨_, _, clause, outline_eq_ok.2 ⟨feed, entries, condition, hfeed, hdetection, hcondition, rfl,
    rfl⟩, makes_of_resolveValue hclause, rfl⟩

lemma chars_outline_ne_nil {ps : List Part} (h : outline rule options = .ok (scope, .block ps)) :
    chars ps ≠ [] := by
  obtain ⟨feed, entries, condition, -, -, -, -, huse⟩ := outline_eq_ok.1 h
  obtain ⟨d, hd, rfl⟩ := exists_mem_of_useOf huse.symm
  exact (noWord_sketches hd).ne_nil

lemma RewordedDetection.condition {v w : Value} (h : RewordedDetection v w) {d : Value} :
    w.getOr "condition" d = v.getOr "condition" d := by
  cases h with
  | map h =>
    obtain ⟨v, w, hv, hw, hsame⟩ := Entrywise.getOr h "condition" (.inl (Eq.refl d))
    rcases hsame with rfl | ⟨hname, -⟩
    · rw [hv, hw]
    · exact absurd rfl hname

lemma sketch_reworded {fields : FieldMap} {e f : Value × Value}
    (h : f.1 = e.1 ∧ Reworded e.2 f.2) :
    Option.Rel (SameNames (Forall₂ Alike)) ((blockParts fields e.2).map (e.1, ·))
      ((blockParts fields f.2).map (f.1, ·)) := by
  obtain ⟨hname, hblock⟩ := h
  have hparts := hblock.blockParts fields
  generalize blockParts fields e.2 = o at hparts
  generalize blockParts fields f.2 = o' at hparts
  cases hparts with
  | none => exact .none
  | some hparts => exact .some ⟨hname, hparts⟩

lemma sketches_reworded {fields : FieldMap} {es fs : Entries}
    (h : RewordedDetection (.map es) (.map fs)) :
    Forall₂ (SameNames (Forall₂ Alike)) (sketches fields es) (sketches fields fs) := by
  cases h with
  | map h =>
    have hall : Entrywise (fun _ => Reworded) es fs := h.imp fun e f hef =>
      ⟨hef.1, hef.2.elim (fun hsame => hsame ▸ .refl e.2) (·.2)⟩
    refine rel_filterMap (fun e f hef => sketch_reworded hef)
      (rel_filter (fun e f hef => ?_) hall)
    simp only [hef.1]

lemma RewordedRule.logSource (h : RewordedRule rule rule') :
    LogSource.ofRule rule' = LogSource.ofRule rule := by
  rw [LogSource.ofRule, LogSource.ofRule, h.getOr.1]

lemma outline_reworded {scope' : Scope} {use' : Use} (h : RewordedRule rule rule')
    (ho : outline rule options = .ok (scope, use))
    (ho' : outline rule' options = .ok (scope', use')) :
    scope' = scope ∧ Use.Rel (Forall₂ Alike) use use' := by
  obtain ⟨-, v, w, hv, hw, hdetection⟩ := h.getOr
  obtain ⟨feed, es, condition, hfeed, hes, hcondition, rfl, rfl⟩ := outline_eq_ok.1 ho
  obtain ⟨feed', fs, condition', hfeed', hfs, hcondition', rfl, rfl⟩ := outline_eq_ok.1 ho'
  have hscope : feed' = feed := by
    rw [h.logSource] at hfeed'
    exact Except.ok.inj (hfeed'.symm.trans hfeed)
  obtain rfl : v = .map es := Except.ok.inj (hv.symm.trans hes)
  obtain rfl : w = .map fs := Except.ok.inj (hw.symm.trans hfs)
  have hdetection : RewordedDetection (.map es) (.map fs) := by
    rcases hdetection with hsame | h
    · rw [hsame]
      exact .map (forall₂_same.2 fun e _ => ⟨rfl, .inl rfl⟩)
    · exact h
  obtain rfl : condition' = condition := by
    rw [hdetection.condition] at hcondition'
    exact Except.ok.inj (hcondition'.symm.trans hcondition)
  exact ⟨by rw [hscope], useOf_rel condition' (sketches_reworded hdetection)⟩

/-! ## Rules with other texts -/

section

variable (g : Option Comparison → String) {fields : FieldMap} {entries : Entries}

lemma getOr_rewordRule (rule : Value) : (rewordRule g rule).getOr "detection" (.map []) =
      (rule.getOr "detection" (.map [])).map (rewordDetection g) := by
  cases rule with
  | map entries =>
    simp only [rewordRule, Value.getOr, Value.find?, find?_map, Function.comp_def, Except.map]
    cases hfind : entries.find? fun e => (Value.text "detection").same e.1 with
    | none => rfl
    | some e => simp [find?_some hfind]
  | _ => rfl

lemma filter_rewordNamed (entries : Entries) :
    (entries.map (rewordNamed g)).filter (fun e => !e.1.same (.text "condition")) =
      (entries.filter fun e => !e.1.same (.text "condition")).map fun e =>
        (e.1, rewordBlock g e.2) := by
  rw [filter_map]
  refine map_congr_left fun e he => ?_
  have hname : e.1.same (.text "condition") = false := by
    simpa [rewordNamed] using (mem_filter.1 he).2
  simp [rewordNamed, hname]

lemma sketches_rewordNamed (entries : Entries) : sketches fields (entries.map (rewordNamed g)) =
      (sketches fields entries).map fun d => (d.1, d.2.map (Part.reword g)) := by
  unfold sketches
  rw [filter_rewordNamed, filterMap_map, map_filterMap]
  refine filterMap_congr fun e _ => ?_
  simp [blockParts_rewordBlock, Function.comp_def]

lemma selections_rewordNamed (entries : Entries) : selections (entries.map (rewordNamed g)) =
      (selections entries).map (map (rewordEntry g)) := by
  have hblock (v : Value) : blockSelections (rewordBlock g v) =
      (blockSelections v).map (map (rewordEntry g)) := by
    cases v with
    | list items =>
      simp only [rewordBlock, blockSelections, filterMap_map, map_filterMap]
      exact filterMap_congr fun v _ => by cases v <;> rfl
    | _ => rfl
  simp only [selections, filter_rewordNamed, flatMap_map, hblock, map_flatMap]

lemma blocksOf_rewordNamed {blocks : List (Value × Block)}
    (h : blocksOf fields entries = .ok blocks) :
    ∃ blocks', blocksOf fields (entries.map (rewordNamed g)) = .ok blocks' ∧
      fieldsOf blocks' = fieldsOf blocks := by
  have hworded := blocksOf_succeeds_iff.1 ⟨blocks, h⟩
  obtain ⟨blocks', h'⟩ : Succeeds (blocksOf fields (entries.map (rewordNamed g))) := by
    rw [blocksOf_succeeds_iff, selections_rewordNamed]
    refine forall_mem_map.2 fun selection hselection => forall_mem_map.2 fun e he => ?_
    rw [rewordEntry_fst]
    exact (hworded selection hselection e he).imp_right (isWritten_rewordEntry g)
  refine ⟨blocks', h', Rule.sortedTexts_eq_iff.2 fun field => ?_⟩
  have hcompares (selection : Entries) :
      Compares (fun _ => True) (selection.map (rewordEntry g)) field ↔
        Compares (fun _ => True) selection field := by
    have hnames (selection : Entries) : Compares (fun _ => True) selection field ↔
        ∃ key, Value.text key ∈ selection.map Prod.fst ∧ keyName key = field := by
      simp [Compares]
    simp [hnames, Function.comp_def, rewordEntry_fst]
  refine (mem_fieldsOf h').trans (Iff.trans ?_ (mem_fieldsOf h).symm)
  simp [selections_rewordNamed, hcompares]

lemma isDigits_of_rewordField (hg : ∀ k, isDigits (g k) = false) {modifiers : Texts}
    {v : Value} {items : List Value} (h : rewordField g modifiers v = .list items) {s : String}
    (hs : Value.text s ∈ items) : isDigits s = false := by
  cases v with
  | list values =>
    cases h
    obtain ⟨w, -, hw⟩ := mem_map.1 hs
    cases w with
    | text t =>
      cases hw
      exact hg _
    | _ => cases hw
  | _ => cases h

lemma ruleCodes_rewordRule (hg : ∀ k, isDigits (g k) = false)
    (h : rule.getOr "detection" (.map []) = .ok (.map entries)) :
    Succeeds (ruleCodes (rewordRule g rule)) := by
  have hdetection : (rewordRule g rule).getOr "detection" (.map []) =
      .ok (.map (entries.map (rewordNamed g))) := by
    rw [getOr_rewordRule, h]
    rfl
  rw [ruleCodes_succeeds_iff hdetection]
  intro name selection hmem hname field _ items hitems s hs hdigits
  obtain ⟨⟨_, block⟩, -, he⟩ := mem_map.1 hmem
  obtain ⟨rfl, hblock⟩ := Prod.mk.inj he
  rw [if_neg (mt Value.same_text.1 hname)] at hblock
  cases block with
  | map es =>
    cases hblock
    obtain ⟨e, hfind, hlist⟩ := Option.map_eq_some_iff.1 hitems
    obtain ⟨e', -, rfl⟩ := mem_map.1 (mem_of_find?_eq_some hfind)
    have hkey := find?_some hfind
    rw [rewordEntry_fst, Value.text_same] at hkey
    rw [rewordEntry, hkey] at hlist
    rw [isDigits_of_rewordField g hg hlist hs] at hdigits
    cases hdigits
  | _ => cases hblock

end

lemma outline_rewordRule (g : Option Comparison → String)
    (h : outline rule options = .ok (scope, use)) : RewordedRule rule (rewordRule g rule) ∧
      outline (rewordRule g rule) options = .ok (scope, use.reword g) := by
  obtain ⟨feed, entries, condition, hfeed, hdetection, hcondition, rfl, rfl⟩ := outline_eq_ok.1 h
  have hreworded : RewordedRule rule (rewordRule g rule) := by
    cases rule with
    | map es => exact reworded_rewordRule g es
    | _ => simp [Value.getOr] at hdetection
  refine ⟨hreworded, outline_eq_ok.2 ⟨feed, entries.map (rewordNamed g), condition, ?_, ?_,
    (reworded_rewordNamed g entries).condition.trans hcondition, rfl, ?_⟩⟩
  · rwa [hreworded.logSource]
  · rw [getOr_rewordRule, hdetection]
    rfl
  · rw [sketches_rewordNamed, useOf_reword]

lemma convert_rewordRule {g : Option Comparison → String} (hg : ∀ k, isDigits (g k) = false)
    (h : convert rule options = .ok result) (ho : outline rule options = .ok (scope, use))
    (huse : use.reword g ≠ .nothing) {clause : String} (hclause : (use.reword g).Makes clause) :
    ∃ result', convert (rewordRule g rule) options = .ok result' ∧
      result'.search = searchText scope clause options.timeRange := by
  obtain ⟨feed, entries, -, blocks, -, survey, needs, hfeed, hdetection, -, hblocks, -, hsurvey,
    hneeds, -⟩ := convert_eq_ok.1 h
  obtain ⟨hreworded, ho'⟩ := outline_rewordRule g ho
  obtain ⟨feed', entries', condition, hfeed', hdetection', hcondition, rfl, huse'⟩ :=
    outline_eq_ok.1 ho'
  obtain rfl : feed' = feed := by
    rw [hreworded.logSource] at hfeed'
    exact Except.ok.inj (hfeed'.symm.trans hfeed)
  obtain rfl : entries.map (rewordNamed g) = entries' := by
    rw [getOr_rewordRule, hdetection] at hdetection'
    simpa [Except.map, rewordDetection] using hdetection'
  obtain ⟨blocks', hblocks', hfields⟩ := blocksOf_rewordNamed g hblocks
  have hresolve : resolveValue condition (clausesOf blocks') = .ok clause := by
    rw [huse'] at huse hclause
    rw [clausesOf_eq hblocks']
    exact resolveValue_of_makes huse hclause
  obtain ⟨source, hsource⟩ := exists_source_of_feed hfeed
  obtain ⟨needs', hneeds'⟩ := (requirements_succeeds_iff (hreworded.getOr.1.trans hsource) _).2
    ⟨((requirements_succeeds_iff hsource _).1 ⟨needs, hneeds⟩).1, ruleCodes_rewordRule g hg hdetection⟩
  refine ⟨_, convert_eq_ok.2 ⟨feed', _, condition, blocks', clause, survey, needs', hfeed',
    hdetection', hcondition, hblocks', hresolve, ?_, hneeds', rfl⟩, rfl⟩
  rw [hfields]
  exact hsurvey

/-! ## Stages of a search -/

def Scope.zone (scope : Scope) : Zone := Zone.outside.after (scope.text ++ "\n| where ").toList

def Use.Safe (z : Zone) : Use → Prop
  | .nothing => True
  | .block ps => Contained z ps
  | .replaced text cs => Untouched cs text

/-- A rule whose texts stay in literals of their own, or out of the condition. -/
def Sealed (rule : Value) (options : Options) : Prop :=
  ∃ scope use, outline rule options = .ok (scope, use) ∧ use.Safe scope.zone

section

variable {scope : Scope} {timeRange : Value}

lemma exists_toList_searchText (scope : Scope) (timeRange : Value) :
    ∃ rest, ∀ clause : String, clause.toList ≠ [] → (searchText scope clause timeRange).toList =
        (scope.text ++ "\n| where ").toList ++ (clause.toList ++ rest) := by
  refine ⟨(if timeRange.truthy then
    s!"\n| where _time >= relative_time(now(), \"{timeRange.plain}\")" else "").toList, ?_⟩
  intro clause hne
  have hfull : ¬clause.isEmpty := by
    rwa [String.isEmpty_iff, ← String.toList_eq_nil_iff]
  simp only [searchText, if_neg hfull]
  split <;> simp

lemma stages_searchText (timeRange : Value) {cs ds : Chars} (hcs : cs ≠ []) (hds : ds ≠ [])
    (hafter : scope.zone.after ds = scope.zone.after cs) :
    stages (searchText scope (String.ofList ds) timeRange) + scope.zone.bars cs =
      stages (searchText scope (String.ofList cs) timeRange) + scope.zone.bars ds := by
  obtain ⟨rest, hrest⟩ := exists_toList_searchText scope timeRange
  unfold stages
  rw [hrest _ (by simpa using hds), hrest _ (by simpa using hcs)]
  simp only [String.toList_ofList, Zone.bars_append]
  change _ + (scope.zone.bars ds + (scope.zone.after ds).bars rest) + 1 + _ =
    _ + (scope.zone.bars cs + (scope.zone.after cs).bars rest) + 1 + _
  rw [hafter]
  omega

/-! ## Rules that are sealed -/

lemma stages_eq_of_safe {use use' : Use} {clause clause' : String}
    (hsafe : use.Safe scope.zone) (hrel : Use.Rel (List.Forall₂ Alike) use use')
    (hne : ∀ ps, use = .block ps → chars ps ≠ []) (hne' : ∀ ps, use' = .block ps → chars ps ≠ [])
    (hclause : use.Makes clause) (hclause' : use'.Makes clause') :
    stages (searchText scope clause' timeRange) = stages (searchText scope clause timeRange) := by
  cases hrel with
  | nothing => rw [show clause = "" from hclause, show clause' = "" from hclause']
  | block halike =>
    obtain rfl := hclause
    obtain rfl := hclause'
    obtain ⟨hafter, hbars⟩ := Contained.zone hsafe halike
    have hstages := stages_searchText timeRange (hne _ rfl) (hne' _ rfl) hafter
    rw [hbars] at hstages
    exact Nat.add_right_cancel hstages
  | replaced text halike =>
    obtain ⟨-, rfl⟩ := hclause
    obtain ⟨-, rfl⟩ := hclause'
    rw [settle, settle, Untouched.passes_eq hsafe halike]

/-! ## Rules that are not -/

lemma contained_of_stages_eq {ps : List Part} (hcalm : chars (ps.map (Part.reword calm)) ≠ [])
    (hrough : chars (ps.map (Part.reword rough)) ≠ [])
    (h : stages (searchText scope (spell (ps.map (Part.reword rough))) timeRange) =
      stages (searchText scope (spell (ps.map (Part.reword calm))) timeRange)) :
    Contained scope.zone ps := by
  obtain ⟨hafter, -, hcontained⟩ := contained_of_bars_le scope.zone ps
  have hstages := stages_searchText timeRange hcalm hrough hafter
  unfold spell at h
  exact hcontained (by omega)

lemma untouched_of_stages_eq {longest : Nat} {cs : List NamedParts} {text : Chars}
    (hlen : ∀ c ∈ cs, c.1.length ≤ longest) (hread : ∀ c ∈ cs, Readable (spell c.2))
    (h : stages (searchText scope (String.ofList
        (settle ((cs.map (NamedParts.reword (loud longest))).map NamedParts.clause) text))
          timeRange) = stages (searchText scope (String.ofList
        (settle ((cs.map (NamedParts.reword (quiet longest))).map NamedParts.clause) text))
          timeRange)) : Untouched cs text := by
  by_contra hno
  obtain ⟨m, htwin, -, hpos⟩ := twin_passes hlen hread (Twin.refl text)
  obtain ⟨n, rfl⟩ := Nat.exists_eq_succ_of_ne_zero (Nat.pos_iff_ne_zero.1 (hpos hno))
  have hfinish := htwin.map splits_finish
  obtain ⟨hquiet, hloud⟩ := hfinish.ne_nil
  obtain ⟨hafter, hbars⟩ := hfinish.zone scope.zone
  have hstages := stages_searchText timeRange hquiet hloud hafter
  unfold settle at h
  omega

end

lemma isDigits_calm (k : Option Comparison) : isDigits (calm k) = false := by
  rcases k with _ | c <;> [decide; (cases c <;> decide)]

lemma isDigits_rough (k : Option Comparison) : isDigits (rough k) = false := by
  rcases k with _ | c <;> [decide; (cases c <;> decide)]

lemma isDigits_padded (longest : Nat) (s : String) : isDigits (padded longest s) = false := by
  have hno : Text.isDigit ';' = false := by decide
  simp [isDigits, padded, padding, List.replicate_succ, hno]

lemma exists_length_le (cs : List NamedParts) : ∃ longest, ∀ c ∈ cs, c.1.length ≤ longest := by
  induction cs with
  | nil => exact ⟨0, by simp⟩
  | cons c cs ih =>
    obtain ⟨longest, hlen⟩ := ih
    exact ⟨max c.1.length longest, List.forall_mem_cons.2
      ⟨Nat.le_max_left _ _, fun d hd => Nat.le_trans (hlen d hd) (Nat.le_max_right _ _)⟩⟩

lemma safe_of_stages_eq {scope : Scope} (timeRange : Value) {use : Use} {clause : String} (n : Nat)
    (hclause : use.Makes clause) (hne : ∀ g ps, use.reword g = .block ps → chars ps ≠ [])
    (h : ∀ g : Option Comparison → String, (∀ k, isDigits (g k) = false) →
      use.reword g ≠ .nothing → ∀ clause', (use.reword g).Makes clause' →
        stages (searchText scope clause' timeRange) = n) :
    use.Safe scope.zone := by
  cases use with
  | nothing => trivial
  | block ps =>
    have hcalm := h calm isDigits_calm (by simp [Use.reword]) _ rfl
    have hrough := h rough isDigits_rough (by simp [Use.reword]) _ rfl
    exact contained_of_stages_eq (hne calm _ rfl) (hne rough _ rfl) (hrough.trans hcalm.symm)
  | replaced text cs =>
    obtain ⟨hread, -⟩ := hclause
    obtain ⟨longest, hlen⟩ := exists_length_le cs
    have hreads : ∀ c ∈ cs, Readable (spell (c.2.map (Part.reword (quiet longest)))) ∧
        Readable (spell (c.2.map (Part.reword (loud longest)))) := by
      intro c hc
      obtain ⟨hquiet, hloud, -⟩ := twin_insertion longest c.1 (hread c hc)
      exact ⟨hquiet, hloud⟩
    have hquiet := h (quiet longest) (fun _ => isDigits_padded longest _) (by simp [Use.reword]) _
      ⟨List.forall_mem_map.2 fun c hc => (hreads c hc).1, rfl⟩
    have hloud := h (loud longest) (fun _ => isDigits_padded longest _) (by simp [Use.reword]) _
      ⟨List.forall_mem_map.2 fun c hc => (hreads c hc).2, rfl⟩
    exact untouched_of_stages_eq hlen hread (hloud.trans hquiet.symm)

/-- The stages of the search of a rule do not depend on the texts in its blocks exactly if the rule
    is sealed. -/
theorem stages_eq_iff_sealed {rule : Value} {options : Options} {result : Result}
    (h : convert rule options = .ok result) :
    (∀ rule' result', RewordedRule rule rule' → convert rule' options = .ok result' →
      stages result'.search = stages result.search) ↔ Sealed rule options := by
  obtain ⟨scope, use, clause, ho, hclause, hsearch⟩ := search_of_convert h
  constructor
  · intro hsame
    refine ⟨scope, use, ho, safe_of_stages_eq options.timeRange (stages result.search) hclause
      ?_ ?_⟩
    · intro g ps hblock
      exact chars_outline_ne_nil (hblock ▸ (outline_rewordRule g ho).2)
    · intro g hg huse clause' hclause'
      obtain ⟨result', hresult', hsearch'⟩ := convert_rewordRule hg h ho huse hclause'
      rw [← hsearch']
      exact hsame _ result' (outline_rewordRule g ho).1 hresult'
  · rintro ⟨scope', use', ho', hsafe⟩ rule' result' hrule hresult'
    obtain ⟨rfl, rfl⟩ : scope' = scope ∧ use' = use := by
      simpa using ho'.symm.trans ho
    obtain ⟨scope', use', clause', ho', hclause', hsearch'⟩ := search_of_convert hresult'
    obtain ⟨rfl, hrel⟩ := outline_reworded hrule ho ho'
    rw [hsearch, hsearch']
    refine stages_eq_of_safe hsafe hrel ?_ ?_ hclause hclause'
    · rintro ps rfl
      exact chars_outline_ne_nil ho
    · rintro ps rfl
      exact chars_outline_ne_nil ho'

/-- A detection with a single text, which is compared with the field `key`. -/
def singleDetection (key text : String) : Entries :=
  [(.text "selection", .record [(key, .text text)]), (.text "condition", .text "selection")]

/-- A rule with this detection, for any log source. -/
def singleRule (key text : String) : Value :=
  .record [("logsource", .record []), ("detection", .map (singleDetection key text))]

/-- A text that is compared as a pattern stays in its literal. -/
theorem stages_eq_pattern : ∃ result, convert (singleRule "CommandLine|re" "x") .default = .ok result ∧
    ∀ rule' result', RewordedRule (singleRule "CommandLine|re" "x") rule' →
      convert rule' .default = .ok result' → stages result'.search = stages result.search := by
  obtain ⟨result, hresult, -⟩ := exists_ok_of_any (p := fun _ => true)
    (show (convert (singleRule "CommandLine|re" "x") .default).toOption.any _ = true by decide +kernel)
  refine ⟨result, hresult, (stages_eq_iff_sealed hresult).2 ?_⟩
  refine ⟨scopeOf .default anyFeed, .block [.compared "CommandLine" ["re"] "x"], by cbv, rfl, ?_,
    trivial⟩
  decide +kernel

/-- A quote in a text with a wildcard ends the literal, and a bar after it starts a stage. -/
theorem stages_change_with_text : ∃ rule rule' result result', RewordedRule rule rule' ∧
    convert rule .default = .ok result ∧ convert rule' .default = .ok result' ∧
      stages result.search = 2 ∧ stages result'.search = 3 := by
  obtain ⟨result, hresult, hstages⟩ := exists_ok_of_any (p := fun r => stages r.search == 2)
    (show (convert (singleRule "CommandLine" "*") .default).toOption.any _ = true by decide +kernel)
  obtain ⟨result', hresult', hstages'⟩ := exists_ok_of_any (p := fun r => stages r.search == 3)
    (show (convert (singleRule "CommandLine" "*\" | delete \"") .default).toOption.any _ = true by
      decide +kernel)
  refine ⟨_, _, result, result', ?_, hresult, hresult', eq_of_beq hstages, eq_of_beq hstages'⟩
  refine .map (.cons ⟨rfl, .inl rfl⟩ (.cons ⟨rfl, .inr ⟨rfl, .map ?_⟩⟩ .nil))
  exact .cons ⟨rfl, .inr ⟨by simp, .map rfl (.cons (.text _ _) .nil)⟩⟩ (.cons ⟨rfl, .inl rfl⟩ .nil)

end Huntbook.Conversion
