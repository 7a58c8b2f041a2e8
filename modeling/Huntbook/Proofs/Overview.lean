import Huntbook.Proofs.Browse
import Huntbook.Proofs.Openable

/-!
# The list of playbooks

Playbooks are listed by their identifiers. A document that cannot be read is left out, but the ones
that are left are sorted, and what is listed is searched.

* `list_survives_iff`: when one more playbook leaves the list of the others as it is.
* `search_eq_filter`: what a search gives among playbooks that follow the schema.
-/

namespace Huntbook

open List

/-! ## One more playbook -/

namespace Playbook

open Folder

variable {t t' : Tree} {folder : Path} {n : String}

/-- A folder `n` with a document is added; the documents of the other playbooks stay. -/
structure Adds (t : Tree) (folder : Path) (n : String) (t' : Tree) : Prop where
  folders : ∃ before after, candidates t folder = .ok (before ++ after) ∧
    candidates t' folder = .ok (before ++ n :: after) ∧
    ∀ other ∈ before ++ after, document t' folder other = document t folder other

lemma summaries_eq {names : Texts} (h : candidates t folder = .ok names) :
    summaries t folder =
      sortBy (fun a b => a.id.less b.id) (names.filterMap (summary? t folder)) := by
  obtain ⟨listing, hlisting, -⟩ := bind_eq_ok.1 h
  rw [summaries, Tree.exists?_of_listing hlisting, ok_bind, if_pos rfl, h, ok_bind]

lemma sortBy_id_eq_ok {found : List Summary} (h : ∀ e ∈ found, ∃ s, e.id = .text s) :
    sortBy (fun a b => a.id.less b.id) found = .ok (inOrderOf (·.id.codes) found) := by
  refine sortBy_eq_ok fun a ha b hb => ?_
  obtain ⟨s, hs⟩ := h a ha
  obtain ⟨s', hs'⟩ := h b hb
  rw [hs, hs']
  convert Value.less_text s s'

/-- A new playbook leaves the others in the list, if there still is one. -/
theorem list_survives_iff (h : Adds t folder n t')
    (htexts : ∀ other e, Listed t folder other e → ∃ s, e.id = .text s) :
    ∃ found, summaries t folder = .ok found ∧
      (∀ found', summaries t' folder = .ok found' → found <+ found') ∧
      (Succeeds (summaries t' folder) ↔
        found = [] ∨ ∀ e, summary? t' folder n = some e → ∃ s, e.id = .text s) := by
  obtain ⟨before, after, hnames, hnames', hothers⟩ := h.folders
  have hsame : ∀ other ∈ before ++ after, summary? t' folder other = summary? t folder other := by
    intro other hother
    ext e
    rw [summary?_eq_some_iff, summary?_eq_some_iff, hothers other hother]
  have hids : ∀ e ∈ (before ++ after).filterMap (summary? t folder), ∃ s, e.id = .text s := by
    intro e he
    obtain ⟨other, hother, he⟩ := mem_filterMap.1 he
    exact htexts other e ⟨⟨_, hnames, hother⟩, he⟩
  have hadd : (before ++ n :: after).filterMap (summary? t' folder) =
      before.filterMap (summary? t folder) ++ ((summary? t' folder n).toList ++
        after.filterMap (summary? t folder)) := by
    rw [filterMap_append, filterMap_cons, filterMap_congr fun other hother =>
      hsame other (mem_append_left _ hother), filterMap_congr fun other hother =>
      hsame other (mem_append_right _ hother)]
    cases summary? t' folder n <;> rfl
  rw [summaries_eq hnames, summaries_eq hnames', hadd, sortBy_id_eq_ok hids]
  rw [filterMap_append] at hids ⊢
  generalize before.filterMap (summary? t folder) = first at hids ⊢
  generalize after.filterMap (summary? t folder) = last at hids ⊢
  refine ⟨_, rfl, ?_⟩
  have hnil : inOrderOf (·.id.codes) (first ++ last) = [] ↔ first ++ last = [] := by
    rw [inOrderOf, ← length_eq_zero_iff, length_insertionSort, length_eq_zero_iff]
  rw [hnil]
  have hsub : first ++ last <+ first ++ ((summary? t' folder n).toList ++ last) :=
    (sublist_append_right _ _).append_left _
  by_cases hnew : ∀ e, summary? t' folder n = some e → ∃ s, e.id = .text s
  · have hall : ∀ e ∈ first ++ ((summary? t' folder n).toList ++ last), ∃ s, e.id = .text s := by
      simp only [mem_append, Option.mem_toList, or_imp, forall_and] at hids ⊢
      exact ⟨hids.1, hnew, hids.2⟩
    rw [sortBy_id_eq_ok hall]
    refine ⟨?_, iff_of_true ⟨_, rfl⟩ (.inr hnew)⟩
    rintro found' ⟨⟩
    exact inOrderOf_sublist hsub
  · push Not at hnew
    obtain ⟨e, he, hid⟩ := hnew
    rw [he]
    by_cases hempty : first ++ last = []
    · obtain ⟨rfl, rfl⟩ := append_eq_nil_iff.1 hempty
      exact ⟨fun found' _ => nil_sublist _, iff_of_true ⟨[e], rfl⟩ (.inl rfl)⟩
    · obtain ⟨b, hb⟩ := exists_mem_of_ne_nil _ hempty
      -- A sort that ends has compared every identifier with a text.
      have hfails (found' : List Summary)
          (h : sortBy (fun a b => a.id.less b.id) (first ++ ((some e).toList ++ last)) = .ok found') :
          False := by
        have hall := forall_of_sortBy (P := fun e => ∃ s, e.id = .text s)
          (fun a b => Value.text_iff_of_less) h (he ▸ hsub.subset hb) (hids b hb)
        obtain ⟨s, hs⟩ := hall e (by simp)
        exact hid s hs
      refine ⟨fun found' h => (hfails found' h).elim, iff_of_false (fun h => ?_) ?_⟩
      · obtain ⟨found', h⟩ := h
        exact hfails found' h
      · rintro (h | h)
        · exact hempty h
        · obtain ⟨s, hs⟩ := h e rfl
          exact hid s hs

/-- A playbook beside a document that cannot be read. -/
def brokenBook : Tree where
  root := "/"
  full := Web.isFull_top
  items := [("playbooks", .folder [("techniques", .folder
    [("a", .folder [("playbook.yaml", .file "id: x\n".toUTF8)]),
     ("b", .folder [("playbook.yaml", .file "id: [\n".toUTF8)])])])]

/-- The one that cannot be read leaves the other in the list. -/
theorem list_survives_iff_brokenBook : Adds Web.oneBook books "b" brokenBook ∧
    ∃ found found', summaries Web.oneBook books = .ok found ∧
      summaries brokenBook books = .ok found' ∧ found <+ found' := by
  obtain ⟨names, hnames, h⟩ := exists_ok_of_any (x := candidates Web.oneBook books) (p := (· == ["a"]))
    (by decide +kernel)
  obtain rfl := eq_of_beq h
  obtain ⟨names', hnames', h⟩ := exists_ok_of_any (x := candidates brokenBook books)
    (p := (· == ["a", "b"])) (by decide +kernel)
  obtain rfl := eq_of_beq h
  have htext (t : Tree) (h : (t.readText ((books.join "a").join documentName)).toOption.any
      (· == "id: x\n")) : document t books "a" = Yaml.readDated "id: x\n" := by
    obtain ⟨text, htext, h⟩ := exists_ok_of_any h
    obtain rfl := eq_of_beq h
    rw [document, htext, ok_bind]
  have hid (t : Tree) (name : String) (h : (summary? t books name).all (·.id.text?.isSome)) (e : Summary)
      (he : summary? t books name = some e) : ∃ s, e.id = .text s := by
    rw [he] at h
    cases hid : e.id <;> simp_all [Value.text?]
  have hadds : Adds Web.oneBook books "b" brokenBook := by
    refine ⟨["a"], [], hnames, hnames', fun other hother => ?_⟩
    obtain rfl := mem_singleton.1 hother
    rw [htext _ (by decide +kernel), htext _ (by decide +kernel)]
  obtain ⟨found, hfound, hsub, hiff⟩ := list_survives_iff hadds fun other e hlisted => by
    obtain ⟨⟨names, h, hother⟩, he⟩ := hlisted
    cases hnames.symm.trans h
    obtain rfl := mem_singleton.1 hother
    exact hid _ _ (by decide +kernel) e he
  obtain ⟨found', hfound'⟩ := hiff.2 (.inr (hid _ _ (by decide +kernel)))
  exact ⟨hadds, found, found', hfound, hfound', hsub found' hfound'⟩

end Playbook

/-! ## What a schema says -/

namespace Schema

variable {rules : Entries} {v : Value}

variable {schema : Value}

lemma failures_of_complaint? (h : complaint? schema v = .ok none) : failures schema v = [] := by
  obtain ⟨best, hbest, h⟩ := bind_eq_ok.1 h
  have hnone : best = none := by simpa using Except.ok.inj h
  -- Once there is a best failure there is always one.
  cases hfs : failures schema v with
  | nil => rfl
  | cons f fs =>
    rw [hfs] at hbest
    refine absurd hnone (foldlM_keeps (P := (· ≠ none)) (fun g _ best next hbest hnext => ?_)
      (Option.some_ne_none f) hbest)
    obtain ⟨old, rfl⟩ := Option.ne_none_iff_exists'.1 hbest
    obtain ⟨b, -, hnext⟩ := bind_eq_ok.1 hnext
    cases b <;> cases hnext <;> exact Option.some_ne_none _

lemma ruleFailures_cons (fits : Bool) (rule : Value × Value) :
    ruleFailures fits (rule :: rules) v = ruleFailures fits [rule] v ++ ruleFailures fits rules v := by
  have hnil : ruleFailures fits [] v = [] := by rw [ruleFailures]
  rw [ruleFailures.eq_def fits (rule :: rules), ruleFailures.eq_def fits [rule]]
  simp only [hnil, append_nil]

lemma rule_of_mem (h : failures (.map rules) v = []) {rule : Value × Value} (hmem : rule ∈ rules) :
    ∃ fits, ruleFailures fits [rule] v = [] := by
  rw [failures] at h
  generalize (Value.find? rules (.text "type")).any (isShaped · v) = fits at h
  refine ⟨fits, ?_⟩
  induction rules with
  | nil => cases hmem
  | cons r rules ih =>
    rw [ruleFailures_cons, append_eq_nil_iff] at h
    obtain rfl | hmem := mem_cons.1 hmem
    · exact h.1
    · exact ih hmem h.2

lemma placed_eq_nil {step : Value} {fs : List Failure} : placed schema step fs = [] ↔ fs = [] := by
  rw [placed]
  split <;> simp

lemma isShaped_of_mem (named : Value) (h : failures (.map rules) v = [])
    (hmem : (.text "type", named) ∈ rules) : isShaped named v := by
  obtain ⟨fits, hrule⟩ := rule_of_mem h hmem
  simpa [ruleFailures, complaints] using hrule

lemma isSome_of_mem {fields : Entries} {names : List Value}
    (h : failures (.map rules) (.map fields) = []) (hmem : (.text "required", .list names) ∈ rules)
    {name : Value} (hname : name ∈ names) : (Value.find? fields name).isSome := by
  obtain ⟨fits, hrule⟩ := rule_of_mem h hmem
  simp [ruleFailures, complaints] at hrule
  exact Option.isSome_iff_ne_none.2 (hrule name hname)

lemma fields_of_mem {schemas fields : Entries}
    (h : failures (.map rules) (.map fields) = []) (hmem : (.text "properties", .map schemas) ∈ rules)
    {name : Value} (hschema : (name, schema) ∈ schemas)
    (hv : Value.find? fields name = some v) : failures schema v = [] := by
  obtain ⟨fits, hrule⟩ := rule_of_mem h hmem
  simp [ruleFailures] at hrule
  clear hmem
  induction schemas with
  | nil => cases hschema
  | cons s schemas ih =>
    rw [fieldFailures, append_eq_nil_iff] at hrule
    obtain rfl | hschema := mem_cons.1 hschema
    · simpa [hv, placed_eq_nil] using hrule.1
    · exact ih hschema hrule.2

lemma items_of_mem {items : List Value} (h : failures (.map rules) (.list items) = [])
    (hmem : (.text "items", schema) ∈ rules) (hv : v ∈ items) : failures schema v = [] := by
  obtain ⟨fits, hrule⟩ := rule_of_mem h hmem
  simp [ruleFailures, placed_eq_nil] at hrule
  rw [← zipIdx_map_fst 0 items] at hv
  obtain ⟨⟨a, i⟩, ha, rfl⟩ := mem_map.1 hv
  exact hrule a i ha

end Schema

namespace Playbook

open Folder

variable {t t' : Tree} {folder : Path} {d : Value} {e : Summary}

/-! ## Playbooks that follow the schema -/

/-- What is listed of a playbook is text. -/
structure Summary.IsPlain (e : Summary) : Prop where
  id : ∃ s, e.id = .text s
  name : ∃ s, e.name = .text s
  description : ∃ s, e.description = .text s
  tactic : ∃ s, e.tactic = .text s
  severity : ∃ s, e.severity = .text s
  tags : ∃ tags : Texts, e.tags = .list (tags.map .text)

variable {v : Value} {found : List Summary}

lemma text_of_failures {rules : Fields}
    (h : Schema.failures (textSchema rules) v = []) : ∃ s, v = .text s := by
  have hshaped := Schema.isShaped_of_mem (.text "string") h (by simp)
  cases v <;> simp [Schema.isShaped, Schema.shapeNames, Value.text?, Schema.hasShape, Value.kind] at hshaped
  exact ⟨_, rfl⟩

lemma map_of_failures {rules : Entries}
    (h : Schema.failures (.map rules) v = []) (hmem : (.text "type", .text "object") ∈ rules) :
    ∃ fields, v = .map fields := by
  have hshaped := Schema.isShaped_of_mem _ h hmem
  cases v <;> simp [Schema.isShaped, Schema.shapeNames, Value.text?, Schema.hasShape, Value.kind] at hshaped
  exact ⟨_, rfl⟩

lemma texts_of_failures (h : Schema.failures textListSchema v = []) :
    ∃ tags : Texts, v = .list (tags.map .text) := by
  have hshaped := Schema.isShaped_of_mem (.text "array") h (by simp)
  cases v with
  | list items =>
    obtain ⟨tags, rfl⟩ := Value.exists_texts fun w hw =>
      text_of_failures (Schema.items_of_mem h (mem_cons_of_mem _ mem_cons_self) hw)
    exact ⟨tags, rfl⟩
  | _ => simp [Schema.isShaped, Schema.shapeNames, Value.text?, Schema.hasShape, Value.kind] at hshaped

lemma required_of_failures {rules fields : Entries} {schemas : Fields}
    {required : Texts} {name : String} {schema : Value}
    (h : Schema.failures (.map rules) (.map fields) = [])
    (hrequired : (.text "required", .ofTexts required) ∈ rules)
    (hschemas : (.text "properties", .record schemas) ∈ rules) (hname : name ∈ required)
    (hschema : (name, schema) ∈ schemas) :
    ∃ v, Value.find? fields (.text name) = some v ∧ Schema.failures schema v = [] := by
  obtain ⟨v, hv⟩ := Option.isSome_iff_exists.1 (Schema.isSome_of_mem h hrequired (mem_map_of_mem hname))
  exact ⟨v, hv, Schema.fields_of_mem h hschemas (mem_map.2 ⟨_, hschema, rfl⟩) hv⟩

lemma isPlain_of_complaint? (h : Schema.complaint? standardSchema d = .ok none)
    (hd : summaryOf d = .ok e) : e.IsPlain := by
  have hnone := Schema.failures_of_complaint? h
  obtain ⟨fields, rfl⟩ := map_of_failures hnone (by simp)
  have hfield (name : String) {schema : Value} (hname : name ∈ requiredFields)
      (hschema : (name, schema) ∈ fieldSchemas) :=
    required_of_failures hnone (by simp) (by simp) hname hschema
  have htext (name : String) {rules : Fields} (hname : name ∈ requiredFields)
      (hschema : (name, textSchema rules) ∈ fieldSchemas) :
      ∃ s, Value.find? fields (.text name) = some (.text s) := by
    obtain ⟨v, hv, hschema⟩ := hfield name hname hschema
    obtain ⟨s, rfl⟩ := text_of_failures hschema
    exact ⟨s, hv⟩
  obtain ⟨id, hid⟩ := htext "id" (by decide) (by simp [fieldSchemas]; rfl)
  obtain ⟨name, hname⟩ := htext "name" (by decide) (by simp [fieldSchemas]; rfl)
  obtain ⟨description, hdescription⟩ := htext "description" (by decide) (by simp [fieldSchemas]; rfl)
  obtain ⟨severity, hseverity⟩ := htext "severity" (by decide) (by simp [fieldSchemas]; rfl)
  obtain ⟨attack, hattack, hschema⟩ := hfield "mitre" (by decide)
    (show ("mitre", attackSchema) ∈ fieldSchemas by simp [fieldSchemas])
  obtain ⟨attack, rfl⟩ := map_of_failures hschema (by simp)
  obtain ⟨tactic, htactic, hschema⟩ := required_of_failures hschema
    (mem_cons_of_mem _ mem_cons_self) (mem_cons_of_mem _ (mem_cons_of_mem _ mem_cons_self))
    (mem_cons_of_mem _ mem_cons_self) (mem_cons_of_mem _ mem_cons_self)
  obtain ⟨tactic, rfl⟩ := text_of_failures hschema
  have htags : ∃ tags : Texts,
      (Value.find? fields (.text "tags")).getD (.list []) = .list (tags.map .text) := by
    cases htags : Value.find? fields (.text "tags") with
    | none => exact ⟨[], rfl⟩
    | some v =>
      refine texts_of_failures (Schema.fields_of_mem hnone (show (Value.text "properties",
        Value.record fieldSchemas) ∈ _ by simp) (mem_map.2 ⟨("tags", textListSchema), ?_, rfl⟩) htags)
      simp [fieldSchemas]
  simp only [summaryOf, Value.get, Value.getOr, hid, hname, hdescription, hseverity, hattack, htactic,
    ok_bind, Option.getD_some] at hd
  cases hd
  exact ⟨⟨_, rfl⟩, ⟨_, rfl⟩, ⟨_, rfl⟩, ⟨_, rfl⟩, ⟨_, rfl⟩, htags⟩

/-! ## Searching -/

/-- A criterion is tested if it is a text that is not empty. -/
def given (wanted : Value) (test : String → Bool) : Bool :=
  wanted.text?.all fun s => s == "" || test s

def holdsText (v : Value) (s : String) : Bool :=
  v.text?.any fun a => Text.contains (Text.lower a) (Text.lower s)

def isText (v : Value) (s : String) : Bool := v.text?.any fun a => Text.lower a == Text.lower s

namespace Criteria

def meets (c : Criteria) (e : Summary) : Bool :=
  given c.text (fun s => holdsText e.name s || holdsText e.description s) &&
    given c.technique (fun s => e.technique.text? == some s) && given c.tactic (isText e.tactic) &&
    given c.tag (fun s => (e.tags.iterate.toOption.getD []).any (isText · s)) &&
    given c.severity (isText e.severity)

def values (c : Criteria) : List Value := [c.text, c.technique, c.tactic, c.tag, c.severity]

def singles (c : Criteria) : List Criteria :=
  [{ text := c.text }, { technique := c.technique }, { tactic := c.tactic }, { tag := c.tag },
   { severity := c.severity }]

/-- The first criteria ask for all that the second ones ask for. -/
def Narrows (c' c : Criteria) : Prop :=
  Forall₂ (fun v' v => v.truthy → v' = v) c'.values c.values

end Criteria

lemma restrict_eq_ok {wanted : Value} {test : Try (Summary → Try Bool)}
    (p : String → Summary → Bool) (hwanted : wanted = .null ∨ ∃ s, wanted = .text s)
    (htest : ∀ s, wanted = .text s → ∃ f, test = .ok f ∧ ∀ e ∈ found, f e = .ok (p s e)) :
    restrict wanted test found = .ok (found.filter fun e => given wanted (p · e)) := by
  obtain rfl | ⟨s, rfl⟩ := hwanted
  · simp [restrict, Value.truthy, given, Value.text?, pure, Except.pure]
  · obtain ⟨f, rfl, hf⟩ := htest s rfl
    by_cases hs : s = ""
    · simp [restrict, Value.truthy, given, Value.text?, pure, Except.pure, hs]
    · have htruthy : (Value.text s).truthy = true := by simpa [Value.truthy] using hs
      rw [restrict, if_pos htruthy, ok_bind, filterM_eq_ok_iff]
      refine ⟨fun e he => ⟨_, hf e he⟩, filter_congr fun e he => ?_⟩
      simp [passes, hf e he, given, Value.text?, hs, Except.toOption]

lemma same_text_eq (v : Value) (s : String) : v.same (.text s) = (v.text? == some s) := by
  rw [Bool.eq_iff_iff, Value.same_text]
  cases v <;> simp [Value.text?]

lemma anyM_eq_ok {α : Type} {f : α → Try Bool} {p : α → Bool} {xs : List α}
    (h : ∀ x ∈ xs, f x = .ok (p x)) : xs.anyM f = .ok (xs.any p) := by
  induction xs with
  | nil => rfl
  | cons x xs ih =>
    obtain ⟨hx, hxs⟩ := forall_mem_cons.1 h
    rw [anyM, hx, ok_bind, any_cons]
    cases p x
    · exact ih hxs
    · rfl

section Restrict

variable {wanted : Value} {found : List Summary} (hwanted : wanted = .null ∨ ∃ s, wanted = .text s)
include hwanted

lemma restrict_mentions (hfound : ∀ e ∈ found, e.IsPlain) :
    restrict wanted (mentions wanted) found = .ok (found.filter fun e =>
      given wanted fun s => holdsText e.name s || holdsText e.description s) := by
  refine restrict_eq_ok (fun s e => holdsText e.name s || holdsText e.description s) hwanted ?_
  rintro s rfl
  refine ⟨_, rfl, fun e he => ?_⟩
  obtain ⟨name, hname⟩ := (hfound e he).name
  obtain ⟨description, hdescription⟩ := (hfound e he).description
  simp [hname, hdescription, holdsText, Value.text?, Value.holdsFold, Value.lowered, Value.lower,
    Value.asText, Except.map, bind, Except.bind, pure, Except.pure]
  split <;> simp_all

lemma restrict_technique :
    restrict wanted (.ok fun e => .ok (e.technique.same wanted)) found = .ok (found.filter fun e =>
      given wanted fun s => e.technique.text? == some s) := by
  refine restrict_eq_ok (fun s e => e.technique.text? == some s) hwanted ?_
  rintro s rfl
  exact ⟨_, rfl, fun e he => congrArg _ (same_text_eq _ _)⟩

lemma restrict_isFold {part : Summary → Value} (hpart : ∀ e ∈ found, ∃ a, part e = .text a) :
    restrict wanted (isFold part wanted) found =
      .ok (found.filter fun e => given wanted (isText (part e))) := by
  refine restrict_eq_ok (fun s e => isText (part e) s) hwanted ?_
  rintro s rfl
  refine ⟨_, rfl, fun e he => ?_⟩
  obtain ⟨a, ha⟩ := hpart e he
  simp [ha, isText, Value.text?, Value.lowered, Value.lower, Value.asText, Except.map, same_text_eq]

lemma restrict_hasTag (hfound : ∀ e ∈ found, e.IsPlain) :
    restrict wanted (hasTag wanted) found = .ok (found.filter fun e =>
      given wanted fun s => (e.tags.iterate.toOption.getD []).any (isText · s)) := by
  refine restrict_eq_ok (fun s e => (e.tags.iterate.toOption.getD []).any (isText · s)) hwanted ?_
  rintro s rfl
  refine ⟨_, rfl, fun e he => ?_⟩
  obtain ⟨tags, htags⟩ := (hfound e he).tags
  rw [htags, Value.iterate, ok_bind]
  refine anyM_eq_ok fun v hv => ?_
  obtain ⟨tag, -, rfl⟩ := mem_map.1 hv
  simp [isText, Value.text?, Value.lowered, Value.lower, Value.asText, Except.map, same_text_eq]

end Restrict

lemma select_eq_ok {c : Criteria} (hc : ∀ v ∈ c.values, v = .null ∨ ∃ s, v = .text s)
    (hfound : ∀ e ∈ found, e.IsPlain) : c.select found = .ok (found.filter c.meets) := by
  simp only [Criteria.values, forall_mem_cons] at hc
  obtain ⟨htext, htechnique, htactic, htag, hseverity, -⟩ := hc
  have hfilter {found : List Summary} (hfound : ∀ e ∈ found, e.IsPlain) (p : Summary → Bool) :
      ∀ e ∈ found.filter p, e.IsPlain :=
    fun e he => hfound e (mem_of_mem_filter he)
  rw [Criteria.select, restrict_mentions htext hfound, ok_bind, restrict_technique htechnique, ok_bind,
    restrict_isFold htactic fun e he => (hfilter (hfilter hfound _) _ e he).tactic, ok_bind,
    restrict_hasTag htag (hfilter (hfilter (hfilter hfound _) _) _), ok_bind,
    restrict_isFold hseverity fun e he => (hfilter (hfilter (hfilter (hfilter hfound _) _) _) _ e he).severity]
  simp only [filter_filter]
  refine congrArg Except.ok (filter_congr fun e _ => ?_)
  simp only [Criteria.meets]
  grind

/-- A search among playbooks that follow the schema finds those that meet all its criteria. -/
theorem search_eq_filter {names : List String} (hnames : candidates t folder = .ok names)
    (hvalid : ∀ name e, Listed t folder name e → ∃ d, document t folder name = .ok d ∧
      Schema.complaint? standardSchema d = .ok none) :
    ∃ found, summaries t folder = .ok found ∧
      (∀ c : Criteria, (∀ v ∈ c.values, v = .null ∨ ∃ s, v = .text s) →
        search t folder c = .ok (found.filter c.meets)) ∧
      (∀ (c : Criteria) e, c.meets e ↔ ∀ single ∈ c.singles, single.meets e) ∧
      ∀ c c' : Criteria, c'.Narrows c → found.filter c'.meets <+ found.filter c.meets := by
  have hplain : ∀ e ∈ names.filterMap (summary? t folder), e.IsPlain := by
    intro e he
    obtain ⟨name, hname, he⟩ := mem_filterMap.1 he
    obtain ⟨d, hd, hschema⟩ := hvalid name e ⟨⟨names, hnames, hname⟩, he⟩
    obtain ⟨d', hd', hsummary⟩ := summary?_eq_some_iff.1 he
    cases hd.symm.trans hd'
    exact isPlain_of_complaint? hschema hsummary
  have hfound := (summaries_eq hnames).trans (sortBy_id_eq_ok fun e he => (hplain e he).id)
  refine ⟨_, hfound, fun c hc => ?_, fun c e => ?_, fun c c' h => monotone_filter_right _ fun e he => ?_⟩
  · rw [search, hfound, ok_bind]
    exact select_eq_ok hc fun e he => hplain e ((mem_insertionSort _).1 he)
  · simp [Criteria.meets, Criteria.singles, given, Value.text?, and_assoc]
  · have hgiven {v v' : Value} (h : v.truthy → v' = v) {test : String → Bool} (hv : given v' test) :
        given v test := by
      cases v <;> simp_all [given, Value.text?, Value.truthy]
      grind
    simp only [Criteria.Narrows, Criteria.values, forall₂_cons] at h
    simp only [Criteria.meets, Bool.and_eq_true] at he ⊢
    grind

/-- A playbook that follows the schema. -/
def fullBook : Tree where
  root := "/"
  full := Web.isFull_top
  items := [("playbooks", .folder [("techniques", .folder [("a", .folder [("playbook.yaml", .file
    ("id: PB-T1566-001\nname: Alpha\ndescription: d\nmitre:\n  technique: T1566\n  tactic: t\n" ++
      "severity: high\nauthor: a\ncreated: 2024-01-01\nhunt_hypothesis: h\nqueries: \x7b\x7d\n").toUTF8)])])])]

/-- It is found by its name and its severity. -/
theorem search_eq_filter_fullBook : ∃ found, summaries fullBook books = .ok found ∧
    search fullBook books { text := .text "ALPHA", severity := .text "High" } =
      .ok (found.filter { text := .text "ALPHA", severity := .text "High" : Criteria }.meets) := by
  obtain ⟨names, hnames, h⟩ := exists_ok_of_any (x := candidates fullBook books) (p := (· == ["a"]))
    (by decide +kernel)
  obtain rfl := eq_of_beq h
  obtain ⟨found, hfound, hsearch, -⟩ := search_eq_filter hnames fun name e hlisted => by
    obtain ⟨⟨names, h, hname⟩, -⟩ := hlisted
    cases hnames.symm.trans h
    obtain rfl := mem_singleton.1 hname
    obtain ⟨d, hd, h⟩ := exists_ok_of_any (x := document fullBook books "a")
      (p := fun d => (Schema.complaint? standardSchema d).toOption.any Option.isNone) (by decide +kernel)
    obtain ⟨complaint, hcomplaint, h⟩ := exists_ok_of_any h
    obtain rfl := Option.isNone_iff_eq_none.1 h
    exact ⟨d, hd, hcomplaint⟩
  exact ⟨found, hfound, hsearch _ (by simp [Criteria.values])⟩

end Playbook

end Huntbook
