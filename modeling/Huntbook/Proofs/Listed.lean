import Huntbook.Proofs.Convertible
import Huntbook.Proofs.Survey

/-!
# The fields that a rule lists

The fields of a rule are listed by a walk of their own, which looks at values: a field counts where
it is compared with a single value, while a list is only searched for mappings. For rules whose
selections are plain, so that no list holds a mapping, this leaves out every field that is compared
with lists alone, whereas a conversion reports it.

* `fields_eq_iff`: when a rule lists the fields that its conversion reports.
-/

namespace Huntbook.Conversion

/-! ## Plain rules -/

def isFlat : Value → Bool
  | .map _ => false
  | .list items => items.all (·.kind != .map)
  | _ => true

/-- Whether an entry of a selection compares a field, whose name has no underscore at its start,
    with a flat value. -/
def isPlainEntry : Value × Value → Bool
  | (.text key, value) => key != "condition" && !Text.startsWith (keyName key) "_" && isFlat value
  | _ => false

/-- Whether all selections of a rule are plain. -/
def isPlain (rule : Value) : Bool :=
  match rule.field? "detection" with
  | some (.map entries) => (selections entries).all (·.all isPlainEntry)
  | _ => false

/-- A value that is no list. -/
def IsSingle (v : Value) : Prop := v.kind ≠ .list

variable {e : Value × Value} {rule : Value} {items : List Value}

lemma isPlainEntry_iff : isPlainEntry e ↔ ∃ key, e.1 = .text key ∧ key ≠ "condition" ∧
      Text.startsWith (keyName key) "_" = false ∧ isFlat e.2 := by
  rcases e with ⟨key, value⟩
  cases key with
  | text key => simp [isPlainEntry, and_assoc]
  | _ => simp [isPlainEntry]

lemma exists_of_isPlain (h : isPlain rule) : ∃ entries,
    rule.getOr "detection" (.map []) = .ok (.map entries) ∧
      ∀ selection ∈ selections entries, ∀ e ∈ selection, isPlainEntry e := by
  unfold isPlain at h
  split at h
  · rename_i entries hfield
    refine ⟨entries, ?_, by simpa using h⟩
    cases rule with
    | map parts =>
      have hfind : Value.find? parts (.text "detection") = some (.map entries) := hfield
      rw [Value.getOr, hfind]
      rfl
    | _ => simp [Value.field?, Value.entry?, Value.entries?] at hfield
  · simp at h

/-! ## The walk through a rule -/

lemma itemFields_of_flat (h : ∀ v ∈ items, v.kind ≠ .map) : Rule.itemFields items = .ok [] := by
  induction items with
  | nil => rfl
  | cons v items ih =>
    obtain ⟨hv, hitems⟩ := List.forall_mem_cons.1 h
    cases v with
    | map entries => exact absurd rfl hv
    | _ => exact ih hitems

lemma keyField_text (key : String) :
    Rule.keyField (.text key) =
      .ok (if Text.startsWith (keyName key) "_" then [] else [keyName key]) := rfl

variable {field : String} {listed : Texts}

lemma mem_valueFields {key : String} {value : Value}
    (hname : Text.startsWith (keyName key) "_" = false) (hflat : isFlat value)
    (h : Rule.valueFields (.text key) value = .ok listed) :
    field ∈ listed ↔ IsSingle value ∧ keyName key = field := by
  have hsingle : Rule.keyField (.text key) = .ok [keyName key] := by
    rw [keyField_text, hname]
    rfl
  cases value with
  | map entries => simp [isFlat] at hflat
  | list items =>
    have hitems : ∀ v ∈ items, v.kind ≠ .map := by simpa [isFlat] using hflat
    rw [Rule.valueFields, itemFields_of_flat hitems] at h
    obtain rfl := Except.ok.inj h
    simp [IsSingle, Value.kind]
  | _ =>
    simp only [Rule.valueFields, hsingle] at h
    obtain rfl := Except.ok.inj h
    simp [IsSingle, Value.kind, eq_comm]

lemma mem_entryFields {selection : Entries}
    (hplain : ∀ e ∈ selection, isPlainEntry e) (h : Rule.entryFields selection = .ok listed) :
    field ∈ listed ↔ Compares IsSingle selection field := by
  induction selection generalizing listed with
  | nil =>
    obtain rfl := Except.ok.inj h
    simp [compares_nil]
  | cons e selection ih =>
    obtain ⟨he, hrest⟩ := List.forall_mem_cons.1 hplain
    obtain ⟨key, hkey, hcondition, hname, hflat⟩ := isPlainEntry_iff.1 he
    obtain ⟨_, value⟩ := e
    obtain rfl : _ = Value.text key := hkey
    have hno : Rule.isCondition (.text key) = false := by
      rw [Rule.isCondition, Bool.eq_false_iff, Ne, Value.text_same]
      simpa using hcondition
    rw [Rule.entryFields, hno] at h
    obtain ⟨own, hown, h⟩ := bind_eq_ok.1 h
    obtain ⟨others, hothers, h⟩ := bind_eq_ok.1 h
    obtain rfl := Except.ok.inj h
    rw [List.mem_append, compares_cons, mem_valueFields hname hflat hown, ih hrest hothers]

lemma mem_itemFields
    (hplain : ∀ selection ∈ items.filterMap Value.entries?, ∀ e ∈ selection, isPlainEntry e)
    (h : Rule.itemFields items = .ok listed) : field ∈ listed ↔
      ∃ selection ∈ items.filterMap Value.entries?, Compares IsSingle selection field := by
  induction items generalizing listed with
  | nil =>
    obtain rfl := Except.ok.inj h
    simp
  | cons v items ih =>
    cases v with
    | map selection =>
      have hcons : (Value.map selection :: items).filterMap Value.entries? =
        selection :: items.filterMap Value.entries? := rfl
      rw [hcons] at hplain ⊢
      obtain ⟨hselection, hrest⟩ := List.forall_mem_cons.1 hplain
      obtain ⟨own, hown, h⟩ := bind_eq_ok.1 h
      obtain ⟨others, hothers, h⟩ := bind_eq_ok.1 h
      obtain rfl := Except.ok.inj h
      rw [List.mem_append, List.exists_mem_cons_iff, mem_entryFields hselection hown,
        ih hrest hothers]
    | _ => exact ih hplain (by simpa only [Rule.itemFields] using h)

lemma isCondition_iff {key : Value} : Rule.isCondition key ↔ key.same (.text "condition") := by
  rw [Rule.isCondition, Value.text_same, Value.same_text]

lemma mem_blockFields
    (hplain : ¬e.1.same (.text "condition") → ∀ selection ∈ blockSelections e.2, ∀ e ∈ selection,
      isPlainEntry e) (h : Rule.blockFields e = .ok listed) :
    field ∈ listed ↔ ¬e.1.same (.text "condition") ∧
      ∃ selection ∈ blockSelections e.2, Compares IsSingle selection field := by
  rw [← isCondition_iff] at hplain ⊢
  rw [Rule.blockFields] at h
  split at h
  · rename_i hcondition
    obtain rfl := Except.ok.inj h
    simp [hcondition]
  · rename_i hcondition
    have hplain := hplain hcondition
    rw [and_iff_right hcondition]
    rcases e with ⟨name, block⟩
    cases block with
    | map selection =>
      simpa [blockSelections] using mem_entryFields (by simpa [blockSelections] using hplain) h
    | list items => exact mem_itemFields hplain h
    | _ =>
      obtain rfl := Except.ok.inj h
      simp [blockSelections]

lemma mem_fields (hplain : isPlain rule) (h : Rule.fields rule = .ok listed) :
    field ∈ listed ↔ RuleCompares IsSingle rule field := by
  obtain ⟨entries, hdetection, hselections⟩ := exists_of_isPlain hplain
  have hblocks : ∀ e ∈ entries, ¬e.1.same (.text "condition") →
      ∀ selection ∈ blockSelections e.2, ∀ e ∈ selection, isPlainEntry e :=
    fun e he hname selection hselection => hselections selection
      (List.mem_flatMap.2 ⟨e, List.mem_filter.2 ⟨he, by simpa using hname⟩, hselection⟩)
  rw [Rule.fields, hdetection] at h
  obtain ⟨found, hfound, h⟩ := bind_eq_ok.1 (show (entries.mapM _ >>= _) = _ from h)
  obtain rfl := Except.ok.inj h
  rw [Rule.mem_sortedTexts, ← List.flatMap_id, ruleCompares_iff hdetection]
  refine (mem_flatMap_of_mapM hfound fun e he own hown =>
    mem_blockFields (hblocks e he) hown).trans ?_
  simp only [selections, List.mem_flatMap, List.mem_filter, Bool.not_eq_true', Bool.not_eq_true]
  constructor
  · rintro ⟨e, he, hname, selection, hselection, hfield⟩
    exact ⟨selection, ⟨e, ⟨he, hname⟩, hselection⟩, hfield⟩
  · rintro ⟨selection, ⟨e, ⟨he, hname⟩, hselection⟩, hfield⟩
    exact ⟨e, he, hname, selection, hselection, hfield⟩

lemma exists_eq_sortedTexts (h : Rule.fields rule = .ok listed) :
    ∃ found, listed = Rule.sortedTexts found := by
  obtain ⟨detection, -, h⟩ := bind_eq_ok.1 h
  obtain ⟨entries, -, h⟩ := bind_eq_ok.1 h
  obtain ⟨found, -, h⟩ := bind_eq_ok.1 h
  exact ⟨_, (Except.ok.inj h).symm⟩

/-- A plain rule lists the fields that its conversion reports, if every field that it compares is
    compared with a single value somewhere. -/
theorem fields_eq_iff {rule : Value} {options : Options} {listed : List String} {result : Result}
    (hplain : isPlain rule) (hlisted : Rule.fields rule = .ok listed)
    (h : convert rule options = .ok result) :
    listed = (result.fields.map (·.field)).mergeSort (fun a b => a ≤ b) ↔
      ∀ field, RuleCompares (fun _ => True) rule field → RuleCompares IsSingle rule field := by
  obtain ⟨feed, entries, condition, blocks, clause, survey, needs, -, hdetection, -, hblocks, -,
    hsurvey, -, rfl⟩ := convert_eq_ok.1 h
  have hall : ∀ field, field ∈ fieldsOf blocks ↔ RuleCompares (fun _ => True) rule field :=
    fun field => (mem_fieldsOf hblocks).trans (ruleCompares_iff hdetection).symm
  have hsingle : ∀ field, field ∈ listed ↔ RuleCompares IsSingle rule field :=
    fun field => mem_fields hplain hlisted
  obtain ⟨found, rfl⟩ := exists_eq_sortedTexts hlisted
  have hsorted : (fieldsOf blocks).mergeSort (fun a b => a ≤ b) = fieldsOf blocks :=
    Rule.mergeSort_sortedTexts _
  rw [(covers_surveyOf hsurvey).fields, hsorted]
  refine Rule.sortedTexts_eq_iff.trans (forall_congr' fun field => ?_)
  rw [hsingle]
  refine (iff_congr Iff.rfl (hall field)).trans ⟨fun hiff => hiff.2, fun hsome => ⟨?_, hsome⟩⟩
  exact RuleCompares.imp fun _ _ => trivial

/-- The text of a rule about programs, whose selection is a list of the entries `first` and
    `second`. -/
def eitherOf (first second : String) : String :=
  "title: Tools\nlogsource:\n  product: x\ndetection:\n  a:\n  - " ++ first ++ "\n  - " ++ second ++
    "\n  condition: a"

lemma exists_listed (text : String) (listed reported : Texts)
    (h : (Rule.accept text).toOption.any (fun rule => isPlain rule &&
      (Rule.fields rule).toOption == some listed &&
        (convert rule .default).toOption.map (·.fields.map (·.field)) == some reported) = true) :
    ∃ rule result, Rule.accept text = .ok rule ∧ isPlain rule ∧ Rule.fields rule = .ok listed ∧
      convert rule .default = .ok result ∧ result.fields.map (·.field) = reported := by
  obtain ⟨rule, haccept, hrule⟩ := exists_ok_of_any h
  simp only [Bool.and_eq_true, beq_iff_eq] at hrule
  obtain ⟨⟨hplain, hlisted⟩, hreported⟩ := hrule
  obtain ⟨result, hresult, hfields⟩ := Option.map_eq_some_iff.1 hreported
  exact ⟨rule, result, haccept, hplain, toOption_eq_some_iff.1 hlisted,
    toOption_eq_some_iff.1 hresult, hfields⟩

/-- A field that is compared with a single value and with a list is listed and reported. -/
theorem fields_eitherOf_single : ∃ rule listed result,
    Rule.accept (eitherOf "Image: a" "Image: [b]") = .ok rule ∧ isPlain rule ∧
      Rule.fields rule = .ok listed ∧ convert rule .default = .ok result ∧
      listed = (result.fields.map (·.field)).mergeSort (fun a b => a ≤ b) ∧
      ∀ field, RuleCompares (fun _ => True) rule field → RuleCompares IsSingle rule field := by
  obtain ⟨rule, result, haccept, hplain, hlisted, hconvert, hreported⟩ :=
    exists_listed (eitherOf "Image: a" "Image: [b]") ["Image"] ["Image"] (by decide +kernel)
  have heq : ["Image"] = (result.fields.map (·.field)).mergeSort (fun a b => a ≤ b) := by
    rw [hreported, List.mergeSort_singleton]
  exact ⟨rule, ["Image"], result, haccept, hplain, hlisted, hconvert, heq,
    (fields_eq_iff hplain hlisted hconvert).1 heq⟩

/-- A field that is compared with lists only is reported and not listed. -/
theorem fields_eitherOf_lists : ∃ rule listed result,
    Rule.accept (eitherOf "Image: [a]" "Image: [b]") = .ok rule ∧ isPlain rule ∧
      Rule.fields rule = .ok listed ∧ convert rule .default = .ok result ∧
      listed ≠ (result.fields.map (·.field)).mergeSort (fun a b => a ≤ b) := by
  obtain ⟨rule, result, haccept, hplain, hlisted, hconvert, hreported⟩ :=
    exists_listed (eitherOf "Image: [a]" "Image: [b]") [] ["Image"] (by decide +kernel)
  refine ⟨rule, [], result, haccept, hplain, hlisted, hconvert, ?_⟩
  rw [hreported, List.mergeSort_singleton]
  exact (List.cons_ne_nil _ _).symm

end Huntbook.Conversion
