import Huntbook.Proofs.Coherence
import Huntbook.Proofs.Logs

/-!
# Codes of events, however they are written

The codes that a rule asks for stand in its blocks as numbers or in lists. A text counts in a list
only, if it is made of digits, and a block in a list is passed over.

* `Conversion.spelling_free_iff`: when the ways to write a value make no difference.
-/

namespace Huntbook

lemma Value.eq_nil_of_distinct {items : List Value} (h : distinct items = []) : items = [] := by
  cases items with
  | nil => rfl
  | cons v items =>
    refine absurd h (List.foldlRecOn (motive := (· ≠ [])) items _ (List.cons_ne_nil v []) ?_)
    intro kept hkept w _
    split
    · exact hkept
    · simp

namespace Conversion

/-- The ways to write the value of a field in a block of a rule: as it is, in a list, or with the
    whole block in a list. -/
inductive Spelling
  | bare | listed | nested

/-- A block of a rule with a value for a field. -/
def Spelling.block (selection : Entries) (field : String) (v : Value) :
    Spelling → Value
  | .bare => .map (Value.putField field v selection)
  | .listed => .map (Value.putField field (.list [v]) selection)
  | .nested => .list [.map (Value.putField field v selection)]

/-- What is around a block of a rule. -/
structure Frame where
  (rest before : Entries)
  name : Value
  after : Entries

def Frame.rule (f : Frame) (block : Value) : Value :=
  .map (Value.putField "detection" (.map (f.before ++ (f.name, block) :: f.after)) f.rest)

/-- A rule of one block has nothing else in it. -/
def Frame.bare : Frame := ⟨[], [], .text "selection", []⟩

def partCodes (e : Value × Value) : Try (List Value) :=
  if e.1.same (.text "condition") then .ok []
  else match e.2 with
    | .map entries => selectionCodes entries
    | _ => .ok []

/-- Only texts name the source of events. -/
def TextSource (source : Entries) : Prop :=
  ∀ key ∈ ["product", "service", "category"], ∀ v, Value.find? source (.text key) = some v →
    ∃ s, v = .text s

/-- The codes of a detection can be read. -/
def ReadableParts (entries : Entries) : Prop :=
  ∀ name selection, (name, Value.map selection) ∈ entries → name ≠ .text "condition" →
    ReadableCodes selection

/-- A selection whose codes are all in one field. -/
def CodesOnlyIn (field : String) (selection : Entries) : Prop :=
  ∀ other ∈ codeFields, other ≠ field → ∀ x, Value.find? selection (.text other) = some x →
    fieldCodes x = .ok []

lemma textSource_nil : TextSource [] := by
  simp [TextSource, Value.find?]

section

variable {rule v : Value} {source entries selection : Entries} {given : List Value}
  {field : String} {f : Frame}

lemma requirements_readable_iff (hsource : rule.getOr "logsource" (.map []) = .ok (.map source))
    (htexts : TextSource source) (hdetection : rule.getOr "detection" (.map []) = .ok (.map entries)) :
    Succeeds (requirements rule (.ok given)) ↔ ReadableParts entries := by
  have husable : UsableSource source := by
    refine ⟨fun v hv => ?_, fun v hv => .inr (.inl ?_), fun v hv => .inr (.inl ?_)⟩ <;>
    · obtain ⟨s, rfl⟩ := htexts _ (by simp) v hv
      exact .text s
  rw [requirements_succeeds_iff hsource, ruleCodes_succeeds_iff hdetection]
  exact and_iff_right husable

lemma Frame.getOr_rule (f : Frame) (block : Value) : (f.rule block).getOr "detection" (.map []) =
    .ok (.map (f.before ++ (f.name, block) :: f.after)) := by
  rw [rule, Value.getOr, Value.putField, Value.find?_put_text, if_pos (Value.text_same.2 rfl)]
  rfl

lemma Frame.requirements_congr {block block' : Value}
    (h : partCodes (f.name, block) = partCodes (f.name, block')) :
    requirements (f.rule block) (.ok given) = requirements (f.rule block') (.ok given) := by
  have hsource (block : Value) : (f.rule block).getOr "logsource" (.map []) =
      (Value.map f.rest).getOr "logsource" (.map []) := by
    rw [rule, Value.getOr, Value.putField, Value.find?_put_text, if_neg (by simp [Value.text_same])]
    rfl
  have hparts (block : Value) : ruleCodes (f.rule block) =
      ((f.before ++ (f.name, block) :: f.after).mapM partCodes >>= fun codes =>
        pure codes.flatten) := by
    rw [ruleCodes, f.getOr_rule]
    rfl
  have hcodes : ruleCodes (f.rule block) = ruleCodes (f.rule block') := by
    rw [hparts, hparts, List.mapM_append, List.mapM_append, List.mapM_cons, List.mapM_cons, h]
  rw [requirements, requirements, hsource, hsource, hcodes]

lemma selectionCodes_eq_nil_iff : selectionCodes selection = .ok [] ↔
    ∀ field ∈ codeFields, ∀ x, Value.find? selection (.text field) = some x →
      fieldCodes x = .ok [] := by
  constructor
  · intro h field hmem x hx
    obtain ⟨codes, hcodes, h⟩ := bind_eq_ok.1 h
    have hnil := List.flatten_eq_nil_iff.1 (Except.ok.inj h)
    obtain ⟨code, hcode, hread⟩ := exists_mem_of_mapM hcodes hmem
    rwa [hx, hnil code hcode] at hread
  · intro h
    refine bind_eq_ok.2 ⟨codeFields.map fun _ => [], mapM_eq_ok.2 ?_, rfl⟩
    refine List.forall₂_map_right_iff.2 (List.forall₂_same.2 fun field hmem => ?_)
    cases hx : Value.find? selection (.text field) with
    | none => rfl
    | some x => exact h field hmem x hx

lemma selectionCodes_putField_eq_nil_iff (hfield : field ∈ codeFields) :
    selectionCodes (Value.putField field v selection) = .ok [] ↔
      fieldCodes v = .ok [] ∧ CodesOnlyIn field selection := by
  simp only [selectionCodes_eq_nil_iff, Value.putField, Value.find?_put_text, Value.text_same,
    Value.text.injEq]
  constructor
  · intro h
    refine ⟨h field hfield v (if_pos rfl), fun other hother hne x hx => h other hother x ?_⟩
    rwa [if_neg hne]
  · rintro ⟨hv, honly⟩ other hother x hx
    split at hx
    · cases hx
      exact hv
    · rename_i hne
      exact honly other hother hne x hx

lemma selectionCodes_putField_congr {w : Value} (h : fieldCodes v = fieldCodes w) :
    selectionCodes (Value.putField field v selection) =
      selectionCodes (Value.putField field w selection) := by
  rw [selectionCodes, selectionCodes]
  congr 2
  funext other
  by_cases hsame : (Value.text field).same (.text other)
  · simp only [Value.putField, Value.find?_put_text, if_pos hsame, h]
  · simp only [Value.putField, Value.find?_put_text, if_neg hsame]

lemma fieldCodes_single (v : Value) :
    fieldCodes (.list [v]) = (itemCode? v).map Option.toList := by
  rw [fieldCodes, List.mapM_cons]
  rcases itemCode? v with fault | _ | code <;> rfl

lemma fieldCodes_single_eq_nil_iff (hv : (∃ n, v = .int n) ∨ ∃ s, v = .text s) :
    fieldCodes (.list [v]) = .ok [] ↔ ∃ s, v = .text s ∧ isDigits s = false := by
  rw [fieldCodes_single]
  rcases hv with ⟨n, rfl⟩ | ⟨s, rfl⟩
  · simp [itemCode?, Except.map]
  · cases hs : isDigits s
    · simp [itemCode?, hs, Except.map]
    · cases hread : Fault.readBase 10 s.toList <;> simp [itemCode?, hs, hread, Except.map]

lemma Frame.events_bare {block : Value} {needs : Requirements}
    (h : requirements (bare.rule block) (.ok []) = .ok needs) :
    ∃ codes, partCodes (bare.name, block) = .ok codes ∧ needs.events = eventsOf codes := by
  simp only [requirements, bind_eq_ok] at h
  obtain ⟨source, -, product, -, windows, -, service, -, category, -, given, hgiven, own, hown,
    logs, -, _, -, _, -, _, -, _, -, h⟩ := h
  cases hgiven
  cases h
  rw [ruleCodes, getOr_rule] at hown
  change [(bare.name, block)].mapM partCodes >>= _ = .ok own at hown
  obtain ⟨found, hfound, hown⟩ := bind_eq_ok.1 hown
  rw [List.mapM_cons] at hfound
  obtain ⟨codes, hcodes, hfound⟩ := bind_eq_ok.1 hfound
  cases hfound
  cases hown
  exact ⟨codes, hcodes, by simp⟩

/-- The requirements of a rule whose source is named by texts can be told exactly if the texts of
    digits in its lists of codes are numbers. A value that is not a text of digits counts the same in
    a list. How a value is written makes no difference to the events of any rule exactly if it is a
    text with other characters than digits, in a block without other codes. -/
theorem spelling_free_iff (hfield : field ∈ codeFields)
    (hv : (∃ n, v = .int n) ∨ ∃ s, v = .text s) (selection : List (Value × Value)) :
    (∀ rule source entries given, rule.getOr "logsource" (.map []) = .ok (.map source) →
      TextSource source → rule.getOr "detection" (.map []) = .ok (.map entries) →
      (Succeeds (requirements rule (.ok given)) ↔ ReadableParts entries)) ∧
    ((∀ s, v = .text s → isDigits s = false) → ∀ (f : Frame) given,
      requirements (f.rule (Spelling.listed.block selection field v)) (.ok given) =
        requirements (f.rule (Spelling.bare.block selection field v)) (.ok given)) ∧
    ((∀ (f : Frame) given (sp : Spelling),
      (requirements (f.rule (sp.block selection field v)) (.ok given)).map (·.events) =
        (requirements (f.rule (Spelling.bare.block selection field v)) (.ok given)).map (·.events)) ↔
      (∃ s, v = .text s ∧ isDigits s = false) ∧ CodesOnlyIn field selection) := by
  refine ⟨fun rule source entries given => requirements_readable_iff, fun hdigits f given => ?_,
    fun h => ?_, ?_⟩
  · refine f.requirements_congr ?_
    have hcodes : fieldCodes (.list [v]) = fieldCodes v := by
      rw [fieldCodes_single]
      rcases hv with ⟨n, rfl⟩ | ⟨s, rfl⟩
      · rfl
      · simp [itemCode?, hdigits s rfl, fieldCodes, Except.map]
    simp only [partCodes, Spelling.block, selectionCodes_putField_congr hcodes]
  · -- A block in a list asks for no events, so neither does the value in a list.
    have hsame := (h .bare [] .listed).trans (h .bare [] .nested).symm
    obtain ⟨needs, hneeds⟩ := (@requirements_readable_iff _ _ _ [] (by cbv) textSource_nil
      (Frame.bare.getOr_rule (Spelling.nested.block selection field v))).2
        (by simp [ReadableParts, Frame.bare, Spelling.block])
    obtain ⟨codes, hcodes, hnone⟩ := Frame.events_bare hneeds
    obtain rfl : [] = codes := by simpa [partCodes, Spelling.block] using hcodes
    rw [hneeds] at hsame
    obtain ⟨needs', hneeds', hevents : needs'.events = needs.events⟩ := map_eq_ok.1 hsame
    obtain ⟨codes, hcodes, hlisted⟩ := Frame.events_bare hneeds'
    rw [hlisted, hnone] at hevents
    obtain rfl : codes = [] := Value.eq_nil_of_distinct (List.map_eq_nil_iff.1 hevents)
    rw [partCodes, if_neg (by simp [Frame.bare, Value.text_same])] at hcodes
    obtain ⟨hlist, honly⟩ := (selectionCodes_putField_eq_nil_iff hfield).1 hcodes
    exact ⟨(fieldCodes_single_eq_nil_iff hv).1 hlist, honly⟩
  · rintro ⟨⟨s, rfl, hs⟩, honly⟩ f given sp
    have hlist := (fieldCodes_single_eq_nil_iff hv).2 ⟨s, rfl, hs⟩
    have hblock (sp : Spelling) : partCodes (f.name, sp.block selection field (.text s)) = .ok [] := by
      rw [partCodes]
      split
      · rfl
      · cases sp with
        | bare => exact (selectionCodes_putField_eq_nil_iff hfield).2 ⟨rfl, honly⟩
        | listed => exact (selectionCodes_putField_eq_nil_iff hfield).2 ⟨hlist, honly⟩
        | nested => rfl
    rw [f.requirements_congr ((hblock sp).trans (hblock .bare).symm)]

end

theorem spelling_free_iff_word :
    (requirements (Frame.bare.rule (Spelling.nested.block [] "EventID" (.text "any")))
        (.ok [])).map (·.events) =
      (requirements (Frame.bare.rule (Spelling.bare.block [] "EventID" (.text "any")))
        (.ok [])).map (·.events) :=
  (spelling_free_iff (by decide) (.inr ⟨"any", rfl⟩) []).2.2.2
    ⟨⟨"any", rfl, by decide⟩, by simp [CodesOnlyIn, Value.find?]⟩ .bare [] .nested

theorem spelling_changes_events :
    ¬Succeeds (requirements (Frame.bare.rule (Spelling.listed.block [] "EventID" (.text "²")))
        (.ok [])) ∧
      (requirements (Frame.bare.rule (Spelling.bare.block [] "EventID" (.int 1)))
        (.ok [])).map (·.events.length) = .ok 1 ∧
      (requirements (Frame.bare.rule (Spelling.nested.block [] "EventID" (.int 1)))
        (.ok [])).map (·.events.length) = .ok 0 := by
  refine ⟨?_, by cbv, by cbv⟩
  rw [requirements_readable_iff (by cbv) textSource_nil (Frame.bare.getOr_rule _)]
  intro h
  have hnumeral : IsNumeral "²" := h _ _ (List.mem_singleton_self _) (by simp [Frame.bare]) "EventID"
    (by decide) _ (by cbv) "²" (List.mem_singleton_self _) (by decide)
  exact absurd (hnumeral.1 '²' (by decide)) (by decide)

end Conversion
end Huntbook
