import Huntbook.Proofs.Contained

/-!
# Rules with other texts

Two rules that differ only in the text of values in the blocks of their detections. Keys, the
condition and the log source are the same, and so are the fields that are used and the kind of
everything that is no text.
-/

namespace Huntbook

open List

variable {a : String} {v : Value}

lemma Value.text_same : (Value.text a).same v ↔ v = .text a := by
  cases v with
  | text b =>
    simp only [Value.same, beq_iff_eq, Value.text.injEq]
    exact eq_comm
  | _ => simp [Value.same]

lemma Value.same_text : v.same (.text a) ↔ v = .text a := by
  cases v with
  | text b => simp [Value.same]
  | _ => simp [Value.same, Value.number?]

namespace Conversion

open Search

/-! ## Values and rules that differ in texts -/

inductive Reworded : Value → Value → Prop
  | refl (v : Value) : Reworded v v
  | text (s t : String) : Reworded (.text s) (.text t)
  | list {vs ws : List Value} (h : Forall₂ Reworded vs ws) : Reworded (.list vs) (.list ws)
  | tuple {vs ws : List Value} (h : Forall₂ Reworded vs ws) :
      Reworded (.tuple vs) (.tuple ws)
  | set {vs ws : List Value} (h : Forall₂ Reworded vs ws) : Reworded (.set vs) (.set ws)
  | map {es fs : Entries} (keys : es.map Prod.fst = fs.map Prod.fst)
      (h : Forall₂ Reworded (es.map Prod.snd) (fs.map Prod.snd)) :
      Reworded (.map es) (.map fs)

abbrev Entrywise (P : Value → Value → Value → Prop) (es fs : Entries) : Prop :=
  Forall₂ (fun e f => f.1 = e.1 ∧ P e.1 e.2 f.2) es fs

inductive RewordedDetection : Value → Value → Prop
  | map {es fs : Entries}
      (h : Entrywise (fun name v w => w = v ∨ name ≠ .text "condition" ∧ Reworded v w) es fs) :
      RewordedDetection (.map es) (.map fs)

/-- Rules that differ only in texts of the blocks of their detections. -/
inductive RewordedRule : Value → Value → Prop
  | map {es fs : Entries}
      (h : Entrywise (fun key v w => w = v ∨ key = .text "detection" ∧ RewordedDetection v w)
        es fs) :
      RewordedRule (.map es) (.map fs)

lemma Entrywise.getOr {P : Value → Value → Value → Prop} {es fs : Entries}
    (h : Entrywise P es fs) (name : String) {d : Value} (hd : P (.text name) d d) :
    ∃ v w, (Value.map es).getOr name d = .ok v ∧ (Value.map fs).getOr name d = .ok w ∧
      P (.text name) v w := by
  refine ⟨_, _, rfl, rfl, ?_⟩
  simp only [Value.find?]
  induction h with
  | nil => exact hd
  | @cons e f es fs hef _ ih =>
    obtain ⟨hkey, hval⟩ := hef
    rw [find?_cons, find?_cons, hkey]
    split
    · rename_i hsame
      rwa [Value.text_same.1 hsame] at hval
    · exact ih

lemma RewordedRule.getOr {rule rule' : Value} (h : RewordedRule rule rule') :
    rule'.getOr "logsource" (.map []) = rule.getOr "logsource" (.map []) ∧
      ∃ v w, rule.getOr "detection" (.map []) = .ok v ∧ rule'.getOr "detection" (.map []) = .ok w ∧
        (w = v ∨ RewordedDetection v w) := by
  cases h with
  | map h =>
    obtain ⟨v, w, hv, hw, hsource⟩ := Entrywise.getOr h "logsource" (.inl (Eq.refl (.map [])))
    obtain ⟨v', w', hv', hw', hdetection⟩ :=
      Entrywise.getOr h "detection" (.inl (Eq.refl (.map [])))
    refine ⟨?_, v', w', hv', hw', hdetection.imp_right (·.2)⟩
    rcases hsource with rfl | ⟨hkey, -⟩
    · rw [hv, hw]
    · exact absurd hkey (by simp)

lemma entrywise_of_reworded {es fs : Entries} (keys : es.map Prod.fst = fs.map Prod.fst)
    (h : Forall₂ Reworded (es.map Prod.snd) (fs.map Prod.snd)) :
    Entrywise (fun _ => Reworded) es fs := by
  induction es generalizing fs with
  | nil =>
    obtain rfl : fs = [] := by simpa using keys.symm
    exact .nil
  | cons e es ih =>
    cases fs with
    | nil => simp at keys
    | cons f fs =>
      simp only [map_cons, cons.injEq] at keys
      simp only [map_cons, forall₂_cons] at h
      exact .cons ⟨keys.1.symm, h.1⟩ (ih keys.2 h.2)

/-! ## Their blocks have the same parts up to texts -/

abbrev AlikeParts : Option (List Part) → Option (List Part) → Prop := Option.Rel (Forall₂ Alike)

lemma AlikeParts.refl (o : Option (List Part)) : AlikeParts o o := by
  cases o with
  | none => exact .none
  | some ps => exact .some (forall₂_same.2 fun p _ => .refl p)

lemma alike_bracketed {ps qs : List Part} (h : Forall₂ Alike ps qs) :
    Forall₂ Alike (bracketed ps) (bracketed qs) :=
  .cons (.fixed _) (rel_append h (.cons (.fixed _) .nil))

lemma alike_map_bracketed {o o' : Option (List Part)} (h : AlikeParts o o') :
    AlikeParts (o.map bracketed) (o'.map bracketed) := by
  cases h with
  | none => exact .none
  | some h => exact .some (alike_bracketed h)

lemma alike_joined {sep : String} {pss qss : List (List Part)}
    (h : Forall₂ (Forall₂ Alike) pss qss) : AlikeParts (joined sep pss) (joined sep qss) := by
  induction h with
  | nil => exact .none
  | @cons ps qs pss qss hp htail ih =>
    cases htail with
    | nil => exact .some (by simpa using hp)
    | cons hp' htail =>
      simp only [joined, isEmpty_cons, Bool.false_eq_true, if_false,
        intercalate_cons_cons, Option.rel_some_some] at ih ⊢
      exact rel_append (rel_append hp (.cons (.fixed _) .nil)) ih

lemma alike_filterMap {α : Type} {R : α → α → Prop} {f : α → Option (List Part)}
    (hf : ∀ a b, R a b → AlikeParts (f a) (f b)) {xs ys : List α} (h : Forall₂ R xs ys) :
    Forall₂ (Forall₂ Alike) (xs.filterMap f) (ys.filterMap f) :=
  rel_filterMap hf h

lemma Reworded.valueParts {v w : Value} (h : Reworded v w) (field : String)
    (modifiers : Texts) :
    AlikeParts (valueParts field modifiers v) (valueParts field modifiers w) := by
  cases h with
  | refl => exact .refl _
  | text s t => exact .some (.cons (.compared _ _ _ _) .nil)
  | list | tuple | set | map => exact .none

lemma Reworded.fieldParts {v w : Value} (h : Reworded v w) (fields : FieldMap)
    (ref : FieldRef) : AlikeParts (fieldParts fields ref v) (fieldParts fields ref w) := by
  cases h with
  | list h =>
    have hclauses := alike_filterMap (fun v w (hv : Reworded v w) =>
      hv.valueParts (fields.target ref.name) ref.modifiers) h
    exact alike_map_bracketed (alike_joined hclauses)
  | refl => exact .refl _
  | text s t => exact .some (.cons (.compared _ _ _ _) .nil)
  | tuple | set | map => exact .none

lemma alike_selectionParts {fields : FieldMap} {es fs : Entries}
    (h : Entrywise (fun _ => Reworded) es fs) :
    AlikeParts (selectionParts fields es) (selectionParts fields fs) := by
  refine alike_joined (alike_filterMap (fun e f hef => ?_) h)
  obtain ⟨hkey, hval⟩ := hef
  rw [entryParts, entryParts, hkey]
  cases FieldRef.ofKey e.1 with
  | error fault => exact .none
  | ok ref => exact hval.fieldParts fields ref

lemma Reworded.itemParts {v w : Value} (h : Reworded v w) (fields : FieldMap) :
    AlikeParts (itemParts fields v) (itemParts fields w) := by
  cases h with
  | refl => exact .refl _
  | text s t => exact .some (.cons (.keyword _ _) .nil)
  | map keys h => exact alike_selectionParts (entrywise_of_reworded keys h)
  | list | tuple | set => exact .none

lemma Reworded.blockParts {v w : Value} (h : Reworded v w) (fields : FieldMap) :
    AlikeParts (blockParts fields v) (blockParts fields w) := by
  cases h with
  | refl => exact .refl _
  | map keys h => exact alike_selectionParts (entrywise_of_reworded keys h)
  | list h =>
    have hclauses := alike_filterMap (fun v w (hv : Reworded v w) => hv.itemParts fields) h
    exact alike_joined (rel_map (fun _ _ hps => alike_bracketed hps) hclauses)
  | text | tuple | set => exact .none

/-! ## Other texts in a rule -/

section

variable (g : Option Comparison → String)

def rewordValue (modifiers : Texts) : Value → Value
  | .text s => .text (g (some (Comparison.ofModifiers modifiers s)))
  | v => v

def rewordField (modifiers : Texts) : Value → Value
  | .list values => .list (values.map (rewordValue g modifiers))
  | v => rewordValue g modifiers v

def rewordEntry (e : Value × Value) : Value × Value :=
  match FieldRef.ofKey e.1 with
  | .ok ref => (e.1, rewordField g ref.modifiers e.2)
  | .error _ => e

def rewordItem : Value → Value
  | .map entries => .map (entries.map (rewordEntry g))
  | .text _ => .text (g none)
  | v => v

def rewordBlock : Value → Value
  | .map entries => .map (entries.map (rewordEntry g))
  | .list items => .list (items.map (rewordItem g))
  | v => v

def rewordNamed (e : Value × Value) : Value × Value :=
  (e.1, if e.1.same (.text "condition") then e.2 else rewordBlock g e.2)

def rewordDetection : Value → Value
  | .map entries => .map (entries.map (rewordNamed g))
  | v => v

def rewordRule : Value → Value
  | .map entries => .map (entries.map fun e =>
      (e.1, if (Value.text "detection").same e.1 then rewordDetection g e.2 else e.2))
  | v => v

lemma rewordEntry_fst (e : Value × Value) : (rewordEntry g e).1 = e.1 := by
  unfold rewordEntry
  split <;> rfl

lemma isWritten_rewordEntry {e : Value × Value} (h : ∀ v ∈ valuesOf e.2, isWritten v) :
    ∀ v ∈ valuesOf (rewordEntry g e).2, isWritten v := by
  have hvalue (modifiers : Texts) (v : Value) :
      isWritten (rewordValue g modifiers v) = isWritten v := by
    cases v <;> rfl
  unfold rewordEntry
  split
  · obtain ⟨key, value⟩ := e
    cases value with
    | list values => simpa [rewordField, valuesOf, hvalue] using h
    | int n => exact h
    | _ => simp [rewordField, rewordValue, valuesOf, isWritten]
  · exact h

lemma reworded_list {f : Value → Value} (hf : ∀ v, Reworded v (f v)) (vs : List Value) :
    Forall₂ Reworded vs (vs.map f) :=
  forall₂_map_right_iff.2 (forall₂_same.2 fun v _ => hf v)

lemma reworded_rewordValue (modifiers : Texts) (v : Value) :
    Reworded v (rewordValue g modifiers v) := by
  cases v with
  | text s => exact .text _ _
  | _ => exact .refl _

lemma reworded_rewordField (modifiers : Texts) (v : Value) :
    Reworded v (rewordField g modifiers v) := by
  cases v with
  | list values => exact .list (reworded_list (reworded_rewordValue g modifiers) values)
  | text s => exact .text _ _
  | _ => exact .refl _

lemma reworded_map_rewordEntry (entries : Entries) :
    Reworded (.map entries) (.map (entries.map (rewordEntry g))) := by
  refine .map ?_ ?_
  · rw [map_map]
    exact map_congr_left fun e _ => (rewordEntry_fst g e).symm
  · rw [map_map, forall₂_map_left_iff, forall₂_map_right_iff, forall₂_same]
    intro e _
    simp only [Function.comp_apply, rewordEntry]
    split
    · exact reworded_rewordField g _ _
    · exact .refl _

lemma reworded_rewordItem (v : Value) : Reworded v (rewordItem g v) := by
  cases v with
  | map entries => exact reworded_map_rewordEntry g entries
  | text s => exact .text _ _
  | _ => exact .refl _

lemma reworded_rewordBlock (v : Value) : Reworded v (rewordBlock g v) := by
  cases v with
  | map entries => exact reworded_map_rewordEntry g entries
  | list items => exact .list (reworded_list (reworded_rewordItem g) items)
  | _ => exact .refl _

lemma reworded_rewordNamed (entries : Entries) :
    RewordedDetection (.map entries) (.map (entries.map (rewordNamed g))) := by
  refine .map (forall₂_map_right_iff.2 (forall₂_same.2 fun e _ => ⟨rfl, ?_⟩))
  simp only [rewordNamed]
  split
  · exact .inl rfl
  · rename_i hname
    exact .inr ⟨fun h => hname (Value.same_text.2 h), reworded_rewordBlock g e.2⟩

lemma reworded_rewordRule (entries : Entries) :
    RewordedRule (.map entries) (rewordRule g (.map entries)) := by
  refine .map (forall₂_map_right_iff.2 (forall₂_same.2 fun e _ => ⟨rfl, ?_⟩))
  split
  · rename_i hkey
    cases e.2 with
    | map named => exact .inr ⟨Value.text_same.1 hkey, reworded_rewordNamed g named⟩
    | _ => exact .inl rfl
  · exact .inl rfl

/-! ## The parts of a block with other texts -/

lemma filterMap_reword {α : Type} {f : α → Option (List Part)} {r : α → α}
    (h : ∀ a, f (r a) = (f a).map (List.map (Part.reword g))) (xs : List α) :
    (xs.map r).filterMap f = (xs.filterMap f).map (List.map (Part.reword g)) := by
  rw [filterMap_map, map_filterMap]
  exact filterMap_congr fun a _ => h a

lemma joined_reword (sep : String) (pss : List (List Part)) :
    joined sep (pss.map (List.map (Part.reword g))) =
      (joined sep pss).map (List.map (Part.reword g)) := by
  cases pss with
  | nil => rfl
  | cons ps pss =>
    simp only [joined, map_cons, isEmpty_cons, Bool.false_eq_true, if_false, Option.map_some]
    simp only [map_eq_flatMap, Reader.flatMap_intercalate]
    rfl

lemma bracketed_reword (ps : List Part) :
    bracketed (ps.map (Part.reword g)) = (bracketed ps).map (Part.reword g) := by
  simp [bracketed, Part.reword]

lemma valueParts_rewordValue (field : String) (modifiers : Texts) (v : Value) :
    valueParts field modifiers (rewordValue g modifiers v) =
      (valueParts field modifiers v).map (List.map (Part.reword g)) := by
  cases v with
  | text s => rfl
  | _ => simp [rewordValue, valueParts, Function.comp_def, Part.reword]

lemma fieldParts_rewordField (fields : FieldMap) (ref : FieldRef) (v : Value) :
    fieldParts fields ref (rewordField g ref.modifiers v) =
      (fieldParts fields ref v).map (List.map (Part.reword g)) := by
  rcases Reader.value_cases v with ⟨values, rfl⟩ | ⟨hscalar, -⟩
  · simp only [rewordField, fieldParts, filterMap_reword g (valueParts_rewordValue g _ _),
      joined_reword, Option.map_map]
    exact congrArg (Option.map · _) (funext fun ps => bracketed_reword g ps)
  · rw [fieldParts_scalar hscalar, ← valueParts_rewordValue]
    cases v with
    | list values => exact absurd rfl (hscalar values)
    | _ => rfl

lemma entryParts_rewordEntry (fields : FieldMap) (e : Value × Value) :
    entryParts fields (rewordEntry g e) = (entryParts fields e).map (List.map (Part.reword g)) := by
  cases hkey : FieldRef.ofKey e.1 with
  | error fault => simp [rewordEntry, entryParts, hkey, Except.toOption]
  | ok ref => simp [rewordEntry, entryParts, hkey, Except.toOption, fieldParts_rewordField]

lemma selectionParts_rewordEntry (fields : FieldMap) (entries : Entries) :
    selectionParts fields (entries.map (rewordEntry g)) =
      (selectionParts fields entries).map (List.map (Part.reword g)) := by
  rw [selectionParts, filterMap_reword g (entryParts_rewordEntry g fields), joined_reword]
  rfl

lemma itemParts_rewordItem (fields : FieldMap) (v : Value) :
    itemParts fields (rewordItem g v) = (itemParts fields v).map (List.map (Part.reword g)) := by
  cases v with
  | map entries => exact selectionParts_rewordEntry g fields entries
  | _ => rfl

lemma blockParts_rewordBlock (fields : FieldMap) (v : Value) :
    blockParts fields (rewordBlock g v) = (blockParts fields v).map (List.map (Part.reword g)) := by
  cases v with
  | map entries => exact selectionParts_rewordEntry g fields entries
  | list items =>
    rw [rewordBlock, blockParts, blockParts, filterMap_reword g (itemParts_rewordItem g fields),
      ← joined_reword, map_map, map_map]
    exact congrArg (joined _ <| map · _) (funext fun ps => bracketed_reword g ps)
  | _ => rfl

end

end Conversion

end Huntbook
