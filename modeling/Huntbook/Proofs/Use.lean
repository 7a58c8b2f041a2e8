import Huntbook.Proofs.Replaced
import Huntbook.Proofs.Reworded

/-!
# What a condition uses

A condition uses the clauses of its rule in one of three ways. Just the name of a block, it is the
clause of this block as it is.
-/

namespace Huntbook.Conversion

open List Search

variable {s : String} {named : List NamedParts}

/-! ## Blocks with their parts -/

abbrev Sketch := Value × List Part

/-- The name of a block with its clause. -/
def Sketch.clause (d : Sketch) : Value × String := (d.1, spell d.2)

def sketches (fields : FieldMap) (entries : Entries) : List Sketch :=
  (entries.filter fun e => !e.1.same (.text "condition")).filterMap fun e =>
    (blockParts fields e.2).map (e.1, ·)

variable {fields : FieldMap} {entries : Entries} {c : NamedParts} {ps : List Part}

lemma clausesOf_eq {blocks : List (Value × Block)} (h : blocksOf fields entries = .ok blocks) :
    clausesOf blocks = (sketches fields entries).map Sketch.clause := by
  have hall := mapM_eq_ok.1 h
  unfold sketches clausesOf
  generalize (entries.filter fun e => !e.1.same (.text "condition")) = named at hall
  clear h
  induction hall with
  | nil => rfl
  | @cons e b entries blocks he _ ih =>
    obtain ⟨block, hblock, rfl⟩ := map_eq_ok.1 he
    have hclause := clause_of_ofValue hblock
    cases hparts : blockParts fields e.2 <;> simp [hclause, hparts, ih, Sketch.clause]

lemma noWord_sketches {d : Sketch} (h : d ∈ sketches fields entries) : NoWord d.2 := by
  obtain ⟨e, -, he⟩ := mem_filterMap.1 h
  obtain ⟨ps, hps, rfl⟩ := Option.map_eq_some_iff.1 he
  exact noWord_blockParts hps

def namedSketches? (ds : List Sketch) : Option (List NamedParts) :=
  ds.mapM fun d => d.1.text?.map (·, d.2)

lemma namedTexts?_eq (ds : List Sketch) :
    namedTexts? (ds.map Sketch.clause) = (namedSketches? ds).map (List.map NamedParts.clause) := by
  unfold namedTexts? namedSketches?
  induction ds with
  | nil => rfl
  | cons d ds ih =>
    rw [map_cons, mapM_cons, mapM_cons, ih]
    cases hname : d.1.text? with
    | none => simp [Sketch.clause, hname]
    | some name =>
      cases ds.mapM fun d : Sketch => d.1.text?.map (·, d.2) <;>
        simp [Sketch.clause, NamedParts.clause, hname]

variable {clauses : List (Value × String)} {out : String} {ds : List Sketch} {condition : Value}

lemma namedTexts?_eq_some {named : List NamedClause} :
    namedTexts? clauses = some named ↔ clauses = named.map fun c => (.text c.1, c.2) := by
  unfold namedTexts?
  induction clauses generalizing named with
  | nil => cases named <;> simp
  | cons c clauses ih =>
    rw [mapM_cons]
    constructor
    · intro h
      obtain ⟨c', hc', h⟩ := Option.bind_eq_some_iff.1 h
      obtain ⟨named', hnamed', h⟩ := Option.bind_eq_some_iff.1 h
      obtain rfl : c' :: named' = named := by simpa using h
      obtain ⟨name, hname, rfl⟩ := Option.map_eq_some_iff.1 hc'
      rw [map_cons, ← ih.1 hnamed']
      rcases c with ⟨v, clause⟩
      cases v with
      | text s => rw [Option.some.inj hname]
      | _ => simp [Value.text?] at hname
    · intro h
      cases named with
      | nil => simp at h
      | cons d named =>
        obtain ⟨rfl, hrest⟩ := cons.inj h
        rw [ih.2 hrest]
        rfl

lemma resolveValue_text {named : List NamedClause} (h : namedTexts? clauses = some named) :
    resolveValue (.text s) clauses = .ok out ↔ resolve s named = .ok out := by
  simp only [resolveValue, h]
  cases resolve s named <;> simp [Except.mapError]

lemma exists_mem_of_namedSketches? (h : namedSketches? ds = some named)
    (hc : c ∈ named) : ∃ d ∈ ds, d.2 = c.2 := by
  unfold namedSketches? at h
  induction ds generalizing named with
  | nil =>
    obtain rfl : named = [] := by simpa using h.symm
    simp at hc
  | cons d ds ih =>
    rw [mapM_cons] at h
    obtain ⟨c', hc', h⟩ := Option.bind_eq_some_iff.1 h
    obtain ⟨named', hnamed', h⟩ := Option.bind_eq_some_iff.1 h
    obtain rfl : c' :: named' = named := by simpa using h
    obtain ⟨name, -, rfl⟩ := Option.map_eq_some_iff.1 hc'
    rcases mem_cons.1 hc with rfl | hc
    · exact ⟨d, mem_cons_self, rfl⟩
    · obtain ⟨d', hd', heq⟩ := ih hnamed' hc
      exact ⟨d', mem_cons_of_mem d hd', heq⟩

/-! ## The use of a condition -/

inductive Use
  | nothing
  /-- The clause with these parts, as it is. -/
  | block (ps : List Part)
  | replaced (text : Chars) (cs : List NamedParts)

def byNameLength (cs : List NamedParts) : List NamedParts :=
  cs.mergeSort fun a b => b.1.length ≤ a.1.length

/-- The use of a clause that has been found, or another one. -/
def Use.found {α : Type} (other : Use) : Option (α × List Part) → Use
  | some c => .block c.2
  | none => other

def textUse (s : String) (named : List NamedParts) : Use :=
  if s.isEmpty || named.isEmpty then .nothing
  else Use.found (.replaced s.toList (byNameLength named)) (named.reverse.find? fun c => c.1 == s)

def valueUse (condition : Value) (ds : List Sketch) : Use :=
  if !condition.truthy || !condition.hashable then .nothing
  else Use.found .nothing (ds.find? fun d => condition.same d.1)

def useOf (condition : Value) (ds : List Sketch) : Use :=
  match condition, namedSketches? ds with
  | .text s, some named => textUse s named
  | condition, _ => valueUse condition ds

def Use.Makes : Use → String → Prop
  | .nothing, out => out = ""
  | .block ps, out => out = spell ps
  | .replaced text cs, out => (∀ c ∈ cs, Readable (spell c.2)) ∧
      out = String.ofList (settle (cs.map NamedParts.clause) text)

lemma byLength_clause (cs : List NamedParts) :
    byLength (cs.map NamedParts.clause) = (byNameLength cs).map NamedParts.clause := by
  exact (map_mergeSort (f := NamedParts.clause) fun _ _ _ _ => rfl).symm

lemma mem_byNameLength {cs : List NamedParts} : c ∈ byNameLength cs ↔ c ∈ cs :=
  mem_mergeSort

lemma lookupClause_clause (cs : List NamedParts) (s : String) :
    lookupClause (cs.map NamedParts.clause) s =
      (cs.reverse.find? fun c => c.1 == s).map fun c => spell c.2 := by
  rw [lookupClause, ← map_reverse, find?_map, Option.map_map]
  rfl

lemma resolve_eq_ok_iff_makes :
    resolve s (named.map NamedParts.clause) = .ok out ↔ (textUse s named).Makes out := by
  by_cases hnone : s.isEmpty || named.isEmpty
  · have hnone' : s.isEmpty || (named.map NamedParts.clause).isEmpty := by
      rwa [isEmpty_map]
    rw [resolve, textUse, if_pos hnone, if_pos hnone', Except.ok.injEq]
    exact eq_comm
  have hlookup := lookupClause_clause named s
  rw [textUse, if_neg hnone]
  simp only [Bool.or_eq_true, not_or, String.isEmpty_iff, List.isEmpty_iff] at hnone
  cases hfind : named.reverse.find? fun c => c.1 == s with
  | some c =>
    rw [hfind] at hlookup
    have hnone' : ¬(s.isEmpty || (named.map NamedParts.clause).isEmpty) := by
      simpa using hnone
    rw [resolve, if_neg hnone', hlookup]
    simp only [Option.map_some, Except.ok.injEq, Use.found, Use.Makes]
    exact eq_comm
  | none =>
    have hname : ∀ c ∈ named.map NamedParts.clause, c.1 ≠ s := by
      refine forall_mem_map.2 fun c hc => ?_
      simpa [NamedParts.clause] using find?_eq_none.1 hfind c (mem_reverse.2 hc)
    have hread : (∀ c ∈ named.map NamedParts.clause, Readable c.2) ↔
        ∀ c ∈ byNameLength named, Readable (spell c.2) := by
      simp only [forall_mem_map, mem_byNameLength]
      rfl
    rw [resolve_eq_ok_iff (by simpa using hnone.2) hnone.1 hname, byLength_clause, hread]
    rfl

lemma resolveValue_of_not_text (h : condition.text? = none ∨ namedTexts? clauses = none) :
    resolveValue condition clauses = resolveAny condition clauses := by
  unfold resolveValue
  split
  · rename_i hnamed
    simp [Value.text?, hnamed] at h
  · rfl

lemma find?_clause (condition : Value) (ds : List Sketch) :
    (ds.map Sketch.clause).find? (fun c => condition.same c.1) =
      (ds.find? fun d => condition.same d.1).map Sketch.clause :=
  find?_map

lemma makes_valueUse (h : condition.text? = none ∨ namedTexts? (ds.map Sketch.clause) = none)
    (hout : resolveValue condition (ds.map Sketch.clause) = .ok out) :
    (valueUse condition ds).Makes out := by
  rw [resolveValue_of_not_text h, resolveAny, find?_clause] at hout
  unfold valueUse
  split at hout
  · obtain rfl := Except.ok.inj hout
    split
    · rfl
    · obtain rfl : ds = [] := by simp_all
      rfl
  · split at hout
    · simp at hout
    · rw [if_neg (by simp_all)]
      cases hfind : ds.find? fun d => condition.same d.1 with
      | some d =>
        rw [hfind] at hout
        exact (Except.ok.inj hout).symm
      | none =>
        rw [hfind] at hout
        obtain ⟨sized, -, hout⟩ := bind_eq_ok.1 hout
        obtain ⟨_, -, hout⟩ := bind_eq_ok.1 hout
        exact (Except.ok.inj hout).symm

lemma resolveValue_of_valueUse
    (h : condition.text? = none ∨ namedTexts? (ds.map Sketch.clause) = none)
    (hu : valueUse condition ds = .block ps) :
    resolveValue condition (ds.map Sketch.clause) = .ok (spell ps) := by
  unfold valueUse at hu
  split at hu
  · simp at hu
  · cases hfind : ds.find? fun d => condition.same d.1 with
    | none => simp [hfind, Use.found] at hu
    | some d =>
      obtain rfl : d.2 = ps := by simpa [hfind, Use.found] using hu
      have hne : ds ≠ [] := by
        rintro rfl
        simp at hfind
      rw [resolveValue_of_not_text h, resolveAny, find?_clause, hfind, if_neg (by simp_all),
        if_neg (by simp_all)]
      rfl

lemma resolveValue_text_iff (h : namedSketches? ds = some named) :
    resolveValue (.text s) (ds.map Sketch.clause) = .ok out ↔ (textUse s named).Makes out := by
  have htexts : namedTexts? (ds.map Sketch.clause) = some (named.map NamedParts.clause) := by
    rw [namedTexts?_eq, h, Option.map_some]
  rw [← resolve_eq_ok_iff_makes, resolveValue_text htexts]

lemma useOf_cases (condition : Value) (ds : List Sketch) :
    (∃ s named, condition = .text s ∧ namedSketches? ds = some named ∧
        useOf condition ds = textUse s named) ∨
      (condition.text? = none ∨ namedTexts? (ds.map Sketch.clause) = none) ∧
        useOf condition ds = valueUse condition ds := by
  cases condition with
  | text s =>
    cases hnamed : namedSketches? ds with
    | some named => exact .inl ⟨s, named, rfl, rfl, by simp only [useOf, hnamed]⟩
    | none =>
      refine .inr ⟨.inr ?_, by simp only [useOf, hnamed]⟩
      rw [namedTexts?_eq, hnamed, Option.map_none]
  | _ => exact .inr ⟨.inl rfl, rfl⟩

lemma makes_of_resolveValue (h : resolveValue condition (ds.map Sketch.clause) = .ok out) :
    (useOf condition ds).Makes out := by
  rcases useOf_cases condition ds with ⟨s, named, rfl, hnamed, hu⟩ | ⟨hno, hu⟩
  · rw [hu]
    exact (resolveValue_text_iff hnamed).1 h
  · rw [hu]
    exact makes_valueUse hno h

lemma resolveValue_of_makes (hne : useOf condition ds ≠ .nothing)
    (h : (useOf condition ds).Makes out) :
    resolveValue condition (ds.map Sketch.clause) = .ok out := by
  rcases useOf_cases condition ds with ⟨s, named, rfl, hnamed, hu⟩ | ⟨hno, hu⟩
  · rw [hu] at h
    exact (resolveValue_text_iff hnamed).2 h
  · rw [hu] at h hne
    cases hv : valueUse condition ds with
    | nothing => exact absurd hv hne
    | block ps =>
      rw [hv] at h
      obtain rfl : out = spell ps := h
      exact resolveValue_of_valueUse hno hv
    | replaced text cs =>
      unfold valueUse at hv
      split at hv
      · simp at hv
      · cases hfind : ds.find? fun d => condition.same d.1 <;> simp [hfind, Use.found] at hv

lemma exists_mem_of_useOf (h : useOf condition ds = .block ps) : ∃ d ∈ ds, d.2 = ps := by
  rcases useOf_cases condition ds with ⟨s, named, rfl, hnamed, hu⟩ | ⟨-, hu⟩
  · rw [hu, textUse] at h
    split at h
    · simp at h
    · cases hfind : named.reverse.find? fun c => c.1 == s with
      | none => simp [hfind, Use.found] at h
      | some c =>
        obtain rfl : c.2 = ps := by simpa [hfind, Use.found] using h
        exact exists_mem_of_namedSketches? hnamed (mem_reverse.1 (mem_of_find?_eq_some hfind))
  · rw [hu, valueUse] at h
    split at h
    · simp at h
    · cases hfind : ds.find? fun d => condition.same d.1 with
      | none => simp [hfind, Use.found] at h
      | some d => exact ⟨d, mem_of_find?_eq_some hfind, by simpa [hfind, Use.found] using h⟩

/-! ## Uses when the parts of clauses are changed -/

abbrev SameNames {α : Type} (R : List Part → List Part → Prop) (a b : α × List Part) : Prop :=
  b.1 = a.1 ∧ R a.2 b.2

inductive Use.Rel (R : List Part → List Part → Prop) : Use → Use → Prop
  | nothing : Rel R .nothing .nothing
  | block {ps qs : List Part} (h : R ps qs) : Rel R (.block ps) (.block qs)
  | replaced (text : Chars) {cs cs' : List NamedParts}
      (h : Forall₂ (SameNames R) cs cs') : Rel R (.replaced text cs) (.replaced text cs')

section

variable {R : List Part → List Part → Prop}

lemma rel_find? {α : Type} {p : α → Bool} {xs ys : List (α × List Part)}
    (h : Forall₂ (SameNames R) xs ys) :
    Option.Rel (SameNames R) (xs.find? fun x => p x.1) (ys.find? fun y => p y.1) := by
  induction h with
  | nil => exact .none
  | @cons x y xs ys hxy _ ih =>
    rw [find?_cons, find?_cons, hxy.1]
    split
    · exact .some hxy
    · exact ih

lemma rel_namedSketches? {ds ds' : List Sketch} (h : Forall₂ (SameNames R) ds ds') :
    Option.Rel (Forall₂ (SameNames R)) (namedSketches? ds) (namedSketches? ds') := by
  induction h with
  | nil => exact .some .nil
  | @cons d d' ds ds' hd _ ih =>
    unfold namedSketches? at ih ⊢
    rw [mapM_cons, mapM_cons, hd.1]
    generalize (ds.mapM fun d => d.1.text?.map (·, d.2)) = o at ih
    generalize (ds'.mapM fun d => d.1.text?.map (·, d.2)) = o' at ih
    cases d.1.text? with
    | none => exact .none
    | some name =>
      cases ih with
      | none => exact .none
      | some ih => exact .some (.cons ⟨rfl, hd.2⟩ ih)

lemma rel_byNameLength {cs cs' : List NamedParts} (h : Forall₂ (SameNames R) cs cs') :
    Forall₂ (SameNames R) (byNameLength cs) (byNameLength cs') := by
  obtain ⟨hlen, hzip⟩ := forall₂_iff_zip.1 h
  have hfst : (cs.zip cs').map Prod.fst = cs := map_fst_zip (by omega)
  have hsnd : (cs.zip cs').map Prod.snd = cs' := map_snd_zip (by omega)
  have hleft := map_mergeSort (f := Prod.fst) (l := cs.zip cs')
    (r := fun a b => b.1.1.length ≤ a.1.1.length) (s := fun a b => b.1.length ≤ a.1.length)
    fun _ _ _ _ => rfl
  have hright := map_mergeSort (f := Prod.snd) (l := cs.zip cs')
    (r := fun a b => b.1.1.length ≤ a.1.1.length) (s := fun a b => b.1.length ≤ a.1.length)
    fun a ha b hb => by rw [(hzip ha).1, (hzip hb).1]
  rw [hfst] at hleft
  rw [hsnd] at hright
  rw [byNameLength, byNameLength, ← hleft, ← hright, forall₂_map_left_iff,
    forall₂_map_right_iff, forall₂_same]
  exact fun z hz => hzip (mem_mergeSort.1 hz)

lemma rel_found {α : Type} {o o' : Option (α × List Part)} {u u' : Use}
    (h : Option.Rel (SameNames R) o o') (hu : Use.Rel R u u') :
    Use.Rel R (u.found o) (u'.found o') := by
  cases h with
  | none => exact hu
  | some h => exact .block h.2

lemma textUse_rel (s : String) {named named' : List NamedParts}
    (h : Forall₂ (SameNames R) named named') : Use.Rel R (textUse s named) (textUse s named') := by
  have hempty : named'.isEmpty = named.isEmpty := by
    cases h <;> rfl
  unfold textUse
  rw [hempty]
  split
  · exact .nothing
  · exact rel_found (rel_find? (p := (· == s)) (rel_reverse h))
      (.replaced _ (rel_byNameLength h))

lemma valueUse_rel (condition : Value) {ds ds' : List Sketch} (h : Forall₂ (SameNames R) ds ds') :
    Use.Rel R (valueUse condition ds) (valueUse condition ds') := by
  unfold valueUse
  split
  · exact .nothing
  · exact rel_found (rel_find? (p := condition.same) h) .nothing

lemma useOf_rel (condition : Value) {ds ds' : List Sketch} (h : Forall₂ (SameNames R) ds ds') :
    Use.Rel R (useOf condition ds) (useOf condition ds') := by
  have hnamed := rel_namedSketches? h
  have hvalue := valueUse_rel condition h
  unfold useOf
  generalize namedSketches? ds = o at hnamed
  generalize namedSketches? ds' = o' at hnamed
  cases condition with
  | text s =>
    cases hnamed with
    | none => exact hvalue
    | some hnamed => exact textUse_rel s hnamed
  | _ => exact hvalue

end

def Use.reword (g : Option Comparison → String) : Use → Use
  | .nothing => .nothing
  | .block ps => .block (ps.map (Part.reword g))
  | .replaced text cs => .replaced text (cs.map (NamedParts.reword g))

lemma useOf_reword (g : Option Comparison → String) (condition : Value) (ds : List Sketch) :
    useOf condition (ds.map fun d => (d.1, d.2.map (Part.reword g))) =
      (useOf condition ds).reword g := by
  have hds : Forall₂ (SameNames fun ps qs => qs = ps.map (Part.reword g)) ds
      (ds.map fun d => (d.1, d.2.map (Part.reword g))) :=
    forall₂_map_right_iff.2 (forall₂_same.2 fun _ _ => ⟨rfl, rfl⟩)
  have hrel := useOf_rel condition hds
  generalize useOf condition ds = u at hrel
  generalize useOf condition (ds.map fun d => (d.1, d.2.map (Part.reword g))) = u' at hrel
  cases hrel with
  | nothing => rfl
  | block h => rw [h, Use.reword]
  | @replaced text cs cs' h =>
    have hcs : cs' = cs.map (NamedParts.reword g) := by
      induction h with
      | nil => rfl
      | cons hc _ ih => rw [map_cons, ← ih, NamedParts.reword, ← hc.1, ← hc.2]
    rw [hcs, Use.reword]

end Huntbook.Conversion
