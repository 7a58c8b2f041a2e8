import Huntbook.Proofs.Browse
import Huntbook.Proofs.Statistics

/-!
# Libraries that files are added to

A file that is added to a library takes no rule out of it, but it may bring a title or a choice that
cannot be compared with the others.

* `Rule.Library.browsing_survives`: when the rules can be listed and the choices can be offered, and
  what is listed of a library with one more file.
-/

namespace Huntbook

open List

namespace Folder

/-- What a folder holds after a file, or a folder of files, is added: here, under a name that is new
    here, or in a folder that is here. -/
inductive Item.Gains : Items → Items → Prop
  | here {name items} (item : Item) (h : find? name items = none) : Gains items ((name, item) :: items)
  | inside {inner inner'} (name : String) (items : Items) (h : Gains inner inner') :
      Gains ((name, .folder inner) :: items) ((name, .folder inner') :: items)
  | later {items items'} (e : String × Item) (h : Gains items items') : Gains (e :: items) (e :: items')

/-- An item is as it was, or it is a folder with one more file. -/
def Item.Grows (i i' : Item) : Prop :=
  i' = i ∨ ∃ items items', i = .folder items ∧ i' = .folder items' ∧ Gains items items'

section

variable {items items' : Items} {i : Item} {t : Tree} {p : Path} {q : List String}

lemma Item.Gains.at? (h : Gains items items') {names : List String}
    (hi : Item.at? names (.folder items) = some i) :
    ∃ i', Item.at? names (.folder items') = some i' ∧ i.Grows i' := by
  cases names with
  | nil => exact ⟨_, rfl, .inr ⟨_, _, (Option.some.inj hi).symm, rfl, h⟩⟩
  | cons n ns =>
    simp only [Item.at?] at hi ⊢
    induction h generalizing n ns with
    | @here name items item hnew =>
      rw [find?_cons, if_neg]
      · exact ⟨i, hi, .inl rfl⟩
      · rintro rfl
        rw [hnew] at hi
        cases hi
    | @inside inner inner' name items h ih =>
      rw [find?_cons] at hi ⊢
      split at hi
      · rw [if_pos ‹_›]
        cases ns with
        | nil => exact ⟨_, rfl, .inr ⟨_, _, (Option.some.inj hi).symm, rfl, h⟩⟩
        | cons m ms => exact ih m ms hi
      · rw [if_neg ‹_›]
        exact ⟨i, hi, .inl rfl⟩
    | @later items items' e h ih =>
      rw [find?_cons] at hi ⊢
      split at hi
      · rw [if_pos ‹_›]
        exact ⟨i, hi, .inl rfl⟩
      · rw [if_neg ‹_›]
        exact ih n ns hi

lemma Item.Gains.paths_sublist (h : Gains items items') (path : List String) :
    (descendantsOf path items).map (·.1) <+ (descendantsOf path items').map (·.1) := by
  induction h generalizing path with
  | here item hnew =>
    rw [descendantsOf, map_cons, map_append]
    exact .cons _ (sublist_append_right ..)
  | inside name items h ih =>
    simp only [descendantsOf, descendants, map_cons, map_append]
    exact .cons_cons _ ((ih _).append_right _)
  | later e h ih =>
    simp only [descendantsOf, map_cons, map_append]
    exact .cons_cons _ ((ih _).append_left _)

lemma Tree.lookUp_of_gains (h : Item.Gains t.items items) (hi : t.lookUp p = .ok ⟨q, some i⟩) :
    ∃ i', Tree.lookUp { t with items } p = .ok ⟨q, some i'⟩ ∧ i.Grows i' := by
  obtain ⟨hfits, hleads, heq⟩ := lookUp_eq_ok_iff.1 hi
  obtain ⟨rfl, hat⟩ := Spot.mk.inj heq
  obtain ⟨i', hi', hgrows⟩ := h.at? hat.symm
  refine ⟨i', lookUp_eq_ok_iff.2 ⟨hfits, hleads.mono fun q hq => ?_, by rw [← hi']; rfl⟩, hgrows⟩
  obtain ⟨inner, hinner⟩ := look_eq_folder_iff.1 hq
  obtain ⟨_, hinner', rfl | ⟨_, _, -, rfl, -⟩⟩ := h.at? hinner <;>
    exact look_eq_folder_iff.2 ⟨_, hinner'⟩

end

end Folder

/-! ## Values that can be compared -/

namespace Value

/-- What values that are no collections can be compared with: others of their scale. Moments that are
    fixed by an offset have a scale of their own. -/
inductive Scale
  | null | number | text | bytes | date
  | moment (fixed : Bool)

def scale? : Value → Option Scale
  | .null => some .null
  | .bool _ | .int _ | .float _ => some .number
  | .text _ => some .text
  | .bytes _ => some .bytes
  | .date _ => some .date
  | .moment m => some (.moment m.instant?.isSome)
  | _ => none

variable {a b : Value}

lemma scale?_of_less (h : Succeeds (a.less b)) : a.scale? = b.scale? := by
  obtain ⟨r, h⟩ := h
  cases a <;> cases b <;> simp [less, number?] at h <;> simp only [scale?]
  unfold lessMoment at h
  split at h <;> simp_all

lemma scale?_of_same (h : a.same b) : a.scale? = b.scale? := by
  cases a <;> cases b <;> simp [same, number?] at h <;> simp only [scale?]
  unfold Moment.same at h
  split at h <;> simp_all

lemma succeeds_lessMoment {s t : Moment} (h : s.instant?.isSome = t.instant?.isSome) :
    Succeeds (lessMoment s t) := by
  rw [lessMoment]
  rcases hs : s.instant? with _ | x <;> rcases ht : t.instant? with _ | y <;> simp [hs, ht] at h
  all_goals exact ⟨_, rfl⟩

lemma succeeds_less (h : a.scale? = b.scale?) (ha : a.scale?.isSome) (hnull : a ≠ .null) :
    Succeeds (a.less b) := by
  cases a <;> cases b <;> simp [scale?] at h <;> simp [scale?] at ha hnull <;> simp only [less, number?]
  case moment.moment => exact succeeds_lessMoment h
  all_goals exact ⟨_, rfl⟩

lemma same_or_compares (h : a.scale? = b.scale?) (ha : a.scale?.isSome) :
    a.same b ∨ Compares less a b := by
  by_cases hnull : a = .null
  · subst hnull
    cases b <;> simp [scale?] at h
    exact .inl (by simp [same])
  · have hb : b ≠ .null := by
      rintro rfl
      cases a <;> simp [scale?] at h hnull
    exact .inr ⟨succeeds_less h ha hnull, succeeds_less h.symm (h ▸ ha) hb⟩

end Value

namespace Rule.Library

open Folder

variable {l : Library} {items : Items} {rank : List String → Nat} {f : Filter}
  {kind : Choice}

/-! ## Files that are added -/

/-- The library with other files, which may be met in another order. -/
def grown (l : Library) (items : Items) (rank : List String → Nat) : Library :=
  ⟨{ l.tree with items }, l.folder, rank⟩

lemma files_perm (l : Library) : l.files.Perm (l.listed ".yml" ++ l.listed ".yaml") :=
  (mergeSort_perm _ _).append (mergeSort_perm _ _)

section

variable (h : Item.Gains l.tree.items items)

include h

lemma readText_of_gains {p : Path} {s : String}
    (hs : l.tree.readText p = .ok s) : (l.grown items rank).tree.readText p = .ok s := by
  obtain ⟨data, hdata, hs⟩ := bind_eq_ok.1 hs
  refine bind_eq_ok.2 ⟨data, ?_, hs⟩
  unfold Tree.readData at hdata
  split at hdata <;> cases hdata
  rename_i hfound
  obtain ⟨_, hfound', rfl | ⟨_, _, hfolder, -⟩⟩ := Tree.lookUp_of_gains h hfound
  · rw [grown, Tree.readData, hfound']
  · cases hfolder

lemma rule?_of_gains {names : List String} {e : Entry}
    (he : l.rule? names = some e) : (l.grown items rank).rule? names = some e := by
  unfold rule? at he ⊢
  split at he
  · rename_i hread
    obtain ⟨text, htext, hread⟩ := bind_eq_ok.1 hread
    have hread' : (l.grown items rank).documents names = .ok _ :=
      bind_eq_ok.2 ⟨text, readText_of_gains h htext, hread⟩
    rw [hread']
    exact he
  · cases he

lemma listed_sublist (ending : String) :
    l.listed ending <+ (l.grown items rank).listed ending := by
  refine .filter _ ?_
  rw [Tree.below, Tree.below]
  split
  · rename_i i hfound
    obtain ⟨_, hfound', rfl | ⟨_, _, rfl, rfl, hgains⟩⟩ := Tree.lookUp_of_gains h hfound
    · rw [grown, hfound']
    · rw [grown, hfound']
      exact hgains.paths_sublist []
  · exact nil_sublist _

lemma isAvailable_of_gains (ha : l.isAvailable) : (l.grown items rank).isAvailable := by
  unfold isAvailable Tree.isFolder Tree.item? at ha ⊢
  rcases hfound : l.tree.lookUp l.folder with e | ⟨q, _ | i⟩ <;> rw [hfound] at ha
  · cases e <;> cases ha
  · cases ha
  · obtain ⟨i', hfound', rfl | ⟨_, _, -, rfl, -⟩⟩ := Tree.lookUp_of_gains h hfound <;>
      rw [grown, hfound']
    · exact ha
    · rfl

lemma found_subperm : l.found f <+~ (l.grown items rank).found f := by
  refine .filter _ ?_
  unfold rules
  split
  · rw [if_pos (isAvailable_of_gains h ‹_›)]
    generalize hgrown : l.grown items rank = l' at *
    have hrules : l.files.filterMap l.rule? =
        (l.files.filter fun names => (l.rule? names).isSome).filterMap l'.rule? := by
      rw [filterMap_filter]
      refine filterMap_congr fun names _ => ?_
      rcases hrule : l.rule? names with _ | e
      · rfl
      · exact (hgrown ▸ rule?_of_gains h hrule : l'.rule? names = some e).symm
    have hlisted (ending : String) : l.listed ending <+ l'.listed ending := hgrown ▸ listed_sublist h _
    have hfiles := ((hlisted ".yml").append (hlisted ".yaml")).filterMap l'.rule?
    rw [hrules]
    exact (filter_sublist.filterMap _).subperm.trans ((l.files_perm.filterMap _).subperm.trans
      (hfiles.subperm.trans (l'.files_perm.symm.filterMap _).subperm))
  · exact nil_subperm

end

/-! ## What can be chosen -/

lemma succeeds_offered (h : ∀ v w, (kind, v) ∈ l.offers → (kind, w) ∈ l.offers →
    v.same w ∨ Compares Value.less v w) : Succeeds (l.offered kind) := by
  refine succeeds_sortBy ((Value.pairwise_distinct _).imp_of_mem fun {a b} ha hb hsame => ?_)
  have hcompares := h b a (mem_offersOf.1 (Value.mem_of_mem_distinct hb))
    (mem_offersOf.1 (Value.mem_of_mem_distinct ha))
  exact (hcompares.resolve_left (by simp [hsame])).symm

lemma scale?_of_offered (h : Succeeds (l.offered kind)) {v w : Value} (hv : (kind, v) ∈ l.offers)
    (hw : (kind, w) ∈ l.offers) : v.scale? = w.scale? := by
  obtain ⟨sorted, hsorted⟩ := h
  have hkept {v : Value} (hv : (kind, v) ∈ l.offers) :
      ∃ u ∈ Value.distinct (l.offersOf kind), u.scale? = v.scale? := by
    obtain hv | ⟨u, hu, hsame⟩ := Value.mem_or_same_distinct (mem_offersOf.2 hv)
    · exact ⟨v, hv, rfl⟩
    · exact ⟨u, hu, (Value.scale?_of_same hsame).symm⟩
  obtain ⟨v', hv', hscale⟩ := hkept hv
  obtain ⟨w', hw', hscale'⟩ := hkept hw
  have hall := forall_of_sortBy (P := fun u => u.scale? = v'.scale?)
    (fun a b hab => by rw [Value.scale?_of_less hab]) hsorted hv' rfl
  rw [← hscale, ← hscale', hall w' hw']

lemma succeeds_choices_iff : Succeeds l.choices ↔ ∀ kind, Succeeds (l.offered kind) := by
  constructor
  · rintro ⟨record, h⟩
    obtain ⟨products, hproducts, h⟩ := bind_eq_ok.1 h
    obtain ⟨services, hservices, h⟩ := bind_eq_ok.1 h
    obtain ⟨categories, hcategories, h⟩ := bind_eq_ok.1 h
    obtain ⟨tags, htags, -⟩ := bind_eq_ok.1 h
    rintro (_ | _ | _ | _)
    exacts [⟨_, hproducts⟩, ⟨_, hservices⟩, ⟨_, hcategories⟩, ⟨_, htags⟩]
  · intro h
    obtain ⟨products, hproducts⟩ := h .product
    obtain ⟨services, hservices⟩ := h .service
    obtain ⟨categories, hcategories⟩ := h .category
    obtain ⟨tags, htags⟩ := h .tag
    rw [choices, hproducts, hservices, hcategories, htags]
    exact ⟨_, rfl⟩

/-- A list needs titles that can be compared, all texts or all bytes, and the choices need values of
    each kind that can be compared. What is added takes no rule out of a list. -/
theorem browsing_survives (l : Library) :
    (∀ f limit offset, Succeeds (l.list f limit offset) ↔ Comparable (l.found f)) ∧
    ((∀ kind v w, (kind, v) ∈ l.offers → (kind, w) ∈ l.offers → v.same w ∨ Compares Value.less v w) →
      Succeeds l.choices) ∧
    ((∀ c ∈ l.offers, c.2.scale?.isSome) → (Succeeds l.choices ↔
      ∀ kind v w, (kind, v) ∈ l.offers → (kind, w) ∈ l.offers → v.scale? = w.scale?)) ∧
    ∀ items rank, Item.Gains l.tree.items items → ∀ f, l.found f <+~ (l.grown items rank).found f ∧
      ∀ all', (l.grown items rank).entries f = .ok all' → ∃ all, l.entries f = .ok all ∧ all <+~ all' := by
  refine ⟨fun f limit offset => ⟨?_, fun h => ?_⟩, fun h => ?_, fun hscalar => ?_,
    fun items rank h f => ⟨found_subperm h, fun all' hall' => ?_⟩⟩
  · rintro ⟨⟨page, total⟩, hlist⟩
    obtain ⟨all, hall, -⟩ := list_eq_ok_iff.1 hlist
    exact comparable_of_entries hall
  · exact ⟨_, list_eq_ok_iff.2 ⟨_, entries_of_comparable h, rfl, rfl⟩⟩
  · exact succeeds_choices_iff.2 fun kind => succeeds_offered (h kind)
  · refine succeeds_choices_iff.trans ⟨fun h kind v w hv hw => scale?_of_offered (h kind) hv hw,
      fun h kind => succeeds_offered fun v w hv hw => ?_⟩
    exact Value.same_or_compares (h kind v w hv hw) (hscalar _ hv)
  · have hfound : l.found f <+~ (l.grown items rank).found f := found_subperm h
    have hcomparable := comparable_of_entries hall'
    obtain rfl := Except.ok.inj (hall'.symm.trans (entries_of_comparable hcomparable))
    refine ⟨_, entries_of_comparable (hcomparable.mono hfound.subset), ?_⟩
    exact (perm_insertionSort _ _).subperm.trans
      (hfound.trans (perm_insertionSort _ _).symm.subperm)

/-- One more file with a null for a title ends all listing, though the one rule is still found. -/
theorem browsing_survives_stocked : ∃ items, Item.Gains stocked.tree.items items ∧
    (stocked.found {}).length = 1 ∧ stocked.found {} <+~ (stocked.grown items fun _ => 0).found {} ∧
    ¬Succeeds ((stocked.grown items fun _ => 0).list {} 1 0) := by
  have hgains : Item.Gains stocked.tree.items [("sigma-rules", .folder
      [("b.yaml", .file "title: ~".toUTF8), ("a.yml", .file _)])] := .inside _ _ (.here _ rfl)
  refine ⟨_, hgains, by decide +kernel, ((browsing_survives stocked).2.2.2 _ _ hgains {}).1, ?_⟩
  rintro ⟨page, hpage⟩
  exact Bool.false_ne_true (.trans (by decide +kernel) (congrArg (·.toOption.isSome) hpage))

end Rule.Library

end Huntbook
