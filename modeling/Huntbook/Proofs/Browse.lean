import Huntbook.Proofs.Pages
import Huntbook.Proofs.Sorting

/-!
# Browsing a library of rules

The rules of a library are listed by their titles, those that pass a filter. A rule that cannot be
read is left out, but what is left is sorted, and a sort needs titles that can be compared.
-/

namespace Huntbook

open List

/-! ## The order of texts -/

namespace Value

/-- What texts are ordered by: their characters, or their bytes. -/
def codes : Value → List Nat
  | .text s => s.toList.map Char.toNat
  | .bytes data => data.map UInt8.toNat
  | _ => []

lemma map_lt_map_iff {α : Type} [LT α] {f : α → Nat} (hlt : ∀ a b, f a < f b ↔ a < b)
    (heq : ∀ a b, f a = f b ↔ a = b) {xs ys : List α} : xs.map f < ys.map f ↔ xs < ys := by
  induction xs generalizing ys with
  | nil => cases ys <;> simp
  | cons x xs ih =>
    cases ys with
    | nil => simp
    | cons y ys => simp [cons_lt_cons_iff, hlt, ih, heq]

lemma less_text (s t : String) :
    (text s).less (.text t) = .ok (decide ((text s).codes < (text t).codes)) := by
  have hlt : (text s).codes < (text t).codes ↔ s < t :=
    (map_lt_map_iff (f := Char.toNat) (fun _ _ => .rfl) fun _ _ => Char.toNat_inj).trans
      String.lt_iff_toList_lt.symm
  simp [less, number?, lessText, hlt]

lemma less_bytes (a b : List UInt8) :
    (bytes a).less (.bytes b) = .ok (decide ((bytes a).codes < (bytes b).codes)) := by
  have hlt : (bytes a).codes < (bytes b).codes ↔ a < b :=
    map_lt_map_iff (f := UInt8.toNat) (fun _ _ => .rfl) fun _ _ => UInt8.toNat_inj
  simp [less, number?, hlt]

lemma exists_texts {vs : List Value} (h : ∀ v ∈ vs, ∃ s, v = .text s) :
    ∃ names : Texts, vs = names.map .text := by
  refine ⟨vs.filterMap text?, ?_⟩
  rw [map_filterMap]
  refine ((filterMap_congr fun v hv => ?_).trans filterMap_some).symm
  obtain ⟨s, rfl⟩ := h v hv
  rfl

lemma text_iff_of_less {a b : Value} (h : Succeeds (a.less b)) :
    (∃ s, a = .text s) ↔ ∃ s, b = .text s := by
  obtain ⟨r, h⟩ := h
  cases a <;> cases b <;> simp [less, number?] at h <;> simp

end Value

namespace Rule

/-- The characters of the title without regard to case, or its bytes. -/
def Entry.order (e : Entry) : List Nat := (e.title.lowered.toOption.getD .null).codes

/-- A text stands in the title, whatever the case of its letters. -/
def Entry.Titled (e : Entry) (s : String) : Prop :=
  Text.contains (Text.lower e.title.plain) (Text.lower s)

/-- A text stands in the title, in the description, if there is one, or in the name of the file. -/
def Entry.Mentions (e : Entry) (s : String) : Prop :=
  e.Titled s ∨
    e.description ≠ .null ∧ Text.contains (Text.lower e.description.plain) (Text.lower s) ∨
    Text.contains (Text.lower e.filename) (Text.lower s)

/-- The first filter asks for all that the second one asks for. -/
structure Filter.Narrows (f' f : Filter) : Prop where
  search : f.search.truthy → f'.search = f.search
  product : f.product.truthy → f'.product = f.product
  service : f.service.truthy → f'.service = f.service
  category : f.category.truthy → f'.category = f.category
  tags : f.tags.truthy → f'.tags = f.tags

namespace Library

variable {l l' : Library} {f f' : Filter} {e : Entry} {limit offset : Int}

/-! ## What passes a filter -/

lemma passes_eq_ok_iff : passes f e = .ok true ↔
    (f.search.truthy → matchesSearch f.search e = .ok true) ∧
    (f.product.truthy → e.product.same f.product) ∧ (f.service.truthy → e.service.same f.service) ∧
    (f.category.truthy → e.category.same f.category) ∧
    (f.tags.truthy → matchesTags f.tags e = .ok true) := by
  have hsearch : (f.search.truthy → matchesSearch f.search e = .ok true) ↔
      matchesSearch f.search e = .ok true := by
    cases ht : f.search.truthy <;> simp [matchesSearch, ht, pure, Except.pure]
  have htags : (f.tags.truthy → matchesTags f.tags e = .ok true) ↔
      matchesTags f.tags e = .ok true := by
    cases ht : f.tags.truthy <;> simp [matchesTags, ht, pure, Except.pure]
  rw [passes, hsearch, htags]
  rcases matchesSearch f.search e with fault | b
  · simp [bind, Except.bind]
  · rw [ok_bind]
    cases b <;> simp [pure, Except.pure]
    grind

lemma mem_found_iff : e ∈ l.found f ↔ e ∈ l.rules ∧ passes f e = .ok true := by
  rw [found, mem_filter]
  rcases passes f e with fault | b <;> simp [Except.toOption]

/-! ## The order of a list -/

/-- The titles of rules can be compared with one another. -/
def Comparable (found : List Entry) : Prop :=
  (∀ e ∈ found, ∃ s, e.title = .text s) ∨ ∀ e ∈ found, ∃ data, e.title = .bytes data

lemma Comparable.mono {found found' : List Entry} (h : Comparable found') (hsub : found ⊆ found') :
    Comparable found :=
  h.imp (fun h e he => h e (hsub he)) fun h e he => h e (hsub he)

lemma lowered_cases {v w : Value} (h : v.lowered = .ok w) :
    (∃ s t, v = .text s ∧ w = .text t) ∨ ∃ d d', v = .bytes d ∧ w = .bytes d' := by
  cases v <;> simp [Value.lowered, Value.lower, Value.asText, Except.map] at h <;> simp [← h]

lemma entries_of_comparable (h : Comparable (l.found f)) :
    l.entries f = .ok (inOrderOf Entry.order (l.found f)) := by
  let keyed := (l.found f).map fun e => (e.title.lowered.toOption.getD .null, e)
  have hkeyed : (l.found f).mapM (fun e => return (← e.title.lowered, e)) = .ok keyed := by
    refine Conversion.mapM_eq_ok.2 (forall₂_map_right_iff.2 (forall₂_same.2 fun e he => ?_))
    rcases h with h | h
    all_goals
      obtain ⟨x, hx⟩ := h e he
      simp [hx, Value.lowered, Value.lower, Value.asText, Except.map, Except.toOption]
  have hless : ComparesBy (fun a b => a.1.less b.1) (·.1.codes) keyed := by
    intro a ha b hb
    obtain ⟨e, he, rfl⟩ := mem_map.1 ha
    obtain ⟨e', he', rfl⟩ := mem_map.1 hb
    rcases h with h | h
    all_goals
      obtain ⟨x, hx⟩ := h e he
      obtain ⟨y, hy⟩ := h e' he'
      simp only [hx, hy]
    · exact Value.less_text _ _
    · exact Value.less_bytes _ _
  have hmap := map_insertionSort (r := fun a b => a.1.codes ≤ b.1.codes)
    (s := fun a b => a.order ≤ b.order) Prod.snd keyed (by simp [keyed, Entry.order])
  have hback : keyed.map Prod.snd = l.found f := by simp [keyed, Function.comp_def]
  rw [hback] at hmap
  rw [entries, hkeyed, ok_bind, sortBy_eq_ok hless]
  exact congrArg Except.ok hmap

lemma comparable_of_entries {all : List Entry} (h : l.entries f = .ok all) :
    Comparable (l.found f) := by
  obtain ⟨keyed, hkeyed, h⟩ := bind_eq_ok.1 h
  obtain ⟨sorted, hsorted, -⟩ := bind_eq_ok.1 h
  have hkey : ∀ e ∈ l.found f, ∃ k ∈ keyed, e.title.lowered = .ok k.1 := by
    intro e he
    obtain ⟨k, hmem, hk⟩ := Conversion.exists_mem_of_mapM hkeyed he
    obtain ⟨w, hw, hk⟩ := bind_eq_ok.1 hk
    cases hk
    exact ⟨_, hmem, hw⟩
  by_cases htext : ∃ k ∈ keyed, ∃ s, k.1 = .text s
  · obtain ⟨k, hk, ht⟩ := htext
    have hall := forall_of_sortBy (P := fun k => ∃ s, k.1 = .text s)
      (fun a b => Value.text_iff_of_less) hsorted hk ht
    refine .inl fun e he => ?_
    obtain ⟨k, hk, hlow⟩ := hkey e he
    obtain ⟨s, -, hs, -⟩ | ⟨d, d', -, hd⟩ := lowered_cases hlow
    · exact ⟨s, hs⟩
    · obtain ⟨s, hs⟩ := hall k hk
      cases hd.symm.trans hs
  · refine .inr fun e he => ?_
    obtain ⟨k, hk, hlow⟩ := hkey e he
    obtain ⟨s, t, -, ht⟩ | ⟨d, -, hd, -⟩ := lowered_cases hlow
    · exact absurd ⟨k, hk, t, ht⟩ htext
    · exact ⟨d, hd⟩

/-! ## Pages -/

lemma list_eq_ok_iff {page : List Entry} {total : Nat} :
    l.list f limit offset = .ok (page, total) ↔
      ∃ all, l.entries f = .ok all ∧ page = slice all offset (offset + limit) ∧ total = all.length := by
  simp only [list, bind_eq_ok]
  refine exists_congr fun all => and_congr_right fun _ => ?_
  simp [pure, Except.pure, eq_comm]

lemma flatMap_slice (all : List Entry) (k n : Nat) :
    (range n).flatMap (fun i => slice all (i * k : Nat) ((i * k : Nat) + k)) = all.take (n * k) := by
  have hslice (m : Nat) : slice all m (m + k) = (all.drop m).take k := by
    simp [slice, Int.not_lt.2 (Int.natCast_nonneg m), show ¬(m : Int) + k < 0 by omega,
      show ((m : Int) + k).toNat = m + k by omega, drop_take]
  induction n with
  | zero => simp
  | succ n ih => rw [range_succ, flatMap_append, ih, flatMap_singleton, hslice, Nat.succ_mul, take_add]

lemma found_sublist (h : f'.Narrows f) : l.found f' <+ l.found f := by
  refine monotone_filter_right _ fun e he => ?_
  have hpasses {f : Filter} : (passes f e).toOption.getD false = true ↔ passes f e = .ok true := by
    rcases passes f e with fault | b <;> simp [Except.toOption]
  rw [hpasses, passes_eq_ok_iff] at he ⊢
  obtain ⟨hsearch, hproduct, hservice, hcategory, htags⟩ := h
  grind

/-! ## The order of files -/

/-- A walk through the library meets the first file before the second one: those that end in `.yml`
    come first, and of files with one ending those of lower rank, or those that are listed first. -/
def MeetsFirst (l : Library) (n m : Texts) : Prop :=
  n ∈ l.listed ".yml" ∧ m ∈ l.listed ".yaml" ∨ ∃ ending ∈ [".yml", ".yaml"],
    n ∈ l.listed ending ∧ m ∈ l.listed ending ∧ l.rank n < l.rank m ∨
      [n, m] <+ l.listed ending ∧ l.rank n = l.rank m

lemma pair_sublist_of_rank {α : Type} {rank : α → Nat} {xs : List α} {n m : α}
    (h : xs.Pairwise fun a b => rank a ≤ rank b) (hn : n ∈ xs) (hm : m ∈ xs) (hlt : rank n < rank m) :
    [n, m] <+ xs := by
  obtain ⟨before, after, rfl⟩ := append_of_mem hn
  rcases mem_append.1 hm with hm | hm
  · exact absurd ((pairwise_append.1 h).2.2 m hm n mem_cons_self) (Nat.not_le.2 hlt)
  · obtain rfl | hm := mem_cons.1 hm
    · exact absurd hlt (lt_irrefl _)
    · exact (Sublist.cons_cons n (singleton_sublist.2 hm)).trans (sublist_append_right ..)

lemma pair_sublist_files {n m : Texts} (h : l.MeetsFirst n m) : [n, m] <+ l.files := by
  have hmem {ending : String} {n : Texts} (hn : n ∈ l.listed ending) : n ∈ l.met ending :=
    (mergeSort_perm _ _).mem_iff.2 hn
  obtain ⟨hn, hm⟩ | ⟨ending, hending, h⟩ := h
  · exact (singleton_sublist.2 (hmem hn)).append (singleton_sublist.2 (hmem hm))
  · have hmet : [n, m] <+ l.met ending := by
      obtain ⟨hn, hm, hlt⟩ | ⟨hsub, heq⟩ := h
      · refine pair_sublist_of_rank ?_ (hmem hn) (hmem hm) hlt
        exact pairwise_mergeSort' (fun a b => l.rank a ≤ l.rank b) _
      · exact pair_sublist_mergeSort (by simpa using fun a b c => le_trans)
          (by simpa using fun a b => le_total _ _) (by simpa using heq.le) hsub
    simp only [mem_cons, not_mem_nil, or_false] at hending
    rcases hending with rfl | rfl
    · exact hmet.trans (sublist_append_left ..)
    · exact hmet.trans (sublist_append_right ..)

lemma pair_sublist_found {n m : Texts} {a b : Entry} (h : l.MeetsFirst n m)
    (hn : l.rule? n = some a) (hm : l.rule? m = some b) (ha : a ∈ l.found f) (hb : b ∈ l.found f) :
    [a, b] <+ l.found f := by
  rw [found, mem_filter, rules] at ha hb
  rw [found, rules]
  split at ha
  · rename_i havail
    rw [if_pos havail]
    have hpair := ((pair_sublist_files h).filterMap l.rule?).filter
      fun e => (passes f e).toOption.getD false
    simpa [hn, hm, ha.2, hb.2] using hpair
  · cases ha.1

/-- A list of rules is cut into pages; it is in the order of the titles, rules with equal ones in the
    order in which their files are met, and with more conditions some rules are left out of it. -/
theorem list_pages {page : List Entry} {total : Nat} (h : l.list f limit offset = .ok (page, total)) :
    ∃ all, all.length = total ∧ (∀ limit offset, ∃ page, l.list f limit offset = .ok (page, total)) ∧
      (∀ k n : Nat, total ≤ n * k → ∃ pages,
        (range n).mapM (fun i => l.list f k (i * k : Nat)) = .ok pages ∧ pages.flatMap (·.1) = all) ∧
      (all.Pairwise fun a b => a.order ≤ b.order) ∧ all.Perm (l.found f) ∧
      (∀ n m a b, l.MeetsFirst n m → l.rule? n = some a → l.rule? m = some b → a ∈ l.found f →
        b ∈ l.found f → a.order = b.order → [a, b] <+ all) ∧
      ∀ f', f'.Narrows f → ∀ all', l.entries f' = .ok all' → all' <+ all := by
  obtain ⟨all, hall, -, rfl⟩ := list_eq_ok_iff.1 h
  have heq := entries_of_comparable (comparable_of_entries hall)
  obtain rfl := Except.ok.inj (hall.symm.trans heq)
  refine ⟨_, rfl, fun limit offset => ⟨_, list_eq_ok_iff.2 ⟨_, heq, rfl, rfl⟩⟩, fun k n hn => ?_,
    pairwise_inOrderOf _ _, perm_insertionSort _ _, fun n m a b hmet hn hm ha hb heq => ?_,
    fun f' hf all' hall' => ?_⟩
  · refine ⟨(range n).map _, Conversion.mapM_eq_ok.2 (forall₂_map_right_iff.2 (forall₂_same.2
      fun i _ => list_eq_ok_iff.2 ⟨_, heq, rfl, rfl⟩)), ?_⟩
    rw [flatMap_map, flatMap_slice, take_of_length_le hn]
  · exact pair_sublist_insertionSort heq.le (pair_sublist_found hmet hn hm ha hb)
  · have heq' := entries_of_comparable (comparable_of_entries hall')
    obtain rfl := Except.ok.inj (hall'.symm.trans heq')
    exact inOrderOf_sublist (found_sublist hf)

/-- A library of one rule. -/
def stocked : Library where
  tree :=
    { root := "/"
      items := [("sigma-rules", .folder
        [("a.yml", .file "title: a\nlogsource:\n  product: b\n".toUTF8)])] }
  folder := ⟨.base, ["sigma-rules"]⟩

/-- Two rules whose titles differ only in case; the file of the second one is met first. -/
def twins : Library where
  tree :=
    { root := "/"
      items := [("sigma-rules", .folder
        [("a.yaml", .file "title: a".toUTF8), ("b.yml", .file "title: A".toUTF8)])] }
  folder := ⟨.base, ["sigma-rules"]⟩

theorem list_pages_twins : ∃ page all a b, twins.list {} 1 0 = .ok (page, all.length) ∧
    twins.rule? ["b.yml"] = some a ∧ twins.rule? ["a.yaml"] = some b ∧ [a, b] <+ all := by
  obtain ⟨⟨page, total⟩, hpage⟩ : Succeeds (twins.list {} 1 0) := .of_isSome (by decide +kernel)
  obtain ⟨all, rfl, -, -, -, -, hmet, -⟩ := list_pages hpage
  obtain ⟨a, ha⟩ := Option.isSome_iff_exists.1 (by decide +kernel : (twins.rule? ["b.yml"]).isSome)
  obtain ⟨b, hb⟩ := Option.isSome_iff_exists.1 (by decide +kernel : (twins.rule? ["a.yaml"]).isSome)
  have hfound {names : Texts} {e : Entry} (hnames : names ∈ twins.files)
      (he : twins.rule? names = some e) : e ∈ twins.found {} := by
    rw [mem_found_iff, passes_eq_ok_iff, rules, if_pos (by decide +kernel)]
    simpa [Value.truthy] using ⟨names, hnames, he⟩
  have horder : (twins.rule? ["b.yml"]).map Entry.order = (twins.rule? ["a.yaml"]).map Entry.order := by
    decide +kernel
  rw [ha, hb] at horder
  exact ⟨page, all, a, b, hpage, ha, hb, hmet _ _ a b (.inl (by decide +kernel)) ha hb
    (hfound (by decide +kernel) ha) (hfound (by decide +kernel) hb) (Option.some.inj horder)⟩

/-! ## Searching -/

lemma matchesSearch_eq_ok_iff {s : String} (hs : s ≠ "") :
    matchesSearch (.text s) e = .ok true ↔ (∃ title, e.title = .text title) ∧
      (e.Titled s ∨ Succeeds e.description.written ∧
        (e.Mentions s ∨ e.description = .null ∧ Text.contains "none" (Text.lower s))) := by
  have hnone : Text.lower (Value.plain .null) = "none" := by decide +kernel
  have htruthy : (Value.text s).truthy = true := by simpa [Value.truthy] using hs
  rw [matchesSearch, htruthy]
  cases htitle : e.title with
  | text title =>
    -- The description is looked at only if the title does not have the text.
    have htitled : e.Titled s ↔ Text.contains (Text.lower title) (Text.lower s) = true := by
      rw [Entry.Titled, htitle]
      rfl
    cases hcontains : Text.contains (Text.lower title) (Text.lower s) with
    | true =>
      simp [Value.lower, Value.asText, Except.map, Value.holdsFold, Value.lowered, bind, Except.bind,
        pure, Except.pure, htitled, hcontains]
    | false =>
      simp only [Value.lower, Value.asText, Except.map, Value.holdsFold, Value.lowered, bind,
        Except.bind, pure, Except.pure, hcontains, Entry.Mentions, htitled]
      rcases hwritten : e.description.written with fault | text
      · simp [Succeeds]
      · obtain rfl : text = e.description.plain := by
          rw [Value.written] at hwritten
          split at hwritten
          · cases hwritten
          · exact (Except.ok.inj hwritten).symm
        by_cases hnull : e.description = .null <;> simp [Succeeds, hnull, hnone, or_comm]
  | _ => simp [Value.lower, Value.asText, Except.map, Value.holdsFold, Value.lowered, bind, Except.bind,
      throw, throwThe, MonadExceptOf.throw]

/-- A search gives the rules with a text as their title that mention what is searched, if it is the
    title or the description can be written, and also those without a description if it stands in the
    word that is then taken for one. -/
theorem search_exact_iff (l : Library) {s : String} (hs : s ≠ "") : ∃ all,
    (∀ limit offset, l.list { search := .text s } limit offset =
      .ok (slice all offset (offset + limit), all.length)) ∧
    (∀ e ∈ l.rules, (∃ title, e.title = .text title) → e.Mentions s →
      (e ∈ all ↔ e.Titled s ∨ Succeeds e.description.written)) ∧
    ((∀ e ∈ all, e.Mentions s) ↔ ∀ e ∈ l.rules, (∃ title, e.title = .text title) →
      e.description = .null → Text.contains "none" (Text.lower s) → e.Mentions s) := by
  have hmem (e : Entry) : e ∈ l.found { search := .text s } ↔ e ∈ l.rules ∧
      (∃ title, e.title = .text title) ∧ (e.Titled s ∨ Succeeds e.description.written ∧
        (e.Mentions s ∨ e.description = .null ∧ Text.contains "none" (Text.lower s))) := by
    rw [mem_found_iff, passes_eq_ok_iff, ← matchesSearch_eq_ok_iff hs]
    simp [Value.truthy, hs]
  have hentries := entries_of_comparable (.inl fun e he => ((hmem e).1 he).2.1)
  refine ⟨_, fun limit offset => list_eq_ok_iff.2 ⟨_, hentries, rfl, rfl⟩, ?_⟩
  have hnull : Succeeds (Value.written .null) := ⟨_, rfl⟩
  simp only [inOrderOf, mem_insertionSort, hmem]
  grind [Entry.Mentions]

/-- A search in the library of one rule. -/
theorem search_exact_iff_stocked : ∃ all, stocked.list { search := .text "A" } 1 0 =
      .ok (slice all 0 (0 + 1), all.length) ∧ ∀ e ∈ all, e.Mentions "A" := by
  obtain ⟨all, hlist, -, hall⟩ := search_exact_iff stocked (s := "A") (by decide)
  refine ⟨all, hlist 1 0, hall.2 fun e _ _ _ h => ?_⟩
  exact absurd h (by decide +kernel)

/-! ## What can be chosen -/

/-- What a rule has for a choice that is made by its log source. -/
def Choice.of (e : Entry) : Choice → Value
  | .product => e.product
  | .service => e.service
  | .category => e.category
  | .tag => .null

def Choice.field : Choice → String
  | .product => "product"
  | .service => "service"
  | .category => "category"
  | .tag => "tags"

def Choice.only (v : Value) : Choice → Filter
  | .product => { product := v }
  | .service => { service := v }
  | .category => { category := v }
  | .tag => { tags := .list [v] }

/-- A document with a log source has a title, and texts for what can be chosen. -/
def Marked (entries : Entries) : Prop :=
  ∀ source, Value.find? entries (.text "logsource") = some (.map source) →
    (Value.find? entries (.text "title")).isSome ∧ ∀ kind ≠ Choice.tag,
      ∀ v, Value.find? source (.text kind.field) = some v → v = .null ∨ ∃ s, v = .text s

section Documents

variable {entries : Entries} {kind : Choice} {v : Value} (hkind : kind ≠ .tag)
include hkind

lemma mem_choicesOf_iff (h : Marked entries) : (kind, v) ∈ choicesOf (.map entries) ↔
    ∃ source, Value.find? entries (.text "logsource") = some (.map source) ∧
      Value.find? source (.text kind.field) = some v ∧ v.truthy := by
  simp only [choicesOf, Value.getOr]
  generalize (Value.find? entries (.text "tags")).getD (.list []) = tags
  rcases hsource : Value.find? entries (.text "logsource") with _ | source
  · rcases tags.iterate <;> simp [Value.find?, hkind.symm]
  · cases source with
    | map source =>
      simp only [Option.getD_some]
      generalize hfound : filterMap _ _ = found
      have hmem (c : Choice × Value) : c ∈ found ↔ c.1 ≠ .tag ∧
          Value.find? source (.text c.1.field) = some c.2 ∧ c.2.truthy := by
        rcases c with ⟨kind, v⟩
        rw [← hfound]
        cases kind <;> simp [Choice.field, Option.bind_eq_some_iff]
      have hgood : found.takeWhile (fun c => c.2.hashable) = found := by
        rw [takeWhile_eq_self_iff]
        intro c hc
        obtain ⟨hkind, hv, -⟩ := (hmem c).1 hc
        obtain hnull | ⟨s, hs⟩ := (h source hsource).2 c.1 hkind c.2 hv
        all_goals simp [*, Value.hashable]
      rw [hgood, if_neg (lt_irrefl _)]
      rcases tags.iterate <;> simp [hmem, hkind, hkind.symm]
    | _ => simp

lemma exists_entryOf_iff (names : Texts) :
    (∃ e, entryOf names (.map entries) = .ok (some e) ∧ kind.of e = v ∧ v.truthy) ↔
      (Value.find? entries (.text "title")).isSome ∧
      ∃ source, Value.find? entries (.text "logsource") = some (.map source) ∧
        Value.find? source (.text kind.field) = some v ∧ v.truthy := by
  simp only [entryOf, Value.getOr, Value.get]
  rcases Value.find? entries (.text "title") with _ | title
  · simp [pure, Except.pure]
  have hsome (o : Option Value) : o.getD .null = v ∧ v.truthy ↔ o = some v ∧ v.truthy := by
    cases o with
    | none => simpa using fun hv => hv ▸ rfl
    | some w => simp
  rcases hsource : Value.find? entries (.text "logsource") with _ | source
  · have hnil (name : String) : Value.find? [] (.text name) = none := rfl
    simp only [Option.getD_none, ok_bind, hnil]
    cases kind <;> simp only [Choice.of]
    all_goals
      simp [pure, Except.pure]
      rintro rfl
      rfl
  · cases source with
    | map source =>
      cases kind <;> simp [ok_bind, pure, Except.pure, Choice.of, hsome, Choice.field] at hkind ⊢
    | _ => simp [bind, Except.bind]

end Documents

section Offers

variable {kind : Choice} {v : Value}
variable (hmarked : ∀ names ∈ l.files, ∀ entries rest,
  l.documents names = .ok (.map entries :: rest) → Marked entries) (hkind : kind ≠ .tag)
include hmarked hkind

lemma text_of_mem_offers (h : (kind, v) ∈ l.offers) : ∃ s, v = .text s := by
  unfold offers at h
  split at h
  · obtain ⟨names, hnames, h⟩ := mem_flatMap.1 h
    split at h
    · have hentries := hmarked names (mem_of_mem_take hnames) _ _ ‹_›
      obtain ⟨source, hsource, hv, htruthy⟩ := (mem_choicesOf_iff hkind hentries).1 h
      refine ((hentries source hsource).2 kind hkind v hv).resolve_left ?_
      rintro rfl
      cases htruthy
    · cases h
  · cases h

lemma mem_offers_iff (hfiles : l.files.length ≤ 500) :
    (kind, v) ∈ l.offers ↔ ∃ e ∈ l.rules, kind.of e = v ∧ v.truthy := by
  unfold offers rules
  split
  · have hswap : (∃ e ∈ l.files.filterMap l.rule?, kind.of e = v ∧ v.truthy) ↔
        ∃ names ∈ l.files, ∃ e, l.rule? names = some e ∧ kind.of e = v ∧ v.truthy := by
      simp only [mem_filterMap]
      grind
    rw [take_of_length_le hfiles, mem_flatMap, hswap]
    refine exists_congr fun names => and_congr_right fun hnames => ?_
    unfold rule?
    rcases hread : l.documents names with fault | _ | ⟨rule, rest⟩
    · simp
    · simp
    · cases rule with
      | map entries =>
        have hentries := hmarked names hnames entries rest hread
        have hentry : (kind, v) ∈ choicesOf (.map entries) ↔
            ∃ e, entryOf names (.map entries) = .ok (some e) ∧ kind.of e = v ∧ v.truthy := by
          rw [mem_choicesOf_iff hkind hentries, exists_entryOf_iff hkind, iff_and_self]
          rintro ⟨source, hsource, -⟩
          exact (hentries source hsource).1
        simp only [hentry]
        rcases entryOf names (.map entries) with fault | e <;> simp [Except.toOption]
      | _ => simp [entryOf, pure, Except.pure, Except.toOption]
  · simp

end Offers

lemma mem_offersOf {kind : Choice} {v : Value} : v ∈ l.offersOf kind ↔ (kind, v) ∈ l.offers := by
  simp [offersOf, mem_filterMap]

lemma offered_of_texts {kind : Choice} (h : ∀ v, (kind, v) ∈ l.offers → ∃ s, v = .text s) :
    ∃ values, l.offered kind = .ok values ∧ ∀ v, v ∈ values ↔ (kind, v) ∈ l.offers := by
  obtain ⟨names, hoffers⟩ := Value.exists_texts fun v hv => h v (mem_offersOf.1 hv)
  obtain ⟨found, hfound, -, hnames⟩ := Value.exists_distinct_texts names
  refine ⟨inOrderOf Value.codes (found.map .text), ?_, fun v => ?_⟩
  · rw [offered, hoffers, hfound]
    refine sortBy_eq_ok fun a ha b hb => ?_
    obtain ⟨s, -, rfl⟩ := mem_map.1 ha
    obtain ⟨t, -, rfl⟩ := mem_map.1 hb
    convert Value.less_text s t
  · rw [inOrderOf, mem_insertionSort, ← mem_offersOf, hoffers]
    simp [hnames]

/-- If every document with a log source has a title, and texts for what can be chosen, then just the
    choices that lead to a rule are offered. -/
theorem choices_usable (hfiles : l.files.length ≤ 500)
    (hmarked : ∀ names ∈ l.files, ∀ entries rest, l.documents names = .ok (.map entries :: rest) →
      Marked entries) (hchoices : Succeeds l.choices) {all : List Entry} (hall : l.entries {} = .ok all) :
    ∃ products services categories tags, l.choices = .ok (.record [("products", .list products),
        ("services", .list services), ("categories", .list categories), ("tags", .list tags)]) ∧
      ∀ c ∈ [(Choice.product, products), (.service, services), (.category, categories)],
        (∀ v ∈ c.2, ∀ limit offset, ∃ page total,
          l.list (c.1.only v) limit offset = .ok (page, total) ∧ 0 < total) ∧
        ∀ e ∈ all, (c.1.of e).truthy → c.1.of e ∈ c.2 := by
  obtain ⟨record, hrecord⟩ := hchoices
  obtain ⟨products, hproducts, h⟩ := bind_eq_ok.1 hrecord
  obtain ⟨services, hservices, h⟩ := bind_eq_ok.1 h
  obtain ⟨categories, hcategories, h⟩ := bind_eq_ok.1 h
  obtain ⟨tags, htags, h⟩ := bind_eq_ok.1 h
  cases h
  refine ⟨products, services, categories, _, hrecord, fun c hc => ?_⟩
  obtain ⟨hkind, hvalues⟩ : c.1 ≠ .tag ∧ l.offered c.1 = .ok c.2 := by
    simp only [mem_cons, not_mem_nil, or_false] at hc
    rcases hc with rfl | rfl | rfl <;> simp [*]
  have htext (v : Value) (hv : (c.1, v) ∈ l.offers) := text_of_mem_offers hmarked hkind hv
  obtain ⟨values, hoffered, hmem⟩ := offered_of_texts htext
  obtain rfl := Except.ok.inj (hoffered.symm.trans hvalues)
  have hcomparable := comparable_of_entries hall
  obtain rfl := Except.ok.inj (hall.symm.trans (entries_of_comparable hcomparable))
  refine ⟨fun v hv limit offset => ?_, fun e he htruthy => ?_⟩
  · rw [hmem] at hv
    obtain ⟨s, rfl⟩ := htext v hv
    obtain ⟨e, he, hof, htruthy⟩ := (mem_offers_iff hmarked hkind hfiles).1 hv
    have hsub : l.found (c.1.only (.text s)) <+ l.found {} :=
      found_sublist (by cases c.1 <;> constructor <;> exact nofun)
    have hfound : e ∈ l.found (c.1.only (.text s)) := by
      rw [mem_found_iff, passes_eq_ok_iff]
      generalize c.1 = kind at *
      cases kind <;> simp_all [Choice.only, Choice.of, Value.truthy, Value.same_text]
    have hentries := entries_of_comparable (hcomparable.mono hsub.subset)
    refine ⟨_, _, list_eq_ok_iff.2 ⟨_, hentries, rfl, rfl⟩, ?_⟩
    rw [inOrderOf, length_insertionSort]
    exact length_pos_of_mem hfound
  · rw [inOrderOf, mem_insertionSort, mem_found_iff] at he
    exact (hmem _).2 ((mem_offers_iff hmarked hkind hfiles).2 ⟨e, he.1, rfl, htruthy⟩)

/-- A single rule that has a title and a product. -/
def namesProduct : List Value → Bool
  | [.map [(.text "title", _), (.text "logsource", .map [(.text "product", .text _)])]] => true
  | _ => false

/-- The product of the one rule is offered, and leads to it. -/
theorem choices_usable_stocked : ∃ all, stocked.entries {} = .ok all ∧
    ∃ products services categories tags, stocked.choices = .ok (.record [("products", .list products),
        ("services", .list services), ("categories", .list categories), ("tags", .list tags)]) ∧
      ∀ v ∈ products, ∃ page total, stocked.list { product := v } 1 0 = .ok (page, total) ∧ 0 < total := by
  have hread : (stocked.documents ["a.yml"]).toOption.any namesProduct := by decide +kernel
  have hmarked : ∀ names ∈ stocked.files, ∀ entries rest,
      stocked.documents names = .ok (.map entries :: rest) → Marked entries := by
    intro names hnames entries rest h
    have hfiles : stocked.files = [["a.yml"]] := by decide +kernel
    rw [hfiles, mem_singleton] at hnames
    subst hnames
    rw [h, Except.toOption, Option.any_some] at hread
    unfold namesProduct at hread
    split at hread
    · next hfirst =>
      cases hfirst
      rintro source hsource
      simp [Value.find?, Value.same_text] at hsource
      subst hsource
      refine ⟨by simp [Value.find?, Value.same_text], fun kind hkind v hv => .inr ?_⟩
      cases kind <;> simp [Value.find?, Value.same_text, Choice.field] at hv
      exact ⟨_, hv.symm⟩
    · cases hread
  have hchoices : Succeeds stocked.choices := .of_isSome (by decide +kernel)
  obtain ⟨all, hall⟩ : Succeeds (stocked.entries {}) := .of_isSome (by decide +kernel)
  obtain ⟨products, services, categories, tags, hchoices, h⟩ :=
    choices_usable (by decide +kernel) hmarked hchoices hall
  exact ⟨all, hall, products, services, categories, tags, hchoices,
    fun v hv => (h _ mem_cons_self).1 v hv 1 0⟩

end Library

end Rule

end Huntbook
