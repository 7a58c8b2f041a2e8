import Huntbook.Proofs.Activation

/-!
# Pages of the history

The history is listed newest first, in pages, all of it or only one direction. Whatever has been
done to the store, every row has a stamp and one of the directions, so it can be read, and the
pages of a size put together give the whole list.

* `pages_afterAll`: pages, their order and the counts agree.
-/

namespace Huntbook

open List

lemma Value.exists_distinct_texts (texts : Texts) :
    ∃ found : Texts, distinct (texts.map .text) = found.map .text ∧ found.Nodup ∧
      ∀ t, t ∈ found ↔ t ∈ texts := by
  induction texts using reverseRecOn with
  | nil => exact ⟨[], rfl, .nil, fun t => Iff.rfl⟩
  | append_singleton texts text ih =>
    obtain ⟨found, hfound, hnodup, hmem⟩ := ih
    have hstep : distinct ((texts ++ [text]).map .text) =
        if (found.map Value.text).any (same (.text text)) then found.map .text
        else found.map .text ++ [.text text] := by
      rw [← hfound, distinct, map_append, foldl_append]
      rfl
    have hany : (found.map Value.text).any (same (.text text)) ↔ text ∈ found := by
      simp [any_map, same]
    by_cases h : text ∈ found
    · rw [hstep, if_pos (hany.2 h)]
      refine ⟨found, rfl, hnodup, fun t => ?_⟩
      rw [mem_append, mem_singleton, ← hmem]
      exact ⟨.inl, fun ht => ht.elim id fun heq => heq ▸ h⟩
    · rw [hstep, if_neg (mt hany.1 h)]
      refine ⟨found ++ [text], by simp, ?_, fun t => by simp [hmem]⟩
      refine nodup_append.2 ⟨hnodup, nodup_singleton _, ?_⟩
      rintro a ha b hb rfl
      exact h (mem_singleton.1 hb ▸ ha)

namespace Store

/-! ## Rows of the history -/

structure Noted (s : Store) : Prop where
  last : 0 ≤ s.conversions.last
  key : ∀ r ∈ s.conversions.rows, 1 ≤ r.id ∧ r.id ≤ greatestInt
  created : ∀ r ∈ s.conversions.rows, ∃ t : Moment, t.Ticks ∧ r.get "created_at" = stampCell t
  direction : ∀ r ∈ s.conversions.rows, ∃ d ∈ Layout.directions,
    r.get "conversion_type" = .text d

/-- A call that saves no conversion but in one of the directions. -/
def Call.Directed : Call → Prop
  | .saveConversion values => ∃ d ∈ Layout.directions,
      (⟨.conversion, values⟩ : Record).get "conversion_type" = .text d
  | _ => True

section

variable {s s' : Store} {now : Moment}

lemma Noted.of_eq (h : s.Noted) (heq : s'.conversions = s.conversions) : s'.Noted where
  last := heq ▸ h.last
  key := heq ▸ h.key
  created := heq ▸ h.created
  direction := heq ▸ h.direction

lemma Noted.erase (h : s.Noted) (p : Row → Bool) :
    (s.put .conversions (s.conversions.erase p).2).Noted where
  last := h.last
  key r hr := h.key r (mem_of_mem_filter hr)
  created r hr := h.created r (mem_of_mem_filter hr)
  direction r hr := h.direction r (mem_of_mem_filter hr)

lemma Noted.add (h : s.Noted) (hsound : s.Sound) (hnow : now.Ticks) {values : Fields} {id : Int}
    (hadd : s.add .conversions now values = .ok (id, s')) {d : String}
    (hd : d ∈ Layout.directions) (hdirection : values.lookup "conversion_type" = some (.text d))
    (hcreated : values.lookup "created_at" = none) : s'.Noted := by
  obtain ⟨row, rfl, rfl, hid, hmade⟩ := add_made (hsound .conversions) hadd
  have hlt := Table.last_lt_nextKey s.conversions
  have hkey : 1 ≤ row.id := by
    rw [hid]
    exact (Int.lt_of_le_of_lt h.last hlt : (0 : Int) < _)
  have hmem {P : Row → Prop} (hrows : ∀ r ∈ s.conversions.rows, P r) (hrow : P row) :
      ∀ r ∈ s.conversions.rows ++ [row], P r :=
    forall_mem_append.2 ⟨hrows, forall_mem_singleton.2 hrow⟩
  refine ⟨?_, hmem h.key ⟨hkey, key_le_of_add hadd⟩, hmem h.created ⟨now, hnow, ?_⟩,
    hmem h.direction ⟨d, hd, ?_⟩⟩
  · exact Int.le_of_lt hkey
  · exact (hmade.absent "created_at" (by decide) hcreated).trans (Leaning.apply_stampCell hnow)
  · exact hmade.text (by decide) hdirection rfl

lemma Noted.does (h : s.Noted) (hsound : s.Sound) (hnow : now.Ticks) {c : Call}
    (hc : c.Directed) (hdoes : c.Does now s s') : s'.Noted := by
  obtain ⟨st, hst, hrun⟩ := hdoes
  by_cases hpart : st.part = .conversions
  · cases c with
    | saveConversion values =>
      cases hst
      obtain ⟨d, hd, hget⟩ := hc
      obtain ⟨id, hadd⟩ := snd_eq_ok.1 hrun
      exact h.add hsound hnow hadd hd (congrArg some hget) rfl
    | deleteConversion id =>
      cases hst
      obtain ⟨found, hdrop⟩ := snd_eq_ok.1 hrun
      obtain ⟨key, -, rfl⟩ := drop_eq_ok hdrop
      exact h.erase _
    | deleteOld days =>
      cases hst
      obtain ⟨cell, -, hrun⟩ := bind_eq_ok.1 hrun
      cases hrun
      exact h.erase _
    | saveConfig kind values =>
      rw [Call.part_of_saveConfig hst] at hpart
      cases kind <;> cases hpart
    | updateProfile id updates | updateMapping id updates =>
      cases updates <;> cases hst
      cases hpart
    | activate kind id | deleteConfig kind id =>
      cases hst
      cases kind <;> cases hpart
    | _ =>
      cases hst
      cases hpart
  · refine h.of_eq ?_
    rw [Statement.run_eq_put hrun]
    exact table_put_of_ne _ _ _ (Ne.symm hpart)

lemma noted_empty : empty.Noted where
  last := by decide
  key := by simp [empty, Part.empty]
  created := by simp [empty, Part.empty]
  direction := by simp [empty, Part.empty]

lemma noted_seeded (now : Moment) : (seeded now).Noted := by
  have hadd {s s' : Store} {given : Fields}
      {fields : List (String × String × String)} (h : s.Noted)
      (hadd : addProfile now s given fields = .ok s') : s'.Noted := by
    obtain ⟨id, s₁, hfirst, hkeeps⟩ := addProfile_eq_ok hadd
    refine hkeeps Noted ?_ fun s₁ s₂ values key hs₁ _ hadd => ?_
    · obtain ⟨cells, -, -, rfl⟩ := add_eq_ok hfirst
      exact h.of_eq rfl
    · obtain ⟨cells, -, -, rfl⟩ := add_eq_ok hadd
      exact hs₁.of_eq rfl
  rcases seeded_cases now with heq | ⟨given, fields, given', fields', s₁, hfirst, hsecond, -⟩
  · rw [heq]
    exact noted_empty
  · exact hadd (hadd noted_empty hfirst) hsecond

lemma Noted.afterAll (h : s.Noted) (hsound : s.Sound) {calls : List (Moment × Call)}
    (hticks : ∀ e ∈ calls, e.1.Ticks) (hdirected : ∀ e ∈ calls, e.2.Directed) :
    (s.afterAll calls).Noted := by
  induction calls generalizing s with
  | nil => exact h
  | cons e calls ih =>
    rw [forall_mem_cons] at hticks hdirected
    refine ih ?_ (Call.sound_after e.1 e.2 hsound) hticks.2 hdirected.2
    rcases e.2.after_cases e.1 s with hdoes | ⟨-, heq⟩
    · exact h.does hsound hticks.1 hdirected.1 hdoes
    · show (e.2.after e.1 s).Noted
      rwa [heq]

lemma Noted.length_le (h : s.Noted) (hsound : s.Sound) :
    (s.conversions.rows.length : Int) ≤ greatestInt := by
  have hnodup : (s.conversions.rows.map (·.id)).Nodup :=
    pairwise_map.2 ((hsound .conversions).rising.imp Int.ne_of_lt)
  have hsub : (s.conversions.rows.map (·.id)).toFinset ⊆ Finset.Icc 1 greatestInt := by
    intro id hid
    obtain ⟨r, hr, rfl⟩ := mem_map.1 (mem_toFinset.1 hid)
    exact Finset.mem_Icc.2 (h.key r hr)
  have hcard := Finset.card_le_card hsub
  rw [toFinset_card_of_nodup hnodup, length_map, Int.card_Icc] at hcard
  have hgreatest : 0 ≤ greatestInt := by decide
  omega

end

end Store

namespace Record

variable {layout : Layout} {row : Store.Row} {record : Record}

lemma get_of_ofRow (h : ofRow layout row = .ok record) {name : String} {role : Role}
    (hrole : layout.fields.lookup name = some role) :
    readField (row.value name) role = .ok (record.get name) := by
  obtain ⟨values, hvalues, hrecord⟩ := bind_eq_ok.1 h
  cases hrecord
  replace hvalues := Conversion.mapM_eq_ok.1 hvalues
  clear h
  rw [get]
  generalize layout.fields = fields at hvalues hrole
  induction hvalues with
  | nil => cases hrole
  | @cons f g fields values hfg _ ih =>
    obtain ⟨v, hv, hfg⟩ := bind_eq_ok.1 hfg
    cases hfg
    rw [lookup_cons] at hrole ⊢
    cases hname : name == f.1 with
    | true =>
      rw [hname] at hrole
      cases hrole
      rwa [eq_of_beq hname]
    | false =>
      rw [hname] at hrole
      exact ih hrole

lemma unpack_ofRow {field : String} {room : Nat}
    (h : ofRow layout row = .ok record) {default empty : Value} {label : String}
    (hrole : layout.fields.lookup field = some (.packed default label empty)) :
    record.unpack field room = unpacked (row.value field) empty room := by
  have hget := get_of_ofRow h hrole
  obtain ⟨values, -, heq⟩ := bind_eq_ok.1 h
  cases heq
  rw [unpack, hrole, ← Except.ok.inj hget]

end Record

namespace Store

variable {s : Store}

def Shows (r : Row) (record : Record) : Prop :=
  Record.ofRow .conversion r = .ok record ∧
    (∃ d, r.get "conversion_type" = .text d ∧ record.get "conversion_type" = .text d) ∧
    ∃ t : Moment, t.Ticks ∧ r.get "created_at" = stampCell t ∧
      record.get "created_at" = .moment t

variable {r : Row} {d : Option String}

lemma Noted.exists_shows (h : s.Noted) (hr : r ∈ s.conversions.rows) :
    ∃ record, Shows r record := by
  obtain ⟨t, ht, hstamp⟩ := h.created r hr
  obtain ⟨d, hd, hdirection⟩ := h.direction r hr
  have hvalue : r.value "conversion_type" = .text d := by
    rw [Row.value, hdirection]
    rfl
  have hlegible : Layout.conversion.Legible r := by
    intro f hf
    simp only [Layout.conversion, mem_cons, not_mem_nil, or_false] at hf
    rcases hf with rfl | rfl | rfl | rfl | rfl | rfl | rfl | rfl | rfl | rfl | rfl | rfl | rfl
    case inr.inr.inl => exact fun _ => ⟨d, hd, hvalue⟩
    case inr.inr.inr.inr.inr.inr.inr.inr.inr.inr.inr.inr => exact truthy_admits_stamp ht hstamp
    all_goals trivial
  obtain ⟨record, hrecord⟩ := Record.ofRow_succeeds_iff.2 hlegible
  have htype := Record.get_of_ofRow hrecord (rfl : lookup "conversion_type" _ = _)
  have hcreated := Record.get_of_ofRow hrecord (rfl : lookup "created_at" _ = _)
  refine ⟨record, hrecord, ⟨d, hdirection, ?_⟩, t, ht, hstamp, ?_⟩
  · have hread : ∀ d ∈ Layout.directions, Record.readField (.text d)
        (.choice "ConversionType" Layout.directions) = .ok (.text d) := by
      simp [Layout.directions, Record.readField, Value.truthy, Value.text?]
    rw [hvalue, hread d hd] at htype
    exact (Except.ok.inj htype).symm
  · rw [Row.value, hstamp] at hcreated
    exact Except.ok.inj (hcreated.symm.trans ht.readStamp_stamp)

/-! ## Pages -/

/-- The first pages of a size, put together. -/
def pages (s : Store) (size : Nat) (direction : Value) (n : Nat) : Try (List Record) :=
  List.flatten <$> (List.range n).mapM fun j : Nat =>
    s.conversionRecords (.int size) (.int (j * size)) direction

/-- The rows of the history, newest first; of one direction only if one is given. -/
def listed (s : Store) : Option String → List Row
  | none => falling "created_at" s.conversions.rows
  | some d => (falling "created_at" s.conversions.rows).filter fun r =>
      (r.get "conversion_type").equals (.text d)

lemma conversionRecords_eq {size : Nat} (hsize : 1 ≤ size) (hfits : (size : Int) ≤ greatestInt)
    {j : Nat} (hoffset : (j * size : Int) ≤ greatestInt) (hd : ∀ x ∈ d, x ∈ Layout.directions) :
    s.conversionRecords (.int size) (.int (j * size)) (.ofText? d) =
      recordsOf .conversions (((s.listed d).drop (j * size)).take size) := by
  have hleast : leastInt ≤ 0 := by decide
  have hnonneg : (0 : Int) ≤ j * size := by positivity
  have hbound {m : Int} (hm : 0 ≤ m) (hm' : m ≤ greatestInt) (i : Nat) :
      Cell.ofValue i (.int m) = .ok (.int m) := by
    rw [Cell.ofValue, if_pos (by simp only [Bool.and_eq_true, decide_eq_true_eq]; omega)]
  have hlimit := hbound (Int.natCast_nonneg size) hfits
  have hstart := hbound hnonneg hoffset
  have hpage (rows : List Row) : page (.int size) (.int (j * size)) rows =
      .ok ((rows.drop (j * size)).take size) := by
    have hcast : ((j : Int) * size).toNat = j * size := by rw [← Int.natCast_mul, Int.toNat_natCast]
    obtain ⟨size, rfl⟩ := Nat.exists_eq_add_of_le' hsize
    show Except.ok (if (size + 1 : Nat) < (0 : Int) then _ else _) = _
    rw [if_neg (by omega), hcast]
    rfl
  cases d with
  | none =>
    have hcells : Cell.ofValues [.int size, .int (j * size)] =
        .ok [.int size, .int (j * size)] :=
      Conversion.mapM_eq_ok.2 (.cons (hlimit _) (.cons (hstart _) .nil))
    rw [conversionRecords]
    simp only [Value.ofText?, Value.truthy, hcells, ok_bind, getD_cons_zero, getD_cons_succ, hpage]
    rfl
  | some d =>
    have hdirection : ∀ d ∈ Layout.directions, (Value.text d).truthy = true ∧ Text.holdsHalf d = false := by
      decide
    obtain ⟨htruthy, hwhole⟩ := hdirection d (hd d rfl)
    have hcells : Cell.ofValues [.text d, .int size, .int (j * size)] =
        .ok [.text d, .int size, .int (j * size)] := by
      refine Conversion.mapM_eq_ok.2 (.cons ?_ (.cons (hlimit _) (.cons (hstart _) .nil)))
      simp [Cell.ofValue, hwhole]
    rw [conversionRecords]
    simp only [Value.ofText?, htruthy, hcells, ok_bind, getD_cons_zero,
      getD_cons_succ, hpage, if_true]
    rfl

lemma flatten_pages {α : Type} (items : List α) (size n : Nat) :
    ((List.range n).map fun j => (items.drop (j * size)).take size).flatten =
      items.take (n * size) := by
  induction n with
  | zero => simp
  | succ n ih =>
    rw [range_succ, map_append, flatten_append, ih, Nat.succ_mul, take_add]
    simp

lemma pages_eq {size n : Nat} (hsize : 1 ≤ size) (hfits : (size : Int) ≤ greatestInt)
    (hoffset : ∀ j < n, (j * size : Int) ≤ greatestInt)
    (hd : ∀ x ∈ d, x ∈ Layout.directions) {records : List Record}
    (hrecords : Forall₂ Shows (s.listed d) records) :
    s.pages size (.ofText? d) n = .ok (records.take (n * size)) := by
  rw [← flatten_pages]
  refine Conversion.map_eq_ok.2 ⟨_, Conversion.mapM_eq_ok.2 ?_, rfl⟩
  rw [forall₂_map_right_iff, forall₂_same]
  intro j hj
  rw [conversionRecords_eq hsize hfits (hoffset j (mem_range.1 hj)) hd]
  refine Conversion.mapM_eq_ok.2 (((forall₂_drop _ hrecords).imp ?_) |> forall₂_take _)
  exact fun _ _ h => h.1

/-! ## Counts -/

lemma Cell.equals_text (a b : String) : (Cell.text a).equals (.text b) = decide (a = b) := by
  have hiff : (Cell.text a).equals (.text b) ↔ a = b := by
    simp only [equals, isNull, less, Bool.and_eq_true, Bool.not_eq_true', decide_eq_false_iff_not]
    constructor
    · rintro ⟨⟨-, hlt⟩, hgt⟩
      exact le_antisymm (not_lt.1 hgt) (not_lt.1 hlt)
    · rintro rfl
      simp
  rw [Bool.eq_iff_iff, hiff, decide_eq_true_iff]

def directionOf (r : Row) : String := ((r.value "conversion_type").text?).getD ""

lemma Noted.value_direction (h : s.Noted) (hr : r ∈ s.conversions.rows) :
    r.value "conversion_type" = .text (directionOf r) := by
  obtain ⟨d, -, hd⟩ := h.direction r hr
  have hvalue : r.value "conversion_type" = .text d := by
    rw [Row.value, hd]
    rfl
  rw [directionOf, hvalue]
  rfl

lemma lookup_map_self {α : Type} (f : String → α) (names : Texts) (name : String) :
    (names.map fun n => (n, f n)).lookup name = if name ∈ names then some (f name) else none := by
  induction names with
  | nil => rfl
  | cons n names ih =>
    rw [map_cons, lookup_cons, ih]
    by_cases hname : name = n
    · simp [hname]
    · simp [hname, beq_false_of_ne hname]

lemma Noted.historyCounts (h : s.Noted) : ∃ counts : List (String × Nat),
    s.historyCounts.field? "by_type" = some (.record (counts.map fun c => (c.1, .int c.2))) ∧
      (counts.map (·.2)).sum = s.conversions.rows.length ∧
      ∀ d, (counts.lookup d).getD 0 = (s.conversions.rows.map directionOf).count d := by
  have hperm : (rising "conversion_type" s.conversions.rows).Perm s.conversions.rows :=
    mergeSort_perm _ _
  obtain ⟨found, hfound, hnodup, hmem⟩ := Value.exists_distinct_texts
    ((rising "conversion_type" s.conversions.rows).map directionOf)
  have hmem (d : String) : d ∈ found ↔ d ∈ s.conversions.rows.map directionOf :=
    (hmem d).trans (hperm.map _).mem_iff
  have hdirections : Value.distinct ((rising "conversion_type" s.conversions.rows).map
      (·.value "conversion_type")) = found.map .text := by
    rw [← hfound, map_map]
    refine congrArg _ (map_congr_left fun r hr => ?_)
    exact h.value_direction (hperm.mem_iff.1 hr)
  have hcount (d : String) : (s.conversions.rows.filter fun r =>
      (r.value "conversion_type").same (.text d)).length =
        (s.conversions.rows.map directionOf).count d := by
    rw [← countP_eq_length_filter, count, countP_map]
    refine countP_congr fun r hr => ?_
    rw [h.value_direction hr]
    simp [Value.same]
  refine ⟨found.map fun d => (d, (s.conversions.rows.map directionOf).count d), ?_, ?_, fun d => ?_⟩
  · rw [Store.historyCounts, Value.field?_record]
    simp only [hdirections, map_map]
    show some (Value.map _) = some (Value.map _)
    rw [map_map]
    refine congrArg (some ∘ Value.map) (map_congr_left fun d _ => ?_)
    simp only [Function.comp_apply, hcount]
  · rw [map_map]
    have hdedup : found.Perm (s.conversions.rows.map directionOf).dedup :=
      (perm_ext_iff_of_nodup hnodup (nodup_dedup _)).2 fun d => by
        rw [hmem, mem_dedup]
    have hsum := sum_map_count_dedup_eq_length (s.conversions.rows.map directionOf)
    rw [← (hdedup.map _).sum_eq, length_map] at hsum
    exact hsum
  · rw [lookup_map_self]
    split
    · rfl
    · rename_i hd
      rw [count_eq_zero_of_not_mem (mt (hmem d).2 hd)]
      rfl

end Store

def Record.isDirected (d : String) (r : Record) : Bool :=
  (r.get "conversion_type").text? == some d

namespace Store

/-- The history lists every conversion once, newest first. The pages of a size that a cell can hold
    give this list, or what is of one direction in it, and the counts are those of the list. -/
theorem pages_afterAll (start : Moment) (calls : List (Moment × Call))
    (hticks : ∀ e ∈ calls, e.1.Ticks) (hdirected : ∀ e ∈ calls, e.2.Directed) :
    let s := (seeded start).afterAll calls
    ∃ rows all, rows.Perm s.conversions.rows ∧ recordsOf .conversions rows = .ok all ∧
      (all.Pairwise fun r r' => ∃ t t', r.get "created_at" = .moment t ∧
        r'.get "created_at" = .moment t' ∧ t'.toSeconds ≤ t.toSeconds) ∧
      (all.length : Int) ≤ greatestInt ∧
      (∀ size n : Nat, 1 ≤ size → (size : Int) ≤ greatestInt →
        (∀ j < n, (j * size : Int) ≤ greatestInt) →
        s.pages size .null n = .ok (all.take (n * size)) ∧ ∀ d ∈ Layout.directions,
          s.pages size (.text d) n = .ok ((all.filter (·.isDirected d)).take (n * size))) ∧
      s.historyCounts.field? "total" = some (.int all.length) ∧
      ∃ counts : List (String × Nat),
        s.historyCounts.field? "by_type" = some (.record (counts.map fun c => (c.1, .int c.2))) ∧
        (counts.map (·.2)).sum = all.length ∧
        ∀ d, (counts.lookup d).getD 0 = (all.filter (·.isDirected d)).length := by
  intro s
  have hsound : s.Sound := (sound_seeded start).afterAll calls
  have hnoted : s.Noted := (noted_seeded start).afterAll (sound_seeded start) hticks hdirected
  have hperm : (s.listed none).Perm s.conversions.rows := mergeSort_perm _ _
  have : Nonempty Record := ⟨⟨.conversion, []⟩⟩
  have hshows : ∀ r, r ∈ s.conversions.rows → ∃ record, Shows r record :=
    fun r hr => hnoted.exists_shows hr
  choose! record hrecord using hshows
  have hstamps : ∀ r, r ∈ s.conversions.rows → ∃ t : Moment, t.Ticks ∧
      r.get "created_at" = stampCell t ∧ (record r).get "created_at" = .moment t :=
    fun r hr => (hrecord r hr).2.2
  have : Nonempty Moment := ⟨start⟩
  choose! stamp hstamp using hstamps
  have hall : Forall₂ Shows (s.listed none) ((s.listed none).map record) :=
    forall₂_map_right_iff.2 (forall₂_same.2 fun r hr => hrecord r (hperm.mem_iff.1 hr))
  have hfilter (d : String) :
      Forall₂ Shows (s.listed (some d)) (((s.listed none).map record).filter (·.isDirected d)) := by
    refine rel_filter ?_ hall
    rintro r record ⟨-, ⟨d', hget, hget'⟩, -⟩
    simp only [hget, Cell.equals_text, Record.isDirected, hget', Value.text?]
    simp
  refine ⟨_, _, hperm, Conversion.mapM_eq_ok.2 (hall.imp fun _ _ h => h.1), ?_, ?_, ?_, ?_, ?_⟩
  · have hsorted := pairwise_falling fun r hr => ⟨(hstamp r hr).1, (hstamp r hr).2.1⟩
    refine pairwise_map.2 (List.Pairwise.imp_of_mem (fun {r r'} hr hr' hle => ?_) hsorted)
    exact ⟨_, _, (hstamp r (hperm.mem_iff.1 hr)).2.2, (hstamp r' (hperm.mem_iff.1 hr')).2.2, hle⟩
  · rw [← hall.length_eq, hperm.length_eq]
    exact hnoted.length_le hsound
  · intro size n hsize hfits hoffset
    refine ⟨pages_eq hsize hfits hoffset (by simp) hall, fun d hd => ?_⟩
    exact pages_eq hsize hfits hoffset (by simpa using hd) (hfilter d)
  · rw [← hall.length_eq, hperm.length_eq]
    exact Value.field?_record _ _
  · obtain ⟨counts, hcounts, hsum, hlookup⟩ := hnoted.historyCounts
    refine ⟨counts, hcounts, by rw [hsum, ← hall.length_eq, hperm.length_eq], fun d => ?_⟩
    rw [hlookup, ← (hfilter d).length_eq, listed, ← countP_eq_length_filter, List.count,
      countP_map]
    refine (hperm.countP_eq _).symm.trans (countP_congr fun r hr => ?_)
    obtain ⟨d', -, hd'⟩ := hnoted.direction r (hperm.mem_iff.1 hr)
    simp [directionOf, Row.value, hd', Cell.toValue, Value.text?, Cell.equals_text]

/-- Two conversions, and the second forgotten. -/
def savedCalls : List (Moment × Call) :=
  [(firstMinute 1, .saveConversion [("name", .text "a"), ("conversion_type", .text "sigma_to_spl"),
     ("input_content", .text "b")]),
   (firstMinute 2, .saveConversion [("name", .text "c"), ("conversion_type", .text "spl_to_sigma"),
     ("input_content", .text "d")]),
   (firstMinute 3, .deleteConversion (.int 2))]

/-- Pages of one conversion each, after one of two was forgotten. -/
theorem pages_savedCalls : (∀ e ∈ savedCalls, e.1.Ticks ∧ e.2.Directed) ∧
    ∃ all : List Record,
      ((seeded (firstMinute 0)).afterAll savedCalls).pages 1 .null 2 = .ok (all.take 2) ∧
      ((seeded (firstMinute 0)).afterAll savedCalls).historyCounts.field? "total" =
        some (.int all.length) := by
  have hcalls : ∀ e ∈ savedCalls, e.1.Ticks ∧ e.2.Directed := by
    have hticks (n : Nat) (hn : n ≤ 3) : (firstMinute n).Ticks := by
      interval_cases n <;> exact ⟨by decide, rfl, rfl, by decide⟩
    simp only [savedCalls, forall_mem_singleton, forall_mem_cons]
    exact ⟨⟨hticks 1 (by decide), _, by decide, rfl⟩, ⟨hticks 2 (by decide), _, by decide, rfl⟩,
      hticks 3 (by decide), trivial⟩
  obtain ⟨rows, all, -, -, -, -, hpages, htotal, -⟩ := pages_afterAll (firstMinute 0) savedCalls
    (fun e he => (hcalls e he).1) fun e he => (hcalls e he).2
  refine ⟨hcalls, all, (hpages 1 2 (by decide) (by decide) ?_).1, htotal⟩
  have hgreatest : greatestInt = 9223372036854775807 := rfl
  omega

/-- No page is given for a size that no cell can hold. -/
theorem not_pages_large :
    ¬∃ all, (seeded (firstMinute 0)).pages 9223372036854775808 .null 1 = .ok all := by
  have hnone : ((seeded (firstMinute 0)).pages 9223372036854775808 .null 1).toBool = false := by
    decide +kernel
  rintro ⟨all, h⟩
  rw [h] at hnone
  cases hnone

end Store

end Huntbook
