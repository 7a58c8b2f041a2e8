import Huntbook.Proofs.Calls

/-!
# Flags that mark one row

The default profile and the active configurations are marked by a one in a column, and who reads
them takes the first marked row. Only activating a configuration takes the mark from the others; a
profile that is made as the default, and a configuration that is saved as active, are marked beside
those that are marked already.

* `Store.along_single_iff`: along a run from the first store at most one row of each kind is
  marked if and only if no call marks a second one;
* `Store.failed_activation_iff`: when activating a configuration that is not there changes nothing.
-/

namespace Huntbook.Store

/-! ## Marked rows -/

/-- Whether a row holds a one in a column. -/
def Row.marked (flag : String) (r : Row) : Bool := (r.get flag).equals (.int 1)

/-- At most one row of a table is marked: no two are. -/
def Table.Single (flag : String) (t : Table) : Prop :=
  t.rows.Pairwise fun r r' => ¬(r.marked flag ∧ r'.marked flag)

def Part.flag? : Part → Option String
  | .profiles => some "is_default"
  | .sensors | .audits => some "is_active"
  | _ => none

/-- At most one profile is marked as the default, and at most one configuration of each kind as
    active. -/
def Single (s : Store) : Prop :=
  ∀ part flag, Part.flag? part = some flag → (s.table part).Single flag

lemma Part.flag_column {part : Part} {flag : String} (h : part.flag? = some flag) :
    flag ∈ part.columnNames ∧ part.leaning flag = .number ∧ flag ≠ "updated_at" ∧
      "updated_at" ∈ part.columnNames := by
  cases part <;> cases h <;> decide

namespace Table.Single

variable {flag : String} {t : Table}

lemma withRow_iff {row : Row} : (t.withRow row).Single flag ↔
    t.Single flag ∧ (row.marked flag → ∀ r ∈ t.rows, ¬r.marked flag) := by
  unfold Single withRow
  rw [List.pairwise_append]
  refine and_congr_right fun _ => ⟨?_, ?_⟩
  · rintro ⟨-, hnew⟩ hmarked r hr hr'
    exact hnew r hr row (List.mem_singleton_self row) ⟨hr', hmarked⟩
  · intro hnew
    refine ⟨List.pairwise_singleton _ row, fun r hr r' hr' hboth => ?_⟩
    rw [List.mem_singleton.1 hr'] at hboth
    exact hnew hboth.2 r hr hboth.1

lemma erase (h : t.Single flag) (p : Row → Bool) : (t.erase p).2.Single flag :=
  h.filter _

lemma not_both (h : t.Single flag) {r r' : Row} (hr : r ∈ t.rows) (hr' : r' ∈ t.rows)
    (hne : r.id ≠ r'.id) : ¬(r.marked flag ∧ r'.marked flag) := by
  have hsymm : Std.Symm fun r r' : Row => ¬(r.marked flag ∧ r'.marked flag) :=
    ⟨fun _ _ hnot hboth => hnot hboth.symm⟩
  exact h.forall hr hr' fun heq => hne (congrArg Row.id heq)

lemma mapRows_iff (h : t.rows.Pairwise (·.id < ·.id)) {f : Row → Row}
    (hid : ∀ r, (f r).id = r.id) : (t.mapRows f).Single flag ↔
      ∀ r ∈ t.rows, ∀ r' ∈ t.rows, r.id ≠ r'.id → ¬((f r).marked flag ∧ (f r').marked flag) := by
  constructor
  · intro hsingle r hr r' hr' hne
    exact hsingle.not_both (List.mem_map_of_mem hr) (List.mem_map_of_mem hr')
      (by rwa [hid, hid])
  · intro hall
    refine List.pairwise_map.2 (h.imp_of_mem fun hr hr' hlt => ?_)
    exact hall _ hr _ hr' (Int.ne_of_lt hlt)

end Table.Single

/-! ## What statements do to the marks -/

def IsOne (v : Value) : Prop := ∃ c, bound v = .ok c ∧ c.toNumber.equals (.int 1)

lemma isOne_iff {v : Value} {c : Cell} (h : bound v = .ok c) :
    IsOne v ↔ c.toNumber.equals (.int 1) := by
  simp [IsOne, h]

lemma isOne_flag_iff (v : Value) : IsOne (flag v) ↔ v.truthy := by
  have hbound : bound (flag v) = .ok (.int (if v.truthy then 1 else 0)) := by
    cases h : v.truthy <;> simp [flag, h] <;> rfl
  rw [isOne_iff hbound]
  cases v.truthy <;> decide

def Table.Another (t : Table) (flag : String) (id : Value) : Prop :=
  ∃ key, bound id = .ok key ∧ ∃ r ∈ t.rows, key.names r.id ∧
    ∃ r' ∈ t.rows, r'.id ≠ r.id ∧ (key.names r'.id ∨ r'.marked flag)

section

variable {part : Part} {flag : String} (hflag : part.flag? = some flag) {t : Table}
  (hfits : part.Fits t)

include hflag hfits

lemma marked_activated {key : Cell} {r : Row} (hr : r ∈ t.rows) :
    (r.set flag (.int (if key.whole? == some r.id then 1 else 0))).marked flag
      = (key.whole? == some r.id) := by
  have hcolumn := (Part.flag_column hflag).1
  rw [Row.marked, Row.get_set_self _ (part.ne_id flag hcolumn) (by rwa [hfits.filled r hr])]
  cases key.whole? == some r.id <;> rfl

lemma single_activated (key : Cell) : (t.mapRows fun r =>
    r.set flag (.int (if key.whole? == some r.id then 1 else 0))).Single flag := by
  rw [Table.Single.mapRows_iff hfits.rising]
  · intro r hr r' hr' hne
    rw [marked_activated hflag hfits hr, marked_activated hflag hfits hr']
    rintro ⟨h, h'⟩
    have heq := (eq_of_beq h).symm.trans (eq_of_beq h')
    exact hne (Option.some.inj heq)
  · exact fun _ => rfl

end

section

variable {s s' : Store} (hsound : s.Sound) {part : Part} {flag : String}
  (hflag : part.flag? = some flag) (hsingle : (s.table part).Single flag) {now : Moment}

include hsound hflag hsingle

lemma single_modify_iff (given : Fields) (hnamed : part.Named (given.map (·.1)))
    {id : Value} {n : Nat}
    (h : s.modify part now (given.map (·.1)) (given.map (·.2) ++ [id]) = .ok (n, s')) :
    (s'.table part).Single flag ↔ ¬((∃ v, given.reverse.lookup flag = some v ∧ IsOne v) ∧
        (s.table part).Another flag id) := by
  obtain ⟨hcolumn, hleaning, hne, hstamp⟩ := Part.flag_column hflag
  obtain ⟨key, renew, hkey, rfl, hid, hremade⟩ := modify_made (hsound part) hstamp given hnamed h
  let renewed (r : Row) : Row := if key.names r.id then renew r else r
  have hsame (r : Row) : (renewed r).id = r.id := by
    show (ite _ _ _ : Row).id = r.id
    split
    · exact hid r
    · rfl
  have hnamed {r : Row} (hkey : key.names r.id) : renewed r = renew r := if_pos hkey
  have hother {r : Row} (hkey : ¬key.names r.id) : renewed r = r := if_neg hkey
  have hgiven {r : Row} (hr : r ∈ (s.table part).rows) {v : Value}
      (hv : given.reverse.lookup flag = some v) : (renew r).marked flag ↔ IsOne v := by
    obtain ⟨c, hc, hcell⟩ := (hremade r hr).given flag hcolumn hne v hv
    rw [isOne_iff hc, Row.marked, hcell, hleaning]
    rfl
  rw [table_put_self, Table.Single.mapRows_iff (hsound part).rising hsame]
  constructor
  · rintro hall ⟨⟨v, hv, hone⟩, key', hkey', r, hr, hkeyr, r', hr', hne', hsecond⟩
    cases hkey.symm.trans hkey'
    refine hall r hr r' hr' hne'.symm ⟨?_, ?_⟩
    · exact (congrArg (Row.marked flag) (hnamed hkeyr)).trans ((hgiven hr hv).2 hone)
    · by_cases hkey' : key.names r'.id
      · exact (congrArg (Row.marked flag) (hnamed hkey')).trans ((hgiven hr' hv).2 hone)
      · exact (congrArg (Row.marked flag) (hother hkey')).trans (hsecond.resolve_left hkey')
  · -- A row that is marked after the change was marked before it, or was given the mark.
    have hcause {r : Row} (hr : r ∈ (s.table part).rows) (hmarked : (renewed r).marked flag) :
        (key.names r.id ∧ ∃ v, given.reverse.lookup flag = some v ∧ IsOne v) ∨
          r.marked flag := by
      by_cases hkey : key.names r.id
      · rw [hnamed hkey] at hmarked
        cases hlookup : given.reverse.lookup flag with
        | none =>
          rw [Row.marked, (hremade r hr).kept flag hcolumn hne hlookup] at hmarked
          exact .inr hmarked
        | some v => exact .inl ⟨hkey, v, rfl, (hgiven hr hlookup).1 hmarked⟩
      · rw [hother hkey] at hmarked
        exact .inr hmarked
    rintro hnot r hr r' hr' hne' ⟨hmarked, hmarked'⟩
    rcases hcause hr hmarked with ⟨hkeyr, hone⟩ | hbefore
    · exact hnot ⟨hone, key, hkey, r, hr, hkeyr, r', hr', hne'.symm,
        (hcause hr' hmarked').imp_left (·.1)⟩
    · rcases hcause hr' hmarked' with ⟨hkeyr, hone⟩ | hbefore'
      · exact hnot ⟨hone, key, hkey, r', hr', hkeyr, r, hr, hne', .inr hbefore⟩
      · exact hsingle.not_both hr hr' hne' ⟨hbefore, hbefore'⟩

lemma single_add_iff {values : Fields} {id : Int} {v : Value}
    (hv : values.lookup flag = some v) (h : s.add part now values = .ok (id, s')) :
    (s'.table part).Single flag ↔ ¬(IsOne v ∧ ∃ r ∈ (s.table part).rows, r.marked flag) := by
  obtain ⟨row, rfl, -, -, hmade⟩ := add_made (hsound part) h
  obtain ⟨hcolumn, hleaning, -⟩ := Part.flag_column hflag
  obtain ⟨c, hc, hcell⟩ := hmade.given flag hcolumn v hv
  have hmarked : row.marked flag = c.toNumber.equals (.int 1) := by
    rw [Row.marked, hcell, hleaning]
    rfl
  rw [table_put_self, Table.Single.withRow_iff, and_iff_right hsingle, isOne_iff hc, hmarked]
  simp

lemma single_saved_iff {given : Fields} (hnamed : part.Named (given.map (·.1)))
    {v : Value} (hgiven : given.lookup flag = some (Store.flag v))
    (hlast : given.reverse.lookup flag = some (Store.flag v)) {id : Value} {st : Statement}
    (hst : st = if id.truthy then .modify part (given.map (·.1)) (given.map (·.2) ++ [id])
      else .add part given) (hrun : st.run now s = .ok s') :
    (s'.table part).Single flag ↔ ¬(v.truthy ∧ if id.truthy then (s.table part).Another flag id
      else ∃ r ∈ (s.table part).rows, r.marked flag) := by
  subst hst
  rw [← isOne_flag_iff]
  split at hrun
  · rename_i hid
    obtain ⟨n, hmodify⟩ := snd_eq_ok.1 hrun
    rw [single_modify_iff hsound hflag hsingle given hnamed hmodify, if_pos hid, hlast]
    simp
  · rename_i hid
    obtain ⟨id, hadd⟩ := snd_eq_ok.1 hrun
    rw [single_add_iff hsound hflag hsingle hgiven hadd, if_neg hid]

end

/-! ## Calls -/

/-- Whether a call that is carried out marks a second row. Of one that changes the columns of a
    profile by other names than theirs, only what comes out tells. -/
def Call.MarksSecond (s s' : Store) : Call → Prop
  | .createProfile values => ((⟨.profile, values⟩ : Record).get "is_default").truthy ∧
      ∃ r ∈ s.profiles.rows, r.marked "is_default"
  | .updateProfile id (.map entries) =>
    if Part.profiles.Named (entries.map (·.1.plain)) then
      (∃ v, (entries.map fun e => (e.1.plain, e.2)).reverse.lookup "is_default" = some v ∧
        IsOne v) ∧ s.profiles.Another "is_default" id
    else ¬s'.profiles.Single "is_default"
  | .saveConfig kind values =>
    let r : Record := ⟨kind.part.layout, values⟩
    (r.get "is_active").truthy ∧
      if (r.get "id").truthy then (s.table kind.part).Another "is_active" (r.get "id")
      else ∃ r ∈ (s.table kind.part).rows, r.marked "is_active"
  | _ => False

variable {s s' : Store} {now : Moment}

lemma Single.put_iff (h : s.Single) {part : Part} {t : Table} :
    (s.put part t).Single ↔ ∀ flag, part.flag? = some flag → t.Single flag := by
  constructor
  · intro hput flag hflag
    have hsingle := hput part flag hflag
    rwa [table_put_self] at hsingle
  · intro ht other flag hflag
    by_cases heq : other = part
    · subst heq
      rw [table_put_self]
      exact ht flag hflag
    · rw [table_put_of_ne _ _ _ heq]
      exact h other flag hflag

lemma ConfigKind.flag?_part (kind : ConfigKind) : kind.part.flag? = some "is_active" := by
  cases kind <;> rfl

lemma ConfigKind.named (kind : ConfigKind) : kind.part.Named (configColumns kind.part) := by
  cases kind <;> exact ⟨by decide, by decide⟩

lemma ConfigKind.lookup_flag (kind : ConfigKind) (values : Fields) :
    (valuesOf ⟨kind.part.layout, values⟩ (configColumns kind.part)).lookup "is_active"
      = some (flag ((⟨kind.part.layout, values⟩ : Record).get "is_active")) ∧
    (valuesOf ⟨kind.part.layout, values⟩ (configColumns kind.part)).reverse.lookup "is_active"
      = some (flag ((⟨kind.part.layout, values⟩ : Record).get "is_active")) := by
  cases kind <;> exact ⟨rfl, rfl⟩

lemma Single.run_iff (h : s.Single) {st : Statement} (hrun : st.run now s = .ok s') :
    s'.Single ↔ ∀ flag, st.part.flag? = some flag → (s'.table st.part).Single flag := by
  conv_lhs => rw [Statement.run_eq_put hrun]
  exact h.put_iff

lemma Single.of_run (h : s.Single) {st : Statement} (hrun : st.run now s = .ok s')
    (hflag : st.part.flag? = none) : s'.Single := by
  rw [h.run_iff hrun, hflag]
  rintro flag ⟨⟩

lemma Single.of_flag (h : s.Single) {st : Statement} (hrun : st.run now s = .ok s')
    {flag : String} (hflag : st.part.flag? = some flag) :
    s'.Single ↔ (s'.table st.part).Single flag := by
  rw [h.run_iff hrun, hflag]
  simp

lemma Single.drop (h : s.Single) {part : Part} {id : Value}
    (hrun : (Statement.drop part id).run now s = .ok s') : s'.Single := by
  rw [h.run_iff hrun]
  intro flag hflag
  obtain ⟨found, hdrop⟩ := snd_eq_ok.1 hrun
  obtain ⟨key, -, rfl⟩ := drop_eq_ok hdrop
  rw [Statement.part, table_put_self]
  exact (h part flag hflag).erase _

lemma Call.Does.single_iff {c : Call} (hdoes : c.Does now s s') (hsound : s.Sound)
    (hsingle : s.Single) : s'.Single ↔ ¬c.MarksSecond s s' := by
  obtain ⟨st, hst, hrun⟩ := hdoes
  cases c with
  | createProfile values =>
    cases hst
    rw [hsingle.of_flag hrun rfl]
    obtain ⟨id, hadd⟩ := snd_eq_ok.1 hrun
    have hgiven : (valuesOf ⟨.profile, values⟩ profileColumns).lookup "is_default" =
      some (flag ((⟨.profile, values⟩ : Record).get "is_default")) := rfl
    rw [Statement.part, single_add_iff hsound rfl (hsingle .profiles _ rfl) hgiven hadd,
      isOne_flag_iff]
    rfl
  | updateProfile id updates =>
    cases updates with
    | map entries =>
      cases hst
      rw [hsingle.of_flag hrun rfl, MarksSecond]
      split
      · rename_i hnamed
        obtain ⟨n, hmodify⟩ := snd_eq_ok.1 hrun
        exact single_modify_iff hsound rfl (hsingle .profiles _ rfl)
          (entries.map fun e => (e.1.plain, e.2)) (by simpa [Function.comp_def] using hnamed)
          (by simpa [Function.comp_def] using hmodify)
      · exact not_not.symm
    | _ => cases hst
  | saveConfig kind values =>
    obtain ⟨hgiven, hlast⟩ := kind.lookup_flag values
    have hpart := part_of_saveConfig hst
    have hst := Option.some.inj (hst.symm.trans (statement?_saveConfig kind values))
    rw [hsingle.of_flag hrun (by rw [hpart, kind.flag?_part]), hpart]
    exact single_saved_iff hsound kind.flag?_part (hsingle kind.part _ kind.flag?_part)
      (by rw [names_valuesOf]; exact kind.named) hgiven hlast hst hrun
  | activate kind id =>
    cases hst
    refine iff_of_true ?_ not_false
    rw [hsingle.of_flag hrun kind.flag?_part]
    obtain ⟨key, -, hrun⟩ := bind_eq_ok.1 hrun
    cases hrun
    rw [Statement.part, table_put_self]
    exact single_activated kind.flag?_part (hsound kind.part) key
  | deleteProfile id | deleteConfig kind id =>
    cases hst
    exact iff_of_true (hsingle.drop hrun) not_false
  | updateMapping id updates =>
    cases updates with
    | map entries =>
      cases hst
      exact iff_of_true (hsingle.of_run hrun rfl) not_false
    | _ => cases hst
  | _ =>
    cases hst
    exact iff_of_true (hsingle.of_run hrun rfl) not_false

lemma single_empty : empty.Single := by
  intro part flag _
  cases part <;> exact .nil

lemma Single.addProfile (hsound : s.Sound) (hsingle : s.Single) {given : Fields}
    {fields : List (String × String × String)} {v : Value} (hv : given.lookup "is_default" = some v)
    (hnot : ¬(IsOne v ∧ ∃ r ∈ s.profiles.rows, r.marked "is_default"))
    (h : addProfile now s given fields = .ok s') : s'.Single := by
  obtain ⟨id, s₁, hadd, hkeeps⟩ := addProfile_eq_ok h
  refine hkeeps Single ?_ fun s₁ s₂ values key hs₁ _ hadd => ?_
  · have hrun : (Statement.add .profiles given).run now s = .ok s₁ := snd_eq_ok.2 ⟨id, hadd⟩
    rw [hsingle.of_flag hrun rfl]
    exact (single_add_iff hsound rfl (hsingle .profiles _ rfl) hv hadd).2 hnot
  · have hrun : (Statement.add .mappings values).run now s₁ = .ok s₂ := snd_eq_ok.2 ⟨key, hadd⟩
    exact hs₁.of_run hrun rfl

lemma single_seeded (now : Moment) : (seeded now).Single := by
  rcases seeded_cases now with heq | ⟨given, fields, given', fields', s₁, hfirst, hsecond, hv, hv'⟩
  · rw [heq]
    exact single_empty
  · refine .addProfile (sound_empty.addProfile hfirst) ?_ hv' ?_ hsecond
    · refine single_empty.addProfile sound_empty hv ?_ hfirst
      rintro ⟨-, r, hr, -⟩
      cases hr
    · rintro ⟨⟨c, hc, hone⟩, -⟩
      cases hc
      exact absurd hone (by decide)

/-- Along a run from the first store at most one row of each kind is marked if and only if no call
    that is carried out marks a second one. -/
theorem along_single_iff (start : Moment) (calls : List (Moment × Call)) :
    Along Single (seeded start) calls ↔ ∀ done e rest, calls = done ++ e :: rest →
      ∀ s', e.2.Does e.1 ((seeded start).afterAll done) s' →
        ¬e.2.MarksSecond ((seeded start).afterAll done) s' :=
  along_iff (sound_seeded start) (single_seeded start) Call.Does.single_iff calls

/-- Two configurations that are saved as active are both marked. -/
theorem not_along_single_saveConfig : ¬Along Single (seeded (firstMinute 0))
    [(firstMinute 1, .saveConfig .sensor [("name", .text "a"), ("is_active", .bool true)]),
     (firstMinute 2, .saveConfig .sensor [("name", .text "b"), ("is_active", .bool true)])] := by
  intro h
  have hsingle := h _ [] (List.append_nil _).symm .sensors "is_active" rfl
  revert hsingle
  unfold Table.Single
  decide +kernel

/-! ## Activating what is not there -/

lemma Row.set_get {r : Row} {column : String} (hid : column ≠ "id")
    (hnames : (r.cells.map (·.1)).Nodup) : r.set column (r.get column) = r := by
  obtain ⟨id, cells⟩ := r
  rw [get, if_neg (by simpa using hid), set, mk.injEq]
  refine ⟨rfl, ?_⟩
  induction cells with
  | nil => rfl
  | cons e cells ih =>
    rw [List.map_cons, List.nodup_cons] at hnames
    rw [List.map_cons, List.lookup_cons]
    by_cases heq : e.1 = column
    · subst heq
      rw [beq_self_eq_true, if_pos rfl]
      refine congrArg (e :: ·) ((List.map_congr_left fun d hd => if_neg ?_).trans (List.map_id _))
      simpa using fun heq => hnames.1 (List.mem_map.2 ⟨d, hd, heq⟩)
    · rw [if_neg (by simpa using heq), beq_false_of_ne (Ne.symm heq), ih hnames.2]

section

variable {s s' : Store} {kind : ConfigKind} {id : Value}

lemma activate_eq_false (h : (activate kind.part id).run.run s = (.ok false, s')) :
    s' = s.put kind.part ((s.table kind.part).mapRows (·.set "is_active" (.int 0))) := by
  obtain ⟨key, -, h⟩ := bind_eq_ok.1 (run_change_eq_ok.1 h)
  obtain ⟨hnone, rfl⟩ := Prod.mk.inj (Except.ok.inj h)
  have hrows := List.any_eq_false.1 hnone
  refine congrArg (s.put kind.part { s.table kind.part with rows := · }) ?_
  exact List.map_congr_left fun r hr => by rw [if_neg (hrows r hr)]

lemma active?_eq (s : Store) (part : Part) :
    s.active? part = Option.mapM (Record.ofRow part.layout)
      (falling "updated_at" ((s.table part).rows.filter (Row.marked "is_active"))).head? :=
  rfl

lemma active?_eq_none_iff {part : Part} :
    s.active? part = .ok none ↔ ∀ r ∈ (s.table part).rows, ¬r.marked "is_active" := by
  have hnil : falling "updated_at" ((s.table part).rows.filter (Row.marked "is_active")) = [] ↔
      ∀ r ∈ (s.table part).rows, ¬r.marked "is_active" := by
    rw [← List.length_eq_zero_iff, falling, List.length_mergeSort, List.length_eq_zero_iff,
      List.filter_eq_nil_iff]
  rw [active?_eq, ← hnil]
  cases falling "updated_at" ((s.table part).rows.filter (Row.marked "is_active")) with
  | nil => exact iff_of_true rfl rfl
  | cons r rows =>
    refine iff_of_false ?_ (List.cons_ne_nil r rows)
    cases hr : Record.ofRow part.layout r <;> simp [Option.mapM, Functor.map, Except.map, hr]

lemma switchOff_eq_self_iff (hsound : s.Sound) :
    s.put kind.part ((s.table kind.part).mapRows (·.set "is_active" (.int 0))) = s ↔
      ∀ r ∈ (s.table kind.part).rows, r.get "is_active" = .int 0 := by
  have hfits := hsound kind.part
  obtain ⟨hcolumn, -⟩ := Part.flag_column kind.flag?_part
  have hrow : ∀ r ∈ (s.table kind.part).rows,
      r.set "is_active" (.int 0) = r ↔ r.get "is_active" = .int 0 := by
    intro r hr
    constructor
    · intro hset
      rw [← hset]
      exact Row.get_set_self _ (by decide) (by rwa [hfits.filled r hr])
    · intro hzero
      rw [← hzero]
      refine Row.set_get (by decide) ?_
      rw [hfits.filled r hr]
      cases kind <;> decide
  constructor
  · intro heq r hr
    have hrows := congrArg (fun s : Store => (s.table kind.part).rows) heq
    rw [table_put_self] at hrows
    exact (hrow r hr).1 (List.map_inj_left.1 (hrows.trans (List.map_id _).symm) r hr)
  · intro hzero
    refine (congrArg (s.put kind.part { s.table kind.part with rows := · }) ?_).trans
      (put_table s kind.part)
    exact (List.map_congr_left fun r hr => (hrow r hr).2 (hzero r hr)).trans (List.map_id _)

/-- After a failed activation no configuration is active. The store is as it was exactly if all were
    switched off before; if none was active, the same is told about coverage. -/
theorem failed_activation_iff (hsound : s.Sound)
    (h : (activate kind.part id).run.run s = (.ok false, s')) :
    s'.active? kind.part = .ok none ∧
      (s' = s ↔ ∀ r ∈ (s.table kind.part).rows, r.get "is_active" = .int 0) ∧
      (s'.active? kind.part = s.active? kind.part ↔
        ∀ r ∈ (s.table kind.part).rows, ¬r.marked "is_active") ∧
      ((∀ r ∈ (s.table kind.part).rows, ¬r.marked "is_active") →
        ∀ needed, s'.coverage needed = s.coverage needed) := by
  have hs' := activate_eq_false h
  have hnone : s'.active? kind.part = .ok none := by
    rw [active?_eq_none_iff, hs', table_put_self]
    refine List.forall_mem_map.2 fun r hr => ?_
    rw [Row.marked, Row.get_set_self _ (by decide)]
    · decide
    · rw [(hsound kind.part).filled r hr]
      exact (Part.flag_column kind.flag?_part).1
  have hsame : s'.active? kind.part = s.active? kind.part ↔
      ∀ r ∈ (s.table kind.part).rows, ¬r.marked "is_active" := by
    rw [hnone, eq_comm, active?_eq_none_iff]
  refine ⟨hnone, hs' ▸ switchOff_eq_self_iff hsound, hsame, fun hno needed => ?_⟩
  have hactive (part : Part) : s'.active? part = s.active? part := by
    by_cases hpart : part = kind.part
    · exact hpart ▸ hsame.2 hno
    · rw [hs', active?, active?, table_put_of_ne _ _ _ hpart]
  rw [coverage, coverage, hactive, hactive]

end

/-- A store with one configuration of the sensors, which is active. -/
def oneSensor : Store :=
  Call.after (firstMinute 1)
    (.saveConfig .sensor [("name", .text "a"), ("is_active", .bool true)]) empty

theorem failed_activation_oneSensor : ∃ s',
    (activate ConfigKind.sensor.part (.int 7)).run.run oneSensor = (.ok false, s') ∧
      s'.active? .sensors = .ok none := by
  have hsound : oneSensor.Sound := Call.sound_after _ _ sound_empty
  have hrun : (activate ConfigKind.sensor.part (.int 7)).run.run oneSensor = (.ok false, _) := rfl
  exact ⟨_, hrun, (failed_activation_iff hsound hrun).1⟩

/-- A key that no configuration has: the active one is switched off. -/
theorem failed_activation_changes : ∃ s',
    (activate .sensors (.int 7)).run.run oneSensor = (.ok false, s') ∧ s' ≠ oneSensor := by
  refine ⟨_, rfl, fun h => ?_⟩
  have hmarks : [false] = [true] := congrArg (·.sensors.rows.map (·.marked "is_active")) h
  cases hmarks

end Huntbook.Store
