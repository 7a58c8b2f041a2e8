import Huntbook.Proofs.Calls

/-!
# References to profiles

Field names and conversions hold the key of a profile, a conversion possibly none. Nothing checks
such a key: neither when a row is written nor when the profile is deleted.

* `Store.along_intact_iff`: along a run from the first store every reference leads to a profile if
  and only if no call strands one, and then a new profile has no field names.
-/

namespace Huntbook.Store

open List

def profileKeys (s : Store) : List Int := s.profiles.rows.map (·.id)

def Known (s : Store) (c : Cell) : Prop := ∃ id ∈ s.profileKeys, c = .int id

def Knows (s : Store) (v : Value) : Prop := ∃ c, bound v = .ok c ∧ s.Known c.toNumber

def Tied (s : Store) (r : Row) : Part → Prop
  | .mappings => s.Known (r.get "profile_id")
  | .conversions => r.get "profile_id" = .null ∨ s.Known (r.get "profile_id")
  | _ => True

/-- Every reference leads to a profile. -/
def Intact (s : Store) : Prop := ∀ part, ∀ r ∈ (s.table part).rows, s.Tied r part

variable {s s' : Store} {part : Part} {now : Moment}

variable {c : Cell} {r : Row} {t : Table} {values : Fields} {id profile : Value}
  {given : List Fields}

lemma Known.mono (hkeys : s.profileKeys ⊆ s'.profileKeys) (h : s.Known c) : s'.Known c := by
  obtain ⟨id, hid, rfl⟩ := h
  exact ⟨id, hkeys hid, rfl⟩

lemma Tied.imp (h : s.Tied r part)
    (hknown : s.Known (r.get "profile_id") → s'.Known (r.get "profile_id")) : s'.Tied r part := by
  cases part with
  | mappings => exact hknown h
  | conversions => exact h.imp_right hknown
  | _ => trivial

lemma Tied.mono (hkeys : s.profileKeys ⊆ s'.profileKeys) (h : s.Tied r part) : s'.Tied r part :=
  h.imp (Known.mono hkeys)

lemma Tied.of_get {r' : Row} (hget : r'.get "profile_id" = r.get "profile_id")
    (h : s.Tied r part) : s.Tied r' part := by
  cases part with
  | mappings | conversions => simpa only [Tied, hget] using h
  | _ => trivial

/-! ## Tables with references -/

lemma profileKeys_put (s : Store) (h : part ≠ .profiles) (t : Table) :
    (s.put part t).profileKeys = s.profileKeys := by
  show ((s.put part t).table .profiles).rows.map _ = _
  rw [table_put_of_ne _ _ _ h.symm]
  rfl

lemma Intact.put_iff (h : s.Intact) (hpart : part ≠ .profiles) :
    (s.put part t).Intact ↔ ∀ r ∈ t.rows, s.Tied r part := by
  have hkeys := s.profileKeys_put hpart t
  constructor
  · intro hput r hr
    refine (hput part r ?_).mono (by rw [hkeys]; exact List.Subset.refl _)
    rwa [table_put_self]
  · intro ht other r hr
    refine Tied.mono (s := s) (by rw [hkeys]; exact List.Subset.refl _) ?_
    by_cases heq : other = part
    · subst heq
      rw [table_put_self] at hr
      exact ht r hr
    · rw [table_put_of_ne _ _ _ heq] at hr
      exact h other r hr

lemma Intact.erase (h : s.Intact) (hpart : part ≠ .profiles) (p : Row → Bool) :
    (s.put part ((s.table part).erase p).2).Intact :=
  (h.put_iff hpart).2 fun r hr => h part r (mem_of_mem_filter hr)

def Admits (s : Store) (v : Value) : Part → Prop
  | .mappings => s.Knows v
  | .conversions => bound v = .ok .null ∨ s.Knows v
  | _ => True

def Part.Referring (part : Part) : Prop := part = .mappings ∨ part = .conversions

lemma Part.Referring.column (h : part.Referring) :
    "profile_id" ∈ part.columnNames ∧ part.leaning "profile_id" = .number ∧
      part ≠ .profiles := by
  rcases h with rfl | rfl <;> decide

lemma tied_of_not_referring (h : ¬part.Referring) : s.Tied r part := by
  cases part with
  | mappings => exact absurd (.inl rfl) h
  | conversions => exact absurd (.inr rfl) h
  | _ => trivial

lemma Tied.known (hpart : part.Referring) (h : s.Tied r part)
    (hnull : r.get "profile_id" ≠ .null) : s.Known (r.get "profile_id") := by
  rcases hpart with rfl | rfl
  · exact h
  · exact h.resolve_left hnull

lemma wholeOr_ne_null (x : Float) : Cell.wholeOr x ≠ .null := by
  unfold Cell.wholeOr
  split
  · split <;> exact nofun
  · exact nofun

lemma toNumber_eq_null_iff : c.toNumber = .null ↔ c = .null := by
  cases c with
  | text s =>
    refine iff_of_false ?_ nofun
    show (Cell.number? s).getD (.text s) ≠ .null
    unfold Cell.number?
    dsimp only
    split
    · split
      · exact nofun
      · exact wholeOr_ne_null _
    · exact wholeOr_ne_null _
    · exact nofun
  | real x => exact iff_of_false (wholeOr_ne_null x) nofun
  | _ => exact Iff.rfl

lemma tied_iff_admits (hpart : part.Referring) {v : Value}
    (hc : bound v = .ok c) (hget : r.get "profile_id" = (part.leaning "profile_id").apply c) :
    s.Tied r part ↔ s.Admits v part := by
  rw [hpart.column.2.1] at hget
  rcases hpart with rfl | rfl
  · simp [Tied, Admits, Knows, hc, hget, Leaning.apply]
  · simp [Tied, Admits, Knows, hc, hget, Leaning.apply, toNumber_eq_null_iff]

section

variable {s s' : Store} (hsound : s.Sound) (hintact : s.Intact) {part : Part}
  (hpart : part.Referring) {now : Moment}

include hsound hintact hpart

lemma intact_add_iff {values : Fields} {id : Int} {v : Value}
    (hv : values.lookup "profile_id" = some v) (h : s.add part now values = .ok (id, s')) :
    s'.Intact ↔ s.Admits v part := by
  obtain ⟨row, rfl, -, -, hmade⟩ := add_made (hsound part) h
  obtain ⟨hcolumn, -, hne⟩ := hpart.column
  obtain ⟨c, hc, hcell⟩ := hmade.given _ hcolumn v hv
  rw [hintact.put_iff hne, ← tied_iff_admits hpart hc hcell]
  constructor
  · exact fun h => h row (mem_append_right _ (mem_singleton_self row))
  · intro hrow r hr
    rcases mem_append.1 hr with hr | hr
    · exact hintact part r hr
    · rwa [mem_singleton.1 hr]

omit hpart

lemma intact_modify_iff (given : Fields)
    (hnamed : Part.mappings.Named (given.map (·.1))) {id : Value} {n : Nat}
    (h : s.modify .mappings now (given.map (·.1)) (given.map (·.2) ++ [id]) = .ok (n, s')) :
    s'.Intact ↔ ¬((∃ v, given.reverse.lookup "profile_id" = some v ∧ ¬s.Knows v) ∧
      ∃ key, bound id = .ok key ∧ ∃ r ∈ s.mappings.rows, key.names r.id) := by
  have hpart : Part.mappings.Referring := .inl rfl
  obtain ⟨hcolumn, -, hne⟩ := hpart.column
  obtain ⟨key, renew, hkey, rfl, hid, hremade⟩ :=
    modify_made (hsound .mappings) (by decide) given hnamed h
  rw [hintact.put_iff hne]
  constructor
  · rintro hall ⟨⟨v, hv, hnot⟩, key', hkey', r, hr, hkeyr⟩
    cases hkey.symm.trans hkey'
    have htied := hall _ (mem_map_of_mem hr)
    rw [if_pos hkeyr] at htied
    obtain ⟨c, hc, hcell⟩ := (hremade r hr).given _ hcolumn (by decide) v hv
    exact hnot ((tied_iff_admits hpart hc hcell).1 htied)
  · intro hnot r' hr'
    obtain ⟨r, hr, rfl⟩ := mem_map.1 hr'
    split
    · rename_i hkeyr
      cases hlookup : given.reverse.lookup "profile_id" with
      | none =>
        exact (hintact .mappings r hr).of_get ((hremade r hr).kept _ hcolumn (by decide) hlookup)
      | some v =>
        obtain ⟨c, hc, hcell⟩ := (hremade r hr).given _ hcolumn (by decide) v hlookup
        by_contra htied
        rw [tied_iff_admits hpart hc hcell] at htied
        exact hnot ⟨⟨v, hlookup, htied⟩, key, hkey, r, hr, hkeyr⟩
    · exact hintact .mappings r hr

end

lemma Intact.of_add (hsound : s.Sound) (hpart : part ≠ .profiles)
    {id : Int} (hadd : s.add part now values = .ok (id, s')) (h : s'.Intact) : s.Intact := by
  obtain ⟨row, rfl, -⟩ := add_made (hsound part) hadd
  intro other r hr
  refine (h other r ?_).mono (by rw [s.profileKeys_put hpart]; exact List.Subset.refl _)
  by_cases heq : other = part
  · subst heq
    rw [table_put_self]
    exact mem_append_left _ hr
  · rwa [table_put_of_ne _ _ _ heq]

def importedProfile (profile : Value) (values : Fields) : Value :=
  ((⟨.mapping, values⟩ : Record).set "profile_id" profile).get "profile_id"

lemma intact_addAll_iff (hsound : s.Sound) (hintact : s.Intact)
    (h : given.foldlM (fun s values => (·.2) <$> s.add .mappings now
      (valuesOf ((⟨.mapping, values⟩ : Record).set "profile_id" profile) mappingColumns)) s
        = .ok s') : s'.Intact ↔ ∀ values ∈ given, s.Knows (importedProfile profile values) := by
  induction given generalizing s with
  | nil =>
    cases h
    exact iff_of_true hintact nofun
  | cons values given ih =>
    obtain ⟨s₁, hfirst, hrest⟩ := bind_eq_ok.1 h
    obtain ⟨id, hadd⟩ := snd_eq_ok.1 hfirst
    have hsound₁ := hsound.add hadd
    have hiff : s₁.Intact ↔ s.Knows (importedProfile profile values) :=
      intact_add_iff hsound hintact (.inl rfl) rfl hadd
    rw [forall_mem_cons]
    by_cases hknows : s.Knows (importedProfile profile values)
    · have hkeys : s₁.profileKeys = s.profileKeys := by
        obtain ⟨row, rfl, -⟩ := add_made (hsound .mappings) hadd
        exact s.profileKeys_put (by decide) _
      rw [ih hsound₁ (hiff.2 hknows) hrest, and_iff_right hknows]
      simp only [Knows, Known, hkeys]
    · refine iff_of_false ?_ fun hboth => hknows hboth.1
      -- What is added after a stranded row leaves it stranded.
      refine (foldlM_keeps (P := fun s => s.Sound ∧ ¬s.Intact) ?_ ⟨hsound₁, mt hiff.1 hknows⟩
        hrest).2
      rintro values - s s' ⟨hs, hnot⟩ hnext
      obtain ⟨id, hadd⟩ := snd_eq_ok.1 hnext
      exact ⟨hs.add hadd, mt (Intact.of_add hs (by decide) hadd) hnot⟩

lemma intact_replaceAll_iff (hsound : s.Sound) (hintact : s.Intact)
    (h : (Statement.replaceAll profile given).run now s = .ok s') :
    s'.Intact ↔ ∀ values ∈ given, s.Knows (importedProfile profile values) := by
  obtain ⟨key, -, hfold⟩ := bind_eq_ok.1 h
  have hne : Part.mappings ≠ .profiles := by decide
  rw [intact_addAll_iff (hsound.put ((hsound .mappings).erase _)) (hintact.erase hne _) hfold]
  simp only [Knows, Known, s.profileKeys_put hne]

/-! ## Profiles -/

lemma Intact.of_profiles (h : s.Intact) (hkeys : s.profileKeys ⊆ t.rows.map (·.id)) :
    (s.put .profiles t).Intact := by
  intro part r hr
  by_cases hpart : part = .profiles
  · subst hpart
    trivial
  · rw [table_put_of_ne _ _ _ hpart] at hr
    exact (h part r hr).mono hkeys

lemma intact_drop_iff (hintact : s.Intact) {found : Bool}
    (h : s.drop .profiles id = .ok (found, s')) :
    s'.Intact ↔ ¬∃ key, bound id = .ok key ∧ ∃ p ∈ s.profiles.rows, key.whole? = some p.id ∧
      ∃ part, part.Referring ∧ ∃ r ∈ (s.table part).rows, r.get "profile_id" = .int p.id := by
  obtain ⟨key, hkey, rfl⟩ := drop_eq_ok h
  constructor
  · rintro hafter ⟨key', hkey', p, hp, hwhole, part, hpart, r, hr, hget⟩
    cases hkey.symm.trans hkey'
    have htied := hafter part r (by rwa [table_put_of_ne _ _ _ hpart.column.2.2])
    obtain ⟨id, hid, heq⟩ := Tied.known hpart htied (by rw [hget]; exact nofun)
    cases hget.symm.trans heq
    obtain ⟨q, hq, hqid⟩ := mem_map.1 hid
    have hkept : (!(key.whole? == some q.id)) = true := (mem_filter.1 hq).2
    rw [hqid, hwhole] at hkept
    simp at hkept
  · intro hnot part r hr
    by_cases hpart : part.Referring
    · rw [table_put_of_ne _ _ _ hpart.column.2.2] at hr
      refine (hintact part r hr).imp fun ⟨id, hid, hget⟩ => ?_
      obtain ⟨p, hp, rfl⟩ := mem_map.1 hid
      refine ⟨p.id, mem_map_of_mem (mem_filter.2 ⟨hp, ?_⟩), hget⟩
      by_contra hwhole
      refine hnot ⟨key, hkey, p, hp, ?_, part, hpart, r, hr, hget⟩
      simpa using hwhole
    · exact tied_of_not_referring hpart

/-! ## Calls -/

/-- Whether a call that is carried out leaves a reference without a profile. Of one that changes
    columns by other names than theirs, only what comes out tells. -/
def Call.Strands (s s' : Store) : Call → Prop
  | .deleteProfile id => ∃ key, bound id = .ok key ∧
      ∃ p ∈ s.profiles.rows, key.whole? = some p.id ∧
        ∃ part, part.Referring ∧ ∃ r ∈ (s.table part).rows, r.get "profile_id" = .int p.id
  | .updateProfile _ (.map entries) => ¬Part.profiles.Named (entries.map (·.1.plain)) ∧ ¬s'.Intact
  | .createMapping values => ¬s.Knows ((⟨.mapping, values⟩ : Record).get "profile_id")
  | .updateMapping id (.map entries) =>
    if Part.mappings.Named (entries.map (·.1.plain)) then
      (∃ v, (entries.map fun e => (e.1.plain, e.2)).reverse.lookup "profile_id" = some v ∧
        ¬s.Knows v) ∧ ∃ key, bound id = .ok key ∧ ∃ r ∈ s.mappings.rows, key.names r.id
    else ¬s'.Intact
  | .importMappings profile given => ∃ values ∈ given, ¬s.Knows (importedProfile profile values)
  | .saveConversion values =>
    let profile := (⟨.conversion, values⟩ : Record).get "profile_id"
    bound profile ≠ .ok .null ∧ ¬s.Knows profile
  | _ => False

lemma Intact.of_run (h : s.Intact) {st : Statement} (hrun : st.run now s = .ok s')
    (hpart : st.part ≠ .profiles) (hnot : ¬st.part.Referring) : s'.Intact := by
  rw [Statement.run_eq_put hrun]
  exact (h.put_iff hpart).2 fun r _ => tied_of_not_referring hnot

lemma ConfigKind.not_referring (kind : ConfigKind) :
    kind.part ≠ .profiles ∧ ¬kind.part.Referring := by
  cases kind <;> exact ⟨by decide, by rintro (h | h) <;> cases h⟩

lemma Intact.drop (h : s.Intact) (hpart : part ≠ .profiles)
    (hrun : (Statement.drop part id).run now s = .ok s') : s'.Intact := by
  obtain ⟨found, hdrop⟩ := snd_eq_ok.1 hrun
  obtain ⟨key, -, rfl⟩ := drop_eq_ok hdrop
  exact h.erase hpart _

lemma Call.Does.intact_iff {c : Call} (hdoes : c.Does now s s') (hsound : s.Sound)
    (hintact : s.Intact) : s'.Intact ↔ ¬c.Strands s s' := by
  obtain ⟨st, hst, hrun⟩ := hdoes
  cases c with
  | createProfile values =>
    cases hst
    obtain ⟨id, hadd⟩ := snd_eq_ok.1 hrun
    obtain ⟨row, rfl, -⟩ := add_made (hsound .profiles) hadd
    refine iff_of_true (hintact.of_profiles ?_) not_false
    exact map_subset _ (subset_append_left _ _)
  | updateProfile id updates =>
    cases updates with
    | map entries =>
      cases hst
      rw [Strands, not_and_not_right]
      constructor
      · exact fun h _ => h
      · intro h
        by_cases hnamed : Part.profiles.Named (entries.map (·.1.plain))
        · obtain ⟨n, hmodify⟩ := snd_eq_ok.1 hrun
          obtain ⟨cells, key, -, -, -, rfl⟩ :=
            modify_eq_ok (hsound .profiles) (by decide) hnamed hmodify
          refine hintact.of_profiles fun id hid => ?_
          obtain ⟨p, hp, rfl⟩ := mem_map.1 hid
          refine mem_map.2 ⟨_, mem_map_of_mem hp, ?_⟩
          split
          · exact Part.id_assigned _ _ p
          · rfl
        · exact h hnamed
    | _ => cases hst
  | deleteProfile id =>
    cases hst
    obtain ⟨found, hdrop⟩ := snd_eq_ok.1 hrun
    exact intact_drop_iff hintact hdrop
  | createMapping values =>
    cases hst
    obtain ⟨id, hadd⟩ := snd_eq_ok.1 hrun
    exact (intact_add_iff hsound hintact (.inl rfl) rfl hadd).trans not_not.symm
  | updateMapping id updates =>
    cases updates with
    | map entries =>
      cases hst
      rw [Strands]
      split
      · rename_i hnamed
        obtain ⟨n, hmodify⟩ := snd_eq_ok.1 hrun
        exact intact_modify_iff hsound hintact (entries.map fun e => (e.1.plain, e.2))
          (by simpa [Function.comp_def] using hnamed) (by simpa [Function.comp_def] using hmodify)
      · exact not_not.symm
    | _ => cases hst
  | importMappings profile given =>
    cases hst
    rw [intact_replaceAll_iff hsound hintact hrun, Strands]
    simp
  | saveConversion values =>
    cases hst
    obtain ⟨id, hadd⟩ := snd_eq_ok.1 hrun
    refine (intact_add_iff hsound hintact (.inr rfl) rfl hadd).trans ?_
    rw [Strands, not_and_or, not_not, not_not]
    rfl
  | deleteMapping id | deleteConversion id =>
    cases hst
    exact iff_of_true (hintact.drop (by decide) hrun) not_false
  | deleteOld days =>
    cases hst
    obtain ⟨cell, -, hrun⟩ := bind_eq_ok.1 hrun
    cases hrun
    have hne : Part.conversions ≠ .profiles := by decide
    exact iff_of_true (hintact.erase hne _) not_false
  | saveConfig kind values =>
    obtain ⟨hne, hnot⟩ := kind.not_referring
    rw [← part_of_saveConfig hst] at hne hnot
    exact iff_of_true (hintact.of_run hrun hne hnot) not_false
  | activate kind id | deleteConfig kind id =>
    cases hst
    exact iff_of_true (hintact.of_run hrun kind.not_referring.1 kind.not_referring.2) not_false

/-! ## Runs -/

lemma intact_empty : empty.Intact := by
  intro part r hr
  cases part <;> cases hr

lemma Intact.addProfile (hsound : s.Sound) (hintact : s.Intact) {given : Fields}
    {fields : List (String × String × String)} (h : addProfile now s given fields = .ok s') :
    s'.Intact := by
  obtain ⟨id, s₁, hadd, hkeeps⟩ := addProfile_eq_ok h
  have hsound₁ := hsound.add hadd
  obtain ⟨row, rfl, hid, -, hmade⟩ := add_made (hsound .profiles) hadd
  refine (hkeeps (fun s => s.Sound ∧ s.Intact ∧ s.Known (.int id)) ⟨hsound₁, ?_, ?_⟩ ?_).2.1
  · exact hintact.of_profiles (map_subset _ (subset_append_left _ _))
  · refine ⟨id, ?_, rfl⟩
    rw [← hid]
    exact mem_map_of_mem (mem_append_right _ (mem_singleton_self row))
  · rintro s₁ s₂ values key ⟨hs₁, hs₁', hknown⟩ hprofile hadd
    obtain ⟨row', rfl, -, -, hmade'⟩ := add_made (hs₁ .mappings) hadd
    obtain ⟨c, hc, -⟩ := hmade'.given "profile_id" (by decide) _ hprofile
    have hknows : s₁.Knows (.int id) := ⟨c, hc, by rwa [eq_of_bound_int hc]⟩
    refine ⟨hs₁.add hadd, (intact_add_iff hs₁ hs₁' (.inl rfl) hprofile hadd).2 hknows, ?_⟩
    have hne : Part.mappings ≠ .profiles := by decide
    rwa [Known, profileKeys_put _ hne]

lemma intact_seeded (now : Moment) : (seeded now).Intact := by
  rcases seeded_cases now with heq | ⟨given, fields, given', fields', s₁, hfirst, hsecond, -⟩
  · rw [heq]
    exact intact_empty
  · exact (intact_empty.addProfile sound_empty hfirst).addProfile
      (sound_empty.addProfile hfirst) hsecond

lemma mappingRows_createProfile (hsound : s.Sound) (hintact : s.Intact) {id : Int}
    (hnew : id ∈ ((Call.createProfile values).after now s).profileKeys)
    (hold : id ∉ s.profileKeys) :
    ((Call.createProfile values).after now s).mappingRows (.int id) = [] := by
  rcases (Call.createProfile values).after_cases now s with ⟨st, hst, hrun⟩ | ⟨-, heq⟩
  · cases hst
    obtain ⟨key, hadd⟩ := snd_eq_ok.1 hrun
    obtain ⟨row, heq, -⟩ := add_made (hsound .profiles) hadd
    rw [heq]
    refine filter_eq_nil_iff.2 fun r hr => ?_
    obtain ⟨id', hid', hget⟩ := hintact .mappings r hr
    rw [hget]
    simp only [Cell.toNumber, Cell.equals, Cell.less, Cell.isNull]
    rintro h
    refine hold ?_
    have heq : id' = id := by
      simp at h
      omega
    rwa [← heq]
  · rw [heq] at hnew
    exact absurd hnew hold

/-- Along a run from the first store every reference leads to a profile if and only if no call that
    is carried out strands one. A profile that is new in such a run has no field names. -/
theorem along_intact_iff (start : Moment) (calls : List (Moment × Call)) :
    (Along Intact (seeded start) calls ↔ ∀ done e rest, calls = done ++ e :: rest →
      ∀ s', e.2.Does e.1 ((seeded start).afterAll done) s' →
        ¬e.2.Strands ((seeded start).afterAll done) s') ∧
    (Along Intact (seeded start) calls → ∀ done now values rest,
      calls = done ++ (now, .createProfile values) :: rest →
      let s := (seeded start).afterAll done
      let s' := (Call.createProfile values).after now s
      ∀ id ∈ s'.profileKeys, id ∉ s.profileKeys → s'.mappingRows (.int id) = []) := by
  refine ⟨along_iff (sound_seeded start) (intact_seeded start) Call.Does.intact_iff calls, ?_⟩
  intro h done now values rest heq s s' id hnew hold
  exact mappingRows_createProfile ((sound_seeded start).afterAll done) (h done _ heq) hnew hold

/-- The field names of the first profile stay when it is deleted. -/
theorem not_along_intact_deleteProfile : ¬Along Intact (seeded (firstMinute 0))
    [(firstMinute 1, .deleteProfile (.int 1))] := by
  intro h
  have hintact := h _ [] (append_nil _).symm
  have hkeys : ((seeded (firstMinute 0)).afterAll
    [(firstMinute 1, .deleteProfile (.int 1))]).profileKeys = [2] := by decide +kernel
  have hrow : (((seeded (firstMinute 0)).afterAll
    [(firstMinute 1, .deleteProfile (.int 1))]).mappings.rows.any fun r =>
      (r.get "profile_id").whole? == some 1) = true := by decide +kernel
  generalize (seeded (firstMinute 0)).afterAll _ = s at hintact hkeys hrow
  obtain ⟨r, hr, hwhole⟩ := any_eq_true.1 hrow
  obtain ⟨id, hid, hget⟩ := hintact .mappings r hr
  rw [hkeys, mem_singleton] at hid
  rw [hget, hid] at hwhole
  exact absurd hwhole (by decide)

end Huntbook.Store
