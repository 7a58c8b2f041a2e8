import Huntbook.Proofs.Changes
import Huntbook.Proofs.Converted

/-!
# Calls of the store

The calls that change the store, with what is given for them, and runs of such calls. A call either
fails and leaves the store as it was, or carries out what `Call.Does` says.

* `Store.Call.atomic_iff`: when a call that fails leaves the store as it was.
-/

namespace Huntbook

namespace Store

variable {st : Statement} {now : Moment}

/-! ## Calls -/

/-- The kinds of configurations. -/
inductive ConfigKind
  | sensor | audit
  deriving DecidableEq

/-- The table of the configurations of a kind. -/
def ConfigKind.part : ConfigKind → Part
  | .sensor => .sensors
  | .audit => .audits

/-- A call that changes the store. A record is given by the values of its fields. -/
inductive Call
  | createProfile (values : Fields)
  | updateProfile (id updates : Value)
  | deleteProfile (id : Value)
  | createMapping (values : Fields)
  | updateMapping (id updates : Value)
  | deleteMapping (id : Value)
  | importMappings (profile : Value) (given : List Fields)
  | saveConversion (values : Fields)
  | deleteConversion (id : Value)
  | deleteOld (days : Value)
  | saveConfig (kind : ConfigKind) (values : Fields)
  | activate (kind : ConfigKind) (id : Value)
  | deleteConfig (kind : ConfigKind) (id : Value)

namespace Call

def work (now : Moment) : Call → Work Unit
  | .createProfile values => discard (Store.createProfile now ⟨.profile, values⟩)
  | .updateProfile id updates => discard (Store.updateProfile now id updates)
  | .deleteProfile id => discard (Store.deleteProfile id)
  | .createMapping values => discard (Store.createMapping now ⟨.mapping, values⟩)
  | .updateMapping id updates => discard (Store.updateMapping now id updates)
  | .deleteMapping id => discard (Store.deleteMapping id)
  | .importMappings profile given =>
    discard (Store.importMappings now profile (given.map (⟨.mapping, ·⟩)))
  | .saveConversion values => discard (Store.saveConversion now ⟨.conversion, values⟩)
  | .deleteConversion id => discard (Store.deleteConversion id)
  | .deleteOld days => discard (Store.deleteOld now days)
  | .saveConfig kind values => discard (Store.saveConfig kind.part now ⟨kind.part.layout, values⟩)
  | .activate kind id => discard (Store.activate kind.part id)
  | .deleteConfig kind id => discard (Work.change fun s => s.drop kind.part id)

end Call

inductive Statement
  | add (part : Part) (values : Fields)
  | modify (part : Part) (columns : Texts) (values : List Value)
  | drop (part : Part) (id : Value)
  | replaceAll (profile : Value) (given : List Fields)
  | dropOld (days : Value)
  | activate (part : Part) (id : Value)

def outdated (now : Moment) (days : Cell) (r : Row) : Bool :=
  match (daysBefore? now days).map fun i => Cell.text i.stampText with
  | some limit => !(r.get "created_at").isNull && (r.get "created_at").less limit
  | none => false

/-- The store after a statement. -/
def Statement.run (now : Moment) (s : Store) : Statement → Except Error Store
  | .add part values => (·.2) <$> s.add part now values
  | .modify part columns values => (·.2) <$> s.modify part now columns values
  | .drop part id => (·.2) <$> s.drop part id
  | .replaceAll profile given => do
    let key ← bound profile
    given.foldlM (fun s values => (·.2) <$> s.add .mappings now
        (valuesOf ((⟨.mapping, values⟩ : Record).set "profile_id" profile) mappingColumns))
      (s.put .mappings (s.mappings.erase fun r => (r.get "profile_id").equals key.toNumber).2)
  | .dropOld days => do
    let cell ← bound days
    return s.put .conversions (s.conversions.erase (outdated now cell)).2
  | .activate part id => do
    let key ← bound id
    return s.put part ((s.table part).mapRows fun r =>
      r.set "is_active" (.int (if key.whole? == some r.id then 1 else 0)))

namespace Call

def statement? : Call → Option Statement
  | .createProfile values => some (.add .profiles (valuesOf ⟨.profile, values⟩ profileColumns))
  | .updateProfile id (.map entries) =>
    some (.modify .profiles (entries.map (·.1.plain)) (entries.map (·.2) ++ [id]))
  | .updateProfile _ _ => none
  | .deleteProfile id => some (.drop .profiles id)
  | .createMapping values => some (.add .mappings (valuesOf ⟨.mapping, values⟩ mappingColumns))
  | .updateMapping id (.map entries) =>
    some (.modify .mappings (entries.map (·.1.plain)) (entries.map (·.2) ++ [id]))
  | .updateMapping _ _ => none
  | .deleteMapping id => some (.drop .mappings id)
  | .importMappings profile given => some (.replaceAll profile given)
  | .saveConversion values =>
    some (.add .conversions (valuesOf ⟨.conversion, values⟩ conversionColumns))
  | .deleteConversion id => some (.drop .conversions id)
  | .deleteOld days => some (.dropOld days)
  | .saveConfig kind values =>
    let r : Record := ⟨kind.part.layout, values⟩
    let values := valuesOf r (configColumns kind.part)
    if (r.get "id").truthy then
      some (.modify kind.part (configColumns kind.part) (values.map (·.2) ++ [r.get "id"]))
    else some (.add kind.part values)
  | .activate kind id => some (.activate kind.part id)
  | .deleteConfig kind id => some (.drop kind.part id)

/-- What is read after a call, and fails if it cannot be read: the row of a call that changes
    columns by their names. -/
def readBack (s : Store) : Call → Try Unit
  | .updateProfile id _ => discard (s.found? .profiles id)
  | .updateMapping id _ => discard (s.found? .mappings id)
  | _ => .ok ()

/-- The store after a call is carried out. -/
def Does (now : Moment) (s : Store) (c : Call) (s' : Store) : Prop :=
  ∃ st, c.statement? = some st ∧ st.run now s = .ok s'

def Runs (now : Moment) (s : Store) (c : Call) : Prop :=
  (∃ s', c.Does now s s' ∧ (c.work now).run.run s = (c.readBack s', s')) ∨
    (∀ s', ¬c.Does now s s') ∧ ∃ e, (c.work now).run.run s = (.error e, s)

section

variable {now : Moment} {s : Store} {c : Call} {α : Type}

lemma names_valuesOf (r : Record) (fields : Texts) :
    (valuesOf r fields).map (·.1) = fields := by
  rw [valuesOf, List.map_map]
  exact List.map_id fields

lemma run_discard (w : Work α) :
    (discard w : Work Unit).run.run s = match w.run.run s with
      | (.ok _, s') => (.ok (), s')
      | (.error e, s') => (.error e, s') := by
  show (ExceptT.map _ w).run.run s = _
  simp only [ExceptT.map, ExceptT.run, ExceptT.mk, StateT.run, bind, StateT.bind]
  rcases w s with ⟨_ | _, _⟩ <;> rfl

lemma run_ask (f : Store → Try α) : (Work.ask f).run.run s = (f s, s) := by
  have hget : (get : Work Store).run.run s = (.ok s, s) := rfl
  rw [Work.ask, run_bind, hget]
  dsimp only
  cases f s <;> rfl

lemma discard_addRecord (part : Part) (fields : Texts) (r : Record) :
    (discard (addRecord part now fields r) : Work Unit) =
      discard (Work.change fun s => s.add part now (valuesOf r fields)) := by
  simp [addRecord, discard, Functor.discard, map_const]

lemma runs_of_change {f : Store → Except Error (α × Store)} {st : Statement}
    (hstatement : c.statement? = some st) (hrun : st.run now s = (·.2) <$> f s)
    (hwork : c.work now = discard (Work.change f)) (hback : ∀ s', c.readBack s' = .ok ()) :
    c.Runs now s := by
  rw [Runs, hwork, run_discard, run_change]
  cases h : f s with
  | error e =>
    refine .inr ⟨?_, .store e, rfl⟩
    rintro s' ⟨st', hst', hs'⟩
    cases hstatement.symm.trans hst'
    rw [hrun, h] at hs'
    cases hs'
  | ok r =>
    refine .inl ⟨r.2, ⟨st, hstatement, ?_⟩, ?_⟩
    · rw [hrun, h]
      rfl
    · rw [hback]

lemma runs_of_update {part : Part} {id updates : Value}
    (hstatement : c.statement? = match updates with
      | .map entries => some (.modify part (entries.map (·.1.plain)) (entries.map (·.2) ++ [id]))
      | _ => none)
    (hwork : c.work now = discard (updateRecord part now id updates))
    (hback : ∀ s', c.readBack s' = discard (s'.found? part id)) : c.Runs now s := by
  rw [Runs, hwork, run_discard]
  cases updates with
  | map entries =>
    rw [updateRecord, run_bind, run_change]
    cases h : s.modify part now (entries.map (·.1.plain)) (entries.map (·.2) ++ [id]) with
    | error e =>
      refine .inr ⟨?_, .store e, rfl⟩
      rintro s' ⟨st', hst', hs'⟩
      cases hstatement.symm.trans hst'
      rw [Statement.run, h] at hs'
      cases hs'
    | ok r =>
      refine .inl ⟨r.2, ⟨_, hstatement, ?_⟩, ?_⟩
      · rw [Statement.run, h]
        rfl
      · rw [hback]
        dsimp only
        rw [run_ask]
        cases r.2.found? part id <;> rfl
  | _ =>
    refine .inr ⟨?_, _, rfl⟩
    rintro s' ⟨st', hst', -⟩
    cases hstatement.symm.trans hst'

end

lemma runs (now : Moment) (s : Store) (c : Call) : c.Runs now s := by
  cases c with
  | createProfile values => exact runs_of_change rfl rfl (discard_addRecord _ _ _) fun _ => rfl
  | updateProfile id updates =>
    refine runs_of_update ?_ rfl fun _ => rfl
    cases updates <;> rfl
  | deleteProfile id => exact runs_of_change rfl rfl rfl fun _ => rfl
  | createMapping values => exact runs_of_change rfl rfl (discard_addRecord _ _ _) fun _ => rfl
  | updateMapping id updates =>
    refine runs_of_update ?_ rfl fun _ => rfl
    cases updates <;> rfl
  | deleteMapping id => exact runs_of_change rfl rfl rfl fun _ => rfl
  | importMappings profile given =>
    refine runs_of_change rfl ?_ rfl fun _ => rfl
    rw [Statement.run]
    cases bound profile with
    | error e => rfl
    | ok key => simp [List.foldlM_map]
  | saveConversion values => exact runs_of_change rfl rfl (discard_addRecord _ _ _) fun _ => rfl
  | deleteConversion id => exact runs_of_change rfl rfl rfl fun _ => rfl
  | deleteOld days =>
    refine runs_of_change rfl ?_ rfl fun _ => rfl
    rw [Statement.run]
    cases bound days <;> rfl
  | saveConfig kind values =>
    by_cases h : ((⟨kind.part.layout, values⟩ : Record).get "id").truthy
    · refine runs_of_change (f := fun s => s.modify kind.part now (configColumns kind.part) _)
        (if_pos h) rfl ?_ fun _ => rfl
      rw [work, Store.saveConfig, if_pos h]
      dsimp only
      rw [names_valuesOf]
      simp [discard, Functor.discard, map_const]
    · refine runs_of_change (f := fun s => s.add kind.part now _) (if_neg h) rfl ?_ fun _ => rfl
      rw [work, Store.saveConfig, if_neg h]
      exact discard_addRecord _ _ _
  | activate kind id =>
    refine runs_of_change rfl ?_ rfl fun _ => rfl
    rw [Statement.run]
    cases bound id <;> rfl
  | deleteConfig kind id => exact runs_of_change rfl rfl rfl fun _ => rfl

end Call

/-! ## Statements keep the tables -/

variable {s' s : Store}

lemma snd_eq_ok {α : Type} {x : Except Error (α × Store)} :
    (·.2) <$> x = .ok s' ↔ ∃ a, x = .ok (a, s') := by
  rcases x with e | ⟨a, s⟩
  · constructor
    · intro h
      cases h
    · rintro ⟨a, h⟩
      cases h
  · constructor
    · intro h
      cases h
      exact ⟨a, rfl⟩
    · rintro ⟨a', h⟩
      cases h
      rfl

lemma drop_eq_ok {part : Part} {id : Value} {found : Bool}
    (h : s.drop part id = .ok (found, s')) : ∃ key, bound id = .ok key ∧
      s' = s.put part ((s.table part).erase fun r => key.whole? == some r.id).2 := by
  obtain ⟨key, hkey, h⟩ := bind_eq_ok.1 h
  cases h
  exact ⟨key, hkey, rfl⟩

/-- The table that a statement is about. -/
def Statement.part : Statement → Part
  | .add part _ | .modify part _ _ | .drop part _ | .activate part _ => part
  | .replaceAll _ _ => .mappings
  | .dropOld _ => .conversions

lemma Call.statement?_saveConfig (kind : ConfigKind) (values : Fields) :
    (saveConfig kind values).statement? =
      let r : Record := ⟨kind.part.layout, values⟩
      let given := valuesOf r (configColumns kind.part)
      some (if (r.get "id").truthy then
        .modify kind.part (given.map (·.1)) (given.map (·.2) ++ [r.get "id"])
      else .add kind.part given) := by
  dsimp only
  rw [names_valuesOf, statement?]
  split <;> rfl

lemma Call.part_of_saveConfig {kind : ConfigKind} {values : Fields}
    (h : (saveConfig kind values).statement? = some st) : st.part = kind.part := by
  rw [Option.some.inj (h.symm.trans (statement?_saveConfig kind values))]
  split <;> rfl

lemma Statement.run_eq_put (h : st.run now s = .ok s') :
    s' = s.put st.part (s'.table st.part) := by
  cases st with
  | add part values =>
    obtain ⟨id, hadd⟩ := snd_eq_ok.1 h
    obtain ⟨cells, -, -, rfl⟩ := add_eq_ok hadd
    rw [Statement.part, table_put_self]
  | modify part columns values =>
    obtain ⟨n, hmodify⟩ := snd_eq_ok.1 h
    obtain ⟨change, -, hmodify⟩ := bind_eq_ok.1 hmodify
    obtain ⟨⟨n, t⟩, -, hmodify⟩ := bind_eq_ok.1 hmodify
    cases hmodify
    rw [Statement.part, table_put_self]
  | drop part id =>
    obtain ⟨found, hdrop⟩ := snd_eq_ok.1 h
    obtain ⟨key, -, rfl⟩ := drop_eq_ok hdrop
    rw [Statement.part, table_put_self]
  | replaceAll profile given =>
    obtain ⟨key, -, hfold⟩ := bind_eq_ok.1 h
    refine foldlM_keeps (P := fun s' => s' = s.put .mappings (s'.table .mappings))
      (fun values _ s₁ s₂ hs₁ hadd => ?_) (by rw [table_put_self]) hfold
    obtain ⟨id, hadd⟩ := snd_eq_ok.1 hadd
    obtain ⟨cells, -, -, rfl⟩ := add_eq_ok hadd
    rw [table_put_self, ← put_put s .mappings (s₁.table .mappings), ← hs₁]
  | dropOld days =>
    obtain ⟨cell, -, h⟩ := bind_eq_ok.1 h
    cases h
    rw [Statement.part, table_put_self]
  | activate part id =>
    obtain ⟨key, -, h⟩ := bind_eq_ok.1 h
    cases h
    rw [Statement.part, table_put_self]

lemma Sound.run (h : s.Sound) (hrun : st.run now s = .ok s') : s'.Sound := by
  cases st with
  | add part values =>
    obtain ⟨id, hadd⟩ := snd_eq_ok.1 hrun
    exact h.add hadd
  | modify part columns values =>
    obtain ⟨n, hmodify⟩ := snd_eq_ok.1 hrun
    exact h.modify hmodify
  | drop part id =>
    obtain ⟨found, hdrop⟩ := snd_eq_ok.1 hrun
    obtain ⟨key, -, rfl⟩ := drop_eq_ok hdrop
    exact h.put ((h part).erase _)
  | replaceAll profile given =>
    obtain ⟨key, -, hfold⟩ := bind_eq_ok.1 hrun
    refine foldlM_keeps (fun values _ s s' hs hadd => ?_) (h.put ((h .mappings).erase _)) hfold
    obtain ⟨id, hadd⟩ := snd_eq_ok.1 hadd
    exact hs.add hadd
  | dropOld days =>
    obtain ⟨cell, -, hrun⟩ := bind_eq_ok.1 hrun
    cases hrun
    exact h.put ((h .conversions).erase _)
  | activate part id =>
    obtain ⟨key, -, hrun⟩ := bind_eq_ok.1 hrun
    cases hrun
    exact h.put ((h part).map (fun r => rfl) fun r => r.names_set _ _)

/-! ## The store at the start -/

variable {given : Fields} {fields : List (String × String × String)}

lemma addProfile_eq_ok (h : addProfile now s given fields = .ok s') :
    ∃ id s₁, s.add .profiles now given = .ok (id, s₁) ∧ ∀ P : Store → Prop, P s₁ →
      (∀ s₁ s₂ values key, P s₁ → values.lookup "profile_id" = some (.int id) →
        s₁.add .mappings now values = .ok (key, s₂) → P s₂) → P s' := by
  obtain ⟨⟨id, s₁⟩, hadd, hfold⟩ := bind_eq_ok.1 h
  refine ⟨id, s₁, hadd, fun P hP hstep => foldlM_keeps (fun field _ b b' hb hb' => ?_) hP hfold⟩
  obtain ⟨⟨key, b₁⟩, hadd, hb'⟩ := bind_eq_ok.1 hb'
  cases hb'
  exact hstep b b₁ _ key hb rfl hadd

lemma Sound.addProfile (h : s.Sound) (hadd : addProfile now s given fields = .ok s') :
    s'.Sound := by
  obtain ⟨id, s₁, hfirst, hkeeps⟩ := addProfile_eq_ok hadd
  exact hkeeps Sound (h.add hfirst) fun s₁ s₂ values key hs₁ _ hadd => hs₁.add hadd

lemma seeded_cases (now : Moment) : seeded now = empty ∨ ∃ given fields given' fields' s₁,
    addProfile now empty given fields = .ok s₁ ∧
      addProfile now s₁ given' fields' = .ok (seeded now) ∧
      given.lookup "is_default" = some (.int 1) ∧ given'.lookup "is_default" = some (.int 0) := by
  unfold seeded
  split
  · rename_i s h
    obtain ⟨s₁, hfirst, hsecond⟩ := bind_eq_ok.1 h
    exact .inr ⟨_, _, _, _, s₁, hfirst, hsecond, rfl, rfl⟩
  · exact .inl rfl

lemma sound_seeded (now : Moment) : (seeded now).Sound := by
  rcases seeded_cases now with heq | ⟨given, fields, given', fields', s₁, hfirst, hsecond, -⟩
  · rw [heq]
    exact sound_empty
  · exact (sound_empty.addProfile hfirst).addProfile hsecond

/-! ## Runs of calls -/

/-- A second of the first minute of a year. -/
def firstMinute (second : Nat) : Moment := ⟨⟨2024, 1, 1⟩, 0, 0, second, 0, none⟩

namespace Call

def after (now : Moment) (c : Call) (s : Store) : Store := ((c.work now).run.run s).2

lemma after_cases (now : Moment) (c : Call) (s : Store) :
    c.Does now s (c.after now s) ∨ (∀ s', ¬c.Does now s s') ∧ c.after now s = s := by
  rcases c.runs now s with ⟨s', hdoes, hrun⟩ | ⟨hnot, e, hrun⟩
  · exact .inl (by rwa [after, hrun])
  · exact .inr ⟨hnot, by rw [after, hrun]⟩

lemma Does.eq {now : Moment} {c : Call} {s s₁ s₂ : Store} (h₁ : c.Does now s s₁)
    (h₂ : c.Does now s s₂) : s₁ = s₂ := by
  obtain ⟨st₁, hst₁, hrun₁⟩ := h₁
  obtain ⟨st₂, hst₂, hrun₂⟩ := h₂
  cases hst₁.symm.trans hst₂
  exact Except.ok.inj (hrun₁.symm.trans hrun₂)

lemma Does.sound {now : Moment} {c : Call} {s s' : Store} (h : c.Does now s s')
    (hs : s.Sound) : s'.Sound := by
  obtain ⟨st, -, hrun⟩ := h
  exact hs.run hrun

lemma sound_after (now : Moment) (c : Call) {s : Store} (h : s.Sound) :
    (c.after now s).Sound := by
  rcases c.after_cases now s with hdoes | ⟨-, heq⟩
  · exact hdoes.sound h
  · rwa [heq]

end Call

/-- The store after calls at some moments, one after the other. -/
def afterAll (s : Store) (calls : List (Moment × Call)) : Store :=
  calls.foldl (fun s e => e.2.after e.1 s) s

lemma Sound.afterAll (h : s.Sound) (calls : List (Moment × Call)) : (s.afterAll calls).Sound := by
  induction calls generalizing s with
  | nil => exact h
  | cons e calls ih => exact ih (e.2.sound_after e.1 h)

/-- What holds in every state of a run, the first and the last one among them. -/
def Along (I : Store → Prop) (s : Store) (calls : List (Moment × Call)) : Prop :=
  ∀ done rest, calls = done ++ rest → I (s.afterAll done)

lemma forall_foldl_iff {σ α : Type} {step : σ → α → σ} {J I : σ → Prop} {B : σ → α → Prop} {s : σ}
    (hkeep : ∀ s a, J s → J (step s a)) (hstep : ∀ s a, J s → I s → (I (step s a) ↔ ¬B s a))
    (hJ : J s) (hI : I s) (run : List α) :
    (∀ done rest, run = done ++ rest → I (done.foldl step s)) ↔
      ∀ done a rest, run = done ++ a :: rest → ¬B (done.foldl step s) a := by
  have hall (done : List α) : J (done.foldl step s) :=
    List.foldlRecOn done step hJ fun s hs a _ => hkeep s a hs
  constructor
  · intro h done a rest heq
    have hnext := h (done ++ [a]) rest (by simp [heq])
    rw [List.foldl_append] at hnext
    exact (hstep _ a (hall done) (h done (a :: rest) heq)).1 hnext
  · intro h done
    -- The states of a run come one after the other, so the induction is on the end of the run.
    induction done using List.reverseRecOn with
    | nil => exact fun _ _ => hI
    | append_singleton done a ih =>
      intro rest heq
      rw [List.append_assoc, List.singleton_append] at heq
      rw [List.foldl_append]
      exact (hstep _ a (hall done) (ih _ heq)).2 (h done a rest heq)

lemma along_iff {I : Store → Prop} {Breaks : Store → Store → Call → Prop} (hsound : s.Sound)
    (hstart : I s)
    (hstep : ∀ {now s s' c}, Call.Does now s c s' → s.Sound → I s → (I s' ↔ ¬Breaks s s' c))
    (calls : List (Moment × Call)) : Along I s calls ↔
      ∀ done e rest, calls = done ++ e :: rest → ∀ s', e.2.Does e.1 (s.afterAll done) s' →
        ¬Breaks (s.afterAll done) s' e.2 := by
  refine (forall_foldl_iff (B := fun s e => ∃ s', e.2.Does e.1 s s' ∧ Breaks s s' e.2)
    (fun s e => e.2.sound_after e.1) (fun s e hs hI => ?_) hsound hstart calls).trans (by simp [afterAll])
  rcases e.2.after_cases e.1 s with hdoes | ⟨hnot, hsame⟩
  · refine (hstep hdoes hs hI).trans (not_congr ⟨fun h => ⟨_, hdoes, h⟩, ?_⟩)
    rintro ⟨s', hdoes', h⟩
    rwa [← hdoes'.eq hdoes]
  · rw [hsame]
    exact iff_of_true hI fun h => hnot _ h.choose_spec.1

/-! ## Failing calls -/

end Store

def Role.Admits (v : Value) : Role → Prop
  | .choice _ options => v.truthy → ∃ s ∈ options, v = .text s
  | .stamp => v.truthy → ∃ s t, v = .text s ∧ Moment.ofIso s = .ok t
  | _ => True

/-- A row whose cells stand for something in every field. -/
def Layout.Legible (layout : Layout) (row : Store.Row) : Prop :=
  ∀ f ∈ layout.fields, f.2.Admits (row.value f.1)

namespace Record

lemma readStamp_succeeds_iff {v : Value} : Succeeds (readStamp v) ↔ Role.stamp.Admits v := by
  unfold readStamp Role.Admits Succeeds
  by_cases htruthy : v.truthy
  · cases v with
    | text s =>
      cases h : Moment.ofIso s with
      | ok t => simp [htruthy, h]
      | error e => cases e <;> simp [htruthy, h]
    | _ => simp [htruthy]
  · simp [htruthy]

lemma readField_succeeds_iff {v : Value} {role : Role} :
    Succeeds (readField v role) ↔ role.Admits v := by
  cases role with
  | choice word options =>
    unfold readField Role.Admits Succeeds
    by_cases htruthy : v.truthy
    · cases v with
      | text s => by_cases hs : s ∈ options <;> simp [htruthy, hs, Value.text?]
      | _ => simp [htruthy, Value.text?]
    · simp [htruthy]
  | stamp => exact readStamp_succeeds_iff
  | _ => exact ⟨fun _ => trivial, fun _ => ⟨_, rfl⟩⟩

lemma ofRow_succeeds_iff {layout : Layout} {row : Store.Row} :
    Succeeds (ofRow layout row) ↔ layout.Legible row := by
  rw [ofRow, Succeeds.bind_pure_iff, Succeeds.mapM_iff]
  refine forall₂_congr fun f _ => ?_
  rw [Succeeds.bind_pure_iff]
  exact readField_succeeds_iff

end Record

namespace Store

variable {s : Store} {part : Part}

lemma bound_succeeds {values : List Value} {id : Value}
    (h : Succeeds (Cell.ofValues (values ++ [id]))) : Succeeds (bound id) := by
  obtain ⟨c, hc⟩ := Succeeds.mapM_iff.1 h (id, values.length) (by simp [List.zipIdx_append])
  exact ⟨c, bound_of_ofValue hc⟩

lemma rowsOf_int {id : Int} (h : bound (.int id) = .ok (.int id)) :
    s.rowsOf part (.int id) = .ok ((s.table part).rows.filter (·.id == id)) := by
  rw [rowsOf, h]
  rfl

lemma found?_of_mem (hrising : (s.table part).rows.Pairwise (·.id < ·.id)) {row : Row}
    (hrow : row ∈ (s.table part).rows) (hid : bound (.int row.id) = .ok (.int row.id)) :
    s.found? part (.int row.id) = some <$> Record.ofRow part.layout row := by
  have hmem : row ∈ (s.table part).rows.filter (·.id == row.id) :=
    List.mem_filter.2 ⟨hrow, beq_self_eq_true _⟩
  rw [found?, rowsOf_int hid, ok_bind]
  cases hfound : (s.table part).rows.filter (·.id == row.id) with
  | nil =>
    rw [hfound] at hmem
    cases hmem
  | cons first rest =>
    obtain ⟨hfirst, hkey⟩ := List.mem_filter.1 (hfound ▸ List.mem_cons_self : first ∈ _)
    rw [Table.eq_of_id_eq hrising hfirst hrow (eq_of_beq hkey)]
    rfl

lemma found?_of_not_mem {id : Int} (hid : bound (.int id) = .ok (.int id))
    (h : ∀ r ∈ (s.table part).rows, r.id ≠ id) : s.found? part (.int id) = .ok none := by
  rw [found?, rowsOf_int hid, ok_bind, List.filter_eq_nil_iff.2 (by simpa using h)]
  rfl

lemma found?_succeeds_iff {id : Value} :
    Succeeds (s.found? part id) ↔ Succeeds (s.rowsOf part id) ∧
      ∀ row rest, s.rowsOf part id = .ok (row :: rest) → part.layout.Legible row := by
  unfold found?
  cases h : s.rowsOf part id with
  | error e => simp [Succeeds, bind, Except.bind]
  | ok rows =>
    rw [ok_bind]
    cases rows with
    | nil => simp [Succeeds, pure, Except.pure]
    | cons row rest =>
      rw [Succeeds.bind_pure_iff, Record.ofRow_succeeds_iff]
      simp [Succeeds]

namespace Call

/-- The table, the key and the columns of a call that changes columns by their names. -/
def update? : Call → Option (Part × Value × Entries)
  | .updateProfile id (.map entries) => some (.profiles, id, entries)
  | .updateMapping id (.map entries) => some (.mappings, id, entries)
  | _ => none

section

variable {c : Call} {part : Part} {id : Value} {entries : Entries}
  (h : c.update? = some (part, id, entries))

include h

lemma statement?_of_update? : c.statement? =
    some (.modify part (entries.map (·.1.plain)) (entries.map (·.2) ++ [id])) := by
  unfold update? at h
  split at h <;> cases h <;> rfl

lemma does_iff_of_update? {now : Moment} {s s' : Store} : c.Does now s s' ↔
    ∃ n, s.modify part now (entries.map (·.1.plain)) (entries.map (·.2) ++ [id]) = .ok (n, s') := by
  rw [← snd_eq_ok, Does, statement?_of_update? h]
  simp [Statement.run]

lemma readBack_succeeds_iff {now : Moment} {s s' : Store} (hdoes : c.Does now s s') :
    Succeeds (c.readBack s') ↔
      ∀ row rest, s'.rowsOf part id = .ok (row :: rest) → part.layout.Legible row := by
  obtain ⟨n, hmodify⟩ := (does_iff_of_update? h).1 hdoes
  obtain ⟨change, -, hmodify⟩ := bind_eq_ok.1 hmodify
  obtain ⟨⟨n, t⟩, hrun, -⟩ := bind_eq_ok.1 hmodify
  obtain ⟨cells, -, hcells, -⟩ := Change.run_eq_ok hrun
  have hrows : Succeeds (s'.rowsOf part id) := by
    rw [rowsOf, Succeeds.bind_pure_iff, Succeeds.mapError_iff]
    exact bound_succeeds ⟨cells, hcells⟩
  have hback : Succeeds (c.readBack s') ↔ Succeeds (s'.found? part id) := by
    unfold update? at h
    split at h <;> cases h <;> exact Succeeds.map_iff
  rw [hback, found?_succeeds_iff, and_iff_right hrows]

end

lemma readBack_of_update?_eq_none {now : Moment} {s s' : Store} {c : Call}
    (h : c.update? = none) (hdoes : c.Does now s s') : c.readBack s' = .ok () := by
  obtain ⟨st, hst, -⟩ := hdoes
  unfold readBack
  split
  · rename_i id updates
    cases updates <;> simp_all [update?, statement?]
  · rename_i id updates
    cases updates <;> simp_all [update?, statement?]
  · rfl

/-- A call that changes nothing if it fails. -/
def Atomic (now : Moment) (s : Store) (c : Call) : Prop :=
  ∀ e s', (c.work now).run.run s = (.error e, s') → s' = s

/-- A call that fails changes nothing, but for an update of a row that can then not be read. -/
theorem atomic_iff (now : Moment) (s : Store) (c : Call) :
    c.Atomic now s ↔ ∀ part id entries, c.update? = some (part, id, entries) → ∀ n s',
      s.modify part now (entries.map (·.1.plain)) (entries.map (·.2) ++ [id]) = .ok (n, s') →
      s' ≠ s → ∀ row rest, s'.rowsOf part id = .ok (row :: rest) → part.layout.Legible row := by
  constructor
  · intro hatomic part id entries hupdate n s' hmodify hne
    have hdoes : c.Does now s s' := (does_iff_of_update? hupdate).2 ⟨n, hmodify⟩
    rw [← readBack_succeeds_iff hupdate hdoes]
    rcases c.runs now s with ⟨s₁, hdoes₁, hrun⟩ | ⟨hnot, -⟩
    · cases hdoes.eq hdoes₁
      cases hback : c.readBack s' with
      | ok a => exact ⟨a, rfl⟩
      | error e => exact absurd (hatomic e s' (by rw [hrun, hback])) hne
    · exact absurd hdoes (hnot s')
  · intro hlegible e s' hrun'
    rcases c.runs now s with ⟨s₁, hdoes, hrun⟩ | ⟨-, e₁, hrun⟩
    · rw [hrun] at hrun'
      obtain ⟨hback, rfl⟩ := Prod.mk.inj hrun'
      by_contra hne
      cases hupdate : c.update? with
      | none =>
        rw [readBack_of_update?_eq_none hupdate hdoes] at hback
        cases hback
      | some u =>
        obtain ⟨part, id, entries⟩ := u
        obtain ⟨n, hmodify⟩ := (does_iff_of_update? hupdate).1 hdoes
        obtain ⟨a, ha⟩ := (readBack_succeeds_iff hupdate hdoes).2
          (hlegible part id entries hupdate n s₁ hmodify hne)
        rw [ha] at hback
        cases hback
    · rw [hrun] at hrun'
      exact (Prod.mk.inj hrun').2.symm

/-- A text that is no moment is stored as the moment at which a profile was made, and the call fails
    when it reads the profile back. -/
theorem not_atomic_updateProfile :
    ¬(updateProfile (.int 1) (.map [(.text "created_at", .text "x")])).Atomic
      (firstMinute 1) (seeded (firstMinute 0)) := by
  intro h
  let stamps (s : Store) : List Bool :=
    s.profiles.rows.map fun r => (r.get "created_at").equals (.text "x")
  obtain ⟨hfailed, hafter⟩ : (((updateProfile (.int 1) (.map [(.text "created_at", .text "x")])).work
      (firstMinute 1)).run.run (seeded (firstMinute 0))).1.toOption.isNone ∧
        stamps (((updateProfile (.int 1) (.map [(.text "created_at", .text "x")])).work
          (firstMinute 1)).run.run (seeded (firstMinute 0))).2 = [true, false] := by decide +kernel
  have hbefore : stamps (seeded (firstMinute 0)) = [false, false] := by
    decide +kernel
  generalize hrun : ((updateProfile (.int 1) (.map [(.text "created_at", .text "x")])).work
    (firstMinute 1)).run.run (seeded (firstMinute 0)) = r at hfailed hafter
  rcases r with ⟨e | _, s'⟩
  · change stamps s' = _ at hafter
    rw [h e s' hrun, hbefore] at hafter
    cases hafter
  · cases hfailed

end Call

end Store

end Huntbook
