import Huntbook.Proofs.Calls
import Huntbook.Proofs.Serving

/-!
# What endpoints leave alone

Every endpoint is put together from a few kinds of work: it reads, it talks to a language model, it
asks the store, it loads a playbook. A property of the server that each of these keeps is kept by
every endpoint, and so by every request.
-/

namespace Huntbook

open List

variable {fields : List Form.Field}

/-! ## Work that keeps an invariant -/

section

variable {ε σ α β : Type} {I : σ → Prop}

lemma run_tryCatch (w : ExceptT ε (StateM σ) α) (f : ε → ExceptT ε (StateM σ) α) (s : σ) :
    (tryCatch w f).run.run s = match w.run.run s with
      | (.ok a, s') => (.ok a, s')
      | (.error e, s') => (f e).run.run s' := by
  show (ExceptT.tryCatch w f).run.run s = _
  simp only [ExceptT.tryCatch, ExceptT.run, ExceptT.mk, StateT.run, bind, StateT.bind]
  rcases w s with ⟨_ | _, _⟩ <;> rfl

def Keeps (I : σ → Prop) (w : ExceptT ε (StateM σ) α) : Prop := ∀ s, I s → I (w.run.run s).2

namespace Keeps

variable {w : ExceptT ε (StateM σ) α} {f : α → ExceptT ε (StateM σ) β}

lemma pure {a : α} : Keeps I (pure a : ExceptT ε (StateM σ) α) :=
  fun _ hs => hs

lemma throw {e : ε} : Keeps I (throw e : ExceptT ε (StateM σ) α) :=
  fun _ hs => hs

lemma get : Keeps I (get : ExceptT ε (StateM σ) σ) :=
  fun _ hs => hs

lemma bind (hw : Keeps I w) (hf : ∀ a, Keeps I (f a)) : Keeps I (w >>= f) := by
  intro s hs
  have hfirst := hw s hs
  rw [run_bind]
  generalize w.run.run s = first at hfirst
  rcases first with ⟨_ | a, s'⟩
  · exact hfirst
  · exact hf a s' hfirst

lemma snd_bind (hf : ∀ a I, Keeps I (f a)) (s : σ) :
    ((w >>= f).run.run s).2 = (w.run.run s).2 := by
  rw [run_bind]
  rcases w.run.run s with ⟨_ | a, s'⟩
  · rfl
  · exact hf a (· = s') s' rfl

lemma map (f : α → β) (hw : Keeps I w) : Keeps I (f <$> w) := by
  exact hw.bind fun a => .pure

lemma tryCatch {f : ε → ExceptT ε (StateM σ) α} (hw : Keeps I w) (hf : ∀ e, Keeps I (f e)) :
    Keeps I (tryCatch w f) := by
  intro s hs
  have hfirst := hw s hs
  rw [run_tryCatch]
  generalize w.run.run s = first at hfirst
  rcases first with ⟨e | a, s'⟩
  · exact hf e s' hfirst
  · exact hfirst

lemma ite {c : Prop} [Decidable c] {w' : ExceptT ε (StateM σ) α} (h : Keeps I w) (h' : Keeps I w') :
    Keeps I (if c then w else w') := by
  split
  · exact h
  · exact h'

lemma mapM {items : List α} (h : ∀ a ∈ items, Keeps I (f a)) : Keeps I (items.mapM f) := by
  induction items with
  | nil => exact .pure
  | cons a items ih =>
    rw [forall_mem_cons] at h
    rw [mapM_cons]
    exact h.1.bind fun b => (ih h.2).bind fun bs => .pure

end Keeps

end

namespace Store

/-! ## Rows of the history -/

/-- A row of the history, whose keys rise. -/
def Holds (row : Row) (s : Store) : Prop :=
  (s.table .conversions).rows.Pairwise (·.id < ·.id) ∧ row ∈ (s.table .conversions).rows

section

variable {row : Row} {s s' : Store}

lemma Holds.of_eq (h : s.Holds row) (heq : s'.table .conversions = s.table .conversions) :
    s'.Holds row := by
  rwa [Holds, heq]

lemma Holds.add (h : s.Holds row) {part : Part} {now : Moment} {values : Fields}
    {id : Int} (hadd : s.add part now values = .ok (id, s')) : s'.Holds row := by
  obtain ⟨cells, -, -, rfl⟩ := add_eq_ok hadd
  by_cases hpart : part = .conversions
  · subst hpart
    refine ⟨pairwise_append.2 ⟨h.1, pairwise_singleton _ _, fun r hr r' hr' => ?_⟩,
      mem_append_left _ h.2⟩
    rw [mem_singleton.1 hr']
    exact Table.lt_nextKey hr
  · exact h.of_eq (table_put_of_ne _ _ _ (Ne.symm hpart))

lemma Holds.drop (h : s.Holds row) {id : Value} {found : Bool}
    (hdrop : s.drop .conversions id = .ok (found, s'))
    (hother : ∀ key, bound id = .ok key → key.whole? ≠ some row.id) : s'.Holds row := by
  obtain ⟨key, hkey, rfl⟩ := drop_eq_ok hdrop
  refine ⟨h.1.filter _, mem_filter.2 ⟨h.2, ?_⟩⟩
  simpa using hother key hkey

end

section

variable {row : Row} {part : Part} {α : Type}

lemma keeps_change {I : Store → Prop} {f : Store → Except Error (α × Store)}
    (h : ∀ {s a s'}, f s = .ok (a, s') → I s → I s') : Keeps I (Work.change f) := by
  intro s hs
  rw [run_change]
  cases hf : f s with
  | error e => exact hs
  | ok r => exact h hf hs

lemma keeps_workAsk (f : Store → Try α) : Keeps (Holds row) (Work.ask f) := by
  intro s hs
  rw [Call.run_ask]
  exact hs

lemma keeps_addRecord (now : Moment) (fields : Texts) (r : Record) :
    Keeps (Holds row) (addRecord part now fields r) :=
  .bind (keeps_change fun hadd hs => hs.add hadd) fun _ => .pure

lemma keeps_statement {f : Store → Except Error (α × Store)} (now : Moment) (st : Statement)
    (hrun : ∀ s, st.run now s = (·.2) <$> f s) (hpart : st.part ≠ .conversions) :
    Keeps (Holds row) (Work.change f) := by
  refine keeps_change fun {s a s'} hf hs => hs.of_eq ?_
  have hs' : st.run now s = .ok s' := (hrun s).trans (snd_eq_ok.2 ⟨a, hf⟩)
  rw [Statement.run_eq_put hs', table_put_of_ne _ _ _ hpart.symm]

lemma keeps_importMappings (now : Moment) (profile : Value) (records : List Record) :
    Keeps (Holds row) (importMappings now profile records) := by
  refine keeps_change fun {s a s'} himport hs => ?_
  obtain ⟨key, -, himport⟩ := bind_eq_ok.1 himport
  obtain ⟨s₁, hadd, himport⟩ := bind_eq_ok.1 himport
  cases himport
  refine foldlM_keeps (P := Holds row) (fun r _ s s' hs h => ?_) ?_ hadd
  · obtain ⟨⟨id, s''⟩, hadd, h⟩ := bind_eq_ok.1 h
    cases h
    exact hs.add hadd
  · exact hs

variable (hpart : part ≠ .conversions)

include hpart

lemma keeps_updateRecord (now : Moment) (id updates : Value) :
    Keeps (Holds row) (updateRecord part now id updates) := by
  unfold updateRecord
  split
  · exact .bind (keeps_statement now (.modify part _ _) (fun _ => rfl) hpart) fun _ =>
      keeps_workAsk _
  · exact .throw

lemma keeps_drop (id : Value) : Keeps (Holds row) (Work.change fun s => s.drop part id) :=
  keeps_statement (firstMinute 0) (.drop part id) (fun _ => rfl) hpart

lemma keeps_saveConfig (now : Moment) (r : Record) :
    Keeps (Holds row) (saveConfig part now r) := by
  unfold saveConfig
  split
  · exact .bind (keeps_statement now (.modify part _ _) (fun _ => rfl) hpart) fun _ => .pure
  · exact keeps_addRecord now _ r

lemma keeps_activate (id : Value) : Keeps (Holds row) (activate part id) := by
  refine keeps_statement (firstMinute 0) (.activate part id) (fun s => ?_) hpart
  rw [Statement.run]
  cases bound id <;> rfl

end

end Store

/-! ## Forms that are filled in -/

lemma Form.Kind.check_form_eq_ok {v body : Value} (h : (form fields).check v = .ok body) :
    ∃ entries given, checkFields fields entries = .ok given ∧ body = .record given := by
  unfold check at h
  split at h
  · cases h
  · cases h
  · obtain ⟨given, hgiven, rfl⟩ := Conversion.map_eq_ok.1 h
    exact ⟨_, given, hgiven, rfl⟩

variable {entries : Entries} {given : Fields}

lemma Form.Kind.checkFields_eq_ok (h : checkFields fields entries = .ok given) :
    Forall₂ (fun f g => g.1 = f.1 ∧ ((∃ v, f.2.1.check v = .ok g.2) ∨ f.2.2 = some g.2))
      fields given := by
  induction fields generalizing given with
  | nil =>
    cases h
    exact .nil
  | cons f fields ih =>
    obtain ⟨name, kind, default⟩ := f
    unfold checkFields at h
    dsimp only at h
    split at h
    · rename_i v more hv hmore
      cases h
      refine .cons ⟨rfl, ?_⟩ (ih hmore)
      have hv := Web.Route.mapError_eq_ok.1 hv
      split at hv
      · exact .inl ⟨_, hv⟩
      · cases hv
        exact .inr rfl
      · cases hv
    all_goals cases h

lemma Form.Kind.lookup_of_checkFields
    (h : checkFields fields entries = .ok given) (name : String) :
    (fields.lookup name).elim (given.lookup name = none) fun f => ∃ v,
      given.lookup name = some v ∧ ((∃ x, f.1.check x = .ok v) ∨ f.2 = some v) := by
  have hgiven := checkFields_eq_ok h
  clear h
  induction hgiven with
  | nil => rfl
  | @cons f g fields given hfirst _ ih =>
    rw [List.lookup_cons, List.lookup_cons, hfirst.1]
    cases name == f.1
    · exact ih
    · exact ⟨g.2, rfl, hfirst.2⟩

namespace Web

open Serving

/-! ## Work of endpoints -/

section

variable {I : Server → Prop} {α : Type}

lemma keeps_orFault {r : Try α} : Keeps I (orFault r) := by
  cases r with
  | ok a => exact .pure
  | error f => exact .throw

lemma keeps_ask {f : Server → Try α} : Keeps I (ask f) :=
  .bind .get fun _ => keeps_orFault

lemma keeps_modify {f : Server → Server} (h : ∀ s, I s → I (f s)) :
    Keeps I (modify f : Serving Unit) :=
  h

lemma keeps_deny {status : Nat} {detail : String} : Keeps I (deny status detail : Serving α) :=
  .throw

lemma keeps_deny_bind {β : Type} {status : Nat} {detail : String} {f : α → Serving β} :
    Keeps I (deny status detail >>= f) :=
  fun _ hs => hs

lemma keeps_attempt {missing : Option String} {refusals : Bool} {w : Serving α}
    (h : Keeps I w) : Keeps I (attempt missing refusals w) := by
  refine h.tryCatch fun e => ?_
  split
  · split
    · exact keeps_deny
    · split <;> exact keeps_deny
  · split <;> exact keeps_deny
  · exact keeps_deny

lemma keeps_shownOr {detail : String} {r : Option Record} :
    Keeps I (Records.shownOr detail r) := by
  cases r with
  | some r => exact keeps_orFault
  | none => exact keeps_deny

lemma keeps_done (message detail : String) {w : Store.Work Bool} (h : Keeps I (stored w)) :
    Keeps I (Records.done message detail w) :=
  .bind h fun _ => .ite .pure keeps_deny

lemma keeps_assistant {detail : String} : Keeps I (Assistance.assistant detail) :=
  .bind .get fun _ => .ite .pure keeps_deny

end

/-- A property of the server that most kinds of work keep. It does not look at the conversations with
    language models, only at whether they are refused, and work on the store that takes no row out of
    the history keeps it. -/
structure Calm (I : Server → Prop) : Prop where
  aside : ∀ s session, session.refusing = s.session.refusing → I s → I { s with session }
  stored : ∀ {α : Type} {w : Store.Work α}, (∀ row, Keeps (Store.Holds row) w) →
    Keeps I (Serving.stored w)
  playbook : ∀ id, Keeps I (Serving.playbook id)
  prepared : Keeps I Playbooks.prepared
  delete : ∀ i, Keeps I (Playbooks.delete i)

/-- Moreover it does not look at the assistant. -/
structure Lasting (I : Server → Prop) : Prop extends Calm I where
  others : ∀ s env assistant, I s → I { s with env, assistant }

abbrev forgetRoute : Route :=
  simple "DELETE" "/api/sigma/history/#conversion_id" fun i =>
    Records.done "Conversion deleted successfully" Records.noConversion
      (Store.deleteConversion (i.arg "conversion_id"))

abbrev configureRoute : Route :=
  posting "POST" "/api/config/ai" Form.assistantConfig Assistance.configure

abbrev tryRoute : Route := posting "POST" "/api/ai/test" Form.assistantTest Assistance.tryKey

lemma keeps_files {I : Server → Prop} {α : Type} (h : ∀ s tree, I s → I { s with tree })
    (w : Folder.Work α) : Keeps I (files w) := by
  intro s hs
  show I ((orFault _).run.run _).2
  rw [run_orFault]
  exact h s _ hs

namespace Calm

variable {I : Server → Prop}

/-- A property that looks neither at the files nor at the shelf. -/
lemma of_aside (haside : ∀ s tree shelf session, session.refusing = s.session.refusing → I s →
      I { s with tree, shelf, session })
    (hstored : ∀ {α : Type} {w : Store.Work α}, (∀ row, Keeps (Store.Holds row) w) →
      Keeps I (Serving.stored w)) : Calm I := by
  have hshelf (f : Server → Playbook.Shelf) :
      Keeps I (modify fun s => { s with shelf := f s } : Serving Unit) :=
    keeps_modify fun s hs => haside s s.tree (f s) s.session rfl hs
  have hplaybook (id : Value) : Keeps I (Serving.playbook id) :=
    .bind keeps_ask fun _ => .bind (hshelf _) fun _ => .pure
  have hfiles {α : Type} (w : Folder.Work α) : Keeps I (files w) :=
    keeps_files (fun s tree hs => haside s tree s.shelf s.session rfl hs) w
  have hprepared : Keeps I Playbooks.prepared :=
    .bind .get fun _ => .bind (hfiles _) fun _ => .pure
  refine ⟨fun s => haside s s.tree s.shelf, hstored, hplaybook, hprepared, fun i => ?_⟩
  exact keeps_attempt (.bind (hplaybook _) fun _ => .bind hprepared fun _ =>
    .bind (hfiles _) fun _ => .bind (hshelf _) fun _ => .pure)

variable (hI : Calm I)

include hI

lemma talk {α : Type} (t : Chat.Talk α) : Keeps I (Serving.talk t) := by
  intro s hs
  rw [run_talk]
  exact hI.aside s _ rfl hs

lemma noted (now : Moment) (fields : Fields) : Keeps I (Conversions.noted now fields) :=
  .bind keeps_orFault fun _ =>
    .bind (hI.stored fun _ => Store.keeps_addRecord _ _ _) fun _ => .pure

lemma improved (search rule note : Value) : Keeps I (Conversions.improved search rule note) := by
  refine .bind .get fun s => ?_
  dsimp only
  split
  · exact .pure
  · refine .bind (hI.talk _) fun advice => ?_
    split
    · exact .pure
    · split
      · exact .pure
      · exact .bind keeps_orFault fun lines => .pure

/-! ## Endpoints -/

lemma advice (c : Playbook.Coverage) : Keeps I (Playbooks.advice c) :=
  .bind .get fun _ => .ite (.tryCatch (.bind (hI.talk _) fun _ => .pure) fun _ => .pure) .pure

lemma create (i : Input) : Keeps I (Playbooks.create i) := by
  refine keeps_attempt (.bind (.tryCatch (.map _ (hI.playbook _)) fun halt => ?_) fun found => ?_)
  · cases halt with
    | denied => exact .throw
    | fault => exact .ite .pure .throw
  · cases found with
    | none => exact .bind hI.prepared fun _ => .throw
    | some => exact keeps_deny

lemma playbookRoutes : ∀ route ∈ playbookRoutes, route ∈ [configureRoute, tryRoute] ∨
    ∀ i, Keeps I (route.run i) := by
  simp only [Web.playbookRoutes, forall_mem_singleton, forall_mem_cons, simple, posting, querying]
  have htold {t : Chat.Talk String} {f : String → Value} :
      Keeps I (Serving.talk t >>= fun s => pure (f s)) := .bind (hI.talk t) fun _ => .pure
  exact ⟨.inr fun _ => .pure, .inr fun _ => .bind .get fun _ => .pure,
    .inr fun _ => keeps_attempt (.bind keeps_ask fun _ => .ite .pure .pure),
    .inr fun _ => keeps_attempt (hI.playbook _),
    .inr fun _ => keeps_attempt (.bind keeps_ask fun _ => .pure),
    .inr fun _ => keeps_attempt (.bind (hI.playbook _) fun _ => .bind keeps_orFault fun _ => .pure),
    .inr fun _ => .pure, .inr fun _ => keeps_attempt (.bind keeps_orFault fun _ => .pure),
    .inr fun _ => keeps_attempt (.bind keeps_ask fun _ => .bind keeps_orFault fun _ =>
      .bind (hI.advice _) fun _ => .pure),
    .inr fun _ => .bind keeps_assistant fun _ => keeps_attempt (.bind (hI.playbook _) fun _ => htold),
    .inr fun _ => .bind keeps_assistant fun _ => keeps_attempt htold,
    .inr fun _ => .bind keeps_assistant fun _ => keeps_attempt
      (.ite (.bind (hI.playbook _) fun _ => htold) (.bind .pure fun _ => htold)),
    .inr fun _ => .bind keeps_assistant fun _ => keeps_attempt (.bind (hI.playbook _) fun _ => htold),
    .inr fun _ => keeps_attempt (.bind keeps_ask fun _ => .bind keeps_orFault fun _ =>
      .bind .get fun _ => .pure),
    .inr hI.create,
    .inr fun _ => keeps_attempt (.bind (hI.playbook _) fun _ => .bind hI.prepared fun _ => .throw),
    .inr hI.delete, .inl mem_cons_self, .inl (mem_cons_of_mem _ mem_cons_self),
    .inr fun _ => .bind .get fun _ => .pure⟩

lemma toSearch (i : Input) : Keeps I (Conversions.toSearch i) := by
  have hwritten (v : Value) {w : Value → Serving Value} (h : ∀ v, Keeps I (w v)) :
      Keeps I ((orFault (Json.write v) >>= fun s => pure (.text s)) >>= w) :=
    .bind (.bind keeps_orFault fun _ => .pure) h
  unfold Conversions.toSearch
  dsimp only
  split
  · exact keeps_deny
  · exact .bind keeps_ask fun _ => .bind keeps_orFault fun _ => .bind keeps_orFault fun _ =>
      hwritten _ fun _ => hwritten _ fun _ => hwritten _ fun _ => .bind (hI.noted _ _) fun _ => .pure

lemma toRule (i : Input) : Keeps I (Conversions.toRule i) := by
  unfold Conversions.toRule
  dsimp only
  refine .ite keeps_deny_bind (.bind keeps_orFault fun _ => .bind (hI.improved _ _ _)
    fun _ => ?_)
  split
  · exact .bind keeps_orFault fun _ => .bind .pure fun _ => .bind .get fun _ =>
      .bind (hI.noted _ _) fun _ => .pure
  · exact .bind .pure fun _ => .bind .get fun _ => .bind (hI.noted _ _) fun _ => .pure

lemma fromDescription (i : Input) : Keeps I (Conversions.fromDescription i) := by
  unfold Conversions.fromDescription
  refine .bind .get fun _ => .ite keeps_deny_bind (.bind (hI.talk _) fun made => .ite ?_ ?_)
  · exact .ite (.bind keeps_orFault fun _ => keeps_deny_bind)
      (.bind .pure fun _ => keeps_deny_bind)
  · dsimp only
    split
    · exact keeps_deny
    · exact .bind keeps_orFault fun _ => .ite
        (.bind keeps_orFault fun _ => .bind .pure fun _ => .bind keeps_orFault fun _ =>
          .bind (hI.noted _ _) fun _ => .pure)
        (.bind .pure fun _ => .bind keeps_orFault fun _ => .bind (hI.noted _ _) fun _ => .pure)

lemma ruleRoutes : ∀ route ∈ ruleRoutes, ∀ i, Keeps I (route.run i) := by
  simp only [Web.ruleRoutes, forall_mem_singleton, forall_mem_cons, simple, posting, querying]
  refine ⟨fun _ => .bind .get fun _ => .pure, fun _ => .bind keeps_ask fun _ => .pure,
    fun _ => .bind keeps_ask fun _ => .ite .pure keeps_deny, fun _ => keeps_ask,
    fun i => ?_, hI.toSearch, hI.toRule, hI.fromDescription⟩
  unfold Conversions.validate
  split
  · exact .pure
  · exact .bind keeps_orFault fun _ => .bind keeps_orFault fun _ =>
      .bind keeps_orFault fun _ => .pure

lemma profileRoutes : ∀ route ∈ profileRoutes, route = forgetRoute ∨
    ∀ i, Keeps I (route.run i) := by
  have hprofiles : Store.Part.profiles ≠ .conversions := by decide
  have hmappings : Store.Part.mappings ≠ .conversions := by decide
  simp only [Web.profileRoutes, forall_mem_singleton, forall_mem_cons,
    simple, posting, querying]
  exact ⟨.inr fun _ => keeps_ask,
    .inr fun _ => .bind keeps_orFault fun _ =>
      .bind (hI.stored fun _ => Store.keeps_addRecord _ _ _) fun _ => keeps_orFault,
    .inr fun _ => .bind keeps_ask fun _ => keeps_shownOr,
    .inr fun _ => .bind (.mapM fun _ _ => .ite (.bind keeps_orFault fun _ => .pure) .pure)
      fun _ => .bind (hI.stored fun _ => Store.keeps_updateRecord hprofiles _ _ _) fun _ =>
        keeps_shownOr,
    .inr fun _ => keeps_done _ _ (hI.stored fun _ => Store.keeps_drop hprofiles _),
    .inr fun _ => keeps_ask,
    .inr fun _ => .bind keeps_orFault fun _ =>
      .bind (hI.stored fun _ => Store.keeps_addRecord _ _ _) fun _ => keeps_orFault,
    .inr fun _ => .bind (hI.stored fun _ => Store.keeps_updateRecord hmappings _ _ _) fun _ =>
      keeps_shownOr,
    .inr fun _ => keeps_done _ _ (hI.stored fun _ => Store.keeps_drop hmappings _),
    .inr fun _ => .bind keeps_orFault fun _ =>
      .bind (hI.stored fun _ => Store.keeps_importMappings _ _ _) fun _ => .pure,
    .inr fun _ => .bind .get fun _ => hI.talk _, .inr fun _ => .bind keeps_ask fun _ => .pure,
    .inr fun _ => .bind keeps_ask fun _ => keeps_shownOr,
    .inl trivial, .inr fun _ => .bind .get fun _ => .pure⟩

lemma configRoutes {part : Store.Part} (hpart : part ≠ .conversions) (path : String)
    {create : Input → Serving Value} (hcreate : ∀ i, Keeps I (create i)) :
    ∀ route ∈ configRoutes path part create, ∀ i, Keeps I (route.run i) := by
  simp only [Web.configRoutes, forall_mem_singleton, forall_mem_cons, simple]
  refine ⟨fun _ => keeps_ask, hcreate, fun _ => ?_, fun i => ?_, fun i => ?_, fun i => ?_⟩
  · refine .bind keeps_ask fun found => ?_
    cases found with
    | none => exact .pure
    | some r => exact .bind keeps_orFault fun _ => .pure
  · exact .bind keeps_ask fun _ => keeps_shownOr
  · exact keeps_done _ _ (hI.stored fun _ => Store.keeps_activate hpart _)
  · exact keeps_done _ _ (hI.stored fun _ => Store.keeps_drop hpart _)

lemma createConfig {part : Store.Part} (hpart : part ≠ .conversions) (name : String)
    (plain : Fields) (packed : TextPairs) (i : Input) :
    Keeps I (Records.createConfig part name plain packed i) :=
  .bind keeps_orFault fun r =>
    .bind (hI.stored fun _ => Store.keeps_saveConfig hpart i.now r) fun _ => keeps_orFault

lemma routes : ∀ route ∈ routes, route ∈ [forgetRoute, configureRoute, tryRoute] ∨
    ∀ i, Keeps I (route.run i) := by
  have hsensors : Store.Part.sensors ≠ .conversions := by decide
  have haudits : Store.Part.audits ≠ .conversions := by decide
  intro route hroute
  simp only [Web.routes, mem_append, mem_singleton] at hroute
  rcases hroute with ((((h | h) | h) | h) | h) | rfl
  · exact (hI.playbookRoutes route h).imp_left (mem_cons_of_mem _)
  · exact .inr (hI.ruleRoutes route h)
  · refine (hI.profileRoutes route h).imp_left ?_
    rintro rfl
    exact mem_cons_self
  · exact .inr (hI.configRoutes hsensors _ (hI.createConfig hsensors _ _ _) route h)
  · exact .inr (hI.configRoutes haudits _ (hI.createConfig haudits _ _ _) route h)
  · refine .inr fun i => .bind keeps_orFault fun document => ?_
    exact .bind keeps_orFault fun needed => .bind keeps_ask fun found => .pure

end Calm

namespace Lasting

variable {I : Server → Prop} (hI : Lasting I)

include hI

lemma choose (provider keyName key : String) :
    Keeps I (Assistance.choose provider keyName key) := by
  unfold Assistance.choose
  split
  · exact .throw
  · exact keeps_modify fun s hs => hI.others s _ s.assistant hs

lemma routes : ∀ route ∈ routes, route = forgetRoute ∨ ∀ i, Keeps I (route.run i) := by
  intro route hroute
  rcases hI.toCalm.routes route hroute with h | h
  · simp only [mem_cons, not_mem_nil, or_false] at h
    refine h.imp_right fun h i => ?_
    rcases h with rfl | rfl <;>
      dsimp only [configureRoute, tryRoute, posting, Assistance.configure, Assistance.tryKey] <;>
      repeat' with_reducible_and_instances first
        | exact hI.choose _ _ _ | exact keeps_deny | exact .pure | exact .get | exact hI.talk _
        | exact keeps_modify fun s hs => hI.others s s.env _ hs
        | refine .tryCatch ?_ fun _ => ?_ | refine .bind ?_ fun _ => ?_ | split
  · exact .inr h

end Lasting

/-! ## Requests -/

lemma segmentsOf_append {path segment : String} (h : '/' ∉ segment.toList) :
    segmentsOf (path ++ "/" ++ segment) = segmentsOf path ++ [segment] := by
  have hlist : (path ++ "/" ++ segment).toList = path.toList ++ '/' :: segment.toList := by
    simp
  rw [segmentsOf, segmentsOf, Text.split, Text.split, hlist, Text.splitList_eq_splitOn,
    Text.splitList_eq_splitOn, splitOn_append_cons_self, splitOn_eq_singleton h, map_append,
    drop_append_of_le_length (by simp [Nat.one_le_iff_ne_zero])]
  simp

variable {r : Request} {route : Route} {kind : Form.Kind} {values : TextPairs}

/-- A path that ends in the only value of its route gets there with this value. -/
lemma served_last {n : Nat} {segment name : String} (path : String)
    {v : Value} (hroute : routes[n]? = some route)
    (hmethod : r.method = route.method) (hpath : r.path = path ++ "/" ++ segment)
    (hslash : '/' ∉ segment.toList) (hstart : path.toList.head? = some '/')
    (hvalues : route.pattern.values? (segmentsOf path ++ [segment]) = some [(name, segment)])
    (hbefore : (routes.take n).all fun x => x.method != route.method ||
      (x.pattern.values? (segmentsOf path ++ [segment])).isNone)
    (hfields : Route.pathFields route.pattern = [(name, kind, none)])
    (halone : route.query = [] ∧ route.body = none) (hcheck : kind.check (.text segment) = .ok v) :
    wayOf routes r = .served route [(name, segment)] ∧
      ∀ now, ∃ i, route.input now [(name, segment)] r = .ok i ∧ i.arg name = v := by
  rw [← segmentsOf_append hslash] at hvalues hbefore
  refine ⟨wayOf_eq_served hroute hmethod hpath (by simp [hstart]) hvalues hbefore, fun now =>
    ⟨⟨now, [(name, v)], .null, [], r.body.getD ""⟩, ?_, ?_⟩⟩
  · have hfind : Value.find? (Route.textEntries [(name, segment)]) (.text name) =
        some (.text segment) := (Value.field?_record [(name, .text segment)] name).trans (by simp)
    have hpath : Form.Kind.checkFields [(name, kind, none)]
        (Route.textEntries [(name, segment)]) = .ok [(name, v)] := by
      simp [Form.Kind.checkFields, hfind, hcheck, Form.under, Except.mapError]
    rw [Route.input, hfields, hpath, halone.1, halone.2]
    rfl
  · simp [Input.arg]

lemma mem_of_wayOf {all : List Route} (h : wayOf all r = .served route values) :
    route ∈ all ∧ r.method = route.method := by
  unfold wayOf at h
  split at h
  · split at h <;> cases h
  · split at h
    · rename_i heq
      cases h
      have hfound := mem_of_find?_eq_some heq
      have hmethod := find?_some heq
      unfold fitting at hfound
      split at hfound
      · obtain ⟨route', hmem, hfit⟩ := mem_filterMap.1 hfound
        obtain ⟨found, -, hroute⟩ := Option.map_eq_some_iff.1 hfit
        cases hroute
        exact ⟨hmem, (eq_of_beq hmethod).symm⟩
      · cases hfound
    · cases h

lemma field_of_input {now : Moment} {i : Input}
    (hform : route.body = some (.form fields)) (h : route.input now values r = .ok i)
    (name : String) {default : Option Value} (hname : fields.lookup name = some (kind, default)) :
    (∃ x, kind.check x = .ok (i.field name)) ∨ default = some (i.field name) := by
  obtain ⟨-, -, -, -, -, -, hbody⟩ := Route.input_eq_ok h
  obtain ⟨document, hdocument⟩ := hbody _ hform
  obtain ⟨entries, given, hgiven, hbody⟩ := Form.Kind.check_form_eq_ok hdocument
  have hlookup := Form.Kind.lookup_of_checkFields hgiven name
  rw [hname] at hlookup
  obtain ⟨v, hv, hchecked⟩ := hlookup
  have hfield : i.field name = v := by
    rw [Input.field, hbody, Value.field?_record, hv]
    rfl
  rwa [hfield]

lemma Server.respond_snd (now : Moment) (r : Request) :
    (∀ s : Server, (s.respond now r).2 = s) ∨ ∃ route values i,
      wayOf routes r = .served route values ∧ route.input now values r = .ok i ∧
      ∀ s : Server, (s.respond now r).2 = ((route.run i).run.run s).2 := by
  unfold Server.respond
  cases hway : wayOf routes r with
  | served route values =>
    dsimp only
    unfold Server.serve
    cases hinput : route.input now values r with
    | ok i => exact .inr ⟨route, values, i, rfl, hinput, fun s => rfl⟩
    | error rejection => cases rejection <;> exact .inl fun s => rfl
  | _ => exact .inl fun s => rfl

def Request.ForgetsAt (r : Request) (now : Moment) (i : Input) : Prop :=
  ∃ values, wayOf routes r = .served forgetRoute values ∧ forgetRoute.input now values r = .ok i

/-- The server after requests at some moments, one after the other. -/
def Server.afterAll (s : Server) (requests : List (Moment × Request)) : Server :=
  requests.foldl (fun s e => (s.respond e.1 e.2).2) s

namespace Lasting

variable {I : Server → Prop} (hI : Lasting I)

include hI

lemma respond {s : Server} (hs : I s) (now : Moment) (r : Request)
    (hforget : ∀ i, r.ForgetsAt now i → I s → I ((forgetRoute.run i).run.run s).2) :
    I (s.respond now r).2 := by
  rcases Server.respond_snd now r with heq | ⟨route, values, i, hway, hinput, heq⟩ <;> rw [heq]
  · exact hs
  · rcases hI.routes route (mem_of_wayOf hway).1 with rfl | hkeeps
    · exact hforget i ⟨values, hway, hinput⟩ hs
    · exact hkeeps i s hs

lemma afterAll {s : Server} (hs : I s) {requests : List (Moment × Request)}
    (hforget : ∀ e ∈ requests, ∀ i s, e.2.ForgetsAt e.1 i → I s →
      I ((forgetRoute.run i).run.run s).2) : I (s.afterAll requests) := by
  induction requests generalizing s with
  | nil => exact hs
  | cons e requests ih =>
    rw [forall_mem_cons] at hforget
    exact ih (hI.respond hs e.1 e.2 fun i => hforget.1 i s) hforget.2

end Lasting

end Web

end Huntbook
