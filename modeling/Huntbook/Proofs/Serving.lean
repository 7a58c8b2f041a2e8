import Huntbook.Proofs.Backward
import Huntbook.Proofs.Document
import Huntbook.Proofs.Tables
import Huntbook.Web.Routes

/-!
# All or nothing

What serving a request does to the store. Most work leaves it as it was; a conversion is noted in it
once, after everything that can fail in the conversion itself.

* `respond_atomic_iff`: when a conversion is atomic.
-/

namespace Huntbook

open List

/-! ## What a conversion tells -/

lemma Value.mem_of_mem_distinct {items : List Value} {v : Value} (h : v ∈ distinct items) :
    v ∈ items := by
  -- What has been collected so far comes from the items.
  suffices hfrom : ∀ acc : List Value, v ∈ items.foldl
      (fun acc v => if acc.any (same v) then acc else acc ++ [v]) acc → v ∈ acc ∨ v ∈ items from
    (hfrom [] h).resolve_left not_mem_nil
  clear h
  induction items with
  | nil => exact fun acc h => .inl h
  | cons w items ih =>
    intro acc h
    rw [foldl_cons] at h
    rcases ih _ h with hacc | hitems
    · split at hacc
      · exact .inl hacc
      · rcases mem_append.1 hacc with hacc | hw
        · exact .inl hacc
        · rw [mem_singleton.1 hw]
          exact .inr mem_cons_self
    · exact .inr (mem_cons_of_mem _ hitems)

namespace Conversion

def IsCode (v : Value) : Prop := (∃ n, v = .int n) ∨ ∃ b, v = .bool b

variable {v rule : Value}

lemma IsCode.neat {n : Nat} (h : IsCode v) : v.Neat n := by
  rcases h with ⟨k, rfl⟩ | ⟨b, rfl⟩
  · exact .int k
  · exact .bool b

lemma isCode_of_itemCode? {code : Value} (h : itemCode? v = .ok (some code)) : IsCode code := by
  cases v with
  | int n =>
    cases h
    exact .inl ⟨n, rfl⟩
  | bool b =>
    cases h
    exact .inr ⟨b, rfl⟩
  | text s =>
    rw [itemCode?] at h
    split at h
    · obtain ⟨n, -, hn⟩ := map_eq_ok.1 h
      cases hn
      exact .inl ⟨n, rfl⟩
    · cases h
  | _ => cases h

variable {codes : List Value}

lemma isCode_of_fieldCodes (h : fieldCodes v = .ok codes) : ∀ c ∈ codes, IsCode c := by
  intro c hc
  cases v with
  | int n =>
    cases h
    exact .inl ⟨n, mem_singleton.1 hc⟩
  | bool b =>
    cases h
    exact .inr ⟨b, mem_singleton.1 hc⟩
  | list items =>
    obtain ⟨found, hfound, h⟩ := bind_eq_ok.1 h
    cases h
    obtain ⟨o, ho, hoc⟩ := mem_filterMap.1 hc
    obtain ⟨item, -, hitem⟩ := exists_of_mem_mapM hfound ho
    cases hoc
    exact isCode_of_itemCode? hitem
  | _ =>
    cases h
    cases hc

lemma isCode_of_selectionCodes {block : Entries}
    (h : selectionCodes block = .ok codes) : ∀ c ∈ codes, IsCode c := by
  intro c hc
  obtain ⟨found, hfound, h⟩ := bind_eq_ok.1 h
  cases h
  obtain ⟨cs, hcs, hc⟩ := mem_flatten.1 hc
  obtain ⟨field, -, hfield⟩ := exists_of_mem_mapM hfound hcs
  split at hfield
  · exact isCode_of_fieldCodes hfield c hc
  · cases hfield
    cases hc

lemma isCode_of_ruleCodes (h : ruleCodes rule = .ok codes) : ∀ c ∈ codes, IsCode c := by
  intro c hc
  obtain ⟨detection, -, h⟩ := bind_eq_ok.1 h
  obtain ⟨blocks, -, h⟩ := bind_eq_ok.1 h
  obtain ⟨found, hfound, h⟩ := bind_eq_ok.1 h
  cases h
  obtain ⟨cs, hcs, hc⟩ := mem_flatten.1 hc
  obtain ⟨⟨name, block⟩, -, hblock⟩ := exists_of_mem_mapM hfound hcs
  dsimp only at hblock
  split at hblock
  · cases hblock
    cases hc
  · split at hblock
    · exact isCode_of_selectionCodes hblock c hc
    · cases hblock
      cases hc

lemma id_ofCode (code : Value) : (Event.ofCode code).id = code := by
  unfold Event.ofCode
  dsimp only
  split <;> rfl

lemma isCode_of_mem_eventsOf (h : ∀ c ∈ codes, IsCode c) : ∀ e ∈ eventsOf codes, IsCode e.id := by
  intro e he
  obtain ⟨c, hc, rfl⟩ := mem_map.1 he
  rw [id_ofCode]
  exact h c (Value.mem_of_mem_distinct hc)

lemma mem_of_requiredLogs {α : Type} {sourceOf : α → Try String} {isWindows : Bool}
    {service category : Value} {events : List α} {logs : List (RequiredLog α)}
    (h : requiredLogs sourceOf isWindows service category events = .ok logs) :
    ∀ l ∈ logs, ∀ e ∈ l.events, e ∈ events := by
  intro l hl e he
  obtain ⟨start, -, h⟩ := bind_eq_ok.1 h
  obtain ⟨keyed, hkeyed, h⟩ := bind_eq_ok.1 h
  dsimp only at h
  split at h
  · cases h
    rw [Option.mem_toList, Option.map_eq_some_iff] at hl
    obtain ⟨info, -, rfl⟩ := hl
    exact he
  · cases h
    obtain ⟨key, -, hinfo⟩ := mem_filterMap.1 hl
    obtain ⟨info, -, rfl⟩ := Option.map_eq_some_iff.1 hinfo
    obtain ⟨pair, hpair, rfl⟩ := mem_map.1 he
    obtain ⟨e, hmem, hsource⟩ := exists_of_mem_mapM hkeyed (mem_of_mem_filter hpair)
    obtain ⟨key, -, rfl⟩ := map_eq_ok.1 hsource
    exact hmem

lemma isCode_of_requirements {needs : Requirements}
    (h : requirements rule (.ok codes) = .ok needs) (hcodes : ∀ c ∈ codes, IsCode c) :
    (∀ e ∈ needs.events, IsCode e.id) ∧ ∀ l ∈ needs.logs, ∀ e ∈ l.events, IsCode e.id := by
  simp only [requirements, bind_eq_ok] at h
  obtain ⟨source, -, product, -, windows, -, service, -, category, -, given, hgiven, own, hown,
    logs, hlogs, _, -, _, -, _, -, _, -, h⟩ := h
  obtain rfl := Except.ok.inj hgiven
  cases h
  have hevents : ∀ e ∈ eventsOf (codes ++ own), IsCode e.id := by
    refine isCode_of_mem_eventsOf fun c hc => ?_
    rcases mem_append.1 hc with hc | hc
    · exact hcodes c hc
    · exact isCode_of_ruleCodes hown c hc
  exact ⟨hevents, fun l hl e he => hevents e (mem_of_requiredLogs hlogs l hl e he)⟩

end Conversion

/-! ## Work on the server -/

namespace Web.Serving

section

variable {α β : Type}

lemma run_orFault (r : Try α) (s : Server) :
    (orFault r).run.run s = (r.mapError .fault, s) := by
  cases r <;> rfl

lemma run_ask (f : Server → Try α) (s : Server) :
    (ask f).run.run s = ((f s).mapError .fault, s) := by
  show (orFault (f s)).run.run s = _
  rw [run_orFault]

lemma run_stored (w : Store.Work α) (s : Server) : (stored w).run.run s =
      ((w.run.run s.store).1.mapError .fault, { s with store := (w.run.run s.store).2 }) := by
  show (orFault _).run.run _ = _
  rw [run_orFault]
  rfl

lemma run_talk (t : Chat.Talk α) (s : Server) : (talk t).run.run s =
      ((s.session.hold t).1.mapError .fault, { s with session := (s.session.hold t).2 }) := by
  show (orFault _).run.run _ = _
  rw [run_orFault]
  rfl

lemma orFault_bind_eq_ok {s s' : Server} {b : β} {r : Try α} {f : α → Serving β} :
    (orFault r >>= f).run.run s = (.ok b, s') ↔ ∃ a, r = .ok a ∧ (f a).run.run s = (.ok b, s') := by
  rw [run_bind, run_orFault]
  constructor
  · intro h
    cases r with
    | error e => cases h
    | ok a => exact ⟨a, rfl, h⟩
  · rintro ⟨a, rfl, h⟩
    exact h

lemma ask_bind_eq_ok {s s' : Server} {b : β} {r : Server → Try α} {f : α → Serving β} :
    (ask r >>= f).run.run s = (.ok b, s') ↔ ∃ a, r s = .ok a ∧ (f a).run.run s = (.ok b, s') := by
  rw [run_bind, run_ask, ← run_orFault, ← run_bind, orFault_bind_eq_ok]

/-- The work gives a result with `P`, or it is halted: then the store is as it was, and no denial
    looks like a success. -/
structure AllOrNothing (P : Store → α → Store → Prop) (w : Serving α) : Prop where
  given {s s' : Server} {a : α} : w.run.run s = (.ok a, s') → P s.store a s'.store
  halted {s s' : Server} {h : Halt} : w.run.run s = (.error h, s') →
    s'.store = s.store ∧ ∀ detail, h ≠ .denied 200 detail

abbrev Quiet (w : Serving α) : Prop := AllOrNothing (fun s _ s' => s' = s) w

lemma AllOrNothing.bind {P : Store → β → Store → Prop} {w : Serving α} {f : α → Serving β}
    (hw : Quiet w) (hf : ∀ a, AllOrNothing P (f a)) : AllOrNothing P (w >>= f) := by
  constructor
  · intro s s' b hrun
    obtain ⟨a, s₁, hfirst, hrun⟩ := run_bind_eq_ok.1 hrun
    rw [← hw.given hfirst]
    exact (hf a).given hrun
  · intro s s' h hrun
    rw [run_bind] at hrun
    rcases hfirst : w.run.run s with ⟨_ | a, s₁⟩ <;> rw [hfirst] at hrun
    · cases hrun
      exact hw.halted hfirst
    · rw [← hw.given hfirst]
      exact (hf a).halted hrun

lemma AllOrNothing.map {P : Store → α → Store → Prop} {Q : Store → β → Store → Prop}
    {w : Serving α} {g : α → β} (hw : AllOrNothing P w)
    (h : ∀ s a s', P s a s' → Q s (g a) s') : AllOrNothing Q (w >>= fun a => pure (g a)) := by
  constructor
  · intro s s' b hrun
    obtain ⟨a, s₁, hfirst, hrun⟩ := run_bind_eq_ok.1 hrun
    cases hrun
    exact h _ _ _ (hw.given hfirst)
  · intro s s' halt hrun
    rw [run_bind] at hrun
    rcases hfirst : w.run.run s with ⟨_ | a, s₁⟩ <;> rw [hfirst] at hrun
    · cases hrun
      exact hw.halted hfirst
    · cases hrun

lemma quiet_pure (a : α) : Quiet (pure a : Serving α) where
  given h := by
    cases h
    rfl
  halted h := by cases h

lemma quiet_get : Quiet (get : Serving Server) where
  given h := by
    cases h
    rfl
  halted h := by cases h

lemma throw_allOrNothing {P : Store → α → Store → Prop} (f : Fault) :
    AllOrNothing P (throw (.fault f)) where
  given h := by cases h
  halted h := by
    cases h
    exact ⟨rfl, fun _ h => by cases h⟩

lemma deny_allOrNothing {P : Store → α → Store → Prop} {status : Nat} (detail : String)
    (hstatus : status ≠ 200) : AllOrNothing P (deny status detail) where
  given h := by cases h
  halted h := by
    cases h
    refine ⟨rfl, fun _ h => ?_⟩
    cases h
    exact hstatus rfl

lemma quiet_orFault (r : Try α) : Quiet (orFault r) := by
  cases r with
  | ok a => exact quiet_pure a
  | error f => exact throw_allOrNothing f

lemma quiet_ask (f : Server → Try α) : Quiet (ask f) :=
  AllOrNothing.bind quiet_get fun s => quiet_orFault (f s)

lemma quiet_talk (t : Chat.Talk α) : Quiet (talk t) := by
  constructor
  · intro s s' a hrun
    rw [run_talk] at hrun
    cases hfirst : (s.session.hold t).1 <;> rw [hfirst] at hrun <;> cases hrun
    rfl
  · intro s s' h hrun
    rw [run_talk] at hrun
    cases hfirst : (s.session.hold t).1 <;> rw [hfirst] at hrun <;> cases hrun
    exact ⟨rfl, fun _ h => by cases h⟩

end

end Web.Serving

/-! ## Conversions -/

namespace Web.Conversions

open Serving Value Conversion

variable {n : Nat} {result : Result} {now : Moment} {fields : Fields} {s : Server}
  {i : Input}

lemma neat_event {e : Event} (h : IsCode e.id) : e.toValue.Neat (n + 1) := by
  refine .of_names ["id", "name", "source"] rfl (by decide) (by decide) ?_
  exact ⟨h.neat, .text _, .text _⟩

lemma neat_alternative (a : Alternative) : a.toValue.Neat (n + 2) := by
  refine .of_names ["name", "description", "event_ids", "setup", "is_sysmon_alternative"] rfl
    (by decide) (by decide) ?_
  exact ⟨.text _, .text _, neat_listMap fun k _ => .int k, .text _, .bool _⟩

lemma neat_log {l : RequiredLog Event} (h : ∀ e ∈ l.events, IsCode e.id) :
    (l.toValue Event.toValue).Neat (n + 4) := by
  refine .of_names ["name", "description", "windows_channel", "splunk_sourcetype", "event_ids",
    "setup_instructions", "alternatives"] rfl (by decide) (by decide) ?_
  exact ⟨.text _, .text _, .text _, .text _, neat_listMap fun e he => neat_event (h e he),
    neat_ofTexts _, neat_listMap fun a _ => neat_alternative a⟩

lemma neat_notes {rule : Value} {options : Options} (h : convert rule options = .ok result) :
    (Notes.ofResult result).requirements.Neat 6 ∧ (Notes.ofResult result).fields.Neat 2 ∧
      (Notes.ofResult result).gaps.Neat 3 ∧ (Notes.ofResult result).checks.Neat 2 := by
  obtain ⟨feed, _, _, _, _, _, needs, -, -, -, -, -, -, hneeds, rfl⟩ := convert_eq_ok.1 h
  have hcodes := isCode_of_requirements hneeds fun c hc => by
    obtain ⟨n, -, rfl⟩ := mem_map.1 hc
    exact .inl ⟨n, rfl⟩
  refine ⟨?_, neat_listMap fun f _ => ?_, neat_listMap fun field _ => ?_, neat_listMap fun c _ => ?_⟩
  · refine .of_names ["log_source", "required_logs", "event_ids", "channels", "configuration",
      "has_alternatives"] rfl (by decide) (by decide) ?_
    refine ⟨?_, neat_listMap fun l hl => neat_log (hcodes.2 l hl),
      neat_listMap fun e he => neat_event (hcodes.1 e he), neat_ofTexts _, neat_ofTexts _, .bool _⟩
    refine .of_names ["product", "service", "category"] rfl (by decide) (by decide) ?_
    exact ⟨neat_ofText? _, neat_ofText? _, neat_ofText? _⟩
  · refine .of_names ["sigma_field", "target_field", "status"] rfl (by decide) (by decide) ?_
    exact ⟨.text _, neat_ofText? _, .text _⟩
  · refine .of_names ["field", "location", "impact", "suggestions"] rfl (by decide) (by decide) ?_
    exact ⟨.text _, .text _, .text _, neat_ofTexts _⟩
  · refine .of_names ["name", "description", "query"] rfl (by decide) (by decide) ?_
    exact ⟨.text _, .text _, .text _⟩

/-- What the endpoint tells is a record with a number. -/
def Tells (id v : Value) : Prop :=
  ∃ fields, v = .record fields ∧ fields.lookup "id" = some id ∧ (fields.map (·.1)).Nodup ∧
    ∀ name ∈ fields.map (·.1), Reply.isInner (.text name) = false

/-- The conversion is noted in a new row, and what is told has its number. -/
def Kept (s : Store) (v : Value) (s' : Store) : Prop :=
  ∃ row : Store.Row, (∀ r ∈ s.conversions.rows, r.id < row.id) ∧ s' = s.noting row ∧
    Tells (.int row.id) v

def toldFields (id name search rule : Value) (notes : Notes) (more : Fields) : Fields :=
  [("id", id), ("name", name), ("spl", search), ("sigma_yaml", rule),
   ("prerequisites", notes.requirements), ("mappings", notes.fields), ("gaps", notes.gaps),
   ("health_checks", notes.checks)] ++ more

section

variable {id name search rule : Value} {notes : Notes} {more : Fields}
  (h : more.map (·.1) ∈ [["llm_used"], ["correlation_notes", "llm_used"]])
include h

lemma names_toldFields : ((toldFields id name search rule notes more).map (·.1)).Nodup ∧
      ∀ name' ∈ (toldFields id name search rule notes more).map (·.1),
        Reply.isInner (.text name') = false := by
  rw [toldFields, map_append]
  simp only [mem_cons, not_mem_nil, or_false] at h
  rcases h with h | h <;> rw [h] <;> simp only [map_cons, map_nil] <;> decide

lemma tells_told : Tells id (told id name search rule notes more) :=
  ⟨toldFields id name search rule notes more, rfl, rfl, names_toldFields h⟩

lemma sendable_told : Reply.Sendable (told id name search rule notes more) ↔
    ∀ f ∈ toldFields id name search rule notes more,
      Text.holdsHalf f.1 = false ∧ Reply.Sendable f.2 :=
  Reply.sendable_record (names_toldFields h).1 (names_toldFields h).2

end

lemma get_set_id {given : Fields} {r : Record}
    (h : Record.ofFields .conversion now given = .ok r) (v : Value) :
    (r.set "id" v).get "id" = v := by
  rw [Record.ofFields] at h
  split at h
  · cases h
  · cases h
    rfl

lemma run_noted_eq_ok {s' : Server} {id : Value} :
    (noted now fields).run.run s = (.ok id, s') ↔ ∃ r key store,
      Record.ofFields .conversion now fields = .ok r ∧
        s.store.add .conversions now (Store.valuesOf r Store.conversionColumns) =
          .ok (key, store) ∧ id = .int key ∧ s' = { s with store } := by
  rw [noted, orFault_bind_eq_ok]
  constructor
  · rintro ⟨r, hr, h⟩
    obtain ⟨saved, s₁, hsaved, h⟩ := run_bind_eq_ok.1 h
    cases h
    rw [run_stored, Store.run_saveConversion] at hsaved
    split at hsaved <;> cases hsaved
    exact ⟨r, _, _, hr, ‹_›, get_set_id hr _, rfl⟩
  · rintro ⟨r, key, store, hr, hadd, rfl, rfl⟩
    refine ⟨r, hr, run_bind_eq_ok.2 ⟨r.set "id" (.int key), { s with store }, ?_, ?_⟩⟩
    · rw [run_stored, Store.run_saveConversion, hadd]
      rfl
    · rw [get_set_id hr]
      rfl

lemma noted_allOrNothing (now : Moment) (fields : Fields) :
    AllOrNothing (fun s id s' => ∃ row : Store.Row, (∀ r ∈ s.conversions.rows, r.id < row.id) ∧
      s' = s.noting row ∧ id = .int row.id) (noted now fields) := by
  constructor
  · intro s s' id hrun
    obtain ⟨r, key, store, -, hadd, rfl, rfl⟩ := run_noted_eq_ok.1 hrun
    obtain ⟨cells, -, rfl, rfl⟩ := Store.add_eq_ok hadd
    exact ⟨_, fun r hr => Store.Table.lt_nextKey hr, rfl, rfl⟩
  · intro s s' h hrun
    rw [noted, run_bind, run_orFault] at hrun
    cases hr : Record.ofFields .conversion now fields <;> rw [hr] at hrun
    · cases hrun
      exact ⟨rfl, fun _ h => by cases h⟩
    · dsimp only [Except.mapError] at hrun
      rw [run_bind, run_stored, Store.run_saveConversion] at hrun
      split at hrun
      · cases hrun
      · rename_i hsaved
        split at hsaved <;> cases hsaved
        cases hrun
        exact ⟨rfl, fun _ h => by cases h⟩

lemma told_allOrNothing {name search rule : Value} {notes : Notes} {more : Fields}
    (h : more.map (·.1) ∈ [["llm_used"], ["correlation_notes", "llm_used"]]) : AllOrNothing Kept
      (noted now fields >>= fun id => pure (told id name search rule notes more)) := by
  refine .map (noted_allOrNothing now fields) ?_
  rintro s _ s' ⟨row, hlt, rfl, rfl⟩
  exact ⟨row, hlt, rfl, tells_told h⟩

lemma toSearch_allOrNothing (i : Input) : AllOrNothing Kept (toSearch i) := by
  unfold toSearch
  dsimp only
  split
  · exact deny_allOrNothing _ (by decide)
  · refine .bind (quiet_ask _) fun chosen => ?_
    refine .bind (quiet_orFault _) fun result => ?_
    refine .bind (quiet_orFault _) fun name => ?_
    -- The documents are written before anything is noted.
    refine .bind (.bind (quiet_orFault _) fun _ => quiet_pure _) fun requirements => ?_
    refine .bind (.bind (quiet_orFault _) fun _ => quiet_pure _) fun gaps => ?_
    refine .bind (.bind (quiet_orFault _) fun _ => quiet_pure _) fun checks => ?_
    exact told_allOrNothing (by simp)

def searchFields (i : Input) (name : Value) (search requirements gaps checks : String) : Fields :=
  [("name", name), ("conversion_type", .text "sigma_to_spl"),
   ("profile_id", i.field "profile_id"), ("input_content", i.field "sigma_yaml"),
   ("output_spl", .text search), ("prerequisites", .text requirements),
   ("gap_analysis", .text gaps), ("health_checks", .text checks), ("llm_used", .bool false)]

structure Searched (i : Input) (s : Store) (name : Value) (result : Conversion.Result)
    (requirements gaps checks : String) : Prop where
  converted : ∃ rule chosen, Rule.acceptAny (i.field "sigma_yaml") = .ok rule ∧
    options s i = .ok chosen ∧ Conversion.convert rule chosen = .ok result ∧
      rule.getOr "title" (.text "Untitled Rule") = .ok name
  requirements_eq : Json.write (Notes.ofResult result).requirements = .ok requirements
  gaps_eq : Json.write (Notes.ofResult result).gaps = .ok gaps
  checks_eq : Json.write (Notes.ofResult result).checks = .ok checks

lemma run_toSearch_eq_ok {s' : Server} {v : Value} :
    (toSearch i).run.run s = (.ok v, s') ↔ ∃ name result requirements gaps checks id,
      Searched i s.store name result requirements gaps checks ∧
        (noted i.now (searchFields i name result.search requirements gaps checks)).run.run s =
          (.ok id, s') ∧
        v = told id name (.text result.search) (i.field "sigma_yaml") (.ofResult result)
          [("llm_used", .bool false)] := by
  unfold toSearch
  dsimp only
  split
  · rename_i hrejected
    constructor
    · intro h
      cases h
    · rintro ⟨name, result, requirements, gaps, checks, id, ⟨⟨rule, chosen, hrule, -⟩, -⟩, -⟩
      rw [hrejected] at hrule
      cases hrule
  · rename_i rule hrule
    simp only [ask_bind_eq_ok, orFault_bind_eq_ok, bind_assoc, pure_bind]
    constructor
    · rintro ⟨chosen, hchosen, result, hresult, name, hname, requirements, hrequirements, gaps,
        hgaps, checks, hchecks, h⟩
      obtain ⟨id, _, hid, h⟩ := run_bind_eq_ok.1 h
      cases h
      exact ⟨name, result, requirements, gaps, checks, id,
        ⟨⟨rule, chosen, hrule, hchosen, hresult, hname⟩, hrequirements, hgaps, hchecks⟩, hid, rfl⟩
    · rintro ⟨name, result, requirements, gaps, checks, id, hsearched, hid, rfl⟩
      obtain ⟨⟨rule', chosen, hrule', hchosen, hresult, hname⟩, hrequirements, hgaps, hchecks⟩ :=
        hsearched
      obtain rfl := Except.ok.inj (hrule.symm.trans hrule')
      exact ⟨chosen, hchosen, result, hresult, name, hname, requirements, hrequirements, gaps,
        hgaps, checks, hchecks, run_bind_eq_ok.2 ⟨id, s', hid, rfl⟩⟩

lemma run_toSearch_empty (hempty : s.store = Store.empty)
    {title rule requirements gaps checks : String}
    (hrule : i.field "sigma_yaml" = .text rule) (hprofile : i.field "profile_id" = .null)
    (h : Searched i s.store (.text title) result requirements gaps checks)
    (hhalves : ∀ t ∈ [title, rule, result.search], Text.holdsHalf t = false) :
    ∃ s', (toSearch i).run.run s = (.ok (told (.int 1) (.text title) (.text result.search)
      (.text rule) (.ofResult result) [("llm_used", .bool false)]), s') := by
  obtain ⟨_, _, -, -, hconvert, -⟩ := h.converted
  obtain ⟨hneeds, -, hgaps, hchecks⟩ := neat_notes hconvert
  have htext {n : Nat} {t : String} (h : Text.holdsHalf t = false) :
      Store.Cell.ofValue n (.text t) = .ok (.text t) := by
    rw [Store.Cell.ofValue, h]
    rfl
  have hwritten {n m : Nat} {v : Value} {t : String} (hneat : v.Neat n)
      (hwrite : Json.write v = .ok t) : Store.Cell.ofValue m (.text t) = .ok (.text t) :=
    htext (Text.holdsHalf_of_ascii (Json.ascii_textOf hneat hwrite))
  simp only [forall_mem_singleton, forall_mem_cons] at hhalves
  have hcells : Store.Cell.ofValues [.text title, .text "sigma_to_spl", .null, .text rule, .null,
      .text result.search, .text requirements, .text gaps, .text checks, .null, .int 0] =
        .ok [.text title, .text "sigma_to_spl", .null, .text rule, .null, .text result.search,
          .text requirements, .text gaps, .text checks, .null, .int 0] := by
    refine mapM_eq_ok.2 ?_
    exact .cons (htext hhalves.1) <| .cons (htext (by decide)) <| .cons rfl <|
      .cons (htext hhalves.2.1) <| .cons rfl <| .cons (htext hhalves.2.2) <|
      .cons (hwritten hneeds h.requirements_eq) <| .cons (hwritten hgaps h.gaps_eq) <|
      .cons (hwritten hchecks h.checks_eq) <| .cons rfl <| .cons rfl .nil
  have hadd {r : Record} (hr : Record.ofFields .conversion i.now
      (searchFields i (.text title) result.search requirements gaps checks) = .ok r) :
      ∃ store, s.store.add .conversions i.now (Store.valuesOf r Store.conversionColumns) =
        .ok (1, store) := by
    rw [searchFields, hrule, hprofile] at hr
    cases hr
    rw [hempty]
    exact ⟨_, bind_eq_ok.2 ⟨_, hcells, rfl⟩⟩
  obtain ⟨store, hstore⟩ := hadd rfl
  exact ⟨_, run_toSearch_eq_ok.2 ⟨_, _, _, _, _, _, h,
    run_noted_eq_ok.2 ⟨_, 1, store, rfl, hstore, rfl, rfl⟩, by rw [hrule]⟩⟩

/-- The first conversion can be noted, and what it tells passes a test. -/
def tellsFirst (i : Input) (p : Value → Bool) : Bool :=
  match i.field "sigma_yaml", i.field "profile_id" with
  | .text rule, .null =>
    (Rule.acceptAny (.text rule)).toOption.any fun accepted =>
    (options Store.empty i).toOption.any fun chosen =>
    (convert accepted chosen).toOption.any fun result =>
    (accepted.getOr "title" (.text "Untitled Rule")).toOption.any fun
      | .text title =>
        (Json.write (Notes.ofResult result).requirements).toOption.any fun _ =>
        (Json.write (Notes.ofResult result).gaps).toOption.any fun _ =>
        (Json.write (Notes.ofResult result).checks).toOption.any fun _ =>
        [title, rule, result.search].all (!Text.holdsHalf ·) &&
          p (told (.int 1) (.text title) (.text result.search) (.text rule) (.ofResult result)
            [("llm_used", .bool false)])
      | _ => false
  | _, _ => false

lemma run_toSearch_of_tellsFirst (hempty : s.store = Store.empty)
    {p : Value → Bool} (h : tellsFirst i p) :
    ∃ v s', (toSearch i).run.run s = (.ok v, s') ∧ p v := by
  unfold tellsFirst at h
  split at h
  · rename_i rule hrule hprofile
    obtain ⟨accepted, haccepted, h⟩ := exists_ok_of_any h
    obtain ⟨chosen, hchosen, h⟩ := exists_ok_of_any h
    obtain ⟨result, hresult, h⟩ := exists_ok_of_any h
    obtain ⟨name, hname, h⟩ := exists_ok_of_any h
    split at h
    · obtain ⟨requirements, hrequirements, h⟩ := exists_ok_of_any h
      obtain ⟨gaps, hgaps, h⟩ := exists_ok_of_any h
      obtain ⟨checks, hchecks, h⟩ := exists_ok_of_any h
      rw [Bool.and_eq_true, all_eq_true] at h
      rw [← hrule] at haccepted
      rw [← hempty] at hchosen
      obtain ⟨s', hrun⟩ := run_toSearch_empty hempty hrule hprofile
        ⟨⟨accepted, chosen, haccepted, hchosen, hresult, hname⟩, hrequirements, hgaps, hchecks⟩
        fun t ht => by simpa using h.1 t ht
      exact ⟨_, s', hrun, h.2⟩
    · cases h
  · cases h

lemma improved_quiet (search rule note : Value) : Quiet (improved search rule note) := by
  refine .bind quiet_get fun s => ?_
  dsimp only
  split
  · exact quiet_pure _
  · refine .bind (quiet_talk _) fun advice => ?_
    split
    · exact quiet_pure _
    · split
      · exact quiet_pure _
      · exact .bind (quiet_orFault _) fun lines => quiet_pure _

lemma toRule_allOrNothing (i : Input) : AllOrNothing Kept (toRule i) := by
  unfold toRule
  dsimp only
  split
  · exact deny_allOrNothing _ (by decide)
  · refine .bind (quiet_orFault _) fun draft => ?_
    refine .bind (improved_quiet _ _ _) fun improved => ?_
    split
    · refine .bind (quiet_orFault _) fun result => ?_
      refine .bind (quiet_pure _) fun notes => .bind quiet_get fun s => ?_
      exact told_allOrNothing (by simp)
    · refine .bind (quiet_pure _) fun notes => .bind quiet_get fun s => ?_
      exact told_allOrNothing (by simp)

lemma fromDescription_allOrNothing (i : Input) : AllOrNothing Kept (fromDescription i) := by
  refine .bind quiet_get fun s => ?_
  dsimp only
  split
  · exact deny_allOrNothing _ (by decide)
  · refine .bind (quiet_talk _) fun made => ?_
    split
    · -- Nothing was made.
      split
      · exact .bind (quiet_orFault _) fun reason => deny_allOrNothing _ (by decide)
      · exact deny_allOrNothing _ (by decide)
    · split
      · exact deny_allOrNothing _ (by decide)
      · refine .bind (quiet_orFault _) fun result => ?_
        split
        · refine .bind (quiet_orFault _) fun lines => .bind (quiet_pure _) fun note => ?_
          exact .bind (quiet_orFault _) fun name => told_allOrNothing (by simp)
        · refine .bind (quiet_pure _) fun note => ?_
          exact .bind (quiet_orFault _) fun name => told_allOrNothing (by simp)

end Web.Conversions

namespace Web

open Serving Conversions Conversion

variable {r : Request} {route : Route} {path : String}

lemma wayOf_eq_served {all : List Route} {n : Nat}
    {values : TextPairs} (hroute : all[n]? = some route)
    (hmethod : r.method = route.method) (hpath : r.path = path)
    (hslash : path.toList.head? = some '/')
    (hvalues : route.pattern.values? (segmentsOf path) = some values)
    (hbefore : (all.take n).all fun x =>
      x.method != route.method || (x.pattern.values? (segmentsOf path)).isNone) :
    wayOf all r = .served route values := by
  subst hpath
  rw [← hmethod] at hbefore
  have hfind : (fitting all r.path).find? (fun f => f.1.method == r.method) =
      some (route, values) := by
    rw [fitting, if_pos (by simp [hslash])]
    have hsplit : all = all.take n ++ route :: all.drop (n + 1) := by
      obtain ⟨hn, rfl⟩ := List.getElem?_eq_some_iff.1 hroute
      rw [← drop_eq_getElem_cons hn, take_append_drop]
    conv_lhs => rw [hsplit]
    rw [filterMap_append, find?_append, find?_eq_none.2, Option.none_or, filterMap_cons, hvalues]
    · simp [hmethod]
    · intro f hf
      obtain ⟨x, hx, hfit⟩ := mem_filterMap.1 hf
      obtain ⟨v, hv, rfl⟩ := Option.map_eq_some_iff.1 hfit
      have hskip := all_eq_true.1 hbefore x hx
      simpa [hv] using hskip
  rw [wayOf]
  split
  · rename_i hnone
    rw [hnone] at hfind
    cases hfind
  · rw [hfind]

/-- A path without values gets to the first route that is for it. -/
lemma wayOf_routes (n : Nat)
    (hroute : routes[n]? = some route) (hmethod : r.method = route.method) (hpath : r.path = path)
    (h : path.toList.head? = some '/' ∧ route.pattern.values? (segmentsOf path) = some [] ∧
      (routes.take n).all fun x =>
        x.method != route.method || (x.pattern.values? (segmentsOf path)).isNone) :
    wayOf routes r = .served route [] :=
  wayOf_eq_served hroute hmethod hpath h.1 h.2.1 h.2.2

abbrev searchRoute : Route :=
  posting "POST" "/api/sigma/convert/sigma-to-spl" Form.convertRule toSearch

lemma wayOf_searchRoute (hmethod : r.method = "POST")
    (hpath : r.path = "/api/sigma/convert/sigma-to-spl") :
    wayOf routes r = .served searchRoute [] :=
  wayOf_routes 25 rfl hmethod hpath (by decide +kernel)

def conversionPaths : Texts :=
  ["/api/sigma/convert/sigma-to-spl", "/api/sigma/convert/spl-to-sigma",
   "/api/sigma/convert/describe"]

/-- A request for a conversion. -/
def Request.Converts (r : Request) : Prop := r.method = "POST" ∧ r.path ∈ conversionPaths

lemma Request.Converts.ne_head (h : r.Converts) : r.method ≠ "HEAD" := by
  rw [h.1]
  decide

lemma wayOf_of_converts (h : r.Converts) :
    ∃ pattern form run, wayOf routes r = .served (posting "POST" pattern form run) [] ∧
      ∀ i, AllOrNothing Kept (run i) := by
  obtain ⟨hmethod, hpath⟩ := h
  simp only [conversionPaths, mem_cons, not_mem_nil, or_false] at hpath
  rcases hpath with hpath | hpath | hpath
  · exact ⟨_, _, _, wayOf_searchRoute hmethod hpath, toSearch_allOrNothing⟩
  · have hroute : routes[26]? = some (posting "POST" "/api/sigma/convert/spl-to-sigma"
        Form.convertSearch toRule) := rfl
    exact ⟨_, _, _, wayOf_routes 26 hroute hmethod hpath (by decide +kernel), toRule_allOrNothing⟩
  · have hroute : routes[27]? = some (posting "POST" "/api/sigma/convert/describe"
        Form.describe fromDescription) := rfl
    exact ⟨_, _, _, wayOf_routes 27 hroute hmethod hpath (by decide +kernel),
      fromDescription_allOrNothing⟩

namespace Route

lemma both_eq_ok {α β : Type} {a : Except (List Form.Error) α} {b : Except (List Form.Error) β}
    {x : α} {y : β} : both a b = .ok (x, y) ↔ a = .ok x ∧ b = .ok y := by
  cases a <;> cases b <;> simp [both]

lemma mapError_eq_ok {ε ε' α : Type} {f : ε → ε'} {x : Except ε α} {a : α} :
    x.mapError f = .ok a ↔ x = .ok a := by
  cases x <;> simp [Except.mapError]

lemma input_eq_ok {route : Route} {now : Moment} {values : TextPairs}
    {r : Request} {i : Input} (h : route.input now values r = .ok i) : i.now = now ∧ ∃ path query,
      Form.Kind.checkFields (pathFields route.pattern) (textEntries values) = .ok path ∧
      Form.Kind.checkFields route.query (textEntries r.query) = .ok query ∧
      i.arguments = path ++ query ∧
      ∀ kind, route.body = some kind → ∃ document, kind.check document = .ok i.body := by
  unfold input at h
  split at h
  all_goals
    rename_i hkind
    obtain ⟨document, -, h⟩ := bind_eq_ok.1 h
    obtain ⟨⟨path, query, body⟩, hchecked, h⟩ := bind_eq_ok.1 h
    cases h
    obtain ⟨hpath, hchecked⟩ := both_eq_ok.1 (mapError_eq_ok.1 hchecked)
    obtain ⟨hquery, hbody⟩ := both_eq_ok.1 hchecked
    refine ⟨rfl, path, query, mapError_eq_ok.1 hpath, mapError_eq_ok.1 hquery, rfl, ?_⟩
    intro kind' hkind'
  · obtain rfl := Option.some.inj (hkind.symm.trans hkind')
    have hbody := mapError_eq_ok.1 hbody
    split at hbody
    · cases hbody
    · exact ⟨document, hbody⟩
  · rw [hkind] at hkind'
    cases hkind'

end Route

/-- What the endpoint of a request gives, if the request gets there and is not halted. -/
def Server.given? (s : Server) (now : Moment) (r : Request) : Option Value :=
  match wayOf routes r with
  | .served route values =>
    match route.input now values r with
    | .ok input => ((route.run input).run.run s).1.toOption
    | .error _ => none
  | _ => none

/-- A conversion is carried out and noted as a whole, or not at all: either it is told with the
    number of its row, which is all that is new in the store, or the store is as it was. -/
def Server.Atomic (s : Server) (now : Moment) (r : Request) : Prop :=
  (∃ body row, (s.respond now r).1 = .ok ⟨200, body⟩ ∧ body.field? "id" = some (.int row.id) ∧
    (∀ r ∈ s.store.conversions.rows, r.id < row.id) ∧
      (s.respond now r).2.store = s.store.noting row) ∨
  ((∀ body, (s.respond now r).1 ≠ .ok ⟨200, body⟩) ∧ (s.respond now r).2.store = s.store)

section

variable (s : Server) (now : Moment) {r : Request}

lemma encodable_eq_ok {reply reply' : Reply} (h : reply.encodable = .ok reply') :
    reply' = reply ∧ Reply.unencodable? reply.body = none := by
  rw [Reply.encodable] at h
  split at h
  · cases h
  · rename_i hnone
    exact ⟨(Except.ok.inj h).symm, hnone⟩

lemma ne_of_status {reply : Try Reply} (h : ∀ x, reply = .ok x → x.status ≠ 200)
    (body : Value) : reply.bind Reply.encodable ≠ .ok ⟨200, body⟩ := by
  intro heq
  obtain ⟨x, hx, hencodable⟩ := bind_eq_ok.1 heq
  exact h x hx (by rw [← (encodable_eq_ok hencodable).1])

lemma respond_cases {route : Route} {values : TextPairs}
    (hway : wayOf routes r = .served route values) (hmethod : r.method ≠ "HEAD")
    (hroute : ∀ i, AllOrNothing Kept (route.run i)) :
    (s.given? now r = none ∧ (s.respond now r).2.store = s.store ∧
      ∀ body, (s.respond now r).1 ≠ .ok ⟨200, body⟩) ∨
    ∃ v, s.given? now r = some v ∧ Kept s.store v (s.respond now r).2.store ∧ (s.respond now r).1 =
        ((Reply.bodyOf v).map fun body => (⟨200, body⟩ : Reply)).bind Reply.encodable := by
  have hrespond : s.respond now r = ((s.serve now route values r).1.bind Reply.encodable,
      (s.serve now route values r).2) := by
    simp [Server.respond, hway, hmethod]
  rw [hrespond]
  simp only [Server.given?, hway, Server.serve]
  cases hinput : route.input now values r with
  | error rejection =>
    refine .inl ⟨rfl, ?_⟩
    cases rejection with
    | unreadable => exact ⟨rfl, ne_of_status fun x hx => by cases hx; simp [Reply.ofDetail]⟩
    | invalid errors =>
      refine ⟨rfl, ne_of_status fun x hx => ?_⟩
      dsimp only at hx
      split at hx
      · cases hx
        simp [Reply.ofDetail]
      · cases hx
  | ok input =>
    dsimp only
    rcases hresult : (route.run input).run.run s with ⟨halt | v, s'⟩
    · obtain ⟨hstore, hhalt⟩ := (hroute input).halted hresult
      refine .inl ⟨rfl, hstore, ne_of_status fun x hx => ?_⟩
      cases halt with
      | denied status detail =>
        cases hx
        exact fun hstatus => hhalt detail (by rw [show status = 200 from hstatus])
      | fault f => cases hx
    · exact .inr ⟨v, rfl, (hroute input).given hresult, rfl⟩

lemma noting_ne (s : Store) (row : Store.Row) : s.noting row ≠ s := by
  intro h
  have hrows : s.conversions.rows ++ [row] = s.conversions.rows :=
    congrArg (fun s => s.conversions.rows) h
  simp at hrows

variable {v : Value}

lemma kept_of_given (h : r.Converts) (hv : s.given? now r = some v) :
    Kept s.store v (s.respond now r).2.store ∧ (s.respond now r).1 =
      ((Reply.bodyOf v).map fun body => (⟨200, body⟩ : Reply)).bind Reply.encodable := by
  obtain ⟨pattern, form, run, hway, hrun⟩ := wayOf_of_converts h
  rcases respond_cases s now hway h.ne_head hrun with ⟨hnone, -⟩ | ⟨w, hw, hkept⟩
  · rw [hnone] at hv
    cases hv
  · rwa [← Option.some.inj (hw.symm.trans hv)]

lemma sendable_of_atomic (h : r.Converts) (hv : s.given? now r = some v)
    (hatomic : s.Atomic now r) : Reply.Sendable v := by
  obtain ⟨⟨row, -, hstore, -⟩, hreply⟩ := kept_of_given s now h hv
  rcases hatomic with ⟨body, -, hbody, -⟩ | ⟨-, hsame⟩
  · rw [hreply] at hbody
    obtain ⟨reply, hreply, hencodable⟩ := bind_eq_ok.1 hbody
    obtain ⟨body', hbody', rfl⟩ := map_eq_ok.1 hreply
    exact ⟨body', hbody', (encodable_eq_ok hencodable).2⟩
  · exact absurd (hstore.symm.trans hsame) (noting_ne _ _)

lemma respond_of_sendable (h : r.Converts) (hv : s.given? now r = some v)
    (hsendable : Reply.Sendable v) :
    ∃ body row, (s.respond now r).1 = .ok ⟨200, body⟩ ∧ body.field? "id" = some (.int row.id) ∧
      (∀ r ∈ s.store.conversions.rows, r.id < row.id) ∧
        (s.respond now r).2.store = s.store.noting row := by
  obtain ⟨⟨row, hlt, hstore, fields, rfl, hid, hnames, hinner⟩, hreply⟩ := kept_of_given s now h hv
  obtain ⟨body, hbody, hencodable⟩ := hsendable
  obtain ⟨shown, hshown, rfl⟩ := (Reply.bodyOf_record hnames hinner).1 hbody
  obtain ⟨id, hid, hint⟩ := Reply.field?_of_forall₂ hshown hid
  obtain rfl := Reply.bodyOf_int hint
  refine ⟨_, row, ?_, hid, hlt, hstore⟩
  rw [hreply, hbody]
  show Reply.encodable _ = _
  rw [Reply.encodable, hencodable]

/-- A conversion is atomic exactly if what its endpoint gives can be sent: by then it is noted. -/
theorem respond_atomic_iff (h : r.Converts) :
    (s.Atomic now r ↔ ∀ v, s.given? now r = some v → Reply.Sendable v) ∧
      ∀ v, s.given? now r = some v → Kept s.store v (s.respond now r).2.store := by
  refine ⟨⟨fun hatomic v hv => sendable_of_atomic s now h hv hatomic, fun hsendable => ?_⟩,
    fun v hv => (kept_of_given s now h hv).1⟩
  cases hgiven : s.given? now r with
  | none =>
    -- Nothing was given, so nothing was noted.
    obtain ⟨pattern, form, run, hway, hrun⟩ := wayOf_of_converts h
    rcases respond_cases s now hway h.ne_head hrun with ⟨-, hstore, hreply⟩ | ⟨v, hv, -⟩
    · exact .inr ⟨hreply, hstore⟩
    · rw [hgiven] at hv
      cases hv
  | some v => exact .inl (respond_of_sendable s now h hgiven (hsendable v hgiven))

end

/-- A server without anything. -/
def bareServer : Server where
  tree := ⟨"", [], by decide⟩
  shelf := ⟨.ofText "", none, []⟩
  rules := .ofText ""
  store := Store.empty
  env := ⟨[]⟩
  settings := ⟨"", "", "none", none, none, "", 0, "", false⟩
  assistant := ⟨"none", none⟩
  session := ⟨⟨[], true, false, []⟩, true⟩

/-- The start of a year. -/
def newYear : Moment := ⟨⟨2024, 1, 1⟩, 0, 0, 0, 0, none⟩

def searchRequest (body : Option String) : Request where
  method := "POST"
  path := "/api/sigma/convert/sigma-to-spl"
  query := []
  body := body

lemma given?_searchRequest (body : Option String) {p : Value → Bool}
    (h : (searchRoute.input newYear [] (searchRequest body)).toOption.any fun i => tellsFirst i p) :
    ∃ v, bareServer.given? newYear (searchRequest body) = some v ∧ p v = true := by
  obtain ⟨i, hi, htells⟩ := exists_ok_of_any h
  obtain ⟨v, s', hrun, hp⟩ := run_toSearch_of_tellsFirst (s := bareServer) rfl htells
  refine ⟨v, ?_, hp⟩
  rw [Server.given?, wayOf_searchRoute rfl rfl]
  dsimp only
  rw [hi]
  exact congrArg (fun r => r.1.toOption) hrun

/-- A request to convert a rule that asks for half a character. -/
def halfRequest : Request :=
  searchRequest ("\x7b\"sigma_yaml\": \"\x7btitle: a, logsource: \x7b\x7d, detection: " ++
    "\x7bs: \x7b\\\"\\\\ud800\\\": a\x7d, condition: a\x7d\x7d\"\x7d")

lemma given?_halfRequest :
    ∃ v, bareServer.given? newYear halfRequest = some v ∧ ¬Reply.Sendable v := by
  obtain ⟨v, hv, hsendable⟩ := given?_searchRequest halfRequest.body
    (p := fun v => !decide (Reply.Sendable v)) (by decide +kernel)
  exact ⟨v, hv, by simpa using hsendable⟩

/-- The conversion is noted, though it cannot be told. -/
theorem kept_halfRequest : halfRequest.Converts ∧ ∃ v,
    bareServer.given? newYear halfRequest = some v ∧
      Kept bareServer.store v (bareServer.respond newYear halfRequest).2.store := by
  have hconverts : halfRequest.Converts := ⟨rfl, by decide⟩
  obtain ⟨v, hv, -⟩ := given?_halfRequest
  exact ⟨hconverts, v, hv, (respond_atomic_iff bareServer newYear hconverts).2 v hv⟩

/-- So it is neither carried out as a whole nor left undone. -/
theorem not_atomic_halfRequest : ¬bareServer.Atomic newYear halfRequest := by
  obtain ⟨v, hv, hunsendable⟩ := given?_halfRequest
  exact fun hatomic => hunsendable (sendable_of_atomic _ _ ⟨rfl, by decide⟩ hv hatomic)

end Web

end Huntbook
