import Huntbook.Proofs.Endpoints

/-!
# Field names of other profiles

The endpoints for field names have a profile in their path. New field names get this profile, and
those that are replaced at once are its own.

* `respond_confined_iff`: when a request is confined to the profile in its path.
-/

namespace Huntbook

open List

namespace Store

variable {s s' : Store} {p m : Int} {now : Moment}

/-- Whether a field name belongs to another profile. -/
def Row.isForeign (p : Int) (r : Row) : Bool := !(r.get "profile_id").equals (.int p)

/-- The field names of other profiles. -/
def foreign (s : Store) (p : Int) : List Row := s.mappings.rows.filter (Row.isForeign p)

def Beside (p : Int) (rows : List Row) (s : Store) : Prop := s.Sound ∧ s.foreign p = rows

lemma Row.isForeign_of_get {r : Row} (h : r.get "profile_id" = .int p) :
    r.isForeign p = false := by
  simp [isForeign, h, Cell.equals, Cell.isNull, Cell.less]

lemma Beside.add {rows : List Row} (h : s.Beside p rows) {values : Fields}
    {id : Int} (hadd : s.add .mappings now values = .ok (id, s'))
    (hprofile : values.lookup "profile_id" = some (.int p)) : s'.Beside p rows := by
  refine ⟨h.1.add hadd, ?_⟩
  obtain ⟨row, rfl, -, -, hmade⟩ := add_made (h.1 .mappings) hadd
  obtain ⟨c, hc, hget⟩ := hmade.given "profile_id" (by decide) _ hprofile
  obtain rfl := eq_of_bound_int hc
  show (s.mappings.rows ++ [row]).filter _ = _
  rw [filter_append, filter_cons_of_neg (by simp [Row.isForeign_of_get hget]),
    filter_nil, append_nil]
  exact h.2

/-! ## One field name -/

def ChangedAt (m : Int) (s s' : Store) : Prop :=
  ∃ f : Row → Option Row,
    s' = s.put .mappings { s.mappings with rows := s.mappings.rows.filterMap f } ∧
    ∀ r ∈ s.mappings.rows, (r.id ≠ m → f r = some r) ∧
      ∀ r', f r = some r' → r'.get "profile_id" = r.get "profile_id"

/-- The store has changed, and the field name with the number was one of another profile. -/
def Trespassed (p : Int) (number : Value) (s s' : Store) : Prop :=
  s' ≠ s ∧ ∃ r ∈ s.mappings.rows, number = .int r.id ∧ r.isForeign p

lemma foreign_eq_iff (hrising : s.mappings.rows.Pairwise (·.id < ·.id)) (h : ChangedAt m s s') :
    s'.foreign p = s.foreign p ↔ ¬Trespassed p (.int m) s s' := by
  obtain ⟨f, rfl, hf⟩ := h
  have hsame {rows : List Row} (h : ∀ r ∈ rows, f r = some r) : rows.filterMap f = rows := by
    rw [filterMap_congr h, filterMap_some]
  have hforeign : (s.put .mappings { s.mappings with rows := s.mappings.rows.filterMap f }).foreign
      p = (s.foreign p).filterMap f := by
    show (s.mappings.rows.filterMap f).filter _ = (s.mappings.rows.filter _).filterMap f
    rw [filter_filterMap, filterMap_filter]
    refine filterMap_congr fun r hr => ?_
    cases hfr : f r with
    | none => simp
    | some r' =>
      have hprofile : r'.isForeign p = r.isForeign p := by
        rw [Row.isForeign, Row.isForeign, (hf r hr).2 r' hfr]
      cases hr' : r.isForeign p <;> simp [hprofile, hr']
  rw [hforeign]
  constructor
  · rintro heq ⟨hne, r, hr, hid, hr'⟩
    have hid : r.id = m := (Value.int.inj hid).symm
    -- The row is one of those that are left, so it was left as it is.
    have hmem : r ∈ (s.foreign p).filterMap f := by
      rw [heq]
      exact mem_filter.2 ⟨hr, hr'⟩
    obtain ⟨q, hq, hfq⟩ := mem_filterMap.1 hmem
    have hq := mem_of_mem_filter hq
    have hfr : f r = some r := by
      by_cases hqid : q.id = m
      · rwa [← Table.eq_of_id_eq hrising hr hq (hid.trans hqid.symm)] at hfq
      · obtain rfl := Option.some.inj (hfq.symm.trans ((hf q hq).1 hqid))
        exact hfq
    have hrows : s.mappings.rows.filterMap f = s.mappings.rows := hsame fun q hq => by
      by_cases hqid : q.id = m
      · rwa [Table.eq_of_id_eq hrising hq hr (hqid.trans hid.symm)]
      · exact (hf q hq).1 hqid
    exact hne (by rw [hrows]; rfl)
  · intro hnot
    by_cases heq : s.put .mappings { s.mappings with rows := s.mappings.rows.filterMap f } = s
    · rw [← hforeign, heq]
    · refine hsame fun r hr => ?_
      obtain ⟨hr, hr'⟩ := mem_filter.1 hr
      exact (hf r hr).1 fun hid => hnot ⟨heq, r, hr, by rw [hid], hr'⟩

lemma changedAt_drop {found : Bool} (h : s.drop .mappings (.int m) = .ok (found, s')) :
    ChangedAt m s s' := by
  obtain ⟨key, hkey, rfl⟩ := drop_eq_ok h
  obtain rfl := eq_of_bound_int hkey
  refine ⟨Option.guard fun r => !(some m == some r.id), ?_, fun r hr => ⟨fun hid => ?_, ?_⟩⟩
  · rw [filterMap_eq_filter]
    rfl
  · simpa using Ne.symm hid
  · simp

lemma changedAt_modify (hsound : s.Sound) (values : Fields) {n : Nat}
    (hcolumns : Part.mappings.Named (values.map (·.1))) (hprofile : "profile_id" ∉ values.map (·.1))
    (h : s.modify .mappings now (values.map (·.1)) (values.map (·.2) ++ [.int m]) = .ok (n, s')) :
    ChangedAt m s s' := by
  obtain ⟨key, renew, hkey, rfl, -, hrenew⟩ :=
    modify_made (hsound .mappings) (by decide) values hcolumns h
  obtain rfl := eq_of_bound_int hkey
  refine ⟨fun r => some (if (Cell.int m).names r.id then renew r else r), ?_,
    fun r hr => ⟨fun hid => ?_, fun r' hr' => ?_⟩⟩
  · rw [filterMap_eq_map']
    rfl
  · exact congrArg some (if_neg fun hnames => hid (Cell.names_int_iff.1 hnames))
  · cases hr'
    split
    · refine (hrenew r hr).kept "profile_id" (by decide) (by decide) ?_
      rw [lookup_eq_none_iff]
      intro e he
      simp only [bne_iff_ne]
      rintro heq
      exact hprofile (heq ▸ mem_map_of_mem (mem_reverse.1 he))
    · rfl

lemma run_updateMapping_snd (now : Moment) (id : Value) (entries : Entries) (s : Store) :
    ((updateMapping now id (.map entries)).run.run s).2 = s ∨ ∃ n,
      s.modify .mappings now (entries.map (·.1.plain)) (entries.map (·.2) ++ [id]) =
        .ok (n, ((updateMapping now id (.map entries)).run.run s).2) := by
  rw [updateMapping, updateRecord, run_bind, run_change]
  cases hmodify : s.modify .mappings now (entries.map (·.1.plain)) (entries.map (·.2) ++ [id]) with
  | error e => exact .inl rfl
  | ok changed =>
    refine .inr ⟨changed.1, ?_⟩
    dsimp only
    rw [Call.run_ask]

end Store

namespace Web

open Serving

abbrev changeRoute : Route :=
  posting "PATCH" "/api/sigma/profiles/#profile_id/mappings/#mapping_id" Form.mappingUpdate
    Records.updateMapping

/-- The route for a field name to delete. -/
abbrev dropRoute : Route :=
  simple "DELETE" "/api/sigma/profiles/#profile_id/mappings/#mapping_id" fun i =>
    Records.done "Mapping deleted successfully" Records.noMapping
      (Store.deleteMapping (i.arg "mapping_id"))

/-- The routes for field names that are made, changed, deleted, or replaced at once. -/
def mappingRoutes : List Route :=
  [posting "POST" "/api/sigma/profiles/#profile_id/mappings" Form.mappingCreate
     Records.createMapping,
   changeRoute, dropRoute,
   posting "POST" "/api/sigma/profiles/#profile_id/mappings/bulk" Form.mappingImport
     Records.importMappings]

variable {s : Server} {now : Moment} {r : Request} {values : TextPairs} {i : Input}
  {p : Int}

lemma numbers_of_input {route : Route} (hquery : route.query = []) {names : Texts}
    (hfields : Route.pathFields route.pattern = names.map (·, .int, none))
    (hinput : route.input now values r = .ok i) :
    Forall₂ (fun name g => ∃ n, g = (name, Value.int n)) names i.arguments := by
  obtain ⟨-, path, query, hpath, hnone, harguments, -⟩ := Route.input_eq_ok hinput
  rw [hquery] at hnone
  cases hnone
  rw [harguments, append_nil]
  rw [hfields] at hpath
  refine (forall₂_map_left_iff.1 (Form.Kind.checkFields_eq_ok hpath)).imp ?_
  rintro name ⟨_, v⟩ ⟨rfl, ⟨w, hw⟩ | hnone⟩
  · obtain ⟨n, -, rfl⟩ := Conversion.map_eq_ok.1 hw
    exact ⟨n, rfl⟩
  · cases hnone

lemma keeps_orFault_bind {α β : Type} {I : Server → Prop} {x : Try α}
    {f : α → Serving β} (h : ∀ a, x = .ok a → Keeps I (f a)) : Keeps I (orFault x >>= f) := by
  cases x with
  | error e => exact .throw
  | ok a => exact h a rfl

lemma lookup_mappingOf {profile fields : Value} {record : Record}
    (h : Records.mappingOf now profile fields = .ok record) :
    (Store.valuesOf record Store.mappingColumns).lookup "profile_id" = some profile ∧
      (Store.valuesOf (record.set "profile_id" profile) Store.mappingColumns).lookup "profile_id" =
        some profile := by
  cases h
  exact ⟨rfl, rfl⟩

lemma keeps_stored {α : Type} {I : Store → Prop} {w : Store.Work α} (h : Keeps I w) :
    Keeps (fun s : Server => I s.store) (stored w) := by
  intro s hs
  rw [run_stored]
  exact h s.store hs

lemma keeps_createMapping (hp : i.arg "profile_id" = .int p) (rows : List Store.Row) :
    Keeps (fun s : Server => s.store.Beside p rows) (Records.createMapping i) := by
  refine keeps_orFault_bind fun record hrecord => .bind (keeps_stored ?_) fun _ => keeps_orFault
  rw [hp] at hrecord
  exact .bind (Store.keeps_change fun hadd hs => hs.add hadd (lookup_mappingOf hrecord).1) fun _ =>
    .pure

lemma keeps_importMappings (hp : i.arg "profile_id" = .int p) (rows : List Store.Row) :
    Keeps (fun s : Server => s.store.Beside p rows) (Records.importMappings i) := by
  refine keeps_orFault_bind fun records hrecords => .bind (keeps_stored ?_) fun _ => .pure
  obtain ⟨all, -, hrecords⟩ := bind_eq_ok.1 hrecords
  rw [hp] at hrecords ⊢
  refine Store.keeps_change fun {s n s'} himport hs => ?_
  obtain ⟨key, hkey, himport⟩ := bind_eq_ok.1 himport
  obtain rfl := Store.eq_of_bound_int hkey
  obtain ⟨s₁, hadd, himport⟩ := bind_eq_ok.1 himport
  cases himport
  -- The profile's own field names are taken out first, and all that are added belong to it.
  refine foldlM_keeps (P := Store.Beside p rows) (fun record hrecord s s' hs h => ?_)
    ⟨hs.1.put ((hs.1 .mappings).erase _), ?_⟩ hadd
  · obtain ⟨⟨id, s''⟩, hadd, h⟩ := bind_eq_ok.1 h
    cases h
    obtain ⟨fields, -, hof⟩ := Conversion.exists_of_mem_mapM hrecords hrecord
    exact hs.add hadd (lookup_mappingOf hof).2
  · rw [← hs.2]
    show (s.mappings.rows.filter _).filter _ = s.mappings.rows.filter _
    rw [filter_filter]
    refine filter_congr fun r _ => ?_
    exact Bool.and_self (r.isForeign p)

lemma changedAt_changeRoute (hsound : s.store.Sound) {m : Int}
    (hm : i.arg "mapping_id" = .int m) (hinput : changeRoute.input now values r = .ok i) :
    ((changeRoute.run i).run.run s).2.store = s.store ∨
      Store.ChangedAt m s.store ((changeRoute.run i).run.run s).2.store := by
  obtain ⟨-, -, -, -, -, -, hbody⟩ := Route.input_eq_ok hinput
  obtain ⟨document, hdocument⟩ := hbody _ rfl
  obtain ⟨entries, given, hgiven, hbody⟩ := Form.Kind.check_form_eq_ok hdocument
  have hnames : given.map (·.1) = ["target_field", "status", "notes"] := by
    have hfields := Form.Kind.checkFields_eq_ok hgiven
    simp only [Form.mappingUpdate, forall₂_cons_left_iff, forall₂_nil_left_iff] at hfields
    obtain ⟨a, _, ⟨ha, -⟩, ⟨b, _, ⟨hb, -⟩, ⟨c, _, ⟨hc, -⟩, rfl, rfl⟩, rfl⟩, rfl⟩ := hfields
    simp [ha, hb, hc, Form.optional]
  let changes := given.filter fun g => i.given.contains g.1
  have hchanges : i.givenFields = changes.map fun g => (.text g.1, g.2) := by
    rw [Input.givenFields, hbody]
    exact filter_map
  have hrun : ((changeRoute.run i).run.run s).2.store =
      ((Store.updateMapping i.now (.int m) (.map i.givenFields)).run.run s.store).2 := by
    show ((Records.updateMapping i).run.run s).2.store = _
    rw [Records.updateMapping, Keeps.snd_bind fun _ _ => keeps_shownOr, run_stored, hm]
  rw [hrun]
  rcases Store.run_updateMapping_snd i.now (.int m) i.givenFields s.store with heq | ⟨n, hmodify⟩
  · exact .inl heq
  · rw [hchanges, map_map, map_map] at hmodify
    have hsub : ∀ name ∈ changes.map (·.1), name ∈ ["target_field", "status", "notes"] := by
      rw [← hnames]
      exact (filter_sublist.map _).subset
    have hne : changes.map (·.1) ≠ [] := by
      -- A statement that sets no column cannot be read.
      intro hempty
      have hbad : (Store.Change.read (Store.Change.text [])).toBool = false := by decide +kernel
      obtain ⟨change, hchange, -⟩ := bind_eq_ok.1 (map_eq_nil_iff.1 hempty ▸ hmodify)
      rw [show Store.Change.read (Store.Change.text []) = .ok change from hchange] at hbad
      cases hbad
    rw [hchanges]
    refine .inr (Store.changedAt_modify hsound changes ⟨hne, fun name hname => ?_⟩ ?_
      hmodify)
    · have hall : ["target_field", "status", "notes"] ⊆
          Store.Part.mappings.empty.columns.map (·.name) := by decide
      exact hall (hsub name hname)
    · exact fun hname => absurd (hsub _ hname) (by decide)

lemma changedAt_dropRoute {m : Int} (hm : i.arg "mapping_id" = .int m) :
    ((dropRoute.run i).run.run s).2.store = s.store ∨
      Store.ChangedAt m s.store ((dropRoute.run i).run.run s).2.store := by
  have hrun : ((dropRoute.run i).run.run s).2.store =
      ((Store.deleteMapping (.int m)).run.run s.store).2 := by
    show ((Records.done _ _ (Store.deleteMapping (i.arg "mapping_id"))).run.run s).2.store = _
    rw [Records.done, Keeps.snd_bind, run_stored, hm]
    intro found I
    split
    · exact .pure
    · exact keeps_deny
  rw [hrun, Store.deleteMapping, Store.run_change]
  cases hdrop : s.store.drop .mappings (.int m) with
  | error e => exact .inl rfl
  | ok found => exact .inr (Store.changedAt_drop hdrop)

lemma args_of_numbers (h : Forall₂ (fun name g => ∃ n, g = (name, Value.int n))
    ["profile_id", "mapping_id"] i.arguments) :
    ∃ p m, i.arg "profile_id" = .int p ∧ i.arg "mapping_id" = .int m := by
  simp only [forall₂_cons_left_iff, forall₂_nil_left_iff] at h
  obtain ⟨_, _, ⟨p, rfl⟩, ⟨_, _, ⟨m, rfl⟩, rfl, rfl⟩, hargs⟩ := h
  simp only [Input.arg, hargs]
  exact ⟨p, m, rfl, rfl⟩

lemma confined_of_keeps (hsound : s.store.Sound)
    (hargs : Forall₂ (fun name g => ∃ n, g = (name, Value.int n)) ["profile_id"] i.arguments)
    {run : Input → Serving Value} (hkeeps : ∀ {i : Input} {p : Int}, i.arg "profile_id" = .int p →
      ∀ rows, Keeps (fun s : Server => s.store.Beside p rows) (run i)) :
    ∃ p, i.arg "profile_id" = .int p ∧ (((run i).run.run s).2.store.foreign p = s.store.foreign p ↔
        ¬Store.Trespassed p (i.arg "mapping_id") s.store ((run i).run.run s).2.store) := by
  simp only [forall₂_cons_left_iff, forall₂_nil_left_iff] at hargs
  obtain ⟨_, _, ⟨p, rfl⟩, rfl, hargs⟩ := hargs
  have hp : i.arg "profile_id" = .int p := by
    rw [Input.arg, hargs]
    rfl
  refine ⟨p, hp, iff_of_true (hkeeps hp _ s ⟨hsound, rfl⟩).2 ?_⟩
  rintro ⟨-, row, -, hid, -⟩
  rw [Input.arg, hargs] at hid
  cases hid

lemma confined_iff (hsound : s.store.Sound) {s' : Store} {m : Int}
    (h : s' = s.store ∨ Store.ChangedAt m s.store s') :
    s'.foreign p = s.store.foreign p ↔ ¬Store.Trespassed p (.int m) s.store s' := by
  rcases h with rfl | h
  · exact iff_of_true rfl fun h => h.1 rfl
  · exact Store.foreign_eq_iff (hsound .mappings).rising h

/-- A request about field names leaves those of other profiles than that in its path alone, unless
    it changes the one whose number is in its path, and this is one of theirs. -/
theorem respond_confined_iff (hsound : s.store.Sound) {route : Route}
    (hroute : route ∈ mappingRoutes) (hway : wayOf routes r = .served route values) :
    (∀ e, route.input now values r = .error e → (s.respond now r).2 = s) ∧
      ∀ i, route.input now values r = .ok i → ∃ p, i.arg "profile_id" = .int p ∧
        ((s.respond now r).2.store.foreign p = s.store.foreign p ↔
          ¬Store.Trespassed p (i.arg "mapping_id") s.store (s.respond now r).2.store) := by
  refine ⟨fun e he => ?_, fun i hinput => ?_⟩
  · cases e <;> simp [Server.respond, hway, Server.serve, he]
  have hrespond : (s.respond now r).2 = ((route.run i).run.run s).2 := by
    unfold Server.respond
    rw [hway]
    dsimp only
    unfold Server.serve
    rw [hinput]
    rfl
  rw [hrespond]
  simp only [mappingRoutes, mem_cons, not_mem_nil, or_false] at hroute
  rcases hroute with rfl | rfl | rfl | rfl
  · exact confined_of_keeps hsound (numbers_of_input rfl rfl hinput) keeps_createMapping
  · obtain ⟨p, m, hp, hm⟩ := args_of_numbers (numbers_of_input rfl rfl hinput)
    exact ⟨p, hp, hm ▸ confined_iff hsound (changedAt_changeRoute hsound hm hinput)⟩
  · obtain ⟨p, m, hp, hm⟩ := args_of_numbers (numbers_of_input rfl rfl hinput)
    exact ⟨p, hp, hm ▸ confined_iff hsound (changedAt_dropRoute hm)⟩
  · exact confined_of_keeps hsound (numbers_of_input rfl rfl hinput) keeps_importMappings

/-- A server with one field name, of the first profile. -/
def strayServer : Server where
  __ := bareServer
  store := (Store.Call.createMapping [("profile_id", .int 1), ("sigma_field", .text "a"),
    ("target_field", .text "b"), ("status", .text "ok")]).after newYear Store.empty

/-- A request to delete it from the second profile. -/
def strayRequest : Request where
  method := "DELETE"
  path := "/api/sigma/profiles/2/mappings/1"
  query := []
  body := none

lemma rows_strayRequest : (strayServer.respond newYear strayRequest).2.store.mappings.rows = [] :=
  eq_nil_of_length_eq_zero (by decide +kernel)

/-- A request about one profile deletes a field name of another. -/
theorem not_confined_strayRequest : ∃ row ∈ strayServer.store.mappings.rows,
    row.isForeign 2 ∧ row ∉ (strayServer.respond newYear strayRequest).2.store.mappings.rows := by
  have hforeign : strayServer.store.mappings.rows.any (Store.Row.isForeign 2) := by
    decide +kernel
  obtain ⟨row, hrow, hforeign⟩ := any_eq_true.1 hforeign
  refine ⟨row, hrow, hforeign, ?_⟩
  rw [rows_strayRequest]
  exact not_mem_nil

/-- The field name that it deletes is the one whose number it gives. -/
theorem trespassed_strayRequest : strayServer.store.Sound ∧ ∃ values i,
    wayOf routes strayRequest = .served dropRoute values ∧
      dropRoute.input newYear values strayRequest = .ok i ∧ i.arg "profile_id" = .int 2 ∧
        Store.Trespassed 2 (i.arg "mapping_id") strayServer.store
          (strayServer.respond newYear strayRequest).2.store := by
  have hsound : strayServer.store.Sound := Store.Call.sound_after _ _ Store.sound_empty
  have hroute : routes[36]? = some dropRoute := rfl
  have hway := wayOf_eq_served hroute (r := strayRequest) rfl rfl (by decide)
    (show Pattern.values? _ _ = some [("profile_id", "2"), ("mapping_id", "1")] by decide +kernel)
    (by decide +kernel)
  obtain ⟨i, hi, hprofile⟩ := exists_ok_of_any (p := fun i => (i.arg "profile_id").agree (.int 2))
    (x := dropRoute.input newYear [("profile_id", "2"), ("mapping_id", "1")] strayRequest)
    (by decide +kernel)
  obtain ⟨p, hp, hiff⟩ := (respond_confined_iff hsound (by simp [mappingRoutes]) hway).2 i hi
  obtain rfl : p = 2 := by
    rw [Value.eq_of_agree hprofile] at hp
    exact (Value.int.inj hp).symm
  refine ⟨hsound, _, i, hway, hi, hp, ?_⟩
  by_contra hnot
  have hsame := hiff.2 hnot
  rw [Store.foreign, rows_strayRequest] at hsame
  exact absurd (congrArg List.length hsame) (by decide +kernel)

end Web

end Huntbook
