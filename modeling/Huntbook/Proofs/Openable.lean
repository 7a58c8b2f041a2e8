import Huntbook.Playbook.Standard
import Huntbook.Proofs.Coherence
import Huntbook.Proofs.Dates
import Huntbook.Proofs.Sorting

/-!
# Playbooks that are listed

A playbook is listed if its document can be read, whatever the document says. To be opened it is
looked for by its identifier, and the first folder with this identifier is taken; its document has
to follow the schema, and the files of its queries have to be readable.

* `load_first`: what is loaded for an identifier.
* `listed_open_iff`: when everything that is listed can be opened.
-/

namespace Huntbook

namespace Playbook

open Folder

variable {t : Tree} {folder place : Path} {schema : Option Value} {name : String} {d p : Value}

/-! ## What is listed -/

/-- The document in a folder, with texts for dates. -/
def document (t : Tree) (folder : Path) (name : String) : Try Value := do
  Yaml.readDated (← t.readText ((folder.join name).join documentName))

variable {e : Summary} {id : String} {s : Shelf}

lemma summary?_eq_some_iff : summary? t folder name = some e ↔
    ∃ d, document t folder name = .ok d ∧ summaryOf d = .ok e := by
  have heq : summary? t folder name = (document t folder name >>= summaryOf).toOption := by
    simp only [summary?, document, bind_assoc]
  rw [heq, toOption_eq_some_iff, bind_eq_ok]

/-- The folder of a playbook, with its summary. -/
def Listed (t : Tree) (folder : Path) (name : String) (e : Summary) : Prop :=
  (∃ names, candidates t folder = .ok names ∧ name ∈ names) ∧ summary? t folder name = some e

lemma mem_summaries_iff {found : List Summary} (h : summaries t folder = .ok found) :
    e ∈ found ↔ ∃ name, Listed t folder name e := by
  obtain ⟨b, hb, h⟩ := bind_eq_ok.1 h
  cases b with
  | false =>
    cases h
    refine iff_of_false List.not_mem_nil ?_
    rintro ⟨name, ⟨names, hnames, -⟩, -⟩
    obtain ⟨listing, hlisting, -⟩ := bind_eq_ok.1 hnames
    cases hb.symm.trans (Tree.exists?_of_listing hlisting)
  | true =>
    obtain ⟨names, hnames, h⟩ := bind_eq_ok.1 h
    simp [(perm_of_sortBy h).mem_iff, Listed, hnames]

/-! ## What is opened -/

/-- The folder of the first playbook with an identifier. -/
def First (t : Tree) (folder : Path) (id : Value) (name : String) : Prop :=
  ∃ before after, candidates t folder = .ok (before ++ name :: after) ∧
    hasId t folder id name ∧ ∀ other ∈ before, ¬hasId t folder id other

lemma find?_eq_ok_iff {id : Value} :
    find? t folder id = .ok (some name) ↔ First t folder id name := by
  rw [find?, bind_eq_ok]
  constructor
  · rintro ⟨names, hnames, h⟩
    obtain ⟨hid, before, after, rfl, hbefore⟩ :=
      List.find?_eq_some_iff_append.1 (Except.ok.inj h)
    exact ⟨before, after, hnames, hid, by simpa using hbefore⟩
  · rintro ⟨before, after, hnames, hid, hbefore⟩
    exact ⟨_, hnames, congrArg Except.ok (List.find?_eq_some_iff_append.2
      ⟨hid, before, after, rfl, by simpa using hbefore⟩)⟩

lemma First.mem {id : Value} (h : First t folder id name) :
    ∃ names, candidates t folder = .ok names ∧ name ∈ names := by
  obtain ⟨before, after, hnames, -⟩ := h
  exact ⟨_, hnames, by simp⟩

def ReadIfThere (t : Tree) (p : Path) : Prop :=
  ∃ b, t.exists? p = .ok b ∧ (b → Succeeds (t.readText p))

def QueriesRead (t : Tree) (place : Path) (playbook : Value) : Prop :=
  ∀ queries, playbook.field? "queries" = some queries → ∃ entries, queries.entries = .ok entries ∧
    ∀ q ∈ entries, ∃ file, q.2 = .text file ∧ ReadIfThere t (place.join file)

/-- The playbook in a folder follows the schema and has readable queries. -/
def Loadable (schema : Option Value) (t : Tree) (folder : Path) (name : String) : Prop :=
  ∃ d, document t folder name = .ok d ∧ QueriesRead t (folder.join name) d ∧
    ∀ rules, schema = some rules → Schema.complaint? rules d = .ok none

lemma queryText_succeeds_iff {file : Value} : Succeeds (Shelf.queryText t place file) ↔
    ∃ s, file = .text s ∧ ReadIfThere t (place.join s) := by
  cases file with
  | text s =>
    have htext : Succeeds (Shelf.queryText t place (.text s)) ↔
        ReadIfThere t (place.join s) := by
      simp only [Shelf.queryText, Succeeds, ReadIfThere, bind_eq_ok]
      constructor
      · rintro ⟨text, b, hb, h⟩
        refine ⟨b, hb, fun hthere => ⟨text, ?_⟩⟩
        rwa [if_pos hthere] at h
      · rintro ⟨b, hb, h⟩
        cases b with
        | false => exact ⟨_, false, hb, rfl⟩
        | true =>
          obtain ⟨text, htext⟩ := h rfl
          exact ⟨text, true, hb, htext⟩
    simp [htext]
  | _ => simp [Shelf.queryText, Succeeds, throw, throwThe, MonadExceptOf.throw]

lemma withQueries_succeeds_iff (h : summaryOf d = .ok e) :
    Succeeds (Shelf.withQueries t place d) ↔ QueriesRead t place d := by
  obtain ⟨entries, rfl⟩ : ∃ entries, d = .map entries := by
    obtain ⟨id, hid, -⟩ := bind_eq_ok.1 h
    cases d <;> cases hid
    exact ⟨_, rfl⟩
  have hfield : (Value.map entries).field? "queries" = Value.find? entries (.text "queries") := rfl
  rw [Shelf.withQueries, QueriesRead, hfield]
  change Succeeds (Except.ok entries >>= _) ↔ _
  rw [ok_bind]
  cases Value.find? entries (.text "queries") with
  | none => exact iff_of_true ⟨_, rfl⟩ fun _ h => by cases h
  | some queries =>
    simp only [Option.some.injEq, forall_eq']
    cases queries.entries with
    | error f => simp [Succeeds, bind, Except.bind]
    | ok files =>
      show Succeeds (_ >>= fun texts => pure _) ↔ _
      rw [Succeeds.bind_pure_iff]
      simp only [Succeeds.mapM_iff, Succeeds.bind_pure_iff, queryText_succeeds_iff,
        Except.ok.injEq, exists_eq_left']

/-- What is shown for a file of a query. -/
def Shows (t : Tree) (place : Path) (file text : Value) : Prop :=
  ∃ name, file = .text name ∧
    ((∃ s, t.exists? (place.join name) = .ok true ∧ t.readText (place.join name) = .ok s ∧
        text = .text s) ∨
      t.exists? (place.join name) = .ok false ∧ text = .text ("# Query file not found: " ++ name))

/-- A playbook is a document with the texts of its queries. -/
def Completes (t : Tree) (place : Path) (d p : Value) : Prop :=
  ∃ entries, d = .map entries ∧
    (p = d ∧ d.field? "queries" = none ∨ ∃ files texts, d.field? "queries" = some (.map files) ∧
      p = .map (Value.putField "queries_content" (.map texts) entries) ∧
        files.Forall₂ (fun q text => text.1 = q.1 ∧ Shows t place q.2 text.2) texts)

lemma completes_of_withQueries (h : Shelf.withQueries t place d = .ok p) :
    Completes t place d p := by
  obtain ⟨entries, hentries, h⟩ := bind_eq_ok.1 h
  obtain rfl : d = .map entries := by
    cases d <;> cases hentries
    rfl
  refine ⟨entries, rfl, ?_⟩
  cases hqueries : Value.find? entries (.text "queries") with
  | none =>
    rw [hqueries] at h
    cases h
    exact .inl ⟨rfl, hqueries⟩
  | some queries =>
    rw [hqueries] at h
    obtain ⟨files, hfiles, h⟩ := bind_eq_ok.1 h
    obtain ⟨texts, htexts, h⟩ := bind_eq_ok.1 h
    cases h
    obtain rfl : queries = .map files := by
      cases queries <;> cases hfiles
      rfl
    refine .inr ⟨files, texts, hqueries, rfl,
      (Conversion.mapM_eq_ok.1 htexts).imp fun q text h => ?_⟩
    obtain ⟨s, hs, h⟩ := bind_eq_ok.1 h
    cases h
    refine ⟨rfl, ?_⟩
    obtain ⟨name, hname, -⟩ := queryText_succeeds_iff.1 ⟨s, hs⟩
    rw [hname, Shelf.queryText] at hs
    obtain ⟨b, hb, hs⟩ := bind_eq_ok.1 hs
    cases b with
    | false =>
      cases hs
      exact ⟨name, hname, .inr ⟨hb, rfl⟩⟩
    | true => exact ⟨name, hname, .inl ⟨s, hb, hs, rfl⟩⟩

lemma Completes.field? {name : String} (h : Completes t place d p)
    (hname : name ≠ "queries_content") : p.field? name = d.field? name := by
  obtain ⟨entries, rfl, ⟨rfl, -⟩ | ⟨files, texts, -, rfl, -⟩⟩ := h
  · rfl
  · show Value.find? (Value.put _ _ _) _ = _
    rw [Value.find?_put_text, if_neg (by simpa [Value.text_same] using hname)]
    rfl

lemma summaryOf_withQueries (h : Shelf.withQueries t place d = .ok p) :
    summaryOf p = summaryOf d := by
  have hp := completes_of_withQueries h
  have hget {field : String} (default : Value) (hfield : field ≠ "queries_content") :
      p.getOr field default = d.getOr field default := by
    have hfind := hp.field? hfield
    obtain ⟨entries, rfl, ⟨rfl, -⟩ | ⟨files, texts, -, rfl, -⟩⟩ := hp
    · rfl
    · exact congrArg (fun v => Except.ok (v.getD default)) hfind
  simp only [summaryOf, Value.get, hget _ (show "id" ≠ _ by decide),
    hget _ (show "mitre" ≠ _ by decide), hget _ (show "name" ≠ _ by decide),
    hget _ (show "description" ≠ _ by decide), hget _ (show "severity" ≠ _ by decide),
    hget _ (show "tags" ≠ _ by decide)]

lemma Shelf.read_eq_ok_iff : s.read t name = .ok p ↔ ∃ d, document t s.folder name = .ok d ∧
      (∀ rules, s.schema = some rules → Schema.complaint? rules d = .ok none) ∧
      withQueries t (s.folder.join name) d = .ok p := by
  unfold Shelf.read document
  simp only [bind_eq_ok]
  constructor
  · rintro ⟨text, htext, d, hd, h⟩
    refine ⟨d, ⟨text, htext, hd⟩, ?_⟩
    cases hschema : s.schema with
    | none =>
      rw [hschema] at h
      exact ⟨fun _ h => (by cases h), h⟩
    | some rules =>
      rw [hschema] at h
      obtain ⟨complaint, hcomplaint, h⟩ := bind_eq_ok.1 h
      cases complaint with
      | some complaint => cases h
      | none =>
        refine ⟨fun _ heq => ?_, h⟩
        cases heq
        exact hcomplaint
  · rintro ⟨d, ⟨text, htext, hd⟩, hrules, h⟩
    refine ⟨text, htext, d, hd, ?_⟩
    cases hschema : s.schema with
    | none => exact h
    | some rules => exact bind_eq_ok.2 ⟨none, hrules rules hschema, h⟩

/-! ## What is loaded -/

/-- The document in a folder is a mapping with an identifier. -/
def Bears (t : Tree) (folder : Path) (id name : String) (d : Value) : Prop :=
  t.isFolder (folder.join name) = .ok true ∧
    readDocument t ((folder.join name).join documentName) = .ok d ∧ d.field? "id" = some (.text id)

lemma hasId_iff : hasId t folder (.text id) name ↔
    ∃ d, readDocument t ((folder.join name).join documentName) = .ok d ∧
      d.field? "id" = some (.text id) := by
  have hget (d : Value) : (∃ v, d.get "id" = .ok v ∧ v.same (.text id)) ↔
      d.field? "id" = some (.text id) := by
    simp only [Value.same_text]
    cases d with
    | map entries =>
      simp only [Value.get, Value.getOr]
      show _ ↔ Value.find? entries (.text "id") = _
      cases Value.find? entries (.text "id") <;> simp
    | _ => simp [Value.get, Value.getOr, Value.field?, Value.entry?, Value.entries?]
  rw [hasId]
  rcases readDocument t ((folder.join name).join documentName) with f | d
  · simp [bind, Except.bind]
  · simp only [← hget, Except.ok.injEq, exists_eq_left']
    rw [ok_bind]
    rcases d.get "id" with f | v <;> simp

lemma exists?_of_readDocument {path : Path} (h : readDocument t path = .ok d) :
    t.exists? path = .ok true := by
  obtain ⟨text, htext, -⟩ := bind_eq_ok.1 h
  obtain ⟨data, hdata, -⟩ := bind_eq_ok.1 htext
  rw [Tree.exists?_eq, Tree.readData_eq_ok_iff.1 hdata]
  rfl

lemma First.of_listing (h : First t folder (.text id) name) :
    ∃ before after, t.listing folder = .ok (before ++ name :: after) ∧
      (∃ d, Bears t folder id name d) ∧ ∀ other ∈ before, ¬∃ d, Bears t folder id other d := by
  obtain ⟨_, _, hnames, hid, hothers⟩ := h
  obtain ⟨names, hlisting, hfilter⟩ := bind_eq_ok.1 hnames
  obtain ⟨hall, hfilter⟩ := filterM_eq_ok_iff.1 hfilter
  have htest {n : String} (hn : n ∈ names) : passes (hasDocument t folder) n ∧
      hasId t folder (.text id) n ↔ ∃ d, Bears t folder id n d := by
    obtain ⟨b, hb⟩ := hall n hn
    rw [hasId_iff, passes, hb]
    constructor
    · rintro ⟨htrue, d, hd, hfield⟩
      obtain ⟨b', hb', hb⟩ := bind_eq_ok.1 hb
      cases b' with
      | false =>
        cases hb
        cases htrue
      | true => exact ⟨d, hb', hd, hfield⟩
    · rintro ⟨d, hfolder, hd, hfield⟩
      rw [hasDocument, hfolder] at hb
      cases hb.symm.trans (exists?_of_readDocument hd)
      exact ⟨rfl, d, hd, hfield⟩
  have hfind : names.find? (fun n => decide (passes (hasDocument t folder) n ∧
      hasId t folder (.text id) n)) = some name := by
    rw [← List.find?_filter, ← hfilter]
    exact List.find?_eq_some_iff_append.2 ⟨hid, _, _, rfl, by simpa using hothers⟩
  obtain ⟨hname, before, after, rfl, hbefore⟩ := List.find?_eq_some_iff_append.1 hfind
  refine ⟨before, after, hlisting, (htest (by simp)).1 (of_decide_eq_true hname),
    fun other hother hcarries => ?_⟩
  have hfalse := hbefore other hother
  rw [decide_eq_true ((htest (by simp [hother])).2 hcarries)] at hfalse
  cases hfalse

lemma readDocument_of_document (h : document t folder name = .ok d) : ∃ v,
    readDocument t ((folder.join name).join documentName) = .ok v ∧ d = v.withDateTexts := by
  obtain ⟨text, htext, h⟩ := bind_eq_ok.1 h
  obtain ⟨node, hnode, h⟩ := bind_eq_ok.1 h
  rw [readDocument, htext]
  show ∃ v, Yaml.readValue text = .ok v ∧ _
  rw [Yaml.readValue, hnode]
  cases node with
  | none =>
    cases h
    exact ⟨_, rfl, rfl⟩
  | some node =>
    obtain ⟨v, hv, h⟩ := bind_eq_ok.1 h
    split at h <;> cases h
    exact ⟨v, hv, rfl⟩

/-- A playbook is loaded from the first folder with its identifier, as a document that follows the
    schema with the texts of its queries. If it cannot be loaded nothing is remembered. -/
theorem load_first (t : Tree) (folder : Path) (rules : Value) (id : String) :
    (∀ p s', Shelf.load ⟨folder, some rules, []⟩ t (.text id) = .ok (p, s') →
      p.field? "id" = some (.text id) ∧ ∃ before name after v,
        t.listing folder = .ok (before ++ name :: after) ∧ Bears t folder id name v ∧
        (∀ other ∈ before, ¬∃ v, Bears t folder id other v) ∧
        Schema.complaint? rules v.withDateTexts = .ok none ∧
        Completes t (folder.join name) v.withDateTexts p) ∧
      ∀ (server : Web.Server) e server',
        (Web.Serving.playbook (.text id)).run.run server = (.error e, server') → server' = server := by
  refine ⟨fun p s' h => ?_, fun server e server' h => ?_⟩
  · obtain ⟨-, ⟨hfind, -⟩ | ⟨name, hfind, hread, -⟩⟩ := Shelf.load_eq_ok h
    · cases hfind
    · obtain ⟨d, hd, hrules, hqueries⟩ := Shelf.read_eq_ok_iff.1 hread
      obtain ⟨before, after, hlisting, ⟨v, hv⟩, hbefore⟩ := (find?_eq_ok_iff.1 hfind).of_listing
      obtain ⟨v', hv', rfl⟩ := readDocument_of_document hd
      cases hv.2.1.symm.trans hv'
      have hp := completes_of_withQueries hqueries
      refine ⟨(hp.field? (by decide)).trans ?_, before, name, after, v, hlisting, hv, hbefore,
        hrules rules rfl, hp⟩
      obtain ⟨-, -, hid⟩ := hv
      cases v with
      | map entries => exact (Value.find?_entriesWithDateTexts _ entries).trans (congrArg _ hid)
      | _ => cases hid
  · rw [Web.Serving.playbook, run_bind, Web.Serving.run_ask] at h
    split at h
    · cases h
    · rename_i heq
      cases h
      exact (Prod.mk.inj heq).2.symm

/-! ## What is listed and opened -/

/-- Summaries that say the same of a playbook. -/
structure Summary.Agrees (e e' : Summary) : Prop where
  name : e'.name = e.name
  description : e'.description = e.description
  severity : e'.severity = e.severity
  technique : e'.technique = e.technique
  tactic : e'.tactic = e.tactic

/-- The playbook with the identifier of a summary can be loaded, and it is what the summary
    says. -/
def Summary.Opens (e : Summary) (s : Shelf) (t : Tree) : Prop :=
  ∃ p s' e', s.load t e.id = .ok (p, s') ∧ summaryOf p = .ok e' ∧ e.Agrees e'

lemma Summary.opens_iff : e.Opens ⟨folder, schema, []⟩ t ↔ e.id.hashable ∧
    ∃ first e', First t folder e.id first ∧ Listed t folder first e' ∧ e.Agrees e' ∧
      Loadable schema t folder first := by
  constructor
  · rintro ⟨p, s', e', hload, he', hagrees⟩
    obtain ⟨hhash, ⟨hfind, -⟩ | ⟨first, hfind, hread, -⟩⟩ := Shelf.load_eq_ok hload
    · cases hfind
    · obtain ⟨d, hd, hrules, hqueries⟩ := Shelf.read_eq_ok_iff.1 hread
      have hfirst := find?_eq_ok_iff.1 hfind
      rw [summaryOf_withQueries hqueries] at he'
      exact ⟨hhash, first, e', hfirst, ⟨hfirst.mem, summary?_eq_some_iff.2 ⟨d, hd, he'⟩⟩, hagrees,
        d, hd, (withQueries_succeeds_iff he').1 ⟨p, hqueries⟩, hrules⟩
  · rintro ⟨hhash, first, e', hfirst, ⟨-, he'⟩, hagrees, d, hd, hqueries, hrules⟩
    obtain ⟨d', hd', he'⟩ := summary?_eq_some_iff.1 he'
    cases hd.symm.trans hd'
    obtain ⟨p, hp⟩ := (withQueries_succeeds_iff he').2 hqueries
    have hread : Shelf.read ⟨folder, schema, []⟩ t first = .ok p :=
      Shelf.read_eq_ok_iff.2 ⟨d, hd, hrules, hp⟩
    refine ⟨p, ⟨folder, schema, Value.put e.id p []⟩, e', ?_,
      (summaryOf_withQueries hp).trans he', hagrees⟩
    rw [Shelf.load_eq _ hhash]
    rw [find?_eq_ok_iff.2 hfirst]
    show Shelf.read ⟨folder, schema, []⟩ t first >>= _ = _
    rw [hread]
    rfl

/-- Everything that is listed can be opened exactly if for every playbook that is listed the first
    one with its identifier follows the schema, has readable queries and says the same. -/
theorem listed_open_iff {found : List Summary} (hfound : summaries t folder = .ok found) :
    (∀ e ∈ found, e.Opens ⟨folder, schema, []⟩ t) ↔
      ∀ name e, Listed t folder name e → e.id.hashable ∧ ∃ first e',
        First t folder e.id first ∧ Listed t folder first e' ∧ e.Agrees e' ∧
          Loadable schema t folder first := by
  simp only [mem_summaries_iff hfound, Summary.opens_iff, forall_exists_index]
  exact forall_comm

def Summary.opens (e : Summary) (s : Shelf) (t : Tree) : Bool :=
  (s.load t e.id).toOption.any fun r => (summaryOf r.1).toOption.any fun e' =>
    e'.name.agree e.name && e'.description.agree e.description && e'.severity.agree e.severity &&
      e'.technique.agree e.technique && e'.tactic.agree e.tactic

lemma Summary.Opens.of_opens (h : e.opens s t) : e.Opens s t := by
  obtain ⟨⟨p, s'⟩, hload, h⟩ := exists_ok_of_any h
  obtain ⟨e', he', h⟩ := exists_ok_of_any h
  simp only [Bool.and_eq_true] at h
  obtain ⟨⟨⟨⟨hname, hdescription⟩, hseverity⟩, htechnique⟩, htactic⟩ := h
  exact ⟨p, s', e', hload, he', Value.eq_of_agree hname, Value.eq_of_agree hdescription,
    Value.eq_of_agree hseverity, Value.eq_of_agree htechnique, Value.eq_of_agree htactic⟩

/-- Files with two playbooks of the same identifier, one of them with a query. -/
def twinBooks : Tree where
  root := "/"
  full := Web.isFull_top
  items := [("playbooks", .folder [("techniques", .folder
    [("a", .folder [("playbook.yaml", .file "id: x\nqueries:\n  splunk: q\n".toUTF8),
      ("q", .file "index=a".toUTF8)]),
     ("b", .folder [("playbook.yaml", .file "id: x\n".toUTF8)])])])]

/-- The schema that asks for an identifier. -/
def idSchema : Value :=
  .record [("$schema", .text "http://json-schema.org/draft-07/schema#"),
    ("required", .ofTexts ["id"])]

/-- The first one is loaded, with what its query says. -/
theorem load_first_twinBooks : ∃ p s' name v,
    Shelf.load ⟨books, some idSchema, []⟩ twinBooks (.text "x") = .ok (p, s') ∧
      p.field? "id" = some (.text "x") ∧ Bears twinBooks books "x" name v ∧
      Completes twinBooks (books.join name) v.withDateTexts p := by
  obtain ⟨⟨p, s'⟩, h⟩ : Succeeds (Shelf.load ⟨books, some idSchema, []⟩ twinBooks (.text "x")) :=
    .of_isSome (by decide +kernel)
  obtain ⟨hid, _, name, _, v, -, hv, -, -, hp⟩ := (load_first twinBooks books idSchema "x").1 p s' h
  exact ⟨p, s', name, v, h, hid, hv, hp⟩

/-- Both are listed, and one of them is opened for both. -/
theorem listed_open_twinBooks : ∃ found, summaries twinBooks books = .ok found ∧
    found.length = 2 ∧ ∀ name e, Listed twinBooks books name e → e.id.hashable ∧
      ∃ first e', First twinBooks books e.id first ∧ Listed twinBooks books first e' ∧
        e.Agrees e' ∧ Loadable (some idSchema) twinBooks books first := by
  obtain ⟨found, hfound, h⟩ := exists_ok_of_any (x := summaries twinBooks books)
    (p := fun found => found.length == 2 &&
      found.all fun e => e.opens ⟨books, some idSchema, []⟩ twinBooks)
    (by decide +kernel)
  rw [Bool.and_eq_true, beq_iff_eq, List.all_eq_true] at h
  exact ⟨found, hfound, h.1, (listed_open_iff hfound).1 fun e he => .of_opens (h.2 e he)⟩

/-- A playbook that says nothing but its identifier is listed, but it cannot be opened. -/
theorem not_listed_open_oneBook : ¬∀ (t : Tree) (found : List Summary),
    summaries t books = .ok found → ∀ e ∈ found, e.Opens ⟨books, some standardSchema, []⟩ t := by
  intro hall
  obtain ⟨found, hfound, h⟩ := exists_ok_of_any (x := summaries Web.oneBook books)
    (p := fun found => found.any fun e =>
      !(Shelf.load ⟨books, some standardSchema, []⟩ Web.oneBook e.id).toOption.isSome)
    (by decide +kernel)
  obtain ⟨e, he, hload⟩ := List.any_eq_true.1 h
  obtain ⟨p, s', -, hopen, -⟩ := hall Web.oneBook found hfound e he
  rw [hopen] at hload
  cases hload

end Playbook

end Huntbook
