import Huntbook.Proofs.Coherence

/-!
# What editing a playbook changes
-/

namespace Huntbook.Playbook

open Folder

def QueryFor (v : Value) (platform : String) : Prop :=
  ∃ entries contents queries content, v.entries = .ok entries ∧
    Value.find? entries (.text "queries_content") = some contents ∧
    contents.entries = .ok queries ∧ (.text platform, content) ∈ queries

/-- The changes at the place of a playbook: folders that are made on the way to it, the folder of
    the queries, their files and the document. -/
inductive Edits (root : String) (place : Path) (v : Value) :
    Texts → Option ByteArray → Prop
  | way {m : Texts} (h : m <+: place.names root) : Edits root place v (walk [] m) none
  | queries : Edits root place v ((place.join "queries").spot root) none
  | query {platform : String} (h : QueryFor v platform) (data : ByteArray) : Edits root place v
      (((place.join "queries").join (queryFile platform)).spot root) (some data)
  | document (data : ByteArray) : Edits root place v ((place.join documentName).spot root) (some data)

variable {t : Tree} {folder place : Path} {v : Value}

lemma keeps_writeQuery {platform : Value} (content : Value)
    (h : ∀ s, platform = .text s → QueryFor v s) : Keeps (t.Evolves (Edits t.root place v))
      (writeQuery (place.join "queries") platform content) := by
  refine Work.keeps_ask_bind fun t₁ name _ hname => ?_
  have hquery : QueryFor v name := by
    unfold Value.asText at hname
    split at hname <;> cases hname
    exact h _ rfl
  refine .bind (Work.keeps_writeText (.query hquery _)) fun _ => ?_
  split
  · exact .bind (Work.keeps_fill (.query hquery _)) fun _ => .pure
  · exact .bind .throw fun _ => .pure

lemma keeps_writeDocument (n : Yaml.Node) :
    Keeps (t.Evolves (Edits t.root place v)) (writeDocument (place.join documentName) n) := by
  unfold writeDocument
  split
  · exact Work.keeps_writeText (.document _)
  · exact .bind (Work.keeps_writeText (.document _)) fun _ => .throw

lemma keeps_fillPlace (v : Value) :
    Keeps (t.Evolves (Edits t.root place v)) (fillPlace place v) := by
  refine .bind (Work.keeps_ensureSubfolder .queries) fun _ => ?_
  refine Work.keeps_ask_bind fun t₁ entries _ hentries => ?_
  dsimp only
  split
  · refine Work.keeps_ask_bind fun t₁ queries _ hqueries => ?_
    refine .bind (.mapM fun q hq => .bind (keeps_writeQuery _ fun s hs => ?_) fun _ => .pure)
      fun _ => .bind .pure fun _ => keeps_writeDocument _
    cases hfound : Value.find? entries (.text "queries_content") with
    | none =>
      rw [hfound] at hqueries
      cases hqueries
      cases hq
    | some contents =>
      rw [hfound] at hqueries
      exact ⟨entries, contents, queries, q.2, hentries, hfound, hqueries, hs ▸ hq⟩
  · exact .bind .pure fun _ => keeps_writeDocument _

lemma keeps_writeQueries {queries : Entries}
    (h : ∀ s content, (.text s, content) ∈ queries → QueryFor v s)
    (entries : Yaml.Pairs) : Keeps (t.Evolves (Edits t.root place v))
      (writeQueries (place.join "queries") queries entries) := by
  induction queries generalizing entries with
  | nil => exact .pure
  | cons q queries ih =>
    refine .bind (keeps_writeQuery _ fun s hs => h s q.2 (hs ▸ List.mem_cons_self)) fun _ => ?_
    refine .bind (Work.keeps_ask _) fun _ => ih (fun s content hs => ?_) _
    exact h s content (List.mem_cons_of_mem q hs)

lemma keeps_addQueries {contents : Value}
    (h : ∀ queries s content, contents.entries = .ok queries → (.text s, content) ∈ queries →
      QueryFor v s) (entries : Yaml.Pairs) :
    Keeps (t.Evolves (Edits t.root place v)) (addQueries place contents entries) :=
  .bind (Work.keeps_ensureSubfolder .queries) fun _ =>
    Work.keeps_ask_bind fun _ queries _ hqueries =>
      keeps_writeQueries (fun s content => h queries s content hqueries) _

/-- The place of a new playbook is known, and nothing is there. -/
def Vacant (t : Tree) (folder : Path) (v : Value) (place : Path) : Prop :=
  ∃ name, folderName v = .ok name ∧ place = folder.join name ∧ t.exists? place = .ok false

lemma run_vacantPlace (t : Tree) (folder : Path) (v : Value) :
    (∃ e, (vacantPlace folder v).run.run t = (.error e, t) ∧ ∀ place, ¬Vacant t folder v place) ∨
      ∃ place, (vacantPlace folder v).run.run t = (.ok place, t) ∧ Vacant t folder v place := by
  rw [vacantPlace, run_bind, Work.run_ask]
  cases hname : folderName v with
  | error e =>
    refine .inl ⟨e, rfl, ?_⟩
    rintro place ⟨name, hok, -⟩
    cases hname.symm.trans hok
  | ok name =>
    have hthere (h : t.exists? (folder.join name) ≠ .ok false) (place : Path) :
        ¬Vacant t folder v place := by
      rintro ⟨name', hname', rfl, hfree⟩
      cases hname.symm.trans hname'
      exact h hfree
    dsimp only
    rw [run_bind, Work.run_ask]
    rcases hexists : t.exists? (folder.join name) with e | _ | _
    · exact .inl ⟨e, rfl, hthere (hexists ▸ nofun)⟩
    · exact .inr ⟨_, rfl, name, hname, rfl, hexists⟩
    · exact .inl ⟨_, rfl, hthere (hexists ▸ nofun)⟩

lemma run_create (t : Tree) (folder : Path) (v : Value) :
    (∃ e, (create folder v).run.run t = (.error e, t) ∧ ∀ place, ¬Vacant t folder v place) ∨
      ∃ place, Vacant t folder v place ∧ (create folder v).run.run t =
        (Work.ensureFolder place >>= fun _ => fillPlace place v >>= fun _ =>
          pure place : Work Path).run.run t := by
  rw [create, run_bind]
  rcases run_vacantPlace t folder v with ⟨e, hrun, hnot⟩ | ⟨place, hrun, hvacant⟩ <;> rw [hrun]
  · exact .inl ⟨e, rfl, hnot⟩
  · exact .inr ⟨place, hvacant, rfl⟩

lemma evolves_create (t : Tree) (folder : Path) (v : Value) :
    ((create folder v).run.run t).2 = t ∨ ∃ place, Vacant t folder v place ∧
      t.Evolves (Edits t.root place v) ((create folder v).run.run t).2 := by
  rcases run_create t folder v with ⟨e, hrun, -⟩ | ⟨place, hvacant, hrun⟩ <;> rw [hrun]
  · exact .inl rfl
  · refine .inr ⟨place, hvacant, ?_⟩
    exact Keeps.bind (Work.keeps_ensureFolder fun m hm => .way hm)
      (fun _ => .bind (keeps_fillPlace v) fun _ => .pure) t .refl

lemma keeps_revise (now : Moment) (changes : Value) :
    Keeps (t.Evolves (Edits t.root place changes)) (revise now changes place) := by
  refine .bind (Work.keeps_ask _) fun text => .bind (Work.keeps_ask _) fun node => ?_
  refine Work.keeps_ask_bind fun t₁ fields _ hfields => ?_
  dsimp only
  split
  · refine .bind (keeps_addQueries (fun queries s content hqueries hs => ?_) _) fun _ =>
      keeps_writeDocument _
    cases changes with
    | map entries =>
      cases hfields
      cases hfound : Value.find? fields (.text "queries_content") with
      | none =>
        rw [hfound] at hqueries
        cases hqueries
      | some contents =>
        rw [hfound] at hqueries
        exact ⟨fields, contents, queries, content, rfl, hfound, hqueries, hs⟩
    | _ => cases hfields
  · exact .bind .pure fun _ => keeps_writeDocument _

lemma evolves_update (t : Tree) (folder : Path) (now : Moment) (id changes : Value) :
    ((update folder now id changes).run.run t).2 = t ∨ ∃ name, find? t folder id = .ok (some name) ∧
        t.Evolves (Edits t.root (folder.join name) changes)
          ((update folder now id changes).run.run t).2 := by
  rw [update, run_bind]
  rcases run_place t folder id with ⟨e, hrun⟩ | ⟨name, hfind, hrun⟩ <;> rw [hrun]
  · exact .inl rfl
  · exact .inr ⟨name, hfind, keeps_revise now changes t .refl⟩

/-! ## Confined changes -/

/-- The place of a new playbook is in the folder of the playbooks, and the files of its queries are
    below it. -/
def Stays (root : String) (folder : Path) (v : Value) : Prop :=
  ∀ name, folderName v = .ok name → ∃ n, n ≠ ".." ∧
    (folder.join name).names root = folder.names root ++ [n] ∧
    ∀ platform, QueryFor v platform → folder.spot root ++ [n] <+:
      (((folder.join name).join "queries").join (queryFile platform)).spot root

/-- A new playbook that stays in the folder of the playbooks changes nothing but a folder there that
    is new. -/
theorem create_confined (hfolder : t.isFolder folder = .ok true) (hstays : Stays t.root folder v) :
    ∃ n, ∀ q, Tree.look ((create folder v).run.run t).2 q ≠ t.look q →
      t.look (folder.spot t.root ++ [n]) = none ∧ folder.spot t.root ++ [n] <+: q := by
  rcases evolves_create t folder v with hsame | ⟨place, ⟨name, hname, rfl, hfree⟩, hev⟩
  · rw [hsame]
    exact ⟨"", fun q hq => absurd rfl hq⟩
  · obtain ⟨n, hup, hnames, hqueries⟩ := hstays name hname
    have hspot : (folder.join name).spot t.root = folder.spot t.root ++ [n] := by
      rw [Path.spot, hnames, walk_append]
      exact walk_of_not_mem _ (by simpa using hup.symm)
    have hleads : t.Leads [] ((folder.join name).names t.root) := by
      intro m k rest heq _
      rw [hnames] at heq
      have hm := List.prefix_concat_iff.1 ⟨k :: rest, heq.symm⟩
      refine Tree.look_of_isFolder hfolder (hm.resolve_left ?_)
      rintro rfl
      simp at heq
    refine ⟨n, fun q hq => ⟨?_, ?_⟩⟩
    · by_contra hthere
      obtain ⟨f, hensure⟩ := Work.run_ensureFolder_of_look hleads hfree (hspot ▸ hthere)
      refine hq ?_
      rcases run_create t folder v with ⟨e, hrun, -⟩ | ⟨_, ⟨_, hname', rfl, -⟩, hrun⟩ <;> rw [hrun]
      cases hname.symm.trans hname'
      rw [run_bind, hensure]
    · obtain ⟨face, hedit⟩ := hev.of_look_ne hq
      cases hedit with
      | way hm =>
        rw [hnames] at hm
        rcases List.prefix_concat_iff.1 hm with rfl | hm
        · rw [← hnames, ← Path.spot, hspot]
        · have hbefore := Tree.look_of_isFolder hfolder hm
          exact absurd ((hev.folder hbefore).trans hbefore.symm) hq
      | queries =>
        rw [Path.spot_join_of_isName (by decide), hspot]
        exact List.prefix_append _ _
      | query hquery data => exact hqueries _ hquery
      | document data =>
        rw [Path.spot_join_of_isName (by decide), hspot]
        exact List.prefix_append _ _

/-- An empty folder of playbooks. -/
def emptyShelf : Tree where
  root := "/"
  full := Web.isFull_top
  items := [("playbooks", .folder [("techniques", .folder [])])]

/-- A playbook with little more than a technique and queries. -/
def sketch (id technique : String) (queries : Fields) : Value :=
  .record [("id", .text id),
    ("mitre", .record [("technique", .text technique), ("tactic", .text "a")]),
    ("queries_content", .record queries)]

theorem create_confined_sketch : emptyShelf.isFolder books = .ok true ∧
    Stays "/" books (sketch "x" "./T1" [("../q", .text "")]) ∧ ∃ n, ∀ q,
      Tree.look ((create books (sketch "x" "./T1" [("../q", .text "")])).run.run emptyShelf).2 q ≠
        emptyShelf.look q →
      emptyShelf.look (["playbooks", "techniques"] ++ [n]) = none ∧
        ["playbooks", "techniques"] ++ [n] <+: q := by
  have hfolder : emptyShelf.isFolder books = .ok true := rfl
  have hstays : Stays "/" books (sketch "x" "./T1" [("../q", .text "")]) := by
    intro name hname
    have hok : folderName (sketch "x" "./T1" [("../q", .text "")]) = .ok "./t1-a" := by cbv
    cases hok.symm.trans hname
    refine ⟨"t1-a", by decide, by decide, ?_⟩
    rintro platform ⟨entries, contents, queries, content, hentries, hfound, hqueries, hmem⟩
    cases hentries
    cases hfound.symm.trans (Value.field?_record _ "queries_content")
    cases hqueries
    cases List.mem_singleton.1 hmem
    decide +kernel
  exact ⟨hfolder, hstays, create_confined hfolder hstays⟩

/-- A technique that goes back takes a playbook out of the folder of the playbooks. -/
theorem create_escapes : ¬∃ n, ∀ q,
    Tree.look ((create books (sketch "x" "../T1" [])).run.run emptyShelf).2 q ≠
      emptyShelf.look q → ["playbooks", "techniques"] ++ [n] <+: q := by
  rintro ⟨n, h⟩
  have hout := h ["playbooks", "t1-a"] (by decide +kernel)
  exact absurd hout.length_le (by simp)

end Huntbook.Playbook
