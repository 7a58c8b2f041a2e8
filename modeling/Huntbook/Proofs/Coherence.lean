import Huntbook.Proofs.Places

/-!
# Playbooks that have been loaded

A playbook that has been loaded is not read again, so it has to be as it would be read now. The only
request that changes files is the one to delete a playbook, and all playbooks are forgotten then.

* `respond_as_fresh`: a playbook is shown as with a fresh shelf.
-/

namespace Huntbook

/-! ## Shelves -/

namespace Playbook

open Folder

/-- The folder of the playbooks. -/
def books : Path := Path.base.join "playbooks/techniques"

lemma names_books (root : String) :
    books.names root = Path.partsOf root ++ ["playbooks", "techniques"] := by
  rw [show books = ⟨.base, ["playbooks", "techniques"]⟩ by decide]
  rfl

/-- Every name in the folder of the playbooks is one that a file can have. -/
def WellNamed (t : Tree) (folder : Path := books) : Prop :=
  ∀ n, t.look (folder.spot t.root ++ [n]) ≠ none → IsName n

variable {t t' : Tree} {folder : Path} {id : Value} {name : String}

lemma WellNamed.evolves {S : Texts → Option ByteArray → Prop} (h : WellNamed t folder)
    (hS : ∀ q face, S q face → ∀ n ∈ q, IsName n) (hev : t.Evolves S t') : WellNamed t' folder := by
  intro n hn
  rw [hev.root] at hn
  by_cases hlook : t.look (folder.spot t.root ++ [n]) = none
  · obtain ⟨face, hface⟩ := hev.of_look_ne (hlook ▸ hn)
    exact hS _ _ hface n (by simp)
  · exact h n hlook

lemma WellNamed.remove {p : Path} (h : WellNamed t folder) (hne : p.spot t.root ≠ [])
    (hremove : t.remove p = .ok t') : WellNamed t' folder := by
  obtain ⟨hroot, hlook⟩ := Tree.remove_eq_ok hremove hne
  intro n hn
  rw [hroot, hlook] at hn
  split at hn
  · exact absurd rfl hn
  · exact h n hn

lemma isName_of_mem_names (hparts : ∀ n ∈ folder.parts, IsName n) :
    ∀ n ∈ folder.names t.root, IsName n :=
  Path.forall_mem_names (fun n hn => Path.isName_of_mem_partsOf hn (t.full n hn).1) hparts

lemma walk_of_isName {m : Texts} (h : ∀ n ∈ m, IsName n) : walk [] m = m :=
  walk_of_not_mem [] fun hup => (h _ hup).2 (by simp)

lemma Shelf.ofFolder_congr (hroot : t'.root = t.root)
    (h : t'.look (Path.partsOf t.root ++ ["playbooks", "schema.json"]) =
      t.look (Path.partsOf t.root ++ ["playbooks", "schema.json"])) :
    Shelf.ofFolder t' books = Shelf.ofFolder t books := by
  have hplace : books.parent.join "schema.json" = ⟨.base, ["playbooks", "schema.json"]⟩ := by
    decide
  unfold Shelf.ofFolder
  dsimp only
  rw [hplace]
  generalize hp : (⟨.base, ["playbooks", "schema.json"]⟩ : Path) = p
  have hnames : p.names t.root = Path.partsOf t.root ++ ["playbooks", "schema.json"] := by
    rw [← hp]
    rfl
  have hglance : t'.glance p = t.glance p := by
    have hall : ∀ n ∈ p.names t.root, n ≠ ".." ∧ n.utf8ByteSize ≤ 255 :=
      Path.forall_mem_names t.full (by rw [← hp]; decide)
    have hup : ".." ∉ p.names t.root := fun hn => (hall _ hn).1 rfl
    have hshort : Path.Short (p.names t.root) := fun n hn => (hall n hn).2
    by_cases husable : p.Usable t.root
    · rw [Tree.glance_of_straight husable hup hshort,
        Tree.glance_of_straight (hroot ▸ husable) (hroot ▸ hup) (hroot ▸ hshort), hroot,
        Path.spot, walk_of_not_mem [] hup, hnames]
      exact congrArg _ h
    · exact Tree.glance_of_not_usable husable hroot
  rw [Tree.exists?_eq, Tree.exists?_eq, hglance]
  rcases hfound : t.glance p with e | _ | face
  · rfl
  · rfl
  · rw [readDocument, readDocument, Tree.readText, Tree.readText, Tree.readData_of_glance hfound,
      Tree.readData_of_glance (hglance.trans hfound), Tree.fault, Tree.fault, hroot]

/-- A test succeeds and is met. -/
def passes {α : Type} (test : α → Try Bool) (a : α) : Bool := (test a).toOption.getD false

lemma filterM_eq_ok_iff {α : Type} {test : α → Try Bool} {items found : List α} :
    items.filterM test = .ok found ↔
      (∀ a ∈ items, Succeeds (test a)) ∧ found = items.filter (passes test) := by
  -- What has been collected so far is kept in reverse order.
  have hfrom : ∀ acc found, items.filterAuxM test acc = .ok found ↔
      (∀ a ∈ items, Succeeds (test a)) ∧ found = (items.filter (passes test)).reverse ++ acc := by
    induction items with
    | nil => simp [List.filterAuxM, pure, Except.pure, eq_comm]
    | cons a items ih =>
      intro acc found
      rw [List.filterAuxM, bind_eq_ok, List.forall_mem_cons]
      simp only [ih]
      constructor
      · rintro ⟨b, hb, hall, rfl⟩
        refine ⟨⟨⟨b, hb⟩, hall⟩, ?_⟩
        cases b <;> simp [passes, hb, Except.toOption]
      · rintro ⟨⟨⟨b, hb⟩, hall⟩, rfl⟩
        refine ⟨b, hb, hall, ?_⟩
        cases b <;> simp [passes, hb, Except.toOption]
  rw [List.filterM, bind_eq_ok]
  simp only [hfrom, List.append_nil]
  constructor
  · rintro ⟨_, ⟨hall, rfl⟩, h⟩
    exact ⟨hall, by simpa using (Except.ok.inj h).symm⟩
  · rintro ⟨hall, rfl⟩
    exact ⟨_, ⟨hall, rfl⟩, by rw [List.reverse_reverse]; rfl⟩

lemma listing_of_find? (h : find? t folder id = .ok (some name)) :
    ∃ names, t.listing folder = .ok names ∧ name ∈ names := by
  obtain ⟨found, hfound, h⟩ := bind_eq_ok.1 h
  obtain ⟨names, hnames, hfound⟩ := bind_eq_ok.1 hfound
  have hname : found.find? (hasId t folder id) = some name := Except.ok.inj h
  rw [(filterM_eq_ok_iff.1 hfound).2] at hname
  exact ⟨names, hnames, List.mem_of_mem_filter (List.mem_of_find?_eq_some hname)⟩

lemma isName_of_find? (hnames : WellNamed t folder)
    (h : find? t folder id = .ok (some name)) : IsName name := by
  obtain ⟨names, hlisting, hname⟩ := listing_of_find? h
  exact hnames name (Tree.look_of_mem_listing hlisting hname)

lemma run_place (t : Tree) (folder : Path) (id : Value) :
    (∃ e, (place folder id).run.run t = (.error e, t)) ∨
      ∃ name, find? t folder id = .ok (some name) ∧
        (place folder id).run.run t = (.ok (folder.join name), t) := by
  rw [place, run_bind, Work.run_ask]
  rcases find? t folder id with e | _ | name
  · exact .inl ⟨e, rfl⟩
  · exact .inl ⟨_, rfl⟩
  · exact .inr ⟨name, rfl, rfl⟩

lemma run_delete (t : Tree) (folder : Path) (id : Value) :
    (∃ e, (delete folder id).run.run t = (.error e, t)) ∨
      ∃ name t', find? t folder id = .ok (some name) ∧ t.remove (folder.join name) = .ok t' ∧
        (delete folder id).run.run t = (.ok (), t') := by
  rw [delete, run_bind]
  rcases run_place t folder id with ⟨e, hrun⟩ | ⟨name, hfind, hrun⟩ <;> rw [hrun]
  · exact .inl ⟨e, rfl⟩
  · dsimp only
    rw [Work.run_change]
    cases hremove : t.remove (folder.join name) with
    | error e => exact .inl ⟨e, rfl⟩
    | ok t' => exact .inr ⟨name, t', hfind, hremove, rfl⟩

lemma Shelf.ofFolder_eq_ok {s : Shelf} (h : Shelf.ofFolder t folder = .ok s) :
    s.folder = folder ∧ s.loaded = [] := by
  obtain ⟨b, -, h⟩ := bind_eq_ok.1 h
  split at h
  · obtain ⟨schema, -, h⟩ := bind_eq_ok.1 h
    cases h
    exact ⟨rfl, rfl⟩
  · cases h
    exact ⟨rfl, rfl⟩

lemma Shelf.load_eq (s : Shelf) (h : id.hashable) : s.load t id =
    match Value.find? s.loaded id with
    | some p => .ok (p, s)
    | none => find? t s.folder id >>= fun
      | none => .error (.noPlaybook id.plain)
      | some name => s.read t name >>= fun p =>
        .ok (p, { s with loaded := Value.put id p s.loaded }) := by
  unfold Shelf.load
  rw [h]
  rfl

lemma Shelf.fst_load (s : Shelf) (h : id.hashable) : Prod.fst <$> s.load t id =
    match Value.find? s.loaded id with
    | some p => .ok p
    | none => find? t s.folder id >>= fun
      | none => .error (.noPlaybook id.plain)
      | some name => s.read t name := by
  rw [s.load_eq h]
  cases Value.find? s.loaded id with
  | some p => rfl
  | none =>
    rcases find? t s.folder id with f | _ | name
    · rfl
    · rfl
    · dsimp only [bind, Except.bind]
      cases s.read t name <;> rfl

lemma Shelf.load_eq_ok {s s' : Shelf} {p : Value} (h : s.load t id = .ok (p, s')) :
    id.hashable ∧ (Value.find? s.loaded id = some p ∧ s' = s ∨
      ∃ name, find? t s.folder id = .ok (some name) ∧ s.read t name = .ok p ∧
        s' = { s with loaded := Value.put id p s.loaded }) := by
  cases hid : id.hashable with
  | false =>
    unfold Shelf.load at h
    rw [hid] at h
    cases h
  | true =>
    refine ⟨rfl, ?_⟩
    rw [s.load_eq hid] at h
    split at h
    · rename_i hp
      cases h
      exact .inl ⟨hp, rfl⟩
    · obtain ⟨found, hfound, h⟩ := bind_eq_ok.1 h
      cases found with
      | none => cases h
      | some name =>
        obtain ⟨p', hread, h⟩ := bind_eq_ok.1 h
        cases h
        exact .inr ⟨name, hfound, hread, rfl⟩

end Playbook

lemma Value.find?_put_text (key value : Value) (s : String) (entries : Entries) :
    find? (put key value entries) (.text s) =
      if key.same (.text s) then some value else find? entries (.text s) := by
  have hsame (v : Value) : (Value.text s).same v = v.same (.text s) :=
    Bool.eq_iff_iff.2 (text_same.trans same_text.symm)
  induction entries with
  | nil => rw [put, find?_cons, hsame]
  | cons e entries ih =>
    rw [put]
    split
    · rename_i hkey
      rw [find?_cons, find?_cons]
      by_cases he : (Value.text s).same e.1
      · rw [if_pos he, if_pos (text_same.1 he ▸ hkey)]
      · have hother : ¬key.same (.text s) := by
          intro h
          rw [same_text.1 h] at hkey
          exact he hkey
        rw [if_neg he, if_neg hother, if_neg he]
    · rename_i hkey
      rw [find?_cons, find?_cons, ih]
      by_cases he : (Value.text s).same e.1
      · rw [text_same.1 he] at hkey
        rw [if_pos he, if_pos he, if_neg hkey]
      · rw [if_neg he, if_neg he]

/-! ## Requests -/

namespace Web

open Serving Playbook

lemma run_files {α : Type} (w : Folder.Work α) (s : Server) : (files w).run.run s =
    ((w.run.run s.tree).1.mapError .fault, { s with tree := (w.run.run s.tree).2 }) := by
  show (orFault _).run.run _ = _
  rw [run_orFault]
  rfl

structure Current (s : Server) : Prop where
  names : WellNamed s.tree
  shelf : Shelf.ofFolder s.tree books = .ok { s.shelf with loaded := [] }
  loaded : ∀ id p, Value.find? s.shelf.loaded (.text id) = some p →
    ∃ name, Playbook.find? s.tree books (.text id) = .ok (some name) ∧
      s.shelf.read s.tree name = .ok p

namespace Current

variable {s : Server}

lemma folder (h : Current s) : s.shelf.folder = books :=
  (Shelf.ofFolder_eq_ok h.shelf).1

lemma of_start {tree : Folder.Tree} {rules : Folder.Path} {store : Store} {env : Environment}
    {session : Chat.Session} (hnames : WellNamed tree)
    (h : Server.start tree books rules store env session = .ok s) : Current s := by
  obtain ⟨shelf, hshelf, h⟩ := bind_eq_ok.1 h
  obtain ⟨assistant, -, h⟩ := bind_eq_ok.1 h
  obtain ⟨settings, -, h⟩ := bind_eq_ok.1 h
  cases h
  have hloaded := (Shelf.ofFolder_eq_ok hshelf).2
  refine ⟨hnames, hshelf.trans ?_, fun id p hp => ?_⟩
  · rw [← hloaded]
  · rw [hloaded] at hp
    cases hp

lemma load (h : Current s) (id : String) : Prod.fst <$> s.shelf.load s.tree (.text id) =
    Prod.fst <$> Shelf.load { s.shelf with loaded := [] } s.tree (.text id) := by
  rw [Shelf.fst_load _ rfl, Shelf.fst_load _ rfl]
  cases hfind : Value.find? s.shelf.loaded (.text id) with
  | none => rfl
  | some p =>
    obtain ⟨name, hname, hread⟩ := h.loaded id p hfind
    rw [← h.folder] at hname
    rw [hname]
    exact hread.symm

lemma keeps_playbook (id : Value) : Keeps Current (playbook id) := by
  intro s hs
  rw [playbook, run_bind, run_ask]
  cases hload : s.shelf.load s.tree id with
  | error f => exact hs
  | ok r =>
    obtain ⟨p, shelf⟩ := r
    show Current { s with shelf }
    rcases (Shelf.load_eq_ok hload).2 with ⟨-, rfl⟩ | ⟨name, hname, hread, rfl⟩
    · exact hs
    · refine ⟨hs.names, hs.shelf, fun other q hq => ?_⟩
      rw [Value.find?_put_text] at hq
      split at hq
      · rename_i hid
        cases hq
        rw [hs.folder, Value.same_text.1 hid] at hname
        exact ⟨name, hname, hread⟩
      · exact hs.loaded other q hq

lemma run_prepared (hs : Current s) : ∃ tree, Current { s with tree } ∧
    ((∃ f, Playbooks.prepared.run.run s = (.error (.fault f), { s with tree })) ∨
      Playbooks.prepared.run.run s = (.ok books, { s with tree })) := by
  have hev := Folder.Work.keeps_ensureFolder (p := books) (t := s.tree)
    (S := fun q _ => ∃ m, m <+: books.names s.tree.root ∧ q = Folder.walk [] m)
    (fun m hm => ⟨m, hm, rfl⟩) s.tree .refl
  have hway {m : Texts} (hm : m <+: books.names s.tree.root) : ∀ n ∈ m, Folder.IsName n :=
    fun n hn => isName_of_mem_names (by decide) n (hm.mem hn)
  refine ⟨_, ⟨hs.names.evolves ?_ hev, ?_, fun id p hp => ?_⟩, ?_⟩
  · rintro q - ⟨m, hm, rfl⟩
    rw [walk_of_isName (hway hm)]
    exact hway hm
  · refine (Shelf.ofFolder_congr hev.root ?_).trans hs.shelf
    by_contra hne
    obtain ⟨-, m, hm, hq⟩ := hev.of_look_ne hne
    rw [walk_of_isName (hway hm)] at hq
    rw [← hq, names_books, List.prefix_append_right_inj] at hm
    exact absurd hm (by decide)
  · -- Something was loaded, so the folder was there.
    obtain ⟨name, hname, hread⟩ := hs.loaded id p hp
    obtain ⟨names, hlisting, -⟩ := listing_of_find? hname
    rw [Folder.Work.run_ensureFolder_of_listing hlisting]
    exact ⟨name, hname, hread⟩
  · show (∃ f, (files (prepare s.shelf.folder) >>= fun _ => pure _ : Serving _).run.run s = _) ∨
      (files (prepare s.shelf.folder) >>= fun _ => pure _ : Serving _).run.run s = _
    rw [run_bind, run_files, hs.folder, prepare]
    rcases (Folder.Work.ensureFolder books).run.run s.tree with ⟨f | _, tree⟩
    · exact .inl ⟨f, rfl⟩
    · exact .inr rfl

lemma keeps_delete (i : Input) : Keeps Current (Playbooks.delete i) := by
  refine keeps_attempt (.bind (keeps_playbook _) fun _ s hs => ?_)
  rw [run_bind]
  obtain ⟨tree, hs, ⟨f, hrun⟩ | hrun⟩ := hs.run_prepared <;> rw [hrun]
  · exact hs
  · dsimp only
    rw [run_bind, run_files]
    rcases run_delete tree books (i.arg "playbook_id") with ⟨e, hdelete⟩ |
      ⟨name, tree', hfind, hremove, hdelete⟩ <;> simp only [hdelete]
    · exact hs
    · have hspot := Folder.Path.spot_join_of_isName (isName_of_find? hs.names hfind) tree.root books
      have hne : (books.join name).spot tree.root ≠ [] := by simp [hspot]
      obtain ⟨hroot, hlook⟩ := Folder.Tree.remove_eq_ok hremove hne
      refine ⟨hs.names.remove hne hremove, ?_, fun id p hp => ?_⟩
      · refine (Shelf.ofFolder_congr hroot ?_).trans hs.shelf
        have hnames : ∀ n ∈ books.names tree.root, Folder.IsName n :=
          isName_of_mem_names (by decide)
        rw [hlook, hspot, Folder.Path.spot, walk_of_isName hnames, names_books, if_neg]
        simp
      · cases hp

end Current

lemma Lasting.current : Lasting Current where
  others _ _ _ hs := ⟨hs.names, hs.shelf, hs.loaded⟩
  aside _ _ _ hs := ⟨hs.names, hs.shelf, hs.loaded⟩
  stored _ s hs := by
    rw [run_stored]
    exact ⟨hs.names, hs.shelf, hs.loaded⟩
  playbook := Current.keeps_playbook
  prepared s hs := by
    obtain ⟨tree, hs, ⟨f, hrun⟩ | hrun⟩ := hs.run_prepared <;> rw [hrun] <;> exact hs
  delete := Current.keeps_delete

lemma Current.afterAll {s : Server} (hs : Current s) (requests : List (Moment × Request)) :
    Current (s.afterAll requests) :=
  Lasting.current.afterAll hs fun _ _ i s _ hs =>
    keeps_done _ _ (fun s hs => by
      rw [run_stored]
      exact ⟨hs.names, hs.shelf, hs.loaded⟩) s hs

lemma Server.respond_fst_congr {s s' : Server} {now : Moment} {r : Request}
    (h : ∀ route values i, wayOf routes r = .served route values →
      route.input now values r = .ok i →
      ((route.run i).run.run s).1 = ((route.run i).run.run s').1) :
    (s.respond now r).1 = (s'.respond now r).1 := by
  unfold Server.respond
  cases hway : wayOf routes r with
  | served route values =>
    dsimp only
    unfold Server.serve
    cases hinput : route.input now values r with
    | ok i =>
      have hfst := h route values i hway hinput
      dsimp only
      generalize (route.run i).run.run s = first at hfst
      obtain ⟨result, s⟩ := first
      cases hfst
      rfl
    | error rejection => cases rejection <;> rfl
  | _ => rfl

lemma fst_attempt {α : Type} (missing : Option String) (refusals : Bool) {w : Serving α}
    {s s' : Server} (h : (w.run.run s).1 = (w.run.run s').1) :
    ((attempt missing refusals w).run.run s).1 = ((attempt missing refusals w).run.run s').1 := by
  unfold attempt
  rw [run_tryCatch, run_tryCatch]
  generalize w.run.run s = first at h
  generalize w.run.run s' = first' at h
  obtain ⟨result, s⟩ := first
  obtain ⟨result', s'⟩ := first'
  cases h
  cases result with
  | ok a => rfl
  | error e =>
    dsimp only
    split
    · split
      · rfl
      · split <;> rfl
    · split <;> rfl
    · rfl

lemma fst_playbook (id : Value) (s : Server) : ((playbook id).run.run s).1 =
    (Prod.fst <$> s.shelf.load s.tree id).mapError .fault := by
  rw [playbook, run_bind, Serving.run_ask]
  cases s.shelf.load s.tree id <;> rfl

abbrev singleRoute : Route := simple "GET" "/api/playbooks/:playbook_id" Playbooks.single

/-- Whatever has been asked of the server since its start, it shows a playbook as it would with a
    fresh shelf of the files that are there now. -/
theorem respond_as_fresh {tree : Folder.Tree} {rules : Folder.Path} {store : Store}
    {env : Environment} {session : Chat.Session} {s : Server} (hnames : WellNamed tree)
    (hstart : Server.start tree books rules store env session = .ok s)
    (requests : List (Moment × Request)) (now : Moment) {r : Request} {id : String}
    (hmethod : r.method = "GET") (hpath : r.path = "/api/playbooks/" ++ id) (hid : id ≠ "")
    (hslash : '/' ∉ id.toList) :
    ∃ fresh, Shelf.ofFolder (s.afterAll requests).tree books = .ok fresh ∧
      ((s.afterAll requests).respond now r).1 =
        (Server.respond { s.afterAll requests with shelf := fresh } now r).1 := by
  have hs := (Current.of_start hnames hstart).afterAll requests
  refine ⟨_, hs.shelf, Server.respond_fst_congr fun route values i hway hinput => ?_⟩
  have hvalues : singleRoute.pattern.values? ["api", "playbooks", id] =
      some [("playbook_id", id)] := by
    show (if id.isEmpty then none else some [("playbook_id", id)]) = _
    rw [if_neg (by simpa [String.isEmpty_iff] using hid)]
  obtain ⟨hserved, hgiven⟩ := served_last (n := 3) "/api/playbooks" (v := .text id) rfl hmethod
    hpath hslash rfl hvalues rfl rfl ⟨rfl, rfl⟩ rfl
  cases hserved.symm.trans hway
  obtain ⟨i', hi', harg⟩ := hgiven now
  cases hinput.symm.trans hi'
  refine fst_attempt _ _ ?_
  rw [harg, fst_playbook, fst_playbook, hs.load]

/-- Files with a single playbook, which says nothing but its identifier. -/
def oneBook : Folder.Tree where
  root := "/"
  full := isFull_top
  items := [("playbooks", .folder [("techniques", .folder
    [("a", .folder [("playbook.yaml", .file "id: x\n".toUTF8)])])])]

/-- A request about it. -/
def bookRequest (method : String) : Request := ⟨method, "/api/playbooks/x", [], none⟩

/-- The playbook is shown and deleted; then it is looked for again. -/
theorem respond_as_fresh_oneBook : WellNamed oneBook ∧
    ∃ s, Server.start oneBook books bareServer.rules Store.empty ⟨[]⟩ bareServer.session = .ok s ∧
      ∃ fresh, Shelf.ofFolder (s.afterAll [(newYear, bookRequest "GET"),
          (newYear, bookRequest "DELETE")]).tree books = .ok fresh ∧
        ((s.afterAll [(newYear, bookRequest "GET"), (newYear, bookRequest "DELETE")]).respond
          newYear (bookRequest "GET")).1 =
          (Server.respond { s.afterAll [(newYear, bookRequest "GET"),
            (newYear, bookRequest "DELETE")] with shelf := fresh } newYear
              (bookRequest "GET")).1 := by
  have hnames : WellNamed oneBook := by
    intro n hn
    have hfind : (Folder.Item.find? n [("a", _)]).bind (Folder.Item.at? []) ≠ none :=
      fun hnone => hn (congrArg (Option.map Folder.Item.face) hnone)
    rw [Folder.Item.find?_cons] at hfind
    split at hfind
    · rename_i ha
      rw [← ha]
      decide
    · exact absurd rfl hfind
  have hpath : (bookRequest "GET").path = "/api/playbooks/" ++ "x" := rfl
  obtain ⟨s, hs⟩ : ∃ s, Server.start oneBook books bareServer.rules Store.empty ⟨[]⟩
      bareServer.session = .ok s := ⟨_, rfl⟩
  exact ⟨hnames, s, hs, respond_as_fresh hnames hs _ newYear rfl hpath (by decide) (by decide)⟩

end Web

end Huntbook
