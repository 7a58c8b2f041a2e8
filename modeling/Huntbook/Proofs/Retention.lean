import Huntbook.Proofs.Clock
import Huntbook.Proofs.Endpoints

/-!
# The history keeps what was told

A conversion is told to whoever asked for it, and noted in the history, its documents as their JSON
text. No other request changes the row, so the history shows what was told until the conversion is
deleted.

* `respond_recalls`: the history shows what was told.
-/

namespace Huntbook

open List

/-! ## Texts that can be sent -/

namespace Text

lemma holdsHalf_append (s t : String) : holdsHalf (s ++ t) = (holdsHalf s || holdsHalf t) := by
  rw [holdsHalf, String.toList_append, any_append]
  rfl

end Text

namespace Store

lemma ascii_digits (count : Nat) (v : Decimal.Extended) : Text.Ascii (Normal.digits count v) := by
  induction count generalizing v with
  | zero => simp [Normal.digits, Text.Ascii]
  | succ count ih => exact forall_mem_cons.2 ⟨digitChar_lt _, ih _⟩

lemma ascii_replicate (n : Nat) : Text.Ascii (List.replicate n '0') := by
  intro c hc
  rw [eq_of_mem_replicate hc]
  decide

lemma ascii_pointed (before zeros count : Nat) (v : Decimal.Extended) :
    Text.Ascii (pointed before zeros count v) := by
  have hdigits := ascii_digits (before + count) v
  have hfraction : Text.Ascii
      (replicate zeros '0' ++ (Normal.digits (before + count) v).drop before) :=
    Text.ascii_append.2 ⟨ascii_replicate zeros, fun c hc => hdigits c (mem_of_mem_drop hc)⟩
  refine Text.ascii_append.2 ⟨?_, forall_mem_cons.2 ⟨by decide, ?_⟩⟩
  · split
    · decide
    · exact fun c hc => hdigits c (mem_of_mem_take hc)
  · split
    · decide
    · intro c hc
      rw [Text.dropEndWhile, mem_reverse] at hc
      exact hfraction c (mem_reverse.1 ((dropWhile_suffix _).mem hc))

lemma ascii_exponentText (e : Int) : Text.Ascii (Decimal.exponentText e).toList := by
  have hdigits : Text.Ascii (toString e.natAbs).toList := by
    show Text.Ascii (Nat.repr e.natAbs).toList
    rw [Nat.toList_repr]
    exact Text.ascii_digits _
  rw [Decimal.exponentText, String.toList_append]
  refine Text.ascii_append.2 ⟨by split <;> decide, ?_⟩
  split
  · rw [String.toList_append]
    exact Text.ascii_append.2 ⟨by decide, hdigits⟩
  · exact hdigits

lemma ascii_realDigits (x : Float) : Text.Ascii (realDigits x) := by
  unfold realDigits
  extract_lets n v n' e
  split
  · refine Text.ascii_append.2 ⟨ascii_pointed _ _ _ _, ?_⟩
    exact forall_mem_cons.2 ⟨by decide, ascii_exponentText _⟩
  · split <;> exact ascii_pointed _ _ _ _

lemma ascii_realText (x : Float) : Text.Ascii (realText x).toList := by
  unfold realText
  split
  · decide
  · rw [String.toList_append]
    refine Text.ascii_append.2 ⟨by split <;> decide, ?_⟩
    split
    · decide
    · rw [String.toList_ofList]
      exact ascii_realDigits _

end Store

namespace Web

open Serving Conversions

namespace Reply

lemma sendable_text {s : String} (h : Text.holdsHalf s = false) : Sendable (.text s) :=
  ⟨.text s, rfl, by rw [unencodable?, h]; rfl⟩

lemma sendable_int {n : Int} (h : Store.leastInt ≤ n ∧ n ≤ Store.greatestInt) :
    Sendable (.int n) := by
  have hleast : Store.leastInt = -9223372036854775808 := rfl
  have hgreatest : Store.greatestInt = 9223372036854775807 := rfl
  have hdigits := Nat.toDigits_length 10 n.natAbs 19 (by decide) (by omega)
  have hshort : Decimal.isLong 10 (Nat.toDigits 10 n.natAbs).length = false := by
    have hmost : Decimal.mostDigits = 4300 := rfl
    simp only [Decimal.isLong, hmost]
    simp
    omega
  refine ⟨.int n, ?_, rfl⟩
  show (Decimal.wholeText n).map _ = _
  rw [Decimal.wholeText, Decimal.isLongWhole, hshort]
  rfl

lemma holdsHalf_textWith (t : Moment) :
    Text.holdsHalf (t.textWith " ") = Text.holdsHalf (t.textWith "T") := by
  have hblank : Text.holdsHalf " " = Text.holdsHalf "T" := rfl
  simp only [Moment.textWith, Text.holdsHalf_append, hblank]

lemma sendable_toText {v : Value} {c : Store.Cell} (hbound : Store.bound v = .ok c)
    (h : Sendable v) : Sendable c.toText.toValue := by
  have htext {s : String} (h : Sendable (.text s)) : Text.holdsHalf s = false := by
    obtain ⟨_, hbody, hnone⟩ := h
    cases hbody
    simpa [unencodable?] using hnone
  unfold Store.bound at hbound
  cases v with
  | null =>
    cases hbound
    exact ⟨.null, rfl, rfl⟩
  | bool b =>
    cases hbound
    exact sendable_text (Text.holdsHalf_of_ascii (by cases b <;> decide))
  | int n =>
    obtain rfl := Store.eq_of_bound_int hbound
    refine sendable_text (Text.holdsHalf_of_ascii ?_)
    rw [Json.toList_toString]
    exact Text.ascii_append.2 ⟨by split <;> decide, Text.ascii_digits _⟩
  | float x =>
    simp only [Store.Cell.ofValue, Except.ok.injEq] at hbound
    split at hbound <;> cases hbound
    · exact ⟨.null, rfl, rfl⟩
    · exact sendable_text (Text.holdsHalf_of_ascii (Store.ascii_realText x))
  | text s =>
    obtain rfl := Store.eq_of_bound_text hbound
    exact h
  | bytes data =>
    cases hbound
    exact h
  | date d =>
    cases hbound
    exact h
  | moment t =>
    cases hbound
    refine sendable_text ?_
    rw [holdsHalf_textWith]
    exact htext h
  | _ => cases hbound

end Reply

/-! ## Rows that stay -/

/-- A server whose history has a row. -/
def Server.Holds (row : Store.Row) (s : Server) : Prop := s.store.Holds row

variable {row : Store.Row} {r : Request} {now : Moment}

lemma Lasting.holds (row : Store.Row) : Lasting (Server.Holds row) where
  toCalm := .of_aside (fun _ _ _ _ _ hs => hs) fun h s hs => by
    rw [run_stored]
    exact h row s.store hs
  others _ _ _ hs := hs

/-- A request that deletes a conversion: it gets to the endpoint for that with a value that stands
    for the number of the conversion. -/
def Request.Forgets (r : Request) (now : Moment) (id : Int) : Prop :=
  ∃ i, r.ForgetsAt now i ∧
    ∃ key, Store.bound (i.arg "conversion_id") = .ok key ∧ key.whole? = some id

variable {s : Server} {id : Int} {i : Input} {v : Value} {notes : Notes}

lemma Server.Holds.afterAll (hs : s.Holds row) {requests : List (Moment × Request)}
    (hkept : ∀ e ∈ requests, ¬e.2.Forgets e.1 row.id) : Server.Holds row (s.afterAll requests) := by
  refine (Lasting.holds row).afterAll hs fun e he i s hforget => ?_
  refine keeps_done _ _ (fun s hs => ?_) s
  rw [run_stored]
  refine Store.keeps_change (fun hdrop hs => hs.drop hdrop fun key hkey hwhole => ?_) s.store hs
  exact hkept e he ⟨i, hforget, key, hkey, hwhole⟩

/-! ## Conversions that are shown -/

abbrev recallRoute : Route :=
  simple "GET" "/api/sigma/history/#conversion_id"
    (Records.single .conversions "conversion_id" Records.noConversion)

def Request.Recalls (r : Request) (now : Moment) (id : Int) : Prop :=
  ∃ values i, wayOf routes r = .served recallRoute values ∧
    recallRoute.input now values r = .ok i ∧ i.arg "conversion_id" = .int id

lemma Request.Recalls.of_path (hmethod : r.method = "GET") {segment : String}
    (hpath : r.path = "/api/sigma/history/" ++ segment)
    (hid : Decimal.readInt? segment = some id) : r.Recalls now id := by
  have hslash : '/' ∉ segment.toList := by
    intro hmem
    rw [← String.ofList_toList (s := segment), Decimal.readInt?_of_mem (by decide) (by decide)
      (by decide) (by decide) (by decide) hmem] at hid
    cases hid
  have hne : segment.isEmpty = false := by
    by_contra h
    obtain rfl : segment = "" := String.isEmpty_iff.1 (by simpa using h)
    cases hid
  have hvalues : recallRoute.pattern.values? ["api", "sigma", "history", segment] =
      some [("conversion_id", segment)] := by
    show (if segment.isEmpty then none else some [("conversion_id", segment)]) = _
    rw [hne]
    rfl
  have hcheck : Form.Kind.int.check (.text segment) = .ok (.int id) := by
    simp [Form.Kind.check, Form.intOf, hid, Except.mapError, Except.map]
  obtain ⟨hway, hgiven⟩ := served_last (n := 40) "/api/sigma/history" rfl hmethod hpath hslash
    rfl hvalues rfl rfl ⟨rfl, rfl⟩ hcheck
  obtain ⟨i, hi, harg⟩ := hgiven now
  exact ⟨_, i, hway, hi, harg⟩

lemma Server.respond_of_run {s' : Server} {route : Route} {values : TextPairs}
    (hway : wayOf routes r = .served route values)
    (hhead : route.method ≠ "HEAD") (hinput : route.input now values r = .ok i)
    (hrun : (route.run i).run.run s = (.ok v, s')) : s.respond now r =
      (((Reply.bodyOf v).map fun body => (⟨200, body⟩ : Reply)).bind Reply.encodable, s') := by
  have hmethod := (mem_of_wayOf hway).2
  simp [Server.respond, hway, Server.serve, hinput, hrun, hmethod ▸ hhead]

def notedValues (name profile rule : Value) (search requirements gaps checks : String) : Fields :=
  [("name", name), ("conversion_type", .text "sigma_to_spl"), ("profile_id", profile),
   ("input_content", rule), ("output_sigma", .null), ("output_spl", .text search),
   ("prerequisites", .text requirements), ("gap_analysis", .text gaps),
   ("health_checks", .text checks), ("correlation_notes", .null), ("llm_used", .int 0)]

def notedCells (now : Moment) (name profile : Store.Cell)
    (rule search requirements gaps checks : String) : List (String × Store.Cell) :=
  [("name", name.toText), ("conversion_type", .text "sigma_to_spl"), ("profile_id", profile),
   ("input_content", .text rule), ("output_sigma", .null), ("output_spl", .text search),
   ("prerequisites", .text requirements), ("gap_analysis", .text gaps),
   ("health_checks", .text checks), ("correlation_notes", .null), ("llm_used", .int 0),
   ("created_at", Store.stampCell now)]

def shownFields (id : Int) (now : Moment) (name profile : Store.Cell) (rule search : String)
    (notes : Notes) : Fields :=
  [("id", .int id), ("name", name.toText.toValue), ("conversion_type", .text "sigma_to_spl"),
   ("profile_id", profile.toValue), ("input_content", .text rule), ("output_sigma", .null),
   ("output_spl", .text search), ("prerequisites", notes.requirements),
   ("gap_analysis", notes.gaps), ("health_checks", notes.checks), ("correlation_notes", .null),
   ("llm_used", .bool false), ("created_at", .text now.text)]

lemma get_of_made (hnow : now.Ticks) {name profile : Value}
    {rule search requirements gaps checks : String} (h : Store.Part.conversions.Made now
      (notedValues name profile (.text rule) search requirements gaps checks) row) :
    ∃ title number, Store.bound name = .ok title ∧ Store.bound profile = .ok number ∧
      ∀ e ∈ notedCells now title number.toNumber rule search requirements gaps checks,
        row.get e.1 = e.2 := by
  obtain ⟨title, htitle, hname⟩ := h.given "name" (by decide) _ rfl
  obtain ⟨number, hnumber, hprofile⟩ := h.given "profile_id" (by decide) _ rfl
  have hplain {column : String} {v : Value} {c : Store.Cell} (hv : (notedValues name profile
      (.text rule) search requirements gaps checks).lookup column = some v)
      (hcolumn : column ∈ Store.Part.conversions.empty.columns.map (·.name))
      (hc : Store.bound v = .ok c) (happly : (Store.Part.conversions.leaning column).apply c = c) :
      row.get column = c := by
    obtain ⟨c', hc', hget⟩ := h.given column hcolumn _ hv
    rw [hget, Except.ok.inj (hc'.symm.trans hc), happly]
  refine ⟨title, number, htitle, hnumber, ?_⟩
  simp only [notedCells, forall_mem_singleton, forall_mem_cons]
  refine ⟨hname, h.text (by decide) rfl rfl, hprofile, h.text (by decide) rfl rfl,
    hplain rfl (by decide) rfl rfl, h.text (by decide) rfl rfl, h.text (by decide) rfl rfl,
    h.text (by decide) rfl rfl, h.text (by decide) rfl rfl, hplain rfl (by decide) rfl rfl,
    hplain rfl (by decide) rfl rfl, ?_⟩
  have hleaning : Store.Part.conversions.leaning "created_at" = .number := rfl
  have hfallback (c : Store.Cell) : Store.Part.conversions.fallback c "created_at" = c := rfl
  rw [h.absent "created_at" (by decide) rfl, hleaning, hfallback, Store.Leaning.apply,
    Store.toNumber_stampCell hnow]

lemma toValue_of_noted (hnow : now.Ticks) {name profile : Store.Cell}
    {rule search requirements gaps checks : String}
    (hrow : ∀ e ∈ notedCells now name profile rule search requirements gaps checks,
      row.get e.1 = e.2) (hrequirements : Json.read requirements = .ok notes.requirements)
    (hgaps : Json.read gaps = .ok notes.gaps) (hchecks : Json.read checks = .ok notes.checks) :
    (Record.ofRow .conversion row >>= Record.toValue) =
      .ok (.record (shownFields row.id now name profile rule search notes)) := by
  simp only [notedCells, forall_mem_singleton, forall_mem_cons] at hrow
  obtain ⟨hname, hdirection, hprofile, hrule, houtput, hsearch, hneeds, hgap, hcheck, hnote,
    hadvised, hcreated⟩ := hrow
  have hstamp := hnow.readStamp_stamp
  have hread : Record.ofRow .conversion row = .ok ⟨.conversion, [("id", .int row.id),
      ("name", name.toText.toValue), ("conversion_type", .text "sigma_to_spl"),
      ("profile_id", profile.toValue), ("input_content", .text rule), ("output_sigma", .null),
      ("output_spl", .text search), ("prerequisites", .text requirements),
      ("gap_analysis", .text gaps), ("health_checks", .text checks), ("correlation_notes", .null),
      ("llm_used", .bool false), ("created_at", .moment now)]⟩ := by
    refine bind_eq_ok.2 ⟨_, Conversion.mapM_eq_ok.2 ?_, rfl⟩
    simp only [Layout.conversion, forall₂_cons, forall₂_nil_left_iff, and_true]
    simp only [Store.Row.value, hname, hdirection, hprofile, hrule, houtput, hsearch, hneeds, hgap,
      hcheck, hnote, hadvised, hcreated, Store.stampCell, Store.Cell.toValue, Record.readField,
      hstamp]
    and_intros <;> rfl
  rw [hread]
  show Record.toValue _ = _
  refine bind_eq_ok.2 ⟨(shownFields row.id now name profile rule search notes).map some,
    Conversion.mapM_eq_ok.2 ?_, rfl⟩
  simp only [Layout.conversion, shownFields, map_cons, map_nil, forall₂_cons,
    forall₂_nil_left_iff, and_true]
  have hpacked {text label : String} {v empty : Value} (h : Json.read text = .ok v) :
      (do return some (label, ← Record.unpacked (.text text) empty)) =
        Except.ok (some (label, v)) := by
    rw [Record.unpacked_of_read empty h]
    rfl
  exact ⟨rfl, rfl, rfl, rfl, rfl, rfl, rfl, hpacked hrequirements, hpacked hgaps,
    hpacked hchecks, rfl, rfl, rfl⟩

lemma profile_of_input (h : searchRoute.input now [] r = .ok i) :
    i.field "profile_id" = .null ∨ ∃ n, i.field "profile_id" = .int n := by
  rcases field_of_input rfl h "profile_id" rfl with ⟨v, hv⟩ | hdefault
  · simp only [Form.Kind.check] at hv
    split at hv
    · exact .inl (Except.ok.inj hv).symm
    · obtain ⟨n, -, hn⟩ := Conversion.map_eq_ok.1 hv
      exact .inr ⟨n, hn.symm⟩
  · exact .inl (Option.some.inj hdefault).symm

lemma exists_row_of_toSearch {s' : Server} (hsound : s.store.Sound)
    (hlast : 0 ≤ s.store.conversions.last) (hnow : now.Ticks)
    (hinput : searchRoute.input now [] r = .ok i) (hrun : (toSearch i).run.run s = (.ok v, s')) :
    ∃ row name title profile rule result requirements gaps checks,
      Searched i s.store name result requirements gaps checks ∧
      v = told (.int row.id) name (.text result.search) (.text rule) (.ofResult result)
        [("llm_used", .bool false)] ∧
      Store.bound name = .ok title ∧ Reply.Sendable profile.toValue ∧
      (∀ e ∈ notedCells now title profile rule result.search requirements gaps checks,
        row.get e.1 = e.2) ∧ s'.Holds row ∧ 1 ≤ row.id ∧ row.id ≤ Store.greatestInt := by
  obtain ⟨name, result, requirements, gaps, checks, id, hsearched, hnoted, rfl⟩ :=
    run_toSearch_eq_ok.1 hrun
  obtain ⟨rule, hrule⟩ : ∃ rule, i.field "sigma_yaml" = .text rule := by
    obtain ⟨document, -, haccept, -⟩ := hsearched.converted
    cases hyaml : i.field "sigma_yaml" with
    | text rule => exact ⟨rule, rfl⟩
    | _ =>
      rw [hyaml] at haccept
      cases haccept
  obtain ⟨record, key, store, hrecord, hadd, rfl, rfl⟩ := run_noted_eq_ok.1 hnoted
  rw [(Route.input_eq_ok hinput).1] at hadd hrecord
  cases hrecord
  replace hadd : s.store.add .conversions now (notedValues name (i.field "profile_id")
      (.text rule) result.search requirements gaps checks) = .ok (key, store) := by
    rw [← hadd, ← hrule]
    rfl
  obtain ⟨row, rfl, rfl, hnext, hmade⟩ := Store.add_made (hsound .conversions) hadd
  obtain ⟨title, number, htitle, hnumber, hrow⟩ := get_of_made hnow hmade
  refine ⟨row, name, title, number.toNumber, rule, result, requirements, gaps, checks, hsearched,
    by rw [hrule], htitle, ?_, hrow, ?_, ?_, Store.key_le_of_add hadd⟩
  · rcases profile_of_input hinput with hprofile | ⟨n, hprofile⟩ <;> rw [hprofile] at hnumber
    · cases hnumber
      exact ⟨.null, rfl, rfl⟩
    · simp only [Store.bound, Store.Cell.ofValue] at hnumber
      split at hnumber
      · rename_i hrange
        cases hnumber
        exact Reply.sendable_int (by simpa using hrange)
      · cases hnumber
  · have hrising := (hsound.add hadd .conversions).rising
    exact ⟨hrising, by simp [Store.Table.withRow]⟩
  · have hlt := Store.Table.last_lt_nextKey s.store.conversions
    rw [hnext]
    exact (Int.lt_of_le_of_lt hlast hlt : (0 : Int) < _)

lemma sendable_shown (hnow : now.Ticks) {name : Value} {title profile : Store.Cell}
    {rule search : String}
    (htold : Reply.Sendable (told (.int id) name (.text search) (.text rule) notes
      [("llm_used", .bool false)])) (htitle : Store.bound name = .ok title)
    (hprofile : Reply.Sendable profile.toValue) :
    ∃ shown, Forall₂ (fun f g : String × Value => g.1 = f.1 ∧ Reply.bodyOf f.2 = .ok g.2)
        (shownFields id now title profile rule search notes) shown ∧
      Reply.bodyOf (.record (shownFields id now title profile rule search notes)) =
        .ok (.record shown) ∧ Reply.unencodable? (.record shown) = none := by
  have hfields := (sendable_told (by simp)).1 htold
  simp only [toldFields, cons_append, nil_append, forall_mem_singleton, forall_mem_cons] at hfields
  obtain ⟨hid, hname, hsearch, hrule, hneeds, -, hgaps, hchecks, -⟩ := hfields
  have hnull : Reply.Sendable .null := ⟨.null, rfl, rfl⟩
  have hcreated : Reply.Sendable (.text now.text) := Reply.sendable_text (by
    rw [Moment.text, ← Reply.holdsHalf_textWith]
    exact Text.holdsHalf_of_ascii hnow.ascii_textWith)
  have hnames : ((shownFields id now title profile rule search notes).map (·.1)).Nodup := by
    simp only [shownFields, map_cons, map_nil]
    decide
  have hinner : ∀ name ∈ (shownFields id now title profile rule search notes).map (·.1),
      Reply.isInner (.text name) = false := by
    simp only [shownFields, map_cons, map_nil]
    decide
  have hsendable : Reply.Sendable
      (.record (shownFields id now title profile rule search notes)) := by
    refine (Reply.sendable_record hnames hinner).2 ?_
    simp only [shownFields, forall_mem_singleton, forall_mem_cons]
    exact ⟨⟨by decide, hid.2⟩, ⟨by decide, Reply.sendable_toText htitle hname.2⟩,
      ⟨by decide, by decide⟩, ⟨by decide, hprofile⟩, ⟨by decide, hrule.2⟩, ⟨by decide, hnull⟩,
      ⟨by decide, hsearch.2⟩, ⟨by decide, hneeds.2⟩, ⟨by decide, hgaps.2⟩,
      ⟨by decide, hchecks.2⟩, ⟨by decide, hnull⟩, ⟨by decide, by decide⟩, ⟨by decide, hcreated⟩⟩
  obtain ⟨_, hbody, hnone⟩ := hsendable
  obtain ⟨shown, hshown, rfl⟩ := (Reply.bodyOf_record hnames hinner).1 hbody
  exact ⟨shown, hshown, hbody, hnone⟩

lemma read_of_sendable {n : Nat} (hn : n ≤ Json.deepest) (hneat : v.Neat n)
    (hsendable : Reply.Sendable v) {text : String} (hwrite : Json.write v = .ok text) :
    Json.read text = .ok v := by
  obtain ⟨body, hbody, hnone⟩ := hsendable
  rw [Reply.bodyOf_neat hneat hwrite] at hbody
  cases hbody
  exact Json.read_write (hneat.mono hn) hnone hwrite

lemma respond_of_holds (hs : s.Holds row)
    (hid : 1 ≤ row.id ∧ row.id ≤ Store.greatestInt) (h : r.Recalls now row.id) {body : Value}
    (hv : (Record.ofRow .conversion row >>= Record.toValue) = .ok v)
    (hbody : Reply.bodyOf v = .ok body) (hnone : Reply.unencodable? body = none) :
    (s.respond now r).1 = .ok ⟨200, body⟩ := by
  obtain ⟨values, i, hway, hinput, harg⟩ := h
  obtain ⟨record, hrecord, hv⟩ := bind_eq_ok.1 hv
  have hfound : s.store.found? .conversions (i.arg "conversion_id") = .ok (some record) := by
    have hleast : Store.leastInt ≤ 1 := by decide
    rw [harg, Store.found?_of_mem hs.1 hs.2 (Store.bound_int ⟨by omega, hid.2⟩)]
    exact Conversion.map_eq_ok.2 ⟨record, hrecord, rfl⟩
  have hrun : (recallRoute.run i).run.run s = (.ok v, s) := by
    refine run_bind_eq_ok.2 ⟨some record, s, ?_, ?_⟩
    · rw [run_ask, hfound]
      rfl
    · show (orFault _).run.run s = _
      rw [run_orFault, hv]
      rfl
  rw [Server.respond_of_run hway (by decide) hinput hrun, hbody]
  show Reply.encodable _ = _
  rw [Reply.encodable, hnone]

lemma run_of_respond (hmethod : r.method = "POST")
    (hpath : r.path = "/api/sigma/convert/sigma-to-spl") {body : Value}
    (hbody : (s.respond now r).1 = .ok ⟨200, body⟩) :
    ∃ i v, s.given? now r = some v ∧ searchRoute.input now [] r = .ok i ∧
      (toSearch i).run.run s = (.ok v, (s.respond now r).2) ∧
      Reply.bodyOf v = .ok body ∧ Reply.unencodable? body = none := by
  have hway := wayOf_searchRoute hmethod hpath
  have hhead : r.method ≠ "HEAD" := by
    rw [hmethod]
    decide
  rcases respond_cases s now hway hhead toSearch_allOrNothing with ⟨-, -, hnot⟩ | ⟨v, hv, -, hreply⟩
  · exact absurd hbody (hnot body)
  rw [hreply] at hbody
  obtain ⟨reply, hreply, hencodable⟩ := bind_eq_ok.1 hbody
  obtain ⟨_, htold, rfl⟩ := Conversion.map_eq_ok.1 hreply
  obtain ⟨heq, hnone⟩ := encodable_eq_ok hencodable
  obtain rfl := congrArg Reply.body heq
  have hgiven := hv
  rw [Server.given?, hway] at hv
  dsimp only at hv
  split at hv
  · rename_i i hinput
    rcases hrun : (searchRoute.run i).run.run s with ⟨halt | w, s'⟩ <;> rw [hrun] at hv <;>
      cases hv
    rw [Server.respond_of_run hway (by decide) hinput hrun]
    exact ⟨i, v, hgiven, hinput, hrun, htold, hnone⟩
  · cases hv

/-- The history shows what was told of a rule that was converted, until the conversion is
    deleted. -/
theorem respond_recalls {s : Server} (hsound : s.store.Sound)
    (hlast : 0 ≤ s.store.conversions.last) {now : Moment} (hnow : now.Ticks) {r : Request}
    (hmethod : r.method = "POST") (hpath : r.path = "/api/sigma/convert/sigma-to-spl")
    {body : Value} (hbody : (s.respond now r).1 = .ok ⟨200, body⟩) :
    ∃ id, body.field? "id" = some (.int id) ∧ ∀ requests : List (Moment × Request),
      (∀ e ∈ requests, ¬e.2.Forgets e.1 id) → ∀ later asked segment, asked.method = "GET" →
        asked.path = "/api/sigma/history/" ++ segment → Decimal.readInt? segment = some id →
        ∃ shown, (((s.respond now r).2.afterAll requests).respond later asked).1 =
            .ok ⟨200, shown⟩ ∧
          (∀ p ∈ [("output_spl", "spl"), ("input_content", "sigma_yaml"),
              ("prerequisites", "prerequisites"), ("gap_analysis", "gaps"),
              ("health_checks", "health_checks")],
            ∃ v, body.field? p.2 = some v ∧ shown.field? p.1 = some v) ∧
          shown.field? "conversion_type" = some (.text "sigma_to_spl") ∧
          shown.field? "llm_used" = some (.bool false) := by
  obtain ⟨i, _, -, hinput, hrun, htold, hnone⟩ := run_of_respond hmethod hpath hbody
  obtain ⟨row, name, title, profile, rule, result, requirements, gaps, checks, hsearched, rfl,
    htitle, hprofile, hrow, hholds, hid⟩ :=
    exists_row_of_toSearch hsound hlast hnow hinput hrun
  have hsendable : Reply.Sendable _ := ⟨body, htold, hnone⟩
  have hmore : [("llm_used", Value.bool false)].map (·.1) ∈
      [["llm_used"], ["correlation_notes", "llm_used"]] := by simp
  obtain ⟨fields, hfields, rfl⟩ :=
    (Reply.bodyOf_record (names_toldFields hmore).1 (names_toldFields hmore).2).1 htold
  obtain ⟨_, hfield, hint⟩ := Reply.field?_of_forall₂ hfields (rfl : List.lookup "id" _ = _)
  obtain rfl := Reply.bodyOf_int hint
  refine ⟨row.id, hfield, fun requests hkept later asked segment hget hurl hnumber => ?_⟩
  -- The documents that were told are read back from their texts in the row.
  obtain ⟨_, _, _, _, hconvert, _⟩ := hsearched.converted
  obtain ⟨hneat, -, hneatGaps, hneatChecks⟩ := neat_notes hconvert
  have hpart := (sendable_told hmore).1 hsendable
  simp only [toldFields, cons_append, nil_append, forall_mem_singleton, forall_mem_cons] at hpart
  obtain ⟨-, -, -, -, hneeds, -, hgaps, hchecks, -⟩ := hpart
  have hvalue := toValue_of_noted hnow hrow
    (read_of_sendable (by decide) hneat hneeds.2 hsearched.requirements_eq)
    (read_of_sendable (by decide) hneatGaps hgaps.2 hsearched.gaps_eq)
    (read_of_sendable (by decide) hneatChecks hchecks.2 hsearched.checks_eq)
  obtain ⟨shown, hshown, hbody, hnone⟩ := sendable_shown hnow hsendable htitle hprofile
  have hsame {a b : String} {v : Value}
      (htold : (toldFields (.int row.id) name (.text result.search) (.text rule)
        (.ofResult result) [("llm_used", .bool false)]).lookup b = some v)
      (hnoted : (shownFields row.id now title profile rule result.search
        (.ofResult result)).lookup a = some v) :
      ∃ v, (Value.record fields).field? b = some v ∧ (Value.record shown).field? a = some v := by
    obtain ⟨w, hw, hbody⟩ := Reply.field?_of_forall₂ hfields htold
    obtain ⟨w', hw', hbody'⟩ := Reply.field?_of_forall₂ hshown hnoted
    obtain rfl := Except.ok.inj (hbody.symm.trans hbody')
    exact ⟨w, hw, hw'⟩
  refine ⟨_, respond_of_holds (hholds.afterAll hkept) hid (.of_path hget hurl hnumber) hvalue hbody
    hnone, ?_, ?_, ?_⟩
  · simp only [forall_mem_singleton, forall_mem_cons]
    exact ⟨hsame rfl rfl, hsame rfl rfl, hsame rfl rfl, hsame rfl rfl, hsame rfl rfl⟩
  · obtain ⟨v, hv, hbody⟩ :=
      Reply.field?_of_forall₂ hshown (rfl : List.lookup "conversion_type" _ = _)
    rw [hv, ← Except.ok.inj (hbody : Except.ok (Value.text "sigma_to_spl") = _)]
  · obtain ⟨v, hv, hbody⟩ := Reply.field?_of_forall₂ hshown (rfl : List.lookup "llm_used" _ = _)
    rw [hv, ← Except.ok.inj (hbody : Except.ok (Value.bool false) = _)]

/-- A request to convert a rule with a single selection. -/
def plainRequest : Request :=
  searchRequest ("\x7b\"sigma_yaml\": \"\x7btitle: a, logsource: \x7b\x7d, detection: " ++
    "\x7bs: \x7bImage: a\x7d, condition: s\x7d\x7d\"\x7d")

/-- The history shows it after it was converted again. -/
theorem respond_recalls_plainRequest :
    ∃ body, (bareServer.respond newYear plainRequest).1 = .ok ⟨200, body⟩ ∧
      ∃ shown, (((bareServer.respond newYear plainRequest).2.afterAll
          [(newYear, plainRequest)]).respond newYear ⟨"GET", "/api/sigma/history/1", [], none⟩).1 =
          .ok ⟨200, shown⟩ ∧
        ∃ v, body.field? "spl" = some v ∧ shown.field? "output_spl" = some v := by
  obtain ⟨v, hgiven, hv⟩ := given?_searchRequest plainRequest.body
    (p := fun v => (Reply.bodyOf v).toOption.any fun body =>
      (Reply.unencodable? body).isNone && (body.field? "id").any (·.agree (.int 1)))
    (by decide +kernel)
  obtain ⟨told, htold, htells⟩ := exists_ok_of_any hv
  rw [Bool.and_eq_true, Option.isNone_iff_eq_none, Option.any_eq_true] at htells
  obtain ⟨hnone, one, hone, hagree⟩ := htells
  obtain ⟨body, row, hbody, -⟩ :=
    respond_of_sendable bareServer newYear ⟨rfl, by decide⟩ hgiven ⟨told, htold, hnone⟩
  have hticks : newYear.Ticks := ⟨by decide, rfl, rfl, by decide⟩
  obtain ⟨id, hid, hrecalls⟩ := respond_recalls Store.sound_empty (by decide) hticks rfl rfl hbody
  obtain rfl : id = 1 := by
    obtain ⟨i, v', hv', -, -, htold', -⟩ := run_of_respond rfl rfl hbody
    obtain rfl := Option.some.inj (hgiven.symm.trans hv')
    obtain rfl := Except.ok.inj (htold.symm.trans htold')
    rw [hid, Value.eq_of_agree hagree] at hone
    simpa using hone
  have hkept : ∀ e ∈ [(newYear, plainRequest)], ¬e.2.Forgets e.1 1 := by
    rintro _ (_ | ⟨_, ⟨⟩⟩) ⟨i, ⟨values, hway, -⟩, -⟩
    exact absurd (mem_of_wayOf hway).2 (by decide)
  obtain ⟨shown, hshown, hfields, -⟩ := hrecalls _ hkept newYear
    ⟨"GET", "/api/sigma/history/1", [], none⟩ "1" rfl rfl (by decide +kernel)
  exact ⟨body, hbody, shown, hshown, hfields _ mem_cons_self⟩

end Web
end Huntbook
