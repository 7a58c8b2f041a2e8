import Huntbook.Playbook.Export
import Huntbook.Proofs.Conjuncts
import Huntbook.Proofs.Fields

/-!
# Headers of exported queries

A query is exported below a header of comments that shows texts of its playbook.

* `bare_exported_iff`: when the query is what is left without the leading comments.
-/

namespace Huntbook

open List

namespace Text

lemma lines_eq (s : String) : lines s = (s.toList.splitOn '\n').map String.ofList := by
  rw [lines, split, splitList_eq_splitOn]

lemma lines_append_break (a b : String) : lines (a ++ "\n" ++ b) = lines a ++ lines b := by
  simp [lines_eq, splitOn_append_cons_self]

lemma lines_join {pieces : Texts} (h : pieces ≠ []) :
    lines (join "\n" pieces) = pieces.flatMap lines := by
  induction pieces with
  | nil => exact absurd rfl h
  | cons piece pieces ih =>
    cases pieces with
    | nil => simp [join]
    | cons next pieces =>
      have hrest := ih (by simp)
      rw [join] at hrest ⊢
      rw [String.intercalate_cons_cons, lines_append_break, hrest]
      rfl

lemma join_lines (s : String) : join "\n" (lines s) = s := by
  rw [← String.toList_inj, join, String.toList_intercalate, lines_eq, map_map]
  simp [Function.comp_def, intercalate_splitOn]

lemma exists_splitOn_append {as : Chars} (h : '\n' ∉ as) (bs : Chars) : ∃ first,
    (as ++ bs).splitOn '\n' = (as ++ first) :: (bs.splitOn '\n').tail := by
  induction as with
  | nil =>
    obtain ⟨first, rest, hrest⟩ := exists_cons_of_ne_nil (splitOn_ne_nil '\n' bs)
    exact ⟨first, by rw [nil_append, hrest]; rfl⟩
  | cons a as ih =>
    rw [mem_cons, not_or] at h
    obtain ⟨first, hfirst⟩ := ih h.2
    exact ⟨first, by simp [splitOn_cons_eq_if_modifyHead, hfirst, Ne.symm h.1]⟩

/-- A text put before another one, without a line break, goes into its first line. -/
lemma lines_append {start : String} (h : '\n' ∉ start.toList) (s : String) :
    ∃ first, lines (start ++ s) = (start ++ first) :: (lines s).tail := by
  obtain ⟨first, hfirst⟩ := exists_splitOn_append h s.toList
  exact ⟨String.ofList first, by simp [lines_eq, hfirst]⟩

end Text

namespace Playbook

variable {fields contents mitre : Entries}

/-- The texts that a header shows, each after what is written before it. -/
def notes (fields mitre : Entries) : TextPairs :=
  let part (entries : Entries) (name : String) : String :=
    ((Value.find? entries (.text name)).getD .null).plain
  [("# Threat Hunting Query", ""), ("# Playbook: ", part fields "name"), ("# ID: ", part fields "id"),
   ("# MITRE Technique: ", part mitre "technique"), ("# Tactic: ", part mitre "tactic"),
   ("# Severity: ", part fields "severity"), ("# Author: ", part fields "author"), ("#", ""),
   ("# Description: ", part fields "description")]

def headerText (fields mitre : Entries) : String :=
  Text.join "\n" ((notes fields mitre).map fun n => n.1 ++ n.2)

/-- The queries and the attack that the exports of a playbook show. -/
structure Exportable (fields contents mitre : Entries) : Prop where
  contents : (Value.find? fields (.text "queries_content")).getD (.map []) = .map contents
  mitre : (Value.find? fields (.text "mitre")).getD (.map []) = .map mitre

lemma header_eq (h : Exportable fields contents mitre) :
    header (.map fields) = .ok (headerText fields mitre) := by
  simp [header, h.mitre, ok_bind, Value.get, Value.getOr, pure, Except.pure, headerText, notes]

lemma exists_mitre_of_header {text : String} (h : header (.map fields) = .ok text) :
    ∃ mitre, (Value.find? fields (.text "mitre")).getD (.map []) = .map mitre := by
  cases hmitre : (Value.find? fields (.text "mitre")).getD (.map []) with
  | map mitre => exact ⟨mitre, rfl⟩
  | _ => simp [header, Value.get, Value.getOr, hmitre, bind, Except.bind, pure, Except.pure] at h

def IsComment (line : String) : Bool := Text.startsWith line "#"

/-- What is left of an exported text without the comments at its start and the line after them. -/
def bare (text : String) : String :=
  Text.join "\n" (((Text.lines text).dropWhile IsComment).drop 1)

lemma bare_eq_iff (header query : String) : bare (header ++ "\n\n" ++ query) = query ↔
    ∀ line ∈ Text.lines header, IsComment line := by
  have hlines : Text.lines (header ++ "\n\n" ++ query) =
      Text.lines header ++ "" :: Text.lines query := by
    have hbreak : header ++ "\n\n" ++ query = header ++ "\n" ++ "" ++ "\n" ++ query := by
      simp [String.append_assoc]
    rw [hbreak, Text.lines_append_break, Text.lines_append_break, append_assoc]
    rfl
  have hempty : IsComment "" = false := rfl
  rw [bare, hlines]
  constructor
  · intro h
    by_contra hnot
    have hne : (Text.lines header).dropWhile IsComment ≠ [] := by
      simpa [dropWhile_eq_nil_iff] using hnot
    obtain ⟨line, rest, hrest⟩ := exists_cons_of_ne_nil hne
    -- A line of the header that stays makes what is left longer than the query.
    rw [dropWhile_append, hrest] at h
    have hlong := congrArg String.length (h.trans (Text.join_lines query).symm)
    obtain ⟨first, lines, hquery⟩ := exists_cons_of_ne_nil (splitOn_ne_nil '\n' query.toList)
    rw [Text.join, Text.join, Search.length_intercalate, Search.length_intercalate, Text.lines_eq,
      hquery] at hlong
    simp [Search.span, show "\n".length = 1 from rfl] at hlong
    omega
  · intro h
    rw [dropWhile_append_of_pos h, dropWhile_cons_of_neg (by simp [hempty]), drop_one, tail_cons,
      Text.join_lines]

lemma comments_iff : (∀ line ∈ Text.lines (headerText fields mitre), IsComment line) ↔
    ∀ n ∈ notes fields mitre, ∀ line ∈ (Text.lines n.2).tail, IsComment line := by
  have hnotes : ∀ n ∈ notes fields mitre, '\n' ∉ n.1.toList ∧ '#' ∈ n.1.toList.head? := by
    simp [notes]
  rw [headerText, Text.lines_join (by simp [notes]), forall_mem_flatMap, forall_mem_map]
  refine forall₂_congr fun n hn => ?_
  obtain ⟨hbreak, hstart⟩ := hnotes n hn
  obtain ⟨first, hfirst⟩ := Text.lines_append hbreak n.2
  obtain ⟨rest, hrest⟩ := head?_eq_some_iff.1 hstart
  have hcomment : IsComment (n.1 ++ first) := by
    simp [IsComment, Text.startsWith, hrest]
  rw [hfirst, forall_mem_cons, and_iff_right hcomment]

lemma exported_eq_ok {playbook : Value} {s text : String}
    (h : exported playbook (.text s) = .ok text) : ∃ fields contents mitre,
    playbook = .map fields ∧ Exportable fields contents mitre ∧
      ∃ query, Value.find? contents (.text (Text.lower s)) = some query ∧
        text = headerText fields mitre ++ "\n\n" ++ query.plain := by
  obtain ⟨platform, hplatform, h⟩ := bind_eq_ok.1 h
  cases hplatform
  split at h
  · cases h
  obtain ⟨contents, hcontents, h⟩ := bind_eq_ok.1 h
  obtain ⟨query, hquery, h⟩ := bind_eq_ok.1 h
  split at h
  · obtain ⟨_, -, h⟩ := bind_eq_ok.1 h
    cases h
  rename_i htruthy
  obtain ⟨header', hheader, h⟩ := bind_eq_ok.1 h
  cases h
  cases playbook with
  | map fields =>
    cases contents with
    | map contents =>
      obtain ⟨mitre, hmitre⟩ := exists_mitre_of_header hheader
      have hmaps : Exportable fields contents mitre := ⟨Except.ok.inj hcontents, hmitre⟩
      refine ⟨fields, contents, mitre, rfl, hmaps, query, ?_, ?_⟩
      · cases hfind : Value.find? contents (.text (Text.lower s)) with
        | none =>
          rw [Value.get, Value.getOr, hfind] at hquery
          cases hquery
          cases htruthy rfl
        | some v =>
          rw [Value.get, Value.getOr, hfind] at hquery
          exact congrArg some (Except.ok.inj hquery)
      · rw [Except.ok.inj (hheader.symm.trans (header_eq hmaps))]
    | _ => cases hquery
  | _ => cases hcontents

/-- The query is left without the comments exactly if every line that is in a text of the header
    begins like a comment, but for the first one. -/
theorem bare_exported_iff {playbook : Value} {s text : String}
    (h : exported playbook (.text s) = .ok text) : ∃ fields contents mitre query,
    playbook = .map fields ∧ Exportable fields contents mitre ∧
    Value.find? contents (.text (Text.lower s)) = some query ∧
    text = headerText fields mitre ++ "\n\n" ++ query.plain ∧
    (bare text = query.plain ↔ ∀ line ∈ Text.lines (headerText fields mitre), IsComment line) ∧
    ((∀ line ∈ Text.lines (headerText fields mitre), IsComment line) ↔
      ∀ n ∈ notes fields mitre, ∀ line ∈ (Text.lines n.2).tail, IsComment line) := by
  obtain ⟨fields, contents, mitre, hfields, hmaps, query, hquery, rfl⟩ := exported_eq_ok h
  exact ⟨fields, contents, mitre, query, hfields, hmaps, hquery, rfl, bare_eq_iff _ _, comments_iff⟩

/-- A playbook with a query. -/
def sheet : Entries :=
  [(.text "id", .text "a"), (.text "queries_content", .map [(.text "splunk", .text "x")])]

lemma exportable_sheet : Exportable sheet [(.text "splunk", .text "x")] [] := by
  constructor <;> simp [sheet, Value.find?, Value.text_same]

/-- The query of a playbook without line breaks. -/
theorem bare_exported_iff_sheet : ∃ text, exported (.map sheet) (.text "Splunk") = .ok text ∧
    bare text = "x" := by
  obtain ⟨text, h⟩ : Succeeds (exported (.map sheet) (.text "Splunk")) := .of_isSome (by decide +kernel)
  refine ⟨text, h, ?_⟩
  obtain ⟨fields, contents, mitre, query, hfields, hmaps, hquery, -, hbare, hcomments⟩ :=
    bare_exported_iff h
  cases hfields
  obtain rfl := Value.map.inj (exportable_sheet.contents.symm.trans hmaps.contents)
  obtain rfl := Value.map.inj (exportable_sheet.mitre.symm.trans hmaps.mitre)
  rw [show Text.lower "Splunk" = "splunk" by decide +kernel] at hquery
  simp [Value.find?, Value.text_same] at hquery
  subst hquery
  exact hbare.2 (hcomments.2 (by decide +kernel))

end Playbook

end Huntbook
