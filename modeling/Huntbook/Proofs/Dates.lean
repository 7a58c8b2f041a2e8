import Huntbook.Value.Basic
import Mathlib

/-!
# Documents without dates

The dates of a document become texts wherever they stand as values. Nothing else about it changes:
a place of the document looks as before, but for a date that is there.

* `withDateTexts_places`: every place of a document after this.
-/

namespace Huntbook.Value

open List

lemma itemsWithDateTexts_eq (items : List Value) :
    itemsWithDateTexts items = items.map withDateTexts := by
  induction items with
  | nil => rfl
  | cons v items ih => rw [itemsWithDateTexts, ih, map_cons]

lemma entriesWithDateTexts_eq (entries : Entries) :
    entriesWithDateTexts entries = entries.map fun e => (e.1, e.2.withDateTexts) := by
  induction entries with
  | nil => rfl
  | cons e entries ih => rw [entriesWithDateTexts, ih, map_cons]

lemma find?_entriesWithDateTexts (key : Value) (entries : Entries) :
    find? (entriesWithDateTexts entries) key = (find? entries key).map withDateTexts := by
  simp [entriesWithDateTexts_eq, find?, find?_map, Function.comp_def]

/-! ## Places of a document -/

/-- The values right below a value, in their order. -/
def inner : Value → List Value
  | .list items => items
  | .map entries => entries.map (·.2)
  | _ => []

/-- What stands at a place, which is given by its number among its neighbours at each depth. -/
def at? (v : Value) : List Nat → Option Value
  | [] => some v
  | n :: place => v.inner[n]?.bind (·.at? place)

inductive Face
  | list (length : Nat)
  | map (keys : List Value)
  | leaf (v : Value)

/-- How a value looks by itself, without the values below it. -/
def face : Value → Face
  | .list items => .list items.length
  | .map entries => .map (entries.map (·.1))
  | v => .leaf v

/-- A leaf that is a date looks like its ISO text. -/
def Face.undated : Face → Face
  | .leaf (.date d) => .leaf (.text d.text)
  | .leaf (.moment t) => .leaf (.text t.text)
  | f => f

def isDated (v : Value) : Bool := v.kind = .date || v.kind = .moment

lemma inner_withDateTexts (v : Value) : v.withDateTexts.inner = v.inner.map withDateTexts := by
  cases v with
  | list items => exact itemsWithDateTexts_eq items
  | map entries => simp [withDateTexts, inner, entriesWithDateTexts_eq, Function.comp_def]
  | _ => rfl

lemma at?_withDateTexts (place : List Nat) (v : Value) :
    v.withDateTexts.at? place = (v.at? place).map withDateTexts := by
  induction place generalizing v with
  | nil => rfl
  | cons n place ih =>
    rw [at?, at?, inner_withDateTexts, getElem?_map]
    cases v.inner[n]? with
    | none => rfl
    | some u => exact ih u

lemma face_withDateTexts (v : Value) : v.withDateTexts.face = v.face.undated := by
  cases v with
  | list items => simp [withDateTexts, face, itemsWithDateTexts_eq, Face.undated]
  | map entries =>
    simp [withDateTexts, face, entriesWithDateTexts_eq, Face.undated, Function.comp_def]
  | _ => rfl

lemma isDated_withDateTexts (v : Value) : v.withDateTexts.isDated = false := by
  cases v <;> rfl

mutual

lemma withDateTexts_withDateTexts (v : Value) :
    v.withDateTexts.withDateTexts = v.withDateTexts := by
  cases v with
  | list items => simp only [withDateTexts, items_withDateTexts items]
  | map entries => simp only [withDateTexts, entries_withDateTexts entries]
  | _ => rfl

lemma items_withDateTexts (items : List Value) :
    itemsWithDateTexts (itemsWithDateTexts items) = itemsWithDateTexts items := by
  cases items with
  | nil => rfl
  | cons v items =>
    simp only [itemsWithDateTexts, withDateTexts_withDateTexts v, items_withDateTexts items]

lemma entries_withDateTexts (entries : Entries) :
    entriesWithDateTexts (entriesWithDateTexts entries) = entriesWithDateTexts entries := by
  match entries with
  | [] => rfl
  | (k, v) :: entries =>
    simp only [entriesWithDateTexts, withDateTexts_withDateTexts v, entries_withDateTexts entries]

end

/-- At every place there are as many items, the same keys in the same order and the same leaf as
    before, and no date but its text. Doing it again changes nothing, and an item or the value of a
    key can as well be taken before. (Tuples and sets are leaves here.) -/
theorem withDateTexts_places (v : Value) :
    (∀ place, (v.withDateTexts.at? place).map face = (v.at? place).map (·.face.undated)) ∧
    (∀ place u, v.withDateTexts.at? place = some u → u.isDated = false) ∧
    v.withDateTexts.withDateTexts = v.withDateTexts ∧
    (∀ n : Nat, v.withDateTexts.inner[n]? = v.inner[n]?.map withDateTexts) ∧
    ∀ key, v.withDateTexts.entry? key = (v.entry? key).map withDateTexts := by
  refine ⟨fun place => ?_, fun place u hu => ?_, withDateTexts_withDateTexts v, fun n => ?_,
    fun key => ?_⟩
  · rw [at?_withDateTexts, Option.map_map]
    exact Option.map_congr fun u _ => face_withDateTexts u
  · rw [at?_withDateTexts] at hu
    obtain ⟨w, -, rfl⟩ := Option.map_eq_some_iff.1 hu
    exact isDated_withDateTexts w
  · rw [inner_withDateTexts, getElem?_map]
  · cases v with
    | map entries => exact find?_entriesWithDateTexts key entries
    | _ => rfl

end Huntbook.Value
