import Huntbook.Chat.Advisor
import Huntbook.Proofs.Stage

/-!
# Documents in replies

A reply is cut at its marks before it is cut at its fences. A document between fences is found
whatever stands around it, unless its closing fence runs on into another mark.

* `fenced_wrapped`: what is found in a reply with a document.
-/

namespace Huntbook.Chat

open List

def mark : Chars := fence ++ "json".toList

variable {m j before : Chars}

lemma afterMark?_append (rest : Chars) (h : '\x60' ∉ before) :
    afterMark? ('\x60' :: m) (before ++ '\x60' :: m ++ rest) = some rest := by
  induction before with
  | nil => simp [afterMark?]
  | cons c cs ih =>
    rw [mem_cons, not_or] at h
    simpa [afterMark?, h.1] using ih h.2

lemma afterMark?_eq_none (hm : m ≠ []) (h : ¬m <:+: j) : afterMark? m j = none := by
  induction j with
  | nil => simp [afterMark?, hm]
  | cons c cs ih =>
    rw [infix_cons_iff, not_or] at h
    rw [afterMark?, if_neg (by simpa using h.1), ih h.2]

lemma beforeMark_append (rest : Chars) (h : '\x60' ∉ j) :
    beforeMark ('\x60' :: m) (j ++ rest) = j ++ beforeMark ('\x60' :: m) rest := by
  induction j with
  | nil => rfl
  | cons c cs ih =>
    rw [mem_cons, not_or] at h
    simpa [beforeMark, h.1] using ih h.2

/-- What the cut at the next mark leaves of a closing fence: the backticks that the two do not
    share. -/
def runningOn (after : Chars) : Chars :=
  if mark <+: '\x60' :: '\x60' :: after then ['\x60']
  else if mark <+: '\x60' :: after then ['\x60', '\x60'] else []

lemma beforeMark_closing (after : Chars) :
    beforeMark fence (beforeMark mark (fence ++ after)) = runningOn after := by
  by_cases hfirst : mark <+: fence ++ after
  · obtain ⟨rest, hrest⟩ := hfirst
    obtain rfl : "json".toList ++ rest = after := by simpa [mark] using hrest
    rfl
  · simp only [runningOn, ← isPrefixOf_iff_prefix, fence, cons_append, nil_append,
      beforeMark] at hfirst ⊢
    rw [if_neg hfirst]
    split_ifs <;> rfl

/-- A document without backticks is found alone, after a fence if there is no mark, and after a
    mark, but there with the backticks of a closing fence that runs on. Where it is found, all
    advice is taken from it. -/
theorem fenced_wrapped (after : List Char) (hj : '\x60' ∉ j) (hbefore : '\x60' ∉ before) :
    fenced j = j ∧
    (¬mark <:+: before ++ fence ++ (j ++ (fence ++ after)) →
      fenced (before ++ fence ++ (j ++ (fence ++ after))) = j) ∧
    fenced (before ++ mark ++ (j ++ (fence ++ after))) = j ++ runningOn after ∧
    ∀ reply, fenced reply = j → document (some (String.ofList reply)) =
      (Json.read (Text.trim (String.ofList j))).mapError Fault.ofJson := by
  refine ⟨?_, fun h => ?_, ?_, fun reply h => by rw [document, String.toList_ofList, h]⟩
  · have hfree (m : Chars) : afterMark? ('\x60' :: m) j = none :=
      afterMark?_eq_none (cons_ne_nil _ _) fun hin => hj (hin.subset mem_cons_self)
    rw [fenced, fence, cons_append, hfree, hfree]
  · rw [fenced, ← mark, afterMark?_eq_none (by decide) h, fence, afterMark?_append _ hbefore]
    exact (beforeMark_append _ hj).trans (append_nil _)
  · rw [fenced, ← mark, mark, fence, cons_append, afterMark?_append _ hbefore,
      ← beforeMark_closing]
    exact (congrArg _ (beforeMark_append _ hj)).trans (beforeMark_append _ hj)

theorem fenced_twoDocuments : '\x60' ∉ "[1]".toList ∧ '\x60' ∉ "a".toList ∧
    fenced ("a".toList ++ mark ++ ("[1]".toList ++ (fence ++ "```json[2]```".toList))) =
      "[1]".toList ++ runningOn "```json[2]```".toList ∧
    runningOn "```json[2]```".toList = [] := by
  have hj : '\x60' ∉ "[1]".toList := by decide
  have hbefore : '\x60' ∉ "a".toList := by decide
  exact ⟨hj, hbefore, (fenced_wrapped _ hj hbefore).2.2.1, by decide⟩

theorem not_fenced_runningOn :
    Text.trim (String.ofList (fenced (mark ++ "[1]".toList ++ fence ++ "`json".toList))) ≠
      Text.trim "[1]" ∧ (document (some "[1]")).toOption.isSome ∧
    (document (some "```json[1]````json")).toOption.isNone := by
  decide +kernel

end Huntbook.Chat
