import Huntbook.Search
import Huntbook.Proofs.Runs

/-!
# Reading clauses

A reader of the clauses that are put into searches. The text is cut into words, quoted literals and
single marks; in a literal, a backslash escapes the next character.
-/

namespace Huntbook.Search.Reader

open Text

inductive Token
  | word (w : Chars)
  | literal (s : Chars)
  | mark (c : Char)

/-- Where the reading of tokens is: in a word of which `read` has been read (no word if that is
    empty), or in a literal, perhaps after a backslash. -/
inductive Mode
  | word (read : Chars)
  | literal (read : Chars)
  | escaped (read : Chars)

def wordToken (read : Chars) : List Token := if read.isEmpty then [] else [.word read]

def tokensFrom : Mode → Chars → Option (List Token)
  | .word read, [] => some (wordToken read)
  | .literal _, [] => none
  | .escaped _, [] => none
  | .word read, c :: cs =>
    if isWord c then tokensFrom (.word (read ++ [c])) cs
    else if c == '"' then (tokensFrom (.literal []) cs).map (wordToken read ++ ·)
    else if c == ' ' then (tokensFrom (.word []) cs).map (wordToken read ++ ·)
    else (tokensFrom (.word []) cs).map (wordToken read ++ .mark c :: ·)
  | .literal read, c :: cs =>
    if c == '"' then (tokensFrom (.word []) cs).map (.literal read :: ·)
    else if c == '\\' then tokensFrom (.escaped read) cs
    else tokensFrom (.literal (read ++ [c])) cs
  | .escaped read, c :: cs => tokensFrom (.literal (read ++ [c])) cs

def tokens? (cs : Chars) : Option (List Token) := tokensFrom (.word []) cs

inductive Atom
  | null (field : String)
  | flag (field : String) (b : Bool)
  | number (field : String) (n : Int)
  | pattern (field text : String)
  | network (field text : String)
  | equals (field text : String)

def reserved : List Chars := ["AND".toList, "OR".toList, "NOT".toList]

def number? (w : Chars) : Option Nat :=
  if w.all Char.isDigit then some (Nat.ofDigitChars 10 w 0) else none

def valueAt? (field : String) : List Token → Option (Atom × Nat)
  | .word w :: _ =>
    if w == "true".toList then some (.flag field true, 1)
    else if w == "false".toList then some (.flag field false, 1)
    else (number? w).map fun n => (.number field n, 1)
  | .mark '-' :: .word w :: _ => (number? w).map fun n => (.number field (-n), 2)
  | _ => none

def callAt? (function : Chars) (ts : List Token) : Option (Atom × Nat) :=
  if function == "isnull".toList then
    match ts with
    | .word f :: .mark ')' :: _ => some (.null (.ofList f), 2)
    | _ => none
  else if function == "match".toList then
    match ts with
    | .word f :: .mark ',' :: .literal s :: .mark ')' :: _ =>
      some (.pattern (.ofList f) (.ofList s), 4)
    | _ => none
  else if function == "cidrmatch".toList then
    match ts with
    | .literal s :: .mark ',' :: .word f :: .mark ')' :: _ =>
      some (.network (.ofList f) (.ofList s), 4)
    | _ => none
  else if function == "lower".toList then
    match ts with
    | .word f :: .mark ')' :: .mark '=' :: .word l :: .mark '(' :: .literal s :: .mark ')' :: _ =>
      if l == function then some (.equals (.ofList f) (.ofList s), 7) else none
    | _ => none
  else none

def atomAt? : List Token → Option (Atom × Nat)
  | .word w :: .mark '=' :: ts =>
    if reserved.contains w then none else (valueAt? (.ofList w) ts).map fun a => (a.1, a.2 + 2)
  | .word w :: .mark '(' :: ts => (callAt? w ts).map fun a => (a.1, a.2 + 2)
  | _ => none

inductive Symbol
  | atom (a : Atom)
  | conjunction
  | disjunction
  | negation
  | opening
  | closing

def symbol? : Token → Option Symbol
  | .mark '(' => some .opening
  | .mark ')' => some .closing
  | .word w =>
    if w == "AND".toList then some .conjunction
    else if w == "OR".toList then some .disjunction
    else if w == "NOT".toList then some .negation
    else none
  | _ => none

def symbolsFrom : Nat → List Token → Option (List Symbol)
  | _, [] => some []
  | skip + 1, _ :: ts => symbolsFrom skip ts
  | 0, t :: ts =>
    match atomAt? (t :: ts) with
    | some (a, used) => (symbolsFrom (used - 1) ts).map (.atom a :: ·)
    | none => (symbol? t).bind fun s => (symbolsFrom 0 ts).map (s :: ·)

def symbols? (ts : List Token) : Option (List Symbol) := symbolsFrom 0 ts

inductive Formula
  | atom (a : Atom)
  | not (f : Formula)
  | all (fs : List Formula)
  | any (fs : List Formula)

def Formula.allOf : List Formula → Formula
  | [f] => f
  | fs => .all fs

def Formula.anyOf : List Formula → Formula
  | [f] => f
  | fs => .any fs

/-- What has been read since the last open parenthesis: alternatives that are complete, the
    factors of the alternative that is being read, and whether the next factor is negated. -/
structure Frame where
  (alternatives factors : List Formula)
  negated : Bool

namespace Frame

def empty : Frame := ⟨[], [], false⟩

def add (frame : Frame) (f : Formula) : Frame :=
  ⟨frame.alternatives, frame.factors ++ [if frame.negated then .not f else f], false⟩

def close (frame : Frame) : Frame := ⟨frame.alternatives ++ [.allOf frame.factors], [], false⟩

def formula (frame : Frame) : Formula := .anyOf frame.close.alternatives

end Frame

/-- The formula of symbols, where `outer` holds what has been read before parentheses that are
    still open, and `operand` says whether an operand has to follow. -/
def formulaFrom : List Frame → Frame → Bool → List Symbol → Option Formula
  | [], frame, false, [] => some frame.formula
  | outer, frame, true, .atom a :: ss => formulaFrom outer (frame.add (.atom a)) false ss
  | outer, frame, true, .negation :: ss =>
    formulaFrom outer { frame with negated := !frame.negated } true ss
  | outer, frame, true, .opening :: ss => formulaFrom (frame :: outer) .empty true ss
  | outer, frame, false, .conjunction :: ss => formulaFrom outer frame true ss
  | outer, frame, false, .disjunction :: ss => formulaFrom outer frame.close true ss
  | before :: outer, frame, false, .closing :: ss =>
    formulaFrom outer (before.add frame.formula) false ss
  | _, _, _, _ => none

def formula? (ss : List Symbol) : Option Formula := formulaFrom [] .empty true ss

/-- The formula of a clause, if the clause can be read to its end. -/
def read (clause : String) : Option Formula :=
  (tokens? clause.toList).bind fun ts => (symbols? ts).bind formula?

/-! ## Texts written token by token -/

def tokenText : Option Token → Chars
  | none => [' ']
  | some (.word w) => w
  | some (.literal s) => '"' :: s.flatMap escapeValueChar ++ ['"']
  | some (.mark c) => [c]

/-- A token that can be written: a word is not empty and has word characters only, and a mark is
    no word character, quote or blank. -/
def Writable : Option Token → Prop
  | some (.word w) => w ≠ [] ∧ ∀ c ∈ w, isWord c
  | some (.mark c) => isWord c = false ∧ c ≠ '"' ∧ c ≠ ' '
  | _ => True

instance : DecidablePred Writable
  | none => .isTrue trivial
  | some (.word _) => inferInstanceAs (Decidable (_ ∧ _))
  | some (.literal _) => .isTrue trivial
  | some (.mark _) => inferInstanceAs (Decidable (_ ∧ _))

def Separate : Option Token → Option Token → Prop
  | some (.word _), some (.word _) => False
  | _, _ => True

lemma tokensFrom_append_word {w : Chars} (hw : ∀ c ∈ w, isWord c) (read rest : Chars) :
    tokensFrom (.word read) (w ++ rest) = tokensFrom (.word (read ++ w)) rest := by
  induction w generalizing read with
  | nil => simp
  | cons c w ih =>
    have hc : isWord c := hw c List.mem_cons_self
    rw [List.cons_append, tokensFrom, if_pos hc, ih fun d hd => hw d (List.mem_cons_of_mem c hd)]
    simp

lemma tokensFrom_word_of_end {read : Chars} (hne : read ≠ []) {rest : Chars}
    (hrest : startsWord rest = false) :
    tokensFrom (.word read) rest = (tokensFrom (.word []) rest).map (.word read :: ·) := by
  have hread : wordToken read = [.word read] := by simp [wordToken, hne]
  cases rest with
  | nil => simp [tokensFrom, wordToken, hne]
  | cons c cs =>
    have hc : isWord c = false := by simpa [startsWord] using hrest
    rw [tokensFrom, tokensFrom, hc]
    simp only [Bool.false_eq_true, if_false, hread]
    split
    · simp [wordToken]
    · split
      · simp [wordToken]
      · simp [wordToken, Function.comp_def]

lemma tokensFrom_escapeValue (s read rest : Chars) :
    tokensFrom (.literal read) (s.flatMap escapeValueChar ++ '"' :: rest) =
      (tokensFrom (.word []) rest).map (.literal (read ++ s) :: ·) := by
  induction s generalizing read with
  | nil => simp [tokensFrom]
  | cons c s ih =>
    rw [List.flatMap_cons, List.append_assoc]
    have hread : read ++ c :: s = (read ++ [c]) ++ s := by simp
    by_cases hc : c = '\\' ∨ c = '"'
    · have hesc : escapeValueChar c = ['\\', c] := by
        rcases hc with rfl | rfl <;> rfl
      rw [hesc, hread, ← ih]
      rfl
    · push Not at hc
      have hesc : escapeValueChar c = [c] := by simp [escapeValueChar, hc]
      rw [hesc, hread, ← ih, List.singleton_append, tokensFrom]
      simp [hc]

lemma startsWord_tokenText {p : Option Token} (hp : Writable p) (rest : Chars)
    (hno : ∀ w, p ≠ some (.word w)) : startsWord (tokenText p ++ rest) = false := by
  match p, hp, hno with
  | none, _, _ => rfl
  | some (.word w), _, hno => exact absurd rfl (hno w)
  | some (.literal s), _, _ => rfl
  | some (.mark c), hp, _ => simpa [tokenText, startsWord] using hp.1

lemma tokens?_flatMap {ps : List (Option Token)} (hps : ∀ p ∈ ps, Writable p)
    (hsep : ps.IsChain Separate) : tokens? (ps.flatMap tokenText) = some (ps.filterMap id) := by
  induction ps with
  | nil => rfl
  | cons p ps ih =>
    obtain ⟨hp, hps'⟩ := List.forall_mem_cons.1 hps
    have hrest := ih hps' hsep.tail
    have hblank : isWord ' ' = false := by decide
    have hquote : isWord '"' = false := by decide
    rw [tokens?] at hrest ⊢
    rw [List.flatMap_cons]
    match p, hp with
    | none, _ => simp [tokenText, tokensFrom, hblank, hrest, wordToken]
    | some (.mark c), ⟨hword, hnoQuote, hnoBlank⟩ =>
      simp [tokenText, tokensFrom, hword, hnoQuote, hnoBlank, hrest, wordToken]
    | some (.literal s), _ =>
      have hlit := tokensFrom_escapeValue s [] (ps.flatMap tokenText)
      simp [tokenText, tokensFrom, hquote, hlit, hrest, wordToken]
    | some (.word w), ⟨hne, hw⟩ =>
      have hend : startsWord (ps.flatMap tokenText) = false := by
        cases ps with
        | nil => rfl
        | cons q qs =>
          refine startsWord_tokenText (hps' q List.mem_cons_self) _ fun w' he => ?_
          subst he
          exact (List.isChain_cons_cons.1 hsep).1
      rw [tokenText, tokensFrom_append_word hw, List.nil_append, tokensFrom_word_of_end hne hend, hrest]
      simp

end Huntbook.Search.Reader
