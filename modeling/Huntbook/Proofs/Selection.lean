import Huntbook.Proofs.Reader

/-!
# Selections are read back

The clause of a selection, read as text, is the conjunction over its fields of the disjunction
over their values, whatever the values are: quotes, operators and parentheses in a value stay
inside its literal, and the literal is read as the value.

* `read_selectionClause`: what is read from the clause of a selection.
-/

namespace Huntbook.Search.Reader

open List Text

/-! ## What selections ask for -/

def comparesWhole (modifiers : Texts) (s : String) : Prop :=
  Comparison.ofModifiers modifiers s = .pattern ∨ Comparison.ofModifiers modifiers s = .network ∨
    Comparison.ofModifiers modifiers s = .equals

/-- A value that is compared as a whole: nothing, a truth value, an integer or a text. -/
def Whole (modifiers : Texts) : Value → Prop
  | .null => True
  | .bool _ => True
  | .int n => Decimal.isLongWhole n = false
  | .text s => comparesWhole modifiers s
  | _ => False

instance (modifiers : Texts) : DecidablePred (Whole modifiers)
  | .null => .isTrue trivial
  | .bool _ => .isTrue trivial
  | .int _ => inferInstanceAs (Decidable (_ = _))
  | .text _ => inferInstanceAs (Decidable (_ ∨ _))
  | .float _ | .bytes _ | .date _ | .moment _ | .list _ | .tuple _ | .set _ | .map _ => .isFalse id

def atomOf (field : String) (modifiers : Texts) : Value → Atom
  | .bool b => .flag field b
  | .int n => .number field n
  | .text s =>
    match Comparison.ofModifiers modifiers s with
    | .pattern => .pattern field s
    | .network => .network field s
    | _ => .equals field s
  | _ => .null field

def atomsOf (fields : FieldMap) (ref : FieldRef) (value : Value) : List Atom :=
  (valuesOf value).map (atomOf (fields.target ref.name) ref.modifiers)

def fieldFormula (fields : FieldMap) (ref : FieldRef) (value : Value) : Formula :=
  .anyOf ((atomsOf fields ref value).map .atom)

/-- What a selection asks for: all its fields that have values. -/
def selectionFormula (fields : FieldMap) (refs : List (FieldRef × Value)) : Formula :=
  .allOf ((refs.filter fun r => !(valuesOf r.2).isEmpty).map fun r => fieldFormula fields r.1 r.2)

/-- A name of a field that clauses can be read with. -/
def IsField (field : String) : Prop :=
  field.toList ≠ [] ∧ (∀ c ∈ field.toList, isWord c) ∧ field.toList ∉ reserved

instance (field : String) : Decidable (IsField field) := inferInstanceAs (Decidable (_ ∧ _))

/-! ## How atoms are written -/

def intPieces : Int → List (Option Token)
  | .ofNat n => [some (.word (Nat.toDigits 10 n))]
  | .negSucc n => [some (.mark '-'), some (.word (Nat.toDigits 10 (n + 1)))]

/-- The field of an atom. -/
def Atom.field : Atom → String
  | .null f | .flag f _ | .number f _ | .pattern f _ | .network f _ | .equals f _ => f

def atomPieces : Atom → List (Option Token)
  | .null f => [some (.word "isnull".toList), some (.mark '('), some (.word f.toList),
      some (.mark ')')]
  | .flag f b => [some (.word f.toList), some (.mark '='),
      some (.word (if b then "true" else "false").toList)]
  | .number f n => some (.word f.toList) :: some (.mark '=') :: intPieces n
  | .pattern f s => [some (.word "match".toList), some (.mark '('), some (.word f.toList),
      some (.mark ','), none, some (.literal s.toList), some (.mark ')')]
  | .network f s => [some (.word "cidrmatch".toList), some (.mark '('),
      some (.literal s.toList), some (.mark ','), none, some (.word f.toList), some (.mark ')')]
  | .equals f s => [some (.word "lower".toList), some (.mark '('), some (.word f.toList),
      some (.mark ')'), some (.mark '='), some (.word "lower".toList), some (.mark '('),
      some (.literal s.toList), some (.mark ')')]

lemma toList_intText (n : Int) : (toString n).toList = (intPieces n).flatMap tokenText := by
  cases n with
  | ofNat n => simp [intPieces, tokenText, toString, Int.repr]
  | negSucc n => simp [intPieces, tokenText, toString, Int.repr]

lemma field_atomOf (field : String) (modifiers : Texts) (v : Value) :
    (atomOf field modifiers v).field = field := by
  unfold atomOf
  split
  · rfl
  · rfl
  · split <;> rfl
  · rfl

lemma clause_eq_atomPieces (field : String) {modifiers : Texts} {v : Value}
    (hv : Whole modifiers v) : ∃ text, clause field modifiers v = some text ∧
      text.toList = (atomPieces (atomOf field modifiers v)).flatMap tokenText := by
  match v, hv with
  | .null, _ => exact ⟨_, rfl, by simp [atomOf, atomPieces, tokenText, toString]⟩
  | .bool b, _ => exact ⟨_, rfl, by simp [atomOf, atomPieces, tokenText]⟩
  | .int n, _ =>
    refine ⟨_, rfl, ?_⟩
    have := toList_intText n
    simpa [atomOf, atomPieces, tokenText, toString] using this
  | .text s, hs =>
    refine ⟨_, rfl, ?_⟩
    rcases hs with h | h | h <;>
      simp [atomOf, h, Comparison.clause, atomPieces, tokenText, toString, escapeValue]

/-! ## Symbols of pieces -/

def Prints (ps : List (Option Token)) (ss : List Symbol) : Prop :=
  ∀ ts, symbolsFrom 0 (ps.filterMap id ++ ts) = (symbolsFrom 0 ts).map (ss ++ ·)

lemma Prints.append {ps qs : List (Option Token)} {ss rs : List Symbol} (hp : Prints ps ss)
    (hq : Prints qs rs) : Prints (ps ++ qs) (ss ++ rs) := by
  intro ts
  rw [filterMap_append, append_assoc, hp, hq]
  simp [Function.comp_def]

variable {sss : List (List Symbol)}

variable {pss : List (List (Option Token))} {w : Chars} {a : Atom} {fs : List Formula}

lemma Prints.intercalate {sep : List (Option Token)} {symbol : Symbol}
    (hsep : Prints sep [symbol]) (h : Forall₂ Prints pss sss) :
    Prints (sep.intercalate pss) ([symbol].intercalate sss) := by
  induction h with
  | nil =>
    intro ts
    simp
  | @cons ps ss pss sss hp hrest ih =>
    cases hrest with
    | nil => simpa using hp
    | cons hq hrest =>
      rw [intercalate_cons_cons, intercalate_cons_cons]
      exact (hp.append hsep).append ih

lemma prints_opening : Prints [some (.mark '(')] [.opening] := fun _ => rfl

lemma prints_closing : Prints [some (.mark ')')] [.closing] := fun _ => rfl

def operatorPieces (operator : String) : List (Option Token) :=
  [none, some (.word operator.toList), none]

lemma atomAt?_reserved (hw : w ∈ reserved) (ts : List Token) :
    atomAt? (.word w :: ts) = none := by
  have hall : ∀ w ∈ reserved, w ≠ "isnull".toList ∧ w ≠ "match".toList ∧ w ≠ "cidrmatch".toList ∧
      w ≠ "lower".toList := by decide
  obtain ⟨h₁, h₂, h₃, h₄⟩ := hall w hw
  unfold atomAt?
  split
  · rename_i he
    obtain ⟨rfl, -⟩ : _ = w ∧ _ := by simpa using he.symm
    simp [hw]
  · rename_i he
    obtain ⟨rfl, -⟩ : _ = w ∧ _ := by simpa using he.symm
    simp only [callAt?, beq_iff_eq, h₁, h₂, h₃, h₄, if_false, Option.map_none]
  · rfl

lemma prints_and : Prints (operatorPieces "AND") [.conjunction] := by
  intro ts
  have hnone := atomAt?_reserved (w := "AND".toList) (by decide) ts
  show symbolsFrom 0 (.word "AND".toList :: ts) = _
  rw [symbolsFrom, hnone]
  rfl

lemma prints_or : Prints (operatorPieces "OR") [.disjunction] := by
  intro ts
  have hnone := atomAt?_reserved (w := "OR".toList) (by decide) ts
  show symbolsFrom 0 (.word "OR".toList :: ts) = _
  rw [symbolsFrom, hnone]
  rfl

lemma isDigit_of_mem_digits {n : Nat} {c : Char} (hc : c ∈ Nat.toDigits 10 n) : c.isDigit :=
  Nat.isDigit_of_mem_toDigits (by decide) (by decide) hc

lemma number?_toDigits (n : Nat) : number? (Nat.toDigits 10 n) = some n := by
  have hdigits : (Nat.toDigits 10 n).all Char.isDigit :=
    all_eq_true.2 fun c hc => isDigit_of_mem_digits hc
  rw [number?, if_pos hdigits, Nat.ofDigitChars_ten_toDigits]

lemma valueAt?_intPieces (f : String) (n : Int) (ts : List Token) :
    valueAt? f ((intPieces n).filterMap id ++ ts) =
      some (.number f n, ((intPieces n).filterMap id).length) := by
  -- The digits of a number are no other word.
  have hword : ∀ (n : Nat) (w : Chars), (∃ c ∈ w, c.isDigit = false) →
      (Nat.toDigits 10 n == w) = false := by
    rintro n w ⟨c, hc, hdigit⟩
    rw [beq_eq_false_iff_ne]
    rintro rfl
    simp [isDigit_of_mem_digits hc] at hdigit
  cases n with
  | ofNat n =>
    have htrue := hword n "true".toList ⟨'t', by decide⟩
    have hfalse := hword n "false".toList ⟨'f', by decide⟩
    show valueAt? f (.word (Nat.toDigits 10 n) :: ts) = _
    rw [valueAt?, htrue, hfalse, number?_toDigits]
    rfl
  | negSucc n =>
    show valueAt? f (.mark '-' :: .word (Nat.toDigits 10 (n + 1)) :: ts) = _
    rw [valueAt?, number?_toDigits]
    rfl

lemma atomAt?_atomPieces (ha : IsField a.field) (ts : List Token) :
    atomAt? ((atomPieces a).filterMap id ++ ts) = some (a, ((atomPieces a).filterMap id).length) := by
  have hres : a.field.toList ∉ reserved := ha.2.2
  cases a with
  | null f => simp [atomPieces, atomAt?, callAt?]
  | flag f b =>
    simp only [Atom.field] at hres
    cases b <;> simp [atomPieces, atomAt?, valueAt?, hres]
  | number f n =>
    have hres : reserved.contains f.toList = false := by simpa [Atom.field] using hres
    show atomAt? (.word f.toList :: .mark '=' :: ((intPieces n).filterMap id ++ ts)) = _
    rw [atomAt?, hres, String.ofList_toList, valueAt?_intPieces]
    rfl
  | pattern f s => simp [atomPieces, atomAt?, callAt?]
  | network f s => simp [atomPieces, atomAt?, callAt?]
  | equals f s => simp [atomPieces, atomAt?, callAt?]

lemma symbolsFrom_length (xs ts : List Token) :
    symbolsFrom xs.length (xs ++ ts) = symbolsFrom 0 ts := by
  induction xs with
  | nil => rfl
  | cons x xs ih => rw [length_cons, cons_append, symbolsFrom, ih]

lemma prints_atom (ha : IsField a.field) : Prints (atomPieces a) [.atom a] := by
  intro ts
  have hat := atomAt?_atomPieces ha ts
  obtain ⟨t, us, hus⟩ : ∃ t us, (atomPieces a).filterMap id = t :: us := by
    cases a <;> exact ⟨_, _, rfl⟩
  rw [hus, cons_append] at hat ⊢
  rw [symbolsFrom, hat]
  simp only [length_cons, Nat.add_sub_cancel, symbolsFrom_length]
  rfl

/-! ## Formulas of symbols -/

def Reads (ss : List Symbol) (f : Formula) : Prop :=
  ∀ outer alternatives factors rest,
    formulaFrom outer ⟨alternatives, factors, false⟩ true (ss ++ rest) =
      formulaFrom outer ⟨alternatives, factors ++ [f], false⟩ false rest

lemma reads_atom (a : Atom) : Reads [.atom a] (.atom a) := by
  intro outer alternatives factors rest
  rw [singleton_append, formulaFrom]
  rfl

lemma formulaFrom_conjunction (h : Forall₂ Reads sss fs) (hne : sss ≠ [])
    (outer : List Frame) (alternatives factors : List Formula) (rest : List Symbol) :
    formulaFrom outer ⟨alternatives, factors, false⟩ true ([.conjunction].intercalate sss ++ rest) =
      formulaFrom outer ⟨alternatives, factors ++ fs, false⟩ false rest := by
  induction h generalizing factors with
  | nil => exact absurd rfl hne
  | @cons ss f sss fs hs hrest ih =>
    cases hrest with
    | nil => rw [intercalate_singleton, hs]
    | @cons ss' f' sss fs hs' hrest =>
      rw [intercalate_cons_cons, append_assoc, append_assoc, hs,
        singleton_append, formulaFrom, ih (by simp)]
      simp

lemma formulaFrom_disjunction (h : Forall₂ Reads sss fs) (hne : sss ≠ [])
    (outer : List Frame) (alternatives : List Formula) (rest : List Symbol) :
    ∃ frame : Frame, frame.formula = .anyOf (alternatives ++ fs) ∧
      formulaFrom outer ⟨alternatives, [], false⟩ true ([.disjunction].intercalate sss ++ rest) =
        formulaFrom outer frame false rest := by
  induction h generalizing alternatives with
  | nil => exact absurd rfl hne
  | @cons ss f sss fs hs hrest ih =>
    cases hrest with
    | nil => exact ⟨⟨alternatives, [f], false⟩, rfl, by rw [intercalate_singleton, hs]; rfl⟩
    | @cons ss' f' sss fs hs' hrest =>
      obtain ⟨frame, hframe, hread⟩ := ih (by simp) (alternatives ++ [f])
      refine ⟨frame, by simpa using hframe, ?_⟩
      rw [← hread, intercalate_cons_cons, append_assoc, append_assoc, hs,
        singleton_append, formulaFrom]
      rfl

lemma reads_disjunction (h : Forall₂ Reads sss fs) (hne : sss ≠ []) :
    Reads ([.opening] ++ [.disjunction].intercalate sss ++ [.closing]) (.anyOf fs) := by
  intro outer alternatives factors rest
  obtain ⟨frame, hframe, hread⟩ := formulaFrom_disjunction h hne
    (⟨alternatives, factors, false⟩ :: outer) [] (.closing :: rest)
  rw [append_assoc, append_assoc, singleton_append, singleton_append,
    formulaFrom, show Frame.empty = ⟨[], [], false⟩ from rfl, hread, formulaFrom, hframe]
  rfl

/-! ## Pieces that can be written one after the other -/

def Neat (ps : List (Option Token)) : Prop := (∀ p ∈ ps, Writable p) ∧ ps.IsChain Separate

def isWordPiece : Option Token → Bool
  | some (.word _) => true
  | _ => false

lemma separate_of_not_word {p q : Option Token} (h : isWordPiece p = false ∨ isWordPiece q = false) :
    Separate p q := by
  match p, q with
  | some (.word _), some (.word _) => simp [isWordPiece] at h
  | some (.word _), some (.literal _) => trivial
  | some (.word _), some (.mark _) => trivial
  | some (.word _), none => trivial
  | some (.literal _), _ => trivial
  | some (.mark _), _ => trivial
  | none, _ => trivial

lemma Neat.append {ps qs : List (Option Token)} {p : Option Token} (hps : Neat ps)
    (hqs : Neat qs) (hp : Writable p) (hword : isWordPiece p = false) : Neat (ps ++ p :: qs) := by
  refine ⟨?_, isChain_append.2 ⟨hps.2, ?_, fun x _ y hy => ?_⟩⟩
  · intro q hq
    rcases mem_append.1 hq with hq | hq
    · exact hps.1 q hq
    · rcases mem_cons.1 hq with rfl | hq
      · exact hp
      · exact hqs.1 q hq
  · exact isChain_cons.2 ⟨fun y _ => separate_of_not_word (.inl hword), hqs.2⟩
  · obtain rfl : p = y := by simpa using hy
    exact separate_of_not_word (.inr hword)

lemma neat_nil : Neat [] := ⟨by simp, isChain_nil⟩

lemma neat_word (hw : Writable (some (.word w))) : Neat [some (.word w)] :=
  ⟨by simpa using hw, isChain_singleton _⟩

lemma Neat.intercalate {operator : String} (hop : Writable (some (.word operator.toList)))
    (h : ∀ ps ∈ pss, Neat ps) : Neat ((operatorPieces operator).intercalate pss) := by
  induction pss with
  | nil => exact neat_nil
  | cons ps pss ih =>
    obtain ⟨hps, hrest⟩ := forall_mem_cons.1 h
    cases pss with
    | nil => simpa using hps
    | cons qs pss =>
      -- The operator has a blank before and after it.
      have hword : Neat ([some (.word operator.toList)] ++ none :: _) :=
        (neat_word hop).append (ih hrest) trivial rfl
      exact hps.append hword trivial rfl

lemma neat_bracketed {ps : List (Option Token)} (h : Neat ps) :
    Neat ([some (.mark '(')] ++ ps ++ [some (.mark ')')]) := by
  have hclose : Neat (ps ++ [some (.mark ')')]) := h.append neat_nil (by decide) rfl
  have hopen : Neat ([] ++ some (.mark '(') :: (ps ++ [some (.mark ')')])) :=
    neat_nil.append hclose (by decide) rfl
  simpa using hopen

lemma writable_toDigits (n : Nat) : Writable (some (.word (Nat.toDigits 10 n))) := by
  refine ⟨fun h => ?_, fun c hc => ?_⟩
  · have := Nat.length_toDigits_pos (b := 10) (n := n)
    simp [h] at this
  · have hdigit := isDigit_of_mem_digits hc
    have hsmall : c.toNat < 128 := Nat.lt_of_le_of_lt (Char.isDigit_iff_toNat.1 hdigit).2 (by decide)
    simp [isWord, hsmall, Char.isAlphanum, hdigit]

lemma neat_intPieces (n : Int) : ∀ p ∈ intPieces n, Writable p := by
  cases n with
  | ofNat n => simpa [intPieces] using writable_toDigits n
  | negSucc n => simpa [intPieces] using ⟨by decide, writable_toDigits (n + 1)⟩

lemma neat_atomPieces (ha : IsField a.field) : Neat (atomPieces a) := by
  have hfield : Writable (some (.word a.field.toList)) := ⟨ha.1, ha.2.1⟩
  constructor
  · -- The field is the only word that is not fixed, but for numbers.
    cases a with
    | number f n =>
      exact forall_mem_cons.2 ⟨hfield, forall_mem_cons.2 ⟨by decide, neat_intPieces n⟩⟩
    | flag f b =>
      simp only [atomPieces, forall_mem_cons]
      cases b <;> exact ⟨hfield, by decide, by decide, by simp⟩
    | _ =>
      simp only [atomPieces, forall_mem_cons]
      and_intros <;> first | exact hfield.1 | exact hfield.2 | decide | trivial
  · cases a with
    | number f n => cases n <;> simp [atomPieces, intPieces, Separate]
    | _ => simp [atomPieces, Separate]

/-! ## Clauses of selections -/

def fieldPieces (fields : FieldMap) (ref : FieldRef) (value : Value) : List (Option Token) :=
  match value with
  | .list _ => [some (.mark '(')] ++
      (operatorPieces "OR").intercalate ((atomsOf fields ref value).map atomPieces) ++
        [some (.mark ')')]
  | _ => (atomsOf fields ref value).flatMap atomPieces

def fieldSymbols (fields : FieldMap) (ref : FieldRef) (value : Value) : List Symbol :=
  match value with
  | .list _ => [.opening] ++
      [.disjunction].intercalate ((atomsOf fields ref value).map fun a => [.atom a]) ++ [.closing]
  | _ => (atomsOf fields ref value).map .atom

lemma flatMap_intercalate {α β : Type} (f : α → List β) (sep : List α) (xss : List (List α)) :
    (sep.intercalate xss).flatMap f = (sep.flatMap f).intercalate (xss.map (·.flatMap f)) := by
  induction xss with
  | nil => rfl
  | cons xs xss ih =>
    cases xss with
    | nil => simp
    | cons ys xss => simp [intercalate_cons_cons, ih]

lemma value_cases (value : Value) :
    (∃ vs, value = .list vs) ∨ ((∀ vs, value ≠ .list vs) ∧ valuesOf value = [value]) := by
  cases value with
  | list vs => exact .inl ⟨vs, rfl⟩
  | _ => exact .inr ⟨by simp, rfl⟩

section

variable {fields : FieldMap} {ref : FieldRef} {value : Value}

lemma fieldPieces_scalar (h : ∀ vs, value ≠ .list vs) :
    fieldPieces fields ref value = (atomsOf fields ref value).flatMap atomPieces := by
  cases value <;> first | rfl | exact absurd rfl (h _)

lemma fieldSymbols_scalar (h : ∀ vs, value ≠ .list vs) :
    fieldSymbols fields ref value = (atomsOf fields ref value).map .atom := by
  cases value <;> first | rfl | exact absurd rfl (h _)

lemma fieldClause_scalar (h : ∀ vs, value ≠ .list vs) :
    fieldClause fields ref value = clause (fields.target ref.name) ref.modifiers value := by
  cases value <;> first | rfl | exact absurd rfl (h _)

lemma filterMap_clause_eq (field : String) {modifiers : Texts} {vs : List Value}
    (hvs : ∀ v ∈ vs, Whole modifiers v) :
    (vs.filterMap (clause field modifiers)).map String.toList =
      (vs.map (atomOf field modifiers)).map fun a => (atomPieces a).flatMap tokenText := by
  induction vs with
  | nil => rfl
  | cons v vs ih =>
    obtain ⟨hv, hvs⟩ := forall_mem_cons.1 hvs
    obtain ⟨text, hclause, htext⟩ := clause_eq_atomPieces field hv
    simp [hclause, htext, ih hvs]

lemma fieldClause_eq (hwhole : ∀ v ∈ valuesOf value, Whole ref.modifiers v) :
    (fieldClause fields ref value).map String.toList = if (valuesOf value).isEmpty then none
      else some ((fieldPieces fields ref value).flatMap tokenText) := by
  rcases value_cases value with ⟨vs, rfl⟩ | ⟨hscalar, hself⟩
  · have hclauses := filterMap_clause_eq (fields.target ref.name) hwhole
    simp only [valuesOf] at hclauses
    generalize hcs : vs.filterMap (clause (fields.target ref.name) ref.modifiers) = clauses
      at hclauses
    have hempty : clauses.isEmpty = vs.isEmpty := by
      cases clauses <;> cases vs <;> simp_all
    simp only [fieldClause, hcs, hempty]
    change _ = if vs.isEmpty then none else _
    by_cases hvs : vs.isEmpty
    · simp [hvs]
    · have hor : " OR ".toList = (operatorPieces "OR").flatMap tokenText := rfl
      rw [if_neg hvs, if_neg hvs, Option.map_some, String.toList_append, String.toList_append,
        String.toList_intercalate, hclauses, hor, fieldPieces, flatMap_append,
        flatMap_append, flatMap_intercalate]
      simp [atomsOf, valuesOf, tokenText, Function.comp_def]
  · have hv : Whole ref.modifiers value := hwhole value (by simp [hself])
    obtain ⟨text, hclause, htext⟩ := clause_eq_atomPieces (fields.target ref.name) hv
    rw [fieldClause_scalar hscalar, hclause, fieldPieces_scalar hscalar, atomsOf, hself]
    simp [htext]

variable (hfield : IsField (fields.target ref.name))
include hfield

lemma isField_of_mem_atomsOf {a : Atom} (ha : a ∈ atomsOf fields ref value) : IsField a.field := by
  obtain ⟨v, -, rfl⟩ := mem_map.1 ha
  rw [field_atomOf]
  exact hfield

lemma neat_fieldPieces : Neat (fieldPieces fields ref value) := by
  have hatoms : ∀ ps ∈ (atomsOf fields ref value).map atomPieces, Neat ps := by
    intro ps hps
    obtain ⟨a, ha, rfl⟩ := mem_map.1 hps
    exact neat_atomPieces (isField_of_mem_atomsOf hfield ha)
  rcases value_cases value with ⟨vs, rfl⟩ | ⟨hscalar, hself⟩
  · exact neat_bracketed (Neat.intercalate (by decide) hatoms)
  · rw [fieldPieces_scalar hscalar]
    simpa [atomsOf, hself] using hatoms

lemma prints_fieldPieces : Prints (fieldPieces fields ref value) (fieldSymbols fields ref value) := by
  have hatoms : Forall₂ Prints ((atomsOf fields ref value).map atomPieces)
      ((atomsOf fields ref value).map fun a => [.atom a]) := by
    rw [forall₂_map_left_iff, forall₂_map_right_iff, forall₂_same]
    exact fun a ha => prints_atom (isField_of_mem_atomsOf hfield ha)
  rcases value_cases value with ⟨vs, rfl⟩ | ⟨hscalar, hself⟩
  · exact (prints_opening.append (prints_or.intercalate hatoms)).append prints_closing
  · rw [fieldPieces_scalar hscalar, fieldSymbols_scalar hscalar]
    simpa [atomsOf, hself] using hatoms

omit hfield in
lemma reads_fieldSymbols (hne : valuesOf value ≠ []) :
    Reads (fieldSymbols fields ref value) (fieldFormula fields ref value) := by
  rcases value_cases value with ⟨vs, rfl⟩ | ⟨hscalar, hself⟩
  · have hatoms : Forall₂ Reads ((atomsOf fields ref (.list vs)).map fun a => [.atom a])
        ((atomsOf fields ref (.list vs)).map .atom) := by
      rw [forall₂_map_left_iff, forall₂_map_right_iff, forall₂_same]
      exact fun a _ => reads_atom a
    exact reads_disjunction hatoms (by simpa [atomsOf] using hne)
  · rw [fieldSymbols_scalar hscalar, fieldFormula, atomsOf, hself]
    exact reads_atom _

end

/-- A selection that is given by its keys, as they are written, and their values. -/
def refsOf (block : Fields) : List (FieldRef × Value) :=
  block.map fun e => (FieldRef.ofText e.1, e.2)

lemma isWritten_of_whole {modifiers : Texts} :
    {v : Value} → Whole modifiers v → isWritten v = true
  | .int _, h => by rw [isWritten, show Decimal.isLongWhole _ = false from h]; rfl
  | .null, _ | .bool _, _ | .text _, _ => rfl

lemma selectionClause_eq {fields : FieldMap} {refs : List (FieldRef × Value)}
    (hwhole : ∀ r ∈ refs, ∀ v ∈ valuesOf r.2, Whole r.1.modifiers v) :
    (selectionClause fields refs).toList =
      ((operatorPieces "AND").intercalate ((refs.filter fun r => !(valuesOf r.2).isEmpty).map fun r =>
        fieldPieces fields r.1 r.2)).flatMap tokenText := by
  have hclauses : (refs.filterMap fun r => fieldClause fields r.1 r.2).map String.toList =
      (refs.filter fun r => !(valuesOf r.2).isEmpty).map fun r =>
        (fieldPieces fields r.1 r.2).flatMap tokenText := by
    induction refs with
    | nil => rfl
    | cons r refs ih =>
      obtain ⟨hr, hrefs⟩ := forall_mem_cons.1 hwhole
      have hclause : (fieldClause fields r.1 r.2).map String.toList = _ := fieldClause_eq hr
      by_cases hempty : (valuesOf r.2).isEmpty
      · rw [if_pos hempty, Option.map_eq_none_iff] at hclause
        simp [hclause, hempty, ih hrefs]
      · rw [if_neg hempty, Option.map_eq_some_iff] at hclause
        obtain ⟨text, hclause, htext⟩ := hclause
        simp [hclause, hempty, htext, ih hrefs]
  have hand : " AND ".toList = (operatorPieces "AND").flatMap tokenText := rfl
  rw [selectionClause, String.toList_intercalate, hclauses, hand, flatMap_intercalate, map_map]
  rfl

/-- The clause of a selection is read as what the selection asks for, whatever texts its values
    are: all its fields that have values, in their order, and of the values of a field one. Every
    text is read back as it is, and so is every number that can be written. -/
theorem read_selectionClause (names : List (String × String)) (block : List (String × Value))
    (hfield : ∀ e ∈ block, IsField ((FieldMap.ofNames names).target (FieldRef.ofText e.1).name))
    (hwhole : ∀ e ∈ block, ∀ v ∈ valuesOf e.2, Whole (FieldRef.ofText e.1).modifiers v)
    (hvalue : ∃ e ∈ block, valuesOf e.2 ≠ []) :
    selectionRefs (block.map fun e => (.text e.1, e.2)) = .ok (refsOf block) ∧
      read (selectionClause (.ofNames names) (refsOf block)) =
        some (selectionFormula (.ofNames names) (refsOf block)) := by
  generalize FieldMap.ofNames names = fields at hfield ⊢
  refine ⟨?_, ?_⟩
  · rw [selectionRefs_texts, if_pos]
    · rfl
    · exact all_eq_true.2 fun e he => all_eq_true.2 fun v hv => isWritten_of_whole (hwhole e he v hv)
  have hfield' : ∀ r ∈ refsOf block, IsField (fields.target r.1.name) := by
    intro r hr
    obtain ⟨e, he, rfl⟩ := mem_map.1 hr
    exact hfield e he
  have hwhole' : ∀ r ∈ refsOf block, ∀ v ∈ valuesOf r.2, Whole r.1.modifiers v := by
    intro r hr
    obtain ⟨e, he, rfl⟩ := mem_map.1 hr
    exact hwhole e he
  generalize hrs : (refsOf block).filter (fun r => !(valuesOf r.2).isEmpty) = rs
  have hmem : ∀ r ∈ rs, r ∈ refsOf block ∧ valuesOf r.2 ≠ [] := by
    intro r hr
    simpa [← hrs] using hr
  have hne : rs ≠ [] := by
    obtain ⟨e, he, hv⟩ := hvalue
    refine ne_nil_of_mem (a := (FieldRef.ofText e.1, e.2)) ?_
    rw [← hrs]
    simpa [refsOf, hv] using ⟨_, he, rfl⟩
  have hneat : Neat ((operatorPieces "AND").intercalate (rs.map fun r => fieldPieces fields r.1 r.2)) := by
    refine Neat.intercalate (by decide) fun ps hps => ?_
    obtain ⟨r, hr, rfl⟩ := mem_map.1 hps
    exact neat_fieldPieces (hfield' r (hmem r hr).1)
  have hprints : Forall₂ Prints (rs.map fun r => fieldPieces fields r.1 r.2)
      (rs.map fun r => fieldSymbols fields r.1 r.2) := by
    rw [forall₂_map_left_iff, forall₂_map_right_iff, forall₂_same]
    exact fun r hr => prints_fieldPieces (hfield' r (hmem r hr).1)
  have hreads : Forall₂ Reads (rs.map fun r => fieldSymbols fields r.1 r.2)
      (rs.map fun r => fieldFormula fields r.1 r.2) := by
    rw [forall₂_map_left_iff, forall₂_map_right_iff, forall₂_same]
    exact fun r hr => reads_fieldSymbols (hmem r hr).2
  have hsymbols := prints_and.intercalate hprints []
  have hformula := formulaFrom_conjunction hreads (by simpa using hne) [] [] [] []
  rw [append_nil] at hsymbols hformula
  rw [read, selectionClause_eq hwhole', hrs, tokens?_flatMap hneat.1 hneat.2, Option.bind_some,
    symbols?, hsymbols]
  simp only [symbolsFrom, Option.map_some, append_nil, Option.bind_some]
  rw [formula?, show Frame.empty = ⟨[], [], false⟩ from rfl, hformula, selectionFormula, hrs]
  rfl

/-- Values with quotes, operators and parentheses in them, and a field without values. -/
theorem read_selectionClause_quotes :
    (selectionRefs [(.text "User", .list [.text "a\" OR (\"", .null, .int (-4)]),
        (.text "Skip", .list []), (.text "Ip|cidr|all", .text "10.0.0.0/8\\")]).map
      (fun refs => read (selectionClause (.ofNames [("User", "user"), ("Ip", "ip")]) refs)) =
      .ok (some (.all [.any [.atom (.equals "user" "a\" OR (\""), .atom (.null "user"),
        .atom (.number "user" (-4))], .atom (.network "ip" "10.0.0.0/8\\")])) := by
  have h := read_selectionClause [("User", "user"), ("Ip", "ip")]
    [("User", .list [.text "a\" OR (\"", .null, .int (-4)]), ("Skip", .list []),
      ("Ip|cidr|all", .text "10.0.0.0/8\\")] (by decide) (by decide)
    ⟨_, mem_cons_self, by simp [valuesOf]⟩
  exact (congrArg _ h.1).trans (congrArg Except.ok h.2)

/-- A number with too many digits leaves its selection without a clause. -/
theorem selectionRefs_long : IsField ((FieldMap.ofNames [("F", "F")]).target "F") ∧
    selectionRefs [(.text "F", .int (10 ^ 4300))] = .error (.refused Decimal.longWhole) := by
  refine ⟨by decide, (selectionRefs_texts [("F", .int (10 ^ 4300))]).trans (if_neg ?_)⟩
  have hlong : Decimal.isLongWhole (10 ^ 4300) = true := by decide +kernel
  generalize (10 : Int) ^ 4300 = n at hlong ⊢
  simp [valuesOf, isWritten, hlong]

end Huntbook.Search.Reader
