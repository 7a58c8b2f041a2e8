import Huntbook.Proofs.Converted

/-!
# When requirements can be told

The requirements of a rule can be told if its log source is named in the right way and the event
codes in its selections are numbers. What is right differs from name to name: a product has to be a
text, a category may be a number as well, and a service may be one that counts as false.
-/

namespace Huntbook

/-! ## Digits -/

namespace Text

variable {c : Char}

lemma inRanges_eq_false {table : List (Nat × Nat)} {low high : Nat}
    (hlow : low ≤ c.toNat) (hhigh : c.toNat ≤ high) (h : ∀ r ∈ table, r.2 < low ∨ high < r.1) :
    inRanges table c = false := by
  rw [inRanges, List.any_eq_false]
  intro r hr
  have := h r hr
  simp only [Bool.and_eq_true, decide_eq_true_eq]
  omega

lemma toNat_of_isDigit (h : c.isDigit) : 48 ≤ c.toNat ∧ c.toNat ≤ 57 :=
  Char.isDigit_iff_toNat.1 h

def digitRanges : List (Nat × Nat) := (48, 57) :: (decimalRanges ++ digitSignRanges)

lemma inRanges_of_isDigit (h : isDigit c) : inRanges digitRanges c := by
  simp only [isDigit, isDecimal, Bool.or_eq_true] at h
  rw [digitRanges, inRanges, List.any_cons, List.any_append, Bool.or_eq_true, Bool.or_eq_true]
  rcases h with h | h
  · split at h
    · exact .inl (by simpa using toNat_of_isDigit h)
    · exact .inr (.inl h)
  · exact .inr (.inr h)

lemma not_isDigit_of_gap {low high : Nat} (hlow : low ≤ c.toNat)
    (hhigh : c.toNat ≤ high) (h : ∀ r ∈ digitRanges, r.2 < low ∨ high < r.1) : ¬isDigit c :=
  fun hc => by simpa [inRanges_eq_false hlow hhigh h] using inRanges_of_isDigit hc

lemma isBlank_of_isDigit (h : isDigit c) : isBlank c = false := by
  rw [Bool.eq_false_iff]
  intro hblank
  simp only [isBlank, Bool.or_eq_true, Bool.and_eq_true, decide_eq_true_eq, beq_iff_eq] at hblank
  rcases hblank with (((((((((hc | hc) | hc) | hc) | hc) | hc) | hc) | hc) | hc) | hc) | hc
  all_goals first
    | exact not_isDigit_of_gap hc.1 hc.2 (by decide) h
    | exact not_isDigit_of_gap hc.ge hc.le (by decide) h

lemma isSome_decimalValue? (c : Char) : (decimalValue? c).isSome = isDecimal c := by
  unfold decimalValue? isDecimal
  split
  · rename_i hc
    have := toNat_of_isDigit hc
    rw [if_pos (by omega), hc]
    rfl
  · rename_i hc
    rw [Option.isSome_map, List.isSome_find?]
    split
    · rename_i hascii
      rw [Bool.eq_false_iff.2 hc]
      exact inRanges_eq_false (Nat.zero_le _) (Nat.le_of_lt_succ hascii) (by decide)
    · rfl

lemma lt_of_decimalValue? {d : Nat} (h : decimalValue? c = some d) : d < 10 := by
  unfold decimalValue? at h
  split at h
  · rename_i hc
    obtain rfl := Option.some.inj h
    have := toNat_of_isDigit hc
    have hzero : '0'.toNat = 48 := rfl
    omega
  · obtain ⟨r, -, rfl⟩ := Option.map_eq_some_iff.1 h
    exact Nat.mod_lt _ (by decide)

lemma strip_eq_self {p : Char → Bool} {cs : Chars} (h : ∀ c ∈ cs, p c = false) :
    strip p cs = cs := by
  have hdrop : ∀ {cs : Chars}, (∀ c ∈ cs, p c = false) → cs.dropWhile p = cs := fun {cs} h => by
    cases cs with
    | nil => rfl
    | cons c cs => rw [List.dropWhile_cons_of_neg (by simp [h c List.mem_cons_self])]
  rw [strip, hdrop h, dropEndWhile, hdrop fun c hc => h c (List.mem_reverse.1 hc),
    List.reverse_reverse]

end Text

namespace Decimal

open Text (isDigit isDecimal)

lemma digitValue?_of_isDigit {c : Char} (h : isDigit c) :
    digitValue? c = Text.decimalValue? c := by
  have hlower : ¬('a' ≤ c && c ≤ 'z') := by
    simp only [Bool.and_eq_true, decide_eq_true_eq]
    exact fun hc => Text.not_isDigit_of_gap hc.1 hc.2 (by decide) h
  have hupper : ¬('A' ≤ c && c ≤ 'Z') := by
    simp only [Bool.and_eq_true, decide_eq_true_eq]
    exact fun hc => Text.not_isDigit_of_gap hc.1 hc.2 (by decide) h
  rw [digitValue?, if_neg hlower, if_neg hupper]

lemma digitsFrom_succeeds_iff {n digits : Nat} {after : Bool} {cs : Chars}
    (hcs : ∀ c ∈ cs, isDigit c) (hafter : cs = [] → after = true) :
    Succeeds (digitsFrom 10 n digits after cs) ↔
      (∀ c ∈ cs, isDecimal c) ∧ digits + cs.length ≤ mostDigits := by
  induction cs generalizing n digits after with
  | nil =>
    rw [hafter rfl, digitsFrom]
    by_cases hlong : mostDigits < digits
    · simp [Succeeds, isLong, hlong]
    · simp [Succeeds, isLong, hlong, Nat.not_lt.1 hlong]
  | cons c cs ih =>
    obtain ⟨hc, hcs⟩ := List.forall_mem_cons.1 hcs
    have hline : ¬(c == '_') := by
      rintro hc'
      obtain rfl : c = '_' := by simpa using hc'
      exact absurd hc (by decide)
    have hsome := Text.isSome_decimalValue? c
    rw [digitsFrom, if_neg hline, digitValue?_of_isDigit hc]
    cases hd : Text.decimalValue? c with
    | none =>
      refine iff_of_false (by simp [Succeeds]) fun h => ?_
      rw [hd, h.1 c List.mem_cons_self] at hsome
      exact absurd hsome (by decide)
    | some d =>
      have hdec : isDecimal c := by rw [← hsome, hd]; rfl
      rw [Option.filter_some, if_pos (by simpa using Text.lt_of_decimalValue? hd)]
      simp only [ih hcs fun _ => rfl, List.forall_mem_cons, hdec, true_and, List.length_cons]
      rw [Nat.add_right_comm, Nat.add_assoc]

lemma readBase_succeeds_iff {cs : Chars} (hne : cs ≠ []) (hcs : ∀ c ∈ cs, isDigit c) :
    Succeeds (readBase 10 cs) ↔ (∀ c ∈ cs, isDecimal c) ∧ cs.length ≤ mostDigits := by
  have hsign : ∀ {sign : Char} {rest : Chars}, isDigit sign = false → cs ≠ sign :: rest := by
    rintro sign rest hsign rfl
    simp [hsign] at hcs
  have hdigits := @digitsFrom_succeeds_iff 0 0 false cs hcs fun hnil => absurd hnil hne
  rw [Nat.zero_add] at hdigits
  rw [readBase, Text.strip_eq_self fun c hc => Text.isBlank_of_isDigit (hcs c hc)]
  split
  · exact absurd rfl (hsign (by decide))
  · exact absurd rfl (hsign (by decide))
  · rw [Succeeds.map_iff, dropBase_ten]
    exact Succeeds.bind_pure_iff.trans hdigits

end Decimal

namespace Conversion

/-! ## Event codes -/

def IsNumeral (s : String) : Prop :=
  (∀ c ∈ s.toList, Text.isDecimal c) ∧ s.length ≤ Decimal.mostDigits

def ReadableCodes (selection : Entries) : Prop :=
  ∀ field ∈ codeFields, ∀ items, Value.find? selection (.text field) = some (.list items) →
    ∀ s, Value.text s ∈ items → isDigits s → IsNumeral s

variable {v : Value}

lemma itemCode?_succeeds_iff :
    Succeeds (itemCode? v) ↔ ∀ s, v = .text s → isDigits s → IsNumeral s := by
  cases v with
  | text s =>
    simp only [itemCode?, Value.text.injEq, forall_eq']
    split
    · rename_i hs
      have hdigits := hs
      simp only [isDigits, Bool.and_eq_true, Bool.not_eq_true', List.all_eq_true] at hdigits
      have hne : s.toList ≠ [] := by simpa using hdigits.1
      rw [Succeeds.map_iff, Fault.readBase, Succeeds.mapError_iff,
        Decimal.readBase_succeeds_iff hne hdigits.2]
      simp [hs, IsNumeral, String.length_toList]
    · rename_i hs
      simp [Succeeds, hs]
  | _ => simp [itemCode?, Succeeds]

lemma fieldCodes_succeeds_iff : Succeeds (fieldCodes v) ↔
      ∀ items, v = .list items → ∀ s, Value.text s ∈ items → isDigits s → IsNumeral s := by
  cases v with
  | list items =>
    rw [fieldCodes, Succeeds.bind_pure_iff]
    simp only [Succeeds.mapM_iff, itemCode?_succeeds_iff, Value.list.injEq, forall_eq']
    constructor
    · exact fun h s hs => h _ hs s rfl
    · rintro h _ hs s rfl
      exact h s hs
  | _ => simp [fieldCodes, Succeeds]

lemma selectionCodes_succeeds_iff {selection : Entries} :
    Succeeds (selectionCodes selection) ↔ ReadableCodes selection := by
  rw [selectionCodes, Succeeds.bind_pure_iff, Succeeds.mapM_iff]
  refine forall₂_congr fun field _ => ?_
  cases Value.find? selection (.text field) with
  | none => simp [Succeeds]
  | some v => simp only [fieldCodes_succeeds_iff, Option.some.injEq]

variable {rule : Value} {source : Entries}

lemma ruleCodes_succeeds_iff {entries : Entries}
    (h : rule.getOr "detection" (.map []) = .ok (.map entries)) :
    Succeeds (ruleCodes rule) ↔ ∀ name selection, (name, Value.map selection) ∈ entries →
      name ≠ .text "condition" → ReadableCodes selection := by
  rw [ruleCodes, h]
  refine (Succeeds.bind_pure_iff (x := entries.mapM _)).trans ?_
  rw [Succeeds.mapM_iff]
  constructor
  · intro hall name selection hmem hname
    have hcodes := hall _ hmem
    dsimp only at hcodes
    rw [if_neg (mt Value.same_text.1 hname)] at hcodes
    exact selectionCodes_succeeds_iff.1 hcodes
  · rintro hall ⟨name, block⟩ hmem
    dsimp only
    split
    · exact ⟨[], rfl⟩
    · rename_i hname
      cases block with
      | map selection =>
        exact selectionCodes_succeeds_iff.2 (hall name selection hmem (mt Value.same_text.2 hname))
      | _ => exact ⟨[], rfl⟩

/-! ## Log sources -/

inductive IsText : Value → Prop
  | text (s : String) : IsText (.text s)
  | bytes {data : List UInt8} {s : String} (h : String.fromUTF8? ⟨data.toArray⟩ = some s) :
      IsText (.bytes data)

/-- A number that can be written. -/
inductive IsNumber : Value → Prop
  | int {n : Int} (h : Decimal.isLongWhole n = false) : IsNumber (.int n)
  | bool (b : Bool) : IsNumber (.bool b)
  | float (x : Float) : IsNumber (.float x)

def NamesSource (v : Value) : Prop := v = .null ∨ IsText v ∨ IsNumber v

def IsTextual (v : Value) : Prop := (∃ s, v = .text s) ∨ ∃ data, v = .bytes data

structure UsableSource (source : Entries) : Prop where
  product : ∀ v, Value.find? source (.text "product") = some v → IsText v
  service : ∀ v, Value.find? source (.text "service") = some v →
    v = .null ∨ IsText v ∨ IsNumber v ∧ v.truthy = false
  category : ∀ v, Value.find? source (.text "category") = some v → NamesSource v

lemma textOf_succeeds_iff : Succeeds (Form.textOf v) ↔ IsText v ∨ IsNumber v := by
  constructor
  · rintro ⟨s, h⟩
    cases v with
    | text s => exact .inl (.text s)
    | bytes data =>
      simp only [Form.textOf] at h
      split at h
      · rename_i s hs
        exact .inl (.bytes hs)
      · simp at h
    | int n =>
      refine .inr (.int (Bool.eq_false_iff.2 fun hlong => ?_))
      simp [Form.textOf, hlong] at h
    | bool b => exact .inr (.bool b)
    | float x => exact .inr (.float x)
    | _ => simp [Form.textOf] at h
  · rintro ((s | @⟨_, s, h⟩) | (@⟨n, h⟩ | b | x))
    · exact ⟨s, rfl⟩
    · exact ⟨s, by simp only [Form.textOf, h]⟩
    · exact ⟨toString n, by rw [Form.textOf, h]; rfl⟩
    all_goals exact ⟨_, rfl⟩

lemma sourceName_succeeds_iff {key : String} : Succeeds (sourceName key v) ↔ NamesSource v := by
  rw [NamesSource, ← textOf_succeeds_iff]
  cases v with
  | null => simp [sourceName, Succeeds]
  | _ => simp only [sourceName, Succeeds.mapError_iff, Succeeds.map_iff, reduceCtorEq, false_or]

lemma lower_succeeds_iff : Succeeds v.lower ↔ ∃ s, v = .text s := by
  rw [Value.lower, Succeeds.map_iff]
  cases v <;> simp [Value.asText, Succeeds]

lemma sourceKeys_succeeds_iff {service category : Value} :
    Succeeds (sourceKeys service category) ↔ (service.truthy → IsTextual service) ∧
      (service.truthy = false → category.truthy → category.hashable) := by
  unfold sourceKeys
  split
  · rename_i hservice
    split
    · simp_all [Succeeds, IsTextual]
    · rename_i hbytes
      simp only [Succeeds.map_iff, lower_succeeds_iff, hservice, forall_const, Bool.true_eq_false,
        false_implies, and_true]
      refine (or_iff_left ?_).symm
      rintro ⟨data, hdata⟩
      exact hbytes data hdata
  · rename_i hservice
    split
    · rename_i hcategory
      split
      · rename_i hhash
        simp [hservice, hhash, Succeeds]
      · rename_i hhash
        simp [hservice, hhash, hcategory, Succeeds]
    · rename_i hcategory
      simp [hservice, hcategory, Succeeds]

lemma isWindows_succeeds_iff : Succeeds (isWindows v) ↔ IsTextual v := by
  cases v with
  | bytes data => simp [isWindows, Succeeds, IsTextual]
  | _ => simp [isWindows, Succeeds.map_iff, lower_succeeds_iff, IsTextual]

lemma sourceNames_succeeds_iff {product service category : Value} :
    Succeeds (sourceNames product service category) ↔ Succeeds (sourceName "product" product) ∧
      Succeeds (sourceName "service" service) ∧ Succeeds (sourceName "category" category) := by
  unfold sourceNames
  cases sourceName "product" product <;> cases sourceName "service" service <;>
    cases sourceName "category" category <;> simp [Succeeds]

lemma IsText.isTextual (h : IsText v) : IsTextual v := by
  cases h with
  | text s => exact .inl ⟨s, rfl⟩
  | bytes _ => exact .inr ⟨_, rfl⟩

lemma IsTextual.isText (h : IsTextual v) (hname : NamesSource v) : IsText v := by
  rcases hname with rfl | hv | hv
  · simp [IsTextual] at h
  · exact hv
  · cases hv <;> simp [IsTextual] at h

lemma NamesSource.hashable (h : NamesSource v) : v.hashable := by
  rcases h with rfl | (_ | _) | (_ | _ | _) <;> rfl

lemma forall_getD {P : Value → Prop} {o : Option Value} {d : Value} (hd : P d)
    (h : ∀ v, o = some v → P v) : P (o.getD d) := by
  cases o with
  | none => exact hd
  | some v => exact h v rfl

lemma usableSource_iff : UsableSource source ↔
      Succeeds (isWindows ((Value.find? source (.text "product")).getD (.text ""))) ∧
      Succeeds (sourceKeys ((Value.find? source (.text "service")).getD (.text ""))
        ((Value.find? source (.text "category")).getD (.text ""))) ∧
      Succeeds (sourceNames ((Value.find? source (.text "product")).getD (.text "unknown"))
        ((Value.find? source (.text "service")).getD .null)
        ((Value.find? source (.text "category")).getD .null)) := by
  rw [isWindows_succeeds_iff, sourceKeys_succeeds_iff, sourceNames_succeeds_iff]
  simp only [sourceName_succeeds_iff]
  constructor
  · intro h
    refine ⟨?_, ⟨?_, fun _ _ => NamesSource.hashable ?_⟩, ?_, ?_, ?_⟩
    · exact forall_getD (.inl ⟨"", rfl⟩) fun v hv => (h.product v hv).isTextual
    · refine forall_getD (P := fun v => v.truthy → IsTextual v) (fun _ => .inl ⟨"", rfl⟩)
        fun v hv htruthy => ?_
      rcases h.service v hv with rfl | htext | ⟨-, hfalse⟩
      · simp [Value.truthy] at htruthy
      · exact htext.isTextual
      · simp [hfalse] at htruthy
    · exact forall_getD (.inr (.inl (.text ""))) h.category
    · exact forall_getD (P := NamesSource) (.inr (.inl (.text "unknown"))) fun v hv =>
        .inr (.inl (h.product v hv))
    · exact forall_getD (P := NamesSource) (.inl rfl) fun v hv =>
        (h.service v hv).imp_right (Or.imp_right And.left)
    · exact forall_getD (.inl rfl) h.category
  · rintro ⟨hproduct, ⟨hservice, -⟩, hnames⟩
    refine ⟨?_, ?_, ?_⟩
    · intro v hv
      rw [hv] at hproduct hnames
      exact hproduct.isText hnames.1
    · intro v hv
      rw [hv] at hservice hnames
      rcases hnames.2.1 with hnull | htext | hnumber
      · exact .inl hnull
      · exact .inr (.inl htext)
      · refine .inr (.inr ⟨hnumber, Bool.eq_false_iff.2 fun htruthy => ?_⟩)
        cases hnumber <;> simpa [IsTextual] using hservice htruthy
    · intro v hv
      rw [hv] at hnames
      exact hnames.2.2

lemma requiredLogs_succeeds_iff {isWindows : Bool} {service category : Value}
    {events : List Event} :
    Succeeds (requiredLogs (fun e => .ok e.logKey) isWindows service category events) ↔
      Succeeds (sourceKeys service category) := by
  refine (Succeeds.bind_iff fun start => iff_of_true ?_ trivial).trans (and_iff_left trivial)
  refine (Succeeds.bind_iff fun keyed => ?_).2 ⟨Succeeds.mapM_iff.2 fun e _ => ⟨_, rfl⟩, trivial⟩
  dsimp only
  split
  · exact iff_of_true ⟨_, rfl⟩ trivial
  · exact iff_of_true ⟨_, rfl⟩ trivial

lemma requirements_succeeds_iff
    (hsource : rule.getOr "logsource" (.map []) = .ok (.map source)) (given : List Value) :
    Succeeds (requirements rule (.ok given)) ↔ UsableSource source ∧ Succeeds (ruleCodes rule) := by
  rw [usableSource_iff, requirements, hsource]
  simp only [ok_bind, Value.getOr, Value.get]
  rw [Succeeds.bind_iff (Q := Succeeds (ruleCodes rule) ∧ _) fun isWindows =>
    Succeeds.bind_iff fun own => (Succeeds.bind_iff fun logs =>
      Succeeds.bind_pure_iff).trans (and_congr_left' requiredLogs_succeeds_iff)]
  tauto

end Conversion

end Huntbook
