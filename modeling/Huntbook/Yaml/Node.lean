import Huntbook.Yaml.Scalar

/-!
# Nodes

A YAML document as a tree of tagged nodes. A node that is referred to from several places occurs
at all of them, with the same label; where it is referred to from inside itself there is a link.
-/

namespace Huntbook.Yaml

/-- A node of a document. A link stands for the node around it that has the label. -/
inductive Node
  | scalar (label : Option Nat) (tag : Tag) (text : String)
  | seq (label : Option Nat) (tag : Tag) (items : List Node)
  | map (label : Option Nat) (tag : Tag) (entries : List (Node × Node))
  | link (label : Nat)

instance : Inhabited Node := ⟨.scalar none .null ""⟩

/-- The keys and values of a mapping. -/
abbrev Pairs := List (Node × Node)

namespace Node

def tag : Node → Tag
  | .scalar _ t _ => t
  | .seq _ t _ => t
  | .map _ t _ => t
  | .link _ => .seq

def label : Node → Option Nat
  | .scalar l _ _ => l
  | .seq l _ _ => l
  | .map l _ _ => l
  | .link l => some l

def relabel (l : Option Nat) : Node → Node
  | .scalar _ t s => .scalar l t s
  | .seq _ t xs => .seq l t xs
  | .map _ t es => .map l t es
  | .link l' => .link l'

mutual

def depth : Node → Nat
  | .scalar _ _ _ => 0
  | .seq _ _ items => depthOfAll items + 1
  | .map _ _ entries => depthOfEntries entries + 1
  | .link _ => 0

def depthOfAll : List Node → Nat
  | [] => 0
  | n :: rest => max (depth n) (depthOfAll rest)

def depthOfEntries : Pairs → Nat
  | [] => 0
  | (k, v) :: rest => max (max (depth k) (depth v)) (depthOfEntries rest)

end

mutual

/-- Whether a walk through the lists and mappings of a node gets to a link. Pairs and sets are not
    walked through. -/
def endless : Node → Bool
  | .scalar _ _ _ => false
  | .seq _ tag items => tag == .seq && endlessIn items
  | .map _ tag entries => tag == .map && endlessWithin entries
  | .link _ => true

def endlessIn : List Node → Bool
  | [] => false
  | n :: ns => endless n || endlessIn ns

def endlessWithin : Pairs → Bool
  | [] => false
  | (k, v) :: rest =>
    (match k.tag, v with
      | .merge, .link _ => false
      | _, v => endless v) || endlessWithin rest

end

mutual

/-- Whether a whole number in the node has too many digits to be written. -/
def holdsLong : Node → Bool
  | .scalar _ tag text => tag == .int && Decimal.isLong 10 (text.toList.filter (·.isDigit)).length
  | .seq _ _ items => holdsLongIn items
  | .map _ _ entries => holdsLongWithin entries
  | .link _ => false

def holdsLongIn : List Node → Bool
  | [] => false
  | n :: ns => holdsLong n || holdsLongIn ns

def holdsLongWithin : Pairs → Bool
  | [] => false
  | (k, v) :: rest => holdsLong k || holdsLong v || holdsLongWithin rest

end

def sextetChar (n : Nat) : Char :=
  if n < 26 then Char.ofNat ('A'.toNat + n)
  else if n < 52 then Char.ofNat ('a'.toNat + (n - 26))
  else if n < 62 then Char.ofNat ('0'.toNat + (n - 52))
  else if n == 62 then '+' else '/'

def base64Chars : List UInt8 → Chars
  | a :: b :: c :: rest =>
    let n := a.toNat * 65536 + b.toNat * 256 + c.toNat
    sextetChar (n / 262144) :: sextetChar (n / 4096 % 64) :: sextetChar (n / 64 % 64)
      :: sextetChar (n % 64) :: base64Chars rest
  | [a, b] =>
    let n := a.toNat * 256 + b.toNat
    [sextetChar (n / 1024), sextetChar (n / 16 % 64), sextetChar (n * 4 % 64), '=']
  | [a] => [sextetChar (a.toNat / 4), sextetChar (a.toNat % 4 * 16), '=', '=']
  | [] => []

def inLines : Nat → Chars → Chars
  | 0, _ => []
  | n + 1, cs => if cs.isEmpty then [] else cs.take 76 ++ '\n' :: inLines n (cs.drop 76)

def floatText (x : Float) : String :=
  if x.isNaN then ".nan"
  else if x.isInf then if x > 0 then ".inf" else "-.inf"
  else
    let s := Decimal.text x
    if !s.toList.contains '.' && s.toList.contains 'e' then Text.replace s "e" ".0e" else s

mutual

def ofValue : Value → Node
  | .null => .scalar none .null "null"
  | .bool b => .scalar none .bool (if b then "true" else "false")
  | .int n => .scalar none .int (toString n)
  | .float x => .scalar none .float (floatText x)
  | .text s => .scalar none .text s
  | .bytes data =>
    let cs := base64Chars data
    .scalar none .binary (String.ofList (inLines cs.length cs))
  | .date d => .scalar none .timestamp d.text
  | .moment t => .scalar none .timestamp (t.textWith " ")
  | .list items => .seq none .seq (ofValues items)
  | .tuple items => .seq none .tuple (ofValues items)
  | .set items => .map none .set (ofKeys items)
  | .map entries => .map none .map (ofEntries entries)

def ofValues : List Value → List Node
  | [] => []
  | v :: vs => ofValue v :: ofValues vs

def ofKeys : List Value → Pairs
  | [] => []
  | v :: vs => (ofValue v, .scalar none .null "null") :: ofKeys vs

def ofEntries : Entries → Pairs
  | [] => []
  | (k, v) :: rest => (ofValue k, ofValue v) :: ofEntries rest

end

end Node

/-! ## The meaning of nodes

What a node stands for. The values of leaves are made where they stand, but a collection is filled
only after everything beside it has been made: first the outermost collection, then those in it,
then those in these. -/

def Tag.isCollection : Tag → Bool
  | .seq | .map | .set | .omap | .pairs => true
  | _ => false

/-! ### Merge keys -/

def plainKey : Node → Node
  | .scalar label .default s => .scalar label .text s
  | k => k

mutual

def split : Pairs → Try (Pairs × Pairs)
  | [] => .ok ([], [])
  | (k, v) :: rest => do
    if k.tag == .merge then
      let brought ← broughtBy v
      let (more, own) ← split rest
      return (brought ++ more, own)
    else
      let (brought, own) ← split rest
      return (brought, (plainKey k, v) :: own)

def broughtBy : Node → Try Pairs
  | .map _ _ entries => do
    let (brought, own) ← split entries
    return brought ++ own
  | .seq _ _ items => broughtByAll items
  | .link _ => .ok []
  | .scalar _ _ _ => .error (valueError "expected a mapping or list of mappings for merging")

def broughtByAll : List Node → Try Pairs
  | [] => .ok []
  | .map _ _ entries :: rest => do
    let (brought, own) ← split entries
    return (← broughtByAll rest) ++ (brought ++ own)
  | _ :: _ => .error (valueError "expected a mapping for merging")

end

def merged (entries : Pairs) : Try Pairs := do
  let (brought, own) ← split entries
  return brought ++ own

/-! ### Leaves -/

def unknownTag : Fault := valueError "could not determine a constructor for the tag"

mutual

def scalarText : Node → Try String
  | .scalar _ _ s => .ok s
  | .seq _ _ _ => .error (valueError "expected a scalar node, but found sequence")
  | .map _ _ entries => entryText entries
  | .link _ => .error .tooDeep

def entryText : Pairs → Try String
  | [] => .error (valueError "expected a scalar node, but found mapping")
  | (k, v) :: rest => if k.tag == .default then scalarText v else entryText rest

end

def Node.isScalar : Node → Bool
  | .scalar _ _ _ => true
  | _ => false

def Node.leafValue (n : Node) : Try Value :=
  match n.tag with
  | .merge | .default | .tuple | .other _ => .error unknownTag
  | tag => do
    let s ← scalarText n
    -- A timestamp is looked for in the node itself.
    if tag == .timestamp && !n.isScalar then throw (.mismatch (.notSearchable .list))
    scalarValue tag s

/-! ### The order of making -/

def Node.make : Node → Try (List Node)
  | .link _ => .ok []
  | n => if n.tag.isCollection then .ok [n] else n.leafValue.map fun _ => []

def makeEntry (e : Node × Node) : Try (List Node) := do
  let _ ← e.1.make
  if e.1.tag.isCollection then throw (valueError "found unhashable key")
  e.2.make

def makePair : Node → Try (List Node)
  | .map _ _ [(k, v)] => do
    let first ← k.make
    return first ++ (← v.make)
  | _ => .error (valueError "expected a mapping of length 1")

def Node.fill : Node → Try (List Node)
  | .seq _ .seq items => (items.mapM make).map List.flatten
  | .seq _ .omap items => (items.mapM makePair).map List.flatten
  | .seq _ .pairs items => (items.mapM makePair).map List.flatten
  | .map _ .map entries => do return (← (← merged entries).mapM makeEntry).flatten
  | .map _ .set entries => do return (← (← merged entries).mapM makeEntry).flatten
  | n => .error (valueError (match n.tag with
      | .map | .set => "expected a mapping node"
      | _ => "expected a sequence node"))

def fillAll : Nat → List Node → Try Unit
  | 0, _ => .ok ()
  | n + 1, pending => do
    if pending.isEmpty then return ()
    fillAll n (← pending.mapM Node.fill).flatten

def Node.made (n : Node) : Try Unit := do
  fillAll (n.depth + 1) (← n.make)

/-! ### Values -/

def sameKey (a b : Value) : Bool :=
  a.same b || match a, b with
    | .float x, .float y => x.isNaN && y.isNaN
    | _, _ => false

def putKey {α : Type} (key : Value) (item : α) : List (Value × α) → List (Value × α)
  | [] => [(key, item)]
  | (k, a) :: rest => if sameKey key k then (k, item) :: rest else (k, a) :: putKey key item rest

def pairParts : Node → Try (Node × Node)
  | .map _ _ [e] => .ok e
  | _ => .error (valueError "expected a mapping of length 1")

/-- The value of a node with at most this many collections inside each other. A link has no value
    of its own: the values around it are still to come. -/
def valueFrom : Nat → Node → Try Value
  | _, .link _ => .ok .null
  | 0, n => n.leafValue
  | r + 1, n =>
    let pair (item : Node) : Try Value := do
      let (k, v) ← pairParts item
      return .tuple [← valueFrom r k, ← valueFrom r v]
    let entries (es : Pairs) : Try Entries := do
      (← merged es).foldlM (fun acc (k, v) => do
        return putKey (← valueFrom r k) (← valueFrom r v) acc) []
    match n with
    | .seq _ .seq items => (items.mapM (valueFrom r)).map .list
    | .seq _ .omap items => (items.mapM pair).map .list
    | .seq _ .pairs items => (items.mapM pair).map .list
    | .map _ .map es => (entries es).map .map
    | .map _ .set es => (entries es).map fun es => .set (es.map (·.1))
    | n => n.leafValue

def Node.value (n : Node) : Try Value := do
  n.made
  valueFrom n.depth n

/-! ### Nodes written again -/

def isShareable : Value → Bool
  | .date _ => true
  | .moment _ => true
  | _ => false

def Node.redrawnLeaf (n : Node) : Try Node := do
  let v ← n.leafValue
  return (Node.ofValue v).relabel (if isShareable v then n.label else none)

def redrawnFrom : Nat → Node → Try Node
  | _, .link l => .ok (.link l)
  | 0, n => n.redrawnLeaf
  | r + 1, n =>
    let pair (item : Node) : Try Node := do
      let (k, v) ← pairParts item
      return .seq none .tuple [← redrawnFrom r k, ← redrawnFrom r v]
    let entries (es : Pairs) : Try Pairs := do
      let drawn ← (← merged es).foldlM (fun acc (k, v) => do
        let key ← valueFrom r k
        -- A key that is there already stays; only its value is replaced.
        let first := ((acc.find? fun e => sameKey key e.1).map (·.2.1)).getD (← redrawnFrom r k)
        return putKey key (first, ← redrawnFrom r v) acc) ([] : List (Value × Node × Node))
      return drawn.map (·.2)
    match n with
    | .seq l .seq items => (items.mapM (redrawnFrom r)).map (.seq l .seq)
    | .seq l .omap items => (items.mapM pair).map (.seq l .seq)
    | .seq l .pairs items => (items.mapM pair).map (.seq l .seq)
    | .map l .map es => (entries es).map (.map l .map)
    | .map l .set es =>
      (entries es).map fun es => .map l .set (es.map fun e => (e.1, .scalar none .null "null"))
    | n => n.redrawnLeaf

/-- The node that the value of a node is written as, with the labels of shared parts kept. -/
def Node.redrawn (n : Node) : Try Node := do
  n.made
  redrawnFrom n.depth n

end Huntbook.Yaml
