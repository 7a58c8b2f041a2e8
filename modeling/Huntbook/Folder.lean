import Huntbook.Fault
import Huntbook.Text.Pieces

/-!
# Paths

A path is a list of names. It starts at the current folder, which may be given by its full path, or
at the top of the file system.
-/

namespace Huntbook.Folder

/-- Where a path starts: at the current folder, at the root of a tree, or at the very top. -/
inductive Origin
  | here | base | top
  deriving DecidableEq

structure Path where
  origin : Origin
  parts : Texts
  deriving DecidableEq

namespace Path

def base : Path := ⟨.base, []⟩

def partsOf (s : String) : Texts := (Text.split s '/').filter fun p => p != "" && p != "."

def ofText (s : String) : Path := ⟨if Text.startsWith s "/" then .top else .here, partsOf s⟩

def join (p : Path) (s : String) : Path :=
  if Text.startsWith s "/" then ofText s else { p with parts := p.parts ++ partsOf s }

def parent (p : Path) : Path := { p with parts := p.parts.dropLast }

def name (p : Path) : String := p.parts.getLast?.getD ""

def text (root : String) (p : Path) : String :=
  let names := "/".intercalate p.parts
  match p.origin with
  | .here => if p.parts.isEmpty then "." else names
  | .base => if p.parts.isEmpty then root else root ++ "/" ++ names
  | .top => "/" ++ names

/-- Whether a full path can be that of a folder: no name leads back or is too long. -/
abbrev IsFull (root : String) : Prop := ∀ n ∈ partsOf root, n ≠ ".." ∧ n.utf8ByteSize ≤ 255

def names (root : String) (p : Path) : Texts :=
  match p.origin with
  | .top => p.parts
  | _ => partsOf root ++ p.parts

end Path

/-! ## Files and folders -/

/-- What a folder holds, in the order in which it is listed. -/
inductive Item
  | file (data : ByteArray)
  | folder (items : List (String × Item))
  deriving Inhabited

abbrev Items := List (String × Item)

namespace Item

def isFolder : Item → Bool
  | .folder _ => true
  | .file _ => false

def put (name : String) (item : Item) : Items → Items
  | [] => [(name, item)]
  | (n, i) :: rest =>
    if n == name then (name, item) :: rest
    else if name < n then (name, item) :: (n, i) :: rest
    else (n, i) :: put name item rest

def find? (name : String) (items : Items) : Option Item :=
  (items.find? fun e => e.1 == name).map (·.2)

def at? : Texts → Item → Option Item
  | [], i => some i
  | n :: ns, .folder items => (find? n items).bind (at? ns)
  | _ :: _, .file _ => none

def set (item : Option Item) : Texts → Items → Items
  | [], items => items
  | [n], items =>
    match item with
    | some i => put n i items
    | none => items.filter fun e => e.1 != n
  | n :: ns, items =>
    items.map fun e =>
      if e.1 == n then match e.2 with
        | .folder inner => (n, .folder (set item ns inner))
        | i => (n, i)
      else e

mutual

def descendants (path : Texts) : Item → List (Texts × Item)
  | .file _ => []
  | .folder items => descendantsOf path items

def descendantsOf (path : Texts) : Items → List (Texts × Item)
  | [] => []
  | (n, i) :: rest => (path ++ [n], i) :: (descendants (path ++ [n]) i ++ descendantsOf path rest)

end

end Item

/-- The files below a folder, of which the full path is known. -/
structure Tree where
  root : String
  items : Items
  full : Path.IsFull root := by decide

/-- The end of a path, with the names on the way to it. -/
structure Spot where
  names : Texts
  item : Option Item

namespace Tree

def at? (t : Tree) (names : Texts) : Option Item := Item.at? names (.folder t.items)

def follow (t : Tree) : Texts → Texts → Except Trouble Spot
  | here, [] => .ok ⟨here, t.at? here⟩
  | here, n :: ns =>
    match t.at? here with
    | none => .error .missing
    | some (.file _) => .error .notFolder
    | some (.folder _) =>
      if n.utf8ByteSize > 255 then .error .nameTooLong
      else if n == ".." then t.follow here.dropLast ns
      else t.follow (here ++ [n]) ns

def pathLimit : Nat := 4096

variable (t : Tree) (p : Path)

def lookUp : Except Trouble Spot :=
  if p.parts.any Text.holdsHalf then .error .unencodable
  else if p.parts.any fun n => n.toList.contains (Char.ofNat 0) then .error .nullByte
  else if (p.text t.root).utf8ByteSize ≥ pathLimit then .error .nameTooLong
  else t.follow [] (p.names t.root)

def fault (trouble : Trouble) : Fault := .folder ⟨trouble, p.text t.root⟩

def item? : Try (Option Item) :=
  match t.lookUp p with
  | .ok spot => .ok spot.item
  | .error .nameTooLong => .error (t.fault p .nameTooLong)
  | .error _ => .ok none

def exists? : Try Bool := (t.item? p).map Option.isSome

def isFolder : Try Bool := (t.item? p).map fun i => i.any Item.isFolder

def isFile : Try Bool := (t.item? p).map fun i => i.any fun i => !i.isFolder

def readData : Try ByteArray :=
  match t.lookUp p with
  | .error trouble => .error (t.fault p trouble)
  | .ok ⟨_, none⟩ => .error (t.fault p .missing)
  | .ok ⟨_, some (.folder _)⟩ => .error (t.fault p .isFolder)
  | .ok ⟨_, some (.file data)⟩ => .ok data

def unixLines : Chars → Chars
  | '\r' :: '\n' :: cs => '\n' :: unixLines cs
  | '\r' :: cs => '\n' :: unixLines cs
  | c :: cs => c :: unixLines cs
  | [] => []

def readText : Try String := do
  let data ← t.readData p
  match String.fromUTF8? data with
  | some s => return if s.toList.contains '\r' then String.ofList (unixLines s.toList) else s
  | none => throw (.undecodable (Text.Bytes.flaw? data.toList))

def listing : Try Texts :=
  match t.lookUp p with
  | .error trouble => .error (t.fault p trouble)
  | .ok ⟨_, none⟩ => .error (t.fault p .missing)
  | .ok ⟨_, some (.file _)⟩ => .error (t.fault p .notFolder)
  | .ok ⟨_, some (.folder items)⟩ => .ok (items.map (·.1))

def below : List (Texts × Item) :=
  match t.lookUp p with
  | .ok ⟨_, some i⟩ => i.descendants []
  | _ => []

def writeText (s : String) : Try Tree :=
  match t.lookUp p with
  | .error trouble => .error (t.fault p trouble)
  | .ok ⟨_, some (.folder _)⟩ => .error (t.fault p .isFolder)
  | .ok ⟨names, _⟩ => .ok { t with items := Item.set (some (.file s.toUTF8)) names t.items }

def addFolder : Except Trouble Tree :=
  match t.lookUp p with
  | .error trouble => .error trouble
  | .ok ⟨_, some _⟩ => .error .present
  | .ok ⟨names, none⟩ => .ok { t with items := Item.set (some (.folder [])) names t.items }

def ensureOne : Except Trouble Tree :=
  match t.addFolder p with
  | .error .missing => .error .missing
  | .error trouble =>
    match t.lookUp p with
    | .ok ⟨_, some (.folder _)⟩ => .ok t
    | _ => .error trouble
  | .ok t => .ok t

def ensureSubfolder : Try Tree := (t.ensureOne p).mapError (t.fault p)

def needsParent : Bool :=
  (t.ensureOne p matches .error .missing) && !p.parts.isEmpty

def remove : Try Tree :=
  match t.lookUp p with
  | .error trouble => .error (t.fault p trouble)
  | .ok ⟨_, none⟩ => .error (t.fault p .missing)
  | .ok ⟨names, some _⟩ => .ok { t with items := Item.set none names t.items }

end Tree

abbrev Work := ExceptT Fault (StateM Tree)

namespace Work

def ask {α : Type} (f : Tree → Try α) : Work α := do
  match f (← get) with
  | .ok a => return a
  | .error e => throw e

def change (f : Tree → Try Tree) : Work Unit := do
  match f (← get) with
  | .ok t => set t
  | .error e => throw e

def ensureFrom : Nat → Path → Work Unit
  | 0, p => change (·.ensureSubfolder p)
  | n + 1, p => do
    if (← get).needsParent p then ensureFrom n p.parent
    change (·.ensureSubfolder p)

def ensureFolder (p : Path) : Work Unit := ensureFrom (p.parts.length + 1) p

def fill (p : Path) (s : String) : Work Unit := do
  if Text.holdsHalf s then throw (.unencodable s)
  change (·.writeText p s)

def write (p : Path) (s : String) : Work Unit := do
  change (·.writeText p "")
  fill p s

end Work

end Huntbook.Folder
