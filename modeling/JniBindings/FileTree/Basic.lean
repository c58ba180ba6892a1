import JniBindings.Path
/-!
# File trees

A `FileTree` holds folders and files by their locations. `FileTree.find` follows a path to a node
that is there; `createFolders` and `write` change a tree. A folder has to be there before anything
can be written into it.
-/

namespace JniBindings

/-- The names that lead from the root folder to a node. -/
abbrev Location := List String

/-- What is kept at a location. -/
inductive Node
  | folder
  | file (content : ByteArray)

instance : DecidableEq Node
  | .folder, .folder => isTrue rfl
  | .folder, .file _ => isFalse nofun
  | .file _, .folder => isFalse nofun
  | .file content, .file other => match ByteArray.instDecidableEq content other with
    | isTrue h => isTrue (congrArg Node.file h)
    | isFalse h => isFalse fun same => h (Node.file.inj same)

/-- Why a path leads to no node: something is not there, or cannot be on the way. -/
inductive Absence
  | missing
  | unusable
deriving DecidableEq, Repr

/-- Folders and files, and the folder where paths begin that are not absolute. -/
structure FileTree where
  home : Location
  nodes : List (Location × Node)
deriving DecidableEq

namespace FileTree

/-! ### Nodes -/

/-- The node at a location. The root folder is always there. -/
def node? (t : FileTree) (loc : Location) : Option Node :=
  if loc = [] then some .folder else t.nodes.lookup loc

/-- A tree with a node put at a location. -/
def insert (t : FileTree) (loc : Location) (node : Node) : FileTree :=
  { t with nodes := (loc, node) :: t.nodes.filter fun entry => entry.1 ≠ loc }

@[simp]
theorem node?_nil (t : FileTree) : t.node? [] = some .folder := rfl

@[simp]
theorem home_insert (t : FileTree) (loc : Location) (node : Node) :
    (t.insert loc node).home = t.home := rfl

theorem lookup_filter_ne {loc other : Location} (h : other ≠ loc)
    (nodes : List (Location × Node)) :
    (nodes.filter fun entry => entry.1 ≠ loc).lookup other = nodes.lookup other := by
  induction nodes with
  | nil => rfl
  | cons entry rest ih =>
    obtain ⟨here, node⟩ := entry
    by_cases hl : here = loc
    · have hne : (other == here) = false := by simpa [hl] using h
      rw [List.filter_cons_of_neg (by simp [hl]), ih, List.lookup_cons, hne]
    · rw [List.filter_cons_of_pos (by simp [hl]), List.lookup_cons, List.lookup_cons, ih]

/-- What is put somewhere is found there. -/
theorem node?_insert_self (t : FileTree) {loc : Location} (h : loc ≠ []) (node : Node) :
    (t.insert loc node).node? loc = some node := by
  simp [node?, insert, h]

/-- Everywhere else a tree stays as it is. -/
theorem node?_insert_of_ne (t : FileTree) {loc other : Location} (h : other ≠ loc) (node : Node) :
    (t.insert loc node).node? other = t.node? other := by
  have hne : (other == loc) = false := by simpa using h
  simp only [node?, insert, List.lookup_cons, hne, lookup_filter_ne h]

/-! ### Following a path -/

/-- The longest name of a node, in bytes. -/
def nameLimit : Nat := 255

/-- The length from which a path is too long, in bytes. -/
def pathLimit : Nat := 4096

/-- The path can be followed at all. -/
def isUsable (p : Path) : Bool := p.text.utf8ByteSize < pathLimit && !p.text.toList.contains '\x00'

/-- The node where a step leads from a location. -/
def follow (t : FileTree) (loc : Location) (step : String) : Except Absence Location :=
  if t.node? loc ≠ some .folder then .error .unusable
  else if step = ".." then .ok loc.dropLast
  else if nameLimit < step.utf8ByteSize then .error .unusable
  else if (t.node? (loc ++ [step])).isSome then .ok (loc ++ [step])
  else .error .missing

/-- Where a path begins. -/
def start (t : FileTree) (p : Path) : Location := if p.isAbsolute then [] else t.home

/-- The node that a path names. -/
def find (t : FileTree) (p : Path) : Except Absence Location :=
  if !isUsable p then .error .unusable
  else if p.text.isEmpty then .error .missing
  else do
    let loc ← p.steps.foldlM t.follow (t.start p)
    if p.namesFolder && t.node? loc ≠ some .folder then .error .unusable
    else pure loc

/-- The content of the file that a path names. -/
def read (t : FileTree) (p : Path) : Except Absence ByteArray := do
  let loc ← t.find p
  match t.node? loc with
  | some (.file content) => pure content
  | _ => .error .unusable

/-! ### Writing -/

/-- Goes into a folder, which is created if nothing is in its place. -/
def enter (t : FileTree) (loc : Location) (step : String) : FileTree × Option Location :=
  match t.follow loc step with
  | .ok next => (t, if t.node? next = some .folder then some next else none)
  | .error .missing => (t.insert (loc ++ [step]) .folder, some (loc ++ [step]))
  | .error .unusable => (t, none)

/-- Goes into one folder after the other. -/
def enterAll (t : FileTree) (loc : Location) : List String → FileTree × Bool
  | [] => (t, true)
  | step :: rest => match t.enter loc step with
    | (t, some next) => t.enterAll next rest
    | (t, none) => (t, false)

/-- Creates what is missing of the folders on a path, and says whether they are all there then. -/
def createFolders (t : FileTree) (p : Path) : FileTree × Bool :=
  if isUsable p then t.enterAll (t.start p) p.steps else (t, false)

/-- Where a file with a given path is written, if that is possible. -/
def target? (t : FileTree) (p : Path) : Option Location :=
  match p.steps.getLast? with
  | none => none
  | some name =>
    if !isUsable p || p.namesFolder then none
    else match p.steps.dropLast.foldlM t.follow (t.start p) with
      | .error _ => none
      | .ok folder => match t.follow folder name with
        | .error .missing => some (folder ++ [name])
        | .error .unusable => none
        | .ok loc => if t.node? loc = some .folder then none else some loc

/-- Writes a file, and says whether that was possible. -/
def write (t : FileTree) (p : Path) (content : ByteArray) : FileTree × Bool :=
  match t.target? p with
  | some loc => (t.insert loc (.file content), true)
  | none => (t, false)

/-! ### Building and listing -/

/-- A tree with nothing in its home folder. -/
def empty (home : Location) : FileTree :=
  ({ home, nodes := [] : FileTree }.enterAll [] home).1

/-- A tree with a node put where a path says, if that is possible, and the folders on the way. -/
def put (t : FileTree) (p : Path) : Node → FileTree
  | .folder => (t.createFolders p).1
  | .file content =>
    let folder := p.steps.dropLast
    let t := (t.enterAll (t.start p) folder).1
    (t.write p content).1

/-- The steps from the home folder to what is in it, with slashes between them. -/
def nameFromHome? (t : FileTree) (loc : Location) : Option String :=
  if t.home.isPrefixOf loc && loc ≠ t.home then
    some (Text.joinWith "/" (loc.drop t.home.length))
  else none

/-- What is in the home folder, in the order of its paths. -/
def listing (t : FileTree) : List (String × Node) :=
  let named := t.nodes.filterMap fun (loc, node) => (t.nameFromHome? loc).map (·, node)
  named.mergeSort fun a b => a.1 ≤ b.1

end FileTree

end JniBindings
