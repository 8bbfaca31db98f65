import LeadingComment.Run

namespace LeadingComment

inductive Node where
  | file (content : Bytes)
  | directory
deriving DecidableEq, Repr

structure FileTree where
  /-- The path under which the directory is known. -/
  root : Path
  /-- The nodes by the names that lead to them; of two with the same names the later one counts. -/
  entries : List (List Bytes × Node) := []
deriving DecidableEq, Repr

/-- Where a walk stands: at the names below the directory, or outside. -/
inductive Location where
  | inside (names : List Bytes)
  | outside
deriving DecidableEq, Repr

namespace Location

def parent : Location → Location
  | inside [] => outside
  | inside names => inside names.dropLast
  | outside => outside

end Location

namespace FileTree

def longestName : Nat := 255

/-- Together with the byte that ends it. -/
def longestPath : Nat := 4096

/-- The directories above a node are there without being listed. -/
def node? (tree : FileTree) (names : List Bytes) : Option Node :=
  match tree.entries.reverse.find? fun entry => entry.1 == names with
  | some (_, node) => some node
  | none =>
    if names.isEmpty || tree.entries.any fun entry => names.isPrefixOf entry.1 then some .directory
    else none

def nodeAt? (tree : FileTree) : Location → Option Node
  | .inside names => tree.node? names
  | .outside => some .directory

/-- One segment of a path. Even a segment that leads nowhere asks for a directory to stand in. -/
def step (tree : FileTree) (location : Location) (segment : Bytes) : Except Fault Location :=
  match tree.nodeAt? location with
  | none => .error .missing
  | some (.file _) => .error .notDirectory
  | some .directory =>
    if Path.isIdle segment then .ok location
    else if segment = [Path.dot, Path.dot] then .ok location.parent
    else if longestName < segment.length then .error .nameTooLong
    else
      match location with
      | .outside => .error .missing
      | .inside names =>
        match tree.node? (names ++ [segment]) with
        | some _ => .ok (.inside (names ++ [segment]))
        | none => .error .missing

def walk (tree : FileTree) (start : Location) (segments : List Bytes) : Except Fault Location :=
  segments.foldlM tree.step start

def enter (tree : FileTree) (bytes : Bytes) : Location × Bytes :=
  if bytes = tree.root.bytes then (.inside [], [])
  else if (tree.root.bytes ++ [Path.slash]).isPrefixOf bytes then
    (.inside [], bytes.drop (tree.root.bytes.length + 1))
  else (.outside, bytes)

/-- The location of a path; one that is not absolute starts at `start`. -/
def locate (tree : FileTree) (start : Location) (path : Path) : Except Fault Location :=
  if path.bytes.contains 0 then .error .nulInName
  else if path.bytes.isEmpty then .error .missing
  else if longestPath ≤ path.bytes.length then .error .nameTooLong
  else
    let (start, rest) := if path.isAbsolute then tree.enter path.bytes else (start, path.bytes)
    tree.walk start (Path.segmentsOf rest)

/-- A directory can be opened; only reading from it fails. -/
def openAt (tree : FileTree) (start : Location) (path : Path) : Except Fault Source := do
  let location ← tree.locate start path
  match tree.nodeAt? location with
  | some (.file content) => .ok { data := content }
  | some .directory => .ok { data := [], traps := [{ offset := 0, fault := .directory }] }
  | none => .error .missing

def files (tree : FileTree) (start : Location) : Files := { openPath := tree.openAt start }

/-- The shortest path of a location. All that is outside goes by the path of the topmost
directory, from which no relative path leads anywhere either. -/
def pathOf (tree : FileTree) : Location → Path
  | .inside names => ⟨tree.root.bytes ++ names.flatMap (Path.slash :: ·)⟩
  | .outside => ⟨[Path.slash]⟩

/-- Adds a node under a name that is split at its slashes. The directories on the way are made, and
stay even if the way leaves them again. -/
def add (tree : FileTree) (name : Bytes) (node : Node) : FileTree :=
  let segments := (Path.segmentsOf name).filter fun segment => !Path.isIdle segment
  let (names, passed) := segments.foldl (fun (names, passed) segment =>
    if segment = [Path.dot, Path.dot] then (names.dropLast, passed ++ [(names, Node.directory)])
    else (names ++ [segment], passed)) (([] : List Bytes), [])
  { tree with entries := tree.entries ++ passed ++ [(names, node)] }

end FileTree
end LeadingComment
