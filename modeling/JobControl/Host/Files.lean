import JobControl.Sys.Errno
import JobControl.Path

/-!
# The file tree

Files are numbered nodes: directories (named entries pointing at nodes), regular files (bytes),
symbolic links (a path) and the null device. Node 0 is the root.

A path is looked up component by component from the root or from a working directory given as
an absolute path without links. `.` stays, `..` goes up (and stays at the root), a link is
replaced by its target (from the root if the target is absolute) unless it is the last component
and links are not to be followed. More than 40 links, or a path that keeps growing, fails with
`loop`; a component over 255 bytes with `nameTooLong`; a file used as a directory with `notdir`;
a missing entry with `noent`; the empty path with `noent`. A path ending in `/` must name a
directory.

* `lookup`: the node a path names, with its path without links.
* `locate`: the same, or the directory where a missing last component would be created.
* `create`, `mkdir`, `unlink`, `setMode`, `writeAt`, `truncate`: changes.
-/

namespace JobControl.Host

open Sys

/-- What a node holds. -/
inductive Node
  | dir (entries : List (String × Nat))
  | file (data : ByteArray)
  | link (target : String)
  | null

/-- A node with its permission bits, whether it belongs to the user that runs the programs
(the others belong to the superuser), and when its content last changed. -/
structure Inode where
  node : Node
  mode : Nat
  owned : Bool
  stamp : Nat

/-- Whether the user may read (`4`), write (`2`) or search and execute (`1`) a node: by the
owner's bits of a node of the user, and by the bits for others of any other node. -/
def Inode.allows (i : Inode) (bit : Nat) : Bool :=
  let bits := if i.owned then i.mode / 64 % 8 else i.mode % 8
  bits / bit % 2 = 1

/-- The file tree, with the number of changes made to it so far: a change stamps the node it
changes with that number. -/
structure Files where
  inodes : Array Inode
  edits : Nat

namespace Files

/-- The node with a number. -/
def get? (fs : Files) (n : Nat) : Option Inode :=
  fs.inodes[n]?

/-- Changes the node with a number. -/
def modify (fs : Files) (n : Nat) (f : Inode → Inode) : Files :=
  { fs with inodes := fs.inodes.modify n f }

/-- Changes the content of the node with a number, stamping it. -/
def edit (fs : Files) (n : Nat) (f : Inode → Inode) : Files :=
  { inodes := fs.inodes.modify n fun i => { f i with stamp := fs.edits + 1 }, edits := fs.edits + 1 }

/-- Whether a node is a directory. -/
def isDir (fs : Files) (n : Nat) : Bool :=
  match fs.get? n with
  | some ⟨.dir _, _, _, _⟩ => true
  | _ => false

/-- The entries of a directory node. -/
def entries (fs : Files) (n : Nat) : List (String × Nat) :=
  match fs.get? n with
  | some ⟨.dir es, _, _, _⟩ => es
  | _ => []

/-- The components of a path, in order, with whether it ends in `/`. -/
def components (p : String) : List String × Bool :=
  ((p.splitOn "/").filter (!·.isEmpty), p.toList.getLast? = some '/')

/-- The path of a directory stack (innermost first). -/
def stackPath (stack : List (String × Nat)) : String :=
  match stack with
  | [] => "/"
  | _ => stack.reverse.foldl (fun acc (name, _) => acc ++ "/" ++ name) ""

/-- The node a directory stack ends at. -/
def stackNode (stack : List (String × Nat)) : Nat :=
  match stack with
  | [] => 0
  | (_, n) :: _ => n

/-- The stack of a working directory, given as an absolute path without links. -/
def dirStack (fs : Files) (cwd : String) : List (String × Nat) :=
  (components cwd).1.foldl (fun stack name =>
    match (fs.entries (stackNode stack)).lookup name with
    | some n => (name, n) :: stack
    | none => stack) []

/-- The longest name a component may have, in bytes. -/
def nameMax : Nat := 255

/-- Walks components from a directory stack. `follow` says whether a link in last place is
followed; `links` counts the links still allowed; `fuel` bounds the steps. -/
def walk (fs : Files) (follow : Bool) :
    Nat → Nat → List (String × Nat) → List String → Except Errno (List (String × Nat))
  | 0, _, _, _ => .error .loop
  | _, _, stack, [] => .ok stack
  | fuel + 1, links, stack, c :: rest =>
    if c = "." || c = ".." then
      if fs.isDir (stackNode stack) then
        walk fs follow fuel links (if c = "." then stack else stack.tail) rest
      else .error .notdir
    else if c.utf8ByteSize > nameMax then .error .nameTooLong
    else
      let here := stackNode stack
      match ((fs.get? here).map fun i => (i.node, i.allows 1) : Option (Node × Bool)) with
      | some (.dir _, false) => .error .acces
      | some (.dir es, true) =>
        match es.lookup c with
        | none => .error .noent
        | some n =>
          match fs.get? n with
          | some ⟨.link target, _, _, _⟩ =>
            if rest.isEmpty && !follow then walk fs follow fuel links ((c, n) :: stack) rest
            else if links = 0 then .error .loop
            else
              let (tcs, _) := components target
              let base := if Path.isAbsolute target then [] else stack
              walk fs follow fuel (links - 1) base (tcs ++ rest)
          | _ => walk fs follow fuel links ((c, n) :: stack) rest
      | _ => .error .notdir

/-- The most links a lookup follows. -/
def linkMax : Nat := 40

/-- The stack a path leads to from the working directory. -/
def resolve (fs : Files) (cwd path : String) (follow : Bool) :
    Except Errno (List (String × Nat)) :=
  if path.isEmpty then .error .noent
  else if path.utf8ByteSize > 4095 then .error .nameTooLong
  else
    let (cs, slash) := components path
    let start := if Path.isAbsolute path then [] else fs.dirStack cwd
    match walk fs (follow || slash) 100000 linkMax start cs with
    | .error e => .error e
    | .ok stack =>
      if slash && !fs.isDir (stackNode stack) then .error .notdir else .ok stack

/-- The node a path names and its path without links. -/
def lookup (fs : Files) (cwd path : String) (follow : Bool) :
    Except Errno (Nat × String) :=
  (fs.resolve cwd path follow).map fun stack => (stackNode stack, stackPath stack)

/-- Where a path leads: an existing node, or a directory and a name for a new entry. -/
inductive Place
  | existing (node : Nat) (path : String)
  | missing (dir : Nat) (dirPath : String) (name : String)

/-- The place of a path whose last component may be missing. -/
def locate (fs : Files) (cwd path : String) : Except Errno Place :=
  match fs.lookup cwd path true with
  | .ok (n, p) => .ok (.existing n p)
  | .error .noent =>
    let (cs, slash) := components path
    match cs.getLast? with
    | none => .error .noent
    | some name =>
      if name = "." || name = ".." || slash then .error .noent
      else
        let parent := if Path.isAbsolute path then "/" ++ "/".intercalate cs.dropLast
          else "./" ++ "/".intercalate cs.dropLast
        match fs.lookup cwd parent true with
        | .ok (d, dp) =>
          if fs.isDir d then
            match (fs.entries d).lookup name with
            | some _ => .error .noent
            | none => .ok (.missing d dp name)
          else .error .notdir
        | .error e => .error e
  | .error e => .error e

/-! ## Changes -/

/-- Adds a node, returning its number. -/
def add (fs : Files) (i : Inode) : Nat × Files :=
  (fs.inodes.size, { inodes := fs.inodes.push { i with stamp := fs.edits + 1 }, edits := fs.edits + 1 })

/-- Adds an entry to a directory. -/
def link (fs : Files) (dir : Nat) (name : String) (n : Nat) : Files :=
  fs.edit dir fun i => match i.node with
    | .dir es => { i with node := .dir (es ++ [(name, n)]) }
    | _ => i

/-- Creates a node under a name in a directory. -/
def create (fs : Files) (dir : Nat) (name : String) (i : Inode) : Nat × Files :=
  let (n, fs) := fs.add i
  (n, fs.link dir name n)

/-- Removes an entry from a directory. -/
def unlinkEntry (fs : Files) (dir : Nat) (name : String) : Files :=
  fs.edit dir fun i => match i.node with
    | .dir es => { i with node := .dir (es.filter (·.1 ≠ name)) }
    | _ => i

/-- Sets the permission bits of a node. -/
def setMode (fs : Files) (n : Nat) (mode : Nat) : Files :=
  fs.modify n fun i => { i with mode := mode }

/-- The bytes of a regular file. -/
def data (fs : Files) (n : Nat) : ByteArray :=
  match fs.get? n with
  | some ⟨.file d, _, _, _⟩ => d
  | _ => ByteArray.empty

/-- Empties a regular file. -/
def truncate (fs : Files) (n : Nat) : Files :=
  fs.edit n fun i => match i.node with
    | .file _ => { i with node := .file ByteArray.empty }
    | _ => i

/-- Writes bytes into a regular file at a position, growing it with zero bytes if needed. -/
def writeAt (fs : Files) (n : Nat) (pos : Nat) (bytes : ByteArray) : Files :=
  fs.edit n fun i => match i.node with
    | .file d =>
      let d := if d.size < pos then d ++ ByteArray.mk (Array.replicate (pos - d.size) 0) else d
      let before := d.extract 0 pos
      let after := d.extract (pos + bytes.size) d.size
      { i with node := .file (before ++ bytes ++ after) }
    | _ => i

/-- Marks a node as changed now, as `touch` does. -/
def stampNow (fs : Files) (n : Nat) : Files :=
  fs.edit n id

/-- Whether the user may execute a node: a regular file whose execute bit is set for the
user. -/
def isExecutableNode (fs : Files) (n : Nat) : Bool :=
  match fs.get? n with
  | some i =>
    match i.node with
    | .file _ => i.allows 1
    | _ => false
  | none => false

/-- Whether the user may read (`4`), write (`2`) or search (`1`) a node. -/
def allows (fs : Files) (n : Nat) (bit : Nat) : Bool :=
  match fs.get? n with
  | some i => i.allows bit
  | none => false

end Files

end JobControl.Host
