import IconCatalog.FileTree.Walk
import IconCatalog.Picture
set_option autoImplicit false

namespace IconCatalog

def Content.bytes : Content → Bytes
  | .plain bytes => bytes
  | .picture p => Png.encode p

/-- A tree and the working directory. An operation fails for what stands in the tree or for the form
of a path, and names the fault. What else a disk knows is outside: links, devices, permissions, and
errors of reading or writing a file that has been opened. -/
structure Files where
  tree : FileTree
  cwd : Place

/-- The longest path, in bytes. -/
def maxPath : Nat := 4095

namespace Files

def start (files : Files) (p : Path) : Place := if p.isAbsolute then .inTree [] else files.cwd

/-- What is wrong with a path before any of it is looked up. -/
def pathFault? (p : Path) : Option FileFault :=
  if p.bytes.contains 0 then some .zeroByte
  else if p.bytes = [] then some .notFound
  else if maxPath < p.bytes.length then some .nameTooLong
  else none

def locate (files : Files) (p : Path) : Except FileFault Place :=
  match pathFault? p with
  | some fault => .error fault
  | none => files.tree.lead (files.start p) p.names

/-- What stands at the end of a path. Before a slash at its end stands a directory. -/
def node? (files : Files) (p : Path) : Except FileFault Node :=
  match files.locate p with
  | .error fault => .error fault
  | .ok place =>
    match files.tree.nodeAt? place with
    | none => .error .notFound
    | some .directory => .ok .directory
    | some (.file content) =>
      if p.endsWithSlash then .error .notDirectory else .ok (.file content)

def found (files : Files) (p : Path) : Bool := (files.node? p).toBool

def isDirectory (files : Files) (p : Path) : Bool :=
  match files.node? p with
  | .ok .directory => true
  | _ => false

def read (files : Files) (p : Path) : Except FileFault Content :=
  match files.node? p with
  | .error fault => .error fault
  | .ok .directory => .error .isDirectory
  | .ok (.file content) => .ok content

/-- Where something new of a path would go. -/
inductive Entry
  /-- The path ends with the name of a directory that is there in any case. -/
  | standing
  | inside (dir : Location) (name : Name)
  /-- Into a directory that has been taken away, where nothing can be made. -/
  | nowhere

/-- The entry for the last name of a path, in the directory that the names before lead to. -/
def entry (files : Files) (p : Path) : Except FileFault Entry :=
  match pathFault? p with
  | some fault => .error fault
  | none =>
    match p.names.reverse with
    | [] => .ok .standing
    | last :: outer =>
      match (files.tree.lead (files.start p) outer.reverse).bind files.tree.enter with
      | .error fault => .error fault
      | .ok dir =>
        if last = Path.dot ∨ last = Path.dotDot then .ok .standing
        else
          match dir with
          | .inTree loc => .ok (.inside loc last)
          | .lost _ _ => .ok .nowhere

def put (files : Files) (name : Name) (dir : Location) (node : Node) : Files :=
  { files with tree := files.tree.put name dir node }

def createDirectory (files : Files) (p : Path) : Except FileFault Files :=
  match files.entry p with
  | .error fault => .error fault
  | .ok .standing => .error .alreadyExists
  | .ok .nowhere => .error .notFound
  | .ok (.inside dir name) =>
    if maxName < name.length then .error .nameTooLong
    else
      match files.tree.node? (name :: dir) with
      | some _ => .error .alreadyExists
      | none => .ok (files.put name dir .directory)

/-- Makes the first of some directories, each of which stands inside the next, together with those
around it that are missing. -/
def createNested (files : Files) : List Path → EStateM.Result FileFault Files Unit
  | [] => .error .notFound files
  | dir :: outer =>
    if dir.bytes = [] then .ok () files
    else
      match files.createDirectory dir with
      | .ok files => .ok () files
      | .error .notFound =>
        match files.createNested outer with
        | .error fault files => .error fault files
        | .ok () files =>
          match files.createDirectory dir with
          | .ok files => .ok () files
          | .error fault => if files.isDirectory dir then .ok () files else .error fault files
      | .error fault => if files.isDirectory dir then .ok () files else .error fault files

/-- Makes a directory and those around it, as far as they are missing. It is the only operation that
may have changed something when it fails. -/
def createDirectories (files : Files) (dir : Path) : EStateM.Result FileFault Files Unit :=
  files.createNested (dir :: dir.parents)

def write (files : Files) (p : Path) (content : Content) : Except FileFault Files :=
  match files.entry p with
  | .error fault => .error fault
  | .ok .standing => .error .isDirectory
  | .ok .nowhere => .error (if p.endsWithSlash then .isDirectory else .notFound)
  | .ok (.inside dir name) =>
    if p.endsWithSlash then .error .isDirectory
    else if maxName < name.length then .error .nameTooLong
    else
      match files.tree.node? (name :: dir) with
      | some .directory => .error .isDirectory
      | _ => .ok (files.put name dir (.file content))

def changeDirectory (files : Files) (p : Path) : Except FileFault Files :=
  ((files.locate p).bind files.tree.enter).map fun place => { files with cwd := place }

def remove (files : Files) (p : Path) : Except FileFault Files :=
  match files.locate p with
  | .error fault => .error fault
  | .ok (.lost _ _) => .error .notFound
  | .ok (.inTree []) => .error .isDirectory
  | .ok (.inTree (name :: dir)) =>
    .ok ⟨files.tree.remove name dir, files.cwd.without name dir⟩

end Files

end IconCatalog
