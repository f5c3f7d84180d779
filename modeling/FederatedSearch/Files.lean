/-!
# Files

Paths are texts with slashes between their steps. A relative path of a configuration leads from
the directory of the configuration. A file tree says what a path leads to: it walks the steps
from its root, and nothing is known of what lies outside of it.
-/

namespace FederatedSearch

namespace Path

/-- Whether a path leads from the root of the file system. -/
def isAbsolute (path : String) : Bool :=
  path.toList.head? == some '/'

/-- The path that leads on from a directory, unless it is absolute. -/
def join (directory path : String) : String :=
  if isAbsolute path || directory = "" then path
  else if directory.toList.getLast? = some '/' then directory ++ path
  else directory ++ "/" ++ path

/-- The parts of a text between its slashes. -/
def splitSlashes : List Char → List (List Char)
  | [] => [[]]
  | c :: rest =>
    if c = '/' then [] :: splitSlashes rest
    else match splitSlashes rest with
      | step :: more => (c :: step) :: more
      | [] => [[c]]

/-- The steps of a path. -/
def steps (path : String) : List String :=
  (splitSlashes path.toList).map String.ofList

/-- Whether a step leads nowhere. -/
def isIdle (step : String) : Bool :=
  step = "" || step = "."

/-- Steps without the idle ones at their end. -/
def dropIdleEnd (steps : List String) : List String :=
  (steps.reverse.dropWhile isIdle).reverse

/-- The steps of the directory that holds what some steps lead to. -/
def parentSteps (steps : List String) : List String :=
  dropIdleEnd (dropIdleEnd steps).dropLast

/-- The path of the directory that holds what a path leads to. A dot at the start of the path
stays where it is. -/
def parent (path : String) : String :=
  match steps path with
  | "." :: rest =>
    if dropIdleEnd rest = [] then "" else "/".intercalate ("." :: parentSteps rest)
  | steps =>
    let directory := "/".intercalate (parentSteps steps)
    if isAbsolute path && directory = "" then "/" else directory

/-- A path without the idle steps at its ends. -/
def trimmed (path : String) : String :=
  "/".intercalate (dropIdleEnd ((steps path).dropWhile isIdle))

end Path

/-- What a path leads to. -/
inductive FileEntry
  | missing
  | directory
  | text (content : String)
  deriving DecidableEq, Repr, Inhabited

/-- What every path leads to. -/
abbrev Files := String → FileEntry

/-- The files below a directory, each by its steps from there. -/
structure FileTree where
  files : List (List String × String)
  deriving Inhabited

namespace FileTree

/-- A place in a tree, by the steps from the root in reverse order, or outside of the tree. -/
inductive Place
  | inside (steps : List String)
  | outside
  deriving DecidableEq, Repr

/-- The tree of some files, by their paths. -/
def ofList (files : List (String × String)) : FileTree :=
  ⟨files.map fun (path, content) => ((Path.steps path).filter (!Path.isIdle ·), content)⟩

/-- Whether there is a directory at some steps from the root. -/
def hasDirectory (tree : FileTree) (steps : List String) : Bool :=
  steps.isEmpty || tree.files.any fun file =>
    steps.isPrefixOf file.1 && steps.length < file.1.length

/-- What is at some steps from the root. -/
def entryAt (tree : FileTree) (steps : List String) : FileEntry :=
  if tree.hasDirectory steps then .directory
  else match tree.files.lookup steps with
    | some content => .text content
    | none => .missing

/-- The place that further steps lead to, if each of them starts in a directory. -/
def walk (tree : FileTree) : Place → List String → Option Place
  | place, [] => some place
  | .outside, step :: rest =>
    if Path.isIdle step || step = ".." then walk tree .outside rest else none
  | .inside done, step :: rest =>
    if !tree.hasDirectory done.reverse then none
    else if Path.isIdle step then walk tree (.inside done) rest
    else if step = ".." then walk tree (if done.isEmpty then .outside else .inside done.tail) rest
    else walk tree (.inside (step :: done)) rest

/-- What a path leads to, from the root of the tree. The empty path leads nowhere. -/
def entry (tree : FileTree) (path : String) : FileEntry :=
  if path = "" || Path.isAbsolute path then .missing
  else match tree.walk (.inside []) (Path.steps path) with
    | some (.inside done) => tree.entryAt done.reverse
    | some .outside => .directory
    | none => .missing

end FileTree

end FederatedSearch
