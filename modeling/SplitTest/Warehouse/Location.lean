/-! Locations of database files.  A location is a path of names with slashes between them; the name
for a database in memory is no path. -/

namespace SplitTest.Warehouse.Location

/-- The name for a database in memory. -/
def inMemory : String := ":memory:"

/-- The names of a path; an empty name and a single point say nothing. -/
def names (path : String) : List String :=
  (path.splitOn "/").filter fun name => name != "" && name != "."

/-- The slashes that a path starts with: two stay two, any other number becomes one. -/
def root (path : String) : String :=
  match (path.toList.takeWhile (· == '/')).length with
  | 0 => ""
  | 2 => "//"
  | _ => "/"

def join (root : String) (names : List String) : String :=
  let path := root ++ "/".intercalate names
  if path.isEmpty then "." else path

/-- The path that is handed to the database. -/
def normal (path : String) : String :=
  if path == inMemory then path else join (root path) (names path)

/-- The folder a list of names leads to, where two points lead to the folder above. -/
def resolve (names : List String) : List String :=
  names.foldl (fun folder name =>
    if name == ".." && !folder.isEmpty && folder.getLast? != some ".." then folder.dropLast
    else folder ++ [name]) []

/-- The folders that have to exist for a database file, each as the names that lead to it, outermost
first. -/
def folders (path : String) : List (List String) :=
  if path == inMemory then []
  else
    let above := (names path).dropLast
    (List.range above.length).map fun i => resolve (above.take (i + 1))

end SplitTest.Warehouse.Location
