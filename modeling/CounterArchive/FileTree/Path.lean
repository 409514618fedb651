/-! Paths as texts. Names are separated by slashes, and a path that begins with one starts at the
root. -/
namespace CounterArchive.Path

def isAbsolute (path : String) : Bool := path.toList.head? = some '/'

/-- A path seen from another one. An absolute path is the same from everywhere. -/
def join (directory path : String) : String :=
  if isAbsolute path then path
  else if directory = "" ∨ directory.toList.getLast? = some '/' then directory ++ path
  else directory ++ "/" ++ path

def pieces : List Char → List (List Char)
  | [] => [[]]
  | c :: rest =>
    if c = '/' then [] :: pieces rest
    else
      match pieces rest with
      | [] => [[c]]
      | first :: more => (c :: first) :: more

/-- The names in a path, from the root on. Several slashes count as one. -/
def names (path : String) : List String :=
  ((pieces path.toList).filter (· ≠ [])).map String.ofList

def lastName (path : String) : String :=
  String.ofList (path.toList.reverse.takeWhile (· ≠ '/')).reverse

/-- The path without its last name, and without the slashes in front of that. -/
def directoryOf (path : String) : String :=
  let upToSlash := path.toList.reverse.dropWhile (· ≠ '/')
  let withoutSlashes := upToSlash.dropWhile (· = '/')
  String.ofList (if withoutSlashes = [] then upToSlash else withoutSlashes).reverse

end CounterArchive.Path
