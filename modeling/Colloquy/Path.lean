/-! Paths of files and folders, with a slash between their parts. -/
namespace Colloquy.Path

def join (folder name : String) : String :=
  if folder.isEmpty || folder.endsWith "/" then folder ++ name else folder ++ "/" ++ name

def step (above : List String) (part : String) : List String :=
  if part.isEmpty || part == "." then above
  else if part == ".." then above.drop 1
  else part :: above

-- The parts that lead to a path, from the last to the first.
def upward (path : String) : List String := (path.splitOn "/").foldl step []

-- Whether only a folder can have a path: one that ends in a slash or a dot.
def isOfFolder (path : String) : Bool :=
  (path.splitOn "/").getLast?.any fun part => part.isEmpty || part == "." || part == ".."

end Colloquy.Path
