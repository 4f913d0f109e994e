import UnitReducer.Path
/-!
# File kinds

C and C++ headers and sources are told apart by the suffix of their name.
-/

namespace UnitReducer.Path

def isHeader (p : Path) : Bool :=
  [".h".toList, ".hpp".toList].contains p.suffix

def isSource (p : Path) : Bool :=
  [".c".toList, ".cpp".toList, ".cc".toList].contains p.suffix

def isPatched (p : Path) : Bool :=
  p.isHeader || p.isSource

end UnitReducer.Path
