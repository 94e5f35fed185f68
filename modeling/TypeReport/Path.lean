import TypeReport.Text.Search

/-! # Paths

A path is cut into segments at its separators.  The empty segment and `.` name
nothing; the other segments are the components of the path, and a path that
starts with a separator has the root before them.  `relativeTo base p` shows an
absolute path from the directory `base` on, when it lies below it.  What remains
of the path keeps its spelling, except for idle segments at its ends. -/

namespace TypeReport

/-- How paths are normalised before they are stored. -/
abbrev PathStyle := Text → Text

namespace Path

/-- The pieces of a path between its separators. -/
def segments (p : Text) : List Text := p.splitOn '/'

/-- Whether a segment names nothing: it is empty or a single dot. -/
def isIdle (segment : Text) : Bool := segment = [] || segment = ['.']

/-- The segments of a path that name something. -/
def components (p : Text) : List Text := (segments p).filter (!isIdle ·)

def isAbsolute (p : Text) : Bool := p.head? = some '/'

/-- The segments that follow the given components, skipping idle segments on the way. -/
def dropComponents : List Text → List Text → Option (List Text)
  | [], segments => some segments
  | _ :: _, [] => none
  | c :: cs, s :: segments =>
      if isIdle s then dropComponents (c :: cs) segments
      else if s = c then dropComponents cs segments
      else none

/-- Segments without the idle ones at the end. -/
def trimEndIdle (segments : List Text) : List Text :=
  (segments.reverse.dropWhile isIdle).reverse

/-- Segments without the idle ones at either end. -/
def trimIdle (segments : List Text) : List Text := trimEndIdle (segments.dropWhile isIdle)

/-- Segments with separators put between them. -/
def join (segments : List Text) : Text := ['/'].intercalate segments

/-- What remains of an absolute path below a base.  The empty base has no components, not even the
root, so below it lies the whole path, whose start then keeps its spelling; a base that is neither
empty nor absolute has nothing absolute below it. -/
def below? (base p : Text) : Option Text :=
  let inner := (segments p).tail
  if base = [] then some ('/' :: join (trimEndIdle inner))
  else if isAbsolute base then
    (dropComponents (components base) inner).map (join ∘ trimIdle)
  else none

/-- A path in full: a relative one starts at the base. -/
def resolve (base p : Text) : Text := if isAbsolute p then p else base ++ '/' :: p

/-- A path as seen from a base.  An absolute path that is not properly below the base stays as it
is, and a relative one loses one leading `./`. -/
def relativeTo (base : Text) : PathStyle := fun p =>
  if isAbsolute p then
    match below? base p with
    | none | some [] => p
    | some rest => rest
  else (p.after? "./".toList).getD p

example : relativeTo "/w/".toList "/w/./src//a.ml/".toList = "src//a.ml".toList := by decide

example : relativeTo "/w".toList "/wide/a.ml".toList = "/wide/a.ml".toList := by decide

example : relativeTo "/w".toList "/w/.".toList = "/w/.".toList := by decide

example : relativeTo "/w".toList "././a.ml".toList = "./a.ml".toList := by decide

end Path
end TypeReport
