import SequenceChart.Text.Quoted

/-!
# Path names

A path name is read into the names it leads through.  Empty names and single dots lead nowhere and
are left out; double dots are kept, since where they lead depends on the files.  So several
spellings are one path name, and it is shown in the shortest of them.

A name may hold bytes that belong to no character, since names of files may.
-/

set_option autoImplicit false
namespace SequenceChart

/-- A path name. -/
structure PathName where
  /-- The slashes it begins with: none, one, or exactly two. -/
  root : String
  /-- The names it leads through. -/
  names : List RawText
  deriving DecidableEq, Repr

namespace PathName

/-- The path name that a text spells. -/
def ofText (s : RawText) : PathName where
  root :=
    match (s.takeWhile (· == .char '/')).length with
    | 0 => ""
    | 2 => "//"
    | _ => "/"
  names := (s.splitOn (.char '/')).filter fun name ↦ !name.isEmpty && name != [.char '.']

/-- The text of a path name. -/
def text (p : PathName) : RawText :=
  let s : RawText := p.root ++ [.char '/'].intercalate p.names
  if s.isEmpty then [.char '.'] else s

/-- Whether a path name holds the character that ends a path, so that it is no path. -/
def holdsNull (p : PathName) : Bool :=
  p.names.any (·.contains (.char '\x00'))

/-- The path name of the directory around. -/
def parent (p : PathName) : PathName :=
  { p with names := p.names.dropLast }

end PathName
end SequenceChart
